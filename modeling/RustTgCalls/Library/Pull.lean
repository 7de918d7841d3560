namespace Pull

/-! Readers that are pulled item by item until they fail. -/

variable {Reader Item Error : Type _}
  {next : Reader → Except Error Item × Reader}

/-- Pulling the reader again and again gives the items in order, then the
error. -/
inductive Yields (next : Reader → Except Error Item × Reader) :
    Reader → List Item → Error → Prop
  | stop (failed : next reader = (.error error, left)) :
      Yields next reader [] error
  | item (pulled : next reader = (.ok item, left))
      (rest : Yields next left items error) :
      Yields next reader (item :: items) error

theorem Yields.of_next_eq {first second : Reader}
    (hnext : next first = next second)
    (hyields : Yields next second items error) :
    Yields next first items error := by
  cases hyields with
  | stop hfailed => exact .stop (hnext.trans hfailed)
  | item hpulled hrest => exact .item (hnext.trans hpulled) hrest

/-- A reader inside another one yields what it yields alone. -/
theorem Yields.embed {Outer : Type _} {outer : Outer → Except Error Item × Outer}
    (wrap : Reader → Outer) (hyields : Yields next reader items error)
    (hwrap : ∀ reader, outer (wrap reader) = ((next reader).1, wrap (next reader).2)) :
    Yields outer (wrap reader) items error := by
  induction hyields with
  | stop hfailed =>
      apply Yields.stop
      rw [hwrap, hfailed]
  | item hpulled _ ih =>
      refine .item ?_ ih
      rw [hwrap, hpulled]

/-- A reader that cannot give items for ever comes to an error. -/
theorem Yields.exists_of_wellFounded {shorter : Reader → Reader → Prop}
    (hwell : WellFounded shorter)
    (hitem : ∀ reader item left, next reader = (.ok item, left) → shorter left reader)
    (reader : Reader) : ∃ items error, Yields next reader items error := by
  induction reader using hwell.induction with
  | h reader ih =>
      cases hnext : next reader with
      | mk result left =>
          cases result with
          | error error => exact ⟨[], error, .stop hnext⟩
          | ok item =>
              obtain ⟨items, error, hrest⟩ := ih left (hitem reader item left hnext)
              exact ⟨item :: items, error, .item hnext hrest⟩

/-- The same with the reader the error leaves. -/
inductive Drains (next : Reader → Except Error Item × Reader) :
    Reader → List Item → Error → Reader → Prop
  | stop (failed : next reader = (.error error, left)) :
      Drains next reader [] error left
  | item (pulled : next reader = (.ok item, left))
      (rest : Drains next left items error last) :
      Drains next reader (item :: items) error last

theorem Drains.of_next_eq {first second : Reader}
    (hnext : next first = next second)
    (hdrains : Drains next second items error last) :
    Drains next first items error last := by
  cases hdrains with
  | stop hfailed => exact .stop (hnext.trans hfailed)
  | item hpulled hrest => exact .item (hnext.trans hpulled) hrest

theorem Drains.yields (hdrains : Drains next reader items error last) :
    Yields next reader items error := by
  induction hdrains with
  | stop hfailed => exact .stop hfailed
  | item hpulled _ ih => exact .item hpulled ih

/-- Pulling the reader gives these items in order and leaves another one. -/
inductive Gives (next : Reader → Except Error Item × Reader) :
    Reader → List Item → Reader → Prop
  | nothing (reader : Reader) : Gives next reader [] reader
  | item (pulled : next reader = (.ok item, left))
      (rest : Gives next left items last) : Gives next reader (item :: items) last

theorem Gives.concat (hgives : Gives next reader items left)
    (hpulled : next left = (.ok newest, last)) :
    Gives next reader (items ++ [newest]) last := by
  induction hgives with
  | nothing reader => exact .item hpulled (.nothing last)
  | item hhead _ ih => exact .item hhead (ih hpulled)

theorem Gives.forall {property : Item → Prop}
    (hitem : ∀ reader item left, next reader = (.ok item, left) → property item)
    (hgives : Gives next reader items left) : ∀ item ∈ items, property item := by
  induction hgives with
  | nothing => simp
  | item hpulled _ ih =>
      intro item hmem
      obtain rfl | hrest := List.mem_cons.mp hmem
      · exact hitem _ _ _ hpulled
      · exact ih item hrest

theorem Yields.gives (hyields : Yields next reader items error) :
    ∃ left, Gives next reader items left := by
  induction hyields with
  | @stop reader _ _ _ => exact ⟨reader, .nothing reader⟩
  | item hpulled _ ih =>
      obtain ⟨left, hgives⟩ := ih
      exact ⟨left, .item hpulled hgives⟩

/-- What has been pulled is the beginning of what there is to pull. -/
theorem Yields.prefix_of_gives (hyields : Yields next reader items error)
    (hgives : Gives next reader pulled left) : pulled <+: items := by
  induction hgives generalizing items with
  | nothing => exact List.nil_prefix
  | item hpulled _ ih =>
      cases hyields with
      | stop hfailed =>
          rw [hpulled] at hfailed
          cases hfailed
      | item hsame hrest =>
          rw [hpulled] at hsame
          cases hsame
          exact List.cons_prefix_cons.mpr ⟨rfl, ih hrest⟩

end Pull
