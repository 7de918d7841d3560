import RustTgCalls.Media.Playing

namespace RustTgCalls.Media

open Pull

/-! What a streamer sends comes from the start of its source, which may go on for
ever. -/

namespace Playing

variable {Reader : Type}
  {nextSample : Reader → Except RustTgCallsError Sample × Reader}
  {source : Reader} {playing : Playing Reader}

/-- What was sent and what is on its way is what the source has given, with at most
one error behind it, and the reader task goes on from there. -/
structure Laden (items : List Sample) (left : Reader) (playing : Playing Reader) :
    Prop where
  flow : ∃ failed : Option RustTgCallsError,
    playing.sent.map .ok ++ playing.leg.pipe =
        items.map .ok ++ failed.toList.map .error ∧
      (playing.leg.reading = true → failed = none)
  left : playing.leg.reading = true → left = playing.leg.reader

structure Fed (nextSample : Reader → Except RustTgCallsError Sample × Reader)
    (source : Reader) (playing : Playing Reader) : Prop where
  muted : playing.leg.muted = false
  emptied : playing.leg.alive = true → playing.leg.Emptied
  fed : ∃ items left, Gives nextSample source items left ∧
    playing.sent <+: items ∧ (playing.leg.alive = true → Laden items left playing)

theorem fed_new (source : Reader) (syncBarrier onEnd : Bool) :
    Fed nextSample source (new source syncBarrier onEnd) where
  muted := rfl
  emptied := fun _ _ => rfl
  fed := ⟨[], source, .nothing source, List.prefix_refl _,
    fun _ => ⟨⟨none, rfl, fun _ => rfl⟩, fun _ => rfl⟩⟩

/-- A step that moves nothing. -/
theorem Fed.still (hfed : Fed nextSample source playing) {other : Playing Reader}
    (hsent : other.sent = playing.sent) (hmuted : other.leg.muted = playing.leg.muted)
    (hemptied : playing.leg.Emptied → other.leg.Emptied)
    (hpipe : other.leg.pipe = playing.leg.pipe)
    (halive : other.leg.alive = true → playing.leg.alive = true)
    (hreading : other.leg.reading = true →
      playing.leg.reading = true ∧ other.leg.reader = playing.leg.reader) :
    Fed nextSample source other := by
  obtain ⟨hunmuted, hemptied', items, left, hgives, hprefix, hladen⟩ := hfed
  refine ⟨hmuted.trans hunmuted, fun hlive => hemptied (hemptied' (halive hlive)),
    items, left, hgives, hsent ▸ hprefix, fun hlive => ?_⟩
  obtain ⟨⟨failed, hflow, hnone⟩, hleft⟩ := hladen (halive hlive)
  refine ⟨⟨failed, ?_, fun hread => hnone (hreading hread).1⟩, fun hread => ?_⟩
  · rw [hsent, hpipe]
    exact hflow
  · obtain ⟨hread, hreader⟩ := hreading hread
    exact (hleft hread).trans hreader.symm

theorem prefix_of_given {first items : List Sample}
    {rest : List (Except RustTgCallsError Sample)} {failed : Option RustTgCallsError}
    (hsame : first.map .ok ++ rest = items.map .ok ++ failed.toList.map .error) :
    first <+: items := by
  induction first generalizing items with
  | nil => exact List.nil_prefix
  | cons sample first ih =>
      cases items with
      | nil => cases failed <;> simp at hsame
      | cons item items =>
          simp only [List.map_cons, List.cons_append, List.cons.injEq,
            Except.ok.injEq] at hsame
          obtain ⟨rfl, htail⟩ := hsame
          exact List.cons_prefix_cons.mpr ⟨rfl, ih htail⟩

theorem Laden.passing_sent {items : List Sample} {left : Reader}
    (hladen : Laden items left playing) :
    playing.sent ++ (passing playing.leg).toList <+: items := by
  obtain ⟨⟨failed, hflow, _⟩, _⟩ := hladen
  obtain hnone | hheld := passing_held playing.leg
  · rw [hnone, List.append_nil]
    exact prefix_of_given hflow
  · rw [hheld]
    simp only [Leg.pipe] at hflow
    rw [← List.append_assoc, ← List.map_append] at hflow
    exact prefix_of_given hflow

theorem fed_pacing (hfed : Fed nextSample source playing) (input : PacingInput) :
    Fed nextSample source (playing.pacing input) := by
  obtain ⟨hmuted, hemptied, items, left, hgives, hprefix, hladen⟩ := hfed
  have hsame := playing.sameReader_pacingLeg input
  have hreading : (playing.pacingLeg input).reading = playing.leg.reading := by
    simp [Leg.reading, hsame.readerAt]
  have hsent : (playing.pacing input).sent <+: items := by
    cases halive : playing.leg.alive with
    | true => exact (hladen halive).passing_sent
    | false => simpa [Playing.pacing, passing_of_not_alive halive] using hprefix
  refine ⟨hsame.muted.trans hmuted, ?_, items, left, hgives, hsent, ?_⟩
  · intro hlive
    exact (pipe_pacingLeg hmuted (hemptied (alive_pacingLeg hlive)) hlive).2
  · intro hlive
    have halive := alive_pacingLeg hlive
    obtain ⟨hpipe, _⟩ := pipe_pacingLeg hmuted (hemptied halive) hlive
    obtain ⟨⟨failed, hflow, hnone⟩, hleft⟩ := hladen halive
    refine ⟨⟨failed, ?_, ?_⟩, ?_⟩
    · rw [← hflow, hpipe]
      simp [Playing.pacing]
    · simpa only [Playing.pacing, hreading] using hnone
    · simpa only [Playing.pacing, hreading, hsame.reader] using hleft

theorem fed_freed (hfed : Fed nextSample source playing) :
    Fed nextSample source { playing with leg := playing.leg.release } := by
  unfold Leg.release
  split
  next sample hat =>
    refine hfed.still rfl rfl ?_ ?_ ?_ fun hread => ⟨hread, rfl⟩
    · intro hemptied _
      exact hemptied (by simp [Leg.loaded, hat])
    · simp [Leg.pipe, Leg.held, Leg.sending, hat]
    · simp [Leg.alive, hat]
  next => exact hfed

/-- A result that has been read is behind what is on its way. -/
theorem fed_read (hfed : Fed nextSample source playing)
    (hat : playing.leg.readerAt = .nextSample) :
    Fed nextSample source { playing with
      leg := playing.leg.readerStep nextSample false } := by
  obtain ⟨hmuted, hemptied, items, left, hgives, hprefix, hladen⟩ := hfed
  have hreading : playing.leg.reading = true := by simp [Leg.reading, hat]
  have hleg := Leg.readerStep_nextSample nextSample hat
  rw [hleg]
  cases hresult : nextSample playing.leg.reader with
  | mk result last =>
      cases halive : playing.leg.alive with
      | false =>
          refine ⟨hmuted, ?_, items, left, hgives, hprefix, ?_⟩
          · intro hlive
            exact absurd (halive.symm.trans hlive) (by simp)
          · intro hlive
            exact absurd (halive.symm.trans hlive) (by simp)
      | true =>
          obtain ⟨⟨failed, hflow, hnone⟩, hleft⟩ := hladen halive
          obtain rfl := hnone hreading
          obtain rfl := hleft hreading
          cases result with
          | ok sample =>
              refine ⟨hmuted, fun _ => hemptied halive, items ++ [sample], last,
                hgives.concat hresult, hprefix.trans (List.prefix_append _ _),
                fun _ => ⟨⟨none, ?_, fun _ => rfl⟩, fun _ => rfl⟩⟩
              have hpipe : playing.leg.pipe = playing.leg.held.map .ok ++
                  (playing.leg.nextSampleRes.toList ++ playing.leg.channel) := by
                simp [Leg.pipe, Leg.sending, hat]
              rw [hpipe] at hflow
              have hmore := congrArg (· ++ [Except.ok sample]) hflow
              simpa [Leg.pipe, Leg.held, Leg.sending] using hmore
          | error error =>
              refine ⟨hmuted, fun _ => hemptied halive, items, playing.leg.reader,
                hgives, hprefix, fun _ => ⟨⟨some error, ?_, ?_⟩, ?_⟩⟩
              · have hpipe : playing.leg.pipe = playing.leg.held.map .ok ++
                    (playing.leg.nextSampleRes.toList ++ playing.leg.channel) := by
                  simp [Leg.pipe, Leg.sending, hat]
                rw [hpipe] at hflow
                have hmore := congrArg (· ++ [Except.error error]) hflow
                simpa [Leg.pipe, Leg.held, Leg.sending] using hmore
              · simp [Leg.reading]
              · simp [Leg.reading]

/-- A read that stalls is an error like another. -/
theorem fed_stall (hfed : Fed nextSample source playing)
    (hat : playing.leg.readerAt = .nextSample) :
    Fed nextSample source { playing with
      leg := playing.leg.readerStep nextSample true } := by
  obtain ⟨hmuted, hemptied, items, left, hgives, hprefix, hladen⟩ := hfed
  have hleg : playing.leg.readerStep nextSample true =
      { playing.leg with readerAt := .send Leg.stallResult } := by
    simp [Leg.readerStep, hat]
  rw [hleg]
  refine ⟨hmuted, hemptied, items, left, hgives, hprefix, fun hlive => ?_⟩
  obtain ⟨⟨failed, hflow, hnone⟩, _⟩ := hladen hlive
  obtain rfl := hnone (by simp [Leg.reading, hat])
  refine ⟨⟨some (.internal "streamer read timed out after 30s"), ?_, ?_⟩, ?_⟩
  · have hpipe : playing.leg.pipe = playing.leg.held.map .ok ++
        (playing.leg.nextSampleRes.toList ++ playing.leg.channel) := by
      simp [Leg.pipe, Leg.sending, hat]
    rw [hpipe] at hflow
    have hmore := congrArg (· ++ [Leg.stallResult]) hflow
    simpa [Leg.pipe, Leg.held, Leg.sending, Leg.stallResult] using hmore
  · simp [Leg.reading, Leg.stallResult]
  · simp [Leg.reading, Leg.stallResult]

theorem fed_send (hfed : Fed nextSample source playing) (stalled : Bool)
    (hat : playing.leg.readerAt = .send res) :
    Fed nextSample source { playing with
      leg := playing.leg.readerStep nextSample stalled } := by
  simp only [Leg.readerStep, hat]
  unfold Leg.send
  split
  next hended =>
    obtain ⟨hmuted, _, items, left, hgives, hprefix, _⟩ := hfed
    have hdead : playing.leg.alive = false := by simp [Leg.alive, hended]
    refine ⟨hmuted, ?_, items, left, hgives, hprefix, ?_⟩
    · intro hlive
      exact absurd (hdead.symm.trans hlive) (by simp)
    · intro hlive
      exact absurd (hdead.symm.trans hlive) (by simp)
  next =>
    split
    · refine hfed.still rfl rfl id ?_ id ?_
      · cases res <;> simp [Leg.pipe, Leg.held, Leg.sending, hat]
      · cases res <;> simp [Leg.reading, hat]
    · exact hfed

theorem fed_reader (hfed : Fed nextSample source playing) (stalled : Bool) :
    Fed nextSample source { playing with
      leg := playing.leg.readerStep nextSample stalled } := by
  cases hat : playing.leg.readerAt with
  | send res => exact fed_send hfed stalled hat
  | nextSample =>
      cases stalled with
      | false => exact fed_read hfed hat
      | true => exact fed_stall hfed hat
  | ended => simpa [Leg.readerStep, hat] using hfed
  | whileRunning | whilePaused | pausedRunning | notified | ifRunning =>
      have hquiet : playing.leg.sending = [] := by simp [Leg.sending, hat]
      have hreading : playing.leg.reading = true := by simp [Leg.reading, hat]
      simp only [Leg.readerStep, hat]
      refine hfed.still rfl rfl id ?_ id fun _ => ⟨hreading, rfl⟩
      refine Leg.pipe_congr rfl rfl ?_
      rw [hquiet]
      cases playing.leg.running <;> cases playing.leg.paused <;> rfl

end Playing

end RustTgCalls.Media
