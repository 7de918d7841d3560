import RustTgCalls.Library.Transition

namespace Transition

/-! Infinite schedules, in which what is needed happens again and again. -/

variable {State Action : Type _} {next : State → Action → State}

/-- The states of a run under an infinite schedule. -/
def trace (next : State → Action → State) (state : State)
    (schedule : Nat → Action) : Nat → State
  | 0 => state
  | n + 1 => next (trace next state schedule n) (schedule n)

def Fair (needed : Action → Prop) (schedule : Nat → Action) : Prop :=
  ∀ action, needed action → ∀ n, ∃ later, n ≤ later ∧ schedule later = action

theorem trace_invariant {invariant : State → Prop}
    {condition : State → Action → Prop} {state : State} {schedule : Nat → Action}
    (hstep : ∀ state action, invariant state → condition state action →
      invariant (next state action))
    (hstart : invariant state)
    (hcondition : ∀ n, condition (trace next state schedule n) (schedule n))
    (n : Nat) : invariant (trace next state schedule n) := by
  induction n with
  | zero => exact hstart
  | succ n ih => exact hstep _ _ ih (hcondition n)

/-- Nothing happened, or the measure fell in between. -/
theorem still_or_fallen {measure : State → Nat} {state : State}
    {schedule : Nat → Action} {n : Nat}
    (hstep : ∀ m, n ≤ m →
      trace next state schedule (m + 1) = trace next state schedule m ∨
        measure (trace next state schedule (m + 1)) <
          measure (trace next state schedule m))
    (k : Nat) :
    trace next state schedule (n + k) = trace next state schedule n ∨
      ∃ m, n ≤ m ∧ measure (trace next state schedule m) <
        measure (trace next state schedule n) := by
  induction k with
  | zero => exact .inl rfl
  | succ k ih =>
      obtain hstill | hfallen := ih
      · obtain hsame | hless := hstep (n + k) (Nat.le_add_right n k)
        · exact .inl (hsame.trans hstill)
        · rw [hstill] at hless
          exact .inr ⟨n + k + 1, by omega, hless⟩
      · exact .inr hfallen

/-- Where every step either lowers a measure or changes nothing, and short of the
goal some needed action would lower it, a fair schedule comes to the goal. -/
theorem Fair.eventually {needed : Action → Prop} {measure : State → Nat}
    {goal : State → Prop} {state : State} {schedule : Nat → Action}
    (hfair : Fair needed schedule) (start : Nat)
    (hstep : ∀ m, start ≤ m →
      trace next state schedule (m + 1) = trace next state schedule m ∨
        measure (trace next state schedule (m + 1)) <
          measure (trace next state schedule m))
    (hprogress : ∀ m, start ≤ m → ¬ goal (trace next state schedule m) →
      ∃ action, needed action ∧
        measure (next (trace next state schedule m) action) <
          measure (trace next state schedule m)) :
    ∃ n, start ≤ n ∧ goal (trace next state schedule n) := by
  generalize hmeasure : measure (trace next state schedule start) = bound
  induction bound using Nat.strongRecOn generalizing start with
  | ind bound ih =>
      by_cases hgoal : goal (trace next state schedule start)
      · exact ⟨start, Nat.le_refl _, hgoal⟩
      · have hlower (m : Nat) (hm : start ≤ m)
            (hless : measure (trace next state schedule m) <
              measure (trace next state schedule start)) :
            ∃ n, start ≤ n ∧ goal (trace next state schedule n) := by
          obtain ⟨n, hn, hreached⟩ := ih _ (hmeasure ▸ hless) m
            (fun k hk => hstep k (Nat.le_trans hm hk))
            (fun k hk => hprogress k (Nat.le_trans hm hk)) rfl
          exact ⟨n, Nat.le_trans hm hn, hreached⟩
        obtain ⟨action, hneeded, hless⟩ := hprogress start (Nat.le_refl _) hgoal
        obtain ⟨later, hlater, hscheduled⟩ := hfair action hneeded start
        obtain ⟨k, rfl⟩ := Nat.exists_eq_add_of_le hlater
        obtain hstill | ⟨m, hm, hfallen⟩ := still_or_fallen hstep k
        · apply hlower (start + k + 1) (by omega)
          rw [trace, hscheduled, hstill]
          exact hless
        · exact hlower m hm hfallen

/-- Actions of the same label are the turns of one task, whatever they read. -/
def FairBy {Label : Type _} (label : Action → Label) (needed : Label → Prop)
    (schedule : Nat → Action) : Prop :=
  ∀ turn, needed turn → ∀ n, ∃ later, n ≤ later ∧ label (schedule later) = turn

/-- Where a turn that would help is helpful until the measure falls, and lowers it
when it is taken, a fair schedule of the helpful turns comes to the goal. -/
theorem FairBy.eventually_of_helpful {Label Measure : Type _} {label : Action → Label}
    {needed : Label → Prop} {less : Measure → Measure → Prop} {measure : State → Measure}
    {helpful : State → Label} {goal : State → Prop} {state : State}
    {schedule : Nat → Action} (hfair : FairBy label needed schedule)
    (hwell : WellFounded less) (start : Nat)
    (hneeded : ∀ state, needed (helpful state))
    (hkeep : ∀ m, start ≤ m → ¬ goal (trace next state schedule m) →
      goal (trace next state schedule (m + 1)) ∨
        less (measure (trace next state schedule (m + 1)))
          (measure (trace next state schedule m)) ∨
        measure (trace next state schedule (m + 1)) =
            measure (trace next state schedule m) ∧
          helpful (trace next state schedule (m + 1)) =
            helpful (trace next state schedule m))
    (hhelps : ∀ m, start ≤ m → ¬ goal (trace next state schedule m) →
      label (schedule m) = helpful (trace next state schedule m) →
      goal (trace next state schedule (m + 1)) ∨
        less (measure (trace next state schedule (m + 1)))
          (measure (trace next state schedule m))) :
    ∃ n, start ≤ n ∧ goal (trace next state schedule n) := by
  generalize hmeasure : measure (trace next state schedule start) = bound
  induction bound using hwell.induction generalizing start with
  | h bound ih =>
      have hlower (m : Nat) (hm : start ≤ m)
          (hless : less (measure (trace next state schedule m))
            (measure (trace next state schedule start))) :
          ∃ n, start ≤ n ∧ goal (trace next state schedule n) := by
        obtain ⟨n, hn, hreached⟩ := ih _ (hmeasure ▸ hless) m
          (fun k hk => hkeep k (Nat.le_trans hm hk))
          (fun k hk => hhelps k (Nat.le_trans hm hk)) rfl
        exact ⟨n, Nat.le_trans hm hn, hreached⟩
      obtain ⟨later, hlater, hscheduled⟩ :=
        hfair _ (hneeded (trace next state schedule start)) start
      obtain ⟨k, rfl⟩ := Nat.exists_eq_add_of_le hlater
      -- the helpful action stays the same up to its turn, or there was progress
      have hwait (j : Nat) :
          (∃ n, start ≤ n ∧ goal (trace next state schedule n)) ∨
            measure (trace next state schedule (start + j)) =
                measure (trace next state schedule start) ∧
              helpful (trace next state schedule (start + j)) =
                helpful (trace next state schedule start) := by
        induction j with
        | zero => exact .inr ⟨rfl, rfl⟩
        | succ j hj =>
            obtain hreached | ⟨hsame, hhelpful⟩ := hj
            · exact .inl hreached
            · by_cases hgoal : goal (trace next state schedule (start + j))
              · exact .inl ⟨start + j, Nat.le_add_right _ _, hgoal⟩
              · obtain hreached | hless | ⟨hsame', hhelpful'⟩ :=
                  hkeep (start + j) (Nat.le_add_right _ _) hgoal
                · exact .inl ⟨start + j + 1, by omega, hreached⟩
                · exact .inl (hlower (start + j + 1) (by omega) (hsame ▸ hless))
                · exact .inr ⟨hsame'.trans hsame, hhelpful'.trans hhelpful⟩
      obtain hreached | ⟨hsame, hhelpful⟩ := hwait k
      · exact hreached
      · by_cases hgoal : goal (trace next state schedule (start + k))
        · exact ⟨start + k, hlater, hgoal⟩
        · obtain hreached | hless :=
            hhelps (start + k) hlater hgoal (hscheduled.trans hhelpful.symm)
          · exact ⟨start + k + 1, by omega, hreached⟩
          · exact hlower (start + k + 1) (by omega) (hsame ▸ hless)

/-- The case of the actions that are turns themselves. -/
theorem Fair.eventually_of_helpful {Measure : Type _} {needed : Action → Prop}
    {less : Measure → Measure → Prop} {measure : State → Measure}
    {helpful : State → Action} {goal : State → Prop} {state : State}
    {schedule : Nat → Action} (hfair : Fair needed schedule)
    (hwell : WellFounded less) (start : Nat)
    (hneeded : ∀ state, needed (helpful state))
    (hkeep : ∀ m, start ≤ m → ¬ goal (trace next state schedule m) →
      goal (trace next state schedule (m + 1)) ∨
        less (measure (trace next state schedule (m + 1)))
          (measure (trace next state schedule m)) ∨
        measure (trace next state schedule (m + 1)) =
            measure (trace next state schedule m) ∧
          helpful (trace next state schedule (m + 1)) =
            helpful (trace next state schedule m))
    (hhelps : ∀ m, start ≤ m → ¬ goal (trace next state schedule m) →
      schedule m = helpful (trace next state schedule m) →
      goal (trace next state schedule (m + 1)) ∨
        less (measure (trace next state schedule (m + 1)))
          (measure (trace next state schedule m))) :
    ∃ n, start ≤ n ∧ goal (trace next state schedule n) := by
  have hturns : FairBy id needed schedule := hfair
  exact hturns.eventually_of_helpful hwell start hneeded hkeep hhelps

/-- The schedule that takes some actions first. -/
def upon (first : List Action) (rest : Nat → Action) (n : Nat) : Action :=
  first[n]?.getD (rest n)

theorem trace_upon (state : State) (first : List Action) (rest : Nat → Action) :
    trace next state (upon first rest) first.length = after next state first := by
  have hpart (n : Nat) (hn : n ≤ first.length) :
      trace next state (upon first rest) n = after next state (first.take n) := by
    induction n with
    | zero => rfl
    | succ n ih =>
        have hlt : n < first.length := hn
        have hnow : upon first rest n = first[n] := by simp [upon, hlt]
        rw [trace, ih (Nat.le_of_lt hlt), hnow, List.take_succ_eq_append_getElem hlt,
          after_append]
        rfl
  rw [hpart first.length (Nat.le_refl _), List.take_length]

theorem Fair.upon {needed : Action → Prop} {rest : Nat → Action}
    (hfair : Fair needed rest) (first : List Action) :
    Fair needed (upon first rest) := by
  intro action hneeded n
  obtain ⟨later, hlater, hscheduled⟩ := hfair action hneeded (max n first.length)
  refine ⟨later, Nat.le_trans (Nat.le_max_left _ _) hlater, ?_⟩
  have hpast : first.length ≤ later := Nat.le_trans (Nat.le_max_right _ _) hlater
  simp [Transition.upon, List.getElem?_eq_none hpast, hscheduled]

end Transition
