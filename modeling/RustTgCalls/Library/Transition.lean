import Mathlib.Data.List.Basic

namespace Transition

/-! Runs of a deterministic update function under a schedule of actions.  All
nondeterminism of a modelled system sits in the choice of the next action. -/

variable {State Action : Type _} {next : State → Action → State}

def after (next : State → Action → State) (state : State)
    (actions : List Action) : State :=
  actions.foldl next state

@[simp] theorem after_nil (state : State) : after next state [] = state := rfl

@[simp] theorem after_cons (state : State) (action : Action)
    (rest : List Action) :
    after next state (action :: rest) = after next (next state action) rest :=
  rfl

@[simp] theorem after_append (state : State) (first second : List Action) :
    after next state (first ++ second) =
      after next (after next state first) second := by
  simp [after]

/-- Every action of the schedule meets the condition in the state it is
performed in. -/
def Along (next : State → Action → State) (condition : State → Action → Prop) :
    State → List Action → Prop
  | _, [] => True
  | state, action :: rest =>
      condition state action ∧ Along next condition (next state action) rest

/-- The property holds now and in every state the schedule passes through. -/
def Always (next : State → Action → State) (property : State → Prop) :
    State → List Action → Prop
  | state, [] => property state
  | state, action :: rest =>
      property state ∧ Always next property (next state action) rest

section Along

variable {condition : State → Action → Prop} {state : State}

instance Along.decidable [∀ state action, Decidable (condition state action)] :
    (state : State) → (actions : List Action) →
      Decidable (Along next condition state actions)
  | _, [] => .isTrue trivial
  | state, action :: rest =>
      @instDecidableAnd _ _ _ (Along.decidable (next state action) rest)

@[simp] theorem along_nil : Along next condition state [] := trivial

@[simp] theorem along_cons :
    Along next condition state (action :: rest) ↔
      condition state action ∧
        Along next condition (next state action) rest :=
  Iff.rfl

theorem along_true : Along next (fun _ _ => True) state actions := by
  induction actions generalizing state with
  | nil => trivial
  | cons action rest ih => exact ⟨trivial, ih⟩

theorem along_append :
    Along next condition state (first ++ second) ↔
      Along next condition state first ∧
        Along next condition (after next state first) second := by
  induction first generalizing state with
  | nil => simp
  | cons action rest ih => simp only [List.cons_append, along_cons, after_cons, ih, and_assoc]

theorem Along.mono {weaker : State → Action → Prop}
    (himp : ∀ state action, condition state action → weaker state action)
    (halong : Along next condition state actions) :
    Along next weaker state actions := by
  induction actions generalizing state with
  | nil => trivial
  | cons action rest ih => exact ⟨himp _ _ halong.1, ih halong.2⟩

/-- Conditions that agree in every state hold along the same schedules. -/
theorem along_congr {other : State → Action → Prop}
    (hagree : ∀ state action, condition state action ↔ other state action) :
    Along next condition state actions ↔ Along next other state actions := by
  constructor
  · apply Along.mono
    exact fun state action => (hagree state action).mp
  · apply Along.mono
    exact fun state action => (hagree state action).mpr

theorem along_and {other : State → Action → Prop} :
    Along next (fun state action => condition state action ∧ other state action)
        state actions ↔
      Along next condition state actions ∧ Along next other state actions := by
  induction actions generalizing state with
  | nil => simp
  | cons action rest ih =>
      simp only [along_cons, ih]
      constructor
      · rintro ⟨⟨hcondition, hother⟩, hconditions, hothers⟩
        exact ⟨⟨hcondition, hconditions⟩, hother, hothers⟩
      · rintro ⟨⟨hcondition, hconditions⟩, hother, hothers⟩
        exact ⟨⟨hcondition, hother⟩, hconditions, hothers⟩

/-- The invariant rule: what the start satisfies and every conforming action
preserves holds after a conforming schedule. -/
theorem Along.invariant {invariant : State → Prop}
    (hstep : ∀ state action, invariant state → condition state action →
      invariant (next state action))
    (hstart : invariant state) (halong : Along next condition state actions) :
    invariant (after next state actions) := by
  induction actions generalizing state with
  | nil => exact hstart
  | cons action rest ih =>
      exact ih (hstep state action hstart halong.1) halong.2

/-- Two conditions that agree in every state of the invariant hold along the
same schedules. -/
theorem along_congr_of {invariant : State → Prop}
    {assumption condition other : State → Action → Prop}
    (hkeep : ∀ state action, invariant state → assumption state action →
      invariant (next state action))
    (hagree : ∀ state action, invariant state → assumption state action →
      (condition state action ↔ other state action))
    (hstart : invariant state)
    (hassumed : Along next assumption state actions) :
    Along next condition state actions ↔ Along next other state actions := by
  induction actions generalizing state with
  | nil => exact Iff.rfl
  | cons action rest ih =>
      obtain ⟨hhead, htail⟩ := hassumed
      have hnext := hkeep state action hstart hhead
      simp only [along_cons, hagree state action hstart hhead, ih hnext htail]

/-- Where a nonconforming action does damage that no action repairs, a schedule
that ends undamaged conforms. -/
theorem along_of_undamaged_of {invariant : State → Prop}
    {condition : State → Action → Prop} {damaged : State → Prop}
    (hkeep : ∀ state action, invariant state → invariant (next state action))
    (hdamage : ∀ state action, invariant state → ¬ condition state action →
      damaged (next state action))
    (hlasts : ∀ state action, invariant state → damaged state →
      damaged (next state action))
    (hstart : invariant state) (hend : ¬ damaged (after next state actions)) :
    Along next condition state actions := by
  induction actions generalizing state with
  | nil => trivial
  | cons action rest ih =>
      have hnext := hkeep state action hstart
      have hundamaged : ¬ damaged (next state action) := by
        intro hnow
        have hrest : Along next (fun _ _ => True) (next state action) rest :=
          along_true
        have hboth (state : State) (action : Action)
            (hstate : invariant state ∧ damaged state) (_ : True) :
            invariant (next state action) ∧ damaged (next state action) :=
          ⟨hkeep state action hstate.1, hlasts state action hstate.1 hstate.2⟩
        exact hend (hrest.invariant hboth ⟨hnext, hnow⟩).2
      refine ⟨?_, ih hnext hend⟩
      by_contra hcondition
      exact hundamaged (hdamage state action hstart hcondition)

theorem along_of_undamaged {condition : State → Action → Prop}
    {damaged : State → Prop}
    (hdamage : ∀ state action, ¬ condition state action →
      damaged (next state action))
    (hlasts : ∀ state action, damaged state → damaged (next state action))
    (hend : ¬ damaged (after next state actions)) :
    Along next condition state actions := by
  have htrue (state : State) (action : Action) : True → True := id
  exact along_of_undamaged_of htrue
    (fun state action _ => hdamage state action)
    (fun state action _ => hlasts state action) trivial hend

end Along

section Always

variable {property : State → Prop} {state : State}

instance Always.decidable [DecidablePred property] :
    (state : State) → (actions : List Action) →
      Decidable (Always next property state actions)
  | state, [] => inferInstanceAs (Decidable (property state))
  | state, action :: rest =>
      @instDecidableAnd _ _ _ (Always.decidable (next state action) rest)

@[simp] theorem always_nil : Always next property state [] ↔ property state :=
  Iff.rfl

@[simp] theorem always_cons :
    Always next property state (action :: rest) ↔
      property state ∧ Always next property (next state action) rest :=
  Iff.rfl

theorem Always.head (halways : Always next property state actions) :
    property state := by
  cases actions with
  | nil => exact halways
  | cons action rest => exact halways.1

theorem Always.mono {weaker : State → Prop}
    (himp : ∀ state, property state → weaker state)
    (halways : Always next property state actions) :
    Always next weaker state actions := by
  induction actions generalizing state with
  | nil => exact himp _ halways
  | cons action rest ih => exact ⟨himp _ halways.1, ih halways.2⟩

/-- `Always` speaks of every prefix of the schedule. -/
theorem always_iff_prefixes :
    Always next property state actions ↔
      ∀ first, first <+: actions → property (after next state first) := by
  induction actions generalizing state with
  | nil => simp [List.prefix_nil]
  | cons action rest ih =>
      simp only [always_cons, ih, List.prefix_cons_iff]
      constructor
      · rintro ⟨hhead, htail⟩ first (rfl | ⟨tail, rfl, hprefix⟩)
        · exact hhead
        · exact htail tail hprefix
      · intro hall
        exact ⟨hall [] (.inl rfl), fun first hprefix =>
          hall (action :: first) (.inr ⟨first, rfl, hprefix⟩)⟩

theorem Always.after (halways : Always next property state actions) :
    property (after next state actions) :=
  always_iff_prefixes.mp halways actions (List.prefix_refl actions)

theorem Along.always {condition : State → Action → Prop}
    (hstep : ∀ state action, property state → condition state action →
      property (next state action))
    (hstart : property state) (halong : Along next condition state actions) :
    Always next property state actions := by
  induction actions generalizing state with
  | nil => exact hstart
  | cons action rest ih =>
      exact ⟨hstart, ih (hstep state action hstart halong.1) halong.2⟩

theorem Always.and {other : State → Prop}
    (halways : Always next property state actions)
    (hother : Always next other state actions) :
    Always next (fun state => property state ∧ other state) state actions := by
  induction actions generalizing state with
  | nil => exact ⟨halways, hother⟩
  | cons action rest ih =>
      exact ⟨⟨halways.1, hother.1⟩, ih halways.2 hother.2⟩

/-- What no action lowers is at its highest at the end. -/
theorem always_le_after {measure : State → Nat}
    (hgrows : ∀ state action, measure state ≤ measure (next state action)) :
    Always next (fun passed => measure passed ≤ measure (after next state actions))
      state actions := by
  induction actions generalizing state with
  | nil => exact Nat.le_refl _
  | cons action rest ih =>
      have hrest := @ih (next state action)
      exact ⟨Nat.le_trans (hgrows state action) hrest.head, hrest⟩

/-- Where every state of the invariant has the property, conforming actions keep
the invariant and no other action keeps the property, a schedule keeps the
property exactly when every action conforms.  The schedule may be known to meet
an assumption. -/
theorem always_iff_along_of {invariant : State → Prop}
    {assumption condition : State → Action → Prop}
    (hproperty : ∀ state, invariant state → property state)
    (hkeep : ∀ state action, invariant state → assumption state action →
      condition state action → invariant (next state action))
    (hbreak : ∀ state action, invariant state → assumption state action →
      property (next state action) → condition state action)
    (hstart : invariant state)
    (hassumed : Along next assumption state actions) :
    Always next property state actions ↔
      Along next condition state actions := by
  induction actions generalizing state with
  | nil => simp [hproperty state hstart]
  | cons action rest ih =>
      obtain ⟨hhead, htail⟩ := hassumed
      simp only [always_cons, along_cons]
      constructor
      · rintro ⟨_, halways⟩
        have hcondition := hbreak state action hstart hhead halways.head
        have hnext := hkeep state action hstart hhead hcondition
        exact ⟨hcondition, (ih hnext htail).mp halways⟩
      · rintro ⟨hcondition, halong⟩
        have hnext := hkeep state action hstart hhead hcondition
        exact ⟨hproperty state hstart, (ih hnext htail).mpr halong⟩

theorem always_iff_along {invariant : State → Prop}
    {condition : State → Action → Prop}
    (hproperty : ∀ state, invariant state → property state)
    (hkeep : ∀ state action, invariant state → condition state action →
      invariant (next state action))
    (hbreak : ∀ state action, invariant state → property (next state action) →
      condition state action)
    (hstart : invariant state) :
    Always next property state actions ↔
      Along next condition state actions :=
  always_iff_along_of hproperty (fun state action hinvariant _ =>
      hkeep state action hinvariant)
    (fun state action hinvariant _ => hbreak state action hinvariant)
    hstart along_true

end Always

/-- Actions each of which lowers a measure that no other raises are as few as it
says. -/
theorem count_add_le {invariant : State → Prop} {condition : State → Action → Prop}
    {counted : Action → Bool} {measure : State → Nat}
    (hkeep : ∀ state action, invariant state → invariant (next state action))
    (hlower : ∀ state action, invariant state → condition state action →
      counted action = true → measure (next state action) < measure state)
    (hother : ∀ state action, invariant state → counted action = false →
      measure (next state action) ≤ measure state)
    {state : State} (hstart : invariant state) {actions : List Action}
    (halong : Along next condition state actions) :
    (actions.filter counted).length + measure (after next state actions) ≤
      measure state := by
  induction actions generalizing state with
  | nil => simp
  | cons action rest ih =>
      have hrest := ih (hkeep state action hstart) halong.2
      cases hcounted : counted action with
      | true =>
          have hless := hlower state action hstart halong.1 hcounted
          rw [List.filter_cons_of_pos hcounted, List.length_cons, after_cons]
          omega
      | false =>
          have hle := hother state action hstart hcounted
          rw [List.filter_cons_of_neg (by simp [hcounted]), after_cons]
          omega

end Transition
