import RustTgCalls.Library.Transition

namespace Transition

/-! Two runs, the second under a schedule from which some actions of the first
are erased. -/

section Erasure

variable {State Action State' Action' : Type _}
  {next : State → Action → State} {next' : State' → Action' → State'}
  (erase : Action → Option Action')

/-- The second run takes the actions that are left, the first all of them. -/
theorem related_after_of {relation : State → State' → Prop}
    {condition : State → Action → Prop}
    (herased : ∀ state state' action, relation state state' →
      condition state action → erase action = none →
      relation (next state action) state')
    (hkept : ∀ state state' action action', relation state state' →
      condition state action → erase action = some action' →
      relation (next state action) (next' state' action'))
    {state : State} {state' : State'} (hstart : relation state state')
    {actions : List Action} (halong : Along next condition state actions) :
    relation (after next state actions)
      (after next' state' (actions.filterMap erase)) := by
  induction actions generalizing state state' with
  | nil => exact hstart
  | cons action rest ih =>
      obtain ⟨hhead, htail⟩ := halong
      cases herase : erase action with
      | none =>
          rw [List.filterMap_cons_none herase]
          exact ih (herased state state' action hstart hhead herase) htail
      | some action' =>
          rw [List.filterMap_cons_some herase]
          exact ih (hkept state state' action action' hstart hhead herase) htail

theorem related_after {relation : State → State' → Prop}
    (herased : ∀ state state' action, relation state state' →
      erase action = none → relation (next state action) state')
    (hkept : ∀ state state' action action', relation state state' →
      erase action = some action' →
      relation (next state action) (next' state' action'))
    {state : State} {state' : State'} (hstart : relation state state')
    (actions : List Action) :
    relation (after next state actions)
      (after next' state' (actions.filterMap erase)) := by
  have htrue : Along next (fun _ _ => True) state actions := along_true
  exact related_after_of erase
    (fun state state' action hrelation _ => herased state state' action hrelation)
    (fun state state' action action' hrelation _ =>
      hkept state state' action action' hrelation) hstart htrue

end Erasure

/-! Two runs, the second one the first under a projection of the states. -/

section Projection

variable {State Action State' Action' : Type _}
  {next : State → Action → State} {next' : State' → Action' → State'}

/-- The second schedule: what becomes of each action in the state it is taken in. -/
def image (next : State → Action → State)
    (expand : State → Action → List Action') : State → List Action → List Action'
  | _, [] => []
  | state, action :: rest =>
      expand state action ++ image next expand (next state action) rest

theorem project_after {expand : State → Action → List Action'}
    {project : State → State'} {invariant : State → Prop}
    {condition : State → Action → Prop}
    (hkeep : ∀ state action, invariant state → condition state action →
      invariant (next state action))
    (hstep : ∀ state action, invariant state → condition state action →
      project (next state action) =
        after next' (project state) (expand state action))
    {state : State} (hstart : invariant state) {actions : List Action}
    (halong : Along next condition state actions) :
    project (after next state actions) =
      after next' (project state) (image next expand state actions) := by
  induction actions generalizing state with
  | nil => rfl
  | cons action rest ih =>
      obtain ⟨hhead, htail⟩ := halong
      calc project (after next (next state action) rest)
          = after next' (project (next state action))
              (image next expand (next state action) rest) :=
            ih (hkeep state action hstart hhead) htail
        _ = after next' (after next' (project state) (expand state action))
              (image next expand (next state action) rest) := by
            rw [hstep state action hstart hhead]
        _ = after next' (project state) (image next expand state (action :: rest)) := by
            rw [image, after_append]

end Projection

end Transition
