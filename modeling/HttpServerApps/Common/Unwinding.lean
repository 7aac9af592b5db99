import HttpServerApps.Common.Runs

namespace Common

/-- A system that answers each action; an action that is not possible is refused. -/
structure Machine (State Action Output : Type) where
  step : State → Action → Option (State × Output)

namespace Machine

variable {State Action Output : Type} (machine : Machine State Action Output)

/-- The actions of a run with their answers. -/
def transcript : State → List Action → Option (List (Action × Output))
  | _, [] => some []
  | state, action :: actions =>
    (machine.step state action).bind fun (next, output) =>
      (transcript next actions).map fun later => (action, output) :: later

/-- States that an observer takes for the same, and the actions that it is concerned with: the others leave it
    the same state, and its own answer the same in states that are the same. -/
structure Unwinds (Same : State → State → Prop) (concerns : Action → Bool) : Prop where
  others : ∀ state twin action next output, concerns action = false →
    machine.step state action = some (next, output) → Same state twin → Same next twin
  own : ∀ state twin action next output, concerns action = true →
    machine.step state action = some (next, output) → Same state twin →
    ∃ after, machine.step twin action = some (after, output) ∧ Same next after

variable {machine}

theorem transcript_cons {state next : State} {action : Action} {output : Output} {actions : List Action}
    {log : List (Action × Output)} (step : machine.step state action = some (next, output))
    (later : machine.transcript next actions = some log) :
    machine.transcript state (action :: actions) = some ((action, output) :: log) := by
  simp only [Machine.transcript, step, Option.bind_some, later, Option.map_some]

/-- Without the actions of others, an observer gets the same answers. -/
theorem Unwinds.transcript {Same : State → State → Prop} {concerns : Action → Bool}
    (unwinds : machine.Unwinds Same concerns) {state twin : State} {actions : List Action}
    {log : List (Action × Output)} (same : Same state twin) (run : machine.transcript state actions = some log) :
    machine.transcript twin (actions.filter concerns) = some (log.filter fun entry => concerns entry.1) := by
  induction actions generalizing state twin log with
  | nil =>
    cases run
    rfl
  | cons action actions ih =>
    rcases Option.bind_eq_some_iff.mp run with ⟨⟨next, output⟩, step, later⟩
    rcases Option.map_eq_some_iff.mp later with ⟨rest, ran, rfl⟩
    cases concerned : concerns action with
    | false =>
      rw [List.filter_cons_of_neg (by rw [concerned]; nofun),
        List.filter_cons_of_neg (by dsimp only; rw [concerned]; nofun)]
      exact ih (unwinds.others _ _ _ _ _ concerned step same) ran
    | true =>
      rcases unwinds.own _ _ _ _ _ concerned step same with ⟨after, again, sameAfter⟩
      rw [List.filter_cons_of_pos concerned, List.filter_cons_of_pos (by dsimp only; exact concerned)]
      simp only [Machine.transcript, again, Option.bind_some, ih sameAfter ran, Option.map_some]

end Machine

end Common
