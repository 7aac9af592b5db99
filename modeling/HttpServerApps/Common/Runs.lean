import Mathlib.Data.List.Basic
import Mathlib.Tactic.Common

namespace Common

/-- A system that takes one action at a time; an action that is not possible is refused. -/
structure System (State Action : Type) where
  step : State → Action → Option State

namespace System

variable {State Action : Type} (system : System State Action)

def run : State → List Action → Option State
  | state, [] => some state
  | state, action :: actions => (system.step state action).bind fun next => run next actions

/-- `Good` holds in every state the run goes through, the first and the last included. -/
def Always (Good : State → Prop) (start : State) (actions : List Action) : Prop :=
  ∀ before after state, actions = before ++ after → system.run start before = some state → Good state

/-- Every action of the run meets `Ok` in the state it is taken in. -/
def Everywhere (Ok : State → Action → Prop) (start : State) (actions : List Action) : Prop :=
  ∀ before action after state, actions = before ++ action :: after →
    system.run start before = some state → Ok state action

variable {system}

theorem run_cons {state next : State} {action : Action} (step : system.step state action = some next)
    (later : List Action) : system.run state (action :: later) = system.run next later := by
  simp only [run, step, Option.bind_some]

theorem run_append (start : State) (first second : List Action) :
    system.run start (first ++ second) =
      (system.run start first).bind fun middle => system.run middle second := by
  induction first generalizing start with
  | nil => rfl
  | cons action first ih =>
    simp only [List.cons_append, run]
    cases system.step start action with
    | none => rfl
    | some next => exact ih next

/-- The run lemma: what every step preserves holds after every run. -/
theorem run_preserves {Inv : State → Prop}
    (preserves : ∀ state action next, system.step state action = some next → Inv state → Inv next)
    {start final : State} {actions : List Action} (holds : Inv start)
    (run : system.run start actions = some final) : Inv final := by
  induction actions generalizing start with
  | nil =>
    cases run
    exact holds
  | cons action actions ih =>
    rcases Option.bind_eq_some_iff.mp run with ⟨next, step, later⟩
    exact ih (preserves _ _ _ step holds) later

theorem Everywhere.head {Ok : State → Action → Prop} {start : State} {action : Action}
    {actions : List Action} (ok : system.Everywhere Ok start (action :: actions)) :
    Ok start action := ok [] action actions start rfl rfl

theorem Everywhere.tail {Ok : State → Action → Prop} {start next : State} {action : Action}
    {actions : List Action} (ok : system.Everywhere Ok start (action :: actions))
    (step : system.step start action = some next) : system.Everywhere Ok next actions := by
  intro before later after state shape run
  refine ok (action :: before) later after state (by rw [shape]; rfl) ?_
  exact (run_cons step before).trans run

theorem everywhere_nil {Ok : State → Action → Prop} (start : State) : system.Everywhere Ok start [] := by
  intro before action after state shape _
  cases before <;> cases shape

theorem everywhere_cons {Ok : State → Action → Prop} {start : State} {action : Action}
    {actions : List Action} (first : Ok start action)
    (later : ∀ next, system.step start action = some next → system.Everywhere Ok next actions) :
    system.Everywhere Ok start (action :: actions) := by
  intro before other after state shape run
  cases before with
  | nil =>
    rcases List.cons.inj shape with ⟨rfl, _⟩
    cases run
    exact first
  | cons head before =>
    rcases List.cons.inj shape with ⟨rfl, rest⟩
    rcases Option.bind_eq_some_iff.mp run with ⟨next, step, prior⟩
    exact later next step before other after state rest prior

theorem everywhere_of_mem {Ok : State → Action → Prop} {start : State} {actions : List Action}
    (ok : ∀ action ∈ actions, ∀ state, Ok state action) : system.Everywhere Ok start actions := by
  intro before action after state shape _
  apply ok action
  rw [shape]
  exact List.mem_append_right _ List.mem_cons_self

/-- Whether every action of a run meets `Ok`, found by taking the run. -/
def meets (system : System State Action) (Ok : State → Action → Prop) [∀ state action, Decidable (Ok state action)] :
    State → List Action → Bool
  | _, [] => true
  | state, action :: actions =>
    decide (Ok state action) && (system.step state action).all fun next => meets system Ok next actions

theorem everywhere_of_meets {Ok : State → Action → Prop} [∀ state action, Decidable (Ok state action)] {start : State}
    {actions : List Action} (met : system.meets Ok start actions = true) : system.Everywhere Ok start actions := by
  induction actions generalizing start with
  | nil => exact everywhere_nil start
  | cons action actions ih =>
    simp only [meets, Bool.and_eq_true, decide_eq_true_eq] at met
    apply everywhere_cons met.1
    intro next step
    rw [step] at met
    exact ih met.2

theorem Always.head {Good : State → Prop} {start : State} {actions : List Action}
    (always : system.Always Good start actions) : Good start := always [] actions start rfl rfl

theorem Always.tail {Good : State → Prop} {start next : State} {action : Action}
    {actions : List Action} (always : system.Always Good start (action :: actions))
    (step : system.step start action = some next) : system.Always Good next actions := by
  intro before after state shape run
  refine always (action :: before) after state (by rw [shape]; rfl) ?_
  exact (run_cons step before).trans run

/-- The run lemma under a condition on the actions: in a run whose actions all meet `Ok`, the
    invariant holds in every state. -/
theorem always_of_everywhere {Inv : State → Prop} {Ok : State → Action → Prop}
    (preserves : ∀ state action next, system.step state action = some next → Inv state →
      Ok state action → Inv next)
    {start : State} {actions : List Action} (holds : Inv start)
    (ok : system.Everywhere Ok start actions) : system.Always Inv start actions := by
  induction actions generalizing start with
  | nil =>
    intro before after state shape run
    rcases List.append_eq_nil_iff.mp shape.symm with ⟨rfl, rfl⟩
    cases run
    exact holds
  | cons action actions ih =>
    intro before after state shape run
    cases before with
    | nil =>
      cases run
      exact holds
    | cons first before =>
      rcases List.cons.inj shape with ⟨rfl, rest⟩
      rcases Option.bind_eq_some_iff.mp run with ⟨next, step, later⟩
      exact ih (preserves _ _ _ step holds ok.head) (ok.tail step) before after state rest later

/-- Where `Ok` says exactly which of the allowed steps keep `Good`, it says exactly which runs of allowed steps do. -/
theorem always_iff_everywhere_allowed {Inv Good : State → Prop} {Allowed Ok : State → Action → Prop}
    (preserves : ∀ state action next, system.step state action = some next → Inv state → Allowed state action →
      Inv next)
    (exact_ : ∀ state action next, system.step state action = some next → Inv state → Allowed state action →
      Good state → (Good next ↔ Ok state action))
    {start final : State} {actions : List Action} (holds : Inv start) (good : Good start)
    (run : system.run start actions = some final) (allowed : system.Everywhere Allowed start actions) :
    system.Always Good start actions ↔ system.Everywhere Ok start actions := by
  apply Iff.intro
  · intro always
    induction actions generalizing start with
    | nil => exact everywhere_nil start
    | cons action actions ih =>
      rcases Option.bind_eq_some_iff.mp run with ⟨next, step, later⟩
      have nextGood := (always.tail step).head
      apply everywhere_cons ((exact_ _ _ _ step holds allowed.head good).mp nextGood)
      intro other again
      obtain rfl := Option.some.inj (step.symm.trans again)
      exact ih (preserves _ _ _ step holds allowed.head) nextGood later (allowed.tail step) (always.tail step)
  · intro ok
    have met : system.Everywhere (fun state action => Allowed state action ∧ Ok state action) start actions :=
      fun before action after state shape prior =>
        ⟨allowed before action after state shape prior, ok before action after state shape prior⟩
    have both : system.Always (fun state => Inv state ∧ Good state) start actions :=
      always_of_everywhere (fun state action next step holds met =>
        ⟨preserves _ _ _ step holds.1 met.1, (exact_ _ _ _ step holds.1 met.1 holds.2).mpr met.2⟩) ⟨holds, good⟩ met
    exact fun before after state shape prior => (both before after state shape prior).2

/-- Where `Ok` says exactly which steps keep `Good`, it says exactly which runs do. -/
theorem always_iff_everywhere {Inv Good : State → Prop} {Ok : State → Action → Prop}
    (preserves : ∀ state action next, system.step state action = some next → Inv state → Inv next)
    (exact_ : ∀ state action next, system.step state action = some next → Inv state → Good state →
      (Good next ↔ Ok state action))
    {start final : State} {actions : List Action} (holds : Inv start) (good : Good start)
    (run : system.run start actions = some final) :
    system.Always Good start actions ↔ system.Everywhere Ok start actions :=
  @always_iff_everywhere_allowed _ _ _ _ _ (fun _ _ => True) _
    (fun state action next step holds _ => preserves state action next step holds)
    (fun state action next step holds _ good => exact_ state action next step holds good) _ _ _ holds good run
    fun _ _ _ _ _ _ => trivial

/-- Where a step never makes `Good` true again, and `Ok` says exactly which steps keep it, it holds at the end
    of exactly the runs whose actions all meet `Ok`. -/
theorem final_iff_everywhere {Inv Good : State → Prop} {Ok : State → Action → Prop}
    (preserves : ∀ state action next, system.step state action = some next → Inv state → Inv next)
    (exact_ : ∀ state action next, system.step state action = some next → Inv state →
      (Good next ↔ Good state ∧ Ok state action))
    {start final : State} {actions : List Action} (holds : Inv start) (good : Good start)
    (run : system.run start actions = some final) : Good final ↔ system.Everywhere Ok start actions := by
  have back : ∀ {state : State} {rest : List Action}, Inv state → system.run state rest = some final →
      Good final → Good state := by
    intro state rest inv later last
    induction rest generalizing state with
    | nil =>
      cases later
      exact last
    | cons action rest ih =>
      rcases Option.bind_eq_some_iff.mp later with ⟨next, step, later⟩
      exact ((exact_ _ _ _ step inv).mp (ih (preserves _ _ _ step inv) later)).1
  apply Iff.intro
  · intro last before action after state shape prior
    have inv := run_preserves preserves holds prior
    rw [shape, run_append, prior] at run
    have rest : system.run state (action :: after) = some final := run
    rcases Option.bind_eq_some_iff.mp rest with ⟨next, step, later⟩
    exact ((exact_ _ _ _ step inv).mp (back (preserves _ _ _ step inv) later last)).2
  · intro ok
    exact (@always_of_everywhere _ _ _ (fun state => Inv state ∧ Good state) _ (fun state action next step both ok =>
      ⟨preserves _ _ _ step both.1, (exact_ _ _ _ step both.1).mpr ⟨both.2, ok⟩⟩) _ _ ⟨holds, good⟩ ok actions [] final
      (List.append_nil _).symm run).2

/-- The actions are taken one after the other between two times; `Takes` says how long one may take. -/
inductive Clocked {Action : Type} (Takes : Int → Action → Int → Prop) : Int → List Action → Int → Prop where
  | nil (now) : Clocked Takes now [] now
  | cons {now later final action actions} (first : Takes now action later)
      (rest : Clocked Takes later actions final) : Clocked Takes now (action :: actions) final

/-- The run lemma for an invariant that depends on the time. -/
theorem clocked_preserves {Takes : Int → Action → Int → Prop} {Inv : Int → State → Prop} {Ok : State → Action → Prop}
    (preserves : ∀ now state action later next, system.step state action = some next → Takes now action later →
      Inv now state → Ok state action → Inv later next)
    {now later : Int} {start final : State} {actions : List Action} (clocked : Clocked Takes now actions later)
    (holds : Inv now start) (run : system.run start actions = some final) (ok : system.Everywhere Ok start actions) :
    Inv later final := by
  induction clocked generalizing start with
  | nil =>
    cases run
    exact holds
  | cons first rest ih =>
    rcases Option.bind_eq_some_iff.mp run with ⟨next, step, more⟩
    exact ih (preserves _ _ _ _ _ step first holds ok.head) more (ok.tail step)

end System

end Common
