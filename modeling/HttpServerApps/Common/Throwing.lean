import Mathlib.Tactic.Common

namespace Common

/-- How a write to another program ends. -/
inductive UpdateAnswer (Thrown : Type) where
  | done
  | refused (what : Thrown)
  /-- It is carried out and the connection lost before the reply. -/
  | lost (what : Thrown)

namespace UpdateAnswer

variable {Thrown : Type}

def writes : UpdateAnswer Thrown → Bool
  | .done | .lost _ => true
  | .refused _ => false

def outcome : UpdateAnswer Thrown → Except Thrown Unit
  | .done => .ok ()
  | .refused what | .lost what => .error what

end UpdateAnswer

/-- A call that works on a state and may throw; what it did to the state before stays done. -/
structure Throwing (State Thrown Value : Type) where
  run : State → State × Except Thrown Value

namespace Throwing

variable {State Thrown Value Result Part Problem : Type}

def give (value : Value) : Throwing State Thrown Value := ⟨fun state => (state, .ok value)⟩

def andThen (call : Throwing State Thrown Value) (next : Value → Throwing State Thrown Result) :
    Throwing State Thrown Result := ⟨fun state =>
  match call.run state with
  | (state, .ok value) => (next value).run state
  | (state, .error thrown) => (state, .error thrown)⟩

instance : Monad (Throwing State Thrown) where
  pure := give
  bind := andThen

/-- A call into code that keeps no state here: it returns or throws. -/
def call (outcome : Except Thrown Value) : Throwing State Thrown Value := ⟨fun state => (state, outcome)⟩

def throw (thrown : Thrown) : Throwing State Thrown Value := call (.error thrown)

def modify (change : State → State) : Throwing State Thrown Unit := ⟨fun state => (change state, .ok ())⟩

def read (look : State → Value) : Throwing State Thrown Value := ⟨fun state => (state, .ok (look state))⟩

def update (change : State → State × Value) : Throwing State Thrown Value := ⟨fun state =>
  ((change state).1, .ok (change state).2)⟩

/-- `try` with a `catch` for everything that is thrown. -/
def attempt (body : Throwing State Thrown Value) (handler : Thrown → Throwing State Thrown Value) :
    Throwing State Thrown Value := ⟨fun state =>
  match body.run state with
  | (state, .ok value) => (state, .ok value)
  | (state, .error thrown) => (handler thrown).run state⟩

/-- A call that works on a part of the state. -/
def within (part : State → Part) (put : Part → State → State) (call : Throwing Part Thrown Value) :
    Throwing State Thrown Value := ⟨fun state =>
  let (after, outcome) := call.run (part state)
  (put after state, outcome)⟩

/-- The same call, throwing another value for what it throws. -/
def rethrow (report : Problem → Thrown) (call : Throwing State Problem Value) : Throwing State Thrown Value :=
  ⟨fun state =>
    let (after, outcome) := call.run state
    (after, outcome.mapError report)⟩

@[simp] theorem run_call_bind (outcome : Except Thrown Value)
    (next : Value → Throwing State Thrown Result) (state : State) :
    (call outcome >>= next).run state =
      match outcome with
      | .ok value => (next value).run state
      | .error thrown => (state, .error thrown) := by
  cases outcome <;> rfl

@[simp] theorem run_modify_bind (change : State → State) (next : Unit → Throwing State Thrown Result)
    (state : State) : (modify change >>= next).run state = (next ()).run (change state) := rfl

@[simp] theorem run_read_bind (look : State → Value) (next : Value → Throwing State Thrown Result)
    (state : State) : (read look >>= next).run state = (next (look state)).run state := rfl

@[simp] theorem run_update_bind (change : State → State × Value)
    (next : Value → Throwing State Thrown Result) (state : State) :
    (update change >>= next).run state = (next (change state).2).run (change state).1 := rfl

theorem run_bind_ok {call : Throwing State Thrown Value} {state middle : State} {value : Value}
    (ran : call.run state = (middle, .ok value)) (next : Value → Throwing State Thrown Result) :
    (call >>= next).run state = (next value).run middle := by
  simp only [Bind.bind, andThen, ran]

theorem run_bind_error {call : Throwing State Thrown Value} {state middle : State} {thrown : Thrown}
    (ran : call.run state = (middle, .error thrown)) (next : Value → Throwing State Thrown Result) :
    (call >>= next).run state = (middle, .error thrown) := by
  simp only [Bind.bind, andThen, ran]

theorem run_bind_assoc (call : Throwing State Thrown Part) (next : Part → Throwing State Thrown Value)
    (later : Value → Throwing State Thrown Result) (state : State) :
    ((call >>= next) >>= later).run state = (call >>= fun value => next value >>= later).run state := by
  simp only [Bind.bind, andThen]
  cases call.run state with
  | mk after outcome => cases outcome <;> rfl

theorem ok_call_bind {outcome : Except Thrown Value} {next : Value → Throwing State Thrown Result} {state : State}
    {result : Result} :
    ((call outcome >>= next).run state).2 = .ok result ↔
      ∃ value, outcome = .ok value ∧ ((next value).run state).2 = .ok result := by
  rw [run_call_bind]
  cases outcome <;> simp

theorem ok_bind {call : Throwing State Thrown Value} {next : Value → Throwing State Thrown Result} {state : State}
    {result : Result} :
    ((call >>= next).run state).2 = .ok result ↔
      ∃ value, (call.run state).2 = .ok value ∧ ((next value).run (call.run state).1).2 = .ok result := by
  simp only [Bind.bind, andThen]
  cases call.run state with
  | mk after outcome => cases outcome <;> simp

theorem run_attempt_ok {body : Throwing State Thrown Value} {state middle : State} {value : Value}
    (ran : body.run state = (middle, .ok value)) (handler : Thrown → Throwing State Thrown Value) :
    (attempt body handler).run state = (middle, .ok value) := by
  unfold attempt
  dsimp only
  rw [ran]

theorem run_attempt_error {body : Throwing State Thrown Value} {state middle : State} {thrown : Thrown}
    (ran : body.run state = (middle, .error thrown)) (handler : Thrown → Throwing State Thrown Value) :
    (attempt body handler).run state = (handler thrown).run middle := by
  unfold attempt
  dsimp only
  rw [ran]

theorem run_within {part : State → Part} {put : Part → State → State} {call : Throwing Part Thrown Value}
    {state : State} {after : Part} {outcome : Except Thrown Value} (ran : call.run (part state) = (after, outcome)) :
    (within part put call).run state = (put after state, outcome) := by
  change (put (call.run (part state)).1 state, (call.run (part state)).2) = _
  rw [ran]

theorem run_rethrow {report : Problem → Thrown} {call : Throwing State Problem Value} {state after : State}
    {outcome : Except Problem Value} (ran : call.run state = (after, outcome)) :
    (rethrow report call).run state = (after, outcome.mapError report) := by
  change ((call.run state).1, (call.run state).2.mapError report) = _
  rw [ran]

/-! Calls that take related states to related states, with the same outcome. -/

/-- What a call returns or throws, and what it leaves, does not tell related states apart. -/
structure Respects (Related : State → State → Prop) (call : Throwing State Thrown Value) : Prop where
  run : ∀ state twin, Related state twin →
    (call.run state).2 = (call.run twin).2 ∧ Related (call.run state).1 (call.run twin).1

section

variable {Related : State → State → Prop}

theorem respects_call (outcome : Except Thrown Value) :
    Respects Related (call outcome : Throwing State Thrown Value) :=
  ⟨fun _ _ related => ⟨rfl, related⟩⟩

theorem respects_modify {change : State → State}
    (keeps : ∀ state twin, Related state twin → Related (change state) (change twin)) :
    Respects Related (modify change : Throwing State Thrown Unit) :=
  ⟨fun state twin related => ⟨rfl, keeps state twin related⟩⟩

theorem respects_read {look : State → Value} (same : ∀ state twin, Related state twin → look state = look twin) :
    Respects Related (read look : Throwing State Thrown Value) :=
  ⟨fun state twin related => ⟨congrArg Except.ok (same state twin related), related⟩⟩

theorem Respects.bind {call : Throwing State Thrown Value} {next : Value → Throwing State Thrown Result}
    (first : Respects Related call) (later : ∀ value, Respects Related (next value)) :
    Respects Related (call >>= next) := by
  apply Respects.mk
  intro state twin related
  rcases first.run state twin related with ⟨outcome, middle⟩
  simp only [Bind.bind, andThen]
  cases run : call.run state with
  | mk after answer =>
    cases again : call.run twin with
    | mk twinAfter twinAnswer =>
      rw [run, again] at outcome middle
      cases outcome
      cases answer with
      | ok value => exact (later value).run _ _ middle
      | error thrown => exact ⟨rfl, middle⟩

theorem Respects.attempt {body : Throwing State Thrown Value} {handler : Thrown → Throwing State Thrown Value}
    (tried : Respects Related body) (caught : ∀ thrown, Respects Related (handler thrown)) :
    Respects Related (Throwing.attempt body handler) := by
  apply Respects.mk
  intro state twin related
  rcases tried.run state twin related with ⟨outcome, middle⟩
  unfold Throwing.attempt
  dsimp only
  cases run : body.run state with
  | mk after answer =>
    cases again : body.run twin with
    | mk twinAfter twinAnswer =>
      rw [run, again] at outcome middle
      cases outcome
      cases answer with
      | ok value => exact ⟨rfl, middle⟩
      | error thrown => exact (caught thrown).run _ _ middle

end

/-! What holds where a call returns and where it throws. -/

def Ends (returned : Value → State → Prop) (thrown : Thrown → State → Prop) : State × Except Thrown Value → Prop
  | (state, .ok value) => returned value state
  | (state, .error problem) => thrown problem state

theorem Ends.bind {middle : Result → State → Prop} {returned : Value → State → Prop} {thrown : Thrown → State → Prop}
    {call : Throwing State Thrown Result} {next : Result → Throwing State Thrown Value} {state : State}
    (first : Ends middle thrown (call.run state))
    (later : ∀ value after, middle value after → Ends returned thrown ((next value).run after)) :
    Ends returned thrown ((call >>= next).run state) := by
  simp only [Bind.bind, andThen]
  cases run : call.run state with
  | mk after answer =>
    rw [run] at first
    cases answer with
    | ok value => exact later value after first
    | error problem => exact first

theorem Ends.imp {returned further : Value → State → Prop} {thrown fault : Thrown → State → Prop}
    {ended : State × Except Thrown Value} (ends : Ends returned thrown ended)
    (returns : ∀ value state, returned value state → further value state)
    (throws : ∀ problem state, thrown problem state → fault problem state) : Ends further fault ended := by
  rcases ended with ⟨state, outcome⟩
  cases outcome with
  | ok value => exact returns value state ends
  | error problem => exact throws problem state ends

structure Triple (before : State → Prop) (call : Throwing State Thrown Value) (returned : Value → State → Prop)
    (thrown : Thrown → State → Prop) : Prop where
  run : ∀ state, before state → Ends returned thrown (call.run state)

section

variable {before : State → Prop} {returned : Value → State → Prop} {thrown : Thrown → State → Prop}

theorem triple_call (outcome : Except Thrown Value) :
    Triple before (call outcome) (fun _ => before) fun _ => before := by
  apply Triple.mk
  intro state meets
  cases outcome <;> exact meets

theorem triple_read (look : State → Value) : Triple before (read look) (fun _ => before) thrown :=
  ⟨fun _ meets => meets⟩

theorem triple_modify {change : State → State} {after : State → Prop}
    (keeps : ∀ state, before state → after (change state)) : Triple before (modify change) (fun _ => after) thrown :=
  ⟨keeps⟩

theorem triple_update {change : State → State × Value}
    (keeps : ∀ state, before state → returned (change state).2 (change state).1) :
    Triple before (update change) returned thrown :=
  ⟨keeps⟩

theorem Triple.bind {middle : Result → State → Prop} {call : Throwing State Thrown Result}
    {next : Result → Throwing State Thrown Value} (first : Triple before call middle thrown)
    (later : ∀ value, Triple (middle value) (next value) returned thrown) :
    Triple before (call >>= next) returned thrown :=
  ⟨fun state meets => (first.run state meets).bind fun value after reached => (later value).run after reached⟩

theorem Triple.within {part : State → Part} {put : Part → State → State} {call : Throwing Part Thrown Value}
    {before : Part → Prop} {returned : Value → Part → Prop} {thrown : Thrown → Part → Prop}
    (got : ∀ after state, part (put after state) = after) (triple : Triple before call returned thrown) :
    Triple (fun state => before (part state)) (Throwing.within part put call)
      (fun value state => returned value (part state)) fun problem state => thrown problem (part state) := by
  apply Triple.mk
  intro state meets
  have reached := triple.run (part state) meets
  cases run : call.run (part state) with
  | mk after answer =>
    rw [run] at reached
    rw [run_within run]
    cases answer with
    | ok value => exact (congrArg (returned value) (got after state)).mpr reached
    | error problem => exact (congrArg (thrown problem) (got after state)).mpr reached

theorem Triple.attempt {middle : Thrown → State → Prop} {body : Throwing State Thrown Value}
    {handler : Thrown → Throwing State Thrown Value} (tried : Triple before body returned middle)
    (caught : ∀ problem, Triple (middle problem) (handler problem) returned thrown) :
    Triple before (Throwing.attempt body handler) returned thrown := by
  apply Triple.mk
  intro state meets
  have reached := tried.run state meets
  cases run : body.run state with
  | mk after answer =>
    rw [run] at reached
    cases answer with
    | ok value =>
      rw [run_attempt_ok run]
      exact reached
    | error problem =>
      rw [run_attempt_error run]
      exact (caught problem).run after reached

end

end Throwing

end Common
