import HttpServerApps.Common.Runs
import HttpServerApps.Common.Throwing

namespace Common

/-- A call as the tree of its operations on a shared state, each of which is one step: what it does next
    depends on the replies. -/
inductive Program (Op : Type) (Reply : Op → Type) (Thrown Value : Type) where
  | done (outcome : Except Thrown Value)
  | call (op : Op) (next : Reply op → Program Op Reply Thrown Value)

namespace Program

variable {Op : Type} {Reply : Op → Type} {State Thrown Value Result : Type}

def bind (program : Program Op Reply Thrown Value) (next : Value → Program Op Reply Thrown Result) :
    Program Op Reply Thrown Result :=
  match program with
  | .done (.ok value) => next value
  | .done (.error thrown) => .done (.error thrown)
  | .call op rest => .call op fun reply => (rest reply).bind next

instance : Monad (Program Op Reply Thrown) where
  pure value := .done (.ok value)
  bind := bind

def op (operation : Op) : Program Op Reply Thrown (Reply operation) := .call operation fun reply => .done (.ok reply)

def give (outcome : Except Thrown Value) : Program Op Reply Thrown Value := .done outcome

@[simp] theorem op_bind (operation : Op) (next : Reply operation → Program Op Reply Thrown Result) :
    op operation >>= next = .call operation next := rfl

/-- The outcome, of a call that has ended. -/
def outcome : Program Op Reply Thrown Value → Option (Except Thrown Value)
  | .done outcome => some outcome
  | .call _ _ => none

/-- The call by itself. -/
def interpret (perform : State → (op : Op) → State × Reply op) :
    Program Op Reply Thrown Value → Throwing State Thrown Value
  | .done outcome => Throwing.call outcome
  | .call op next => ⟨fun state => ((next (perform state op).2).interpret perform).run (perform state op).1⟩

theorem interpret_bind (perform : State → (op : Op) → State × Reply op) (program : Program Op Reply Thrown Value)
    (next : Value → Program Op Reply Thrown Result) (state : State) :
    ((program >>= next).interpret perform).run state =
      (program.interpret perform >>= fun value => (next value).interpret perform).run state := by
  induction program generalizing state with
  | done outcome => cases outcome <;> rfl
  | call op rest ih => exact ih (perform state op).2 (perform state op).1

theorem run_give_bind (perform : State → (op : Op) → State × Reply op) (outcome : Except Thrown Value)
    (next : Value → Program Op Reply Thrown Result) (state : State) :
    (((give outcome >>= next).interpret perform).run state).2 =
      outcome >>= fun value => (((next value).interpret perform).run state).2 := by
  cases outcome <;> rfl

end Program

/-! What a call does, by the replies it gets. -/

structure Event (Op : Type) (Reply : Op → Type) where
  op : Op
  reply : Reply op

/-- What may be done in each phase of a call. -/
structure Contract (Op : Type) (Reply : Op → Type) (Phase : Type) where
  start : Phase
  may : Phase → Op → Prop
  after : Phase → (op : Op) → Reply op → Phase

section

variable {Op : Type} {Reply : Op → Type} {Phase Thrown Value Result : Type}

/-- From a phase on the call does what it may, and ends as it should. -/
def Program.Obeys (contract : Contract Op Reply Phase) (ends : Phase → Except Thrown Value → Prop) :
    Phase → Program Op Reply Thrown Value → Prop
  | phase, .done outcome => ends phase outcome
  | phase, .call op next => contract.may phase op ∧
    ∀ reply, (next reply).Obeys contract ends (contract.after phase op reply)

theorem Program.Obeys.bind {contract : Contract Op Reply Phase} {middle : Phase → Except Thrown Value → Prop}
    {ends : Phase → Except Thrown Result → Prop} {phase : Phase} {program : Program Op Reply Thrown Value}
    {next : Value → Program Op Reply Thrown Result} (first : program.Obeys contract middle phase)
    (later : ∀ phase value, middle phase (.ok value) → (next value).Obeys contract ends phase)
    (thrown : ∀ phase failure, middle phase (.error failure) → ends phase (.error failure)) :
    (program >>= next).Obeys contract ends phase := by
  induction program generalizing phase with
  | done outcome =>
    cases outcome with
    | ok value => exact later phase value first
    | error failure => exact thrown phase failure first
  | call op rest ih => exact ⟨first.1, fun reply => ih reply (first.2 reply)⟩

namespace Contract

variable (contract : Contract Op Reply Phase)

def phase (past : List (Event Op Reply)) : Phase :=
  past.foldl (fun phase event => contract.after phase event.op event.reply) contract.start

/-- Everything done so far was allowed when it was done. -/
def Kept (past : List (Event Op Reply)) : Prop :=
  ∀ before event later, past = before ++ event :: later → contract.may (contract.phase before) event.op

variable {contract}

theorem phase_snoc (past : List (Event Op Reply)) (event : Event Op Reply) :
    contract.phase (past ++ [event]) = contract.after (contract.phase past) event.op event.reply := by
  unfold phase
  rw [List.foldl_append]
  rfl

theorem kept_nil : contract.Kept [] := by
  intro before event later shape
  cases before <;> cases shape

theorem Kept.snoc {past : List (Event Op Reply)} {event : Event Op Reply} (kept : contract.Kept past)
    (may : contract.may (contract.phase past) event.op) : contract.Kept (past ++ [event]) := by
  intro before other later shape
  rcases List.eq_nil_or_concat later with rfl | ⟨init, last, rfl⟩
  · rcases List.append_inj' shape rfl with ⟨rfl, same⟩
    cases same
    exact may
  · rw [List.concat_eq_append, ← List.cons_append, ← List.append_assoc] at shape
    exact kept before other init (List.append_inj' shape rfl).1

end Contract

end

/-! Calls on one shared state, whose steps interleave. -/

section

variable {Input State Op : Type} {Reply : Op → Type} {Phase Thrown Value : Type}

structure Caller (Input Op : Type) (Reply : Op → Type) (Thrown Value : Type) where
  input : Input
  past : List (Event Op Reply) := []
  program : Program Op Reply Thrown Value

structure Pool (Input State Op : Type) (Reply : Op → Type) (Thrown Value : Type) where
  shared : State
  callers : List (Caller Input Op Reply Thrown Value) := []

/-- A new call, or the next step of one in the pool. -/
inductive Move (Input : Type) where
  | enter (input : Input)
  | step (i : Nat)

/-- What holds of the operation that a step takes. -/
def Pool.AtStep (pool : Pool Input State Op Reply Thrown Value) (move : Move Input)
    (Holds : Caller Input Op Reply Thrown Value → (op : Op) → (Reply op → Program Op Reply Thrown Value) → Prop) :
    Prop :=
  ∀ i caller op next, move = .step i → pool.callers[i]? = some caller → caller.program = .call op next →
    Holds caller op next

/-- The calls, and what their operations do. A fatal failure ends more than the call. -/
structure Calls (Input State Op : Type) (Reply : Op → Type) (Thrown Value : Type) where
  program : Input → Program Op Reply Thrown Value
  perform : Input → State → (op : Op) → State × Reply op
  fatal : Thrown → Bool

def Caller.after (caller : Caller Input Op Reply Thrown Value) (op : Op)
    (next : Reply op → Program Op Reply Thrown Value) (reply : Reply op) : Caller Input Op Reply Thrown Value :=
  { caller with past := caller.past ++ [⟨op, reply⟩], program := next reply }

namespace Calls

variable (calls : Calls Input State Op Reply Thrown Value)

def Survives : Option (Except Thrown Value) → Bool
  | some (.error thrown) => !calls.fatal thrown
  | _ => true

def poolStep (pool : Pool Input State Op Reply Thrown Value) :
    Move Input → Option (Pool Input State Op Reply Thrown Value)
  | .enter input => some { pool with callers := pool.callers ++ [{ input, program := calls.program input }] }
  | .step i =>
    match pool.callers[i]? with
    | none => none
    | some caller =>
      match caller.program with
      | .done _ => none
      | .call op next =>
        let (shared, reply) := calls.perform caller.input pool.shared op
        if calls.Survives (next reply).outcome then some ⟨shared, pool.callers.set i (caller.after op next reply)⟩
        else none

def pool : System (Pool Input State Op Reply Thrown Value) (Move Input) := ⟨calls.poolStep⟩

variable {calls}

/-- Every move brings a call in or takes a step of one. -/
theorem pool_cases {pool after : Pool Input State Op Reply Thrown Value} {move : Move Input}
    (step : calls.pool.step pool move = some after) :
    (∃ input, move = .enter input ∧
      after = { pool with callers := pool.callers ++ [{ input, program := calls.program input }] }) ∨
    ∃ i caller op next, move = .step i ∧ pool.callers[i]? = some caller ∧ caller.program = .call op next ∧
      after = ⟨(calls.perform caller.input pool.shared op).1,
        pool.callers.set i (caller.after op next (calls.perform caller.input pool.shared op).2)⟩ := by
  change calls.poolStep pool move = some after at step
  cases move with
  | enter input => exact Or.inl ⟨input, rfl, (Option.some.inj step).symm⟩
  | step i =>
    right
    simp only [poolStep] at step
    split at step
    · cases step
    · rename_i caller there
      split at step
      · cases step
      · rename_i op next shape
        split at step
        · exact ⟨i, caller, op, next, rfl, there, shape, (Option.some.inj step).symm⟩
        · cases step

/-! What holds of each call by its contract. -/

structure Sound (contract : Input → Contract Op Reply Phase) (ends : Input → Phase → Except Thrown Value → Prop)
    (caller : Caller Input Op Reply Thrown Value) : Prop where
  kept : (contract caller.input).Kept caller.past
  obeys : caller.program.Obeys (contract caller.input) (ends caller.input) ((contract caller.input).phase caller.past)

variable {contract : Input → Contract Op Reply Phase} {ends : Input → Phase → Except Thrown Value → Prop}

theorem Sound.may {caller : Caller Input Op Reply Thrown Value} {op : Op}
    {next : Reply op → Program Op Reply Thrown Value} (sound : Sound contract ends caller)
    (shape : caller.program = .call op next) :
    (contract caller.input).may ((contract caller.input).phase caller.past) op := by
  have obeys := sound.obeys
  rw [shape] at obeys
  exact obeys.1

theorem Sound.after {caller : Caller Input Op Reply Thrown Value} {op : Op}
    {next : Reply op → Program Op Reply Thrown Value} (sound : Sound contract ends caller)
    (shape : caller.program = .call op next) (reply : Reply op) : Sound contract ends (caller.after op next reply) := by
  have obeys := sound.obeys
  rw [shape] at obeys
  apply Sound.mk
  · exact sound.kept.snoc (sound.may shape)
  · show (next reply).Obeys _ _ ((contract caller.input).phase (caller.past ++ [⟨op, reply⟩]))
    rw [Contract.phase_snoc]
    exact obeys.2 reply

theorem sound_step (obey : ∀ input, (calls.program input).Obeys (contract input) (ends input) (contract input).start)
    (pool : Pool Input State Op Reply Thrown Value) (move : Move Input) (after : Pool Input State Op Reply Thrown Value)
    (step : calls.pool.step pool move = some after) (sound : ∀ caller ∈ pool.callers, Sound contract ends caller) :
    ∀ caller ∈ after.callers, Sound contract ends caller := by
  rcases pool_cases step with ⟨input, rfl, rfl⟩ | ⟨i, caller, op, next, rfl, there, shape, rfl⟩
  · intro caller member
    rcases List.mem_append.mp member with old | new
    · exact sound caller old
    · cases List.mem_singleton.mp new
      exact ⟨Contract.kept_nil, obey input⟩
  · intro other member
    rcases List.mem_or_eq_of_mem_set member with old | rfl
    · exact sound other old
    · exact (sound caller (List.mem_of_getElem? there)).after shape _

theorem atStep_enter {pool : Pool Input State Op Reply Thrown Value}
    {Holds : Caller Input Op Reply Thrown Value → (op : Op) → (Reply op → Program Op Reply Thrown Value) → Prop}
    (input : Input) : pool.AtStep (.enter input) Holds :=
  fun _ _ _ _ isStep => nomatch isStep

theorem atStep_iff {pool : Pool Input State Op Reply Thrown Value} {i : Nat}
    {caller : Caller Input Op Reply Thrown Value} {op : Op} {next : Reply op → Program Op Reply Thrown Value}
    {Holds : Caller Input Op Reply Thrown Value → (op : Op) → (Reply op → Program Op Reply Thrown Value) → Prop}
    (there : pool.callers[i]? = some caller) (shape : caller.program = .call op next) :
    pool.AtStep (.step i) Holds ↔ Holds caller op next := by
  apply Iff.intro
  · exact fun every => every i caller op next rfl there shape
  · intro holds j other operation rest isStep found isCall
    cases isStep
    cases there.symm.trans found
    cases shape.symm.trans isCall
    exact holds

theorem countP_set_of_getElem? {Item : Type} {items : List Item} {i : Nat} {old new : Item} {counted : Item → Bool}
    (there : items[i]? = some old) : (items.set i new).countP counted + (if counted old then 1 else 0) =
      items.countP counted + if counted new then 1 else 0 := by
  rcases List.getElem?_eq_some_iff.mp there with ⟨bound, rfl⟩
  rw [List.countP_set bound]
  split
  · rename_i member
    have positive := List.countP_pos_iff.mpr ⟨items[i], List.getElem_mem bound, member⟩
    omega
  · omega

/-- One member is replaced by another. -/
theorem forall_mem_set {Item : Type} {items : List Item} {i : Nat} {old new : Item} {Holds : Item → Prop}
    (there : items[i]? = some old) (before : Holds old) :
    (∀ item ∈ items.set i new, Holds item) ↔ (∀ item ∈ items, Holds item) ∧ Holds new := by
  rcases List.getElem?_eq_some_iff.mp there with ⟨bound, same⟩
  apply Iff.intro
  · intro after
    refine ⟨?_, after new (List.mem_set bound new)⟩
    intro item member
    rcases List.mem_iff_getElem?.mp member with ⟨j, found⟩
    by_cases here : i = j
    · subst here
      cases there.symm.trans found
      exact before
    · exact after item (List.mem_iff_getElem?.mpr ⟨j, by rw [List.getElem?_set_ne here]; exact found⟩)
  · rintro ⟨all, here⟩ item member
    rcases List.mem_or_eq_of_mem_set member with old | rfl
    · exact all item old
    · exact here

/-- A call that takes its steps alone does what it does by itself. -/
theorem run_alone {pool : Pool Input State Op Reply Thrown Value} {i : Nat}
    {caller : Caller Input Op Reply Thrown Value} {final : State} {outcome : Except Thrown Value}
    (there : pool.callers[i]? = some caller)
    (alone : (caller.program.interpret (calls.perform caller.input)).run pool.shared = (final, outcome))
    (survives : calls.Survives (some outcome) = true) :
    ∃ moves past, (∀ move ∈ moves, move = .step i) ∧ calls.pool.run pool moves =
      some ⟨final, pool.callers.set i { caller with past := past, program := .done outcome }⟩ := by
  rcases caller with ⟨input, past, program⟩
  induction program generalizing pool past with
  | done ended =>
    cases alone
    refine ⟨[], past, nofun, ?_⟩
    rcases List.getElem?_eq_some_iff.mp there with ⟨bound, same⟩
    rw [← same, List.set_getElem_self]
    rfl
  | call op next ih =>
    rcases performed : calls.perform input pool.shared op with ⟨shared, reply⟩
    have later : ((next reply).interpret (calls.perform input)).run shared = (final, outcome) := by
      have both := alone
      unfold Program.interpret at both
      dsimp only at both
      rw [performed] at both
      exact both
    have lives : calls.Survives (next reply).outcome = true := by
      cases shape : next reply with
      | done ended =>
        rw [shape] at later
        cases later
        exact survives
      | call _ _ => rfl
    have first : calls.pool.step pool (.step i) =
        some ⟨shared, pool.callers.set i ⟨input, past ++ [⟨op, reply⟩], next reply⟩⟩ := by
      show calls.poolStep pool (.step i) = _
      simp only [poolStep, there, performed, lives, ↓reduceIte, Caller.after]
    have bound : i < pool.callers.length := (List.getElem?_eq_some_iff.mp there).1
    rcases @ih reply ⟨shared, pool.callers.set i ⟨input, past ++ [⟨op, reply⟩], next reply⟩⟩ (past ++ [⟨op, reply⟩])
      (List.getElem?_set_self bound) later with ⟨moves, after, own, ran⟩
    refine ⟨.step i :: moves, after, ?_, ?_⟩
    · intro move member
      rcases List.mem_cons.mp member with rfl | rest
      · rfl
      · exact own move rest
    · rw [System.run_cons first, ran]
      dsimp only
      rw [List.set_set]

end Calls

end

end Common
