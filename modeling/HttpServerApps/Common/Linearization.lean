import Mathlib.Data.List.Nodup
import HttpServerApps.Common.Program

namespace Common

/-! Calls whose steps interleave, and what each would do if it happened at once. -/

/-- What becomes of an object when an operation happens to it, and what the caller is told. -/
structure Atomic (Input Abstract Outcome : Type) where
  step : Input → Abstract → Outcome → Abstract → Prop

/-- An operation that has happened, by the place of its call. -/
structure Happened (Input Outcome : Type) where
  place : Nat
  input : Input
  outcome : Outcome

/-- Operations that happen one after the other. -/
inductive Atomic.History {Input Abstract Outcome : Type} (atomic : Atomic Input Abstract Outcome) (start : Abstract) :
    List (Happened Input Outcome) → Abstract → Prop where
  | nil : History atomic start [] start
  | snoc {order now later happened} (before : History atomic start order now)
      (step : atomic.step happened.input now happened.outcome later) :
      History atomic start (order ++ [happened]) later

section

variable {Input State Op : Type} {Reply : Op → Type} {Thrown Value Abstract : Type}

/-- What a call is to end with: `none` while it has not happened. -/
abbrev Promise (Thrown Value : Type) := Option (Except Thrown Value)

def Promise.Kept (order : List (Happened Input (Except Thrown Value))) (place : Nat) (input : Input) :
    Promise Thrown Value → Prop
  | none => ∀ happened ∈ order, happened.place ≠ place
  | some outcome => ⟨place, input, outcome⟩ ∈ order

namespace Calls

/-- `Fits` says how far a call can have come: it happens at one of its steps, and ends as was promised then. -/
structure Linearizes (calls : Calls Input State Op Reply Thrown Value)
    (atomic : Atomic Input Abstract (Except Thrown Value)) (Admitted : Input → Prop)
    (Represents : State → Abstract → Prop)
    (Fits : Input → Promise Thrown Value → Abstract → Program Op Reply Thrown Value → Prop) : Prop where
  enters : ∀ input now, Admitted input → Fits input none now (calls.program input)
  stays : ∀ input now outcome later, atomic.step input now outcome later →
    ∀ other promise program, Fits other promise now program → Fits other promise later program
  ends : ∀ input promise now outcome, Fits input promise now (.done outcome) → promise = some outcome
  moves : ∀ input promise state now op next, Represents state now → Fits input promise now (.call op next) →
    (Represents (calls.perform input state op).1 now ∧ Fits input promise now (next (calls.perform input state op).2)) ∨
      promise = none ∧ ∃ outcome later, atomic.step input now outcome later ∧
        Represents (calls.perform input state op).1 later ∧
        Fits input (some outcome) later (next (calls.perform input state op).2)

/-- The calls of the pool have happened in this order, as far as they have. -/
structure Linearized (atomic : Atomic Input Abstract (Except Thrown Value)) (Represents : State → Abstract → Prop)
    (Fits : Input → Promise Thrown Value → Abstract → Program Op Reply Thrown Value → Prop)
    (start : Abstract) (order : List (Happened Input (Except Thrown Value))) (now : Abstract)
    (pool : Pool Input State Op Reply Thrown Value) : Prop where
  history : atomic.History start order now
  represents : Represents pool.shared now
  fits : ∀ i caller, pool.callers[i]? = some caller →
    ∃ promise, Fits caller.input promise now caller.program ∧ Promise.Kept order i caller.input promise
  once : (order.map Happened.place).Nodup
  known : ∀ happened ∈ order, ∃ caller, pool.callers[happened.place]? = some caller ∧ caller.input = happened.input

variable {calls : Calls Input State Op Reply Thrown Value} {atomic : Atomic Input Abstract (Except Thrown Value)}
  {Admitted : Input → Prop} {Represents : State → Abstract → Prop}
  {Fits : Input → Promise Thrown Value → Abstract → Program Op Reply Thrown Value → Prop}
  {start now : Abstract} {order : List (Happened Input (Except Thrown Value))}
  {pool : Pool Input State Op Reply Thrown Value}

theorem Linearized.enter (linearizes : calls.Linearizes atomic Admitted Represents Fits)
    (linearized : Linearized atomic Represents Fits start order now pool) {input : Input} (admitted : Admitted input) :
    Linearized atomic Represents Fits start order now
      { pool with callers := pool.callers ++ [{ input, program := calls.program input }] } := by
  refine ⟨linearized.history, linearized.represents, ?_, linearized.once, ?_⟩
  · intro i caller there
    rcases Nat.lt_or_ge i pool.callers.length with old | new
    · rw [List.getElem?_append_left old] at there
      exact linearized.fits i caller there
    · rw [List.getElem?_append_right new] at there
      have isNew := List.mem_of_getElem? there
      rw [List.mem_singleton] at isNew
      subst isNew
      refine ⟨none, linearizes.enters input now admitted, ?_⟩
      intro happened member same
      rcases linearized.known happened member with ⟨other, otherThere, _⟩
      have bound := (List.getElem?_eq_some_iff.mp otherThere).1
      omega
  · intro happened member
    rcases linearized.known happened member with ⟨caller, there, same⟩
    have bound := (List.getElem?_eq_some_iff.mp there).1
    exact ⟨caller, (List.getElem?_append_left bound).trans there, same⟩

theorem known_set {i : Nat} {caller new : Caller Input Op Reply Thrown Value} (there : pool.callers[i]? = some caller)
    (same : new.input = caller.input) {place : Nat} {input : Input}
    (known : ∃ other, pool.callers[place]? = some other ∧ other.input = input) :
    ∃ other, (pool.callers.set i new)[place]? = some other ∧ other.input = input := by
  rcases known with ⟨other, otherThere, otherInput⟩
  have bound := (List.getElem?_eq_some_iff.mp there).1
  by_cases here : i = place
  · subst here
    cases there.symm.trans otherThere
    exact ⟨new, List.getElem?_set_self bound, same.trans otherInput⟩
  · exact ⟨other, (List.getElem?_set_ne here).trans otherThere, otherInput⟩

/-- A call takes a step at which nothing happens. -/
theorem Linearized.quiet (linearized : Linearized atomic Represents Fits start order now pool) {i : Nat}
    {caller new : Caller Input Op Reply Thrown Value} {shared : State} {promise : Promise Thrown Value}
    (there : pool.callers[i]? = some caller) (same : new.input = caller.input) (represents : Represents shared now)
    (fits : Fits caller.input promise now new.program) (kept : Promise.Kept order i caller.input promise) :
    Linearized atomic Represents Fits start order now ⟨shared, pool.callers.set i new⟩ := by
  have bound := (List.getElem?_eq_some_iff.mp there).1
  refine ⟨linearized.history, represents, ?_, linearized.once, ?_⟩
  · intro j other found
    by_cases here : i = j
    · subst here
      cases (List.getElem?_set_self bound).symm.trans found
      rw [same]
      exact ⟨promise, fits, kept⟩
    · rw [List.getElem?_set_ne here] at found
      exact linearized.fits j other found
  · intro happened member
    exact known_set there same (linearized.known happened member)

/-- A call takes the step at which it happens. -/
theorem Linearized.happen (linearizes : calls.Linearizes atomic Admitted Represents Fits)
    (linearized : Linearized atomic Represents Fits start order now pool) {i : Nat}
    {caller new : Caller Input Op Reply Thrown Value} {shared : State} {outcome : Except Thrown Value}
    {later : Abstract} (there : pool.callers[i]? = some caller) (same : new.input = caller.input)
    (pending : ∀ happened ∈ order, happened.place ≠ i) (step : atomic.step caller.input now outcome later)
    (represents : Represents shared later) (fits : Fits caller.input (some outcome) later new.program) :
    Linearized atomic Represents Fits start (order ++ [⟨i, caller.input, outcome⟩]) later
      ⟨shared, pool.callers.set i new⟩ := by
  have bound := (List.getElem?_eq_some_iff.mp there).1
  refine ⟨.snoc linearized.history step, represents, ?_, ?_, ?_⟩
  · intro j other found
    by_cases here : i = j
    · subst here
      cases (List.getElem?_set_self bound).symm.trans found
      rw [same]
      exact ⟨some outcome, fits, List.mem_append_right _ List.mem_cons_self⟩
    · rw [List.getElem?_set_ne here] at found
      rcases linearized.fits j other found with ⟨promise, otherFits, kept⟩
      refine ⟨promise, linearizes.stays _ _ _ _ step _ _ _ otherFits, ?_⟩
      cases promise with
      | none =>
        intro happened member
        rcases List.mem_append.mp member with old | new
        · exact kept happened old
        · rw [List.mem_singleton.mp new]
          exact here
      | some promised => exact List.mem_append_left _ kept
  · rw [List.map_append, List.nodup_append]
    refine ⟨linearized.once, List.nodup_singleton _, ?_⟩
    intro place old other new
    rcases List.mem_map.mp old with ⟨happened, member, rfl⟩
    rw [List.mem_singleton.mp new]
    exact pending happened member
  · intro happened member
    apply known_set there same
    rcases List.mem_append.mp member with old | new
    · exact linearized.known happened old
    · rw [List.mem_singleton.mp new]
      exact ⟨caller, there, rfl⟩

/-- The step lemma. -/
theorem Linearized.step (linearizes : calls.Linearizes atomic Admitted Represents Fits)
    (linearized : Linearized atomic Represents Fits start order now pool) {move : Move Input}
    {after : Pool Input State Op Reply Thrown Value} (admitted : ∀ input, move = .enter input → Admitted input)
    (step : calls.pool.step pool move = some after) :
    ∃ more later, Linearized atomic Represents Fits start (order ++ more) later after := by
  rcases pool_cases step with ⟨input, rfl, rfl⟩ | ⟨i, caller, op, next, rfl, there, shape, rfl⟩
  · refine ⟨[], now, ?_⟩
    rw [List.append_nil]
    exact linearized.enter linearizes (admitted input rfl)
  · rcases linearized.fits i caller there with ⟨promise, fits, kept⟩
    rw [shape] at fits
    rcases linearizes.moves caller.input promise pool.shared now op next linearized.represents fits with
      ⟨represents, nextFits⟩ | ⟨rfl, outcome, later, happens, represents, nextFits⟩
    · refine ⟨[], now, ?_⟩
      rw [List.append_nil]
      exact linearized.quiet there rfl represents nextFits kept
    · exact ⟨_, later, linearized.happen linearizes there rfl kept happens represents nextFits⟩

/-- The run lemma. -/
theorem Linearized.run (linearizes : calls.Linearizes atomic Admitted Represents Fits) {moves : List (Move Input)}
    (linearized : Linearized atomic Represents Fits start order now pool)
    {after : Pool Input State Op Reply Thrown Value} (admitted : ∀ input, .enter input ∈ moves → Admitted input)
    (run : calls.pool.run pool moves = some after) :
    ∃ more later, Linearized atomic Represents Fits start (order ++ more) later after := by
  induction moves generalizing pool order now with
  | nil =>
    cases run
    refine ⟨[], now, ?_⟩
    rw [List.append_nil]
    exact linearized
  | cons move moves ih =>
    rcases Option.bind_eq_some_iff.mp run with ⟨next, step, later⟩
    have first : ∀ input, move = .enter input → Admitted input := by
      intro input isEnter
      apply admitted input
      rw [isEnter]
      exact List.mem_cons_self
    rcases linearized.step linearizes first step with ⟨more, _, nextLinearized⟩
    rcases ih nextLinearized (fun input member => admitted input (List.mem_cons_of_mem _ member)) later with
      ⟨further, final, finalLinearized⟩
    rw [List.append_assoc] at finalLinearized
    exact ⟨_, final, finalLinearized⟩

end Calls

end

end Common
