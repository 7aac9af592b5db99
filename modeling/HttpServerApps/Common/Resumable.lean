import Mathlib.Data.List.Basic
import Mathlib.Tactic.Common

namespace Common

/-- What one step of a parser does with the input at hand: `wait` for more of it, `advance` past
    some of it, or `halt` with an answer. -/
inductive Step (State Answer : Type) where
  | wait
  | advance (next : State) (used : Nat)
  | halt (answer : Answer) (used : Nat)

/-- A parser that can be suspended for lack of input. A step that does not wait looks only at input
    that is already there, so input that arrives later does not change it. -/
structure Resumable (State Answer Symbol : Type) where
  step : State → List Symbol → Step State Answer
  advance_used : ∀ state input next used,
    step state input = .advance next used → used ≤ input.length
  halt_used : ∀ state input answer used,
    step state input = .halt answer used → used ≤ input.length
  stable : ∀ state input more,
    step state input ≠ .wait → step state (input ++ more) = step state input

inductive Verdict (State Answer : Type) where
  | suspended (state : State)
  | halted (answer : Answer)
  deriving DecidableEq

namespace Resumable

variable {State Answer Symbol : Type} (parser : Resumable State Answer Symbol)

/-- `Runs s xs v rest`: stepping from `s` over `xs` ends in `v` and leaves `rest`. -/
inductive Runs : State → List Symbol → Verdict State Answer → List Symbol → Prop
  | wait {state input} (waits : parser.step state input = .wait) :
      Runs state input (.suspended state) input
  | halt {state input answer used} (halts : parser.step state input = .halt answer used) :
      Runs state input (.halted answer) (input.drop used)
  | advance {state input next used verdict rest}
      (moves : parser.step state input = .advance next used)
      (later : Runs next (input.drop used) verdict rest) : Runs state input verdict rest

variable {parser}

theorem Runs.deterministic {state : State} {input : List Symbol} {first second : Verdict State Answer}
    {left right : List Symbol} (run : parser.Runs state input first left)
    (other : parser.Runs state input second right) : first = second ∧ left = right := by
  induction run generalizing second right with
  | wait waits =>
    cases other with
    | wait => exact ⟨rfl, rfl⟩
    | halt halts => rw [waits] at halts; cases halts
    | advance moves => rw [waits] at moves; cases moves
  | halt halts =>
    cases other with
    | wait waits => rw [halts] at waits; cases waits
    | halt again => rw [halts] at again; cases again; exact ⟨rfl, rfl⟩
    | advance moves => rw [halts] at moves; cases moves
  | advance moves _ ih =>
    cases other with
    | wait waits => rw [moves] at waits; cases waits
    | halt halts => rw [moves] at halts; cases halts
    | advance again later => rw [moves] at again; cases again; exact ih later

theorem Runs.suspended_waits {state final : State} {input rest : List Symbol}
    (run : parser.Runs state input (.suspended final) rest) : parser.step final rest = .wait := by
  generalize shape : Verdict.suspended final = verdict at run
  induction run with
  | wait waits => cases shape; exact waits
  | halt => cases shape
  | advance _ _ ih => exact ih shape

theorem advance_extend {state next : State} {input : List Symbol} {used : Nat}
    (moves : parser.step state input = .advance next used) (more : List Symbol) :
    parser.step state (input ++ more) = .advance next used := by
  rw [parser.stable state input more (by simp [moves]), moves]

theorem halt_extend {state : State} {answer : Answer} {input : List Symbol} {used : Nat}
    (halts : parser.step state input = .halt answer used) (more : List Symbol) :
    parser.step state (input ++ more) = .halt answer used := by
  rw [parser.stable state input more (by simp [halts]), halts]

theorem Runs.halted_extend {state : State} {input rest : List Symbol} {answer : Answer}
    (run : parser.Runs state input (.halted answer) rest) (more : List Symbol) :
    parser.Runs state (input ++ more) (.halted answer) (rest ++ more) := by
  generalize shape : Verdict.halted answer = verdict at run
  induction run with
  | wait => cases shape
  | halt halts =>
    cases shape
    have kept := parser.halt_used _ _ _ _ halts
    rw [← List.drop_append_of_le_length kept]
    exact .halt (halt_extend halts more)
  | @advance state input next used verdict rest moves _ ih =>
    have kept := parser.advance_used _ _ _ _ moves
    have later := ih shape
    rw [← List.drop_append_of_le_length kept] at later
    exact .advance (advance_extend moves more) later

/-- A suspended run is resumed by later input where it stopped. -/
theorem Runs.resume {state final : State} {input rest more left : List Symbol}
    {verdict : Verdict State Answer} (run : parser.Runs state input (.suspended final) rest)
    (later : parser.Runs final (rest ++ more) verdict left) :
    parser.Runs state (input ++ more) verdict left := by
  generalize shape : Verdict.suspended final = stopped at run
  induction run with
  | wait => cases shape; exact later
  | halt => cases shape
  | @advance state input next used stopped rest moves _ ih =>
    have kept := parser.advance_used _ _ _ _ moves
    have resumed := ih later shape
    rw [← List.drop_append_of_le_length kept] at resumed
    exact .advance (advance_extend moves more) resumed

/-- Chunks appended one at a time to the input left over so far, with a run after each, up to the
    first run that halts. The last argument is the unconsumed input with the chunks not yet used. -/
inductive Feeds (parser : Resumable State Answer Symbol) :
    State → List Symbol → List (List Symbol) → Verdict State Answer → List Symbol → Prop
  | nil {state pending} : Feeds parser state pending [] (.suspended state) pending
  | halt {state pending chunk chunks answer rest}
      (run : parser.Runs state (pending ++ chunk) (.halted answer) rest) :
      Feeds parser state pending (chunk :: chunks) (.halted answer) (rest ++ chunks.flatten)
  | more {state pending chunk chunks next rest verdict left}
      (run : parser.Runs state (pending ++ chunk) (.suspended next) rest)
      (later : Feeds parser next rest chunks verdict left) :
      Feeds parser state pending (chunk :: chunks) verdict left

/-- However the input is cut into chunks, feeding them is one run over their concatenation. -/
theorem Feeds.runs {state : State} {pending left : List Symbol} {chunks : List (List Symbol)}
    {verdict : Verdict State Answer} (feeds : parser.Feeds state pending chunks verdict left)
    (quiet : parser.step state pending = .wait) :
    parser.Runs state (pending ++ chunks.flatten) verdict left := by
  induction feeds with
  | nil => simpa using Runs.wait quiet
  | halt run =>
    rw [List.flatten_cons, ← List.append_assoc]
    exact run.halted_extend _
  | more run _ ih =>
    rw [List.flatten_cons, ← List.append_assoc]
    exact run.resume (ih run.suspended_waits)

end Resumable

end Common
