import HttpServerApps.Chat.MessageInsert

namespace Chat.AIHelper

open Common Sql

/-- The lexer reads a literal in these quotes that has not ended. -/
inductive Inside (quote : Quote) (before : List Token) : Lexing → Prop
  | reading (value : Bytes) : Inside quote before ⟨.string quote value, before⟩
  | escaping (value : Bytes) : Inside quote before ⟨.escape quote value, before⟩

/-- In quotes, the escaped input is one literal, wherever it stands and whatever follows it. -/
structure OneLiteral (quote : Quote) (input : Bytes) : Prop where
  whole : lex (quoted quote input) = some [.string input]
  /-- It does not end early. -/
  stays : ∀ before part, part <+: escapeString input → Inside quote before (run ⟨.blank, before⟩ (quote.byte :: part))
  /-- It does not run past its closing quote. -/
  ends : ∀ before rest, rest.head? ≠ some quote.byte →
    finish (run ⟨.blank, before⟩ (quoted quote input ++ rest)) =
      finish (run ⟨.blank, before ++ [.string input]⟩ rest)

/-! What an escaped character can be. -/

theorem escapeChar_cases (c : UInt8) :
    escapeChar c = [c] ∨ ∃ d, escapeChar c = [backslash, d] := by
  unfold escapeChar
  split
  · exact Or.inr ⟨92, rfl⟩
  split
  · exact Or.inr ⟨39, rfl⟩
  split
  · exact Or.inr ⟨34, rfl⟩
  split
  · exact Or.inr ⟨110, rfl⟩
  split
  · exact Or.inr ⟨114, rfl⟩
  split
  · exact Or.inr ⟨116, rfl⟩
  · exact Or.inl rfl

theorem inside_escapeChar {quote : Quote} {before : List Token} {c : UInt8} (value : Bytes) {part : Bytes}
    (starts : part <+: escapeChar c) : Inside quote before (run ⟨.string quote value, before⟩ part) := by
  by_cases whole : part = escapeChar c
  · rw [whole, run_escapeChar]
    exact .reading _
  · rcases starts with ⟨more, shape⟩
    rcases escapeChar_cases c with one | ⟨d, two⟩
    · rw [one] at shape whole
      cases part with
      | nil => exact .reading value
      | cons first part =>
        simp only [List.cons_append, List.cons.injEq, List.append_eq_nil_iff] at shape
        rcases shape with ⟨rfl, rfl, _⟩
        exact absurd rfl whole
    · rw [two] at shape whole
      cases part with
      | nil => exact .reading value
      | cons first part =>
        simp only [List.cons_append, List.cons.injEq] at shape
        rcases shape with ⟨rfl, shape⟩
        cases part with
        | nil => exact .escaping value
        | cons second part =>
          simp only [List.cons_append, List.cons.injEq, List.append_eq_nil_iff] at shape
          rcases shape with ⟨rfl, rfl, _⟩
          exact absurd rfl whole

/-- By induction on the input; the literal so far is what the escapes before have stood for. -/
theorem inside_escapeString {quote : Quote} {before : List Token} (value : Bytes) {part input : Bytes}
    (starts : part <+: escapeString input) : Inside quote before (run ⟨.string quote value, before⟩ part) := by
  induction input generalizing value part with
  | nil =>
    have empty : part = [] := List.prefix_nil.mp starts
    rw [empty]
    exact .reading value
  | cons c input ih =>
    have shape : escapeString (c :: input) = escapeChar c ++ escapeString input := List.flatMap_cons
    rw [shape] at starts
    rcases List.prefix_or_prefix_of_prefix starts (List.prefix_append _ _) with short | ⟨more, rfl⟩
    · exact inside_escapeChar value short
    · rw [run_append, run_escapeChar]
      exact ih (value ++ [c]) ((List.prefix_append_right_inj _).mp starts)

theorem run_opening (quote : Quote) (before : List Token) (text : Bytes) :
    run ⟨.blank, before⟩ (quote.byte :: text) = run ⟨.string quote [], before⟩ text := by
  cases quote <;> rfl

theorem run_quoted (quote : Quote) (before : List Token) (input : Bytes) :
    run ⟨.blank, before⟩ (quoted quote input) = ⟨.closing quote input, before⟩ := by
  have closes : step ⟨.string quote input, before⟩ quote.byte = ⟨.closing quote input, before⟩ := by
    cases quote <;> rfl
  unfold quoted
  rw [run_opening, run_append, run_escapeString, List.nil_append]
  exact closes

theorem finish_closed (quote : Quote) (before : List Token) (value : Bytes) {rest : Bytes}
    (other : rest.head? ≠ some quote.byte) :
    finish (run ⟨.closing quote value, before⟩ rest) = finish (run ⟨.blank, before ++ [.string value]⟩ rest) := by
  cases rest with
  | nil => rfl
  | cons c rest =>
    have different : c ≠ quote.byte := fun same => other (congrArg some same)
    have goes : step ⟨.closing quote value, before⟩ c = step ⟨.blank, before ++ [.string value]⟩ c := by
      simp only [step]
      rw [if_neg different]
    rw [run_cons, run_cons, goes]

theorem oneLiteral (quote : Quote) (input : Bytes) : OneLiteral quote input where
  whole := by
    unfold lex
    rw [run_quoted]
    rfl
  stays before part starts := by
    rw [run_opening]
    exact inside_escapeString [] starts
  ends before rest other := by
    rw [run_append, run_quoted]
    exact finish_closed quote before input other

/-- Escaping loses nothing, and the escaped text stays between its quotes. -/
theorem escaping_lossless (quote : Quote) :
    Function.Injective escapeString ∧ ∀ input, OneLiteral quote input := by
  apply And.intro
  · intro first second same
    have one := (oneLiteral quote first).whole
    have other := (oneLiteral quote second).whole
    have text : quoted quote first = quoted quote second := by
      unfold quoted
      rw [same]
    rw [text, other] at one
    cases one
    rfl
  · exact oneLiteral quote

end Chat.AIHelper
