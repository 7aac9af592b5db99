import Mathlib.Data.List.TakeWhile
import Mathlib.Tactic.Common

namespace Common

/-- A piece of a regular expression without alternatives: one symbol, or a captured group of one or
    more allowed symbols. -/
inductive Piece (Symbol : Type) where
  | lit (symbol : Symbol)
  | group (allowed : Symbol → Bool)

namespace SequenceRegex

variable {Symbol : Type}

/-- The whole input is the pieces one after the other; the last argument lists the captures. -/
inductive Matches : List (Piece Symbol) → List Symbol → List (List Symbol) → Prop
  | nil : Matches [] [] []
  | lit {symbol pieces input captures} (rest : Matches pieces input captures) :
      Matches (.lit symbol :: pieces) (symbol :: input) captures
  | group {allowed pieces value input captures} (nonempty : value ≠ [])
      (within : ∀ symbol ∈ value, allowed symbol = true) (rest : Matches pieces input captures) :
      Matches (.group allowed :: pieces) (value ++ input) (value :: captures)

theorem Matches.literal_prefix {text input : List Symbol} {pieces : List (Piece Symbol)}
    {captures : List (List Symbol)} (matches_ : Matches (text.map .lit ++ pieces) input captures) :
    text <+: input := by
  induction text generalizing input with
  | nil => exact List.nil_prefix
  | cons symbol text ih =>
    rw [List.map_cons, List.cons_append] at matches_
    cases matches_ with
    | lit rest => exact List.cons_prefix_cons.mpr ⟨rfl, ih rest⟩

variable [DecidableEq Symbol]

/-- Backtracking match of the whole input; a group tries the longest text first. -/
def regexMatch : List (Piece Symbol) → List Symbol → Option (List (List Symbol))
  | [], [] => some []
  | [], _ :: _ => none
  | .lit _ :: _, [] => none
  | .lit symbol :: pieces, first :: input =>
    if first = symbol then regexMatch pieces input else none
  | .group allowed :: pieces, input =>
    (List.range (input.takeWhile allowed).length).reverse.findSome? fun n =>
      (regexMatch pieces (input.drop (n + 1))).map (input.take (n + 1) :: ·)

theorem regexMatch_sound {pieces : List (Piece Symbol)} {input : List Symbol}
    {captures : List (List Symbol)} (found : regexMatch pieces input = some captures) :
    Matches pieces input captures := by
  induction pieces generalizing input captures with
  | nil =>
    cases input with
    | nil =>
      cases found
      exact .nil
    | cons first input => cases found
  | cons piece pieces ih =>
    cases piece with
    | lit symbol =>
      cases input with
      | nil => cases found
      | cons first input =>
        simp only [regexMatch] at found
        split at found
        · rename_i same
          subst same
          exact .lit (ih found)
        · cases found
    | group allowed =>
      simp only [regexMatch] at found
      obtain ⟨n, member, tried⟩ := List.exists_of_findSome?_eq_some found
      obtain ⟨inner, matched, rfl⟩ := Option.map_eq_some_iff.mp tried
      have bound : n + 1 ≤ (input.takeWhile allowed).length := by
        have := List.mem_range.mp (List.mem_reverse.mp member)
        omega
      have longest : input.take (n + 1) <+: input.takeWhile allowed :=
        List.prefix_of_prefix_length_le (List.take_prefix _ _) (List.takeWhile_prefix _)
          (by rw [List.length_take]; omega)
      have nonempty : input.take (n + 1) ≠ [] := by
        have short := (List.takeWhile_prefix (l := input) allowed).length_le
        intro empty
        have := congrArg List.length empty
        rw [List.length_take] at this
        simp only [List.length_nil] at this
        omega
      have whole := Matches.group nonempty
        (fun symbol inside => List.mem_takeWhile_imp (longest.subset inside)) (ih matched)
      rwa [List.take_append_drop] at whole

theorem regexMatch_complete {pieces : List (Piece Symbol)} {input : List Symbol}
    {captures : List (List Symbol)} (matches_ : Matches pieces input captures) :
    (regexMatch pieces input).isSome = true := by
  induction matches_ with
  | nil => rfl
  | lit rest ih => simpa [regexMatch] using ih
  | @group allowed pieces value input captures nonempty within rest ih =>
    have positive : 0 < value.length := List.length_pos_iff.mpr nonempty
    have long : value.length ≤ ((value ++ input).takeWhile allowed).length := by
      rw [List.takeWhile_append_of_pos within, List.length_append]
      omega
    simp only [regexMatch, List.findSome?_isSome_iff]
    refine ⟨value.length - 1, ?_, ?_⟩
    · simp only [List.mem_reverse, List.mem_range]
      omega
    · have back : value.length - 1 + 1 = value.length := by omega
      simpa [back] using ih

theorem regexMatch_iff {pieces : List (Piece Symbol)} {input : List Symbol} :
    (regexMatch pieces input).isSome = true ↔ ∃ captures, Matches pieces input captures := by
  apply Iff.intro
  · intro found
    obtain ⟨captures, found⟩ := Option.isSome_iff_exists.mp found
    exact ⟨captures, regexMatch_sound found⟩
  · intro given
    obtain ⟨captures, matches_⟩ := given
    exact regexMatch_complete matches_

end SequenceRegex

end Common
