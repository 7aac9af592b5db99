import Mathlib.Data.List.Basic
import Mathlib.Tactic.Common

namespace Common

abbrev Bytes := List UInt8

/-- The UTF-8 bytes of a literal, as a C++ compiler lays out the literals of these sources. -/
def bytes (s : String) : Bytes := s.toByteArray.data.toList

def CR : UInt8 := 13
def LF : UInt8 := 10
def space : UInt8 := 32

/-- `isspace` in the "C" locale. -/
def isspace (c : UInt8) : Bool := c = 32 || (9 ≤ c && c ≤ 13)

/-- `tolower` in the "C" locale. -/
def tolower (c : UInt8) : UInt8 := if 65 ≤ c ∧ c ≤ 90 then c + 32 else c

def isdigit (c : UInt8) : Bool := 48 ≤ c && c ≤ 57

/-- The text before the first `c` and the text after it. -/
def splitFirst (c : UInt8) : Bytes → Option (Bytes × Bytes)
  | [] => none
  | b :: rest => if b = c then some ([], rest) else (splitFirst c rest).map fun p => (b :: p.1, p.2)

/-- `std::string::find` of a text: the offset of its first occurrence. -/
def findText (needle : Bytes) : Bytes → Option Nat
  | [] => if needle = [] then some 0 else none
  | b :: rest =>
    if needle.isPrefixOf (b :: rest) then some 0 else (findText needle rest).map (· + 1)

theorem findText_eq_some {needle text : Bytes} {pos : Nat} (found : findText needle text = some pos) :
    pos ≤ text.length ∧ needle <+: text.drop pos := by
  induction text generalizing pos with
  | nil =>
    unfold findText at found
    split at found
    · rename_i empty
      cases found
      simp [empty]
    · cases found
  | cons b rest ih =>
    unfold findText at found
    split at found
    · rename_i here
      cases found
      exact ⟨Nat.zero_le _, List.isPrefixOf_iff_prefix.mp here⟩
    · obtain ⟨inner, innerFound, rfl⟩ := Option.map_eq_some_iff.mp found
      obtain ⟨bound, occurs⟩ := ih innerFound
      exact ⟨Nat.succ_le_succ bound, occurs⟩

theorem findText_zero {needle text : Bytes} (nonempty : needle ≠ []) :
    findText needle text = some 0 ↔ needle <+: text := by
  cases text with
  | nil => simp [findText, nonempty]
  | cons b rest =>
    simp only [findText]
    split
    · rename_i here
      exact ⟨fun _ => List.isPrefixOf_iff_prefix.mp here, fun _ => rfl⟩
    · rename_i elsewhere
      apply Iff.intro
      · intro found
        obtain ⟨inner, _, absurd_⟩ := Option.map_eq_some_iff.mp found
        omega
      · exact fun occurs => absurd (List.isPrefixOf_iff_prefix.mpr occurs) elsewhere

def crlfOffset : Bytes → Option Nat
  | [] => none
  | [_] => none
  | a :: b :: rest =>
    if a = CR ∧ b = LF then some 0 else (crlfOffset (b :: rest)).map (· + 1)

theorem crlfOffset_append {text : Bytes} {offset : Nat} (found : crlfOffset text = some offset)
    (more : Bytes) : crlfOffset (text ++ more) = some offset := by
  induction text generalizing offset with
  | nil => cases found
  | cons a tail ih =>
    cases tail with
    | nil => cases found
    | cons b rest =>
      simp only [crlfOffset, List.cons_append] at found ⊢
      split at found
      · rename_i here
        simpa [here] using found
      · rename_i later
        simp only [later, ↓reduceIte]
        obtain ⟨inner, innerFound, rfl⟩ := Option.map_eq_some_iff.mp found
        have extended := ih innerFound
        simp only [List.cons_append] at extended
        simp [extended]

theorem crlfOffset_bound {text : Bytes} {offset : Nat} (found : crlfOffset text = some offset) :
    offset + 2 ≤ text.length := by
  induction text generalizing offset with
  | nil => cases found
  | cons a tail ih =>
    cases tail with
    | nil => cases found
    | cons b rest =>
      simp only [crlfOffset] at found
      split at found
      · cases found
        simp
      · obtain ⟨inner, innerFound, rfl⟩ := Option.map_eq_some_iff.mp found
        have := ih innerFound
        simp only [List.length_cons] at this ⊢
        omega

theorem take_append_of_crlf {text : Bytes} {offset : Nat} (found : crlfOffset text = some offset)
    (more : Bytes) : (text ++ more).take offset = text.take offset := by
  have := crlfOffset_bound found
  exact List.take_append_of_le_length (by omega)

theorem drop_append_of_crlf {text : Bytes} {offset : Nat} (found : crlfOffset text = some offset)
    (more : Bytes) : (text ++ more).drop (offset + 2) = text.drop (offset + 2) ++ more :=
  List.drop_append_of_le_length (crlfOffset_bound found)

end Common
