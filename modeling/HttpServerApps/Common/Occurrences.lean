import HttpServerApps.Common.Search

namespace Common

/-! The places where a text occurs. -/

def occurrences (needle : Bytes) : Bytes → Nat
  | [] => 0
  | b :: rest => (if needle.isPrefixOf (b :: rest) then 1 else 0) + occurrences needle rest

/-- No occurrence starts in `left` when `right` follows it. -/
def NoneStarts (needle left right : Bytes) : Prop :=
  ∀ before after, left = before ++ after → after ≠ [] → ¬ needle <+: after ++ right

theorem NoneStarts.tail {needle left right : Bytes} {b : UInt8} (free : NoneStarts needle (b :: left) right) :
    NoneStarts needle left right := by
  intro before after shape filled
  exact free (b :: before) after (by rw [shape]; rfl) filled

theorem NoneStarts.cons {needle left right : Bytes} {b : UInt8} (here : ¬ needle <+: b :: (left ++ right))
    (later : NoneStarts needle left right) : NoneStarts needle (b :: left) right := by
  intro before after shape filled
  cases before with
  | nil =>
    cases shape
    exact here
  | cons c before =>
    cases shape
    exact later before after rfl filled

theorem occurrences_le_length (needle text : Bytes) : occurrences needle text ≤ text.length := by
  induction text with
  | nil => exact Nat.le_refl 0
  | cons b rest ih =>
    rw [occurrences, List.length_cons]
    split <;> omega

theorem occurrences_right (needle left right : Bytes) :
    occurrences needle right ≤ occurrences needle (left ++ right) := by
  induction left with
  | nil => exact Nat.le_refl _
  | cons b left ih =>
    rw [List.cons_append, occurrences]
    omega

theorem occurrences_skip (needle left right : Bytes) :
    occurrences needle (left ++ right) = occurrences needle right ↔ NoneStarts needle left right := by
  induction left with
  | nil =>
    apply iff_of_true rfl
    intro before after shape filled
    exact absurd (List.append_eq_nil_iff.mp shape.symm).2 filled
  | cons b left ih =>
    have least := occurrences_right needle left right
    rw [List.cons_append, occurrences]
    by_cases here : needle.isPrefixOf (b :: (left ++ right)) = true
    · rw [if_pos here]
      apply iff_of_false
      · omega
      · intro free
        exact free [] (b :: left) rfl (List.cons_ne_nil _ _) (List.isPrefixOf_iff_prefix.mp here)
    · rw [if_neg here, Nat.zero_add, ih]
      apply Iff.intro
      · exact fun later => later.cons fun occurs => here (List.isPrefixOf_iff_prefix.mpr occurs)
      · exact fun free => free.tail

theorem occurrences_eq_zero {needle text : Bytes} (filled : needle ≠ []) :
    occurrences needle text = 0 ↔ findText needle text = none := by
  have skip := occurrences_skip needle text []
  rw [List.append_nil] at skip
  rw [findText_none filled]
  apply skip.trans
  apply Iff.intro
  · intro free before after shape
    by_cases empty : after = []
    · rw [empty]
      exact fun occurs => filled (List.prefix_nil.mp occurs)
    · have absent := free before after shape empty
      rw [List.append_nil] at absent
      exact absent
  · intro absent before after shape _
    rw [List.append_nil]
    exact absent before after shape

theorem noneStarts_absent {c : UInt8} {left : Bytes} (absent : c ∉ left) (tail right : Bytes) :
    NoneStarts (c :: tail) left right := by
  intro before after shape filled occurs
  cases after with
  | nil => exact filled rfl
  | cons d after =>
    rcases List.cons_prefix_cons.mp occurs with ⟨rfl, _⟩
    exact absent (by rw [shape]; simp)

/-- The first character of the text occurs only first, so that two occurrences do not overlap. -/
theorem occurrences_here {c : UInt8} {tail : Bytes} (once : c ∉ tail) (right : Bytes) :
    occurrences (c :: tail) (c :: tail ++ right) = 1 + occurrences (c :: tail) right := by
  have here : (c :: tail).isPrefixOf (c :: (tail ++ right)) = true :=
    List.isPrefixOf_iff_prefix.mpr (List.prefix_append (c :: tail) right)
  rw [List.cons_append, occurrences, if_pos here, (occurrences_skip _ tail right).mpr (noneStarts_absent once tail right)]

theorem findText_cut {needle text : Bytes} {pos : Nat} (found : findText needle text = some pos) :
    text = text.take pos ++ (needle ++ text.drop (pos + needle.length)) := by
  rcases (findText_eq_some found).2 with ⟨rest, shape⟩
  have behind : text.drop (pos + needle.length) = rest := by rw [← List.drop_drop, ← shape, List.drop_left]
  rw [behind, shape, List.take_append_drop]

theorem findText_first {needle text : Bytes} {pos : Nat} (found : findText needle text = some pos) :
    NoneStarts needle (text.take pos) (text.drop pos) := by
  induction text generalizing pos with
  | nil =>
    intro before after shape filled
    rw [List.take_nil] at shape
    exact absurd (List.append_eq_nil_iff.mp shape.symm).2 filled
  | cons b rest ih =>
    by_cases here : needle.isPrefixOf (b :: rest) = true
    · rw [findText, if_pos here] at found
      cases found
      intro before after shape filled
      exact absurd (List.append_eq_nil_iff.mp shape.symm).2 filled
    · rw [findText, if_neg here] at found
      rcases Option.map_eq_some_iff.mp found with ⟨inner, innerFound, rfl⟩
      have later := ih innerFound
      rw [List.take_succ_cons, List.drop_succ_cons]
      apply later.cons
      rw [List.take_append_drop]
      exact fun occurs => here (List.isPrefixOf_iff_prefix.mpr occurs)

/-- Where the search finds the text, one occurrence is taken. -/
theorem occurrences_found {c : UInt8} {tail : Bytes} (once : c ∉ tail) {text : Bytes} {pos : Nat}
    (found : findText (c :: tail) text = some pos) :
    occurrences (c :: tail) text = 1 + occurrences (c :: tail) (text.drop (pos + (c :: tail).length)) := by
  have cut := findText_cut found
  have free := findText_first found
  have behind : text.drop pos = c :: tail ++ text.drop (pos + (c :: tail).length) := by
    have same := (List.take_append_drop pos text).trans cut
    exact List.append_cancel_left same
  have skip := (occurrences_skip (c :: tail) (text.take pos) (text.drop pos)).mpr free
  rw [List.take_append_drop] at skip
  rw [skip, behind, occurrences_here once]

end Common
