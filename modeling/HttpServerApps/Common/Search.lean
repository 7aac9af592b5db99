import HttpServerApps.Common.Lines

namespace Common

/-! Where a text occurs first. -/

theorem prefix_before {c : UInt8} {needle : Bytes} (absent : c ∉ needle) {left right : Bytes}
    (occurs : needle <+: left ++ c :: right) : needle <+: left := by
  rcases List.prefix_or_prefix_of_prefix occurs (List.prefix_append left (c :: right)) with inside | beyond
  · exact inside
  · rcases beyond with ⟨past, rfl⟩
    rw [List.prefix_append_right_inj] at occurs
    cases past with
    | nil => exact ⟨[], by simp⟩
    | cons d past =>
      rcases List.cons_prefix_cons.mp occurs with ⟨rfl, _⟩
      exact absurd (by simp) absent

/-- What no occurrence starts in is passed over. -/
theorem findText_skip {needle left : Bytes} (right : Bytes)
    (free : ∀ before after, left = before ++ after → after ≠ [] → ¬ needle <+: after ++ right) :
    findText needle (left ++ right) = (findText needle right).map (· + left.length) := by
  induction left with
  | nil => simp
  | cons b left ih =>
    have here : needle.isPrefixOf (b :: (left ++ right)) = false := by
      have absent := free [] (b :: left) rfl (List.cons_ne_nil _ _)
      rw [← Bool.not_eq_true, List.isPrefixOf_iff_prefix]
      exact absent
    have later := ih fun before after shape filled => free (b :: before) after (by rw [shape]; rfl) filled
    simp only [List.cons_append, findText, here, later, Option.map_map]
    cases findText needle right with
    | none => rfl
    | some pos =>
      simp only [Bool.false_eq_true, if_false, Option.map_some, Function.comp_apply, List.length_cons]
      rw [Nat.add_assoc]

theorem findText_here {needle : Bytes} (filled : needle ≠ []) (right : Bytes) :
    findText needle (needle ++ right) = some 0 := (findText_zero filled).mpr (List.prefix_append _ _)

theorem findText_none {needle text : Bytes} (filled : needle ≠ []) :
    findText needle text = none ↔ ∀ before after, text = before ++ after → ¬ needle <+: after := by
  induction text with
  | nil =>
    have empty : findText needle [] = none := by simp [findText, filled]
    apply iff_of_true empty
    intro before after shape occurs
    rcases List.append_eq_nil_iff.mp shape.symm with ⟨_, rfl⟩
    exact filled (List.prefix_nil.mp occurs)
  | cons b rest ih =>
    by_cases here : needle <+: b :: rest
    · have found := (findText_zero filled).mpr here
      apply iff_of_false
      · rw [found]
        exact Option.some_ne_none 0
      · intro never
        exact never [] (b :: rest) rfl here
    · have notHere : needle.isPrefixOf (b :: rest) = false := by
        rw [← Bool.not_eq_true, List.isPrefixOf_iff_prefix]
        exact here
      have cut : findText needle (b :: rest) = (findText needle rest).map (· + 1) := by
        simp [findText, notHere]
      rw [cut, Option.map_eq_none_iff, ih]
      apply Iff.intro
      · intro never before after shape
        cases before with
        | nil =>
          cases shape
          exact here
        | cons c before =>
          cases shape
          exact never before after rfl
      · exact fun never before after shape => never (b :: before) after (by rw [shape]; rfl)

/-- An occurrence stays the first when the text goes on. -/
theorem findText_append {needle text : Bytes} {pos : Nat} (found : findText needle text = some pos) (more : Bytes) :
    findText needle (text ++ more) = some pos := by
  induction text generalizing pos with
  | nil =>
    have empty : needle = [] := List.prefix_nil.mp (by simpa using (findText_eq_some found).2)
    subst empty
    cases found
    cases more <;> rfl
  | cons b rest ih =>
    rcases findText_eq_some found with ⟨bound, occurs⟩
    have fits : needle.length ≤ (b :: rest).length := by
      have short := occurs.length_le
      rw [List.length_drop] at short
      omega
    by_cases here : needle.isPrefixOf (b :: rest) = true
    · have longer := (List.isPrefixOf_iff_prefix.mp here).trans (List.prefix_append _ more)
      have hereToo : needle.isPrefixOf (b :: (rest ++ more)) = true := List.isPrefixOf_iff_prefix.mpr longer
      rw [findText, if_pos here] at found
      rw [List.cons_append, findText, if_pos hereToo]
      exact found
    · have notHere : ¬ needle.isPrefixOf (b :: (rest ++ more)) = true := by
        intro longer
        have whole : needle <+: (b :: rest) ++ more := List.isPrefixOf_iff_prefix.mp longer
        have shorter := List.prefix_of_prefix_length_le whole (List.prefix_append _ _) fits
        exact here (List.isPrefixOf_iff_prefix.mpr shorter)
      rw [findText, if_neg here] at found
      rcases Option.map_eq_some_iff.mp found with ⟨inner, innerFound, rfl⟩
      rw [List.cons_append, findText, if_neg notHere, ih innerFound]
      rfl

theorem splitFirst_none {c : UInt8} {text : Bytes} (absent : c ∉ text) : splitFirst c text = none := by
  induction text with
  | nil => rfl
  | cons b text ih =>
    have other : b ≠ c := fun same => absent (same ▸ List.mem_cons_self ..)
    have later := ih fun member => absent (List.mem_cons_of_mem _ member)
    simp only [splitFirst, other, if_false, later, Option.map_none]

theorem splitFirst_some {c : UInt8} {text left right : Bytes} (split : splitFirst c text = some (left, right)) :
    text = left ++ c :: right ∧ c ∉ left := by
  induction text generalizing left with
  | nil => cases split
  | cons b text ih =>
    by_cases here : b = c
    · rw [splitFirst, if_pos here] at split
      cases split
      exact ⟨by rw [here]; rfl, by simp⟩
    · rw [splitFirst, if_neg here] at split
      rcases Option.map_eq_some_iff.mp split with ⟨⟨inner, _⟩, innerSplit, same⟩
      cases same
      rcases ih innerSplit with ⟨shape, absent⟩
      apply And.intro
      · rw [shape]
        rfl
      · intro member
        rcases List.mem_cons.mp member with first | later
        · exact here first.symm
        · exact absent later

theorem splitFirst_isSome {c : UInt8} {text : Bytes} : (splitFirst c text).isSome = true ↔ c ∈ text := by
  induction text with
  | nil => simp [splitFirst]
  | cons b text ih =>
    by_cases here : b = c
    · simp [splitFirst, here]
    · simp [splitFirst, here, ih, Ne.symm here]

/-- The first line of a text, its CRLF, and what follows. -/
theorem crlfOffset_cut {text : Bytes} {offset : Nat} (found : crlfOffset text = some offset) :
    text = text.take offset ++ [CR, LF] ++ text.drop (offset + 2) := by
  induction text generalizing offset with
  | nil => cases found
  | cons a tail ih =>
    cases tail with
    | nil => cases found
    | cons b rest =>
      by_cases here : a = CR ∧ b = LF
      · rw [crlfOffset, if_pos here] at found
        cases found
        rcases here with ⟨rfl, rfl⟩
        rfl
      · rw [crlfOffset, if_neg here] at found
        rcases Option.map_eq_some_iff.mp found with ⟨inner, innerFound, rfl⟩
        exact congrArg (a :: ·) (ih innerFound)

theorem append_first {c : UInt8} {left other right more : Bytes} (absent : c ∉ left) (absentToo : c ∉ other)
    (same : left ++ c :: right = other ++ c :: more) : left = other ∧ right = more := by
  have first := splitFirst_append absent right
  rw [same, splitFirst_append absentToo more] at first
  cases first
  exact ⟨rfl, rfl⟩

end Common
