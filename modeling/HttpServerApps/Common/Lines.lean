import HttpServerApps.Common.Bytes

namespace Common

/-! Texts of lines with CRLF between them, up to the first blank line. -/

def joinLines : List Bytes → Bytes
  | [] => []
  | [line] => line
  | line :: lines => line ++ [CR, LF] ++ joinLines lines

/-- The lines of a text, cut at every CRLF. -/
def splitLines : Bytes → List Bytes
  | [] => [[]]
  | [c] => [[c]]
  | a :: b :: rest =>
    if a = CR ∧ b = LF then [] :: splitLines rest
    else
      match splitLines (b :: rest) with
      | [] => [[a]]
      | line :: lines => (a :: line) :: lines

def blankLine : Bytes := [CR, LF, CR, LF]

/-- The text before the first blank line and the text after it. -/
def splitBlankLine (text : Bytes) : Option (Bytes × Bytes) :=
  (findText blankLine text).map fun pos => (text.take pos, text.drop (pos + 4))

/-- Neither CR nor LF is in the line. -/
def Plain (line : Bytes) : Prop := ∀ c ∈ line, c ≠ CR ∧ c ≠ LF

instance (line : Bytes) : Decidable (Plain line) := List.decidableBAll (fun c => c ≠ CR ∧ c ≠ LF) line

theorem Plain.append {left right : Bytes} (first : Plain left) (second : Plain right) : Plain (left ++ right) := by
  intro c member
  rcases List.mem_append.mp member with member | member
  · exact first c member
  · exact second c member

theorem Plain.head {c : UInt8} {line : Bytes} (plain : Plain (c :: line)) : c ≠ CR ∧ c ≠ LF :=
  plain c (List.mem_cons_self ..)

theorem Plain.tail {c : UInt8} {line : Bytes} (plain : Plain (c :: line)) : Plain line :=
  fun d member => plain d (List.mem_cons_of_mem _ member)

theorem splitFirst_append {c : UInt8} {left : Bytes} (absent : c ∉ left) (right : Bytes) :
    splitFirst c (left ++ c :: right) = some (left, right) := by
  induction left with
  | nil => simp [splitFirst]
  | cons b left ih =>
    have other : b ≠ c := fun same => absent (same ▸ List.mem_cons_self ..)
    have later := ih fun member => absent (List.mem_cons_of_mem _ member)
    simp only [List.cons_append, splitFirst, other, if_false, later, Option.map_some]

/-! Cutting a text at its CRLFs undoes the joining. -/

theorem splitLines_plain {line : Bytes} (plain : Plain line) : splitLines line = [line] := by
  induction line with
  | nil => rfl
  | cons a line ih =>
    cases line with
    | nil => rfl
    | cons b rest =>
      have here : ¬ (a = CR ∧ b = LF) := fun both => plain.head.1 both.1
      simp only [splitLines, here, if_false, ih plain.tail]

theorem splitLines_cut {line : Bytes} (plain : Plain line) (rest : Bytes) :
    splitLines (line ++ [CR, LF] ++ rest) = line :: splitLines rest := by
  induction line with
  | nil => simp [splitLines]
  | cons a line ih =>
    have later := ih plain.tail
    cases shape : line ++ [CR, LF] ++ rest with
    | nil => simp at shape
    | cons b tail =>
      have here : ¬ (a = CR ∧ b = LF) := fun both => plain.head.1 both.1
      rw [shape] at later
      rw [List.cons_append, List.cons_append, shape]
      simp only [splitLines, here, if_false, later]

theorem splitLines_joinLines {lines : List Bytes} (some_ : lines ≠ []) (plain : ∀ line ∈ lines, Plain line) :
    splitLines (joinLines lines) = lines := by
  induction lines with
  | nil => exact absurd rfl some_
  | cons line lines ih =>
    have first := plain line (List.mem_cons_self ..)
    cases lines with
    | nil => exact splitLines_plain first
    | cons next lines =>
      have later := ih (List.cons_ne_nil _ _) fun line member => plain line (List.mem_cons_of_mem _ member)
      rw [joinLines, splitLines_cut first, later]
      exact List.cons_ne_nil _ _

/-! The first blank line. -/

theorem findBlank_plain {line : Bytes} (plain : Plain line) (rest : Bytes) :
    findText blankLine (line ++ rest) = (findText blankLine rest).map (· + line.length) := by
  induction line with
  | nil => simp
  | cons c line ih =>
    have elsewhere : blankLine.isPrefixOf (c :: (line ++ rest)) = false := by
      simp only [blankLine, List.isPrefixOf, Bool.and_eq_false_iff, beq_eq_false_iff_ne]
      exact Or.inl (Ne.symm plain.head.1)
    simp only [List.cons_append, findText, elsewhere, ih plain.tail, Option.map_map]
    cases findText blankLine rest with
    | none => rfl
    | some pos =>
      simp only [Option.map_some, Function.comp_apply, List.length_cons, Nat.add_assoc]
      rfl

theorem findBlank_crlf {c : UInt8} (other : c ≠ CR) (rest : Bytes) :
    findText blankLine (CR :: LF :: c :: rest) = (findText blankLine (c :: rest)).map (· + 2) := by
  have elsewhere : blankLine.isPrefixOf (CR :: LF :: c :: rest) = false := by
    simp [blankLine, List.isPrefixOf, Ne.symm other]
  have afterCR : blankLine.isPrefixOf (LF :: c :: rest) = false := by
    have different : ¬ CR = LF := by decide
    simp [blankLine, List.isPrefixOf, different]
  rw [findText, if_neg (ne_true_of_eq_false elsewhere), findText, if_neg (ne_true_of_eq_false afterCR),
    Option.map_map]
  rfl

/-- By induction on the lines: none of them but the first can be empty. -/
theorem findBlank_joinLines {first : Bytes} {lines : List Bytes} (plain : ∀ line ∈ first :: lines, Plain line)
    (filled : ∀ line ∈ lines, line ≠ []) (rest : Bytes) :
    findText blankLine (joinLines (first :: lines) ++ blankLine ++ rest) =
      some (joinLines (first :: lines)).length := by
  induction lines generalizing first with
  | nil =>
    have here : findText blankLine (blankLine ++ rest) = some 0 := by
      rw [findText_zero (by nofun)]
      exact List.prefix_append _ _
    rw [joinLines, List.append_assoc, findBlank_plain (plain first (List.mem_cons_self ..)), here]
    simp
  | cons next lines ih =>
    have later := @ih next (fun line member => plain line (List.mem_cons_of_mem _ member))
      (fun line member => filled line (List.mem_cons_of_mem _ member))
    have cut : joinLines (first :: next :: lines) = first ++ (CR :: LF :: joinLines (next :: lines)) := by
      rw [joinLines]
      · simp
      · exact List.cons_ne_nil _ _
    cases shape : joinLines (next :: lines) ++ blankLine ++ rest with
    | nil => simp [blankLine] at shape
    | cons c tail =>
      have other : c ≠ CR := by
        cases next with
        | nil => exact absurd rfl (filled [] (List.mem_cons_self ..))
        | cons d next =>
          have same : d = c := by
            cases lines with
            | nil =>
              simp only [joinLines, List.cons_append, List.cons.injEq] at shape
              exact shape.1
            | cons more lines =>
              simp only [joinLines, List.cons_append, List.cons.injEq] at shape
              exact shape.1
          rw [← same]
          exact (plain (d :: next) (by simp)).head.1
      rw [shape] at later
      rw [cut, List.append_assoc, List.append_assoc, findBlank_plain (plain first (List.mem_cons_self ..))]
      have whole : CR :: LF :: joinLines (next :: lines) ++ (blankLine ++ rest) = CR :: LF :: c :: tail := by
        rw [← shape]
        simp
      rw [whole, findBlank_crlf other, later]
      simp only [Option.map_some, List.length_append, List.length_cons, Option.some.injEq]
      omega

theorem splitBlankLine_joinLines {first : Bytes} {lines : List Bytes} (plain : ∀ line ∈ first :: lines, Plain line)
    (filled : ∀ line ∈ lines, line ≠ []) (rest : Bytes) :
    splitBlankLine (joinLines (first :: lines) ++ blankLine ++ rest) = some (joinLines (first :: lines), rest) := by
  unfold splitBlankLine
  have past : (joinLines (first :: lines)).length + 4 = (joinLines (first :: lines) ++ blankLine).length := by
    rw [List.length_append]
    rfl
  rw [findBlank_joinLines plain filled, Option.map_some, past, List.drop_left, List.append_assoc, List.take_left]

theorem joinLines_ended (first : Bytes) (lines : List Bytes) :
    joinLines (first :: lines) ++ [CR, LF] = first ++ [CR, LF] ++ lines.flatMap (· ++ [CR, LF]) := by
  induction lines generalizing first with
  | nil => simp [joinLines]
  | cons next lines ih =>
    rw [joinLines, List.append_assoc, ih next]
    · simp
    · exact List.cons_ne_nil _ _

end Common
