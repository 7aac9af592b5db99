import Mathlib.Data.List.Perm.Subperm
import HttpServerApps.Chat.AIConfig
import HttpServerApps.Common.Occurrences

namespace Chat

open Common

/-! `std::regex_replace` over characters that carry more than their byte, such as where they come
from: what it puts out is copied from its inputs. -/

section Traced

variable {Symbol : Type} (byteOf : Symbol → UInt8)

/-- `expandFormat`, character by character. -/
def expandOver (before matched after : List Symbol) : List Symbol → List Symbol
  | [] => []
  | [c] => [c]
  | c :: d :: rest =>
    if byteOf c ≠ 36 then c :: expandOver before matched after (d :: rest)
    else if byteOf d = 36 then d :: expandOver before matched after rest
    else if byteOf d = 38 then matched ++ expandOver before matched after rest
    else if byteOf d = 96 then before ++ expandOver before matched after rest
    else if byteOf d = 39 then after ++ expandOver before matched after rest
    else if isdigit (byteOf d) then
      match rest with
      | [] => if byteOf d = 48 then matched else []
      | e :: others =>
        if isdigit (byteOf e) then
          (if byteOf d = 48 ∧ byteOf e = 48 then matched else []) ++ expandOver before matched after others
        else (if byteOf d = 48 then matched else []) ++ expandOver before matched after (e :: others)
    else c :: expandOver before matched after (d :: rest)

/-- `replaceMatches`, character by character. -/
def replaceOver (pattern : Bytes) (format : List Symbol) : (matches_ : Nat) → List Symbol → List Symbol
  | 0, text => text
  | matches_ + 1, text =>
    match findText pattern (text.map byteOf) with
    | none => text
    | some pos =>
      let rest := text.drop (pos + pattern.length)
      text.take pos ++ expandOver byteOf (text.take pos) ((text.drop pos).take pattern.length) rest format ++
        replaceOver pattern format matches_ rest

/-- By the cases of the expansion, which both sides take alike. -/
theorem expandOver_map (before matched after format : List Symbol) :
    (expandOver byteOf before matched after format).map byteOf =
      expandFormat (before.map byteOf) (matched.map byteOf) (after.map byteOf) (format.map byteOf) := by
  fun_induction expandOver byteOf before matched after format with
  | case1 => rfl
  | case2 c => rfl
  | _ =>
    simp only [List.map_cons, List.map_nil, List.map_append, apply_ite (List.map byteOf)] at *
    rw [expandFormat.eq_def]
    simp_all

theorem replaceOver_map (pattern : Bytes) (format : List Symbol) (matches_ : Nat) (text : List Symbol) :
    (replaceOver byteOf pattern format matches_ text).map byteOf =
      replaceMatches pattern (format.map byteOf) matches_ (text.map byteOf) := by
  induction matches_ generalizing text with
  | zero => rfl
  | succ matches_ ih =>
    rw [replaceOver, replaceMatches]
    cases found : findText pattern (text.map byteOf) with
    | none => rfl
    | some pos =>
      have occurs := (findText_eq_some found).2
      have matched : ((text.drop pos).take pattern.length).map byteOf = pattern := by
        rw [List.map_take, List.map_drop]
        exact (List.prefix_iff_eq_take.mp occurs).symm
      dsimp only
      rw [List.map_append, List.map_append, expandOver_map, ih, matched, List.map_take, List.map_drop]

/-! What a format is read as: plain characters, and references of a `$` and what follows it. -/

def isReference (d : UInt8) : Bool := d = 36 || d = 38 || d = 96 || d = 39 || isdigit d

/-- What a reference with `d` behind its `$` can stand for, given the text before the match, the match and the
    text after it. -/
inductive StandsFor (d : Symbol) : (List Symbol → List Symbol → List Symbol → List Symbol) → Prop
  | dollar : StandsFor d fun _ _ _ => [d]
  | before : StandsFor d fun before _ _ => before
  | matched : StandsFor d fun _ matched _ => matched
  | after : StandsFor d fun _ _ after => after
  | nothing : StandsFor d fun _ _ _ => []

theorem expandOver_cons {before matched after rest : List Symbol} {c d : Symbol}
    (plain : ¬ (byteOf c = 36 ∧ isReference (byteOf d) = true)) :
    expandOver byteOf before matched after (c :: d :: rest) =
      c :: expandOver byteOf before matched after (d :: rest) := by
  rw [expandOver.eq_def]
  by_cases dollar : byteOf c = 36
  · have other : isReference (byteOf d) = false := by simpa [dollar] using plain
    simp only [isReference, Bool.or_eq_false_iff, decide_eq_false_iff_not] at other
    simp [dollar, other]
  · simp [dollar]

/-- A reference takes a second digit with it where its first is one. -/
theorem expandOver_reference {c d : Symbol} (dollar : byteOf c = 36) (reference : isReference (byteOf d) = true)
    (rest : List Symbol) :
    ∃ inserted skipped left, StandsFor d inserted ∧ rest = skipped ++ left ∧
      (∀ x ∈ skipped, isdigit (byteOf x) = true) ∧ ∀ before matched after,
        expandOver byteOf before matched after (c :: d :: rest) =
          inserted before matched after ++ expandOver byteOf before matched after left := by
  simp only [isReference, Bool.or_eq_true, decide_eq_true_eq] at reference
  by_cases escaped : byteOf d = 36
  · refine ⟨_, [], rest, .dollar, rfl, nofun, ?_⟩
    intro before matched after
    rw [expandOver.eq_def]
    simp [dollar, escaped]
  by_cases whole : byteOf d = 38
  · refine ⟨_, [], rest, .matched, rfl, nofun, ?_⟩
    intro before matched after
    rw [expandOver.eq_def]
    simp [dollar, whole]
  by_cases left_ : byteOf d = 96
  · refine ⟨_, [], rest, .before, rfl, nofun, ?_⟩
    intro before matched after
    rw [expandOver.eq_def]
    simp [dollar, left_]
  by_cases right_ : byteOf d = 39
  · refine ⟨_, [], rest, .after, rfl, nofun, ?_⟩
    intro before matched after
    rw [expandOver.eq_def]
    simp [dollar, right_]
  have digit : isdigit (byteOf d) = true := by simpa [escaped, whole, left_, right_] using reference
  have numbered : ∀ zero : Bool, StandsFor d fun _ matched _ => if zero = true then matched else [] := by
    intro zero
    cases zero with
    | true => exact .matched
    | false => exact .nothing
  cases rest with
  | nil =>
    refine ⟨_, [], [], numbered (decide (byteOf d = 48)), rfl, nofun, ?_⟩
    intro before matched after
    rw [expandOver.eq_def]
    simp [dollar, escaped, whole, left_, right_, digit, expandOver]
  | cons e others =>
    by_cases second : isdigit (byteOf e) = true
    · refine ⟨_, [e], others, numbered (decide (byteOf d = 48 ∧ byteOf e = 48)), rfl, ?_, ?_⟩
      · intro x member
        rw [List.mem_singleton.mp member]
        exact second
      · intro before matched after
        rw [expandOver.eq_def]
        simp [dollar, escaped, whole, left_, right_, digit, second]
    · refine ⟨_, [], e :: others, numbered (decide (byteOf d = 48)), rfl, nofun, ?_⟩
      intro before matched after
      rw [expandOver.eq_def]
      simp [dollar, escaped, whole, left_, right_, digit, second]

/-- The induction along the reading of a format. -/
theorem format_induction {Holds : List Symbol → Prop} (nil : Holds []) (last : ∀ c, Holds [c])
    (plain : ∀ c d rest, ¬ (byteOf c = 36 ∧ isReference (byteOf d) = true) → Holds (d :: rest) → Holds (c :: d :: rest))
    (reference : ∀ c d skipped left inserted, byteOf c = 36 → isReference (byteOf d) = true → StandsFor d inserted →
      (∀ x ∈ skipped, isdigit (byteOf x) = true) →
      (∀ before matched after, expandOver byteOf before matched after (c :: d :: (skipped ++ left)) =
        inserted before matched after ++ expandOver byteOf before matched after left) →
      Holds left → Holds (c :: d :: (skipped ++ left)))
    (format : List Symbol) : Holds format := by
  induction length : format.length using Nat.strong_induction_on generalizing format with
  | _ size ih =>
    match format with
    | [] => exact nil
    | [c] => exact last c
    | c :: d :: rest =>
      simp only [List.length_cons] at length
      by_cases refers : byteOf c = 36 ∧ isReference (byteOf d) = true
      · rcases expandOver_reference byteOf refers.1 refers.2 rest with
          ⟨inserted, skipped, left, stands, rfl, digits, expands⟩
        rw [List.length_append] at length
        exact reference c d skipped left inserted refers.1 refers.2 stands digits expands
          (ih left.length (by omega) left rfl)
      · exact plain c d rest refers (ih (d :: rest).length (by simp only [List.length_cons]; omega) (d :: rest) rfl)

/-! The characters of a format that are copied into every expansion. -/

def copied (format : List Symbol) : List Symbol := expandOver byteOf [] [] [] format

theorem copied_cons {c d : Symbol} {rest : List Symbol} (plain : ¬ (byteOf c = 36 ∧ isReference (byteOf d) = true)) :
    copied byteOf (c :: d :: rest) = c :: copied byteOf (d :: rest) := expandOver_cons byteOf plain

/-- Of a reference, what it stands for between empty texts is copied. -/
theorem copied_reference {c d : Symbol} {skipped left : List Symbol}
    {inserted : List Symbol → List Symbol → List Symbol → List Symbol}
    (expands : ∀ before matched after, expandOver byteOf before matched after (c :: d :: (skipped ++ left)) =
      inserted before matched after ++ expandOver byteOf before matched after left) :
    copied byteOf (c :: d :: (skipped ++ left)) = inserted [] [] [] ++ copied byteOf left := expands [] [] []

theorem mem_expandOver {before matched after format : List Symbol} {x : Symbol}
    (member : x ∈ expandOver byteOf before matched after format) :
    x ∈ before ∨ x ∈ matched ∨ x ∈ after ∨ x ∈ copied byteOf format := by
  induction format using format_induction byteOf with
  | nil => cases member
  | last c => exact Or.inr (Or.inr (Or.inr member))
  | plain c d rest plain ih =>
    rw [expandOver_cons byteOf plain] at member
    rw [copied_cons byteOf plain, List.mem_cons]
    rcases List.mem_cons.mp member with here | later
    · simp [here]
    · have known := ih later
      tauto
  | reference c d skipped left inserted _ _ stands _ expands ih =>
    have copies := copied_reference byteOf expands
    rw [expands, List.mem_append] at member
    rw [copies, List.mem_append]
    rcases member with here | later
    · cases stands <;> simp_all
    · have known := ih later
      tauto

theorem mem_copied {before matched after format : List Symbol} {x : Symbol} (member : x ∈ copied byteOf format) :
    x ∈ expandOver byteOf before matched after format := by
  induction format using format_induction byteOf with
  | nil => cases member
  | last c => exact member
  | plain c d rest plain ih =>
    rw [copied_cons byteOf plain] at member
    rw [expandOver_cons byteOf plain]
    rcases List.mem_cons.mp member with here | later
    · exact here ▸ List.mem_cons_self ..
    · exact List.mem_cons_of_mem _ (ih later)
  | reference c d skipped left inserted _ _ stands _ expands ih =>
    have copies := copied_reference byteOf expands
    rw [copies, List.mem_append] at member
    rw [expands, List.mem_append]
    rcases member with here | later
    · cases stands <;> simp_all
    · exact Or.inr (ih later)

theorem copied_sublist (format : List Symbol) : (copied byteOf format).Sublist format := by
  induction format using format_induction byteOf with
  | nil => exact List.Sublist.refl _
  | last c => exact List.Sublist.refl _
  | plain c d rest plain ih =>
    rw [copied_cons byteOf plain]
    exact ih.cons_cons c
  | reference c d skipped left inserted _ _ stands _ expands ih =>
    have copies := copied_reference byteOf expands
    have here : (inserted [] [] []).Sublist [d] := by cases stands <;> simp
    rw [copies]
    exact (here.append (ih.trans (List.sublist_append_right skipped left))).cons c

/-- A line break is no part of a reference. -/
theorem newline_copied {format : List Symbol} {x : Symbol} (member : x ∈ format) (newline : byteOf x = 10) :
    x ∈ copied byteOf format := by
  have noReference : isReference 10 = false := by decide
  have noDigit : isdigit 10 = false := by decide
  induction format using format_induction byteOf with
  | nil => cases member
  | last c => exact member
  | plain c d rest plain ih =>
    rw [copied_cons byteOf plain]
    rcases List.mem_cons.mp member with here | later
    · exact here ▸ List.mem_cons_self ..
    · exact List.mem_cons_of_mem _ (ih later)
  | reference c d skipped left inserted dollar reference _ digits expands ih =>
    have copies := copied_reference byteOf expands
    rw [copies]
    rcases List.mem_cons.mp member with rfl | member
    · rw [newline] at dollar
      cases dollar
    rcases List.mem_cons.mp member with rfl | member
    · rw [newline, noReference] at reference
      cases reference
    rcases List.mem_append.mp member with digit | later
    · have isDigit := digits x digit
      rw [newline, noDigit] at isDigit
      cases isDigit
    · exact List.mem_append_right _ (ih later)

/-! The formats that are copied as they are. -/

def Inert (format : Bytes) : Prop := ∀ d, isReference d = true → ¬ [36, d] <:+: format

theorem inert_cons {c d : UInt8} {rest : Bytes} :
    Inert (c :: d :: rest) ↔ ¬ (c = 36 ∧ isReference d = true) ∧ Inert (d :: rest) := by
  apply Iff.intro
  · intro inert
    apply And.intro
    · rintro ⟨rfl, reference⟩
      exact inert d reference ⟨[], rest, rfl⟩
    · intro e reference occurs
      exact inert e reference (occurs.trans (List.suffix_cons _ _).isInfix)
  · rintro ⟨here, later⟩ e reference occurs
    rcases List.infix_cons_iff.mp occurs with first | second
    · rcases List.cons_prefix_cons.mp first with ⟨rfl, next⟩
      rcases List.cons_prefix_cons.mp next with ⟨rfl, _⟩
      exact here ⟨rfl, reference⟩
    · exact later e reference second

theorem expandOver_inert {before matched after format : List Symbol} (inert : Inert (format.map byteOf)) :
    expandOver byteOf before matched after format = format := by
  induction format using format_induction byteOf with
  | nil => rfl
  | last c => rfl
  | plain c d rest plain ih => rw [expandOver_cons byteOf plain, ih (inert_cons.mp inert).2]
  | reference c d skipped left inserted dollar reference =>
    exact absurd ⟨dollar, reference⟩ (inert_cons.mp inert).1

/-- Of the two characters of a reference at most one is copied. -/
theorem inert_of_copied {format : List Symbol} (whole : copied byteOf format = format) : Inert (format.map byteOf) := by
  induction format using format_induction byteOf with
  | nil =>
    intro d _ occurs
    cases List.infix_nil.mp occurs
  | last c =>
    intro d _ occurs
    have short := occurs.length_le
    simp at short
  | plain c d rest plain ih =>
    rw [copied_cons byteOf plain] at whole
    exact inert_cons.mpr ⟨plain, ih (List.tail_eq_of_cons_eq whole)⟩
  | reference c d skipped left inserted _ _ stands _ expands =>
    have copies := copied_reference byteOf expands
    have here : (inserted [] [] []).length ≤ 1 := by cases stands <;> simp
    have short := (copied_sublist byteOf left).length_le
    have length := congrArg List.length whole
    simp only [copies, List.length_append, List.length_cons] at length
    omega

theorem exists_not_copied {format : List Symbol} (distinct : format.Nodup) (active : ¬ Inert (format.map byteOf)) :
    ∃ x ∈ format, x ∉ copied byteOf format := by
  by_contra all
  push Not at all
  have long := (List.subperm_of_subset distinct all).length_le
  exact active (inert_of_copied byteOf ((copied_sublist byteOf format).eq_of_length_le long))

/-! The loop. -/

theorem mem_replaceOver {pattern : Bytes} {format : List Symbol} {matches_ : Nat} {text : List Symbol} {x : Symbol}
    (member : x ∈ replaceOver byteOf pattern format matches_ text) : x ∈ text ∨ x ∈ copied byteOf format := by
  induction matches_ generalizing text with
  | zero => exact Or.inl member
  | succ matches_ ih =>
    rw [replaceOver] at member
    cases found : findText pattern (text.map byteOf) with
    | none =>
      rw [found] at member
      exact Or.inl member
    | some pos =>
      simp only [found, List.mem_append] at member
      rcases member with (before | expanded) | later
      · exact Or.inl (List.mem_of_mem_take before)
      · rcases mem_expandOver byteOf expanded with before | matched | after | copy
        · exact Or.inl (List.mem_of_mem_take before)
        · exact Or.inl (List.mem_of_mem_drop (List.mem_of_mem_take matched))
        · exact Or.inl (List.mem_of_mem_drop after)
        · exact Or.inr copy
      · rcases ih later with inside | copy
        · exact Or.inl (List.mem_of_mem_drop inside)
        · exact Or.inr copy

theorem copied_mem_replaceOver {pattern : Bytes} {format text : List Symbol} {matches_ : Nat} {x : Symbol}
    (filled : pattern ≠ []) (occurs : 0 < occurrences pattern (text.map byteOf)) (copy : x ∈ copied byteOf format) :
    x ∈ replaceOver byteOf pattern format (matches_ + 1) text := by
  rw [replaceOver]
  cases found : findText pattern (text.map byteOf) with
  | none =>
    have zero := (occurrences_eq_zero filled).mpr found
    omega
  | some pos =>
    dsimp only
    exact List.mem_append_left _ (List.mem_append_right _ (mem_copied byteOf copy))

theorem replaceOver_none {pattern : Bytes} {format text : List Symbol} {matches_ : Nat} (filled : pattern ≠ [])
    (absent : occurrences pattern (text.map byteOf) = 0) :
    replaceOver byteOf pattern format matches_ text = text := by
  cases matches_ with
  | zero => rfl
  | succ matches_ => rw [replaceOver, (occurrences_eq_zero filled).mp absent]

section Inert

variable {c : UInt8} {tail : Bytes} (once : c ∉ tail) {format : List Symbol} (inert : Inert (format.map byteOf))

include inert in
theorem replaceOver_gap {gap rest : List Symbol} (matches_ : Nat)
    (free : NoneStarts (c :: tail) (gap.map byteOf) (rest.map byteOf)) :
    replaceOver byteOf (c :: tail) format matches_ (gap ++ rest) =
      gap ++ replaceOver byteOf (c :: tail) format matches_ rest := by
  cases matches_ with
  | zero => rfl
  | succ matches_ =>
    rw [replaceOver, replaceOver, List.map_append, findText_skip _ free, List.length_map]
    cases findText (c :: tail) (rest.map byteOf) with
    | none => rfl
    | some pos =>
      have taken : (gap ++ rest).take (pos + gap.length) = gap ++ rest.take pos := by
        rw [Nat.add_comm, List.take_length_add_append]
      have dropped : (gap ++ rest).drop (pos + gap.length + (c :: tail).length) =
          rest.drop (pos + (c :: tail).length) := by
        have order : pos + gap.length + (c :: tail).length = gap.length + (pos + (c :: tail).length) := by omega
        rw [order, List.drop_length_add_append]
      simp only [Option.map_some]
      rw [expandOver_inert byteOf inert, expandOver_inert byteOf inert, taken, dropped]
      simp only [List.append_assoc]

include inert in
theorem replaceOver_hole {hole rest : List Symbol} (matches_ : Nat) (matched : hole.map byteOf = c :: tail) :
    replaceOver byteOf (c :: tail) format (matches_ + 1) (hole ++ rest) =
      format ++ replaceOver byteOf (c :: tail) format matches_ rest := by
  have length : hole.length = (c :: tail).length := by rw [← matched, List.length_map]
  have here := findText_here (List.cons_ne_nil c tail) (rest.map byteOf)
  rw [replaceOver, List.map_append, matched, here]
  dsimp only
  rw [expandOver_inert byteOf inert, Nat.zero_add, ← length, List.drop_left]
  rfl

end Inert

/-- Text around the holes that a replacement is to fill. -/
inductive Segment (Symbol : Type) where
  | gap (text : List Symbol)
  | hole (text : List Symbol)

namespace Segment

def text : Segment Symbol → List Symbol
  | .gap text => text
  | .hole text => text

def filled (format : List Symbol) : Segment Symbol → List Symbol
  | .gap text => text
  | .hole _ => format

def isHole : Segment Symbol → Bool
  | .gap _ => false
  | .hole _ => true

end Segment

/-- Every hole spells the pattern. -/
def HolesFit (pattern : Bytes) (segments : List (Segment Symbol)) : Prop :=
  ∀ text, .hole text ∈ segments → text.map byteOf = pattern

section Segments

variable {c : UInt8} {tail : Bytes} (once : c ∉ tail) {segments : List (Segment Symbol)}
  (fits : HolesFit byteOf (c :: tail) segments)

include once fits

theorem holes_le_occurrences :
    segments.countP Segment.isHole ≤ occurrences (c :: tail) ((segments.flatMap Segment.text).map byteOf) := by
  induction segments with
  | nil => exact Nat.zero_le _
  | cons segment segments ih =>
    have later := ih fun text member => fits text (List.mem_cons_of_mem _ member)
    rw [List.flatMap_cons, List.map_append]
    cases segment with
    | gap text =>
      have right := occurrences_right (c :: tail) (text.map byteOf) ((segments.flatMap Segment.text).map byteOf)
      rw [List.countP_cons_of_neg (by simp [Segment.isHole])]
      exact later.trans right
    | hole text =>
      have spelled : (Segment.hole text).text.map byteOf = c :: tail := fits text (List.mem_cons_self ..)
      rw [List.countP_cons_of_pos (by simp [Segment.isHole]), spelled, occurrences_here once]
      omega

/-- Where the pattern occurs in no other place, exactly the holes are filled. By induction on the
    segments: none of the matches that are left can start in a gap. -/
theorem replaceOver_segments {format : List Symbol} (inert : Inert (format.map byteOf)) {matches_ : Nat}
    (enough : segments.countP Segment.isHole ≤ matches_)
    (only : occurrences (c :: tail) ((segments.flatMap Segment.text).map byteOf) = segments.countP Segment.isHole) :
    replaceOver byteOf (c :: tail) format matches_ (segments.flatMap Segment.text) =
      segments.flatMap (Segment.filled format) := by
  induction segments generalizing matches_ with
  | nil => exact replaceOver_none byteOf (List.cons_ne_nil c tail) rfl
  | cons segment segments ih =>
    have laterFits : HolesFit byteOf (c :: tail) segments := fun text member => fits text (List.mem_cons_of_mem _ member)
    have least := holes_le_occurrences byteOf once laterFits
    rw [List.flatMap_cons, List.map_append] at only
    rw [List.flatMap_cons, List.flatMap_cons]
    cases segment with
    | gap text =>
      rw [List.countP_cons_of_neg (by simp [Segment.isHole])] at only enough
      have right := occurrences_right (c :: tail) (text.map byteOf) ((segments.flatMap Segment.text).map byteOf)
      have same : occurrences (c :: tail) ((Segment.gap text).text.map byteOf ++
          (segments.flatMap Segment.text).map byteOf) =
          occurrences (c :: tail) ((segments.flatMap Segment.text).map byteOf) := by
        apply Nat.le_antisymm
        · rw [only]
          exact least
        · exact right
      have free := (occurrences_skip _ _ _).mp same
      have rest := ih laterFits enough (same.symm.trans only)
      have passed := replaceOver_gap byteOf inert matches_ free
      exact passed.trans (congrArg (text ++ ·) rest)
    | hole text =>
      have spelled : (Segment.hole text).text.map byteOf = c :: tail := fits text (List.mem_cons_self ..)
      rw [List.countP_cons_of_pos (by simp [Segment.isHole])] at only enough
      rw [spelled, occurrences_here once] at only
      cases matches_ with
      | zero => omega
      | succ matches_ =>
        have rest := @ih laterFits matches_ (by omega) (by omega)
        have taken := @replaceOver_hole _ byteOf _ _ _ inert _ (segments.flatMap Segment.text) matches_ spelled
        exact taken.trans (congrArg (format ++ ·) rest)

end Segments

/-- Every match takes the characters of the pattern out of the text. -/
theorem replaceOver_countP {c : UInt8} {tail : Bytes} (once : c ∉ tail) {format : List Symbol}
    (inert : Inert (format.map byteOf)) {own : Symbol → Bool} (foreign : ∀ x ∈ format, own x = false)
    {matches_ : Nat} {text : List Symbol} (enough : occurrences (c :: tail) (text.map byteOf) ≤ matches_)
    (owned : ∀ x ∈ text, own x = true) :
    (replaceOver byteOf (c :: tail) format matches_ text).countP own +
      (c :: tail).length * occurrences (c :: tail) (text.map byteOf) = text.length := by
  have filled := List.cons_ne_nil c tail
  induction matches_ generalizing text with
  | zero =>
    have zero : occurrences (c :: tail) (text.map byteOf) = 0 := Nat.le_zero.mp enough
    rw [zero, replaceOver, Nat.mul_zero, Nat.add_zero, List.countP_eq_length.mpr owned]
  | succ matches_ ih =>
    rw [replaceOver]
    cases found : findText (c :: tail) (text.map byteOf) with
    | none =>
      have zero := (occurrences_eq_zero filled).mpr found
      rw [zero, Nat.mul_zero, Nat.add_zero]
      exact List.countP_eq_length.mpr owned
    | some pos =>
      have one := occurrences_found once found
      have bound := (findText_eq_some found).2.length_le
      rw [List.length_drop, List.length_map] at bound
      have inside := (findText_eq_some found).1
      rw [List.length_map] at inside
      rw [← List.map_drop] at one
      have later := @ih (text.drop (pos + (c :: tail).length)) (by omega)
        fun x member => owned x (List.mem_of_mem_drop member)
      have before : (text.take pos).countP own = pos := by
        rw [List.countP_eq_length.mpr fun x member => owned x (List.mem_of_mem_take member), List.length_take]
        omega
      have none_ : format.countP own = 0 := List.countP_eq_zero.mpr fun x member => by simp [foreign x member]
      dsimp only
      rw [expandOver_inert byteOf inert, List.countP_append, List.countP_append, before, none_, one, Nat.mul_add]
      rw [List.length_drop] at later
      omega

end Traced

end Chat
