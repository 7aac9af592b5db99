import Mathlib.Data.List.Nodup
import HttpServerApps.Chat.TracedReplace

namespace Chat

open Common

/-! What it means to fill a template in literally. -/

def userInputPlaceholder : Bytes := bytes "\x7buser_input\x7d"
def toolListPlaceholder : Bytes := bytes "\x7btool_list\x7d"

inductive Piece (Symbol : Type) where
  | char (c : Symbol)
  | userInput (text : List Symbol)
  | toolList (text : List Symbol)

namespace Piece

variable {Symbol : Type}

def text : Piece Symbol → List Symbol
  | .char c => [c]
  | .userInput text => text
  | .toolList text => text

def filled (userInput toolList : List Symbol) : Piece Symbol → List Symbol
  | .char c => [c]
  | .userInput _ => userInput
  | .toolList _ => toolList

/-- With only the user's text filled in. -/
def userFilled (userInput : List Symbol) : Piece Symbol → List Symbol
  | .char c => [c]
  | .userInput _ => userInput
  | .toolList text => text

def isUserInput : Piece Symbol → Bool
  | .userInput _ => true
  | _ => false

def isToolList : Piece Symbol → Bool
  | .toolList _ => true
  | _ => false

def map {Image : Type} (image : Symbol → Image) : Piece Symbol → Piece Image
  | .char c => .char (image c)
  | .userInput text => .userInput (text.map image)
  | .toolList text => .toolList (text.map image)

/-- The piece as the first replacement sees it. -/
def userSegment : Piece Symbol → Segment Symbol
  | .char c => .gap [c]
  | .userInput text => .hole text
  | .toolList text => .gap text

/-- The piece as the second replacement sees it. -/
def toolSegment (userInput : List Symbol) : Piece Symbol → Segment Symbol
  | .char c => .gap [c]
  | .userInput _ => .gap userInput
  | .toolList text => .hole text

end Piece

section Templates

variable {Symbol : Type} (byteOf : Symbol → UInt8)

/-- The template, cut at its placeholders; `skip` characters of a placeholder are still to pass. -/
def cutTemplate : (skip : Nat) → List Symbol → List (Piece Symbol)
  | _, [] => []
  | skip + 1, _ :: rest => cutTemplate skip rest
  | 0, c :: rest =>
    if userInputPlaceholder.isPrefixOf ((c :: rest).map byteOf) then
      .userInput ((c :: rest).take userInputPlaceholder.length) :: cutTemplate (userInputPlaceholder.length - 1) rest
    else if toolListPlaceholder.isPrefixOf ((c :: rest).map byteOf) then
      .toolList ((c :: rest).take toolListPlaceholder.length) :: cutTemplate (toolListPlaceholder.length - 1) rest
    else .char c :: cutTemplate 0 rest

def fillTemplate (userInput toolList template : List Symbol) : List Symbol :=
  (cutTemplate byteOf 0 template).flatMap (Piece.filled userInput toolList)

end Templates

/-! The characters of a prompt, with the text they come from and their place in it. -/

inductive Source where
  | template
  | userInput
  | toolList
  deriving DecidableEq

structure Character where
  byte : UInt8
  source : Source
  index : Nat
  deriving DecidableEq

def characters (source : Source) (text : Bytes) : List Character :=
  text.zipIdx.map fun (byte, index) => ⟨byte, source, index⟩

namespace AIConfig

/-- `buildPrompt`, with where each character of the prompt comes from. -/
def tracePrompt (config : AIConfig) (userInput : Bytes) : List Character :=
  let result := replaceOver Character.byte userInputPlaceholder (characters .userInput userInput)
    config.promptTemplate.length (characters .template config.promptTemplate)
  replaceOver Character.byte toolListPlaceholder (characters .toolList config.buildToolList) result.length result

/-- Every placeholder of the template has become its text, and nothing else has been done to either. -/
structure FilledLiterally (config : AIConfig) (userInput : Bytes) : Prop where
  text : config.buildPrompt userInput = fillTemplate id userInput config.buildToolList config.promptTemplate
  traced : config.tracePrompt userInput =
    fillTemplate Character.byte (characters .userInput userInput) (characters .toolList config.buildToolList)
      (characters .template config.promptTemplate)

end AIConfig

theorem characters_byte (source : Source) (text : Bytes) : (characters source text).map Character.byte = text := by
  unfold characters
  rw [List.map_map]
  exact List.zipIdx_map_fst 0 text

theorem characters_source {source : Source} {text : Bytes} {x : Character} (member : x ∈ characters source text) :
    x.source = source := by
  rcases List.mem_map.mp member with ⟨_, _, rfl⟩
  rfl

theorem characters_nodup (source : Source) (text : Bytes) : (characters source text).Nodup := by
  have places : ((characters source text).map Character.index).Nodup := by
    unfold characters
    rw [List.map_map]
    have indices : text.zipIdx.map (Character.index ∘ fun (byte, index) => ⟨byte, source, index⟩) =
        List.range' 0 text.length := List.zipIdx_map_snd 0 text
    rw [indices]
    exact List.nodup_range'
  exact List.Nodup.of_map _ places

theorem tracePrompt_byte (config : AIConfig) (userInput : Bytes) :
    (config.tracePrompt userInput).map Character.byte = config.buildPrompt userInput := by
  unfold AIConfig.tracePrompt AIConfig.buildPrompt regexReplace
  dsimp only
  have first := replaceOver_map Character.byte userInputPlaceholder (characters .userInput userInput)
    config.promptTemplate.length (characters .template config.promptTemplate)
  rw [characters_byte, characters_byte] at first
  rw [replaceOver_map, characters_byte, first, ← List.length_map, first]
  rfl

/-! The cut template. -/

section Cut

variable {Symbol : Type} (byteOf : Symbol → UInt8)

def userInputTail : Bytes := bytes "user_input\x7d"
def toolListTail : Bytes := bytes "tool_list\x7d"

theorem userInputPlaceholder_eq : userInputPlaceholder = 123 :: userInputTail := by decide
theorem toolListPlaceholder_eq : toolListPlaceholder = 123 :: toolListTail := by decide
theorem userInput_once : (123 : UInt8) ∉ userInputTail := by decide
theorem toolList_once : (123 : UInt8) ∉ toolListTail := by decide

theorem placeholder_taken {tail : Bytes} {c : Symbol} {rest : List Symbol}
    (starts : (123 :: tail).isPrefixOf ((c :: rest).map byteOf) = true) :
    ((c :: rest).take (123 :: tail).length).map byteOf = 123 :: tail ∧
      c :: rest = (c :: rest).take (123 :: tail).length ++ rest.drop ((123 :: tail).length - 1) := by
  have occurs := List.isPrefixOf_iff_prefix.mp starts
  apply And.intro
  · rw [List.map_take]
    exact (List.prefix_iff_eq_take.mp occurs).symm
  · exact (List.take_append_drop (tail.length + 1) (c :: rest)).symm

theorem noneStarts_userInput (right : Bytes) : NoneStarts userInputPlaceholder (123 :: toolListTail) right := by
  have absent : (123 : UInt8) ∉ toolListTail := toolList_once
  have later := noneStarts_absent absent userInputTail right
  rw [← userInputPlaceholder_eq] at later
  apply later.cons
  rintro ⟨more, same⟩
  have second : (userInputPlaceholder ++ more)[1]? = (123 :: (toolListTail ++ right))[1]? := by rw [same]
  cases second

theorem noneStarts_toolList (right : Bytes) : NoneStarts toolListPlaceholder (123 :: userInputTail) right := by
  have absent : (123 : UInt8) ∉ userInputTail := userInput_once
  have later := noneStarts_absent absent toolListTail right
  rw [← toolListPlaceholder_eq] at later
  apply later.cons
  rintro ⟨more, same⟩
  have second : (toolListPlaceholder ++ more)[1]? = (123 :: (userInputTail ++ right))[1]? := by rw [same]
  cases second

theorem cutTemplate_text (skip : Nat) (template : List Symbol) :
    (cutTemplate byteOf skip template).flatMap Piece.text = template.drop skip := by
  fun_induction cutTemplate byteOf skip template with
  | case1 skip => rw [List.drop_nil]; rfl
  | case2 skip c rest ih => exact ih
  | case3 c rest starts ih =>
    rw [userInputPlaceholder_eq] at starts
    have taken := (placeholder_taken byteOf starts).2
    rw [List.flatMap_cons, ih, userInputPlaceholder_eq]
    exact taken.symm
  | case4 c rest _ starts ih =>
    rw [toolListPlaceholder_eq] at starts
    have taken := (placeholder_taken byteOf starts).2
    rw [List.flatMap_cons, ih, toolListPlaceholder_eq]
    exact taken.symm
  | case5 c rest _ _ ih => rw [List.flatMap_cons, ih]; rfl

theorem cutTemplate_userInput {skip : Nat} {template text : List Symbol}
    (member : .userInput text ∈ cutTemplate byteOf skip template) : text.map byteOf = userInputPlaceholder := by
  fun_induction cutTemplate byteOf skip template with
  | case1 skip => cases member
  | case2 skip c rest ih => exact ih member
  | case3 c rest starts ih =>
    rcases List.mem_cons.mp member with here | later
    · cases here
      rw [userInputPlaceholder_eq] at starts ⊢
      exact (placeholder_taken byteOf starts).1
    · exact ih later
  | case4 c rest _ starts ih =>
    rcases List.mem_cons.mp member with here | later
    · cases here
    · exact ih later
  | case5 c rest _ _ ih =>
    rcases List.mem_cons.mp member with here | later
    · cases here
    · exact ih later

theorem cutTemplate_toolList {skip : Nat} {template text : List Symbol}
    (member : .toolList text ∈ cutTemplate byteOf skip template) : text.map byteOf = toolListPlaceholder := by
  fun_induction cutTemplate byteOf skip template with
  | case1 skip => cases member
  | case2 skip c rest ih => exact ih member
  | case3 c rest _ ih =>
    rcases List.mem_cons.mp member with here | later
    · cases here
    · exact ih later
  | case4 c rest _ starts ih =>
    rcases List.mem_cons.mp member with here | later
    · cases here
      rw [toolListPlaceholder_eq] at starts ⊢
      exact (placeholder_taken byteOf starts).1
    · exact ih later
  | case5 c rest _ _ ih =>
    rcases List.mem_cons.mp member with here | later
    · cases here
    · exact ih later

/-- The pieces of the template are the places where the placeholders occur. -/
theorem cutTemplate_userInputs (skip : Nat) (template : List Symbol) :
    occurrences userInputPlaceholder ((template.drop skip).map byteOf) =
      (cutTemplate byteOf skip template).countP Piece.isUserInput := by
  fun_induction cutTemplate byteOf skip template with
  | case1 skip => rw [List.drop_nil]; rfl
  | case2 skip c rest ih => exact ih
  | case3 c rest starts ih =>
    rw [userInputPlaceholder_eq] at starts
    rcases placeholder_taken byteOf starts with ⟨spelled, taken⟩
    rw [List.countP_cons_of_pos rfl, ← ih, List.drop_zero, taken, List.map_append]
    rw [userInputPlaceholder_eq, spelled, occurrences_here userInput_once, Nat.add_comm]
  | case4 c rest other starts ih =>
    rw [toolListPlaceholder_eq] at starts
    rcases placeholder_taken byteOf starts with ⟨spelled, taken⟩
    have free := noneStarts_userInput ((rest.drop ((123 :: toolListTail).length - 1)).map byteOf)
    rw [List.countP_cons_of_neg (by simp [Piece.isUserInput]), ← ih, List.drop_zero, taken, List.map_append, spelled]
    rw [(occurrences_skip _ _ _).mpr free, toolListPlaceholder_eq]
  | case5 c rest notUser _ ih =>
    rw [List.countP_cons_of_neg (by simp [Piece.isUserInput]), ← ih]
    rw [List.drop_zero, List.drop_zero, List.map_cons, occurrences, if_neg (by simpa using notUser), Nat.zero_add]

theorem cutTemplate_toolLists (skip : Nat) (template : List Symbol) :
    occurrences toolListPlaceholder ((template.drop skip).map byteOf) =
      (cutTemplate byteOf skip template).countP Piece.isToolList := by
  fun_induction cutTemplate byteOf skip template with
  | case1 skip => rw [List.drop_nil]; rfl
  | case2 skip c rest ih => exact ih
  | case3 c rest starts ih =>
    rw [userInputPlaceholder_eq] at starts
    rcases placeholder_taken byteOf starts with ⟨spelled, taken⟩
    have free := noneStarts_toolList ((rest.drop ((123 :: userInputTail).length - 1)).map byteOf)
    rw [List.countP_cons_of_neg (by simp [Piece.isToolList]), ← ih, List.drop_zero, taken, List.map_append, spelled]
    rw [(occurrences_skip _ _ _).mpr free, userInputPlaceholder_eq]
  | case4 c rest _ starts ih =>
    rw [toolListPlaceholder_eq] at starts
    rcases placeholder_taken byteOf starts with ⟨spelled, taken⟩
    rw [List.countP_cons_of_pos rfl, ← ih, List.drop_zero, taken, List.map_append]
    rw [toolListPlaceholder_eq, spelled, occurrences_here toolList_once, Nat.add_comm]
  | case5 c rest _ notTool ih =>
    rw [List.countP_cons_of_neg (by simp [Piece.isToolList]), ← ih]
    rw [List.drop_zero, List.drop_zero, List.map_cons, occurrences, if_neg (by simpa using notTool), Nat.zero_add]

theorem cutTemplate_map (skip : Nat) (template : List Symbol) :
    (cutTemplate byteOf skip template).map (Piece.map byteOf) = cutTemplate id skip (template.map byteOf) := by
  fun_induction cutTemplate byteOf skip template with
  | case1 skip => cases skip <;> rfl
  | case2 skip c rest ih => exact ih
  | case3 c rest starts ih =>
    rw [List.map_cons] at starts
    rw [List.map_cons, ih, List.map_cons, cutTemplate, List.map_id, if_pos starts, Piece.map, List.map_take]
    rfl
  | case4 c rest other starts ih =>
    rw [List.map_cons] at other starts
    rw [List.map_cons, ih, List.map_cons, cutTemplate, List.map_id, if_neg other, if_pos starts, Piece.map,
      List.map_take]
    rfl
  | case5 c rest other neither ih =>
    rw [List.map_cons] at other neither
    rw [List.map_cons, ih, List.map_cons, cutTemplate, List.map_id, if_neg other, if_neg neither]
    rfl

theorem filled_map (userInput toolList : List Symbol) (pieces : List (Piece Symbol)) :
    (pieces.flatMap (Piece.filled userInput toolList)).map byteOf =
      (pieces.map (Piece.map byteOf)).flatMap (Piece.filled (userInput.map byteOf) (toolList.map byteOf)) := by
  rw [List.map_flatMap, List.flatMap_map]
  congr 1
  funext piece
  cases piece <;> rfl

theorem fillTemplate_map (userInput toolList template : List Symbol) :
    (fillTemplate byteOf userInput toolList template).map byteOf =
      fillTemplate id (userInput.map byteOf) (toolList.map byteOf) (template.map byteOf) := by
  unfold fillTemplate
  rw [filled_map, cutTemplate_map]

/-! The two replacements. -/

/-- The template with the user's text in it and `{tool_list}` as it stands. -/
def fillUserInput (userInput template : List Symbol) : List Symbol :=
  (cutTemplate byteOf 0 template).flatMap (Piece.userFilled userInput)

theorem fillUserInput_map (userInput template : List Symbol) :
    (fillUserInput byteOf userInput template).map byteOf =
      fillTemplate id (userInput.map byteOf) toolListPlaceholder (template.map byteOf) := by
  unfold fillUserInput fillTemplate
  rw [← cutTemplate_map, List.map_flatMap, List.flatMap_map]
  apply List.flatMap_congr
  intro piece member
  cases piece with
  | char c => rfl
  | userInput text => rfl
  | toolList text => exact cutTemplate_toolList byteOf member

theorem fillUserInput_absent {userInput template : List Symbol}
    (absent : occurrences userInputPlaceholder (template.map byteOf) = 0) :
    fillUserInput byteOf userInput template = template := by
  have count := cutTemplate_userInputs byteOf 0 template
  rw [List.drop_zero, absent] at count
  have spelled := cutTemplate_text byteOf 0 template
  rw [List.drop_zero] at spelled
  refine Eq.trans ?_ spelled
  apply List.flatMap_congr
  intro piece member
  have other := List.countP_eq_zero.mp count.symm piece member
  cases piece with
  | char c => rfl
  | userInput text => exact absurd rfl other
  | toolList text => rfl

theorem fillTemplate_absent {userInput toolList template : List Symbol}
    (absent : occurrences toolListPlaceholder (template.map byteOf) = 0) :
    fillTemplate byteOf userInput toolList template = fillUserInput byteOf userInput template := by
  have count := cutTemplate_toolLists byteOf 0 template
  rw [List.drop_zero, absent] at count
  apply List.flatMap_congr
  intro piece member
  have other := List.countP_eq_zero.mp count.symm piece member
  cases piece with
  | char c => rfl
  | userInput text => rfl
  | toolList text => exact absurd rfl other

/-- Where the placeholder occurs only in the pieces that are its holes, exactly these are filled. -/
theorem replace_pieces {tail : Bytes} (once : (123 : UInt8) ∉ tail) {pieces : List (Piece Symbol)}
    {segment : Piece Symbol → Segment Symbol} {text format : List Symbol}
    (fits : ∀ piece ∈ pieces, ∀ found, segment piece = .hole found → found.map byteOf = 123 :: tail)
    (inert : Inert (format.map byteOf)) (spelled : (pieces.flatMap fun piece => (segment piece).text) = text)
    (only : occurrences (123 :: tail) (text.map byteOf) = pieces.countP fun piece => (segment piece).isHole) :
    replaceOver byteOf (123 :: tail) format text.length text =
      pieces.flatMap fun piece => (segment piece).filled format := by
  have segmentsFit : HolesFit byteOf (123 :: tail) (pieces.map segment) := by
    intro found member
    rcases List.mem_map.mp member with ⟨piece, there, same⟩
    exact fits piece there found same
  have texts : (pieces.map segment).flatMap Segment.text = text := by rw [List.flatMap_map, spelled]
  have holes : (pieces.map segment).countP Segment.isHole = pieces.countP fun piece => (segment piece).isHole :=
    List.countP_map
  have bound := occurrences_le_length (123 :: tail) (text.map byteOf)
  rw [List.length_map] at bound
  have replaced := @replaceOver_segments _ byteOf _ _ once _ segmentsFit format inert text.length
    (by rw [holes, ← only]; exact bound) (by rw [texts, holes]; exact only)
  rw [texts, List.flatMap_map] at replaced
  exact replaced

theorem replace_userInput {userInput template : List Symbol}
    (inert : occurrences userInputPlaceholder (template.map byteOf) ≠ 0 → Inert (userInput.map byteOf)) :
    replaceOver byteOf userInputPlaceholder userInput template.length template =
      fillUserInput byteOf userInput template := by
  by_cases absent : occurrences userInputPlaceholder (template.map byteOf) = 0
  · have filled : userInputPlaceholder ≠ [] := by decide
    rw [replaceOver_none byteOf filled absent, fillUserInput_absent byteOf absent]
  · have count := cutTemplate_userInputs byteOf 0 template
    have spelled := cutTemplate_text byteOf 0 template
    rw [List.drop_zero] at count spelled
    have fits : ∀ piece ∈ cutTemplate byteOf 0 template, ∀ found,
        piece.userSegment = .hole found → found.map byteOf = 123 :: userInputTail := by
      intro piece member found hole
      cases piece with
      | char c => cases hole
      | userInput text =>
        cases hole
        exact cutTemplate_userInput byteOf member
      | toolList text => cases hole
    have texts : (fun piece : Piece Symbol => piece.userSegment.text) = Piece.text := by
      funext piece
      cases piece <;> rfl
    have holes : (fun piece : Piece Symbol => piece.userSegment.isHole) = Piece.isUserInput := by
      funext piece
      cases piece <;> rfl
    have results : (fun piece : Piece Symbol => piece.userSegment.filled userInput) = Piece.userFilled userInput := by
      funext piece
      cases piece <;> rfl
    rw [← texts] at spelled
    rw [← holes] at count
    have replaced := replace_pieces byteOf userInput_once fits (inert absent) spelled count
    rw [results] at replaced
    exact replaced

theorem replace_toolList {userInput toolList template : List Symbol}
    (inert : occurrences toolListPlaceholder (template.map byteOf) ≠ 0 → Inert (toolList.map byteOf))
    (only : occurrences toolListPlaceholder ((fillUserInput byteOf userInput template).map byteOf) =
      occurrences toolListPlaceholder (template.map byteOf)) :
    replaceOver byteOf toolListPlaceholder toolList (fillUserInput byteOf userInput template).length
        (fillUserInput byteOf userInput template) =
      fillTemplate byteOf userInput toolList template := by
  by_cases absent : occurrences toolListPlaceholder (template.map byteOf) = 0
  · have filled : toolListPlaceholder ≠ [] := by decide
    rw [replaceOver_none byteOf filled (only.trans absent), fillTemplate_absent byteOf absent]
  · have count := cutTemplate_toolLists byteOf 0 template
    rw [List.drop_zero] at count
    have fits : ∀ piece ∈ cutTemplate byteOf 0 template, ∀ found,
        piece.toolSegment userInput = .hole found → found.map byteOf = 123 :: toolListTail := by
      intro piece member found hole
      cases piece with
      | char c => cases hole
      | userInput text => cases hole
      | toolList text =>
        cases hole
        exact cutTemplate_toolList byteOf member
    have texts : (fun piece : Piece Symbol => (piece.toolSegment userInput).text) = Piece.userFilled userInput := by
      funext piece
      cases piece <;> rfl
    have holes : (fun piece : Piece Symbol => (piece.toolSegment userInput).isHole) = Piece.isToolList := by
      funext piece
      cases piece <;> rfl
    have results : (fun piece : Piece Symbol => (piece.toolSegment userInput).filled toolList) =
        Piece.filled userInput toolList := by
      funext piece
      cases piece <;> rfl
    rw [← holes] at count
    have spelled : ((cutTemplate byteOf 0 template).flatMap fun piece => (piece.toolSegment userInput).text) =
        fillUserInput byteOf userInput template := by rw [texts, fillUserInput]
    have replaced := replace_pieces byteOf toolList_once fits (inert absent) spelled (only.trans count)
    rw [results] at replaced
    exact replaced

/-- The characters that are not of the tool list, and the placeholders it has taken the place of. -/
theorem fillTemplate_countP {own : Symbol → Bool} {userInput toolList template : List Symbol}
    (foreign : ∀ x ∈ toolList, own x = false) (user : ∀ x ∈ userInput, own x = true)
    (owned : ∀ x ∈ template, own x = true) :
    (fillTemplate byteOf userInput toolList template).countP own +
        toolListPlaceholder.length * occurrences toolListPlaceholder (template.map byteOf) =
      (fillUserInput byteOf userInput template).length := by
  have count := cutTemplate_toolLists byteOf 0 template
  have spelled := cutTemplate_text byteOf 0 template
  rw [List.drop_zero] at count spelled
  rw [count]
  have none_ : toolList.countP own = 0 := List.countP_eq_zero.mpr fun x member => by simp [foreign x member]
  have all : userInput.countP own = userInput.length := List.countP_eq_length.mpr user
  have chars : ∀ c, .char c ∈ cutTemplate byteOf 0 template → own c = true := by
    intro c member
    apply owned
    rw [← spelled]
    exact List.mem_flatMap.mpr ⟨_, member, List.mem_singleton.mpr rfl⟩
  have sizes : ∀ text, .toolList text ∈ cutTemplate byteOf 0 template → text.length = toolListPlaceholder.length := by
    intro text member
    rw [← cutTemplate_toolList byteOf member, List.length_map]
  unfold fillTemplate fillUserInput
  clear count spelled
  generalize cutTemplate byteOf 0 template = pieces at chars sizes
  induction pieces with
  | nil => rfl
  | cons piece pieces ih =>
    have later := ih (fun c member => chars c (List.mem_cons_of_mem _ member))
      fun text member => sizes text (List.mem_cons_of_mem _ member)
    rw [List.flatMap_cons, List.flatMap_cons, List.countP_append, List.length_append]
    cases piece with
    | char c =>
      have here := chars c (List.mem_cons_self ..)
      rw [List.countP_cons_of_neg (by simp [Piece.isToolList])]
      simp only [Piece.filled, Piece.userFilled, List.countP_singleton, here, if_true, List.length_singleton]
      omega
    | userInput text =>
      rw [List.countP_cons_of_neg (by simp [Piece.isToolList])]
      simp only [Piece.filled, Piece.userFilled, all]
      omega
    | toolList text =>
      have here := sizes text (List.mem_cons_self ..)
      rw [List.countP_cons_of_pos rfl, Nat.mul_succ]
      simp only [Piece.filled, Piece.userFilled, none_, here]
      omega

theorem mem_fillUserInput {userInput template : List Symbol} {x : Symbol}
    (member : x ∈ fillUserInput byteOf userInput template) : x ∈ userInput ∨ x ∈ template := by
  have spelled := cutTemplate_text byteOf 0 template
  rw [List.drop_zero] at spelled
  rcases List.mem_flatMap.mp member with ⟨piece, there, inside⟩
  cases piece with
  | userInput text => exact Or.inl inside
  | char c =>
    right
    rw [← spelled]
    exact List.mem_flatMap.mpr ⟨_, there, inside⟩
  | toolList text =>
    right
    rw [← spelled]
    exact List.mem_flatMap.mpr ⟨_, there, inside⟩

theorem userInput_mem_fillTemplate {userInput toolList template : List Symbol} {x : Symbol} (member : x ∈ userInput)
    (occurs : occurrences userInputPlaceholder (template.map byteOf) ≠ 0) :
    x ∈ fillTemplate byteOf userInput toolList template := by
  have count := cutTemplate_userInputs byteOf 0 template
  rw [List.drop_zero] at count
  rw [count] at occurs
  rcases List.countP_pos_iff.mp (Nat.pos_of_ne_zero occurs) with ⟨piece, there, hole⟩
  cases piece with
  | char c => cases hole
  | userInput text => exact List.mem_flatMap.mpr ⟨_, there, member⟩
  | toolList text => cases hole

theorem toolList_mem_fillTemplate {userInput toolList template : List Symbol} {x : Symbol} (member : x ∈ toolList)
    (occurs : occurrences toolListPlaceholder (template.map byteOf) ≠ 0) :
    x ∈ fillTemplate byteOf userInput toolList template := by
  have count := cutTemplate_toolLists byteOf 0 template
  rw [List.drop_zero] at count
  rw [count] at occurs
  rcases List.countP_pos_iff.mp (Nat.pos_of_ne_zero occurs) with ⟨piece, there, hole⟩
  cases piece with
  | char c => cases hole
  | userInput text => cases hole
  | toolList text => exact List.mem_flatMap.mpr ⟨_, there, member⟩

end Cut

/-! Which characters a prompt has. -/

namespace AIConfig

variable (config : AIConfig) (userInput : Bytes)

theorem tracePrompt_source {x : Character} (member : x ∈ config.tracePrompt userInput) :
    x ∈ characters .template config.promptTemplate ∨
      x ∈ copied Character.byte (characters .userInput userInput) ∨
      x ∈ copied Character.byte (characters .toolList config.buildToolList) := by
  rcases mem_replaceOver Character.byte member with first | tool
  · rcases mem_replaceOver Character.byte first with template | user
    · exact Or.inl template
    · exact Or.inr (Or.inl user)
  · exact Or.inr (Or.inr tool)

theorem copied_source {source : Source} {text : Bytes} {x : Character}
    (member : x ∈ copied Character.byte (characters source text)) : x.source = source :=
  characters_source ((copied_sublist Character.byte _).subset member)

theorem userInput_inert (literal : config.FilledLiterally userInput)
    (occurs : occurrences userInputPlaceholder config.promptTemplate ≠ 0) : Inert userInput := by
  by_contra active
  rw [← characters_byte .userInput userInput] at active
  rcases exists_not_copied Character.byte (characters_nodup .userInput userInput) active with ⟨x, member, dropped⟩
  have source := characters_source member
  rw [← characters_byte .template config.promptTemplate] at occurs
  have present := @userInput_mem_fillTemplate _ Character.byte _ (characters .toolList config.buildToolList) _ x
    member occurs
  rw [← literal.traced] at present
  rcases config.tracePrompt_source userInput present with template | user | tool
  · rw [characters_source template] at source
    cases source
  · exact dropped user
  · rw [copied_source tool] at source
    cases source

theorem toolList_inert (literal : config.FilledLiterally userInput)
    (occurs : occurrences toolListPlaceholder config.promptTemplate ≠ 0) : Inert config.buildToolList := by
  by_contra active
  rw [← characters_byte .toolList config.buildToolList] at active
  rcases exists_not_copied Character.byte (characters_nodup .toolList _) active with ⟨x, member, dropped⟩
  have source := characters_source member
  rw [← characters_byte .template config.promptTemplate] at occurs
  have present := @toolList_mem_fillTemplate _ Character.byte (characters .userInput userInput) _ _ x
    member occurs
  rw [← literal.traced] at present
  rcases config.tracePrompt_source userInput present with template | user | tool
  · rw [characters_source template] at source
    cases source
  · rw [copied_source user] at source
    cases source
  · exact dropped tool

theorem buildToolList_newline {config : AIConfig} (listed : config.buildToolList ≠ []) : 10 ∈ config.buildToolList := by
  unfold buildToolList at listed ⊢
  cases shape : config.tools with
  | nil =>
    rw [shape] at listed
    exact absurd rfl listed
  | cons tool tools =>
    have newline : (10 : UInt8) ∈ bytes "\n" := by decide
    rw [List.flatMap_cons]
    exact List.mem_append_left _ (List.mem_append_right _ newline)

/-- The template with the user's text in it, character by character. -/
def traceUserInput : List Character :=
  fillUserInput Character.byte (characters .userInput userInput) (characters .template config.promptTemplate)

theorem traceUserInput_byte : (config.traceUserInput userInput).map Character.byte =
    fillTemplate id userInput toolListPlaceholder config.promptTemplate := by
  unfold traceUserInput
  rw [fillUserInput_map, characters_byte, characters_byte]

theorem traceUserInput_source {x : Character} (member : x ∈ config.traceUserInput userInput) :
    x.source ≠ .toolList := by
  rcases mem_fillUserInput Character.byte member with user | template
  · rw [characters_source user]
    decide
  · rw [characters_source template]
    decide

theorem tracePrompt_eq (inert : occurrences userInputPlaceholder config.promptTemplate ≠ 0 → Inert userInput) :
    config.tracePrompt userInput =
      replaceOver Character.byte toolListPlaceholder (characters .toolList config.buildToolList)
        (config.traceUserInput userInput).length (config.traceUserInput userInput) := by
  have length : (characters .template config.promptTemplate).length = config.promptTemplate.length := by
    rw [← List.length_map Character.byte, characters_byte]
  have first := @replace_userInput _ Character.byte (characters .userInput userInput)
    (characters .template config.promptTemplate) (by rw [characters_byte, characters_byte]; exact inert)
  rw [length] at first
  unfold tracePrompt traceUserInput
  dsimp only
  rw [first]

/-- Every `{tool_list}` that is replaced was one of the template. -/
theorem toolList_only (literal : config.FilledLiterally userInput) :
    occurrences toolListPlaceholder (fillTemplate id userInput toolListPlaceholder config.promptTemplate) =
      occurrences toolListPlaceholder config.promptTemplate := by
  have trace := literal.traced
  rw [config.tracePrompt_eq userInput (config.userInput_inert userInput literal)] at trace
  rw [← config.traceUserInput_byte userInput]
  by_cases inert : Inert config.buildToolList
  · -- as many characters are left of the other two texts on either side
    rw [← characters_byte .toolList config.buildToolList] at inert
    have bound := occurrences_le_length toolListPlaceholder ((config.traceUserInput userInput).map Character.byte)
    rw [List.length_map] at bound
    have replaced := @replaceOver_countP _ Character.byte _ _ toolList_once _ inert
      (fun x => decide (x.source ≠ .toolList)) (fun x member => by simp [characters_source member])
      _ (config.traceUserInput userInput) bound
      fun x member => decide_eq_true (config.traceUserInput_source userInput member)
    have expected := @fillTemplate_countP _ Character.byte (fun x => decide (x.source ≠ .toolList))
      (characters .userInput userInput) (characters .toolList config.buildToolList)
      (characters .template config.promptTemplate) (fun x member => by simp [characters_source member])
      (fun x member => by simp [characters_source member]) fun x member => by simp [characters_source member]
    rw [characters_byte] at expected
    have size : 0 < toolListPlaceholder.length := by decide
    have same := replaced.trans expected.symm
    rw [← toolListPlaceholder_eq, trace] at same
    exact Nat.eq_of_mul_eq_mul_left size (Nat.add_left_cancel same)
  · -- the line break of a listed tool would show a replacement
    have absent : occurrences toolListPlaceholder config.promptTemplate = 0 := by
      by_contra occurs
      exact inert (config.toolList_inert userInput literal occurs)
    have listed : config.buildToolList ≠ [] := by
      intro empty
      rw [empty] at inert
      exact inert fun d _ occurs => by cases List.infix_nil.mp occurs
    rw [absent]
    by_contra occurs
    have newline := buildToolList_newline listed
    rw [← characters_byte .toolList config.buildToolList] at newline
    rcases List.mem_map.mp newline with ⟨x, member, byte⟩
    have copy := newline_copied Character.byte member byte
    have bound := occurrences_le_length toolListPlaceholder ((config.traceUserInput userInput).map Character.byte)
    rw [List.length_map] at bound
    obtain ⟨matches_, length⟩ : ∃ matches_, (config.traceUserInput userInput).length = matches_ + 1 :=
      ⟨(config.traceUserInput userInput).length - 1, by omega⟩
    have shown := @copied_mem_replaceOver _ Character.byte _ _ _ matches_ x (by decide) (Nat.pos_of_ne_zero occurs) copy
    rw [← length, trace, fillTemplate_absent Character.byte (by rw [characters_byte]; exact absent)] at shown
    exact config.traceUserInput_source userInput shown (characters_source member)

/-- What each placeholder stands for is put in as it is, exactly when it refers to nothing and completes no
    further `{tool_list}`. -/
theorem filledLiterally_iff (config : AIConfig) (userInput : Bytes) :
    config.FilledLiterally userInput ↔
      (occurrences userInputPlaceholder config.promptTemplate ≠ 0 → Inert userInput) ∧
      (occurrences toolListPlaceholder config.promptTemplate ≠ 0 → Inert config.buildToolList) ∧
      occurrences toolListPlaceholder (fillTemplate id userInput toolListPlaceholder config.promptTemplate) =
        occurrences toolListPlaceholder config.promptTemplate := by
  apply Iff.intro
  · intro literal
    exact ⟨config.userInput_inert userInput literal, config.toolList_inert userInput literal,
      config.toolList_only userInput literal⟩
  · rintro ⟨user, tool, only⟩
    have traced : config.tracePrompt userInput =
        fillTemplate Character.byte (characters .userInput userInput) (characters .toolList config.buildToolList)
          (characters .template config.promptTemplate) := by
      have second := @replace_toolList _ Character.byte (characters .userInput userInput)
        (characters .toolList config.buildToolList) (characters .template config.promptTemplate)
        (by rw [characters_byte, characters_byte]; exact tool)
        (by rw [fillUserInput_map, characters_byte, characters_byte]; exact only)
      exact (config.tracePrompt_eq userInput user).trans second
    have text := congrArg (List.map Character.byte) traced
    rw [tracePrompt_byte, fillTemplate_map, characters_byte, characters_byte, characters_byte] at text
    exact ⟨text, traced⟩

/-- The match itself comes back for `$&`. -/
theorem reference_interpreted :
    ¬ FilledLiterally ⟨bytes "Q: \x7buser_input\x7d", []⟩ (bytes "$&") := by
  intro literal
  have text := literal.text
  revert text
  decide

end AIConfig

end Chat
