import HttpServerApps.Common.Search
import HttpServerApps.Router.Buckets

namespace Http.Routing

open Common SequenceRegex

/-- What follows a slash of a pattern: `:name`, or any other text. -/
inductive Segment where
  | static (text : Bytes) (noSlash : slash ∉ text) (unnamed : ∀ c rest, text ≠ 58 :: c :: rest)
  | param (name : Bytes) (named : name ≠ []) (noSlash : slash ∉ name)

def Segment.text : Segment → Bytes
  | static text _ _ => text
  | param name _ _ => 58 :: name

def Segment.isParam : Segment → Bool
  | static _ _ _ => false
  | param _ _ _ => true

def patternText (segments : List Segment) : Bytes := segments.flatMap fun segment => slash :: segment.text

def paramCount (segments : List Segment) : Nat := segments.countP Segment.isParam

/-- The path with the values, in order, in the places of the parameters. -/
def substitute : List Segment → List Bytes → Bytes
  | [], _ => []
  | .static text _ _ :: segments, values => slash :: text ++ substitute segments values
  | .param _ _ _ :: segments, value :: values => slash :: value ++ substitute segments values
  | .param _ _ _ :: _, [] => []

/-- One value for each parameter, none of them empty or with a slash. -/
structure ValuesFor (segments : List Segment) (values : List Bytes) : Prop where
  count : values.length = paramCount segments
  filled : ∀ value ∈ values, value ≠ []
  noSlash : ∀ value ∈ values, slash ∉ value

/-- The request has the parameters `param1`, `param2` and so on with these values, and its other ones are as before. -/
structure HasParameters (before after : HttpRequest) (values : List Bytes) : Prop where
  given : ∀ i (bound : i < values.length),
    after.getPathParameters (bytes "param" ++ natText (i + 1)) = values[i]
  others : ∀ name, (∀ i < values.length, name ≠ bytes "param" ++ natText (i + 1)) →
    after.pathParameters.find name = before.pathParameters.find name

/-! A pattern that starts with a slash is made of segments. -/

theorem exists_segments (pathPattern : Bytes) (leading : pathPattern.head? = some slash) :
    ∃ segments, patternText segments = pathPattern := by
  have segment : ∀ text : Bytes, slash ∉ text → ∃ segment : Segment, segment.text = text := by
    intro text noSlash
    cases text with
    | nil => exact ⟨.static [] noSlash (fun _ _ => List.cons_ne_nil _ _ |> Ne.symm), rfl⟩
    | cons first rest =>
      by_cases named : first = 58 ∧ rest ≠ []
      · rcases named with ⟨rfl, filled⟩
        exact ⟨.param rest filled fun inside => noSlash (List.mem_cons_of_mem _ inside), rfl⟩
      · refine ⟨.static (first :: rest) noSlash ?_, rfl⟩
        intro c more same
        cases same
        exact named ⟨rfl, List.cons_ne_nil _ _⟩
  -- Strong induction on the pattern behind its first slash, cut at the next one.
  have cut : ∀ size (rest : Bytes), rest.length ≤ size → ∃ segments, patternText segments = slash :: rest := by
    intro size
    induction size with
    | zero =>
      intro rest short
      have empty : rest = [] := List.length_eq_zero_iff.mp (Nat.le_zero.mp short)
      subst empty
      rcases segment [] List.not_mem_nil with ⟨only, same⟩
      exact ⟨[only], by simp [patternText, same]⟩
    | succ size ih =>
      intro rest short
      cases split : splitFirst slash rest with
      | none =>
        have absent : slash ∉ rest := by
          intro inside
          have found := splitFirst_isSome.mpr inside
          rw [split] at found
          cases found
        rcases segment rest absent with ⟨only, same⟩
        exact ⟨[only], by simp [patternText, same]⟩
      | some parts =>
        rcases parts with ⟨first, behind⟩
        rcases splitFirst_some split with ⟨rfl, absent⟩
        have shorter : behind.length ≤ size := by
          simp only [List.length_append, List.length_cons] at short
          omega
        rcases ih behind shorter with ⟨segments, rest⟩
        rcases segment first absent with ⟨segment, same⟩
        refine ⟨segment :: segments, ?_⟩
        show slash :: segment.text ++ patternText segments = _
        rw [same, rest]
        rfl
  cases pathPattern with
  | nil => cases leading
  | cons first rest =>
    cases leading
    exact cut rest.length rest (Nat.le_refl _)

/-! Its expression is the expressions of the segments one after the other. -/

def Segment.pieces : Segment → List (Piece UInt8)
  | static text _ _ => .lit slash :: text.map .lit
  | param _ _ _ => [.lit slash, .group notSlash]

/-- The text is at its end or at the next segment. -/
def AtSlash (rest : Bytes) : Prop := rest = [] ∨ rest.head? = some slash

theorem takeWhile_value {value rest : Bytes} (absent : slash ∉ value) (stop : AtSlash rest) :
    (value ++ rest).takeWhile notSlash = value := by
  have end_ : rest.takeWhile notSlash = [] := by
    cases rest with
    | nil => rfl
    | cons first rest =>
      rcases stop with empty | leading
      · cases empty
      · cases leading
        rfl
  have inside : ∀ c ∈ value, notSlash c = true := by
    intro c member
    have other : c ≠ slash := fun same => absent (same ▸ member)
    simpa [notSlash] using other
  rw [List.takeWhile_append_of_pos inside, end_, List.append_nil]

theorem patternText_atSlash (segments : List Segment) : AtSlash (patternText segments) := by
  cases segments with
  | nil => exact Or.inl rfl
  | cons segment segments => exact Or.inr rfl

theorem substitute_atSlash (segments : List Segment) (values : List Bytes) : AtSlash (substitute segments values) := by
  cases segments with
  | nil => exact Or.inl rfl
  | cons segment segments =>
    cases segment with
    | static => exact Or.inr rfl
    | param =>
      cases values with
      | nil => exact Or.inl rfl
      | cons value values => exact Or.inr rfl

/-- At a slash it does not matter whether a name went before. -/
theorem pathPieces_atSlash {rest : Bytes} (stop : AtSlash rest) : pathPieces true rest = pathPieces false rest := by
  cases rest with
  | nil => rfl
  | cons first rest =>
    rcases stop with empty | leading
    · cases empty
    · cases leading
      unfold pathPieces
      simp only [ne_eq, not_true_eq_false, and_false, ↓reduceIte]

theorem pathPieces_name {name : Bytes} (noSlash : slash ∉ name) (rest : Bytes) :
    pathPieces true (name ++ rest) = pathPieces true rest := by
  induction name with
  | nil => rfl
  | cons c name ih =>
    have other : c ≠ slash := fun same => noSlash (same ▸ List.mem_cons_self ..)
    rw [List.cons_append, pathPieces, if_pos ⟨rfl, other⟩]
    exact ih fun inside => noSlash (List.mem_cons_of_mem _ inside)

theorem pathPieces_text {text : Bytes} (noSlash : slash ∉ text) (rest : Bytes) :
    pathPieces false (text ++ rest) = text.map .lit ++ pathPieces false rest := by
  induction text with
  | nil => rfl
  | cons c text ih =>
    have other : c ≠ slash := fun same => noSlash (same ▸ List.mem_cons_self ..)
    have later := ih fun inside => noSlash (List.mem_cons_of_mem _ inside)
    rw [List.cons_append, pathPieces, if_neg (fun named => Bool.false_ne_true named.1),
      if_neg (fun param => other param.1),
      later]
    rfl

theorem paramFollows_static {text : Bytes} (unnamed : ∀ c rest, text ≠ 58 :: c :: rest) {rest : Bytes}
    (stop : AtSlash rest) : paramFollows (text ++ rest) = false := by
  have behind : (rest[0]?.any (· != slash)) = false := by
    rcases stop with rfl | leading
    · rfl
    · rw [← List.head?_eq_getElem?, leading]
      rfl
  cases text with
  | nil =>
    rcases stop with rfl | leading
    · rfl
    · rw [List.nil_append, paramFollows, leading]
      rfl
  | cons first text =>
    by_cases colon : first = 58
    · subst colon
      cases text with
      | nil =>
        rw [paramFollows, List.cons_append, List.getElem?_cons_succ, List.nil_append, behind, Bool.and_false]
      | cons c text => exact absurd rfl (unnamed c text)
    · have notFirst : decide ((first :: text ++ rest).head? = some 58) = false :=
        decide_eq_false fun same => colon (Option.some.inj same)
      rw [paramFollows, notFirst, Bool.false_and]

theorem paramFollows_name {name : Bytes} (named : name ≠ []) (noSlash : slash ∉ name) (rest : Bytes) :
    paramFollows (58 :: name ++ rest) = true := by
  cases name with
  | nil => exact absurd rfl named
  | cons c name =>
    have other : c ≠ slash := fun same => noSlash (same ▸ List.mem_cons_self ..)
    simp [paramFollows, other]

theorem pathPieces_patternText (segments : List Segment) :
    pathPieces false (patternText segments) = segments.flatMap Segment.pieces := by
  induction segments with
  | nil => rfl
  | cons segment segments ih =>
    have stop := patternText_atSlash segments
    rw [List.flatMap_cons, ← ih]
    show pathPieces false (slash :: (segment.text ++ patternText segments)) = _
    rw [pathPieces, if_neg (fun named => Bool.false_ne_true named.1)]
    cases segment with
    | static text noSlash unnamed =>
      have literal : ¬ (slash = slash ∧ paramFollows (text ++ patternText segments) = true) := by
        rw [paramFollows_static unnamed stop]
        exact fun both => Bool.false_ne_true both.2
      show (if slash = slash ∧ paramFollows (text ++ patternText segments) = true then _ else _) = _
      rw [if_neg literal]
      show _ :: pathPieces false (text ++ patternText segments) = _
      rw [pathPieces_text noSlash]
      rfl
    | param name named noSlash =>
      have follows := paramFollows_name named noSlash (patternText segments)
      have colon : pathPieces true (58 :: name ++ patternText segments) = pathPieces false (patternText segments) := by
        rw [List.cons_append, pathPieces, if_pos ⟨rfl, by decide⟩, pathPieces_name noSlash, pathPieces_atSlash stop]
      show (if slash = slash ∧ paramFollows (58 :: name ++ patternText segments) = true then _ else _) = _
      rw [if_pos ⟨rfl, follows⟩]
      show _ :: _ :: pathPieces true (58 :: name ++ patternText segments) = _
      rw [colon]
      rfl

/-! What it matches. -/

theorem matches_text {text : Bytes} {pieces : List (Piece UInt8)} {input : Bytes} {captures : List Bytes} :
    Matches (text.map .lit ++ pieces) input captures ↔ ∃ rest, input = text ++ rest ∧ Matches pieces rest captures := by
  induction text generalizing input with
  | nil =>
    apply Iff.intro
    · exact fun matched => ⟨input, rfl, matched⟩
    · intro given
      rcases given with ⟨rest, rfl, matched⟩
      exact matched
  | cons c text ih =>
    apply Iff.intro
    · intro matched
      cases matched with
      | lit later =>
        rcases ih.mp later with ⟨rest, rfl, matched⟩
        exact ⟨rest, rfl, matched⟩
    · intro given
      rcases given with ⟨rest, rfl, matched⟩
      exact .lit (ih.mpr ⟨rest, rfl, matched⟩)

theorem notSlash_all {value : Bytes} : (∀ c ∈ value, notSlash c = true) ↔ slash ∉ value := by
  apply Iff.intro
  · intro all inside
    exact absurd (all slash inside) (by decide)
  · intro absent c inside
    have other : c ≠ slash := fun same => absent (same ▸ inside)
    simpa [notSlash] using other

theorem paramCount_param {name : Bytes} {named : name ≠ []} {noSlash : slash ∉ name} (segments : List Segment) :
    paramCount (.param name named noSlash :: segments) = paramCount segments + 1 := List.countP_cons_of_pos rfl

theorem paramCount_static {text : Bytes} {noSlash : slash ∉ text} {unnamed : ∀ c rest, text ≠ 58 :: c :: rest}
    (segments : List Segment) : paramCount (.static text noSlash unnamed :: segments) = paramCount segments :=
  List.countP_cons_of_neg Bool.false_ne_true

theorem ValuesFor.cons {name : Bytes} {named : name ≠ []} {noSlash : slash ∉ name} {segments : List Segment}
    {value : Bytes} {values : List Bytes} :
    ValuesFor (.param name named noSlash :: segments) (value :: values) ↔
      (value ≠ [] ∧ slash ∉ value) ∧ ValuesFor segments values := by
  apply Iff.intro
  · intro fits
    refine ⟨⟨fits.filled value (List.mem_cons_self ..), fits.noSlash value (List.mem_cons_self ..)⟩, ?_, ?_, ?_⟩
    · have count := fits.count
      rw [paramCount_param, List.length_cons] at count
      exact Nat.succ.inj count
    · exact fun other member => fits.filled other (List.mem_cons_of_mem _ member)
    · exact fun other member => fits.noSlash other (List.mem_cons_of_mem _ member)
  · intro fits
    rcases fits with ⟨⟨filled, absent⟩, rest⟩
    refine ⟨?_, ?_, ?_⟩
    · rw [paramCount_param, List.length_cons, rest.count]
    · intro other member
      rcases List.mem_cons.mp member with rfl | member
      · exact filled
      · exact rest.filled other member
    · intro other member
      rcases List.mem_cons.mp member with rfl | member
      · exact absent
      · exact rest.noSlash other member

theorem ValuesFor.static {text : Bytes} {noSlash : slash ∉ text} {unnamed : ∀ c rest, text ≠ 58 :: c :: rest}
    {segments : List Segment} {values : List Bytes} :
    ValuesFor (.static text noSlash unnamed :: segments) values ↔ ValuesFor segments values := by
  apply Iff.intro
  · exact fun fits => ⟨by rw [fits.count, paramCount_static], fits.filled, fits.noSlash⟩
  · exact fun fits => ⟨by rw [fits.count, paramCount_static], fits.filled, fits.noSlash⟩

/-- By induction on the segments. -/
theorem matches_segments {segments : List Segment} {path : Bytes} {captures : List Bytes} :
    Matches (segments.flatMap Segment.pieces) path captures ↔
      ValuesFor segments captures ∧ path = substitute segments captures := by
  induction segments generalizing path captures with
  | nil =>
    apply Iff.intro
    · intro matched
      cases matched
      exact ⟨⟨rfl, fun _ member => absurd member List.not_mem_nil, fun _ member => absurd member List.not_mem_nil⟩, rfl⟩
    · intro given
      rcases given with ⟨fits, rfl⟩
      have none_ := List.length_eq_zero_iff.mp fits.count
      subst none_
      exact .nil
  | cons segment segments ih =>
    cases segment with
    | static text noSlash unnamed =>
      rw [ValuesFor.static]
      show Matches (((slash :: text).map .lit) ++ segments.flatMap Segment.pieces) path captures ↔ _
      rw [matches_text]
      apply Iff.intro
      · intro given
        rcases given with ⟨rest, rfl, matched⟩
        rcases ih.mp matched with ⟨fits, rfl⟩
        exact ⟨fits, rfl⟩
      · intro given
        rcases given with ⟨fits, rfl⟩
        exact ⟨_, rfl, ih.mpr ⟨fits, rfl⟩⟩
    | param name named noSlash =>
      show Matches (.lit slash :: .group notSlash :: segments.flatMap Segment.pieces) path captures ↔ _
      apply Iff.intro
      · intro matched
        cases matched with
        | lit later =>
          cases later with
          | group filled within rest =>
            rcases ih.mp rest with ⟨fits, rfl⟩
            exact ⟨ValuesFor.cons.mpr ⟨⟨filled, notSlash_all.mp within⟩, fits⟩, rfl⟩
      · intro given
        rcases given with ⟨fits, rfl⟩
        cases captures with
        | nil =>
          have count := fits.count
          rw [paramCount_param] at count
          cases count
        | cons value values =>
          rcases ValuesFor.cons.mp fits with ⟨⟨filled, absent⟩, rest⟩
          exact .lit (.group filled (notSlash_all.mpr absent) (ih.mpr ⟨rest, rfl⟩))

/-- The values can be read off the path: each of them ends at the next slash. -/
theorem substitute_injective {segments : List Segment} {first second : List Bytes} (one : ValuesFor segments first)
    (other : ValuesFor segments second) (same : substitute segments first = substitute segments second) :
    first = second := by
  induction segments generalizing first second with
  | nil =>
    rw [List.length_eq_zero_iff.mp one.count, List.length_eq_zero_iff.mp other.count]
  | cons segment segments ih =>
    cases segment with
    | static text noSlash unnamed =>
      exact ih (ValuesFor.static.mp one) (ValuesFor.static.mp other) (List.append_cancel_left same)
    | param name named noSlash =>
      cases first with
      | nil =>
        have count := one.count
        rw [paramCount_param] at count
        cases count
      | cons value first =>
        cases second with
        | nil =>
          have count := other.count
          rw [paramCount_param] at count
          cases count
        | cons again second =>
          rcases ValuesFor.cons.mp one with ⟨⟨_, absent⟩, oneRest⟩
          rcases ValuesFor.cons.mp other with ⟨⟨_, absentAgain⟩, otherRest⟩
          have tails : value ++ substitute segments first = again ++ substitute segments second :=
            (List.cons.inj same).2
          have values : value = again := by
            have taken := congrArg (List.takeWhile notSlash) tails
            rwa [takeWhile_value absent (substitute_atSlash _ _), takeWhile_value absentAgain (substitute_atSlash _ _)]
              at taken
          subst values
          rw [ih oneRest otherRest (List.append_cancel_left tails)]

/-! The parameters of the request. -/

theorem paramName_injective {i j : Nat} (same : bytes "param" ++ natText i = bytes "param" ++ natText j) : i = j :=
  natText_injective (List.append_cancel_left same)

theorem find_setParameters (captures : List Bytes) (start : Nat) (req : HttpRequest) (name : Bytes) :
    ((captures.zipIdx start).foldl
        (fun request capture => request.setPathParameters (bytes "param" ++ natText capture.2) capture.1)
        req).pathParameters.find name =
      ((captures.zipIdx start).findSome? fun capture =>
        if name = bytes "param" ++ natText capture.2 then some capture.1 else none).or
          (req.pathParameters.find name) := by
  induction captures generalizing start req with
  | nil => rfl
  | cons value captures ih =>
    rw [List.zipIdx_cons, List.foldl_cons, ih, List.findSome?_cons]
    by_cases here : name = bytes "param" ++ natText start
    · have later : ((captures.zipIdx (start + 1)).findSome? fun capture =>
          if name = bytes "param" ++ natText capture.2 then some capture.1 else none) = none := by
        rw [List.findSome?_eq_none_iff]
        intro capture member
        have bound := (List.mem_zipIdx member).1
        apply if_neg
        intro same
        have equal := paramName_injective (here.symm.trans same)
        omega
      rw [later, if_pos here, Option.none_or]
      subst here
      exact Dict.find_insert_self ..
    · rw [if_neg here]
      congr 1
      exact Dict.find_insert_of_ne _ _ _ _ here

theorem extractPathParameters_has (captures : List Bytes) (req : HttpRequest) :
    HasParameters req (extractPathParameters captures req) captures := by
  apply HasParameters.mk
  · intro i bound
    have here : (captures.zipIdx 1).findSome? (fun capture =>
        if bytes "param" ++ natText (i + 1) = bytes "param" ++ natText capture.2 then some capture.1 else none) =
          some captures[i] := by
      cases search : (captures.zipIdx 1).findSome? (fun capture =>
        if bytes "param" ++ natText (i + 1) = bytes "param" ++ natText capture.2 then some capture.1 else none) with
      | none =>
        have member : (captures[i], i + 1) ∈ captures.zipIdx 1 := by
          rw [List.mk_mem_zipIdx_iff_le_and_getElem?_sub]
          exact ⟨Nat.le_add_left 1 i, List.getElem?_eq_getElem bound⟩
        have missed := List.findSome?_eq_none_iff.mp search _ member
        rw [if_pos rfl] at missed
        cases missed
      | some value =>
        rcases List.exists_of_findSome?_eq_some search with ⟨⟨capture, place⟩, member, found⟩
        split at found
        · rename_i same
          have equal := paramName_injective same
          dsimp only at equal
          subst equal
          cases found
          have index : captures[i]? = some capture := (List.mk_mem_zipIdx_iff_le_and_getElem?_sub.mp member).2
          rw [List.getElem?_eq_getElem bound] at index
          exact index.symm
        · cases found
    unfold HttpRequest.getPathParameters extractPathParameters
    rw [find_setParameters, here]
    rfl
  · intro name other
    have nowhere : (captures.zipIdx 1).findSome? (fun capture =>
        if name = bytes "param" ++ natText capture.2 then some capture.1 else none) = none := by
      rw [List.findSome?_eq_none_iff]
      intro capture member
      have bounds := List.mem_zipIdx member
      apply if_neg
      intro same
      apply other (capture.2 - 1) (by omega)
      rw [Nat.sub_add_cancel bounds.1]
      exact same
    unfold extractPathParameters
    rw [find_setParameters, nowhere]
    rfl

/-- A path made with values is matched and gives them back as its parameters; a path that is matched is made with just
    the values that are extracted. -/
theorem path_parameters_round_trip {pathPattern : Bytes} (plain : Plain pathPattern) :
    (∃ segments, patternText segments = pathPattern) ∧
      ∀ segments, patternText segments = pathPattern →
        ∃ pathRegex, convertToRegex pathPattern = some pathRegex ∧
          (∀ values, ValuesFor segments values →
            ∃ captures, regexMatch pathRegex (substitute segments values) = some captures ∧
              ∀ req, HasParameters req (extractPathParameters captures req) values) ∧
          ∀ path captures, regexMatch pathRegex path = some captures →
            ValuesFor segments captures ∧ path = substitute segments captures ∧
              ∀ values, ValuesFor segments values → path = substitute segments values → values = captures := by
  refine ⟨exists_segments pathPattern plain.1, ?_⟩
  intro segments same
  have pieces : pathPieces false pathPattern = segments.flatMap Segment.pieces := by
    rw [← same]
    exact pathPieces_patternText segments
  have sound : ∀ path captures, regexMatch (pathPieces false pathPattern) path = some captures →
      ValuesFor segments captures ∧ path = substitute segments captures := by
    intro path captures matched
    rw [pieces] at matched
    exact matches_segments.mp (regexMatch_sound matched)
  refine ⟨_, convertToRegex_plain plain, ?_, ?_⟩
  · intro values fits
    have matches_ : Matches (pathPieces false pathPattern) (substitute segments values) values := by
      rw [pieces]
      exact matches_segments.mpr ⟨fits, rfl⟩
    rcases Option.isSome_iff_exists.mp (regexMatch_complete matches_) with ⟨captures, matched⟩
    rcases sound _ _ matched with ⟨fitsAgain, samePath⟩
    have back := substitute_injective fits fitsAgain samePath
    subst back
    exact ⟨values, matched, extractPathParameters_has values⟩
  · intro path captures matched
    rcases sound path captures matched with ⟨fits, made⟩
    refine ⟨fits, made, ?_⟩
    intro values others again
    exact substitute_injective others fits (again.symm.trans made)

theorem user_posts_round_trip : ∃ pathRegex, convertToRegex (bytes "/users/:id/posts/:post") = some pathRegex ∧
    ∀ path captures, regexMatch pathRegex path = some captures → captures.length = 2 := by
  have trip := @path_parameters_round_trip (bytes "/users/:id/posts/:post") (by decide)
  let segments : List Segment := [.static (bytes "users") (by decide)
      fun _ _ same => absurd (congrArg List.head? same) (by decide : (bytes "users").head? ≠ some 58),
    .param (bytes "id") (by decide) (by decide),
    .static (bytes "posts") (by decide)
      fun _ _ same => absurd (congrArg List.head? same) (by decide : (bytes "posts").head? ≠ some 58),
    .param (bytes "post") (by decide) (by decide)]
  rcases trip.2 segments rfl with ⟨pathRegex, converted, _, matched⟩
  exact ⟨pathRegex, converted, fun path captures found => (matched path captures found).1.count⟩

end Http.Routing
