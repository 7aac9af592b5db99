import HttpServerApps.Router.Router

namespace Http.Routing

open Common SequenceRegex

/-! The regular expression of a pattern without metacharacters. -/

def Plain (pathPattern : Bytes) : Prop :=
  pathPattern.head? = some slash ∧ ∀ c ∈ pathPattern, isMetacharacter c = false

instance (pathPattern : Bytes) : Decidable (Plain pathPattern) :=
  have := List.decidableBAll (fun c => isMetacharacter c = false) pathPattern
  inferInstanceAs (Decidable (_ ∧ _))

def pathPieces : Bool → Bytes → List (Piece UInt8)
  | _, [] => []
  | inName, b :: rest =>
    if inName ∧ b ≠ slash then pathPieces true rest
    else if b = slash ∧ paramFollows rest then
      .lit slash :: .group notSlash :: pathPieces true rest
    else .lit b :: pathPieces false rest

theorem compilePieces_lit (c : UInt8) (rest : Bytes) (plain : isMetacharacter c = false) :
    compilePieces (c :: rest) = (compilePieces rest).map (.lit c :: ·) := by
  have notOpen : c ≠ 40 := by
    intro same
    obtain rfl := same
    revert plain
    decide
  conv_lhs => unfold compilePieces
  split
  · rename_i absurd_
    cases absurd_
  · rename_i shape
    exact absurd (List.cons.inj shape).1 notOpen
  · rename_i shape
    obtain ⟨rfl, rfl⟩ := List.cons.inj shape
    simp [plain]

theorem compilePieces_param (rest : Bytes) :
    compilePieces (bytes "/([^/]+)" ++ rest) =
      (compilePieces rest).map fun pieces => .lit slash :: .group notSlash :: pieces := by
  have first := compilePieces_lit slash (bytes "([^/]+)" ++ rest) (by decide)
  have second : compilePieces (bytes "([^/]+)" ++ rest) =
      (compilePieces rest).map (.group notSlash :: ·) := rfl
  rw [second, Option.map_map] at first
  exact first

theorem compilePieces_replaceParams (inName : Bool) (pathPattern : Bytes)
    (plain : ∀ c ∈ pathPattern, isMetacharacter c = false) :
    compilePieces (replaceParams inName pathPattern) = some (pathPieces inName pathPattern) := by
  induction pathPattern generalizing inName with
  | nil => rfl
  | cons b rest ih =>
    have later := fun inName => ih inName fun c member => plain c (List.mem_cons_of_mem _ member)
    unfold replaceParams pathPieces
    split
    · exact later true
    · split
      · rw [compilePieces_param, later true]
        rfl
      · rw [compilePieces_lit b _ (plain b (by simp)), later false]
        rfl

theorem convertToRegex_plain {pathPattern : Bytes} (plain : Plain pathPattern) :
    convertToRegex pathPattern = some (pathPieces false pathPattern) := by
  have open_ : bytes "^" = [94] := rfl
  have close : bytes "$" = [36] := rfl
  unfold convertToRegex
  rw [open_, close, List.append_assoc, List.singleton_append]
  simp only [compile, List.getLast?_concat, ↓reduceIte, List.dropLast_concat]
  exact compilePieces_replaceParams false pathPattern plain.2

/-! The static prefix is literal in the regular expression. -/

theorem param_at_start {rest : Bytes} (follows : paramFollows rest = true) :
    bytes "/:" <+: slash :: rest := by
  have shape : bytes "/:" = [slash, 58] := rfl
  rw [shape]
  cases rest with
  | nil => simp [paramFollows] at follows
  | cons first rest =>
    simp only [paramFollows, List.head?_cons, Option.some.injEq, Bool.and_eq_true,
      decide_eq_true_eq] at follows
    have colon : first = 58 := by simpa using follows.1
    subst colon
    exact ⟨rest, rfl⟩

theorem pathPieces_static {pathPattern : Bytes} {pos : Nat}
    (found : findText (bytes "/:") pathPattern = some pos) :
    ∃ pieces, pathPieces false pathPattern =
      (pathPattern.take (pos + 1)).map .lit ++ pieces := by
  induction pathPattern generalizing pos with
  | nil => simp [findText, show bytes "/:" ≠ [] by decide] at found
  | cons b rest ih =>
    unfold pathPieces
    simp only [Bool.false_eq_true, false_and, ↓reduceIte]
    simp only [findText] at found
    split at found
    · cases found
      split
      · rename_i param
        exact ⟨_, by rw [param.1]; rfl⟩
      · exact ⟨_, rfl⟩
    · rename_i notHere
      obtain ⟨inner, innerFound, rfl⟩ := Option.map_eq_some_iff.mp found
      obtain ⟨pieces, shape⟩ := ih innerFound
      have literal : ¬ (b = slash ∧ paramFollows rest = true) := by
        intro given
        obtain ⟨rfl, follows⟩ := given
        exact notHere (List.isPrefixOf_iff_prefix.mpr (param_at_start follows))
      refine ⟨pieces, ?_⟩
      rw [if_neg literal, shape, List.take_succ_cons, List.map_cons, List.cons_append]

theorem matches_static_prefix {pathPattern path : Bytes} {captures : List Bytes} {pos : Nat}
    (found : findText (bytes "/:") pathPattern = some pos)
    (matches_ : Matches (pathPieces false pathPattern) path captures) :
    pathPattern.take (pos + 1) <+: path := by
  obtain ⟨pieces, shape⟩ := pathPieces_static found
  rw [shape] at matches_
  exact matches_.literal_prefix

theorem leading_param_long {pathPattern path : Bytes} {captures : List Bytes}
    (leading : bytes "/:" <+: pathPattern)
    (matches_ : Matches (pathPieces false pathPattern) path captures) : 2 ≤ path.length := by
  obtain ⟨rest, rfl⟩ := leading
  change Matches (pathPieces false (slash :: 58 :: rest)) path captures at matches_
  unfold pathPieces at matches_
  simp only [Bool.false_eq_true, false_and, ↓reduceIte, true_and] at matches_
  split at matches_
  · cases matches_ with
    | lit later =>
      cases later with
      | group nonempty _ _ =>
        have := List.length_pos_iff.mpr nonempty
        simp only [List.length_cons, List.length_append]
        omega
  · unfold pathPieces at matches_
    simp only [Bool.false_eq_true, false_and, ↓reduceIte, show (58 : UInt8) ≠ slash by decide]
      at matches_
    cases matches_ with
    | lit later =>
      cases later with
      | lit _ => simp

/-! The keys looked up for a path. -/

theorem mem_unique (keys : List Bytes) (key : Bytes) : key ∈ unique keys ↔ key ∈ keys := by
  fun_induction unique keys with
  | case1 => rfl
  | case2 => rfl
  | case3 first keys ih => simp [ih]
  | case4 first second keys different ih =>
    rw [List.mem_cons, List.mem_cons, ih]

theorem mem_pathPrefixesForLookup (path key : Bytes) :
    key ∈ pathPrefixesForLookup path ↔
      key = [] ∨ path.head? = some slash ∧
        (key = path ∨ ∃ i, 1 ≤ i ∧ path[i]? = some slash ∧ key = path.take (i + 1)) := by
  unfold pathPrefixesForLookup
  split
  · rename_i short
    rw [List.mem_singleton]
    apply Iff.intro
    · exact Or.inl
    · intro given
      rcases given with empty | ⟨leading, _⟩
      · exact empty
      · rcases short with rfl | other
        · cases leading
        · exact absurd leading other
  · rename_i long
    have leading : path.head? = some slash := by
      by_contra other
      exact long (Or.inr other)
    simp only [mem_unique, List.mem_insertionSort, List.cons_append, List.mem_cons,
      List.mem_append, List.mem_filterMap, List.mem_range, List.not_mem_nil, or_false, leading,
      true_and]
    apply Iff.intro
    · intro given
      rcases given with empty | ⟨i, _, kept⟩ | whole
      · exact Or.inl empty
      · split at kept
        · rename_i inside
          exact Or.inr (Or.inr ⟨i, inside.1, inside.2, (Option.some.inj kept).symm⟩)
        · cases kept
      · exact Or.inr (Or.inl whole)
    · intro given
      rcases given with empty | whole | ⟨i, positive, inside, rfl⟩
      · exact Or.inl empty
      · exact Or.inr (Or.inr whole)
      · have bound := (List.getElem?_eq_some_iff.mp inside).1
        exact Or.inr (Or.inl ⟨i, bound, by simp [positive, inside]⟩)

/-- For a path the pattern matches, the bucket key is looked up unless the pattern begins with a
    parameter: the loop over the path starts behind its leading slash. -/
theorem static_prefix_looked_up {pathPattern path : Bytes} {captures : List Bytes}
    (plain : Plain pathPattern) (matches_ : Matches (pathPieces false pathPattern) path captures) :
    routeStaticPrefixFromPattern pathPattern ∈ pathPrefixesForLookup path ↔
      ¬ bytes "/:" <+: pathPattern := by
  rw [mem_pathPrefixesForLookup]
  unfold routeStaticPrefixFromPattern
  have nonempty : bytes "/:" ≠ [] := by decide
  cases found : findText (bytes "/:") pathPattern with
  | none =>
    simp only [true_or, true_iff]
    intro leading
    rw [(findText_zero nonempty).mpr leading] at found
    cases found
  | some pos =>
    obtain ⟨bound, occurs⟩ := findText_eq_some found
    have within := occurs.length_le
    have two : (bytes "/:").length = 2 := rfl
    rw [two, List.length_drop] at within
    have key := matches_static_prefix found matches_
    have size : (pathPattern.take (pos + 1)).length = pos + 1 := by
      rw [List.length_take]
      omega
    rw [← findText_zero nonempty, found]
    dsimp only
    apply Iff.intro
    · intro looked rfl'
      have zero : pos = 0 := Option.some.inj rfl'
      subst zero
      have long := leading_param_long ((findText_zero nonempty).mp found) matches_
      rcases looked with empty | ⟨_, whole | ⟨i, positive, inside, same⟩⟩
      · rw [empty] at size
        cases size
      · rw [whole] at size
        omega
      · have inRange := (List.getElem?_eq_some_iff.mp inside).1
        rw [same, List.length_take] at size
        omega
    · intro later
      have positive : pos ≠ 0 := fun zero => later (by rw [zero])
      obtain ⟨more, whole⟩ := key
      have slashAt : pathPattern[pos]? = some slash := by
        obtain ⟨tail, shape⟩ := occurs
        have first := congrArg List.head? shape
        rw [List.head?_drop] at first
        exact first.symm
      refine Or.inr ⟨?_, Or.inr ⟨pos, by omega, ?_, ?_⟩⟩
      · rw [← whole, List.head?_append, List.head?_take, if_neg (Nat.succ_ne_zero pos), plain.1]
        rfl
      · rw [← whole, List.getElem?_append_left (by omega), List.getElem?_take_of_lt (by omega)]
        exact slashAt
      · rw [← whole, List.take_left' size]

end Http.Routing
