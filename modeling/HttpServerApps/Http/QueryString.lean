import HttpServerApps.Http.Request

namespace Http

open Common

def ampersand : UInt8 := 38
def equals : UInt8 := 61

/-! A map by its entries, of which a later one replaces an earlier one with its key. -/

def insertAll (parameters : Dict Bytes Bytes) (entries : List (Bytes × Bytes)) : Dict Bytes Bytes :=
  entries.foldl (fun parameters entry => parameters.insert entry.1 entry.2) parameters

theorem insertAll_cons (parameters : Dict Bytes Bytes) (entry : Bytes × Bytes) (entries : List (Bytes × Bytes)) :
    insertAll parameters (entry :: entries) = insertAll (parameters.insert entry.1 entry.2) entries := rfl

/-- What is found is an entry, or was there before and no entry has its key. -/
theorem find_insertAll {parameters : Dict Bytes Bytes} {entries : List (Bytes × Bytes)} {key : Bytes}
    {found : Option Bytes} (lookup : (insertAll parameters entries).find key = found) :
    (∃ value, (key, value) ∈ entries ∧ found = some value) ∨
      (∀ value, (key, value) ∉ entries) ∧ parameters.find key = found := by
  induction entries generalizing parameters with
  | nil => exact Or.inr ⟨fun _ => List.not_mem_nil, lookup⟩
  | cons entry entries ih =>
    rcases entry with ⟨name, text⟩
    rw [insertAll_cons] at lookup
    rcases ih lookup with ⟨value, member, same⟩ | ⟨absent, before⟩
    · exact Or.inl ⟨value, List.mem_cons_of_mem _ member, same⟩
    · rw [Dict.find_insert] at before
      by_cases here : key = name
      · subst here
        rw [if_pos rfl] at before
        exact Or.inl ⟨text, List.mem_cons_self .., before.symm⟩
      · rw [if_neg here] at before
        refine Or.inr ⟨?_, before⟩
        intro value member
        rcases List.mem_cons.mp member with same | later
        · exact here (congrArg Prod.fst same)
        · exact absent value later

/-- The entries of a finite map, in any order. -/
def Enumerates (entries : List (Bytes × Bytes)) (parameters : Dict Bytes Bytes) : Prop :=
  ∀ key value, (key, value) ∈ entries ↔ parameters.find key = some value

theorem insertAll_enumerates {entries : List (Bytes × Bytes)} {parameters : Dict Bytes Bytes}
    (enumerates : Enumerates entries parameters) : insertAll .empty entries = parameters := by
  ext1 key
  rcases find_insertAll (@rfl _ ((insertAll .empty entries).find key)) with ⟨value, member, same⟩ | ⟨absent, before⟩
  · rw [same]
    exact ((enumerates key value).mp member).symm
  · rw [← before, Dict.find_empty]
    cases there : parameters.find key with
    | none => rfl
    | some value => exact absurd ((enumerates key value).mpr there) (absent value)

/-! The query by its pieces. -/

/-- The pieces between the `&` that have an `=`, each cut at its first one. -/
def queryEntries (argumentStr : Bytes) : List (Bytes × Bytes) :=
  (argumentStr.splitOn ampersand).filterMap (splitFirst equals)

theorem addQueryPair_eq (parameters : Dict Bytes Bytes) (pair : Bytes) :
    HttpRequest.addQueryPair parameters pair = .ok (insertAll parameters (splitFirst equals pair).toList) := by
  have found := findFrom_eq pair equals 0
  rw [List.drop_zero] at found
  unfold HttpRequest.addQueryPair
  change findFrom pair 61 0 = _ at found
  rw [found]
  cases cut : splitFirst equals pair with
  | none => rfl
  | some entry =>
    rcases entry with ⟨key, value⟩
    rcases @cut_drop pair key value equals 0 cut with ⟨left, right, bound⟩
    rw [Nat.zero_add] at right bound
    simp only [Option.map_some, Nat.zero_add, substr_ok (Nat.zero_le _), substrFrom_ok (Nat.succ_le_of_lt bound)]
    rw [left, right]
    rfl

/-- The loop sets the entries of the pieces from `prev` on; by induction on its rounds. -/
theorem queryLoop_eq (argumentStr : Bytes) (fuel prev : Nat) (parameters : Dict Bytes Bytes)
    (bound : prev ≤ argumentStr.length) (enough : argumentStr.length < fuel + prev) :
    HttpRequest.queryLoop argumentStr fuel prev parameters =
      .ok (insertAll parameters (queryEntries (argumentStr.drop prev))) := by
  induction fuel generalizing prev parameters with
  | zero => omega
  | succ fuel ih =>
    have found := findFrom_eq argumentStr ampersand prev
    change findFrom argumentStr 38 prev = _ at found
    unfold HttpRequest.queryLoop
    rw [found]
    cases cut : splitFirst ampersand (argumentStr.drop prev) with
    | none =>
      have absent : ampersand ∉ argumentStr.drop prev := by
        intro member
        rw [← splitFirst_isSome, cut] at member
        cases member
      simp only [Option.map_none, substrFrom_ok bound]
      have last := addQueryPair_eq parameters (argumentStr.drop prev)
      unfold queryEntries
      rw [List.splitOn_eq_singleton absent, List.filterMap_cons]
      generalize splitFirst equals (argumentStr.drop prev) = entry at last ⊢
      cases entry <;> exact last
    | some cutAt =>
      rcases cutAt with ⟨piece, rest⟩
      rcases splitFirst_some cut with ⟨shape, absent⟩
      rcases cut_drop cut with ⟨left, right, inside⟩
      have length : prev + piece.length - prev = piece.length := by omega
      simp only [Option.map_some, substr_ok bound, length, left]
      have first := addQueryPair_eq parameters piece
      have later := ih (prev + piece.length + 1) (insertAll parameters (splitFirst equals piece).toList) (by omega)
        (by omega)
      rw [right] at later
      unfold queryEntries at later ⊢
      rw [shape, List.splitOn_append_cons_self_of_not_mem absent, List.filterMap_cons]
      simp only [Bind.bind, Except.bind, first]
      rw [later]
      cases splitFirst equals piece <;> rfl

theorem setQueryParameters_eq (request : HttpRequest) (argumentStr : Bytes) :
    request.setQueryParameters argumentStr =
      .ok { request with queryParameters := insertAll request.queryParameters (queryEntries argumentStr) } := by
  unfold HttpRequest.setQueryParameters
  rw [queryLoop_eq _ _ _ _ (Nat.zero_le _) (by omega)]
  rfl

/-! Writing a map as a query. -/

def pieceText (entry : Bytes × Bytes) : Bytes := entry.1 ++ equals :: entry.2

def joinEntries (entries : List (Bytes × Bytes)) : Bytes := [ampersand].intercalate (entries.map pieceText)

/-- No separator is in the entry where it would be read as one. -/
structure Separable (entry : Bytes × Bytes) : Prop where
  key_ampersand : ampersand ∉ entry.1
  key_equals : equals ∉ entry.1
  value_ampersand : ampersand ∉ entry.2

theorem queryEntries_join {entries : List (Bytes × Bytes)} (separable : ∀ entry ∈ entries, Separable entry) :
    queryEntries (joinEntries entries) = entries := by
  have cut : ∀ entry ∈ entries, splitFirst equals (pieceText entry) = some entry :=
    fun entry member => splitFirst_append (separable entry member).key_equals entry.2
  have apart : ∀ piece ∈ entries.map pieceText, ampersand ∉ piece := by
    intro piece member inside
    rcases List.mem_map.mp member with ⟨entry, there, rfl⟩
    rcases List.mem_append.mp inside with left | right
    · exact (separable entry there).key_ampersand left
    · rcases List.mem_cons.mp right with same | right
      · exact absurd same (by decide)
      · exact (separable entry there).value_ampersand right
  cases entries with
  | nil => rfl
  | cons entry entries =>
    unfold queryEntries joinEntries
    have whole : (entry :: entries).filterMap (splitFirst equals ∘ pieceText) = (entry :: entries).map id :=
      List.filterMap_eq_map_iff_forall_eq_some.mpr cut
    rw [List.splitOn_intercalate ampersand apart (List.cons_ne_nil _ _), List.filterMap_map, whole, List.map_id]

/-- The loop sets what the split pieces say, whatever the query is; so a map written as a query is read back. -/
theorem query_parsed (request : HttpRequest) (argumentStr : Bytes) :
    request.setQueryParameters argumentStr =
        .ok { request with queryParameters := insertAll request.queryParameters (queryEntries argumentStr) } ∧
      ∀ (parameters : Dict Bytes Bytes) (entries : List (Bytes × Bytes)), Enumerates entries parameters →
        (∀ entry ∈ entries, Separable entry) → request.queryParameters = .empty →
          request.setQueryParameters (joinEntries entries) = .ok { request with queryParameters := parameters } := by
  refine ⟨setQueryParameters_eq request argumentStr, ?_⟩
  intro parameters entries enumerates separable fresh
  rw [setQueryParameters_eq, queryEntries_join separable, fresh, insertAll_enumerates enumerates]

def twoEntries : List (Bytes × Bytes) := [(bytes "b", []), (bytes "a", bytes "x=1")]

def twoParameters : Dict Bytes Bytes := (Dict.empty.insert (bytes "a") (bytes "x=1")).insert (bytes "b") []

theorem twoEntries_read :
    ({} : HttpRequest).setQueryParameters (bytes "b=&a=x=1") =
      .ok { ({} : HttpRequest) with queryParameters := twoParameters } := by
  have enumerates : Enumerates twoEntries twoParameters := by
    intro key value
    have apart : bytes "a" ≠ bytes "b" := by decide
    rw [twoParameters, Dict.find_insert, Dict.find_insert, Dict.find_empty]
    simp only [twoEntries, List.mem_cons, Prod.mk.injEq, List.not_mem_nil, or_false]
    by_cases b : key = bytes "b"
    · simp [b, apart.symm, eq_comm]
    · by_cases a : key = bytes "a" <;> simp [a, b, apart, eq_comm]
  have separable : ∀ entry ∈ twoEntries, Separable entry := by
    intro entry member
    rcases List.mem_pair.mp member with rfl | rfl
    · exact ⟨by decide, by decide, by decide⟩
    · exact ⟨by decide, by decide, by decide⟩
  exact (query_parsed {} []).2 _ twoEntries enumerates separable rfl

end Http
