import HttpServerApps.Common.Search
import HttpServerApps.Session.Manager

namespace Http.Sessions

open Common

/-- A `name=value` pair of a Cookie header. -/
structure CookiePair where
  name : Bytes
  value : Bytes
  name_plain : ∀ c ∈ name, c ≠ 61 ∧ c ≠ 59 ∧ c ≠ 32
  value_plain : 59 ∉ value

namespace CookiePair

def text (pair : CookiePair) : Bytes := pair.name ++ 61 :: pair.value

/-- Whether the searched text occurs in the pair. -/
def mentions (pair : CookiePair) : Bool :=
  (bytes "sessionId").isSuffixOf pair.name || (findText (bytes "sessionId=") pair.value).isSome

/-- What follows the first place in the pair where the searched text occurs. -/
def following (pair : CookiePair) : Bytes :=
  if (bytes "sessionId").isSuffixOf pair.name then pair.value
  else
    match findText (bytes "sessionId=") pair.value with
    | some pos => pair.value.drop (pos + 10)
    | none => []

end CookiePair

/-- The pairs joined by "; ". -/
def cookieText : List CookiePair → Bytes
  | [] => []
  | [pair] => pair.text
  | pair :: pairs => pair.text ++ [59, 32] ++ cookieText pairs

/-- The value of the first pair named sessionId. -/
def sessionCookie (pairs : List CookiePair) : Bytes :=
  ((pairs.find? fun pair => pair.name = bytes "sessionId").map (·.value)).getD []

/-- The first pair that the search can stop in is a sessionId pair, or reads as one by chance. -/
def Unmistaken (pairs : List CookiePair) : Prop :=
  ∀ pair, pairs.find? CookiePair.mentions = some pair →
    pair.name = bytes "sessionId" ∨ pair.following = sessionCookie pairs

/-- What `getSessionIdFromCookie` makes of a Cookie header. -/
def searchCookie (cookie : Bytes) : Bytes :=
  match findText (bytes "sessionId=") cookie with
  | none => []
  | some pos =>
    match splitFirst 59 (cookie.drop (pos + 10)) with
    | some (sessionId, _) => sessionId
    | none => cookie.drop (pos + 10)

theorem getSessionIdFromCookie_eq (req : HttpRequest) :
    getSessionIdFromCookie req = searchCookie (req.getHeader (bytes "Cookie")) := by
  unfold getSessionIdFromCookie
  by_cases empty : req.getHeader (bytes "Cookie") = []
  · rw [if_pos empty, empty]
    rfl
  · rw [if_neg empty]
    rfl

theorem needle_eq : bytes "sessionId=" = bytes "sessionId" ++ [61] := by decide

theorem needle_filled : bytes "sessionId=" ≠ [] := by decide

theorem needle_length : (bytes "sessionId=").length = 10 := by decide

theorem needle_plain : 59 ∉ bytes "sessionId=" := by decide

/-- A pair ends with the header or at a semicolon. -/
def PairEnd (rest : Bytes) : Prop := rest = [] ∨ ∃ more, rest = 59 :: more

/-! The search in a text of which a part is known. -/

theorem searchCookie_skip {left right : Bytes}
    (skips : findText (bytes "sessionId=") (left ++ right) =
      (findText (bytes "sessionId=") right).map (· + left.length)) :
    searchCookie (left ++ right) = searchCookie right := by
  unfold searchCookie
  rw [skips]
  cases findText (bytes "sessionId=") right with
  | none => rfl
  | some pos =>
    have past : (left ++ right).drop (pos + left.length + 10) = right.drop (pos + 10) := by
      have order : pos + left.length + 10 = left.length + (pos + 10) := by omega
      rw [order, ← List.drop_drop, List.drop_left]
    simp only [Option.map_some, past]

theorem searchCookie_found {text rest : Bytes} {pos : Nat} (found : findText (bytes "sessionId=") text = some pos)
    (plain : 59 ∉ text) (ends : PairEnd rest) : searchCookie (text ++ rest) = text.drop (pos + 10) := by
  have bound : pos + 10 ≤ text.length := by
    rcases findText_eq_some found with ⟨inside, occurs⟩
    have short := occurs.length_le
    rw [needle_length, List.length_drop] at short
    omega
  have plainPast : 59 ∉ text.drop (pos + 10) := fun member => plain (List.mem_of_mem_drop member)
  unfold searchCookie
  rw [findText_append found]
  dsimp only
  rw [List.drop_append_of_le_length bound]
  rcases ends with rfl | ⟨more, rfl⟩
  · rw [List.append_nil, splitFirst_none plainPast]
  · rw [splitFirst_append plainPast]

/-! The search in one pair. -/

theorem occurs_inside {left rest : Bytes} (ends : PairEnd rest) (occurs : bytes "sessionId=" <+: left ++ rest) :
    bytes "sessionId=" <+: left := by
  rcases ends with rfl | ⟨more, rfl⟩
  · rw [List.append_nil] at occurs
    exact occurs
  · exact prefix_before needle_plain occurs

/-- In the name of a pair the searched text can only start where `sessionId` ends the name. -/
theorem occurs_in_name {part more : Bytes} (plain : 61 ∉ part) (occurs : bytes "sessionId=" <+: part ++ 61 :: more) :
    part = bytes "sessionId" := by
  have absent : 61 ∉ bytes "sessionId" := by decide
  rcases occurs with ⟨past, same⟩
  have split : bytes "sessionId" ++ 61 :: past = part ++ 61 :: more := by
    rw [← same, needle_eq, List.append_assoc]
    rfl
  exact (append_first absent plain split).1.symm

theorem searchCookie_name {name : Bytes} (plain : 61 ∉ name) (other : ¬ bytes "sessionId" <:+ name) (more : Bytes) :
    searchCookie (name ++ 61 :: more) = searchCookie more := by
  have cut : name ++ 61 :: more = (name ++ [61]) ++ more := by simp
  rw [cut, searchCookie_skip]
  apply findText_skip
  intro before after parts filled occurs
  have ending : ∃ part, name = before ++ part ∧ after = part ++ [61] := by
    rcases List.append_eq_append_iff.mp parts with ⟨part, first, last⟩ | ⟨part, first, last⟩
    · exact ⟨[], by cases part <;> simp_all⟩
    · exact ⟨part, first, last⟩
  rcases ending with ⟨part, rfl, rfl⟩
  have plainPart : 61 ∉ part := fun member => plain (List.mem_append_right _ member)
  rw [List.append_assoc] at occurs
  have whole := occurs_in_name plainPart occurs
  exact other ⟨before, by rw [whole]⟩

theorem searchCookie_named {first value rest : Bytes} (plain : 61 ∉ first ++ bytes "sessionId")
    (valuePlain : 59 ∉ value) (ends : PairEnd rest) :
    searchCookie ((first ++ bytes "sessionId") ++ 61 :: (value ++ rest)) = value := by
  have cut : (first ++ bytes "sessionId") ++ 61 :: (value ++ rest) =
      first ++ ((bytes "sessionId=" ++ value) ++ rest) := by
    rw [needle_eq]
    simp
  have skips : searchCookie (first ++ ((bytes "sessionId=" ++ value) ++ rest)) =
      searchCookie ((bytes "sessionId=" ++ value) ++ rest) := by
    apply searchCookie_skip
    apply findText_skip
    intro before after parts filled occurs
    have plainTail : 61 ∉ after ++ bytes "sessionId" := by
      intro member
      apply plain
      rw [parts, List.append_assoc]
      exact List.mem_append_right _ member
    have tail : after ++ ((bytes "sessionId=" ++ value) ++ rest) =
        (after ++ bytes "sessionId") ++ 61 :: (value ++ rest) := by
      rw [needle_eq]
      simp
    rw [tail] at occurs
    exact filled (List.append_left_eq_self.mp (occurs_in_name plainTail occurs))
  have noSemicolon : 59 ∉ bytes "sessionId=" ++ value := by
    intro member
    rcases List.mem_append.mp member with member | member
    · exact needle_plain member
    · exact valuePlain member
  rw [cut, skips, searchCookie_found (findText_here needle_filled value) noSemicolon ends, Nat.zero_add,
    ← needle_length, List.drop_left]

theorem searchCookie_none {value rest : Bytes} (absent : findText (bytes "sessionId=") value = none)
    (ends : PairEnd rest) : searchCookie (value ++ rest) = searchCookie rest := by
  apply searchCookie_skip
  apply findText_skip
  intro before after parts _ occurs
  exact (findText_none needle_filled).mp absent before after parts (occurs_inside ends occurs)

/-- By cases on where the searched text can start: in the name, in the value, or nowhere in the pair. -/
theorem CookiePair.search (pair : CookiePair) {rest : Bytes} (ends : PairEnd rest) :
    searchCookie (pair.text ++ rest) = if pair.mentions then pair.following else searchCookie rest := by
  have noEquals : 61 ∉ pair.name := fun member => (pair.name_plain 61 member).1 rfl
  have shape : pair.text ++ rest = pair.name ++ 61 :: (pair.value ++ rest) := by simp [CookiePair.text]
  by_cases named : bytes "sessionId" <:+ pair.name
  · have suffix : (bytes "sessionId").isSuffixOf pair.name = true := List.isSuffixOf_iff_suffix.mpr named
    rcases named with ⟨first, name⟩
    rw [← name] at noEquals
    rw [shape, ← name, searchCookie_named noEquals pair.value_plain ends]
    simp [CookiePair.mentions, CookiePair.following, suffix]
  · have noSuffix : (bytes "sessionId").isSuffixOf pair.name = false := by
      rw [← Bool.not_eq_true, List.isSuffixOf_iff_suffix]
      exact named
    rw [shape, searchCookie_name noEquals named]
    cases found : findText (bytes "sessionId=") pair.value with
    | none =>
      rw [searchCookie_none found ends]
      simp [CookiePair.mentions, noSuffix, found]
    | some pos =>
      rw [searchCookie_found found pair.value_plain ends]
      simp [CookiePair.mentions, CookiePair.following, noSuffix, found]

theorem searchCookie_separator (more : Bytes) : searchCookie (59 :: 32 :: more) = searchCookie more := by
  have head : ∃ rest, bytes "sessionId=" = 115 :: rest := ⟨(bytes "sessionId=").tail, by decide⟩
  rcases head with ⟨rest, shape⟩
  have other : ∀ {c : UInt8} {tail : Bytes}, c ≠ 115 → ¬ bytes "sessionId=" <+: c :: tail := by
    intro c tail different occurs
    rw [shape] at occurs
    exact different (List.cons_prefix_cons.mp occurs).1.symm
  have cut : 59 :: 32 :: more = [59, 32] ++ more := rfl
  rw [cut, searchCookie_skip]
  apply findText_skip
  intro before after parts filled
  rcases before with _ | ⟨b, _ | ⟨c, before⟩⟩
  · cases parts
    exact other (by decide)
  · cases parts
    exact other (by decide)
  · simp only [List.cons_append, List.cons.injEq] at parts
    exact absurd (List.append_eq_nil_iff.mp parts.2.2.symm).2 filled

/-- By induction on the pairs: the search stops in the first one that mentions the searched text. -/
theorem searchCookie_text (pairs : List CookiePair) :
    searchCookie (cookieText pairs) = ((pairs.find? CookiePair.mentions).map (·.following)).getD [] := by
  induction pairs with
  | nil =>
    have nothing : searchCookie [] = [] := by decide
    exact nothing
  | cons pair pairs ih =>
    have here : searchCookie (cookieText (pair :: pairs)) =
        if pair.mentions then pair.following else searchCookie (cookieText pairs) := by
      cases pairs with
      | nil =>
        have last := pair.search (Or.inl rfl)
        rw [List.append_nil] at last
        exact last
      | cons next pairs =>
        have cut := pair.search (Or.inr ⟨32 :: cookieText (next :: pairs), rfl⟩)
        have shape : cookieText (pair :: next :: pairs) = pair.text ++ 59 :: 32 :: cookieText (next :: pairs) := by
          simp [cookieText]
        rw [shape, cut, searchCookie_separator]
    rw [here, List.find?_cons]
    cases mentioned : pair.mentions with
    | true => simp
    | false => simpa using ih

theorem mentions_of_name {pair : CookiePair} (name : pair.name = bytes "sessionId") :
    pair.mentions = true ∧ pair.following = pair.value := by
  have suffix : (bytes "sessionId").isSuffixOf pair.name = true := by
    rw [name]
    decide
  simp [CookiePair.mentions, CookiePair.following, suffix]

theorem sessionCookie_none {pairs : List CookiePair} (absent : pairs.find? CookiePair.mentions = none) :
    sessionCookie pairs = [] := by
  have unnamed : pairs.find? (fun pair => pair.name = bytes "sessionId") = none := by
    rw [List.find?_eq_none] at absent ⊢
    intro pair member named
    exact absent pair member (mentions_of_name (of_decide_eq_true named)).1
  rw [sessionCookie, unnamed]
  rfl

theorem sessionCookie_first {pairs : List CookiePair} {pair : CookiePair}
    (found : pairs.find? CookiePair.mentions = some pair) (name : pair.name = bytes "sessionId") :
    sessionCookie pairs = pair.value := by
  rcases List.find?_eq_some_iff_append.mp found with ⟨_, before, after, shape, earlier⟩
  have first : pairs.find? (fun pair => pair.name = bytes "sessionId") = some pair := by
    apply List.find?_eq_some_iff_append.mpr
    refine ⟨decide_eq_true name, before, after, shape, ?_⟩
    intro other member
    have silent := earlier other member
    simp only [Bool.not_eq_true', decide_eq_false_iff_not] at silent ⊢
    intro named
    rw [(mentions_of_name named).1] at silent
    cases silent
  rw [sessionCookie, first]
  rfl

/-- The cookie is found exactly where the first pair that mentions it is the cookie, or reads like it. -/
theorem getSessionIdFromCookie_iff (req : HttpRequest) (pairs : List CookiePair)
    (header : req.getHeader (bytes "Cookie") = cookieText pairs) :
    getSessionIdFromCookie req = sessionCookie pairs ↔ Unmistaken pairs := by
  rw [getSessionIdFromCookie_eq, header, searchCookie_text]
  unfold Unmistaken
  cases found : pairs.find? CookiePair.mentions with
  | none =>
    rw [sessionCookie_none found]
    apply iff_of_true rfl
    nofun
  | some pair =>
    apply Iff.intro
    · intro same other first
      cases first
      exact Or.inr same
    · intro unmistaken
      rcases unmistaken pair rfl with named | same
      · rw [sessionCookie_first found named]
        exact (mentions_of_name named).2
      · exact same

def cookiePair (name value : String) (plainName : ∀ c ∈ bytes name, c ≠ 61 ∧ c ≠ 59 ∧ c ≠ 32)
    (plainValue : 59 ∉ bytes value) : CookiePair := ⟨bytes name, bytes value, plainName, plainValue⟩

/-- The cookie of another application, and one of this server after it. -/
def foreignPairs : List CookiePair :=
  [cookiePair "phpsessionId" "abc" (by decide +kernel) (by decide +kernel),
    cookiePair "sessionId" "f00d" (by decide +kernel) (by decide +kernel)]

def sessionPairs : List CookiePair :=
  [cookiePair "theme" "dark" (by decide +kernel) (by decide +kernel),
    cookiePair "sessionId" "f00d" (by decide +kernel) (by decide +kernel)]

def cookieRequest (pairs : List CookiePair) : HttpRequest :=
  ({} : HttpRequest).addHeader (bytes "Cookie") (cookieText pairs)

theorem sessionPairs_found : getSessionIdFromCookie (cookieRequest sessionPairs) = bytes "f00d" := by
  have header : (cookieRequest sessionPairs).getHeader (bytes "Cookie") = cookieText sessionPairs := by decide
  have first : sessionPairs.find? CookiePair.mentions = sessionPairs[1]? := rfl
  have unmistaken : Unmistaken sessionPairs := by
    intro pair found
    left
    rw [first] at found
    cases found
    rfl
  exact (getSessionIdFromCookie_iff _ _ header).mpr unmistaken

theorem foreignPairs_mistaken :
    ¬ ∀ (req : HttpRequest) (pairs : List CookiePair), req.getHeader (bytes "Cookie") = cookieText pairs →
      getSessionIdFromCookie req = sessionCookie pairs := by
  intro claimed
  have header : (cookieRequest foreignPairs).getHeader (bytes "Cookie") = cookieText foreignPairs := by decide
  have wrong : getSessionIdFromCookie (cookieRequest foreignPairs) ≠ sessionCookie foreignPairs := by decide
  exact wrong (claimed _ _ header)

end Http.Sessions
