import HttpServerApps.Common.EarliestMax
import HttpServerApps.Router.Lookup

namespace Http.Routing

open Common SequenceRegex

/-- What the router uses of the C++ library, whatever the patterns are: `std::regex` and `std::sort`. -/
structure StdLibrary where
  Regex : Type
  /-- The constructor; `none` where it throws `std::regex_error`. -/
  regex : Bytes → Option Regex
  /-- The captures, where the whole text matches. -/
  regex_match : Regex → Bytes → Option (List Bytes)
  /-- Longest first; texts of one size come in any order. -/
  sort : List Bytes → List Bytes
  sort_perm : ∀ keys, (sort keys).Perm keys
  sort_sizes : ∀ keys, (sort keys).Pairwise fun first second => second.length ≤ first.length

/-- The keys of `pathPrefixesForLookup` as they are pushed, before the sort. -/
def pushedPrefixes (path : Bytes) : List Bytes :=
  let inner := (List.range path.length).filterMap fun i =>
    if 1 ≤ i ∧ path[i]? = some slash then some (path.take (i + 1)) else none
  [] :: inner ++ [path]

variable (lib : StdLibrary)

def StdLibrary.pathPrefixesForLookup (path : Bytes) : List Bytes :=
  if path = [] ∨ path.head? ≠ some slash then [[]] else unique (lib.sort (pushedPrefixes path))

def StdLibrary.convertToRegex (pathPattern : Bytes) : Option lib.Regex :=
  lib.regex (bytes "^" ++ replaceParams false pathPattern ++ bytes "$")

structure RegexObj (Target : Type) where
  method : Method
  pathRegex : lib.Regex
  target : Target

abbrev RegexBuckets (Target : Type) := Dict (Method × Bytes) (List (RegexObj lib Target))

/-- The router over these parts of the library. -/
structure RegexRouter (Handler Callback : Type) where
  handlers : Dict (Method × Bytes) Handler := .empty
  callbacks : Dict (Method × Bytes) Callback := .empty
  regexHandlersByPrefix : RegexBuckets lib Handler := .empty
  regexCallbacksByPrefix : RegexBuckets lib Callback := .empty

section

variable {lib} {Target : Type}

/-- A pattern whose regular expression throws leaves the buckets as they are. -/
def addRegex (buckets : RegexBuckets lib Target) (method : Method) (path : Bytes) (target : Target) :
    RegexBuckets lib Target :=
  match lib.convertToRegex path with
  | some pathRegex =>
    let pkey := (method, routeStaticPrefixFromPattern path)
    buckets.insert pkey ((buckets.find pkey).getD [] ++ [⟨method, pathRegex, target⟩])
  | none => buckets

def RegexObj.matchPath (obj : RegexObj lib Target) (req : HttpRequest) : Option (Target × List Bytes) :=
  if obj.method = req.method then (lib.regex_match obj.pathRegex req.path).map fun captures => (obj.target, captures)
  else none

def searchRegex (buckets : RegexBuckets lib Target) (req : HttpRequest) : Option (Target × List Bytes) :=
  (lib.pathPrefixesForLookup req.path).findSome? fun key =>
    ((buckets.find (req.method, key)).getD []).findSome? fun obj => obj.matchPath req

end

variable {lib} {Handler Callback : Type}

namespace RegexRouter

def register (router : RegexRouter lib Handler Callback) :
    Registration Handler Callback → RegexRouter lib Handler Callback
  | .handler method path target => { router with handlers := router.handlers.insert (method, path) target }
  | .callback method path target => { router with callbacks := router.callbacks.insert (method, path) target }
  | .regexHandler method pathPattern target =>
    { router with regexHandlersByPrefix := addRegex router.regexHandlersByPrefix method pathPattern target }
  | .regexCallback method pathPattern target =>
    { router with regexCallbacksByPrefix := addRegex router.regexCallbacksByPrefix method pathPattern target }

def build (lib : StdLibrary) (registrations : List (Registration Handler Callback)) :
    RegexRouter lib Handler Callback :=
  registrations.foldl register {}

def route (router : RegexRouter lib Handler Callback) (req : HttpRequest) :
    Option (Target Handler Callback × HttpRequest) :=
  match router.handlers.find (req.method, req.path) with
  | some handler => some (.handler handler, req)
  | none =>
    match router.callbacks.find (req.method, req.path) with
    | some callback => some (.callback callback, req)
    | none =>
      match searchRegex router.regexHandlersByPrefix req with
      | some (handler, captures) => some (.handler handler, extractPathParameters captures req)
      | none =>
        (searchRegex router.regexCallbacksByPrefix req).map fun found =>
          (.callback found.1, extractPathParameters found.2 req)

end RegexRouter

/-! The choice among the registrations. -/

def Registration.exactHandler : Registration Handler Callback → Option ((Method × Bytes) × Handler)
  | .handler method path target => some ((method, path), target)
  | _ => none

def Registration.exactCallback : Registration Handler Callback → Option ((Method × Bytes) × Callback)
  | .callback method path target => some ((method, path), target)
  | _ => none

def Registration.patternHandler : Registration Handler Callback → Option ((Method × Bytes) × Handler)
  | .regexHandler method pathPattern target => some ((method, pathPattern), target)
  | _ => none

def Registration.patternCallback : Registration Handler Callback → Option ((Method × Bytes) × Callback)
  | .regexCallback method pathPattern target => some ((method, pathPattern), target)
  | _ => none

/-- The entries with this key, in the order of their registration. -/
def withKey {Target : Type} (key : Method × Bytes) (entries : List ((Method × Bytes) × Target)) : List Target :=
  entries.filterMap fun entry => if entry.1 = key then some entry.2 else none

structure Candidate (Target : Type) where
  staticPrefix : Bytes
  target : Target
  captures : List Bytes

/-- A pattern of the request's method whose static prefix is looked up and whose expression matches. -/
def candidate {Target : Type} (lib : StdLibrary) (req : HttpRequest) (entry : (Method × Bytes) × Target) :
    Option (Candidate Target) :=
  let key := routeStaticPrefixFromPattern entry.1.2
  if entry.1.1 = req.method ∧ key ∈ lib.pathPrefixesForLookup req.path then do
    let pathRegex ← lib.convertToRegex entry.1.2
    let captures ← lib.regex_match pathRegex req.path
    return ⟨key, entry.2, captures⟩
  else none

/-- The longest static prefix, and in its bucket the earliest registration. -/
def Preferred {Target : Type} (candidates : List (Candidate Target)) (found : Candidate Target) : Prop :=
  EarliestMax (fun candidate => candidate.staticPrefix.length) candidates found

section

variable (lib) (registrations : List (Registration Handler Callback)) (req : HttpRequest)

def exactHandlers : List Handler := withKey (req.method, req.path) (registrations.filterMap Registration.exactHandler)

def exactCallbacks : List Callback :=
  withKey (req.method, req.path) (registrations.filterMap Registration.exactCallback)

def handlerCandidates : List (Candidate Handler) :=
  (registrations.filterMap Registration.patternHandler).filterMap (candidate lib req)

def callbackCandidates : List (Candidate Callback) :=
  (registrations.filterMap Registration.patternCallback).filterMap (candidate lib req)

/-- What `route` is to find: the target it invokes and the request that is handed on. -/
inductive Chosen : Option (Target Handler Callback × HttpRequest) → Prop
  | exactHandler {target} (last : (exactHandlers registrations req).getLast? = some target) :
      Chosen (some (.handler target, req))
  | exactCallback {target} (noHandler : exactHandlers registrations req = [])
      (last : (exactCallbacks registrations req).getLast? = some target) : Chosen (some (.callback target, req))
  | regexHandler {found} (noHandler : exactHandlers registrations req = [])
      (noCallback : exactCallbacks registrations req = [])
      (preferred : Preferred (handlerCandidates lib registrations req) found) :
      Chosen (some (.handler found.target, extractPathParameters found.captures req))
  | regexCallback {found} (noHandler : exactHandlers registrations req = [])
      (noCallback : exactCallbacks registrations req = []) (noRegex : handlerCandidates lib registrations req = [])
      (preferred : Preferred (callbackCandidates lib registrations req) found) :
      Chosen (some (.callback found.target, extractPathParameters found.captures req))
  | nothing (noHandler : exactHandlers registrations req = []) (noCallback : exactCallbacks registrations req = [])
      (noRegex : handlerCandidates lib registrations req = [])
      (noRegexCallback : callbackCandidates lib registrations req = []) : Chosen none

end

/-! The keys of a lookup, longest first. -/

/-- Texts of one size among them are equal, so the order that the sort gives them does not matter. -/
theorem pushedPrefixes_size {path first second : Bytes} (one : first ∈ pushedPrefixes path)
    (other : second ∈ pushedPrefixes path) (size : first.length = second.length) : first = second := by
  have prefix_ : ∀ key ∈ pushedPrefixes path, key <+: path := by
    intro key member
    rcases List.mem_append.mp member with member | member
    · rcases List.mem_cons.mp member with rfl | member
      · exact List.nil_prefix
      · rcases List.mem_filterMap.mp member with ⟨i, _, kept⟩
        split at kept
        · cases kept
          exact List.take_prefix _ _
        · cases kept
    · rcases List.mem_singleton.mp member with rfl
      exact List.prefix_refl _
  have shorter := List.prefix_of_prefix_length_le (prefix_ first one) (prefix_ second other) (Nat.le_of_eq size)
  exact shorter.eq_of_length size

theorem unique_decreasing {keys : List Bytes} (sizes : keys.Pairwise fun first second => second.length ≤ first.length)
    (equal : ∀ first ∈ keys, ∀ second ∈ keys, first.length = second.length → first = second) :
    (unique keys).Pairwise fun first second => second.length < first.length := by
  fun_induction unique keys with
  | case1 => exact List.Pairwise.nil
  | case2 key => exact List.pairwise_singleton _ _
  | case3 first keys ih =>
    exact ih sizes.tail fun a one b other =>
      equal a (List.mem_cons_of_mem _ one) b (List.mem_cons_of_mem _ other)
  | case4 first second keys different ih =>
    have later := ih sizes.tail fun a one b other =>
      equal a (List.mem_cons_of_mem _ one) b (List.mem_cons_of_mem _ other)
    refine List.pairwise_cons.mpr ⟨?_, later⟩
    intro key member
    have inside := (mem_unique (second :: keys) key).mp member
    rcases List.pairwise_cons.mp sizes with ⟨below, rest⟩
    have next := below second (List.mem_cons_self ..)
    have gap : second.length < first.length := by
      apply Nat.lt_of_le_of_ne next
      intro same
      exact different (equal first (List.mem_cons_self ..) second (by simp) same.symm)
    rcases List.mem_cons.mp inside with rfl | further
    · exact gap
    · exact Nat.lt_of_le_of_lt ((List.pairwise_cons.mp rest).1 key further) gap

theorem lookup_decreasing (lib : StdLibrary) (path : Bytes) :
    (lib.pathPrefixesForLookup path).Pairwise fun first second => second.length < first.length := by
  unfold StdLibrary.pathPrefixesForLookup
  split
  · exact List.pairwise_singleton _ _
  · apply unique_decreasing (lib.sort_sizes _)
    intro first one second other size
    exact pushedPrefixes_size ((lib.sort_perm _).mem_iff.mp one) ((lib.sort_perm _).mem_iff.mp other) size

/-! What the tables hold after the registrations. -/

theorem withKey_append {Target : Type} (key : Method × Bytes) (first second : List ((Method × Bytes) × Target)) :
    withKey key (first ++ second) = withKey key first ++ withKey key second := List.filterMap_append

theorem find_insert_last {Target : Type} (dict : Dict (Method × Bytes) Target) (own key : Method × Bytes)
    (target : Target) :
    (dict.insert own target).find key = ((withKey key [(own, target)]).getLast?).or (dict.find key) := by
  rw [Dict.find_insert]
  by_cases same : own = key
  · simp [withKey, same]
  · simp [withKey, same, Ne.symm same]

theorem find_handlers (registrations : List (Registration Handler Callback)) (router : RegexRouter lib Handler Callback)
    (key : Method × Bytes) :
    (registrations.foldl RegexRouter.register router).handlers.find key =
      ((withKey key (registrations.filterMap Registration.exactHandler)).getLast?).or (router.handlers.find key) := by
  induction registrations generalizing router with
  | nil => rfl
  | cons registration registrations ih =>
    rw [List.foldl_cons, ih]
    cases registration with
    | handler method path target =>
      show _ = ((withKey key ([((method, path), target)] ++ _)).getLast?).or _
      rw [withKey_append, List.getLast?_append, Option.or_assoc]
      congr 1
      exact find_insert_last ..
    | callback | regexHandler | regexCallback => rfl

theorem find_callbacks (registrations : List (Registration Handler Callback))
    (router : RegexRouter lib Handler Callback) (key : Method × Bytes) :
    (registrations.foldl RegexRouter.register router).callbacks.find key =
      ((withKey key (registrations.filterMap Registration.exactCallback)).getLast?).or (router.callbacks.find key) := by
  induction registrations generalizing router with
  | nil => rfl
  | cons registration registrations ih =>
    rw [List.foldl_cons, ih]
    cases registration with
    | callback method path target =>
      show _ = ((withKey key ([((method, path), target)] ++ _)).getLast?).or _
      rw [withKey_append, List.getLast?_append, Option.or_assoc]
      congr 1
      exact find_insert_last ..
    | handler | regexHandler | regexCallback => rfl

section

variable {Target : Type}

def regexBucket (buckets : RegexBuckets lib Target) (key : Method × Bytes) : List (RegexObj lib Target) :=
  (buckets.find key).getD []

/-- What a pattern puts into the bucket with this key. -/
def bucketEntry (lib : StdLibrary) (key : Method × Bytes) (entry : (Method × Bytes) × Target) :
    Option (RegexObj lib Target) :=
  if (entry.1.1, routeStaticPrefixFromPattern entry.1.2) = key then
    (lib.convertToRegex entry.1.2).map fun pathRegex => ⟨entry.1.1, pathRegex, entry.2⟩
  else none

theorem regexBucket_addRegex (buckets : RegexBuckets lib Target) (method : Method) (path : Bytes) (target : Target)
    (key : Method × Bytes) :
    regexBucket (addRegex buckets method path target) key =
      regexBucket buckets key ++ [((method, path), target)].filterMap (bucketEntry lib key) := by
  unfold regexBucket addRegex
  cases converted : lib.convertToRegex path with
  | none => simp [bucketEntry, converted]
  | some pathRegex =>
    by_cases same : (method, routeStaticPrefixFromPattern path) = key
    · subst same
      simp [bucketEntry, converted]
    · simp [bucketEntry, same, Dict.find_insert_of_ne _ _ _ _ (Ne.symm same)]

end

theorem regexBucket_handlers (registrations : List (Registration Handler Callback))
    (router : RegexRouter lib Handler Callback) (key : Method × Bytes) :
    regexBucket (registrations.foldl RegexRouter.register router).regexHandlersByPrefix key =
      regexBucket router.regexHandlersByPrefix key ++
        (registrations.filterMap Registration.patternHandler).filterMap (bucketEntry lib key) := by
  induction registrations generalizing router with
  | nil => exact (List.append_nil _).symm
  | cons registration registrations ih =>
    rw [List.foldl_cons, ih]
    cases registration with
    | regexHandler method pathPattern target =>
      show regexBucket (addRegex _ _ _ _) _ ++ _ = _ ++ ([((method, pathPattern), target)] ++ _).filterMap _
      rw [regexBucket_addRegex, List.filterMap_append, List.append_assoc]
    | handler | callback | regexCallback => rfl

theorem regexBucket_callbacks (registrations : List (Registration Handler Callback))
    (router : RegexRouter lib Handler Callback) (key : Method × Bytes) :
    regexBucket (registrations.foldl RegexRouter.register router).regexCallbacksByPrefix key =
      regexBucket router.regexCallbacksByPrefix key ++
        (registrations.filterMap Registration.patternCallback).filterMap (bucketEntry lib key) := by
  induction registrations generalizing router with
  | nil => exact (List.append_nil _).symm
  | cons registration registrations ih =>
    rw [List.foldl_cons, ih]
    cases registration with
    | regexCallback method pathPattern target =>
      show regexBucket (addRegex _ _ _ _) _ ++ _ = _ ++ ([((method, pathPattern), target)] ++ _).filterMap _
      rw [regexBucket_addRegex, List.filterMap_append, List.append_assoc]
    | handler | callback | regexHandler => rfl

/-! The search through the buckets. -/

section

variable {Target : Type} {req : HttpRequest}

theorem candidate_prefix {entry : (Method × Bytes) × Target} {found : Candidate Target}
    (given : candidate lib req entry = some found) : found.staticPrefix ∈ lib.pathPrefixesForLookup req.path := by
  unfold candidate at given
  dsimp only at given
  split at given
  · rename_i offered
    rcases Option.bind_eq_some_iff.mp given with ⟨pathRegex, _, matched⟩
    rcases Option.bind_eq_some_iff.mp matched with ⟨captures, _, same⟩
    cases same
    exact offered.2
  · cases given

theorem searched_entry {key : Bytes} (looked : key ∈ lib.pathPrefixesForLookup req.path)
    (entry : (Method × Bytes) × Target) :
    ((bucketEntry lib (req.method, key) entry).bind fun obj => obj.matchPath req) =
      ((candidate lib req entry).filter fun found => found.staticPrefix = key).map
        fun found => (found.target, found.captures) := by
  rcases entry with ⟨⟨method, pathPattern⟩, target⟩
  unfold bucketEntry candidate RegexObj.matchPath
  by_cases ours : method = req.method
  · subst ours
    by_cases same : routeStaticPrefixFromPattern pathPattern = key
    · subst same
      simp only [looked, and_self, ↓reduceIte]
      cases lib.convertToRegex pathPattern with
      | none => rfl
      | some pathRegex =>
        cases matched : lib.regex_match pathRegex req.path with
        | none => simp [matched]
        | some captures => simp [matched]
    · have elsewhere : (req.method, routeStaticPrefixFromPattern pathPattern) ≠ (req.method, key) :=
        fun equal => same (Prod.mk.inj equal).2
      rw [if_neg elsewhere]
      dsimp only
      split
      · cases lib.convertToRegex pathPattern with
        | none => rfl
        | some pathRegex =>
          cases matched : lib.regex_match pathRegex req.path with
          | none => simp [matched]
          | some captures => simp [matched, same]
      · rfl
  · have elsewhere : (method, routeStaticPrefixFromPattern pathPattern) ≠ (req.method, key) :=
      fun equal => ours (Prod.mk.inj equal).1
    rw [if_neg elsewhere]
    simp only [ours, false_and, ↓reduceIte]
    rfl

theorem searched_bucket {key : Bytes} (looked : key ∈ lib.pathPrefixesForLookup req.path)
    (entries : List ((Method × Bytes) × Target)) :
    (entries.filterMap (bucketEntry lib (req.method, key))).findSome? (fun obj => obj.matchPath req) =
      ((entries.filterMap (candidate lib req)).find? fun found => found.staticPrefix = key).map
        fun found => (found.target, found.captures) := by
  induction entries with
  | nil => rfl
  | cons entry entries ih =>
    have first := searched_entry looked entry
    rw [List.filterMap_cons, List.filterMap_cons]
    cases put : bucketEntry lib (req.method, key) entry with
    | none =>
      rw [put] at first
      cases offered : candidate lib req entry with
      | none => exact ih
      | some found =>
        rw [offered] at first
        have other : ¬ found.staticPrefix = key := by
          intro same
          simp [same] at first
        rw [List.find?_cons_of_neg (by simpa using other)]
        exact ih
    | some obj =>
      rw [put] at first
      dsimp only
      rw [List.findSome?_cons, show obj.matchPath req = _ from first]
      cases offered : candidate lib req entry with
      | none => exact ih
      | some found =>
        by_cases same : found.staticPrefix = key
        · have kept : (some found).filter (fun found => decide (found.staticPrefix = key)) = some found := by
            simp [same]
          rw [kept, List.find?_cons_of_pos (by simpa using same)]
          rfl
        · have dropped : (some found).filter (fun found => decide (found.staticPrefix = key)) = none := by
            simp [same]
          rw [dropped, List.find?_cons_of_neg (by simpa using same)]
          exact ih

theorem searchRegex_candidates {buckets : RegexBuckets lib Target} {entries : List ((Method × Bytes) × Target)}
    (filled : ∀ key, regexBucket buckets key = entries.filterMap (bucketEntry lib key)) :
    searchRegex buckets req =
      ((lib.pathPrefixesForLookup req.path).findSome? fun key =>
        (entries.filterMap (candidate lib req)).find? fun found => found.staticPrefix = key).map
          fun found => (found.target, found.captures) := by
  have each : ∀ keys : List Bytes, (∀ key ∈ keys, key ∈ lib.pathPrefixesForLookup req.path) →
      (keys.findSome? fun key => ((buckets.find (req.method, key)).getD []).findSome? fun obj => obj.matchPath req) =
        (keys.findSome? fun key =>
          (entries.filterMap (candidate lib req)).find? fun found => found.staticPrefix = key).map
            fun found => (found.target, found.captures) := by
    intro keys looked
    induction keys with
    | nil => rfl
    | cons key keys ih =>
      have here : ((buckets.find (req.method, key)).getD []).findSome? (fun obj => obj.matchPath req) = _ :=
        (congrArg (List.findSome? fun obj => obj.matchPath req) (filled (req.method, key))).trans
          (searched_bucket (looked key (List.mem_cons_self ..)) entries)
      have later := ih fun other member => looked other (List.mem_cons_of_mem _ member)
      rw [List.findSome?_cons, List.findSome?_cons, here, later]
      cases (entries.filterMap (candidate lib req)).find? fun found => found.staticPrefix = key with
      | none => rfl
      | some found => rfl
  exact each _ fun key member => member

/-- The search finds the preferred candidate, and none where there is none. -/
theorem searchRegex_preferred {buckets : RegexBuckets lib Target} {entries : List ((Method × Bytes) × Target)}
    (filled : ∀ key, regexBucket buckets key = entries.filterMap (bucketEntry lib key)) :
    (∃ found, Preferred (entries.filterMap (candidate lib req)) found ∧
        searchRegex buckets req = some (found.target, found.captures)) ∨
      entries.filterMap (candidate lib req) = [] ∧ searchRegex buckets req = none := by
  have covered : ∀ found ∈ entries.filterMap (candidate lib req),
      found.staticPrefix ∈ lib.pathPrefixesForLookup req.path := by
    intro found member
    rcases List.mem_filterMap.mp member with ⟨entry, _, offered⟩
    exact candidate_prefix offered
  rw [searchRegex_candidates filled]
  cases search : (lib.pathPrefixesForLookup req.path).findSome? fun key =>
      (entries.filterMap (candidate lib req)).find? fun found => found.staticPrefix = key with
  | none => exact Or.inr ⟨search_none covered search, rfl⟩
  | some found =>
    have best := search_earliestMax (lookup_decreasing lib req.path) covered search
    exact Or.inl ⟨found, best, rfl⟩

end

/-! The choice of `route`. -/

section

variable (registrations : List (Registration Handler Callback)) (req : HttpRequest)

theorem exactHandlers_last : (RegexRouter.build lib registrations).handlers.find (req.method, req.path) =
    (exactHandlers registrations req).getLast? := (find_handlers registrations {} _).trans (Option.or_none ..)

theorem exactCallbacks_last : (RegexRouter.build lib registrations).callbacks.find (req.method, req.path) =
    (exactCallbacks registrations req).getLast? := (find_callbacks registrations {} _).trans (Option.or_none ..)

theorem route_chosen (lib : StdLibrary) :
    Chosen lib registrations req ((RegexRouter.build lib registrations).route req) := by
  have handlers := @searchRegex_preferred lib _ req _ _ fun key => regexBucket_handlers registrations {} key
  have callbacks := @searchRegex_preferred lib _ req _ _ fun key => regexBucket_callbacks registrations {} key
  unfold RegexRouter.route
  rw [exactHandlers_last, exactCallbacks_last]
  cases handler : (exactHandlers registrations req).getLast? with
  | some target => exact .exactHandler handler
  | none =>
    have noHandler := List.getLast?_eq_none_iff.mp handler
    cases callback : (exactCallbacks registrations req).getLast? with
    | some target => exact .exactCallback noHandler callback
    | none =>
      have noCallback := List.getLast?_eq_none_iff.mp callback
      dsimp only
      rcases handlers with ⟨found, preferred, search⟩ | ⟨noRegex, search⟩
      · rw [show searchRegex (RegexRouter.build lib registrations).regexHandlersByPrefix req = _ from search]
        exact .regexHandler noHandler noCallback preferred
      · rw [show searchRegex (RegexRouter.build lib registrations).regexHandlersByPrefix req = _ from search]
        rcases callbacks with ⟨found, preferred, search⟩ | ⟨noRegexCallback, search⟩
        · rw [show searchRegex (RegexRouter.build lib registrations).regexCallbacksByPrefix req = _ from search]
          exact .regexCallback noHandler noCallback noRegex preferred
        · rw [show searchRegex (RegexRouter.build lib registrations).regexCallbacksByPrefix req = _ from search]
          exact .nothing noHandler noCallback noRegex noRegexCallback

variable {registrations req}

theorem Preferred.not_nil {Target : Type} {candidates : List (Candidate Target)} {found : Candidate Target}
    (preferred : Preferred candidates found) : candidates ≠ [] :=
  List.ne_nil_of_mem preferred.mem

/-- No two entries are chosen. -/
theorem Chosen.unique {first second : Option (Target Handler Callback × HttpRequest)}
    (one : Chosen lib registrations req first) (other : Chosen lib registrations req second) : first = second := by
  have gone : ∀ {Entry : Type} {entries : List Entry} {entry : Entry},
      entries.getLast? = some entry → entries ≠ [] := by
    intro Entry entries entry last empty
    rw [empty] at last
    cases last
  cases one with
  | exactHandler last =>
    cases other with
    | exactHandler again => rw [Option.some.inj (last.symm.trans again)]
    | exactCallback noHandler | regexHandler noHandler | regexCallback noHandler | nothing noHandler =>
      exact absurd noHandler (gone last)
  | exactCallback noHandler last =>
    cases other with
    | exactHandler again => exact absurd noHandler (gone again)
    | exactCallback _ again => rw [Option.some.inj (last.symm.trans again)]
    | regexHandler _ noCallback | regexCallback _ noCallback | nothing _ noCallback =>
      exact absurd noCallback (gone last)
  | regexHandler noHandler noCallback preferred =>
    cases other with
    | exactHandler again => exact absurd noHandler (gone again)
    | exactCallback _ again => exact absurd noCallback (gone again)
    | regexHandler _ _ again => rw [preferred.unique again]
    | regexCallback _ _ noRegex | nothing _ _ noRegex => exact absurd noRegex preferred.not_nil
  | regexCallback noHandler noCallback noRegex preferred =>
    cases other with
    | exactHandler again => exact absurd noHandler (gone again)
    | exactCallback _ again => exact absurd noCallback (gone again)
    | regexHandler _ _ again => exact absurd noRegex again.not_nil
    | regexCallback _ _ _ again => rw [preferred.unique again]
    | nothing _ _ _ noRegexCallback => exact absurd noRegexCallback preferred.not_nil
  | nothing noHandler noCallback noRegex noRegexCallback =>
    cases other with
    | exactHandler again => exact absurd noHandler (gone again)
    | exactCallback _ again => exact absurd noCallback (gone again)
    | regexHandler _ _ again => exact absurd noRegex again.not_nil
    | regexCallback _ _ _ again => exact absurd noRegexCallback again.not_nil
    | nothing => rfl

end

/-! Registrations in another order. -/

def Registration.bucketKey (registration : Registration Handler Callback) : Option (Method × Bytes) :=
  registration.dynamic.map fun (method, pathPattern) => (method, routeStaticPrefixFromPattern pathPattern)

/-- The same registrations, those of one exact key and those of one bucket each in the same order. -/
structure Reordered (registrations reordered : List (Registration Handler Callback)) : Prop where
  perm : registrations.Perm reordered
  exact : ∀ key, registrations.filter (fun registration => registration.exactKey = some key) =
    reordered.filter fun registration => registration.exactKey = some key
  buckets : ∀ key, registrations.filter (fun registration => registration.bucketKey = some key) =
    reordered.filter fun registration => registration.bucketKey = some key

theorem filterMap_of_filter {Entry Value : Type} {entries others : List Entry} {keep : Entry → Bool}
    {value : Entry → Option Value} (same : entries.filter keep = others.filter keep)
    (dropped : ∀ entry, keep entry = false → value entry = none) :
    entries.filterMap value = others.filterMap value := by
  have kept : ∀ list : List Entry, list.filterMap value = (list.filter keep).filterMap value := by
    intro list
    induction list with
    | nil => rfl
    | cons entry list ih =>
      cases test : keep entry with
      | true => rw [List.filter_cons_of_pos test, List.filterMap_cons, List.filterMap_cons, ih]
      | false =>
        rw [List.filter_cons_of_neg (ne_true_of_eq_false test), List.filterMap_cons, dropped entry test]
        exact ih
  rw [kept entries, kept others, same]

namespace Reordered

variable {registrations reordered : List (Registration Handler Callback)}

theorem exactHandlers (order : Reordered registrations reordered) (req : HttpRequest) :
    Routing.exactHandlers registrations req = Routing.exactHandlers reordered req := by
  unfold Routing.exactHandlers withKey
  rw [List.filterMap_filterMap, List.filterMap_filterMap]
  apply filterMap_of_filter (order.exact (req.method, req.path))
  intro registration other
  cases registration with
  | handler method path target =>
    have different : ¬ (method, path) = (req.method, req.path) := by
      simpa [Registration.exactKey] using other
    exact if_neg different
  | callback | regexHandler | regexCallback => rfl

theorem exactCallbacks (order : Reordered registrations reordered) (req : HttpRequest) :
    Routing.exactCallbacks registrations req = Routing.exactCallbacks reordered req := by
  unfold Routing.exactCallbacks withKey
  rw [List.filterMap_filterMap, List.filterMap_filterMap]
  apply filterMap_of_filter (order.exact (req.method, req.path))
  intro registration other
  cases registration with
  | callback method path target =>
    have different : ¬ (method, path) = (req.method, req.path) := by
      simpa [Registration.exactKey] using other
    exact if_neg different
  | handler | regexHandler | regexCallback => rfl

theorem handlerBucket (order : Reordered registrations reordered) (key : Method × Bytes) :
    (registrations.filterMap Registration.patternHandler).filterMap (bucketEntry lib key) =
      (reordered.filterMap Registration.patternHandler).filterMap (bucketEntry lib key) := by
  rw [List.filterMap_filterMap, List.filterMap_filterMap]
  apply filterMap_of_filter (order.buckets key)
  intro registration other
  cases registration with
  | regexHandler method pathPattern target =>
    have different : ¬ (method, routeStaticPrefixFromPattern pathPattern) = key := by
      simpa [Registration.bucketKey, Registration.dynamic] using other
    exact if_neg different
  | handler | callback | regexCallback => rfl

theorem callbackBucket (order : Reordered registrations reordered) (key : Method × Bytes) :
    (registrations.filterMap Registration.patternCallback).filterMap (bucketEntry lib key) =
      (reordered.filterMap Registration.patternCallback).filterMap (bucketEntry lib key) := by
  rw [List.filterMap_filterMap, List.filterMap_filterMap]
  apply filterMap_of_filter (order.buckets key)
  intro registration other
  cases registration with
  | regexCallback method pathPattern target =>
    have different : ¬ (method, routeStaticPrefixFromPattern pathPattern) = key := by
      simpa [Registration.bucketKey, Registration.dynamic] using other
    exact if_neg different
  | handler | callback | regexHandler => rfl

end Reordered

theorem searchRegex_congr {Target : Type} {buckets others : RegexBuckets lib Target}
    (same : ∀ key, regexBucket buckets key = regexBucket others key) (req : HttpRequest) :
    searchRegex buckets req = searchRegex others req := by
  have each : (fun key => ((buckets.find (req.method, key)).getD []).findSome? fun obj => obj.matchPath req) =
      fun key => ((others.find (req.method, key)).getD []).findSome? fun obj => obj.matchPath req := by
    ext1 key
    exact congrArg (List.findSome? fun obj => obj.matchPath req) (same (req.method, key))
  unfold searchRegex
  rw [each]

theorem route_reordered {registrations reordered : List (Registration Handler Callback)}
    (order : Reordered registrations reordered) (req : HttpRequest) :
    (RegexRouter.build lib reordered).route req = (RegexRouter.build lib registrations).route req := by
  have handlers : ∀ key, regexBucket (RegexRouter.build lib reordered).regexHandlersByPrefix key =
      regexBucket (RegexRouter.build lib registrations).regexHandlersByPrefix key := by
    intro key
    unfold RegexRouter.build
    rw [regexBucket_handlers, regexBucket_handlers, order.handlerBucket key]
  have callbacks : ∀ key, regexBucket (RegexRouter.build lib reordered).regexCallbacksByPrefix key =
      regexBucket (RegexRouter.build lib registrations).regexCallbacksByPrefix key := by
    intro key
    unfold RegexRouter.build
    rw [regexBucket_callbacks, regexBucket_callbacks, order.callbackBucket key]
  unfold RegexRouter.route
  rw [exactHandlers_last, exactHandlers_last, exactCallbacks_last, exactCallbacks_last, order.exactHandlers req,
    order.exactCallbacks req, searchRegex_congr handlers req, searchRegex_congr callbacks req]

/-- `route` makes the one choice there is by precedence, and unrelated registrations may come in any order. -/
theorem route_precedence (lib : StdLibrary) (registrations : List (Registration Handler Callback)) (req : HttpRequest) :
    Chosen lib registrations req ((RegexRouter.build lib registrations).route req) ∧
      (∀ found, Chosen lib registrations req found → found = (RegexRouter.build lib registrations).route req) ∧
      ∀ reordered, Reordered registrations reordered →
        (RegexRouter.build lib reordered).route req = (RegexRouter.build lib registrations).route req := by
  have chosen := route_chosen registrations req lib
  refine ⟨chosen, ?_, ?_⟩
  · intro found other
    exact other.unique chosen
  · intro reordered order
    exact route_reordered order req

/-! The router of the patterns without metacharacters is the one over their expressions and a stable sort. -/

def longerFirst (first second : Bytes) : Prop := first.length ≥ second.length

instance longerFirst_decidable : DecidableRel longerFirst :=
  fun first second => inferInstanceAs (Decidable (first.length ≥ second.length))

instance longerFirst_total : Std.Total longerFirst := ⟨fun first second => Nat.le_total second.length first.length⟩

instance longerFirst_trans : IsTrans Bytes longerFirst := ⟨fun _ _ _ one other => Nat.le_trans other one⟩

def sequenceLibrary : StdLibrary where
  Regex := List (Piece UInt8)
  regex := compile
  regex_match := regexMatch
  sort keys := keys.insertionSort longerFirst
  sort_perm keys := List.perm_insertionSort longerFirst keys
  sort_sizes keys := List.pairwise_insertionSort longerFirst keys

def overSequences {Target : Type} (buckets : Buckets Target) : RegexBuckets sequenceLibrary Target := fun key =>
  (buckets.find key).map fun routes => routes.map fun obj => ⟨obj.method, obj.pathRegex, obj.target⟩

def Router.overSequences (router : Router Handler Callback) : RegexRouter sequenceLibrary Handler Callback where
  handlers := router.handlers
  callbacks := router.callbacks
  regexHandlersByPrefix := Routing.overSequences router.regexHandlersByPrefix
  regexCallbacksByPrefix := Routing.overSequences router.regexCallbacksByPrefix

theorem overSequences_addToBucket {Target : Type} (buckets : Buckets Target) (method : Method) (path : Bytes)
    (pathRegex : List (Piece UInt8)) (target : Target) (converted : convertToRegex path = some pathRegex) :
    overSequences (addToBucket buckets method path pathRegex target) =
      addRegex (overSequences buckets) method path target := by
  have found : sequenceLibrary.convertToRegex path = some pathRegex := converted
  unfold addRegex
  rw [found]
  ext1 key
  dsimp only
  rw [Dict.find_insert]
  unfold overSequences addToBucket Dict.find Dict.insert
  by_cases same : key = (method, routeStaticPrefixFromPattern path)
  · subst same
    simp only [↓reduceIte, Option.map_some, List.map_append, List.map_cons, List.map_nil]
    cases buckets (method, routeStaticPrefixFromPattern path) <;> rfl
  · simp only [same, ↓reduceIte]

theorem overSequences_register {router next : Router Handler Callback} {registration : Registration Handler Callback}
    (step : register router registration = some next) :
    next.overSequences = router.overSequences.register registration := by
  cases registration with
  | handler | callback =>
    cases step
    rfl
  | regexHandler method pathPattern target =>
    rcases Option.map_eq_some_iff.mp step with ⟨pathRegex, converted, rfl⟩
    unfold Router.overSequences RegexRouter.register
    rw [overSequences_addToBucket _ _ _ _ _ converted]
  | regexCallback method pathPattern target =>
    rcases Option.map_eq_some_iff.mp step with ⟨pathRegex, converted, rfl⟩
    unfold Router.overSequences RegexRouter.register
    rw [overSequences_addToBucket _ _ _ _ _ converted]

theorem overSequences_registerAll {router final : Router Handler Callback}
    {registrations : List (Registration Handler Callback)} (built : registerAll router registrations = some final) :
    final.overSequences = registrations.foldl RegexRouter.register router.overSequences := by
  induction registrations generalizing router with
  | nil =>
    cases built
    rfl
  | cons registration registrations ih =>
    rcases Option.bind_eq_some_iff.mp built with ⟨next, step, later⟩
    rw [List.foldl_cons, ← overSequences_register step]
    exact ih later

theorem searchBuckets_overSequences {Target : Type} (buckets : Buckets Target) (req : HttpRequest) :
    searchBuckets buckets req = (searchRegex (overSequences buckets) req).map fun found =>
      (found.1, extractPathParameters found.2 req) := by
  unfold searchBuckets searchRegex
  rw [List.map_findSome?]
  congr 1
  ext1 key
  show _ = Option.map _ (List.findSome? _ (((overSequences buckets).find (req.method, key)).getD []))
  have bucket : ((overSequences buckets).find (req.method, key)).getD [] =
      ((buckets.find (req.method, key)).getD []).map fun obj =>
        (⟨obj.method, obj.pathRegex, obj.target⟩ : RegexObj sequenceLibrary Target) := by
    unfold overSequences Dict.find
    dsimp only
    cases buckets (req.method, key) <;> rfl
  rw [bucket, List.findSome?_map, List.map_findSome?]
  congr 1
  ext1 obj
  show _ = Option.map _ (if obj.method = req.method then _ else none)
  split
  · cases matched : regexMatch obj.pathRegex req.path with
    | none => simp [sequenceLibrary, matched]
    | some captures => simp [sequenceLibrary, matched]
  · rfl

theorem route_overSequences (router : Router Handler Callback) (req : HttpRequest) :
    router.overSequences.route req = router.route req := by
  unfold RegexRouter.route Router.route
  rw [searchBuckets_overSequences, searchBuckets_overSequences]
  show (match router.handlers.find (req.method, req.path) with | some handler => _ | none => _) = _
  cases router.handlers.find (req.method, req.path) with
  | some handler => rfl
  | none =>
    dsimp only
    show (match router.callbacks.find (req.method, req.path) with | some callback => _ | none => _) = _
    cases router.callbacks.find (req.method, req.path) with
    | some callback => rfl
    | none =>
      dsimp only
      unfold Router.overSequences
      dsimp only
      cases searchRegex (overSequences router.regexHandlersByPrefix) req with
      | some found => rfl
      | none =>
        dsimp only [Option.map_none]
        rw [Option.map_map]
        rfl

/-- So its `route`, too, makes the choice by precedence. -/
theorem registerAll_chosen {router : Router Handler Callback} {registrations : List (Registration Handler Callback)}
    (built : registerAll {} registrations = some router) (req : HttpRequest) :
    Chosen sequenceLibrary registrations req (router.route req) := by
  rw [← route_overSequences, overSequences_registerAll built]
  exact route_chosen registrations req sequenceLibrary

end Http.Routing
