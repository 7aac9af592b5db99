import HttpServerApps.Router.Buckets

namespace Http.Routing

open Common SequenceRegex

variable {Handler Callback : Type}

inductive Registration (Handler Callback : Type) where
  | handler (method : Method) (path : Bytes) (target : Handler)
  | callback (method : Method) (path : Bytes) (target : Callback)
  | regexHandler (method : Method) (pathPattern : Bytes) (target : Handler)
  | regexCallback (method : Method) (pathPattern : Bytes) (target : Callback)

def register (router : Router Handler Callback) :
    Registration Handler Callback → Option (Router Handler Callback)
  | .handler method path target => some (router.registerHandler method path target)
  | .callback method path target => some (router.registerCallback method path target)
  | .regexHandler method pathPattern target => router.addRegexHandler method pathPattern target
  | .regexCallback method pathPattern target => router.addRegexCallback method pathPattern target

def registerAll (router : Router Handler Callback) :
    List (Registration Handler Callback) → Option (Router Handler Callback)
  | [] => some router
  | registration :: registrations =>
    (register router registration).bind fun router => registerAll router registrations

def Registration.dynamic : Registration Handler Callback → Option (Method × Bytes)
  | .regexHandler method pathPattern _ => some (method, pathPattern)
  | .regexCallback method pathPattern _ => some (method, pathPattern)
  | _ => none

def Registration.exactKey : Registration Handler Callback → Option (Method × Bytes)
  | .handler method path _ => some (method, path)
  | .callback method path _ => some (method, path)
  | _ => none

def patternMatches (pathPattern path : Bytes) : Prop :=
  ∃ pathRegex, convertToRegex pathPattern = some pathRegex ∧
    (regexMatch pathRegex path).isSome = true

theorem patternMatches_plain {pathPattern path : Bytes} (plain : Plain pathPattern) :
    patternMatches pathPattern path ↔
      ∃ captures, Matches (pathPieces false pathPattern) path captures := by
  unfold patternMatches
  rw [convertToRegex_plain plain]
  simp only [Option.some.injEq, exists_eq_left', regexMatch_iff]

/-! What a bucket holds. -/

def bucket {Target : Type} (buckets : Buckets Target) (key : Method × Bytes) : List (RouteObj Target) :=
  (buckets.find key).getD []

theorem bucket_addToBucket {Target : Type} (buckets : Buckets Target) (method : Method)
    (path : Bytes) (pathRegex : List (Piece UInt8)) (target : Target) (key : Method × Bytes) :
    bucket (addToBucket buckets method path pathRegex target) key =
      bucket buckets key ++
        if key = (method, routeStaticPrefixFromPattern path) then [⟨method, pathRegex, target⟩]
        else [] := by
  unfold bucket addToBucket
  by_cases same : key = (method, routeStaticPrefixFromPattern path)
  · simp [same]
  · simp [same, Dict.find_insert_of_ne]

/-- A route that a bucket can give for a method and a path. -/
def Offers {Target : Type} (routes : List (RouteObj Target)) (method : Method) (path : Bytes) : Prop :=
  ∃ obj ∈ routes, obj.method = method ∧ (regexMatch obj.pathRegex path).isSome = true

theorem searchBuckets_isSome {Target : Type} (buckets : Buckets Target) (req : HttpRequest) :
    (searchBuckets buckets req).isSome = true ↔
      ∃ key ∈ pathPrefixesForLookup req.path,
        Offers (bucket buckets (req.method, key)) req.method req.path := by
  unfold searchBuckets
  simp only [List.findSome?_isSome_iff, Offers, bucket]
  apply Iff.intro
  · intro given
    obtain ⟨key, looked, obj, member, found⟩ := given
    split at found
    · rename_i same
      exact ⟨key, looked, obj, member, same, by simpa using found⟩
    · cases found
  · intro given
    obtain ⟨key, looked, obj, member, same, found⟩ := given
    exact ⟨key, looked, obj, member, by simpa [same] using found⟩

/-- Which dynamic routes of a method are kept under a static prefix. -/
def Kept (router : Router Handler Callback) (method : Method) (key path : Bytes) : Prop :=
  Offers (bucket router.regexHandlersByPrefix (method, key)) method path ∨
    Offers (bucket router.regexCallbacksByPrefix (method, key)) method path

theorem offers_append {Target : Type} (left right : List (RouteObj Target)) (method : Method)
    (path : Bytes) :
    Offers (left ++ right) method path ↔ Offers left method path ∨ Offers right method path := by
  simp only [Offers, List.mem_append, or_and_right, exists_or]

theorem offers_added {Target : Type} (buckets : Buckets Target) (method other : Method)
    (pathPattern key path : Bytes) (pathRegex : List (Piece UInt8)) (target : Target) :
    Offers (bucket (addToBucket buckets method pathPattern pathRegex target) (other, key)) other path ↔
      Offers (bucket buckets (other, key)) other path ∨
        (method = other ∧ key = routeStaticPrefixFromPattern pathPattern ∧
          (regexMatch pathRegex path).isSome = true) := by
  rw [bucket_addToBucket, offers_append]
  apply or_congr_right
  by_cases same : (other, key) = (method, routeStaticPrefixFromPattern pathPattern)
  · obtain ⟨rfl, rfl⟩ := Prod.mk.inj same
    simp [Offers]
  · simp only [same, ↓reduceIte]
    apply Iff.intro
    · intro given
      obtain ⟨obj, member, _⟩ := given
      cases member
    · intro given
      obtain ⟨rfl, rfl, _⟩ := given
      exact absurd rfl same

theorem register_kept {router next : Router Handler Callback}
    {registration : Registration Handler Callback} (step : register router registration = some next)
    (method : Method) (key path : Bytes) :
    Kept next method key path ↔ Kept router method key path ∨
      ∃ pathPattern, registration.dynamic = some (method, pathPattern) ∧
        key = routeStaticPrefixFromPattern pathPattern ∧ patternMatches pathPattern path := by
  unfold Kept
  cases registration with
  | handler => cases step; simp [Registration.dynamic, Router.registerHandler]
  | callback => cases step; simp [Registration.dynamic, Router.registerCallback]
  | regexHandler registered pathPattern target =>
    obtain ⟨pathRegex, converted, rfl⟩ := Option.map_eq_some_iff.mp step
    simp only [offers_added, Registration.dynamic, Option.some.injEq, Prod.mk.injEq, patternMatches]
    apply Iff.intro
    · intro given
      rcases given with (old | ⟨rfl, rfl, found⟩) | old
      · exact Or.inl (Or.inl old)
      · exact Or.inr ⟨pathPattern, ⟨rfl, rfl⟩, rfl, pathRegex, converted, found⟩
      · exact Or.inl (Or.inr old)
    · intro given
      rcases given with (old | old) | ⟨_, ⟨rfl, rfl⟩, rfl, other, convertedAgain, found⟩
      · exact Or.inl (Or.inl old)
      · exact Or.inr old
      · obtain rfl := Option.some.inj (converted.symm.trans convertedAgain)
        exact Or.inl (Or.inr ⟨rfl, rfl, found⟩)
  | regexCallback registered pathPattern target =>
    obtain ⟨pathRegex, converted, rfl⟩ := Option.map_eq_some_iff.mp step
    simp only [offers_added, Registration.dynamic, Option.some.injEq, Prod.mk.injEq, patternMatches]
    apply Iff.intro
    · intro given
      rcases given with old | old | ⟨rfl, rfl, found⟩
      · exact Or.inl (Or.inl old)
      · exact Or.inl (Or.inr old)
      · exact Or.inr ⟨pathPattern, ⟨rfl, rfl⟩, rfl, pathRegex, converted, found⟩
    · intro given
      rcases given with (old | old) | ⟨_, ⟨rfl, rfl⟩, rfl, other, convertedAgain, found⟩
      · exact Or.inl old
      · exact Or.inr (Or.inl old)
      · obtain rfl := Option.some.inj (converted.symm.trans convertedAgain)
        exact Or.inr (Or.inr ⟨rfl, rfl, found⟩)

theorem registerAll_kept {router final : Router Handler Callback}
    {registrations : List (Registration Handler Callback)}
    (built : registerAll router registrations = some final) (method : Method) (key path : Bytes) :
    Kept final method key path ↔ Kept router method key path ∨
      ∃ registration ∈ registrations, ∃ pathPattern,
        registration.dynamic = some (method, pathPattern) ∧
        key = routeStaticPrefixFromPattern pathPattern ∧ patternMatches pathPattern path := by
  induction registrations generalizing router with
  | nil =>
    cases built
    simp
  | cons registration registrations ih =>
    obtain ⟨next, step, later⟩ := Option.bind_eq_some_iff.mp built
    rw [ih later, register_kept step]
    simp only [List.mem_cons, exists_eq_or_imp, or_assoc]

theorem register_exact {router next : Router Handler Callback}
    {registration : Registration Handler Callback} (step : register router registration = some next)
    {key : Method × Bytes} (other : registration.exactKey ≠ some key) :
    next.handlers.find key = router.handlers.find key ∧
      next.callbacks.find key = router.callbacks.find key := by
  cases registration with
  | handler method path target =>
    cases step
    have different : key ≠ (method, path) := fun same => other (by rw [same]; rfl)
    exact ⟨Dict.find_insert_of_ne _ _ _ _ different, rfl⟩
  | callback method path target =>
    cases step
    have different : key ≠ (method, path) := fun same => other (by rw [same]; rfl)
    exact ⟨rfl, Dict.find_insert_of_ne _ _ _ _ different⟩
  | regexHandler =>
    obtain ⟨_, _, rfl⟩ := Option.map_eq_some_iff.mp step
    exact ⟨rfl, rfl⟩
  | regexCallback =>
    obtain ⟨_, _, rfl⟩ := Option.map_eq_some_iff.mp step
    exact ⟨rfl, rfl⟩

theorem registerAll_exact {router final : Router Handler Callback}
    {registrations : List (Registration Handler Callback)}
    (built : registerAll router registrations = some final) {key : Method × Bytes}
    (others : ∀ registration ∈ registrations, registration.exactKey ≠ some key) :
    final.handlers.find key = router.handlers.find key ∧
      final.callbacks.find key = router.callbacks.find key := by
  induction registrations generalizing router with
  | nil =>
    cases built
    exact ⟨rfl, rfl⟩
  | cons registration registrations ih =>
    obtain ⟨next, step, later⟩ := Option.bind_eq_some_iff.mp built
    have first := register_exact step (others registration (by simp))
    have rest := ih later fun registration member => others registration (List.mem_cons_of_mem _ member)
    exact ⟨rest.1.trans first.1, rest.2.trans first.2⟩

/-- `route` finds the dynamic routes whose bucket is looked up, and no others. -/
theorem route_isSome {registrations : List (Registration Handler Callback)}
    {router : Router Handler Callback} (built : registerAll {} registrations = some router)
    (req : HttpRequest)
    (noExact : ∀ registration ∈ registrations, registration.exactKey ≠ some (req.method, req.path)) :
    (router.route req).isSome = true ↔
      ∃ registration ∈ registrations, ∃ pathPattern,
        registration.dynamic = some (req.method, pathPattern) ∧
        routeStaticPrefixFromPattern pathPattern ∈ pathPrefixesForLookup req.path ∧
        patternMatches pathPattern req.path := by
  obtain ⟨noHandler, noCallback⟩ := registerAll_exact built noExact
  have searched : (router.route req).isSome = true ↔
      ∃ key ∈ pathPrefixesForLookup req.path, Kept router req.method key req.path := by
    simp only [Kept, and_or_left, exists_or, ← searchBuckets_isSome, Router.route, noHandler,
      noCallback, Dict.find_empty]
    cases searchBuckets router.regexHandlersByPrefix req with
    | some found => simp
    | none => simp
  have nothing : ∀ key, ¬ Kept ({} : Router Handler Callback) req.method key req.path := by
    intro key given
    rcases given with ⟨obj, member, _⟩ | ⟨obj, member, _⟩ <;> cases member
  simp only [searched, registerAll_kept built, nothing, false_or]
  apply Iff.intro
  · intro given
    obtain ⟨_, looked, registration, member, pathPattern, dynamic, rfl, found⟩ := given
    exact ⟨registration, member, pathPattern, dynamic, looked, found⟩
  · intro given
    obtain ⟨registration, member, pathPattern, dynamic, looked, found⟩ := given
    exact ⟨_, looked, registration, member, pathPattern, dynamic, rfl, found⟩

/-- A registered dynamic route of this method whose expression matches the whole path. -/
def MatchingRoute (registrations : List (Registration Handler Callback)) (req : HttpRequest)
    (pathPattern : Bytes) : Prop :=
  (∃ registration ∈ registrations, registration.dynamic = some (req.method, pathPattern)) ∧
    patternMatches pathPattern req.path

def PlainRoutes (registrations : List (Registration Handler Callback)) : Prop :=
  ∀ registration ∈ registrations, ∀ method pathPattern,
    registration.dynamic = some (method, pathPattern) → Plain pathPattern

theorem route_found_iff {registrations : List (Registration Handler Callback)}
    {router : Router Handler Callback} (built : registerAll {} registrations = some router)
    (plain : PlainRoutes registrations) (req : HttpRequest)
    (noExact : ∀ registration ∈ registrations, registration.exactKey ≠ some (req.method, req.path)) :
    (router.route req).isSome = true ↔
      ∃ pathPattern, MatchingRoute registrations req pathPattern ∧ ¬ bytes "/:" <+: pathPattern := by
  rw [route_isSome built req noExact]
  apply Iff.intro
  · intro given
    obtain ⟨registration, member, pathPattern, dynamic, looked, found⟩ := given
    have fine := plain registration member _ _ dynamic
    obtain ⟨captures, matches_⟩ := (patternMatches_plain fine).mp found
    exact ⟨pathPattern, ⟨⟨registration, member, dynamic⟩, found⟩,
      (static_prefix_looked_up fine matches_).mp looked⟩
  · intro given
    obtain ⟨pathPattern, ⟨⟨registration, member, dynamic⟩, found⟩, later⟩ := given
    have fine := plain registration member _ _ dynamic
    obtain ⟨captures, matches_⟩ := (patternMatches_plain fine).mp found
    exact ⟨registration, member, pathPattern, dynamic,
      (static_prefix_looked_up fine matches_).mpr later, found⟩

/-- The buckets lose a request exactly when all the routes that match it begin with a parameter. -/
theorem bucketed_lookup_exact_iff {registrations : List (Registration Handler Callback)}
    {router : Router Handler Callback} (built : registerAll {} registrations = some router)
    (plain : PlainRoutes registrations) (req : HttpRequest)
    (noExact : ∀ registration ∈ registrations, registration.exactKey ≠ some (req.method, req.path)) :
    ((router.route req).isSome = true ↔
        ∃ pathPattern, MatchingRoute registrations req pathPattern) ↔
      ((∃ pathPattern, MatchingRoute registrations req pathPattern) →
        ∃ pathPattern, MatchingRoute registrations req pathPattern ∧
          ¬ bytes "/:" <+: pathPattern) := by
  rw [route_found_iff built plain req noExact]
  apply Iff.intro
  · exact fun linear => linear.mpr
  · intro kept
    exact ⟨fun ⟨pathPattern, matching, _⟩ => ⟨pathPattern, matching⟩, kept⟩

/-! One dynamic route for GET. -/

def oneRoute (pathPattern : Bytes) : List (Registration Unit Unit) :=
  [.regexHandler .kGet pathPattern ()]

def getRequest (path : Bytes) : HttpRequest := { method := .kGet, path := path }

theorem oneRoute_plain {pathPattern : Bytes} (plain : Plain pathPattern) :
    PlainRoutes (oneRoute pathPattern) := by
  intro registration member method other dynamic
  obtain rfl := List.mem_singleton.mp member
  cases dynamic
  exact plain

theorem oneRoute_noExact (pathPattern : Bytes) (key : Method × Bytes) :
    ∀ registration ∈ oneRoute pathPattern, registration.exactKey ≠ some key := by
  intro registration member
  obtain rfl := List.mem_singleton.mp member
  exact nofun

/-- `GET /abc` with the route `/:id`: the expression matches and `route` returns false. -/
theorem leading_param_lost :
    ¬ ∀ (registrations : List (Registration Unit Unit)) (router : Router Unit Unit),
      registerAll {} registrations = some router → PlainRoutes registrations →
      ∀ req : HttpRequest,
        (∀ registration ∈ registrations, registration.exactKey ≠ some (req.method, req.path)) →
        ((router.route req).isSome = true ↔
          ∃ pathPattern, MatchingRoute registrations req pathPattern) := by
  intro claimed
  have linear := claimed (oneRoute (bytes "/:id")) _ rfl (oneRoute_plain (by decide))
    (getRequest (bytes "/abc")) (oneRoute_noExact _ _)
  have matching : MatchingRoute (oneRoute (bytes "/:id")) (getRequest (bytes "/abc")) (bytes "/:id") :=
    ⟨⟨_, List.mem_singleton_self _, rfl⟩, _, rfl, by decide⟩
  have found := linear.mpr ⟨_, matching⟩
  revert found
  decide

theorem users_route_exact :
    ∃ router, registerAll {} (oneRoute (bytes "/users/:id")) = some router ∧
      (router.route (getRequest (bytes "/users/7"))).isSome = true ∧
      (((router.route (getRequest (bytes "/users/7"))).isSome = true ↔
          ∃ pathPattern, MatchingRoute (oneRoute (bytes "/users/:id"))
            (getRequest (bytes "/users/7")) pathPattern) ↔
        ((∃ pathPattern, MatchingRoute (oneRoute (bytes "/users/:id"))
            (getRequest (bytes "/users/7")) pathPattern) →
          ∃ pathPattern, MatchingRoute (oneRoute (bytes "/users/:id"))
            (getRequest (bytes "/users/7")) pathPattern ∧ ¬ bytes "/:" <+: pathPattern)) :=
  ⟨_, rfl, by decide,
    bucketed_lookup_exact_iff rfl (oneRoute_plain (by decide)) _ (oneRoute_noExact _ _)⟩

end Http.Routing
