import HttpServerApps.Http.HandleRequest
import HttpServerApps.Middleware.Interleaving

namespace Http.Middlewares

open Common

def allowCredentialsHeader : Bytes := bytes "Access-Control-Allow-Credentials"

/-- The origins that get an `Access-Control-Allow-Origin`. -/
def CorsConfig.Answers (config : CorsConfig) (origin : Bytes) : Prop :=
  origin ≠ [] ∧ (config.allowedOrigins = [] ∨ bytes "*" ∈ config.allowedOrigins ∨ origin ∈ config.allowedOrigins)

def CorsConfig.Wildcard (config : CorsConfig) : Prop :=
  bytes "*" ∈ config.allowedOrigins ∧ config.allowCredentials = false

instance wildcard_decidable (config : CorsConfig) : Decidable config.Wildcard := inferInstanceAs (Decidable (_ ∧ _))

/-- A response as handlers leave it: the CORS headers are the middleware's. -/
structure NoCors (resp : HttpResponse) : Prop where
  origin : resp.header allowOriginHeader = none
  credentials : resp.header allowCredentialsHeader = none

/-- Requests with this Origin through a chain of one CORS middleware, whatever earlier requests left in it. -/
structure CorsExchange (config : CorsConfig) (origin : Bytes) where
  cors : CorsMiddleware
  request : HttpRequest
  resp : HttpResponse
  route : HttpRequest → Throwing (CorsMiddleware × HttpResponse) Thrown Bool
  configured : cors.config = config
  header : request.getHeader (bytes "Origin") = origin

namespace CorsExchange

variable {config : CorsConfig} {origin : Bytes}

def entered (exchange : CorsExchange config origin) : CorsMiddleware := { exchange.cors with requestOrigin := origin }

def answer (exchange : CorsExchange config origin) : HttpResponse :=
  ((handleRequest [corsHooks] exchange.route exchange.request).run (exchange.cors, exchange.resp)).1.2

def Preflight (exchange : CorsExchange config origin) : Prop := exchange.request.method = .kOptions

/-- The routing returns such a response, so that `after` runs on it. -/
structure Ordinary (exchange : CorsExchange config origin) : Prop where
  method : exchange.request.method ≠ .kOptions
  routed : ∃ found left, NoCors left ∧
    (exchange.route exchange.request).run (exchange.entered, exchange.resp) = ((exchange.entered, left), .ok found)

/-- The routing throws, and the answer is such a response. -/
structure Failed (exchange : CorsExchange config origin) : Prop where
  method : exchange.request.method ≠ .kOptions
  threw : ∃ thrown left, NoCors (answerTo thrown left) ∧
    (exchange.route exchange.request).run (exchange.entered, exchange.resp) = ((exchange.entered, left), .error thrown)

end CorsExchange

/-- What the CORS middleware promises about the requests with this Origin. -/
structure PolicyEnforced (config : CorsConfig) (origin : Bytes) : Prop where
  agree : ∀ preflight ordinary : CorsExchange config origin, preflight.Preflight → ordinary.Ordinary → ∀ value,
    preflight.answer.statusCode = .k204NoContent ∧ preflight.answer.header allowOriginHeader = some value ↔
      ordinary.answer.header allowOriginHeader = some value
  refused : ∀ preflight ordinary : CorsExchange config origin, preflight.Preflight → ordinary.Ordinary →
    ordinary.answer.header allowOriginHeader = none →
      preflight.answer.statusCode = .k403Forbidden ∧ preflight.answer.header allowOriginHeader = none
  allowed : ∀ exchange : CorsExchange config origin, exchange.Preflight ∨ exchange.Ordinary ∨ exchange.Failed →
    exchange.answer.header allowOriginHeader ≠ none → config.Answers origin
  value : ∀ exchange : CorsExchange config origin, exchange.Preflight ∨ exchange.Ordinary ∨ exchange.Failed →
    ∀ value, exchange.answer.header allowOriginHeader = some value → value = bytes "*" ∨ value = origin
  credentials : ∀ exchange : CorsExchange config origin, exchange.Preflight ∨ exchange.Ordinary ∨ exchange.Failed →
    ¬ (exchange.answer.header allowOriginHeader = some (bytes "*") ∧
      exchange.answer.header allowCredentialsHeader = some (bytes "true"))

/-! The allow-list. -/

theorem resolveAllowOrigin_ne_nil (config : CorsConfig) (origin : Bytes) :
    config.resolveAllowOrigin origin ≠ [] ↔ config.Answers origin := by
  have star : bytes "*" ≠ [] := by decide
  unfold CorsConfig.resolveAllowOrigin CorsConfig.isOriginAllowed CorsConfig.Answers
  by_cases empty : origin = []
  · simp [empty]
  · by_cases none_ : config.allowedOrigins = []
    · simp [empty, none_]
    · by_cases any : bytes "*" ∈ config.allowedOrigins
      · cases config.allowCredentials <;> simp [empty, none_, any, star]
      · by_cases listed : origin ∈ config.allowedOrigins <;> simp [empty, none_, any, listed]

theorem resolveAllowOrigin_value {config : CorsConfig} {origin : Bytes} (answers : config.Answers origin) :
    config.resolveAllowOrigin origin = if config.Wildcard then bytes "*" else origin := by
  have resolved := (resolveAllowOrigin_ne_nil config origin).mpr answers
  have passed : ¬ (origin = [] ∨ config.isOriginAllowed origin = false) := by
    intro refused
    apply resolved
    unfold CorsConfig.resolveAllowOrigin
    rw [if_pos refused]
  have wildcard : config.Wildcard ↔
      config.allowedOrigins.contains (bytes "*") = true ∧ config.allowCredentials = false := by
    rw [List.contains_iff_mem]
    rfl
  unfold CorsConfig.resolveAllowOrigin
  rw [if_neg passed]
  by_cases any : config.Wildcard
  · rw [if_pos any, if_pos (wildcard.mp any)]
  · rw [if_neg any, if_neg fun both => any (wildcard.mpr both)]

theorem resolveAllowOrigin_star {config : CorsConfig} {origin : Bytes} (answers : config.Answers origin) :
    config.resolveAllowOrigin origin = bytes "*" ↔ config.Wildcard ∨ origin = bytes "*" := by
  rw [resolveAllowOrigin_value answers]
  by_cases any : config.Wildcard
  · simp only [any, ↓reduceIte, true_or]
  · simp only [any, ↓reduceIte, false_or]

/-! The headers of each answer. -/

theorem addCorsHeaders_credentials (config : CorsConfig) (response : HttpResponse) (origin : Bytes) :
    (config.addCorsHeaders response origin).header allowCredentialsHeader =
      if config.allowCredentials then some (bytes "true") else response.header allowCredentialsHeader := by
  have allowOrigin : allowCredentialsHeader ≠ allowOriginHeader := by decide
  have methods : allowCredentialsHeader ≠ bytes "Access-Control-Allow-Methods" := by decide
  have headers : allowCredentialsHeader ≠ bytes "Access-Control-Allow-Headers" := by decide
  have maxAge : allowCredentialsHeader ≠ bytes "Access-Control-Max-Age" := by decide
  unfold CorsConfig.addCorsHeaders
  simp only [HttpResponse.header_addHeader_of_ne _ _ _ _ maxAge]
  cases config.allowCredentials <;> split <;> split <;>
    simp only [HttpResponse.header_addHeader, methods, headers, allowOrigin, ↓reduceIte, Bool.false_eq_true]
  all_goals rfl

theorem decorate_credentials (config : CorsConfig) (requestOrigin : Bytes) (response : HttpResponse) :
    (config.decorate requestOrigin response).header allowCredentialsHeader =
      if config.resolveAllowOrigin requestOrigin ≠ [] ∧ config.allowCredentials then some (bytes "true")
      else response.header allowCredentialsHeader := by
  have vary : allowCredentialsHeader ≠ bytes "Vary" := by decide
  unfold CorsConfig.decorate
  dsimp only
  by_cases unresolved : config.resolveAllowOrigin requestOrigin = []
  · simp only [unresolved, ↓reduceIte, ne_eq, not_true_eq_false, false_and]
  · simp only [unresolved, ↓reduceIte, ne_eq, not_false_eq_true, true_and]
    split
    · rw [HttpResponse.header_addHeader_of_ne _ _ _ _ vary, addCorsHeaders_credentials]
    · rw [addCorsHeaders_credentials]

/-- The two hand-written paths put the same headers on a response. -/
theorem handlePreflightRequest_eq (config : CorsConfig) (request : HttpRequest) (response : HttpResponse) :
    config.handlePreflightRequest request response =
      (config.decorate (request.getHeader (bytes "Origin")) response).setStatusCode
        (if config.resolveAllowOrigin (request.getHeader (bytes "Origin")) = [] then .k403Forbidden
        else .k204NoContent) := by
  unfold CorsConfig.handlePreflightRequest CorsConfig.decorate
  dsimp only
  split <;> rfl

theorem before_preflight_request (cors : CorsMiddleware) (request : HttpRequest)
    (preflight : request.method = .kOptions) :
    (processBefore [corsHooks] request).run cors =
      ({ cors with requestOrigin := request.getHeader (bytes "Origin") },
        .error (.response (cors.config.handlePreflightRequest request {}))) := by
  unfold processBefore corsHooks CorsMiddleware.before
  simp only [preflight, ↓reduceIte]
  rfl

namespace CorsExchange

variable {config : CorsConfig} {origin : Bytes} {exchange : CorsExchange config origin}

theorem before_run (ordinary : exchange.request.method ≠ .kOptions) :
    (processBefore [corsHooks] exchange.request).run exchange.cors = (exchange.entered, .ok exchange.request) := by
  rw [before_ordinary _ _ ordinary, exchange.header]
  rfl

theorem answer_preflight (preflight : exchange.Preflight) :
    exchange.answer = (config.decorate origin {}).setStatusCode
      (if config.resolveAllowOrigin origin = [] then .k403Forbidden else .k204NoContent) := by
  unfold answer
  rw [handleRequest_thrown (before_preflight_request _ _ preflight), handlePreflightRequest_eq, exchange.configured,
    exchange.header]
  rfl

theorem answer_ordinary (ordinary : exchange.Ordinary) :
    ∃ resp, NoCors resp ∧ exchange.answer = config.decorate origin resp := by
  rcases ordinary.routed with ⟨found, left, bare, handled⟩
  refine ⟨found404 found left, ?_, ?_⟩
  · cases found with
    | true => exact bare
    | false => exact ⟨bare.origin, bare.credentials⟩
  · unfold answer
    rw [handleRequest_routed (before_run ordinary.method) handled (after_decorates _ _)]
    show exchange.cors.config.decorate origin (found404 found left) = _
    rw [exchange.configured]

theorem answer_failed (failed : exchange.Failed) : NoCors exchange.answer := by
  rcases failed.threw with ⟨thrown, left, bare, threw⟩
  unfold answer
  rw [handleRequest_threw (before_run failed.method) threw]
  exact bare

/-- Every answer has no CORS header at all, or those of the origin that is resolved. -/
theorem answer_headers (kind : exchange.Preflight ∨ exchange.Ordinary ∨ exchange.Failed) :
    exchange.answer.header allowOriginHeader = none ∨
      config.resolveAllowOrigin origin ≠ [] ∧
      exchange.answer.header allowOriginHeader = some (config.resolveAllowOrigin origin) ∧
      exchange.answer.header allowCredentialsHeader =
        if config.allowCredentials then some (bytes "true") else none := by
  have decorated : ∀ resp, NoCors resp →
      (config.decorate origin resp).header allowOriginHeader = none ∨
        config.resolveAllowOrigin origin ≠ [] ∧
        (config.decorate origin resp).header allowOriginHeader = some (config.resolveAllowOrigin origin) ∧
        (config.decorate origin resp).header allowCredentialsHeader =
          if config.allowCredentials then some (bytes "true") else none := by
    intro resp bare
    rw [decorate_allowOrigin, decorate_credentials, bare.origin, bare.credentials]
    by_cases unresolved : config.resolveAllowOrigin origin = []
    · simp [unresolved]
    · simp [unresolved]
  rcases kind with preflight | ordinary | failed
  · rw [answer_preflight preflight]
    exact decorated {} ⟨rfl, rfl⟩
  · rcases answer_ordinary ordinary with ⟨resp, bare, same⟩
    rw [same]
    exact decorated resp bare
  · exact Or.inl (answer_failed failed).origin

theorem answer_ordinary_allowOrigin (ordinary : exchange.Ordinary) :
    exchange.answer.header allowOriginHeader = config.allowOrigin origin := by
  rcases answer_ordinary ordinary with ⟨resp, bare, same⟩
  rw [same, decorate_allowOrigin, bare.origin]
  rfl

theorem answer_preflight_allowOrigin (preflight : exchange.Preflight) :
    exchange.answer.header allowOriginHeader = config.allowOrigin origin := by
  rw [answer_preflight preflight]
  exact decorate_allowOrigin config origin {}

theorem agree_value {preflight ordinary : CorsExchange config origin} (first : preflight.Preflight)
    (second : ordinary.Ordinary) (value : Bytes) :
    preflight.answer.statusCode = .k204NoContent ∧ preflight.answer.header allowOriginHeader = some value ↔
      ordinary.answer.header allowOriginHeader = some value := by
  rw [answer_preflight_allowOrigin first, answer_ordinary_allowOrigin second, answer_preflight first]
  apply Iff.intro
  · exact And.right
  · intro sent
    have resolved : config.resolveAllowOrigin origin ≠ [] := by
      intro unresolved
      rw [CorsConfig.allowOrigin, if_pos unresolved] at sent
      cases sent
    exact ⟨if_neg resolved, sent⟩

theorem agree_refused {preflight ordinary : CorsExchange config origin} (first : preflight.Preflight)
    (second : ordinary.Ordinary) (absent : ordinary.answer.header allowOriginHeader = none) :
    preflight.answer.statusCode = .k403Forbidden ∧ preflight.answer.header allowOriginHeader = none := by
  rw [answer_ordinary_allowOrigin second] at absent
  rw [answer_preflight_allowOrigin first, answer_preflight first]
  have unresolved : config.resolveAllowOrigin origin = [] := by
    by_contra resolved
    rw [CorsConfig.allowOrigin, if_neg resolved] at absent
    cases absent
  exact ⟨if_pos unresolved, absent⟩

theorem answers_of_sent (kind : exchange.Preflight ∨ exchange.Ordinary ∨ exchange.Failed)
    (present : exchange.answer.header allowOriginHeader ≠ none) : config.Answers origin := by
  rcases answer_headers kind with none_ | ⟨resolved, _⟩
  · exact absurd none_ present
  · exact (resolveAllowOrigin_ne_nil config origin).mp resolved

theorem value_of_sent (kind : exchange.Preflight ∨ exchange.Ordinary ∨ exchange.Failed) {value : Bytes}
    (present : exchange.answer.header allowOriginHeader = some value) : value = bytes "*" ∨ value = origin := by
  rcases answer_headers kind with none_ | ⟨resolved, header, _⟩
  · rw [none_] at present
    cases present
  · rw [header, resolveAllowOrigin_value ((resolveAllowOrigin_ne_nil config origin).mp resolved)] at present
    cases present
    split
    · exact Or.inl rfl
    · exact Or.inr rfl

/-- The star goes out with the credentials only as the echo of an Origin that is itself the star. -/
theorem literal_star (kind : exchange.Preflight ∨ exchange.Ordinary ∨ exchange.Failed)
    (star : exchange.answer.header allowOriginHeader = some (bytes "*"))
    (credentials : exchange.answer.header allowCredentialsHeader = some (bytes "true")) :
    config.allowCredentials = true ∧ origin = bytes "*" ∧
      (config.allowedOrigins = [] ∨ bytes "*" ∈ config.allowedOrigins) := by
  rcases answer_headers kind with none_ | ⟨resolved, header, given⟩
  · rw [none_] at star
    cases star
  · have allowed : config.allowCredentials = true := by
      by_contra denied
      rw [given, if_neg denied] at credentials
      cases credentials
    have answers := (resolveAllowOrigin_ne_nil config origin).mp resolved
    have named : ¬ config.Wildcard := fun wildcard => absurd (allowed.symm.trans wildcard.2) (by decide)
    rw [header, resolveAllowOrigin_value answers, if_neg named] at star
    have literal : origin = bytes "*" := Option.some.inj star
    subst literal
    have listed := answers.2
    rw [or_self] at listed
    exact ⟨allowed, rfl, listed⟩

theorem preflight_star {exchange : CorsExchange config (bytes "*")} (preflight : exchange.Preflight)
    (credentials : config.allowCredentials = true)
    (any : config.allowedOrigins = [] ∨ bytes "*" ∈ config.allowedOrigins) :
    exchange.answer.header allowOriginHeader = some (bytes "*") ∧
      exchange.answer.header allowCredentialsHeader = some (bytes "true") := by
  have answers : config.Answers (bytes "*") := ⟨by decide, any.imp_right Or.inl⟩
  have resolved := (resolveAllowOrigin_ne_nil config _).mpr answers
  have value := (resolveAllowOrigin_star answers).mpr (Or.inr rfl)
  rw [answer_preflight preflight]
  apply And.intro
  · show (config.decorate _ _).header _ = _
    rw [decorate_allowOrigin, if_neg resolved, value]
  · show (config.decorate _ _).header _ = _
    rw [decorate_credentials, if_pos ⟨resolved, credentials⟩]

/-- A preflight with this Origin, the first request that the chain sees. -/
def preflightOf (config : CorsConfig) (origin : Bytes) : CorsExchange config origin where
  cors := ⟨config, []⟩
  request := { method := .kOptions, headers := Dict.empty.insert (bytes "origin") origin }
  resp := {}
  route _ := pure false
  configured := rfl
  header := by
    have lower : toLowerAsciiInPlace (bytes "Origin") = bytes "origin" := by decide
    unfold HttpRequest.getHeader
    rw [lower, Dict.find_insert_self]
    rfl

end CorsExchange

/-- The promise is kept for exactly the origins other than a literal star that is allowed with credentials. -/
theorem policy_enforced_iff (config : CorsConfig) (origin : Bytes) :
    PolicyEnforced config origin ↔
      ¬ (config.allowCredentials = true ∧ origin = bytes "*" ∧
        (config.allowedOrigins = [] ∨ bytes "*" ∈ config.allowedOrigins)) := by
  apply Iff.intro
  · intro enforced violated
    rcases violated with ⟨credentials, rfl, any⟩
    have preflight : (CorsExchange.preflightOf config (bytes "*")).Preflight := rfl
    exact enforced.credentials _ (Or.inl preflight) (CorsExchange.preflight_star preflight credentials any)
  · intro holds
    apply PolicyEnforced.mk
    · intro preflight ordinary first second value
      exact CorsExchange.agree_value first second value
    · intro preflight ordinary first second absent
      exact CorsExchange.agree_refused first second absent
    · intro exchange kind present
      exact CorsExchange.answers_of_sent kind present
    · intro exchange kind value present
      exact CorsExchange.value_of_sent kind present
    · intro exchange kind both
      exact holds (CorsExchange.literal_star kind both.1 both.2)

def openWithCredentials : CorsConfig := { allowCredentials := true }

/-- A preflight with the Origin `*` gets the star together with the credentials. -/
theorem star_with_credentials :
    ¬ ∀ (config : CorsConfig) (origin : Bytes), PolicyEnforced config origin := by
  intro claimed
  apply (claimed openWithCredentials (bytes "*")).credentials (CorsExchange.preflightOf _ _) (Or.inl rfl)
  exact ⟨by decide, by decide⟩

end Http.Middlewares
