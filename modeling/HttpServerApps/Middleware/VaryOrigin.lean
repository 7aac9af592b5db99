import HttpServerApps.Middleware.CorsPolicy

namespace Http.Middlewares

open Common

def varyHeader : Bytes := bytes "Vary"

/-- The response when no middleware has touched it. -/
def undecorated : HttpResponse × Except Thrown Bool → HttpResponse
  | (given, .ok found) => found404 found given
  | (given, .error thrown) => answerTo thrown given

/-- What the routing does depends on the request alone. -/
structure DeterministicRoute where
  handle : HttpRequest → HttpResponse → HttpResponse × Except Thrown Bool

def DeterministicRoute.route (routed : DeterministicRoute) (req : HttpRequest) :
    Throwing (CorsMiddleware × HttpResponse) Thrown Bool := ⟨fun (cors, resp) =>
  let (given, outcome) := routed.handle req resp
  ((cors, given), outcome)⟩

/-- Two ordinary requests that are the same but for the Origin header. -/
structure OriginPair where
  request : Bool → HttpRequest
  ordinary : ∀ run, (request run).method ≠ .kOptions
  sameRest : { request true with headers := (request false).headers } = request false
  sameHeaders : ∀ name, name ≠ bytes "origin" →
    (request true).headers.find name = (request false).headers.find name

section

variable (config : CorsConfig) (routed : DeterministicRoute) (pair : OriginPair) (requestOrigin : Bytes)

def OriginPair.handled (run : Bool) : HttpResponse × Except Thrown Bool :=
  routed.handle (pair.request run) { closeConnection := wantsClose (pair.request run) }

/-- The response to one of the two requests; `requestOrigin` is what earlier requests left in the object. -/
def OriginPair.answer (run : Bool) : HttpResponse :=
  ((handleRequest [corsHooks] routed.route (pair.request run)).run
    (⟨config, requestOrigin⟩, { closeConnection := wantsClose (pair.request run) })).1.2

/-- Two responses with different allowed origins, none of them the star, both announce that they vary. -/
def OriginPair.VaryAnnounced : Prop :=
  (pair.answer config routed requestOrigin true).header allowOriginHeader ≠
    (pair.answer config routed requestOrigin false).header allowOriginHeader →
  (∀ run, (pair.answer config routed requestOrigin run).header allowOriginHeader ≠ some (bytes "*")) →
    ∀ run, (pair.answer config routed requestOrigin run).header varyHeader = some (bytes "Origin")

def OriginPair.origin (run : Bool) : Bytes := (pair.request run).getHeader (bytes "Origin")

/-- The run gets to `after`, and its origin is one that is answered. -/
def OriginPair.Allowed (run : Bool) : Prop :=
  (∃ found, (pair.handled routed run).2 = .ok found) ∧ config.Answers (pair.origin run)

/-- What the routing itself sends as the allowed origin, which the handlers of the applications never do. -/
def OriginPair.ownOrigin (run : Bool) : Option Bytes :=
  (undecorated (pair.handled routed run)).header allowOriginHeader

/-- The response names an origin that the routing of the other one does not: its own, or one that its routing sets. -/
inductive OriginPair.Names (run : Bool) : Prop
  | echoed (allowed : pair.Allowed config routed run) (named : ¬ (config.Wildcard ∨ pair.origin run = bytes "*"))
      (other : pair.ownOrigin routed (!run) ≠ some (pair.origin run))
  | routed (kept : ¬ pair.Allowed config routed run) (named : pair.ownOrigin routed run ≠ some (bytes "*"))
      (other : pair.ownOrigin routed (!run) ≠ pair.ownOrigin routed run)

/-- One response names an origin; the other leaves the routing as it is sent, and does not vary of itself. -/
structure OriginPair.OneSided (run : Bool) : Prop where
  names : pair.Names config routed run
  kept : ¬ pair.Allowed config routed !run
  noStar : pair.ownOrigin routed (!run) ≠ some (bytes "*")
  silent : (undecorated (pair.handled routed !run)).header varyHeader ≠ some (bytes "Origin")

end

theorem decorate_vary (config : CorsConfig) (requestOrigin : Bytes) (response : HttpResponse)
    (answers : config.Answers requestOrigin) (named : ¬ (config.Wildcard ∨ requestOrigin = bytes "*")) :
    (config.decorate requestOrigin response).header varyHeader = some (bytes "Origin") := by
  have resolved := (resolveAllowOrigin_ne_nil config requestOrigin).mpr answers
  have star := (resolveAllowOrigin_star answers).not.mpr named
  unfold CorsConfig.decorate
  dsimp only
  rw [if_neg resolved, if_pos star, HttpResponse.header_addHeader]
  rfl

namespace OriginPair

variable {config : CorsConfig} {routed : DeterministicRoute} {pair : OriginPair} {requestOrigin : Bytes} {run : Bool}

theorem before_run : (processBefore [corsHooks] (pair.request run)).run ⟨config, requestOrigin⟩ =
    (⟨config, pair.origin run⟩, .ok (pair.request run)) :=
  before_ordinary _ _ (pair.ordinary run)

theorem route_run (cors : CorsMiddleware) (run : Bool) :
    (routed.route (pair.request run)).run (cors, { closeConnection := wantsClose (pair.request run) }) =
      ((cors, (pair.handled routed run).1), (pair.handled routed run).2) := rfl

theorem answer_of_not_allowed (kept : ¬ pair.Allowed config routed run) :
    pair.answer config routed requestOrigin run = undecorated (pair.handled routed run) := by
  have handled := @route_run routed pair ⟨config, pair.origin run⟩ run
  unfold answer
  cases ended : pair.handled routed run with
  | mk given outcome =>
    rw [ended] at handled
    cases outcome with
    | error thrown =>
      rw [handleRequest_threw before_run handled]
      rfl
    | ok found =>
      have unresolved : config.resolveAllowOrigin (pair.origin run) = [] := by
        by_contra resolved
        exact kept ⟨⟨found, by rw [ended]⟩, (resolveAllowOrigin_ne_nil config _).mp resolved⟩
      rw [handleRequest_routed before_run handled (after_decorates _ _)]
      unfold CorsConfig.decorate
      dsimp only
      rw [if_pos unresolved]
      rfl

theorem answer_of_allowed (allowed : pair.Allowed config routed run) :
    pair.answer config routed requestOrigin run =
      config.decorate (pair.origin run) (undecorated (pair.handled routed run)) := by
  have handled := @route_run routed pair ⟨config, pair.origin run⟩ run
  rcases allowed.1 with ⟨found, returned⟩
  unfold answer
  cases ended : pair.handled routed run with
  | mk given outcome =>
    rw [ended] at handled returned
    cases returned
    rw [handleRequest_routed before_run handled (after_decorates _ _)]
    rfl

theorem allowOrigin_of_allowed (allowed : pair.Allowed config routed run) :
    (pair.answer config routed requestOrigin run).header allowOriginHeader =
      some (config.resolveAllowOrigin (pair.origin run)) := by
  rw [answer_of_allowed allowed, decorate_allowOrigin, if_neg ((resolveAllowOrigin_ne_nil config _).mpr allowed.2)]

theorem allowOrigin_of_not_allowed (kept : ¬ pair.Allowed config routed run) :
    (pair.answer config routed requestOrigin run).header allowOriginHeader = pair.ownOrigin routed run := by
  rw [answer_of_not_allowed kept]
  rfl

theorem vary_of_named (allowed : pair.Allowed config routed run)
    (named : ¬ (config.Wildcard ∨ pair.origin run = bytes "*")) :
    (pair.answer config routed requestOrigin run).header varyHeader = some (bytes "Origin") := by
  rw [answer_of_allowed allowed]
  exact decorate_vary _ _ _ allowed.2 named

theorem star_of_allowed (allowed : pair.Allowed config routed run) :
    (pair.answer config routed requestOrigin run).header allowOriginHeader = some (bytes "*") ↔
      config.Wildcard ∨ pair.origin run = bytes "*" := by
  rw [allowOrigin_of_allowed allowed, Option.some.injEq, resolveAllowOrigin_star allowed.2]

theorem differ_iff (run : Bool) :
    (pair.answer config routed requestOrigin run).header allowOriginHeader ≠
        (pair.answer config routed requestOrigin !run).header allowOriginHeader ↔
      (pair.answer config routed requestOrigin true).header allowOriginHeader ≠
        (pair.answer config routed requestOrigin false).header allowOriginHeader := by
  cases run with
  | true => exact Iff.rfl
  | false => exact ne_comm

theorem allowOrigin_of_named (allowed : pair.Allowed config routed run)
    (named : ¬ (config.Wildcard ∨ pair.origin run = bytes "*")) :
    (pair.answer config routed requestOrigin run).header allowOriginHeader = some (pair.origin run) := by
  rw [allowOrigin_of_allowed allowed, resolveAllowOrigin_value allowed.2, if_neg (not_or.mp named).1]

/-- The response of a run that names an origin has it, and no star, and the other response another one. -/
theorem Names.answer (names : pair.Names config routed run) (kept : ¬ pair.Allowed config routed !run) :
    (pair.answer config routed requestOrigin run).header allowOriginHeader ≠ some (bytes "*") ∧
      (pair.answer config routed requestOrigin run).header allowOriginHeader ≠
        (pair.answer config routed requestOrigin !run).header allowOriginHeader := by
  rw [allowOrigin_of_not_allowed kept]
  cases names with
  | echoed allowed named other =>
    refine ⟨(star_of_allowed allowed).not.mpr named, ?_⟩
    rw [allowOrigin_of_named allowed named]
    exact other.symm
  | routed passed named other =>
    rw [allowOrigin_of_not_allowed passed]
    exact ⟨named, other.symm⟩

/-- The silent response goes into a cache, from where it answers the named origin. -/
theorem not_announced (oneSided : pair.OneSided config routed run) :
    ¬ pair.VaryAnnounced config routed requestOrigin := by
  have kept := oneSided.kept
  rcases @Names.answer _ _ _ requestOrigin _ oneSided.names kept with ⟨star, differ⟩
  intro announced
  apply oneSided.silent
  rw [← @answer_of_not_allowed _ _ _ requestOrigin _ kept]
  apply announced
  · exact (differ_iff run).mp differ
  · intro other
    rcases Bool.eq_or_eq_not other run with rfl | rfl
    · exact star
    · rw [allowOrigin_of_not_allowed kept]
      exact oneSided.noStar

/-- Conversely a response that differs from one which is kept and has no star names its origin. -/
theorem names_of_differ (kept : ¬ pair.Allowed config routed !run)
    (star : (pair.answer config routed requestOrigin run).header allowOriginHeader ≠ some (bytes "*"))
    (differ : (pair.answer config routed requestOrigin run).header allowOriginHeader ≠
      (pair.answer config routed requestOrigin !run).header allowOriginHeader) : pair.Names config routed run := by
  rw [allowOrigin_of_not_allowed kept] at differ
  by_cases allowed : pair.Allowed config routed run
  · have named := (star_of_allowed allowed).not.mp star
    rw [allowOrigin_of_named allowed named] at differ
    exact .echoed allowed named differ.symm
  · rw [allowOrigin_of_not_allowed allowed] at star differ
    exact .routed allowed star differ.symm

/-- Where the routing sets no allowed origin, one Origin is answered by its name and the other not at all. -/
theorem oneSided_unset (unset : ∀ run, pair.ownOrigin routed run = none) :
    pair.OneSided config routed run ↔
      pair.Allowed config routed run ∧ ¬ pair.Allowed config routed (!run) ∧
        ¬ (config.Wildcard ∨ pair.origin run = bytes "*") ∧
        (undecorated (pair.handled routed !run)).header varyHeader ≠ some (bytes "Origin") := by
  apply Iff.intro
  · intro oneSided
    cases oneSided.names with
    | echoed allowed named _ => exact ⟨allowed, oneSided.kept, named, oneSided.silent⟩
    | routed _ _ other => exact absurd ((unset _).trans (unset _).symm) other
  · intro both
    rcases both with ⟨allowed, kept, named, silent⟩
    have other : pair.ownOrigin routed (!run) ≠ some (pair.origin run) := by
      rw [unset]
      exact (Option.some_ne_none _).symm
    have noStar : pair.ownOrigin routed (!run) ≠ some (bytes "*") := by
      rw [unset]
      exact (Option.some_ne_none _).symm
    exact ⟨.echoed allowed named other, kept, noStar, silent⟩

end OriginPair

/-- The responses announce that they vary unless one origin is named and the other is passed over in silence. -/
theorem vary_announced_iff (config : CorsConfig) (routed : DeterministicRoute) (pair : OriginPair)
    (requestOrigin : Bytes) :
    pair.VaryAnnounced config routed requestOrigin ↔ ∀ run, ¬ pair.OneSided config routed run := by
  apply Iff.intro
  · intro announced run oneSided
    exact OriginPair.not_announced oneSided announced
  · intro holds differ noStar run
    by_cases allowed : pair.Allowed config routed run
    · exact OriginPair.vary_of_named allowed ((OriginPair.star_of_allowed allowed).not.mp (noStar run))
    · by_contra silent
      have twice : (!!run) = run := Bool.not_not run
      have kept : ¬ pair.Allowed config routed !!run := twice.symm ▸ allowed
      have differs := (OriginPair.differ_iff !run).mpr differ
      have star := noStar !!run
      rw [OriginPair.allowOrigin_of_not_allowed kept] at star
      rw [← twice, OriginPair.answer_of_not_allowed kept] at silent
      exact holds (!run) ⟨OriginPair.names_of_differ kept (noStar !run) differs, kept, star, silent⟩

/-! One listed origin, and the same request from there and from nowhere. -/

def listed : CorsConfig := { allowedOrigins := [bytes "https://a.example"] }

def page : DeterministicRoute where
  handle _ resp := (resp.setStatusCode .k200Ok, .ok true)

def namedAndAbsent : OriginPair where
  request run :=
    if run then { method := .kGet, headers := Dict.empty.insert (bytes "origin") (bytes "https://a.example") }
    else { method := .kGet }
  ordinary run := by cases run <;> decide
  sameRest := rfl
  sameHeaders name other := Dict.find_insert_of_ne _ _ _ _ other

/-- The answer without the header may be cached and served to the listed origin. -/
theorem silent_answer_cacheable :
    ¬ ∀ (config : CorsConfig) (routed : DeterministicRoute) (pair : OriginPair) (requestOrigin : Bytes),
      pair.VaryAnnounced config routed requestOrigin := by
  intro claimed
  have silent : (namedAndAbsent.answer listed page [] false).header varyHeader ≠ some (bytes "Origin") := by decide
  apply silent
  apply claimed
  · decide
  · intro run
    cases run with
    | true => decide
    | false => decide

end Http.Middlewares
