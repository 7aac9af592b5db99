import HttpServerApps.Common.Runs
import HttpServerApps.Http.HandleRequest
import HttpServerApps.Middleware.Cors

namespace Http.Middlewares

open Common

structure OrdinaryRequest where
  request : HttpRequest
  ordinary : request.method ≠ .kOptions

def OrdinaryRequest.origin (req : OrdinaryRequest) : Bytes := req.request.getHeader (bytes "Origin")

/-- The routed handler of a request, which returns false when no route is found and may throw; no
    handler sets the CORS header itself. -/
structure RouteHandler where
  handle : HttpRequest → Throwing HttpResponse Thrown Bool
  silent : ∀ req resp, ((handle req).run resp).1.header allowOriginHeader = resp.header allowOriginHeader
  silentThrow : ∀ req resp sent, ((handle req).run resp).2 = .error (.response sent) →
    sent.header allowOriginHeader = none

inductive Phase where
  | waiting
  | entered (mutableReq : HttpRequest)
  | handled (resp : HttpResponse)
  | answered (resp : HttpResponse)

inductive HookStep (Request : Type) where
  | before (id : Request)
  | handler (id : Request)
  | after (id : Request)

/-- The requests in progress, and the one middleware object they share. -/
structure Serving (Request : Type) where
  cors : CorsMiddleware
  phase : Request → Phase

section

variable {Request : Type} [DecidableEq Request]

def Serving.setPhase (state : Serving Request) (id : Request) (phase : Phase) : Serving Request :=
  { state with phase := fun other => if other = id then phase else state.phase other }

variable (requests : Request → OrdinaryRequest) (routed : Request → RouteHandler)

/-- What the handler of a request makes of the response that `onRequest` gives it. -/
def handlerOutcome (id : Request) (mutableReq : HttpRequest) : HttpResponse × Except Thrown Bool :=
  ((routed id).handle mutableReq).run { closeConnection := wantsClose (requests id).request }

/-- The hooks hold the chain's lock shared, so the steps of different requests interleave freely. -/
def hookStep (state : Serving Request) : HookStep Request → Option (Serving Request)
  | .before id =>
    match state.phase id, (processBefore [corsHooks] (requests id).request).run state.cors with
    | .waiting, (cors, .ok mutableReq) => some ({ state with cors := cors }.setPhase id (.entered mutableReq))
    | _, _ => none
  | .handler id =>
    match state.phase id with
    | .entered mutableReq =>
      match handlerOutcome requests routed id mutableReq with
      | (resp, .ok found) => some (state.setPhase id (.handled (found404 found resp)))
      -- the `catch` of `handleRequest`: `processAfter` never runs for this request
      | (resp, .error thrown) => some (state.setPhase id (.answered (answerTo thrown resp)))
    | _ => none
  | .after id =>
    match state.phase id with
    | .handled resp =>
      let ((cors, resp), _) := (processAfter [corsHooks]).run (state.cors, resp)
      some ({ state with cors := cors }.setPhase id (.answered resp))
    | _ => none

def serving : System (Serving Request) (HookStep Request) := ⟨hookStep requests routed⟩

def Serving.start (config : CorsConfig) : Serving Request := ⟨⟨config, []⟩, fun _ => .waiting⟩

def CorsConfig.allowOrigin (config : CorsConfig) (origin : Bytes) : Option Bytes :=
  if config.resolveAllowOrigin origin = [] then none else some (config.resolveAllowOrigin origin)

/-- Every answered request carries the header of its own origin. -/
def OwnOrigin (config : CorsConfig) (state : Serving Request) : Prop :=
  ∀ id resp, state.phase id = .answered resp →
    resp.header allowOriginHeader = config.allowOrigin (requests id).origin

/-- When `after` runs for a request, the shared member still resolves as the request's own origin;
    a handler throws only where that origin resolves to nothing. -/
def OriginKept (config : CorsConfig) (state : Serving Request) : HookStep Request → Prop
  | .before _ => True
  | .handler id => ∀ mutableReq resp thrown, state.phase id = .entered mutableReq →
    handlerOutcome requests routed id mutableReq = (resp, .error thrown) →
    config.resolveAllowOrigin (requests id).origin = []
  | .after id =>
    config.resolveAllowOrigin state.cors.requestOrigin = config.resolveAllowOrigin (requests id).origin

/-- The config never changes, and only `after` sets the header. -/
structure Undecorated (config : CorsConfig) (state : Serving Request) : Prop where
  config : state.cors.config = config
  bare : ∀ id resp, state.phase id = .handled resp → resp.header allowOriginHeader = none

variable {requests routed}

omit [DecidableEq Request] in
theorem CorsConfig.allowOrigin_inj (config : CorsConfig) (left right : Bytes) :
    config.allowOrigin left = config.allowOrigin right ↔
      config.resolveAllowOrigin left = config.resolveAllowOrigin right := by
  unfold CorsConfig.allowOrigin
  by_cases first : config.resolveAllowOrigin left = []
  · by_cases second : config.resolveAllowOrigin right = []
    · simp [first, second]
    · simp [first, second, Ne.symm second]
  · by_cases second : config.resolveAllowOrigin right = []
    · simp [first, second]
    · simp [first, second]

omit [DecidableEq Request] in
theorem CorsConfig.allowOrigin_eq_none (config : CorsConfig) (origin : Bytes) :
    config.allowOrigin origin = none ↔ config.resolveAllowOrigin origin = [] := by
  unfold CorsConfig.allowOrigin
  split <;> simp_all

theorem setPhase_self (state : Serving Request) (id : Request) (phase : Phase) :
    (state.setPhase id phase).phase id = phase := by simp [Serving.setPhase]

theorem setPhase_of_ne (state : Serving Request) {id other : Request} (phase : Phase)
    (different : other ≠ id) : (state.setPhase id phase).phase other = state.phase other := by
  simp [Serving.setPhase, different]

/-! What each step does. -/

theorem before_step {state next : Serving Request} {id : Request}
    (step : hookStep requests routed state (.before id) = some next) :
    ∃ mutableReq, next = { state with
      cors := { state.cors with requestOrigin := (requests id).origin } }.setPhase id (.entered mutableReq) := by
  simp only [hookStep, before_ordinary _ _ (requests id).ordinary] at step
  split at step
  · rename_i cors mutableReq _ same
    cases same
    exact ⟨_, (Option.some.inj step).symm⟩
  · cases step

theorem found404_allowOrigin (found : Bool) (resp : HttpResponse) :
    (found404 found resp).header allowOriginHeader = resp.header allowOriginHeader := by
  cases found <;> rfl

omit [DecidableEq Request] in
theorem handlerOutcome_bare {id : Request} {mutableReq : HttpRequest} {resp : HttpResponse}
    {outcome : Except Thrown Bool} (gave : handlerOutcome requests routed id mutableReq = (resp, outcome)) :
    resp.header allowOriginHeader = none := by
  have silent := (routed id).silent mutableReq { closeConnection := wantsClose (requests id).request }
  change (handlerOutcome requests routed id mutableReq).1.header allowOriginHeader = _ at silent
  rw [gave] at silent
  exact silent

omit [DecidableEq Request] in
/-- An answer made by the `catch` carries no CORS header. -/
theorem answerTo_bare {id : Request} {mutableReq : HttpRequest} {resp : HttpResponse} {thrown : Thrown}
    (gave : handlerOutcome requests routed id mutableReq = (resp, .error thrown)) :
    (answerTo thrown resp).header allowOriginHeader = none := by
  cases thrown with
  | response sent =>
    apply (routed id).silentThrow mutableReq { closeConnection := wantsClose (requests id).request } sent
    change (handlerOutcome requests routed id mutableReq).2 = _
    rw [gave]
  | exception message =>
    have bare := handlerOutcome_bare gave
    exact bare

theorem handler_step {state next : Serving Request} {id : Request}
    (step : hookStep requests routed state (.handler id) = some next) :
    ∃ mutableReq resp, state.phase id = .entered mutableReq ∧
      ((∃ found, handlerOutcome requests routed id mutableReq = (resp, .ok found) ∧
          next = state.setPhase id (.handled (found404 found resp))) ∨
        ∃ thrown, handlerOutcome requests routed id mutableReq = (resp, .error thrown) ∧
          next = state.setPhase id (.answered (answerTo thrown resp))) := by
  simp only [hookStep] at step
  split at step
  · rename_i mutableReq entered
    refine ⟨mutableReq, ?_⟩
    split at step
    · rename_i resp found gave
      exact ⟨resp, entered, .inl ⟨found, gave, (Option.some.inj step).symm⟩⟩
    · rename_i resp thrown gave
      exact ⟨resp, entered, .inr ⟨thrown, gave, (Option.some.inj step).symm⟩⟩
  · cases step

theorem after_step {state next : Serving Request} {id : Request}
    (step : hookStep requests routed state (.after id) = some next) :
    ∃ resp, state.phase id = .handled resp ∧ next = state.setPhase id
      (.answered (state.cors.config.decorate state.cors.requestOrigin resp)) := by
  simp only [hookStep, after_decorates] at step
  split at step
  · rename_i resp found
    exact ⟨resp, found, (Option.some.inj step).symm⟩
  · cases step

theorem Undecorated.setPhase {config : CorsConfig} {state : Serving Request}
    (holds : Undecorated config state) (id : Request) {phase : Phase}
    (other : ∀ resp, phase = .handled resp → resp.header allowOriginHeader = none) :
    Undecorated config (state.setPhase id phase) := by
  refine ⟨holds.config, ?_⟩
  intro asked resp found
  by_cases same : asked = id
  · subst same
    rw [setPhase_self] at found
    exact other resp found
  · rw [setPhase_of_ne _ _ same] at found
    exact holds.bare asked resp found

theorem undecorated_step {config : CorsConfig} (state : Serving Request) (step : HookStep Request)
    (next : Serving Request) (taken : (serving requests routed).step state step = some next)
    (holds : Undecorated config state) : Undecorated config next := by
  change hookStep requests routed state step = some next at taken
  cases step with
  | before id =>
    obtain ⟨mutableReq, rfl⟩ := before_step taken
    have entered : Undecorated config
        { state with cors := { state.cors with requestOrigin := (requests id).origin } } :=
      ⟨holds.config, holds.bare⟩
    exact entered.setPhase id nofun
  | handler id =>
    obtain ⟨mutableReq, resp, _, ⟨found, gave, rfl⟩ | ⟨thrown, _, rfl⟩⟩ := handler_step taken
    · apply holds.setPhase id
      intro other same
      cases same
      rw [found404_allowOrigin]
      exact handlerOutcome_bare gave
    · exact holds.setPhase id nofun
  | after id =>
    obtain ⟨resp, _, rfl⟩ := after_step taken
    exact holds.setPhase id nofun

theorem ownOrigin_setPhase {config : CorsConfig} (state : Serving Request) (id : Request)
    (phase : Phase) (good : OwnOrigin requests config state) :
    OwnOrigin requests config (state.setPhase id phase) ↔
      ∀ resp, phase = .answered resp →
        resp.header allowOriginHeader = config.allowOrigin (requests id).origin := by
  apply Iff.intro
  · intro next resp same
    exact next id resp (by rw [setPhase_self, same])
  · intro own asked resp found
    by_cases same : asked = id
    · subst same
      rw [setPhase_self] at found
      exact own resp found
    · rw [setPhase_of_ne _ _ same] at found
      exact good asked resp found

theorem ownOrigin_step {config : CorsConfig} (state : Serving Request) (step : HookStep Request)
    (next : Serving Request) (taken : (serving requests routed).step state step = some next)
    (holds : Undecorated config state) (good : OwnOrigin requests config state) :
    OwnOrigin requests config next ↔ OriginKept requests routed config state step := by
  change hookStep requests routed state step = some next at taken
  cases step with
  | before id =>
    obtain ⟨mutableReq, rfl⟩ := before_step taken
    apply (ownOrigin_setPhase _ id _ good).trans
    exact ⟨fun _ => trivial, fun _ => nofun⟩
  | handler id =>
    obtain ⟨mutableReq, resp, entered, ⟨found, gave, rfl⟩ | ⟨thrown, gave, rfl⟩⟩ := handler_step taken
    · rw [ownOrigin_setPhase _ _ _ good]
      refine ⟨fun _ asked other thrown same threw => ?_, fun _ => nofun⟩
      rw [entered] at same
      cases same
      rw [gave] at threw
      cases threw
    · rw [ownOrigin_setPhase _ _ _ good]
      simp only [Phase.answered.injEq, forall_eq', answerTo_bare gave, eq_comm (a := none),
        CorsConfig.allowOrigin_eq_none]
      apply Iff.intro
      · exact fun absent _ _ _ _ _ => absent
      · exact fun kept => kept mutableReq resp thrown entered gave
  | after id =>
    obtain ⟨resp, found, rfl⟩ := after_step taken
    have bare := holds.bare id resp found
    have header : (state.cors.config.decorate state.cors.requestOrigin resp).header allowOriginHeader =
        config.allowOrigin state.cors.requestOrigin := by
      rw [decorate_allowOrigin, bare, holds.config]
      rfl
    rw [ownOrigin_setPhase _ _ _ good]
    simp only [Phase.answered.injEq, forall_eq', header]
    exact CorsConfig.allowOrigin_inj config _ _

/-! A request whose steps come one after the other is served as `handleRequest` serves it. -/

def onResponse {World Value : Type} (call : Throwing HttpResponse Thrown Value) :
    Throwing (World × HttpResponse) Thrown Value := ⟨fun (world, resp) =>
  let (resp, outcome) := call.run resp
  ((world, resp), outcome)⟩

/-- What `before` makes of the state for an ordinary request. -/
def Serving.enter (state : Serving Request) (id : Request) (req : OrdinaryRequest) : Serving Request :=
  { state with cors := { state.cors with requestOrigin := req.origin } }.setPhase id
    (.entered req.request)

theorem enter_phase (state : Serving Request) (id : Request) (req : OrdinaryRequest) :
    (state.enter id req).phase id = .entered req.request := setPhase_self _ _ _

theorem before_waiting (state : Serving Request) {id : Request} (waiting : state.phase id = .waiting) :
    hookStep requests routed state (.before id) = some (state.enter id (requests id)) := by
  simp only [hookStep, waiting, before_ordinary _ _ (requests id).ordinary]
  rfl

theorem handler_found {state : Serving Request} {id : Request} {mutableReq : HttpRequest}
    {resp : HttpResponse} {found : Bool} (entered : state.phase id = .entered mutableReq)
    (gave : handlerOutcome requests routed id mutableReq = (resp, .ok found)) :
    hookStep requests routed state (.handler id) =
      some (state.setPhase id (.handled (found404 found resp))) := by
  simp only [hookStep, entered, gave]

theorem handler_threw {state : Serving Request} {id : Request} {mutableReq : HttpRequest}
    {resp : HttpResponse} {thrown : Thrown} (entered : state.phase id = .entered mutableReq)
    (gave : handlerOutcome requests routed id mutableReq = (resp, .error thrown)) :
    hookStep requests routed state (.handler id) =
      some (state.setPhase id (.answered (answerTo thrown resp))) := by
  simp only [hookStep, entered, gave]

theorem after_handled {state : Serving Request} {id : Request} {resp : HttpResponse}
    (handled : state.phase id = .handled resp) :
    hookStep requests routed state (.after id) = some (state.setPhase id
      (.answered (state.cors.config.decorate state.cors.requestOrigin resp))) := by
  simp only [hookStep, handled, after_decorates]

theorem successive_handleRequest (state : Serving Request) (id : Request)
    (waiting : state.phase id = .waiting) :
    ∃ steps final resp, (serving requests routed).run state steps = some final ∧
      final.phase id = .answered resp ∧
      (handleRequest [corsHooks] (fun req => onResponse ((routed id).handle req)) (requests id).request).run
          (state.cors, { closeConnection := wantsClose (requests id).request }) =
        ((final.cors, resp), .ok ()) := by
  have before := before_ordinary state.cors (requests id).request (requests id).ordinary
  have entering : hookStep requests routed state (.before id) = _ := before_waiting state waiting
  cases ran : handlerOutcome requests routed id (requests id).request with
  | mk given outcome =>
    have routedRun : (onResponse ((routed id).handle (requests id).request)).run
        ({ state.cors with requestOrigin := (requests id).origin },
          { closeConnection := wantsClose (requests id).request }) =
        (({ state.cors with requestOrigin := (requests id).origin }, given), outcome) := by
      unfold handlerOutcome at ran
      simp only [onResponse, ran]
    cases outcome with
    | ok found =>
      let handled := (state.enter id (requests id)).setPhase id (.handled (found404 found given))
      let resp := state.cors.config.decorate (requests id).origin (found404 found given)
      refine ⟨[.before id, .handler id, .after id], handled.setPhase id (.answered resp), resp, ?_,
        setPhase_self _ _ _, handleRequest_routed before routedRun rfl⟩
      refine (System.run_cons entering _).trans ?_
      refine (System.run_cons (handler_found (enter_phase _ _ _) ran) _).trans ?_
      have leaving : hookStep requests routed handled (.after id) = _ :=
        after_handled (setPhase_self _ _ _)
      exact System.run_cons leaving _
    | error thrown =>
      refine ⟨[.before id, .handler id],
        (state.enter id (requests id)).setPhase id (.answered (answerTo thrown given)), _, ?_,
        setPhase_self _ _ _, handleRequest_threw before routedRun⟩
      refine (System.run_cons entering _).trans ?_
      exact System.run_cons (handler_threw (enter_phase _ _ _) ran) _

/-- In exactly the runs whose `after` steps find an origin that resolves as their own, and whose
    handlers throw only for an origin without a header, every response carries the header of its own
    request. -/
theorem own_origin_iff (config : CorsConfig) (steps : List (HookStep Request)) (final : Serving Request)
    (run : (serving requests routed).run (Serving.start config) steps = some final) :
    (serving requests routed).Always (OwnOrigin requests config) (Serving.start config) steps ↔
      (serving requests routed).Everywhere (OriginKept requests routed config) (Serving.start config) steps := by
  have initial : Undecorated config (Serving.start config : Serving Request) := ⟨rfl, nofun⟩
  exact System.always_iff_everywhere undecorated_step ownOrigin_step initial nofun run

end

/-! Two requests with the default config, the second without an Origin. -/

def withOrigin : OrdinaryRequest where
  request := { method := .kGet, headers := Dict.empty.insert (bytes "origin") (bytes "https://a.example") }
  ordinary := by decide

def withoutOrigin : OrdinaryRequest where
  request := { method := .kGet }
  ordinary := by decide

def twoRequests (second : Bool) : OrdinaryRequest := if second then withoutOrigin else withOrigin

/-- The first request finds a route, the handler of the second throws. -/
def twoHandlers (second : Bool) : RouteHandler where
  handle _ := if second then Throwing.throw (.exception (bytes "parse error")) else pure true
  silent _ _ := by cases second <;> rfl
  silentThrow _ _ _ threw := by cases second <;> cases threw

def overlapping : List (HookStep Bool) := [.before false, .before true, .handler false, .after false]

def successive : List (HookStep Bool) :=
  [.before false, .handler false, .after false, .before true, .handler true]

/-- The second request erases the origin of the first, whose response then has no header. -/
theorem overlapping_origin_lost :
    ¬ ∀ (config : CorsConfig) (requests : Bool → OrdinaryRequest) (routed : Bool → RouteHandler)
      (steps : List (HookStep Bool)) (final : Serving Bool),
      (serving requests routed).run (Serving.start config) steps = some final →
      (serving requests routed).Always (OwnOrigin requests config) (Serving.start config) steps := by
  intro claimed
  have always := claimed .defaultConfig twoRequests twoHandlers overlapping _ rfl
  have own := always overlapping [] _ (List.append_nil _).symm rfl false _ rfl
  revert own
  decide

theorem successive_own_origin :
    ∃ final, (serving twoRequests twoHandlers).run (Serving.start .defaultConfig) successive = some final ∧
      ((serving twoRequests twoHandlers).Always (OwnOrigin twoRequests .defaultConfig)
          (Serving.start .defaultConfig) successive ↔
        (serving twoRequests twoHandlers).Everywhere (OriginKept twoRequests twoHandlers .defaultConfig)
          (Serving.start .defaultConfig) successive) :=
  ⟨_, rfl, own_origin_iff .defaultConfig successive _ rfl⟩

end Http.Middlewares
