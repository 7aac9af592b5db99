import HttpServerApps.Chat.Authority
import HttpServerApps.Chat.OwnConversations

namespace Chat

open Common Http Middlewares Routing Sessions

/-! The status that says that there is no session of a user. -/

section

variable {State : Type} (respOf : State → HttpResponse)

def NotRefusing (state : State) : Prop := (respOf state).statusCode ≠ .k401Unauthorized

/-- The response stays one of another status, however the call ends. -/
def NeverRefuses (call : Throwing State Failure Unit) : Prop :=
  Throwing.Triple (NotRefusing respOf) call (fun _ => NotRefusing respOf) fun _ => NotRefusing respOf

variable {respOf}

theorem NeverRefuses.run {call : Throwing State Failure Unit} (never : NeverRefuses respOf call) {state : State}
    (other : NotRefusing respOf state) : NotRefusing respOf (call.run state).1 := by
  have reached := Throwing.Triple.run never state other
  cases ran : call.run state with
  | mk after outcome =>
    rw [ran] at reached
    cases outcome <;> exact reached

/-- In the frame of a handler, the status is that of the refusal exactly when the session is not logged in. -/
theorem framed_refuses_iff {request : Incoming} {refuse : Throwing State Failure Unit}
    {work : Int32 → Throwing State Failure Unit} {caught : Bytes → Throwing State Failure Unit} {state : State}
    (refused : ∃ after, refuse.run state = (after, .ok ()) ∧ (respOf after).statusCode = .k401Unauthorized)
    (worked : ∀ userId, NeverRefuses respOf (work userId)) (failed : ∀ what, NeverRefuses respOf (caught what))
    (other : NotRefusing respOf state) :
    (request.isLoggedIn ≠ bytes "true" ∧ ((framed request refuse work caught).run state).2 = .ok () ∧
        (respOf ((framed request refuse work caught).run state).1).statusCode = .k401Unauthorized) ∨
      request.isLoggedIn = bytes "true" ∧ NotRefusing respOf ((framed request refuse work caught).run state).1 := by
  by_cases loggedIn : request.isLoggedIn = bytes "true"
  · right
    refine ⟨loggedIn, ?_⟩
    unfold framed
    simp only [loggedIn, ne_eq, not_true_eq_false, ↓reduceIte]
    apply NeverRefuses.run _ other
    refine Throwing.Triple.attempt ((Throwing.triple_call _).bind worked) ?_
    intro failure
    cases failure with
    | exception what => exact failed what
    | undefined => exact Throwing.triple_call _
  · left
    refine ⟨loggedIn, ?_⟩
    rcases refused with ⟨after, ran, status⟩
    unfold framed
    simp only [loggedIn, ne_eq, not_false_eq_true, ↓reduceIte]
    rw [Throwing.run_attempt_ok ran]
    exact ⟨rfl, status⟩

end

/-! The calls of the handlers that work for a user. -/

section

variable {json : JsonCodec}

theorem answerWith_status {version : Bytes} {statusCode : HttpStatusCode} {statusMessage : Bytes} {close : Bool}
    {body : Json} (other : statusCode ≠ .k401Unauthorized) :
    NeverRefuses Visit.resp (answerWith json version statusCode statusMessage close body) :=
  (Throwing.triple_call _).bind fun _ => Throwing.triple_modify fun _ _ => other

theorem answerWith_refuses {version : Bytes} {message : Bytes} {close : Bool} {body : Json}
    (prints : Prints json body) (visit : Visit) :
    ∃ after, (answerWith json version .k401Unauthorized message close body).run visit = (after, .ok ()) ∧
      after.resp.statusCode = .k401Unauthorized := by
  rcases prints with ⟨text, dumped⟩
  unfold answerWith
  rw [dumped]
  exact ⟨_, rfl, rfl⟩

theorem onMemory_status (change : ChatMemory → ChatMemory) : NeverRefuses Visit.resp (onMemory change) :=
  Throwing.triple_modify fun _ other => other

theorem chatIn_status (question : Question) (outside : Outside) :
    Throwing.Triple (NotRefusing Visit.resp) (chatIn json question outside) (fun _ => NotRefusing Visit.resp)
      fun _ => NotRefusing Visit.resp := by
  apply Throwing.Triple.mk
  intro visit other
  unfold chatIn
  dsimp only
  cases ((AIHelper.chat json question outside).run
    ⟨visit.memory.helper question.userId question.sessionId, visit.memory.published⟩).2 <;> exact other

theorem servePage_status {files : Files} {reqFile version : Bytes} {userId : Int32} :
    NeverRefuses Visit.resp (do
      let htmlContent ← Throwing.call (throwing (pageContent files reqFile))
      Throwing.modify fun visit =>
        { visit with resp := htmlResponse visit.resp version (insertUserId htmlContent userId) }) := by
  apply Throwing.Triple.bind (Throwing.triple_call _)
  intro htmlContent
  exact Throwing.triple_modify fun _ _ => nofun

variable {request : Incoming} {visit : Visit}

/-- A handler that refuses exactly the requests whose session is not logged in. -/
def RefusesOnly (request : Incoming) (visit : Visit) (handler : Visiting Unit) : Prop :=
  (request.isLoggedIn ≠ bytes "true" ∧ (handler.run visit).2 = .ok () ∧
      (handler.run visit).1.resp.statusCode = .k401Unauthorized) ∨
    request.isLoggedIn = bytes "true" ∧ NotRefusing Visit.resp (handler.run visit).1

theorem authorized_refuses {handler : Int32 → Visiting Unit} (prints : Prints json (errorBody (bytes "Unauthorized")))
    (worked : ∀ userId, NeverRefuses Visit.resp (handler userId)) (other : NotRefusing Visit.resp visit) :
    RefusesOnly request visit (authorized json request handler) :=
  framed_refuses_iff (answerWith_refuses prints visit) worked (fun _ => answerWith_status nofun) other

end

namespace AIUploadSendHandler

variable {json : JsonCodec} {loaded : Except Bytes ImageRecognizer} {request : Incoming} {upload : Upload}

theorem answer_status {version : Bytes} {statusCode : HttpStatusCode} {statusMessage : Bytes} {close : Bool}
    {body : Json} (other : statusCode ≠ .k401Unauthorized) :
    NeverRefuses respOf (onVisit (answerWith json version statusCode statusMessage close body)) :=
  Throwing.Triple.within (fun _ _ => rfl) (answerWith_status other)

theorem work_status (userId : Int32) : NeverRefuses respOf (work json loaded request userId) := by
  have recognizer : Throwing.Triple (NotRefusing respOf) (recognizerOf loaded userId) (fun _ => NotRefusing respOf)
      fun _ => NotRefusing respOf := by
    apply Throwing.Triple.mk
    intro upload other
    rcases recognizerOf_run loaded userId upload with ⟨imageRecognizerMap, ran⟩
    rw [ran]
    cases throwing (recognizerFor upload.imageRecognizerMap loaded userId) <;> exact other
  apply Throwing.Triple.bind recognizer
  intro recognizer
  apply Throwing.Triple.bind (Throwing.triple_call _)
  intro fields
  apply Throwing.Triple.bind (Throwing.triple_call _)
  intro imgData
  apply Throwing.Triple.bind (Throwing.triple_call _)
  intro className
  exact answer_status nofun

theorem handle_refuses (prints : Prints json (errorBody (bytes "Unauthorized"))) (other : NotRefusing respOf upload) :
    (request.isLoggedIn ≠ bytes "true" ∧ ((handle json loaded request).run upload).2 = .ok () ∧
        (respOf ((handle json loaded request).run upload).1).statusCode = .k401Unauthorized) ∨
      request.isLoggedIn = bytes "true" ∧ NotRefusing respOf ((handle json loaded request).run upload).1 := by
  refine framed_refuses_iff ?_ work_status (fun _ => answer_status nofun) other
  rcases @answerWith_refuses json request.req.version (bytes "Unauthorized") true _ prints upload.visit with
    ⟨after, ran, status⟩
  exact ⟨{ upload with visit := after }, Throwing.run_within ran, status⟩

end AIUploadSendHandler

/-! The handlers that a session is needed for. -/

def Handler.guarded : Handler → Bool
  | chatEntry | chatLogin | chatRegister | chatLogout => false
  | _ => true

variable {env : Environment} {app : Application} {req : HttpRequest} {resp : HttpResponse}

/-- The outcome of the handler where it is reached with a session that is not logged in, and with one that is. -/
def HandlerRefuses (env : Environment) (app : Application) (req : HttpRequest) (resp : HttpResponse)
    (work : Serving Unit) : Prop :=
  ((incomingOf env app req resp).isLoggedIn ≠ bytes "true" ∧ (work.run (app, resp)).2.isOk = true ∧
      (work.run (app, resp)).1.2.statusCode = .k401Unauthorized) ∨
    (incomingOf env app req resp).isLoggedIn = bytes "true" ∧
      (work.run (app, resp)).1.2.statusCode ≠ .k401Unauthorized

theorem uploading_refuses {handler : Incoming → Uploading Unit}
    (refuses : let request := incomingOf env app req resp
      let upload : Upload := ⟨app.imageRecognizerMap, app.memory, request.resp⟩
      (request.isLoggedIn ≠ bytes "true" ∧ ((handler request).run upload).2 = .ok () ∧
        (((handler request).run upload).1.visit.resp).statusCode = .k401Unauthorized) ∨
      request.isLoggedIn = bytes "true" ∧ NotRefusing AIUploadSendHandler.respOf ((handler request).run upload).1) :
    HandlerRefuses env app req resp (uploading env req handler) := by
  dsimp only at refuses
  rcases refuses with ⟨nobody, returned, status⟩ | ⟨loggedIn, other⟩
  · left
    refine ⟨nobody, ?_, ?_⟩
    · unfold uploading
      dsimp only [afterSession]
      rw [returned]
      rfl
    · rw [uploading_resp]
      exact status
  · right
    refine ⟨loggedIn, ?_⟩
    rw [uploading_resp]
    exact other

theorem incomingOf_status (other : resp.statusCode ≠ .k401Unauthorized) :
    (incomingOf env app req resp).resp.statusCode ≠ .k401Unauthorized := by
  unfold incomingOf
  dsimp only
  unfold SessionManager.getSession
  split <;> exact other

theorem visiting_refuses {handler : Incoming → Visiting Unit} (other : resp.statusCode ≠ .k401Unauthorized)
    (refuses : ∀ request visit, NotRefusing Visit.resp visit → RefusesOnly request visit (handler request)) :
    HandlerRefuses env app req resp (visiting env req handler) :=
  uploading_refuses (refuses (incomingOf env app req resp) ⟨app.memory, (incomingOf env app req resp).resp⟩
    (incomingOf_status other))

theorem Handler.handle_refuses (handler : Handler) (guarded : handler.guarded = true)
    (prints : Prints env.codec (errorBody (bytes "Unauthorized"))) (other : resp.statusCode ≠ .k401Unauthorized) :
    HandlerRefuses env app req resp (handler.handle env req) := by
  cases handler
  all_goals unfold Handler.handle
  case chatEntry | chatLogin | chatRegister | chatLogout => cases guarded
  case aiUploadSend =>
    exact uploading_refuses (AIUploadSendHandler.handle_refuses prints (incomingOf_status other))
  all_goals apply visiting_refuses other
  all_goals intro request visit fresh
  case chat | aiMenu | aiUpload => exact authorized_refuses prints (fun _ => servePage_status) fresh
  case chatSend =>
    refine authorized_refuses prints (fun userId => ?_) fresh
    apply Throwing.Triple.bind (Throwing.triple_call _)
    intro fields
    apply Throwing.Triple.bind (onMemory_status _)
    intro _
    exact (chatIn_status ..).bind fun _ => answerWith_status nofun
  case chatHistory =>
    refine authorized_refuses prints (fun userId => ?_) fresh
    apply Throwing.Triple.bind (Throwing.triple_call _)
    intro sessionId
    apply Throwing.Triple.bind (onMemory_status _)
    intro _
    exact (Throwing.triple_read _).bind fun _ => answerWith_status nofun
  case chatCreateAndSend =>
    refine authorized_refuses prints (fun userId => ?_) fresh
    apply Throwing.Triple.bind (Throwing.triple_call _)
    intro fields
    apply Throwing.Triple.bind (onMemory_status _)
    intro _
    exact (chatIn_status ..).bind fun _ => answerWith_status nofun
  case chatSessions =>
    refine authorized_refuses prints (fun userId => ?_) fresh
    apply Throwing.Triple.bind (Throwing.triple_read _)
    intro ids
    exact (onMemory_status _).bind fun _ => answerWith_status nofun
  case chatSpeech =>
    refine authorized_refuses prints (fun userId => ?_) fresh
    apply Throwing.Triple.bind (Throwing.triple_call _)
    intro text
    exact (Throwing.triple_call _).bind fun _ => answerWith_status nofun

/-! The whole request. -/

/-- Where a handler that needs a session is reached, the status says whether the session is logged in. -/
theorem responseTo_refuses {handler : Handler} (routed : handlerAt req.method req.path = some handler)
    (guarded : handler.guarded = true) (prints : Prints env.codec (errorBody (bytes "Unauthorized"))) :
    (responseTo env app req { closeConnection := wantsClose req }).statusCode = .k401Unauthorized ↔
      (incoming env app req).isLoggedIn ≠ bytes "true" := by
  have ordinary := routed_ordinary routed
  have refuses : HandlerRefuses env (entered app req) req { closeConnection := wantsClose req }
      (handler.handle env req) := handler.handle_refuses guarded prints nofun
  change ((incoming env app req).isLoggedIn ≠ _ ∧ _) ∨ (incoming env app req).isLoggedIn = _ ∧ _ at refuses
  rcases ran : (handler.handle env req).run (entered app req, { closeConnection := wantsClose req }) with
    ⟨⟨after, answer⟩, thrown | _⟩
  · cases thrown with
    | response res => exact absurd (congrArg Prod.snd ran) (handler.handle_exception res)
    | exception what =>
      rw [responseTo_thrown ordinary routed ran]
      rw [ran] at refuses
      rcases refuses with ⟨_, returned, _⟩ | ⟨loggedIn, _⟩
      · cases returned
      · exact iff_of_false nofun (fun nobody => nobody loggedIn)
  · rw [responseTo_returned ordinary routed ran,
      @decorate_frame _ HttpResponse.statusCode (fun _ _ _ => rfl)]
    rw [ran] at refuses
    rcases refuses with ⟨nobody, _, status⟩ | ⟨loggedIn, other⟩
    · exact iff_of_true status nobody
    · exact iff_of_false other (fun nobody => nobody loggedIn)

/-! The cookie that a session is shown by. -/

/-- The cookie of the request names a live session of the user. -/
def Shows (manager : SessionManager) (clock : Readings) (req : HttpRequest) (userId : Int32) : Prop :=
  getSessionIdFromCookie req ≠ [] ∧ ∃ object, manager.lookup (getSessionIdFromCookie req) = some object ∧
    object.isExpired clock.load = false ∧ object.isExpired clock.check = false ∧ LoggedIn object userId

theorem getValue_data (manager : SessionManager) (session : Handle) (key : Bytes) :
    manager.getValue session key = ((manager.data session).find key).getD [] := by
  unfold SessionManager.getValue SessionManager.data
  cases manager.object session <;> rfl

/-- A new session has the next handle, where there is no data yet. -/
theorem created_data {manager : SessionManager} {clock : Readings} {draws : Fin 32 → Fin 16} {resp : HttpResponse}
    (absent : (manager.findSession clock (getSessionIdFromCookie req)).2 = none) :
    manager.data (manager.getSession clock draws req resp).2.2 = .empty := by
  have heap := SessionManager.heap_findSession manager clock (getSessionIdFromCookie req)
  unfold SessionManager.getSession
  cases ran : manager.findSession clock (getSessionIdFromCookie req) with
  | mk found session =>
    rw [ran] at absent heap
    dsimp only at absent
    subst absent
    dsimp only
    rw [heap]
    unfold SessionManager.data SessionManager.object
    rw [List.getElem?_eq_none (Nat.le_refl _)]
    rfl

theorem found_handle {manager found : SessionManager} {clock : Readings} {draws : Fin 32 → Fin 16}
    {resp : HttpResponse} {session : Handle}
    (ran : manager.findSession clock (getSessionIdFromCookie req) = (found, some session)) :
    (manager.getSession clock draws req resp).2.2 = session := by
  unfold SessionManager.getSession
  rw [ran]

theorem incoming_shows {Allowed : Int32 → Prop} (owned : Owned Allowed app.server.sessionManager) :
    (incoming env app req).isLoggedIn = bytes "true" ↔
      ∃ userId, Shows app.server.sessionManager env.clock req userId := by
  have value : (incoming env app req).isLoggedIn = ((app.server.sessionManager.data
      (app.server.sessionManager.getSession env.clock env.draws req
        { closeConnection := wantsClose req }).2.2).find (bytes "isLoggedIn")).getD [] := by
    rw [← SessionManager.data_getSession app.server.sessionManager env.clock env.draws req
      { closeConnection := wantsClose req }]
    exact getValue_data ..
  have nobody : ∀ found : Option Bytes, found = none → found.getD [] ≠ bytes "true" := by
    rintro _ rfl
    decide
  rw [value]
  rcases SessionManager.findSession_cases app.server.sessionManager env.clock (getSessionIdFromCookie req) with
    ⟨session, ran, given, stored, atLoad, atCheck⟩ | ⟨ran, absent⟩ | ⟨stale, ran, stored, late⟩
  · rcases owned.consistent.expired stored with ⟨object, held, same⟩
    have data : app.server.sessionManager.data session = object.data := by
      unfold SessionManager.data
      rw [held.found]
      rfl
    rw [found_handle ran, data]
    apply Iff.intro
    · intro loggedIn
      rcases (owned.proper _ object held.lookup).owner with empty | ⟨userId, mine, _⟩
      · rw [empty] at loggedIn
        exact absurd loggedIn (nobody _ rfl)
      · exact ⟨userId, given, object, held.lookup, (same _).symm.trans atLoad, (same _).symm.trans atCheck, mine⟩
    · rintro ⟨userId, _, other, found, _, _, mine⟩
      rw [held.lookup] at found
      cases found
      rw [mine.1]
      rfl
  · rw [created_data (by rw [ran])]
    apply iff_of_false (nobody _ rfl)
    rintro ⟨userId, given, object, found, _, atCheck, _⟩
    rcases absent with empty | expired
    · exact given empty
    · rcases SessionManager.held_of_lookup owned.consistent found with ⟨session, held⟩
      have late := expired session held.stored
      unfold SessionManager.expired at late
      rw [held.found] at late
      cases late.symm.trans atCheck
  · rw [created_data (by rw [ran])]
    apply iff_of_false (nobody _ rfl)
    rintro ⟨userId, _, object, found, atLoad, _, _⟩
    rcases owned.consistent.expired stored with ⟨other, held, same⟩
    rw [held.lookup] at found
    cases found
    cases ((same _).symm.trans late).symm.trans atLoad

theorem owned_run {json : JsonLibrary} {codec : JsonCodec} {memory : ChatMemory} {actions : List ServerAction}
    {final : Application} (run : (serving json codec).run (initialised memory) actions = some final) :
    Owned (fun _ => True) final.server.sessionManager := by
  let OfOne (app : Application) := Owned (fun _ => True) app.server.sessionManager
  have kept : ∀ app action next, serveStep json codec app action = some next → OfOne app → OfOne next :=
    fun _ _ _ step owned => owned_step step owned fun _ _ => trivial
  have started : OfOne (initialised memory) := ⟨nofun, nofun⟩
  exact @System.run_preserves _ _ (serving json codec) OfOne kept _ _ _ started run

theorem unshown_actor {Allowed : Int32 → Prop} (owned : Owned Allowed app.server.sessionManager) {handler : Handler}
    (routed : handlerAt req.method req.path = some handler) (guarded : handler.guarded = true)
    (nobody : ¬ ∃ userId, Shows app.server.sessionManager env.clock req userId) : actor env app req = none := by
  have refused : (incoming env app req).user = none :=
    if_neg fun loggedIn => nobody ((incoming_shows owned).mp loggedIn)
  unfold actor
  rw [routed]
  cases handler
  case chatEntry | chatLogin | chatRegister | chatLogout => cases guarded
  all_goals exact refused

/-- In every state the server comes to, a handler that needs a session is refused with 401 exactly to the requests
    whose cookie names no live session that is logged in, and these change nothing that is held for anyone. -/
theorem refused_exactly (json : JsonLibrary) (codec : JsonCodec)
    (prints : Prints codec (errorBody (bytes "Unauthorized"))) (memory : ChatMemory) {actions : List ServerAction}
    {app : Application} (run : (serving json codec).run (initialised memory) actions = some app) (arrival : Arrival)
    {handler : Handler}
    (routed : handlerAt arrival.req.method arrival.req.path = some handler) (guarded : handler.guarded = true)
    {after : Application} {response : HttpResponse}
    (answered : answer (arrival.env json codec) app arrival.req = some (after, response)) :
    (response.statusCode = .k401Unauthorized ↔
        ¬ ∃ userId, Shows app.server.sessionManager arrival.clock arrival.req userId) ∧
      (response.statusCode = .k401Unauthorized → ∀ userId, after.holdings userId = app.holdings userId) := by
  have owned := owned_run run
  have same := (answer_sent answered).1
  have status : response.statusCode = .k401Unauthorized ↔
      ¬ ∃ userId, Shows app.server.sessionManager arrival.clock arrival.req userId := by
    rw [same, responseTo_refuses routed guarded prints]
    exact not_congr (incoming_shows owned)
  refine ⟨status, ?_⟩
  intro refused userId
  apply (answer_leaves answered).foreign
  rw [unshown_actor owned routed guarded (status.mp refused)]
  nofun

/-- A request for the menu, without a cookie. -/
def menuArrives : Arrival := visits (closingGet (bytes "/menu"))

/-- After Ada's login her question is answered, and a stranger is refused. -/
theorem menu_is_refused :
    ∃ app, (serving ChatLoginHandler.adaJson (knownTexts [])).run (initialised {}) [.request adaArrives] = some app ∧
      (∃ after response, answer (menuArrives.env ChatLoginHandler.adaJson (knownTexts [])) app
          menuArrives.req = some (after, response) ∧ response.statusCode = .k401Unauthorized ∧
        ¬ ∃ userId, Shows app.server.sessionManager menuArrives.clock menuArrives.req userId) ∧
      ∃ after response, answer (adaAsksSessions.env ChatLoginHandler.adaJson (knownTexts [])) app adaAsksSessions.req =
          some (after, response) ∧ response.statusCode ≠ .k401Unauthorized ∧
        ∃ userId, Shows app.server.sessionManager adaAsksSessions.clock adaAsksSessions.req userId := by
  have stranger : ((serving ChatLoginHandler.adaJson (knownTexts [])).run (initialised {}) [.request adaArrives]).bind
      (fun app => (answer (menuArrives.env ChatLoginHandler.adaJson (knownTexts [])) app menuArrives.req).map
        fun served => served.2.statusCode) = some .k401Unauthorized := by decide
  have ada : ((serving ChatLoginHandler.adaJson (knownTexts [])).run (initialised {}) [.request adaArrives]).bind
      (fun app => (answer (adaAsksSessions.env ChatLoginHandler.adaJson (knownTexts [])) app adaAsksSessions.req).map
        fun served => served.2.statusCode) = some .k200Ok := by decide
  have menu : handlerAt .kGet (bytes "/menu") = some .aiMenu := by decide
  have sessions : handlerAt .kGet (bytes "/chat/sessions") = some .chatSessions := by decide
  rcases Option.bind_eq_some_iff.mp stranger with ⟨app, run, refused⟩
  rcases Option.map_eq_some_iff.mp refused with ⟨⟨after, response⟩, answered, status⟩
  rw [run] at ada
  rcases Option.map_eq_some_iff.mp ada with ⟨⟨next, shown⟩, again, fine⟩
  have exactly := refused_exactly ChatLoginHandler.adaJson (knownTexts []) ⟨_, rfl⟩ {} run
  have first := (exactly menuArrives menu rfl answered).1
  have second := (exactly adaAsksSessions sessions rfl again).1
  have notRefused : shown.statusCode ≠ .k401Unauthorized := by
    change shown.statusCode = .k200Ok at fine
    rw [fine]
    decide
  refine ⟨app, run, ⟨after, response, answered, status, first.mp status⟩, next, shown, again, notRefused, ?_⟩
  by_contra nobody
  exact notRefused (second.mpr nobody)

end Chat
