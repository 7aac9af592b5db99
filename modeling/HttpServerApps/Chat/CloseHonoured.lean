import HttpServerApps.Chat.KeptOpen
import HttpServerApps.Chat.Routes
import HttpServerApps.Ssl.Outbound

namespace Chat

open Common Http Middlewares Routing Sessions Ssl

variable {env : Environment} {app : Application} {req : HttpRequest} {resp : HttpResponse}

/-! The handlers of the route table. -/

/-- The session of the request has a user, for whom something holds. -/
def ForUser (env : Environment) (app : Application) (req : HttpRequest) (resp : HttpResponse)
    (answers : Incoming → Int32 → Prop) : Prop :=
  ∃ userId, (incomingOf env app req resp).user = some userId ∧ answers (incomingOf env app req resp) userId

def PageThere (files : Files) (reqFile : Bytes) : Prop :=
  (files reqFile).isSome = true ∨ (files FileUtil.defaultFile).isSome = true

/-- When a handler comes to an answer that it keeps the connection open for. -/
def Handler.LeavesOpen (env : Environment) (app : Application) (req : HttpRequest) (resp : HttpResponse) :
    Handler → Prop
  | chatEntry => PageThere env.files ChatEntryHandler.reqFile
  | chatLogin => ChatLoginHandler.Answers env.json env.login req app.server.onlineUsers
  | chatRegister => ChatRegisterHandler.Answers env.json env.register req
  | chatLogout => False
  | chat => ForUser env app req resp fun _ _ => PageThere env.files ChatHandler.reqFile
  | chatSend => ForUser env app req resp fun incoming userId =>
      ChatSendHandler.Answers env.codec incoming env.outside app.memory userId
  | aiMenu => ForUser env app req resp fun _ _ => PageThere env.files AIMenuHandler.reqFile
  | aiUpload => ForUser env app req resp fun _ _ => PageThere env.files AIUploadHandler.reqFile
  | aiUploadSend => ForUser env app req resp fun incoming userId =>
      AIUploadSendHandler.Answers env.codec env.loaded incoming app.imageRecognizerMap userId
  | chatHistory => ForUser env app req resp fun incoming userId =>
      ChatHistoryHandler.Answers env.codec incoming app.memory userId
  | chatCreateAndSend => ForUser env app req resp fun incoming userId =>
      ChatCreateAndSendHandler.Answers env.codec incoming env.now env.rand env.outside app.memory userId
  | chatSessions => ForUser env app req resp fun _ userId => ChatSessionsHandler.Answers env.codec app.memory userId
  | chatSpeech => ForUser env app req resp fun incoming _ =>
      ChatSpeechHandler.Answers env.codec env.outside.getenv env.service incoming

theorem uploading_resp (handler : Incoming → Uploading Unit) :
    ((uploading env req handler).run (app, resp)).1.2 =
      ((handler (incomingOf env app req resp)).run
        ⟨app.imageRecognizerMap, app.memory, (incomingOf env app req resp).resp⟩).1.visit.resp := by
  unfold uploading
  dsimp only [afterSession]
  split <;> rfl

theorem visiting_resp (handler : Incoming → Visiting Unit) :
    ((visiting env req handler).run (app, resp)).1.2 =
      ((handler (incomingOf env app req resp)).run ⟨app.memory, (incomingOf env app req resp).resp⟩).1.resp :=
  uploading_resp _

theorem Handler.handle_open_iff (handler : Handler) (closing : resp.closeConnection = true) :
    ((handler.handle env req).run (app, resp)).1.2.closeConnection = false ↔
      handler.LeavesOpen env app req resp := by
  have visit : WithClose Visit.resp true ⟨app.memory, (incomingOf env app req resp).resp⟩ :=
    (getSession_close ..).trans closing
  have exchange : WithClose Exchange.resp true ⟨app.server, resp⟩ := closing
  cases handler
  all_goals unfold Handler.handle
  case chatEntry => exact ChatEntryHandler.handle_open_iff closing
  case chatLogin => exact ChatLoginHandler.handle_open_iff exchange
  case chatRegister => exact ChatRegisterHandler.handle_open_iff exchange
  case chatLogout =>
    apply iff_of_false _ not_false
    intro open_
    cases Eq.trans (Eq.symm ((logout_closing env.json env.clock env.draws req).run exchange)) open_
  case aiUploadSend =>
    rw [uploading_resp]
    exact AIUploadSendHandler.handle_open_iff visit
  all_goals rw [visiting_resp]
  case chat | aiMenu | aiUpload => exact servePage_open_iff visit
  case chatSend => exact ChatSendHandler.handle_open_iff visit
  case chatHistory => exact ChatHistoryHandler.handle_open_iff visit
  case chatCreateAndSend => exact ChatCreateAndSendHandler.handle_open_iff visit
  case chatSessions => exact ChatSessionsHandler.handle_open_iff visit
  case chatSpeech => exact ChatSpeechHandler.handle_open_iff visit

theorem rethrow_exception {State : Type} (call : Throwing State Bytes Unit) (state : State) (res : HttpResponse) :
    ((call.rethrow Thrown.exception).run state).2 ≠ .error (.response res) := by
  unfold Throwing.rethrow
  dsimp only
  cases (call.run state).2 <;> nofun

/-- No handler throws a response. -/
theorem Handler.handle_exception (handler : Handler) (res : HttpResponse) :
    ((handler.handle env req).run (app, resp)).2 ≠ .error (.response res) := by
  have visited : ∀ work : Incoming → Uploading Unit,
      ((uploading env req work).run (app, resp)).2 ≠ .error (.response res) := by
    intro work
    unfold uploading
    dsimp only
    split <;> nofun
  cases handler
  all_goals dsimp only [Handler.handle, answering, exchanging, visiting]
  case chatEntry | chatLogin | chatRegister | chatLogout => apply rethrow_exception
  all_goals apply visited

/-! The middleware only adds headers to what a handler answers. -/

theorem addCorsHeaders_frame {Value : Type} {field : HttpResponse → Value}
    (frame : ∀ response key value, field (response.addHeader key value) = field response) (config : CorsConfig)
    (response : HttpResponse) (origin : Bytes) : field (config.addCorsHeaders response origin) = field response := by
  unfold CorsConfig.addCorsHeaders
  dsimp only
  rw [frame]
  split <;> split <;> split <;> simp only [frame]

theorem decorate_frame {Value : Type} {field : HttpResponse → Value}
    (frame : ∀ response key value, field (response.addHeader key value) = field response) (config : CorsConfig)
    (requestOrigin : Bytes) (response : HttpResponse) :
    field (config.decorate requestOrigin response) = field response := by
  unfold CorsConfig.decorate
  dsimp only
  split
  · rfl
  · split
    · rw [frame, addCorsHeaders_frame frame]
    · exact addCorsHeaders_frame frame ..

theorem addHeader_close (response : HttpResponse) (key value : Bytes) :
    (response.addHeader key value).closeConnection = response.closeConnection := rfl

theorem decorate_close (config : CorsConfig) (requestOrigin : Bytes) (response : HttpResponse) :
    (config.decorate requestOrigin response).closeConnection = response.closeConnection :=
  decorate_frame addHeader_close config requestOrigin response

theorem handlePreflightRequest_close (config : CorsConfig) (request : HttpRequest) (response : HttpResponse) :
    (config.handlePreflightRequest request response).closeConnection = response.closeConnection := by
  unfold CorsConfig.handlePreflightRequest
  dsimp only
  split
  · rfl
  · split <;> exact addCorsHeaders_frame addHeader_close ..

/-! The whole request. -/

/-- The shared state once `before` has seen an ordinary request. -/
def entered (app : Application) (req : HttpRequest) : Application :=
  { app with corsMiddleware.requestOrigin := req.getHeader (bytes "Origin") }

theorem before_run (ordinary : req.method ≠ .kOptions) :
    (processBefore [corsMiddlewareHooks] req).run app = (entered app req, .ok req) := by
  unfold processBefore corsMiddlewareHooks CorsMiddleware.before
  simp only [ordinary, ↓reduceIte]
  rfl

theorem before_preflight (preflight : req.method = .kOptions) :
    (processBefore [corsMiddlewareHooks] req).run app =
      (entered app req, .error (.response (app.corsMiddleware.config.handlePreflightRequest req {}))) := by
  unfold processBefore corsMiddlewareHooks CorsMiddleware.before
  simp only [preflight, ↓reduceIte]
  rfl

theorem after_run (resp : HttpResponse) :
    (processAfter [corsMiddlewareHooks]).run (app, resp) =
      ((app, app.corsMiddleware.config.decorate app.corsMiddleware.requestOrigin resp), .ok ()) := rfl

/-- The response that `handleRequest` leaves. -/
def responseTo (env : Environment) (app : Application) (req : HttpRequest) (resp : HttpResponse) : HttpResponse :=
  ((handleRequest [corsMiddlewareHooks] (route env) req).run (app, resp)).1.2

theorem responseTo_preflight (preflight : req.method = .kOptions) :
    (responseTo env app req resp).closeConnection = true := by
  unfold responseTo
  rw [handleRequest_thrown (before_preflight preflight)]
  exact handlePreflightRequest_close ..

theorem responseTo_unrouted (ordinary : req.method ≠ .kOptions) (unrouted : handlerAt req.method req.path = none) :
    (responseTo env app req resp).closeConnection = true := by
  have nowhere : route env req = pure false := by
    unfold route
    rw [initializeRouter_route, unrouted]
    rfl
  unfold responseTo
  rw [handleRequest_routed (before_run ordinary) (by rw [nowhere]; rfl) (after_run _)]
  exact decorate_close ..

theorem route_handler {handler : Handler} (routed : handlerAt req.method req.path = some handler) :
    route env req = do handler.handle env req; return true := by
  unfold route
  rw [initializeRouter_route, routed]
  rfl

theorem responseTo_returned (ordinary : req.method ≠ .kOptions) {handler : Handler}
    (routed : handlerAt req.method req.path = some handler) {after : Application} {answer : HttpResponse}
    (ran : (handler.handle env req).run (entered app req, resp) = ((after, answer), .ok ())) :
    responseTo env app req resp = after.corsMiddleware.config.decorate after.corsMiddleware.requestOrigin answer := by
  have handled : (route env req).run (entered app req, resp) = ((after, answer), .ok true) := by
    rw [route_handler routed, Throwing.run_bind_ok ran]
    rfl
  unfold responseTo
  rw [handleRequest_routed (before_run ordinary) handled (after_run _)]
  rfl

theorem responseTo_thrown (ordinary : req.method ≠ .kOptions) {handler : Handler}
    (routed : handlerAt req.method req.path = some handler) {after : Application} {answer : HttpResponse} {what : Bytes}
    (ran : (handler.handle env req).run (entered app req, resp) = ((after, answer), .error (.exception what))) :
    responseTo env app req resp = ((answer.setStatusCode .k500InternalServerError).setStatusMessage
      (bytes "Internal Server Error")).setBody (bytes "Internal Server Error") := by
  have handled : (route env req).run (entered app req, resp) = ((after, answer), .error (.exception what)) := by
    rw [route_handler routed]
    exact Throwing.run_bind_error ran _
  unfold responseTo
  rw [handleRequest_threw (before_run ordinary) handled]
  rfl

theorem responseTo_routed (ordinary : req.method ≠ .kOptions) {handler : Handler}
    (routed : handlerAt req.method req.path = some handler) :
    (responseTo env app req resp).closeConnection =
      ((handler.handle env req).run (entered app req, resp)).1.2.closeConnection := by
  rcases ran : (handler.handle env req).run (entered app req, resp) with ⟨⟨after, answer⟩, _ | _⟩
  · rename_i thrown
    cases thrown with
    | response res => exact absurd (congrArg Prod.snd ran) (handler.handle_exception res)
    | exception what =>
      rw [responseTo_thrown ordinary routed ran]
      rfl
  · rw [responseTo_returned ordinary routed ran]
    exact decorate_close ..

/-- The request is for a handler, which comes to an answer that keeps the connection open. -/
def StaysOpen (env : Environment) (app : Application) (req : HttpRequest) : Prop :=
  ∃ handler, handlerAt req.method req.path = some handler ∧
    handler.LeavesOpen env app req { closeConnection := true }

theorem responseTo_open_iff :
    (responseTo env app req { closeConnection := true }).closeConnection = false ↔ StaysOpen env app req := by
  unfold StaysOpen
  by_cases preflight : req.method = .kOptions
  · rw [responseTo_preflight preflight]
    apply iff_of_false nofun
    rintro ⟨handler, found, _⟩
    rw [preflight, handlerAt_options] at found
    cases found
  · cases routed : handlerAt req.method req.path with
    | none =>
      rw [responseTo_unrouted preflight routed]
      apply iff_of_false nofun
      rintro ⟨handler, found, _⟩
      cases found
    | some handler =>
      rw [responseTo_routed preflight routed, handler.handle_open_iff rfl]
      apply Iff.intro
      · intro open_
        exact ⟨handler, rfl, by cases handler <;> exact open_⟩
      · rintro ⟨other, found, open_⟩
        cases found
        cases handler <;> exact open_

/-! What the client gets. -/

section

variable {Engine : Type} [OpenSSL Engine]

def writtenStatusLine (response : HttpResponse) : Bytes :=
  snprintf 32 (cStr response.httpVersion ++ bytes " " ++ natText response.statusCode.toNat ++ bytes " ") ++
    response.statusMessage

/-- `Connection: close` follows the status line, and the connection is shut down once the response is sent. -/
def CloseHonoured (server : HttpServer) (conn : Connection Engine) (response : HttpResponse) : Prop :=
  (∃ rest, response.appendToBuffer = writtenStatusLine response ++ bytes "\r\nConnection: close\r\n" ++ rest) ∧
    server.onRequest conn response = (server.sendToClient conn response.appendToBuffer).shutdown

theorem appendToBuffer_split (response : HttpResponse) :
    ∃ rest, response.appendToBuffer = writtenStatusLine response ++
      ((if response.closeConnection then bytes "\r\nConnection: close\r\n"
        else bytes "\r\nConnection: Keep-Alive\r\n") ++ rest) := by
  unfold HttpResponse.appendToBuffer writtenStatusLine
  cases response.closeConnection
  all_goals
    simp only [Bool.false_eq_true, ↓reduceIte, List.append_assoc]
    exact ⟨_, rfl⟩

theorem closeHonoured_iff (server : HttpServer) (conn : Connection Engine) (response : HttpResponse) :
    CloseHonoured server conn response ↔ response.closeConnection = true := by
  rcases appendToBuffer_split response with ⟨rest, written⟩
  unfold CloseHonoured HttpServer.onRequest
  cases close : response.closeConnection with
  | true =>
    rw [close, if_pos rfl] at written
    exact iff_of_true ⟨⟨rest, written.trans (List.append_assoc ..).symm⟩, rfl⟩ rfl
  | false =>
    rw [close, if_neg nofun] at written
    apply iff_of_false _ nofun
    rintro ⟨⟨other, claimed⟩, _⟩
    rw [written, List.append_assoc, List.append_cancel_left_eq] at claimed
    -- the first letter of the header's value
    have letter := congrArg (fun text : Bytes => text[14]?) claimed
    rw [List.getElem?_append_left (by decide), List.getElem?_append_left (by decide)] at letter
    revert letter
    decide

/-- The wish of the client is honoured exactly for the requests that no handler comes to such an answer for. -/
theorem close_honoured_iff (env : Environment) (app : Application) (req : HttpRequest) (wants : wantsClose req = true)
    (after : Application) (response : HttpResponse) (answered : answer env app req = some (after, response))
    (server : HttpServer) (conn : Connection Engine) :
    CloseHonoured server conn response ↔ ¬ StaysOpen env app req := by
  have same : response = responseTo env app req { closeConnection := true } := by
    unfold answer at answered
    rw [wants] at answered
    dsimp only at answered
    split at answered
    · cases answered
    · exact (congrArg Prod.snd (Option.some.inj answered)).symm
  rw [closeHonoured_iff, ← responseTo_open_iff, ← same]
  simp

end

/-! The entry page is the only file, and nothing else is there. -/

def entryOnly : Environment where
  json := ChatLoginHandler.adaJson
  codec := knownTexts []
  login := ChatLoginHandler.adaOnly fun _ => 0
  register :=
    { crypto := ChatLoginHandler.secretCrypto
      selectUser := fun _ => .ok true
      insert := fun _ _ => .ok ()
      selectInserted := fun _ => .ok none }
  clock := .all 0
  draws := fun _ => 0
  files path := if path = ChatEntryHandler.reqFile then some (bytes "<html></html>") else none
  outside := keyless
  now := 0
  rand := 0
  loaded := .error (bytes "Failed to open label file: /root/imagenet_classes.txt")
  service := ⟨none, none, fun _ => none⟩

/-- `GET` of a path with `Connection: close`. -/
def closingGet (path : Bytes) : HttpRequest where
  method := .kGet
  version := bytes "HTTP/1.1"
  path := path
  headers := Dict.empty.insert (bytes "connection") (bytes "close")

def plain : Connection (List Bool) := HttpServer.onConnection {} none

/-- A client that asks for the entry page and to close. -/
theorem entry_page_stays_open :
    ¬ ∀ (env : Environment) (app : Application) (req : HttpRequest) (after : Application) (response : HttpResponse)
      (server : HttpServer) (conn : Connection (List Bool)),
      wantsClose req = true → answer env app req = some (after, response) → CloseHonoured server conn response := by
  intro claimed
  have close := claimed entryOnly {} (closingGet (bytes "/")) _ _ {} plain (by decide) rfl
  rw [closeHonoured_iff] at close
  revert close
  decide

/-- The menu is for users, and the client has no session. -/
theorem refused_menu_closes :
    ∃ after response, answer entryOnly {} (closingGet (bytes "/menu")) = some (after, response) ∧
      CloseHonoured {} plain response := by
  refine ⟨_, _, rfl, ?_⟩
  apply (close_honoured_iff entryOnly {} (closingGet (bytes "/menu")) (by decide) _ _ rfl {} plain).mpr
  rintro ⟨handler, found, open_⟩
  have menu : handlerAt .kGet (bytes "/menu") = some .aiMenu := by decide
  cases menu.symm.trans found
  rcases open_ with ⟨userId, user, _⟩
  have nobody : (incomingOf entryOnly {} (closingGet (bytes "/menu")) { closeConnection := true }).user = none := by
    decide
  cases nobody.symm.trans user

end Chat
