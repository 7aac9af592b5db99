import HttpServerApps.Chat.Logout
import HttpServerApps.Chat.Pages
import HttpServerApps.Chat.Register
import HttpServerApps.Chat.Speech
import HttpServerApps.Chat.Upload
import HttpServerApps.Http.Server
import HttpServerApps.Middleware.Cors
import HttpServerApps.Router.Router

namespace Chat

open Common Http Middlewares Routing Sessions

/-- What the handlers and the middleware of the server share. -/
structure Application where
  server : ChatServer := {}
  memory : ChatMemory := {}
  imageRecognizerMap : Dict Int32 ImageRecognizer := .empty
  corsMiddleware : CorsMiddleware := { config := .defaultConfig }
  /-- Set by a handler that does what the JSON library leaves undefined. -/
  undefined : Bool := false

/-- What a request meets outside the server. -/
structure Environment where
  json : JsonLibrary
  codec : JsonCodec
  login : ChatLoginHandler.Surroundings
  register : ChatRegisterHandler.Surroundings
  clock : Readings
  draws : Fin 32 → Fin 16
  files : Files
  outside : Outside
  now : Int64
  rand : Int32
  loaded : Except Bytes ImageRecognizer
  service : SpeechService

/-- A handler at work on its request. -/
abbrev Serving (Value : Type) := Throwing (Application × HttpResponse) Thrown Value

def answering (handler : Throwing HttpResponse Bytes Unit) : Serving Unit :=
  (handler.within Prod.snd fun resp state => (state.1, resp)).rethrow .exception

def exchanging (handler : Handling Unit) : Serving Unit :=
  (handler.within (fun state => ⟨state.1.server, state.2⟩) fun exchange state =>
    ({ state.1 with server := exchange.server }, exchange.resp)).rethrow .exception

/-- The request with what the session of `getSession` tells of its user. -/
def incomingOf (env : Environment) (app : Application) (req : HttpRequest) (resp : HttpResponse) : Incoming :=
  let (manager, resp, session) := app.server.sessionManager.getSession env.clock env.draws req resp
  { isLoggedIn := manager.getValue session (bytes "isLoggedIn")
    userId := manager.getValue session (bytes "userId")
    username := manager.getValue session (bytes "username")
    req, resp }

def afterSession (env : Environment) (app : Application) (req : HttpRequest) (resp : HttpResponse) : Application :=
  { app with
    server.sessionManager := (app.server.sessionManager.getSession env.clock env.draws req resp).1 }

/-- A handler that asks for the session first. -/
def uploading (env : Environment) (req : HttpRequest) (handler : Incoming → Uploading Unit) : Serving Unit :=
  ⟨fun (app, resp) =>
    let incoming := incomingOf env app req resp
    let app := afterSession env app req resp
    let (upload, outcome) := (handler incoming).run ⟨app.imageRecognizerMap, app.memory, incoming.resp⟩
    let app := { app with memory := upload.visit.memory, imageRecognizerMap := upload.imageRecognizerMap }
    match outcome with
    | .ok () => ((app, upload.visit.resp), .ok ())
    | .error (.exception what) => ((app, upload.visit.resp), .error (.exception what))
    | .error .undefined => (({ app with undefined := true }, upload.visit.resp), .error (.exception []))⟩

def visiting (env : Environment) (req : HttpRequest) (handler : Incoming → Visiting Unit) : Serving Unit :=
  uploading env req fun incoming => onVisit (handler incoming)

/-- The handler objects of the route table. -/
inductive Handler where
  | chatEntry
  | chatLogin
  | chatRegister
  | chatLogout
  | chat
  | chatSend
  | aiMenu
  | aiUpload
  | aiUploadSend
  | chatHistory
  | chatCreateAndSend
  | chatSessions
  | chatSpeech
  deriving DecidableEq

def Handler.handle (env : Environment) (req : HttpRequest) : Handler → Serving Unit
  | chatEntry => answering (ChatEntryHandler.handle env.files req)
  | chatLogin => exchanging (ChatLoginHandler.handle env.json env.login req)
  | chatRegister => exchanging (ChatRegisterHandler.handle env.json env.register req)
  | chatLogout => exchanging (ChatLogoutHandler.handle env.json env.clock env.draws req)
  | chat => visiting env req (ChatHandler.handle env.codec env.files)
  | chatSend => visiting env req (ChatSendHandler.handle env.codec · env.outside)
  | aiMenu => visiting env req (AIMenuHandler.handle env.codec env.files)
  | aiUpload => visiting env req (AIUploadHandler.handle env.codec env.files)
  | aiUploadSend => uploading env req (AIUploadSendHandler.handle env.codec env.loaded)
  | chatHistory => visiting env req (ChatHistoryHandler.handle env.codec)
  | chatCreateAndSend => visiting env req (ChatCreateAndSendHandler.handle env.codec · env.now env.rand env.outside)
  | chatSessions => visiting env req (ChatSessionsHandler.handle env.codec)
  | chatSpeech => visiting env req (ChatSpeechHandler.handle env.codec env.outside.getenv env.service)

def initializeRouter : Router Handler Empty :=
  ({} : Router Handler Empty)
    |>.registerHandler .kGet (bytes "/") .chatEntry
    |>.registerHandler .kGet (bytes "/entry") .chatEntry
    |>.registerHandler .kPost (bytes "/login") .chatLogin
    |>.registerHandler .kPost (bytes "/register") .chatRegister
    |>.registerHandler .kPost (bytes "/user/logout") .chatLogout
    |>.registerHandler .kGet (bytes "/chat") .chat
    |>.registerHandler .kPost (bytes "/chat/send") .chatSend
    |>.registerHandler .kGet (bytes "/menu") .aiMenu
    |>.registerHandler .kGet (bytes "/upload") .aiUpload
    |>.registerHandler .kPost (bytes "/upload/send") .aiUploadSend
    |>.registerHandler .kPost (bytes "/chat/history") .chatHistory
    |>.registerHandler .kPost (bytes "/chat/send-new-session") .chatCreateAndSend
    |>.registerHandler .kGet (bytes "/chat/sessions") .chatSessions
    |>.registerHandler .kPost (bytes "/chat/tts") .chatSpeech

/-- The handler object of a method and a path. -/
def handlerAt (method : Method) (path : Bytes) : Option Handler := initializeRouter.handlers.find (method, path)

/-- The middleware that `initializeMiddleware` adds. -/
def corsMiddlewareHooks : Middleware Application where
  before request :=
    (CorsMiddleware.before request).within Application.corsMiddleware fun corsMiddleware app =>
      { app with corsMiddleware }
  after :=
    CorsMiddleware.after.within (fun state => (state.1.corsMiddleware, state.2)) fun after state =>
      ({ state.1 with corsMiddleware := after.1 }, after.2)

def route (env : Environment) (req : HttpRequest) : Serving Bool :=
  match initializeRouter.route req with
  | some (.handler handler, newReq) => do
    handler.handle env newReq
    return true
  | some (.callback callback, _) => nomatch callback
  | none => return false

/-- The response that `onRequest` sends, with what the request leaves; `none` where that is undefined. -/
def answer (env : Environment) (app : Application) (req : HttpRequest) : Option (Application × HttpResponse) :=
  let (after, _) :=
    (handleRequest [corsMiddlewareHooks] (route env) req).run (app, { closeConnection := wantsClose req })
  if after.1.undefined then none else some after

/-- `handleRequest` as the callback of the HTTP server. -/
def httpCallback (env : Environment) (app : Application) (req : HttpRequest) (resp : HttpResponse) :
    Except Thrown HttpResponse :=
  let (after, outcome) := (handleRequest [corsMiddlewareHooks] (route env) req).run (app, resp)
  outcome.map fun _ => after.2

/-- What `answer` gives is what `onRequest` is left with, and the connection is ready for the next request. -/
theorem dispatch_answer {Engine : Type} [Ssl.OpenSSL Engine] (server : HttpServer) (conn : Connection Engine)
    (delivery : Delivery) (env : Environment) (app after : Application) (response : HttpResponse)
    (installed : delivery.httpCallback = httpCallback env app)
    (answered : answer env app conn.context.request = some (after, response)) :
    server.dispatch conn delivery =
      .ok ((server.onRequest { conn with dispatched := conn.dispatched ++ [conn.context.request] } response).setContext
        conn.context.reset) := by
  have called : delivery.httpCallback conn.context.request { closeConnection := wantsClose conn.context.request } =
      .ok response := by
    have returns := handleRequest_returns [corsMiddlewareHooks] (route env) conn.context.request
      (app, { closeConnection := wantsClose conn.context.request })
    rw [installed]
    unfold httpCallback
    unfold answer at answered
    cases ran : (handleRequest [corsMiddlewareHooks] (route env) conn.context.request).run
      (app, { closeConnection := wantsClose conn.context.request }) with
    | mk ended outcome =>
      rw [ran] at returns answered
      cases returns
      dsimp only at answered ⊢
      split at answered
      · cases answered
      · cases answered
        rfl
  unfold HttpServer.dispatch
  dsimp only
  rw [called]

/-- The exact routes are all there is. -/
theorem initializeRouter_route (req : HttpRequest) :
    initializeRouter.route req = (handlerAt req.method req.path).map fun handler => (.handler handler, req) := by
  have nothing : ∀ {Target : Type}, searchBuckets (.empty : Buckets Target) req = none := by
    intro Target
    unfold searchBuckets
    rw [List.findSome?_eq_none_iff]
    intro key _
    rfl
  unfold Router.route handlerAt
  cases found : initializeRouter.handlers.find (req.method, req.path) with
  | some handler => rfl
  | none =>
    dsimp only
    have noHandler : searchBuckets initializeRouter.regexHandlersByPrefix req = none := nothing
    have noCallback : searchBuckets initializeRouter.regexCallbacksByPrefix req = none := nothing
    rw [noHandler, noCallback]
    rfl

theorem handlerAt_options (path : Bytes) : handlerAt .kOptions path = none := by
  unfold handlerAt initializeRouter Router.registerHandler
  simp [Dict.find_insert]

end Chat
