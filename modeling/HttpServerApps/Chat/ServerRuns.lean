import HttpServerApps.Chat.CloseHonoured
import HttpServerApps.Chat.Isolation

namespace Chat

open Common Http Middlewares Routing Sessions

/-! The whole server, one request after another. -/

/-- A request with what it meets outside the server, but for the JSON library. -/
structure Arrival where
  login : ChatLoginHandler.Surroundings
  register : ChatRegisterHandler.Surroundings
  clock : Readings
  draws : Fin 32 → Fin 16
  files : Files
  outside : Outside
  now : Int64
  rand : Int32
  loaded : Except Bytes ImageRecognizer
  service : SpeechService
  req : HttpRequest

def Arrival.env (json : JsonLibrary) (codec : JsonCodec) (arrival : Arrival) : Environment where
  json
  codec
  login := arrival.login
  register := arrival.register
  clock := arrival.clock
  draws := arrival.draws
  files := arrival.files
  outside := arrival.outside
  now := arrival.now
  rand := arrival.rand
  loaded := arrival.loaded
  service := arrival.service

/-- A request at a server that has nothing but the entry page. -/
def visits (req : HttpRequest) : Arrival where
  login := entryOnly.login
  register := entryOnly.register
  clock := entryOnly.clock
  draws := entryOnly.draws
  files := entryOnly.files
  outside := entryOnly.outside
  now := entryOnly.now
  rand := entryOnly.rand
  loaded := entryOnly.loaded
  service := entryOnly.service
  req

inductive ServerAction where
  | request (arrival : Arrival)
  | sweep (now : Int)

/-- A request whose outcome is undefined is not followed by another. -/
def serveStep (json : JsonLibrary) (codec : JsonCodec) (app : Application) : ServerAction → Option Application
  | .request arrival => (answer (arrival.env json codec) app arrival.req).map Prod.fst
  | .sweep now => some { app with server.sessionManager := app.server.sessionManager.cleanExpiredSessions now }

def serving (json : JsonLibrary) (codec : JsonCodec) : System Application ServerAction := ⟨serveStep json codec⟩

/-- The server before its first request, with the conversations that `initChatMessage` has read. -/
def initialised (memory : ChatMemory) : Application := { memory := memory }

/-- What the handler of a request is told of its session. -/
def incoming (env : Environment) (app : Application) (req : HttpRequest) : Incoming :=
  incomingOf env app req { closeConnection := wantsClose req }

/-- The request as one to the conversations, where its handler works on these. -/
def chatRequest (env : Environment) (app : Application) (req : HttpRequest) : Option ChatRequest :=
  match handlerAt req.method req.path with
  | some .chatSend => some (.send (incoming env app req) env.outside)
  | some .chatCreateAndSend => some (.sendNewSession (incoming env app req) env.now env.rand env.outside)
  | some .chatHistory => some (.history (incoming env app req))
  | some .chatSessions => some (.sessions (incoming env app req))
  | _ => none

/-- The user a request works for: the one it logs in, or the one of its session. -/
def actor (env : Environment) (app : Application) (req : HttpRequest) : Option Int32 :=
  match handlerAt req.method req.path with
  | some .chatLogin => (ChatLoginHandler.admitted env.json env.login req).map Prod.fst
  | some .chatLogout => if badContent req then none else (stoi (incoming env app req).userId).toOption
  | some .chatEntry | some .chatRegister | none => none
  | _ => (incoming env app req).user

/-! What the handlers of the sessions leave of the memory. -/

section

variable {json : JsonCodec}

/-- The page handlers and the speech handler only answer. -/
theorem authorized_answers (request : Incoming) {handler : Int32 → Visiting Unit}
    (keeps : ∀ userId visit, ((handler userId).run visit).1.memory = visit.memory) (visit : Visit) :
    ((authorized json request handler).run visit).1.memory = visit.memory := by
  rw [authorized_memory]
  cases request.user with
  | none => rfl
  | some userId => exact keeps userId visit

theorem servePage_memory (reqFile : Bytes) (files : Files) (request : Incoming) (visit : Visit) :
    ((servePage reqFile json files request).run visit).1.memory = visit.memory := by
  apply authorized_answers
  intro userId visit
  rw [Throwing.run_call_bind]
  cases throwing (pageContent files reqFile) <;> rfl

theorem speech_memory (getenv : Getenv) (service : SpeechService) (request : Incoming) (visit : Visit) :
    ((ChatSpeechHandler.handle json getenv service request).run visit).1.memory = visit.memory := by
  apply authorized_answers
  intro userId visit
  rw [Throwing.run_call_bind]
  cases ChatSpeechHandler.readText json request.req.content with
  | error failure => rfl
  | ok text =>
    dsimp only
    rw [Throwing.run_call_bind]
    cases throwing (ChatSpeechHandler.speechUrl json getenv service text) with
    | error failure => rfl
    | ok url => exact answerWith_memory ..

end

namespace AIUploadSendHandler

variable {json : JsonCodec} {loaded : Except Bytes ImageRecognizer}

/-- The recognizers after a request of this user. -/
def recognizersAfter (loaded : Except Bytes ImageRecognizer) (userId : Int32)
    (imageRecognizerMap : Dict Int32 ImageRecognizer) : Dict Int32 ImageRecognizer :=
  match recognizerFor imageRecognizerMap loaded userId with
  | .ok recognizer => imageRecognizerMap.insert userId recognizer
  | .error _ => imageRecognizerMap

theorem recognizerOf_after (userId : Int32) (upload : Upload) :
    (recognizerOf loaded userId).run upload =
      (⟨recognizersAfter loaded userId upload.imageRecognizerMap, upload.visit⟩,
        throwing (recognizerFor upload.imageRecognizerMap loaded userId)) := by
  unfold recognizerOf recognizersAfter recognizerFor
  rw [Throwing.run_read_bind]
  cases there : upload.imageRecognizerMap.find userId with
  | some recognizer =>
    dsimp only
    rw [Dict.insert_found there]
    rfl
  | none =>
    dsimp only
    rw [Throwing.run_call_bind]
    cases loaded with
    | ok recognizer => rfl
    | error what => rfl

/-- The two parts of the state that answers do not touch. -/
def Kept (before after : Upload) : Prop :=
  after.imageRecognizerMap = before.imageRecognizerMap ∧ after.visit.memory = before.visit.memory

theorem answer_kept (version : Bytes) (statusCode : HttpStatusCode) (statusMessage : Bytes) (close : Bool)
    (body : Json) (upload : Upload) :
    Kept upload ((onVisit (answerWith json version statusCode statusMessage close body)).run upload).1 :=
  ⟨rfl, answerWith_memory ..⟩

theorem work_left (request : Incoming) (userId : Int32) (upload : Upload) :
    Kept ⟨recognizersAfter loaded userId upload.imageRecognizerMap, upload.visit⟩
      ((work json loaded request userId).run upload).1 := by
  have kept : ∀ upload, Kept upload upload := fun _ => ⟨rfl, rfl⟩
  unfold work
  have ran := @recognizerOf_after loaded userId upload
  cases found : recognizerFor upload.imageRecognizerMap loaded userId with
  | error what =>
    rw [found] at ran
    rw [Throwing.run_bind_error ran]
    exact kept _
  | ok recognizer =>
    rw [found] at ran
    rw [Throwing.run_bind_ok ran, Throwing.run_call_bind]
    cases readFields json request.req.content with
    | error failure => exact kept _
    | ok fields =>
      dsimp only
      rw [Throwing.run_call_bind]
      cases throwing (imageOf fields) with
      | error failure => exact kept _
      | ok imgData =>
        dsimp only
        rw [Throwing.run_call_bind]
        cases throwing (recognizer.predictFromBuffer imgData) with
        | error failure => exact kept _
        | ok className => exact answer_kept ..

/-- A request without a user leaves both parts alone; one of a user may load the recognizer of the user. -/
theorem Kept.attempt {body : Uploading Unit} {handler : Failure → Uploading Unit} {upload after : Upload}
    (left : Kept after (body.run upload).1)
    (handled : ∀ failure middle, Kept middle ((handler failure).run middle).1) :
    Kept after ((Throwing.attempt body handler).run upload).1 := by
  unfold Throwing.attempt
  dsimp only
  cases run : body.run upload with
  | mk middle outcome =>
    rw [run] at left
    cases outcome with
    | ok _ => exact left
    | error failure =>
      rcases handled failure middle with ⟨first, second⟩
      exact ⟨first.trans left.1, second.trans left.2⟩

theorem handle_left (request : Incoming) (upload : Upload) :
    Kept ⟨request.user.elim upload.imageRecognizerMap fun userId =>
        recognizersAfter loaded userId upload.imageRecognizerMap, upload.visit⟩
      ((handle json loaded request).run upload).1 := by
  unfold handle
  apply Kept.attempt
  · unfold Incoming.user
    by_cases loggedIn : request.isLoggedIn = bytes "true"
    · simp only [loggedIn, ne_eq, not_true_eq_false, ↓reduceIte, Throwing.run_call_bind]
      cases stoi request.userId with
      | error what => exact ⟨rfl, rfl⟩
      | ok userId => exact work_left request userId upload
    · simp only [loggedIn, ne_eq, not_false_eq_true, ↓reduceIte]
      exact answer_kept ..
  · intro failure middle
    cases failure with
    | exception what => exact answer_kept ..
    | undefined => exact ⟨rfl, rfl⟩

end AIUploadSendHandler

/-! What one request leaves of the application. -/

section

variable {env : Environment} {app : Application} {req : HttpRequest} {resp : HttpResponse}

theorem handleRequest_unrouted (unrouted : handlerAt req.method req.path = none) :
    ((handleRequest [corsMiddlewareHooks] (route env) req).run (app, resp)).1.1 = entered app req := by
  by_cases preflight : req.method = .kOptions
  · rw [handleRequest_thrown (before_preflight preflight)]
  · have nowhere : route env req = pure false := by
      unfold route
      rw [initializeRouter_route, unrouted]
      rfl
    rw [handleRequest_routed (before_run preflight) (by rw [nowhere]; rfl) (after_run _)]

theorem routed_ordinary {handler : Handler} (routed : handlerAt req.method req.path = some handler) :
    req.method ≠ .kOptions := by
  intro preflight
  rw [preflight, handlerAt_options] at routed
  cases routed

theorem handleRequest_handled {handler : Handler} (routed : handlerAt req.method req.path = some handler) :
    ((handleRequest [corsMiddlewareHooks] (route env) req).run (app, resp)).1.1 =
      ((handler.handle env req).run (entered app req, resp)).1.1 := by
  have ordinary := routed_ordinary routed
  rcases ran : (handler.handle env req).run (entered app req, resp) with ⟨⟨after, answer⟩, thrown | _⟩
  · have handled : (route env req).run (entered app req, resp) = ((after, answer), .error thrown) := by
      rw [route_handler routed]
      exact Throwing.run_bind_error ran _
    rw [handleRequest_threw (before_run ordinary) handled]
  · have handled : (route env req).run (entered app req, resp) = ((after, answer), .ok true) := by
      rw [route_handler routed, Throwing.run_bind_ok ran]
      rfl
    rw [handleRequest_routed (before_run ordinary) handled (after_run _)]

variable (env app req)

/-- The sessions and the table of the users online after a request. -/
def serverAfter : ChatServer :=
  match handlerAt req.method req.path with
  | some .chatLogin =>
    ((ChatLoginHandler.handle env.json env.login req).run
      ⟨app.server, { closeConnection := wantsClose req }⟩).1.server
  | some .chatLogout =>
    ChatLogoutHandler.left env.json env.clock env.draws req ⟨app.server, { closeConnection := wantsClose req }⟩
  | some .chatEntry | some .chatRegister | none => app.server
  | _ => (afterSession env app req { closeConnection := wantsClose req }).server

/-- The conversations after a request. -/
def memoryAfter : ChatMemory :=
  (chatRequest env app req).elim app.memory fun request => request.after env.codec app.memory

/-- The recognizers after a request. -/
def imagesAfter : Dict Int32 ImageRecognizer :=
  if handlerAt req.method req.path = some .aiUploadSend then
    (incoming env app req).user.elim app.imageRecognizerMap fun userId =>
      AIUploadSendHandler.recognizersAfter env.loaded userId app.imageRecognizerMap
  else app.imageRecognizerMap

/-- What a request leaves, in the parts that requests share. -/
structure Leaves (after : Application) : Prop where
  server : after.server = serverAfter env app req
  memory : after.memory = memoryAfter env app req
  images : after.imageRecognizerMap = imagesAfter env app req

variable {env app req}

theorem uploading_parts (handler : Incoming → Uploading Unit) (app : Application) :
    let upload := ((handler (incomingOf env app req resp)).run
      ⟨app.imageRecognizerMap, app.memory, (incomingOf env app req resp).resp⟩).1
    let after := ((uploading env req handler).run (app, resp)).1.1
    after.server = (afterSession env app req resp).server ∧ after.memory = upload.visit.memory ∧
      after.imageRecognizerMap = upload.imageRecognizerMap := by
  unfold uploading
  dsimp only
  split <;> exact ⟨rfl, rfl, rfl⟩

theorem register_server (exchange : Exchange) :
    ((ChatRegisterHandler.handle env.json env.register req).run exchange).1.server = exchange.server := by
  unfold ChatRegisterHandler.handle
  rw [Throwing.run_call_bind]
  cases ChatLoginHandler.credentials env.json req.content with
  | error what => rfl
  | ok given =>
    dsimp only
    rw [Throwing.run_call_bind]
    cases ChatRegisterHandler.insertUser env.register given.1 given.2 with
    | error what => rfl
    | ok userId =>
      dsimp only
      split
      · rw [Throwing.run_call_bind]
        split <;> rfl
      · rw [Throwing.run_call_bind]
        split <;> rfl

theorem visiting_parts (handler : Incoming → Visiting Unit) (app : Application) :
    let after := ((visiting env req handler).run (app, resp)).1.1
    after.server = (afterSession env app req resp).server ∧
      after.memory = ((handler (incomingOf env app req resp)).run
        ⟨app.memory, (incomingOf env app req resp).resp⟩).1.memory ∧
      after.imageRecognizerMap = app.imageRecognizerMap :=
  uploading_parts (fun request => onVisit (handler request)) app

/-- What the handler of a request leaves, on the state that the middleware has seen. -/
theorem handler_leaves {handler : Handler} (routed : handlerAt req.method req.path = some handler) :
    Leaves env app req
      ((handler.handle env req).run (entered app req, { closeConnection := wantsClose req })).1.1 := by
  have visited : ∀ (work : Incoming → Visiting Unit),
      serverAfter env app req = (afterSession env app req { closeConnection := wantsClose req }).server →
      ((work (incoming env app req)).run ⟨app.memory, (incoming env app req).resp⟩).1.memory = memoryAfter env app req →
      imagesAfter env app req = app.imageRecognizerMap →
      Leaves env app req
        ((visiting env req work).run (entered app req, { closeConnection := wantsClose req })).1.1 := by
    intro work server memory images
    rcases @visiting_parts env req { closeConnection := wantsClose req } work (entered app req) with
      ⟨first, second, third⟩
    exact ⟨first.trans server.symm, second.trans memory, third.trans images.symm⟩
  have request : ∀ request : ChatRequest, request.incoming = incoming env app req →
      ((request.handle env.codec).run ⟨app.memory, (incoming env app req).resp⟩).1.memory =
        request.after env.codec app.memory := by
    intro request same
    rw [← same]
    exact serve_memory app.memory request
  cases handler
  all_goals unfold Handler.handle
  case chatEntry =>
    refine ⟨?_, ?_, ?_⟩ <;> simp only [serverAfter, memoryAfter, imagesAfter, chatRequest, routed] <;> rfl
  case chatLogin =>
    refine ⟨?_, ?_, ?_⟩ <;> simp only [serverAfter, memoryAfter, imagesAfter, chatRequest, routed] <;> rfl
  case chatRegister =>
    refine ⟨?_, ?_, ?_⟩ <;> simp only [serverAfter, memoryAfter, imagesAfter, chatRequest, routed]
    · exact register_server _
    · rfl
    · rfl
  case chatLogout =>
    refine ⟨?_, ?_, ?_⟩ <;> simp only [serverAfter, memoryAfter, imagesAfter, chatRequest, routed]
    · rcases ChatLogoutHandler.handle_run env.json env.clock env.draws req
        ⟨app.server, { closeConnection := wantsClose req }⟩ with ⟨resp, outcome, ran⟩
      exact congrArg (fun result : Exchange × Except Bytes Unit => result.1.server) ran
    · rfl
    · rfl
  case chat | aiMenu | aiUpload =>
    apply visited <;> simp only [serverAfter, memoryAfter, imagesAfter, chatRequest, routed]
    · exact servePage_memory ..
    · rfl
  case chatSpeech =>
    apply visited <;> simp only [serverAfter, memoryAfter, imagesAfter, chatRequest, routed]
    · exact speech_memory ..
    · rfl
  case chatSend =>
    apply visited <;> simp only [serverAfter, memoryAfter, imagesAfter, chatRequest, routed]
    · exact request (.send (incoming env app req) env.outside) rfl
    · rfl
  case chatCreateAndSend =>
    apply visited <;> simp only [serverAfter, memoryAfter, imagesAfter, chatRequest, routed]
    · exact request (.sendNewSession (incoming env app req) env.now env.rand env.outside) rfl
    · rfl
  case chatHistory =>
    apply visited <;> simp only [serverAfter, memoryAfter, imagesAfter, chatRequest, routed]
    · exact request (.history (incoming env app req)) rfl
    · rfl
  case chatSessions =>
    apply visited <;> simp only [serverAfter, memoryAfter, imagesAfter, chatRequest, routed]
    · exact request (.sessions (incoming env app req)) rfl
    · rfl
  case aiUploadSend =>
    rcases @uploading_parts env req { closeConnection := wantsClose req }
      (AIUploadSendHandler.handle env.codec env.loaded) (entered app req) with ⟨server, memory, images⟩
    rcases @AIUploadSendHandler.handle_left env.codec env.loaded (incoming env app req)
      ⟨app.imageRecognizerMap, app.memory, (incoming env app req).resp⟩ with ⟨loaded, kept⟩
    refine ⟨?_, ?_, ?_⟩ <;> simp only [serverAfter, memoryAfter, imagesAfter, chatRequest, routed]
    · exact server
    · exact memory.trans kept
    · exact images.trans loaded

theorem answer_leaves {after : Application} {response : HttpResponse}
    (answered : answer env app req = some (after, response)) : Leaves env app req after := by
  have same : after = ((handleRequest [corsMiddlewareHooks] (route env) req).run
      (app, { closeConnection := wantsClose req })).1.1 := by
    unfold answer at answered
    dsimp only at answered
    split at answered
    · cases answered
    · exact (congrArg Prod.fst (Option.some.inj answered)).symm
  rw [same]
  cases routed : handlerAt req.method req.path with
  | some handler =>
    rw [handleRequest_handled routed]
    exact handler_leaves routed
  | none =>
    rw [handleRequest_unrouted routed]
    refine ⟨?_, ?_, ?_⟩ <;> simp only [serverAfter, memoryAfter, imagesAfter, chatRequest, routed] <;> rfl

end

end Chat
