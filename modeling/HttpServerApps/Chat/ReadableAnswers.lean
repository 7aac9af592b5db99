import HttpServerApps.Chat.OwnConversations
import HttpServerApps.Http.Transcript
import HttpServerApps.Http.WellFormed
import HttpServerApps.Middleware.Injection

namespace Chat

open Common Http Middlewares Sessions

/-! Responses that are framed, but for the length of the body. -/

structure Headed (response : HttpResponse) : Prop where
  version : response.httpVersion.length ≤ 20 ∧ Plain response.httpVersion ∧ 0 ∉ response.httpVersion
  message : Plain response.statusMessage
  fields : ∀ header ∈ response.headers.entries, Plain header.1 ∧ 58 ∉ header.1 ∧ Plain header.2
  ordered : response.headers.Ordered stringLess

theorem Headed.framed {response : HttpResponse} (headed : Headed response) (short : response.body.length < 10 ^ 13) :
    Framed response := by
  rcases headed.version with ⟨room, plain, text⟩
  refine ⟨room, plain, text, headed.message, ?_, ?_, ?_, short, headed.ordered⟩
  · exact fun header member => (headed.fields header member).1
  · exact fun header member => (headed.fields header member).2.1
  · exact fun header member => (headed.fields header member).2.2

theorem fresh_headed (close : Bool) : Headed { closeConnection := close } := by
  have version : ([] : Bytes).length ≤ 20 ∧ Plain [] ∧ 0 ∉ ([] : Bytes) := by decide
  exact ⟨version, version.2.1, nofun, List.Pairwise.nil⟩

/-- The versions that the parser sets. -/
def KnownVersion (version : Bytes) : Prop := version = bytes "HTTP/1.1" ∨ version = bytes "HTTP/1.0"

section

variable {response : HttpResponse} {version message : Bytes} {statusCode : HttpStatusCode}

theorem Headed.addHeader (headed : Headed response) {key value : Bytes} (name : Plain key ∧ 58 ∉ key)
    (plain : Plain value) : Headed (response.addHeader key value) := by
  refine ⟨headed.version, headed.message, ?_, ordered_addHeader headed.ordered key value⟩
  intro header member
  rcases OrderedMap.mem_insertEntry stringLess member with rfl | before
  · exact ⟨name.1, name.2, plain⟩
  · exact headed.fields header before

theorem Headed.setStatusMessage (headed : Headed response) (plain : Plain message) :
    Headed (response.setStatusMessage message) :=
  ⟨headed.version, plain, headed.fields, headed.ordered⟩

theorem Headed.setStatusCode (headed : Headed response) : Headed (response.setStatusCode statusCode) :=
  ⟨headed.version, headed.message, headed.fields, headed.ordered⟩

theorem Headed.setCloseConnection (headed : Headed response) (on : Bool) : Headed (response.setCloseConnection on) :=
  ⟨headed.version, headed.message, headed.fields, headed.ordered⟩

theorem Headed.setBody (headed : Headed response) (body : Bytes) : Headed (response.setBody body) :=
  ⟨headed.version, headed.message, headed.fields, headed.ordered⟩

theorem KnownVersion.printed (known : KnownVersion version) :
    version.length ≤ 20 ∧ Plain version ∧ 0 ∉ version := by
  rcases known with rfl | rfl <;> decide

theorem Headed.setStatusLine (headed : Headed response) (known : KnownVersion version) (plain : Plain message) :
    Headed (response.setStatusLine version statusCode message) :=
  ⟨known.printed, plain, headed.fields, headed.ordered⟩

theorem Headed.setContent (headed : Headed response) {contentType : Bytes} (plain : Plain contentType) (body : Bytes) :
    Headed (((response.setContentType contentType).setContentLength body.length).setBody body) := by
  have typed : Headed (response.setContentType contentType) := headed.addHeader (by decide) plain
  have sized : Headed ((response.setContentType contentType).setContentLength body.length) :=
    typed.addHeader (by decide) (natText_plain _)
  exact sized.setBody body

theorem jsonResponse_headed (headed : Headed response) (known : KnownVersion version) (plain : Plain message)
    (close : Bool) (body : Bytes) : Headed (jsonResponse response version statusCode message close body) :=
  ((headed.setStatusLine known plain).setCloseConnection close).setContent (by decide) body

theorem htmlResponse_headed (headed : Headed response) (known : KnownVersion version) (content : Bytes) :
    Headed (htmlResponse response version content) :=
  ((headed.setStatusLine known (by decide)).setCloseConnection false).setContent (by decide) content

theorem generateSessionId_plain (draws : Fin 32 → Fin 16) : Plain (generateSessionId draws) := by
  have digits : ∀ n : Fin 16, hexDigit n ≠ CR ∧ hexDigit n ≠ LF := by decide
  intro c member
  rcases List.mem_map.mp member with ⟨n, _, rfl⟩
  exact digits n

theorem getSession_headed (headed : Headed response) (manager : SessionManager) (clock : Readings)
    (draws : Fin 32 → Fin 16) (req : HttpRequest) : Headed (manager.getSession clock draws req response).2.1 := by
  have start : Plain (bytes "sessionId=") := by decide
  have rest : Plain (bytes "; Path=/; HttpOnly") := by decide
  unfold SessionManager.getSession
  split
  · exact headed
  · exact headed.addHeader (by decide) ((start.append (generateSessionId_plain draws)).append rest)

/-! What the middleware adds. -/

theorem writeAll_headed {fields : List (Bytes × Bytes)} {response : HttpResponse} (headed : Headed response)
    (clean : ∀ field ∈ fields, (Plain field.1 ∧ 58 ∉ field.1) ∧ Plain field.2) :
    Headed (writeAll fields response) := by
  induction fields generalizing response with
  | nil => exact headed
  | cons field fields ih =>
    rcases clean field (List.mem_cons_self ..) with ⟨name, plain⟩
    exact ih (headed.addHeader name plain) fun other member => clean other (List.mem_cons_of_mem _ member)

/-- The config allows every origin, and answers with a star. -/
theorem decorate_headed (headed : Headed response) (origin : Bytes) :
    Headed (CorsConfig.defaultConfig.decorate origin response) := by
  by_cases answers : CorsConfig.defaultConfig.Answers origin
  · have wildcard : CorsConfig.defaultConfig.Wildcard := by decide
    have clean : ∀ field ∈ CorsConfig.defaultConfig.fields (bytes "*"),
        (Plain field.1 ∧ 58 ∉ field.1) ∧ Plain field.2 := by decide
    rw [CorsConfig.decorate_fields _ answers, resolveAllowOrigin_value answers, if_pos wildcard]
    exact writeAll_headed headed clean
  · rw [CorsConfig.decorate_unanswered _ answers]
    exact headed

end

/-! The calls of the handlers. -/

section

variable {State Problem Value : Type} (respOf : State → HttpResponse)

def IsHeaded (state : State) : Prop := Headed (respOf state)

/-- The response stays headed, however the call ends. -/
def StaysHeaded (call : Throwing State Problem Value) : Prop :=
  Throwing.Triple (IsHeaded respOf) call (fun _ => IsHeaded respOf) fun _ => IsHeaded respOf

variable {respOf}

theorem StaysHeaded.run {call : Throwing State Problem Value} (stays : StaysHeaded respOf call) {state : State}
    (headed : IsHeaded respOf state) : IsHeaded respOf (call.run state).1 := by
  have reached := Throwing.Triple.run stays state headed
  cases ran : call.run state with
  | mk after outcome =>
    rw [ran] at reached
    cases outcome <;> exact reached

theorem framed_headed {incoming : Incoming} {refuse : Throwing State Failure Unit}
    {work : Int32 → Throwing State Failure Unit} {caught : Bytes → Throwing State Failure Unit}
    (refused : StaysHeaded respOf refuse) (worked : ∀ userId, StaysHeaded respOf (work userId))
    (failed : ∀ what, StaysHeaded respOf (caught what)) :
    StaysHeaded respOf (framed incoming refuse work caught) := by
  apply Throwing.Triple.attempt
  · split
    · exact refused
    · exact (Throwing.triple_call _).bind worked
  · intro failure
    cases failure with
    | exception what => exact failed what
    | undefined => exact Throwing.triple_call _

end

/-! The handlers of the sessions. -/

section

variable {json : JsonLibrary} {req : HttpRequest} {message : Bytes} {statusCode : HttpStatusCode} {close : Bool}

theorem respond_headed (known : KnownVersion req.version)
    (plain : Plain message) {body : Bytes} :
    StaysHeaded Exchange.resp (respond req.version statusCode message close body) :=
  Throwing.triple_modify fun _ headed => jsonResponse_headed headed known plain close body

theorem failWith_headed (known : KnownVersion req.version) (what : Bytes) :
    StaysHeaded Exchange.resp (failWith json req.version what) :=
  (Throwing.triple_call _).bind fun _ => respond_headed known (by decide)

theorem onGetSession_headed (clock : Readings) (draws : Fin 32 → Fin 16) :
    StaysHeaded Exchange.resp (getSession clock draws req) :=
  Throwing.triple_update fun _ headed => getSession_headed headed ..

theorem onSessions_headed (change : SessionManager → SessionManager) : StaysHeaded Exchange.resp (onSessions change) :=
  Throwing.triple_modify fun _ headed => headed

theorem onOnlineUsers_headed (change : Dict Int32 Bool → Dict Int32 Bool) :
    StaysHeaded Exchange.resp (onOnlineUsers change) :=
  Throwing.triple_modify fun _ headed => headed

theorem login_headed (known : KnownVersion req.version)
    (env : ChatLoginHandler.Surroundings) : StaysHeaded Exchange.resp (ChatLoginHandler.handle json env req) := by
  have welcomed : ∀ userId username,
      StaysHeaded Exchange.resp (ChatLoginHandler.welcome json env req userId username) := by
    intro userId username
    apply Throwing.Triple.bind (onGetSession_headed _ _)
    intro session
    apply Throwing.Triple.bind (onSessions_headed _)
    intro _
    apply Throwing.Triple.bind (onSessions_headed _)
    intro _
    apply Throwing.Triple.bind (onSessions_headed _)
    intro _
    apply Throwing.Triple.bind (Throwing.triple_read _)
    intro free
    split
    · apply Throwing.Triple.bind (onOnlineUsers_headed _)
      intro _
      exact (Throwing.triple_call _).bind fun _ => respond_headed known (by decide)
    · exact (Throwing.triple_call _).bind fun _ => respond_headed known (by decide)
  unfold ChatLoginHandler.handle
  split
  · exact respond_headed known (by decide)
  · apply Throwing.Triple.attempt _ (failWith_headed known)
    apply Throwing.Triple.bind (Throwing.triple_call _)
    rintro ⟨username, password⟩
    apply Throwing.Triple.bind (Throwing.triple_call _)
    intro userId
    split
    · exact welcomed ..
    · exact (Throwing.triple_call _).bind fun _ => respond_headed known (by decide)

theorem register_headed (known : KnownVersion req.version)
    (env : ChatRegisterHandler.Surroundings) :
    StaysHeaded Exchange.resp (ChatRegisterHandler.handle json env req) := by
  apply Throwing.Triple.bind (Throwing.triple_call _)
  rintro ⟨username, password⟩
  apply Throwing.Triple.bind (Throwing.triple_call _)
  intro userId
  split
  · exact (Throwing.triple_call _).bind fun _ => respond_headed known (by decide)
  · exact (Throwing.triple_call _).bind fun _ => respond_headed known (by decide)

theorem logout_headed (known : KnownVersion req.version) (clock : Readings)
    (draws : Fin 32 → Fin 16) : StaysHeaded Exchange.resp (ChatLogoutHandler.handle json clock draws req) := by
  unfold ChatLogoutHandler.handle
  split
  · exact respond_headed known (by decide)
  · apply Throwing.Triple.attempt _ (failWith_headed known)
    apply Throwing.Triple.bind (onGetSession_headed _ _)
    intro session
    apply Throwing.Triple.bind (Throwing.triple_read _)
    intro userIdText
    apply Throwing.Triple.bind (Throwing.triple_call _)
    intro userId
    apply Throwing.Triple.bind (onSessions_headed _)
    intro _
    apply Throwing.Triple.bind (Throwing.triple_read _)
    intro sessionId
    apply Throwing.Triple.bind (onSessions_headed _)
    intro _
    apply Throwing.Triple.bind (Throwing.triple_call _)
    intro _
    apply Throwing.Triple.bind (onOnlineUsers_headed _)
    intro _
    exact (Throwing.triple_call _).bind fun _ => respond_headed known (by decide)

end

/-! The handlers that ask for the session first. -/

section

variable {json : JsonCodec} {version message : Bytes} {statusCode : HttpStatusCode} {close : Bool} {body : Json}
  {incoming : Incoming}

theorem answerWith_headed (known : KnownVersion version) (plain : Plain message) :
    StaysHeaded Visit.resp (answerWith json version statusCode message close body) :=
  (Throwing.triple_call _).bind fun _ =>
    Throwing.triple_modify fun _ headed => jsonResponse_headed headed known plain close _

theorem onMemory_headed (change : ChatMemory → ChatMemory) : StaysHeaded Visit.resp (onMemory change) :=
  Throwing.triple_modify fun _ headed => headed

theorem chatIn_headed (question : Question) (outside : Outside) :
    StaysHeaded Visit.resp (chatIn json question outside) := by
  apply Throwing.Triple.mk
  intro visit headed
  unfold chatIn
  dsimp only
  cases ((AIHelper.chat json question outside).run
    ⟨visit.memory.helper question.userId question.sessionId, visit.memory.published⟩).2 <;> exact headed

theorem authorized_headed (known : KnownVersion incoming.req.version) {handler : Int32 → Visiting Unit}
    (worked : ∀ userId, StaysHeaded Visit.resp (handler userId)) :
    StaysHeaded Visit.resp (authorized json incoming handler) :=
  framed_headed (answerWith_headed known (by decide)) worked fun _ =>
    answerWith_headed known (by decide)

theorem servePage_headed (known : KnownVersion incoming.req.version) (reqFile : Bytes) (files : Files) :
    StaysHeaded Visit.resp (servePage reqFile json files incoming) := by
  apply authorized_headed known
  intro userId
  apply Throwing.Triple.bind (Throwing.triple_call _)
  intro htmlContent
  exact Throwing.triple_modify fun _ headed => htmlResponse_headed headed known _

/-- The three handlers that come to a conversation. -/
theorem talks_headed (known : KnownVersion incoming.req.version) {Fields : Type}
    {read : Except Failure Fields} {change : Int32 → Fields → ChatMemory → ChatMemory}
    {next : Int32 → Fields → Visiting Unit} (stays : ∀ userId fields, StaysHeaded Visit.resp (next userId fields)) :
    StaysHeaded Visit.resp (authorized json incoming fun userId => Throwing.call read >>= fun fields =>
      onMemory (change userId fields) >>= fun _ => next userId fields) := by
  apply authorized_headed known
  intro userId
  apply Throwing.Triple.bind (Throwing.triple_call _)
  intro fields
  apply Throwing.Triple.bind (onMemory_headed _)
  intro _
  exact stays userId fields

theorem upload_headed (known : KnownVersion incoming.req.version) (loaded : Except Bytes ImageRecognizer) :
    StaysHeaded AIUploadSendHandler.respOf (AIUploadSendHandler.handle json loaded incoming) := by
  have answers : ∀ {statusCode : HttpStatusCode} {message : Bytes} {close : Bool} {body : Json}, Plain message →
      StaysHeaded AIUploadSendHandler.respOf
        (onVisit (answerWith json incoming.req.version statusCode message close body)) :=
    fun plain => Throwing.Triple.within (fun _ _ => rfl) (answerWith_headed known plain)
  have recognizes : ∀ userId, StaysHeaded AIUploadSendHandler.respOf
      (AIUploadSendHandler.recognizerOf loaded userId) := by
    intro userId
    apply Throwing.Triple.mk
    intro upload headed
    rcases AIUploadSendHandler.recognizerOf_run loaded userId upload with ⟨imageRecognizerMap, ran⟩
    rw [ran]
    cases throwing (AIUploadSendHandler.recognizerFor upload.imageRecognizerMap loaded userId) <;> exact headed
  apply framed_headed (answers (by decide)) _ fun _ => answers (by decide)
  intro userId
  apply Throwing.Triple.bind (recognizes userId)
  intro recognizer
  apply Throwing.Triple.bind (Throwing.triple_call _)
  intro fields
  apply Throwing.Triple.bind (Throwing.triple_call _)
  intro imgData
  apply Throwing.Triple.bind (Throwing.triple_call _)
  intro className
  exact answers (by decide)

end

/-! The handlers of the route table. -/

section

variable {env : Environment} {app after : Application} {req : HttpRequest} {resp response : HttpResponse}

theorem uploading_headed {handler : Incoming → Uploading Unit}
    (stays : StaysHeaded AIUploadSendHandler.respOf (handler (incomingOf env app req resp))) (headed : Headed resp) :
    Headed ((uploading env req handler).run (app, resp)).1.2 := by
  rw [uploading_resp]
  apply stays.run
  exact getSession_headed headed ..

theorem visiting_headed {handler : Incoming → Visiting Unit}
    (stays : StaysHeaded Visit.resp (handler (incomingOf env app req resp))) (headed : Headed resp) :
    Headed ((visiting env req handler).run (app, resp)).1.2 :=
  uploading_headed (Throwing.Triple.within (fun _ _ => rfl) stays) headed

theorem Handler.handle_headed (handler : Handler) (known : KnownVersion req.version) (headed : Headed resp) :
    Headed ((handler.handle env req).run (app, resp)).1.2 := by
  have mine : KnownVersion (incomingOf env app req resp).req.version := known
  cases handler
  all_goals unfold Handler.handle
  case chatEntry =>
    change Headed ((ChatEntryHandler.handle env.files req).run resp).1
    unfold ChatEntryHandler.handle
    rw [Throwing.run_call_bind]
    cases pageContent env.files ChatEntryHandler.reqFile with
    | ok content => exact htmlResponse_headed headed known content
    | error what => exact headed
  case chatLogin => exact (login_headed known env.login).run headed
  case chatRegister => exact (register_headed known env.register).run headed
  case chatLogout => exact (logout_headed known env.clock env.draws).run headed
  case aiUploadSend => exact uploading_headed (upload_headed mine env.loaded) headed
  all_goals refine visiting_headed ?_ headed
  case chat | aiMenu | aiUpload => exact servePage_headed mine ..
  case chatSend =>
    exact talks_headed mine fun _ _ => (chatIn_headed ..).bind fun _ => answerWith_headed mine (by decide)
  case chatHistory =>
    exact talks_headed mine fun _ _ =>
      (Throwing.triple_read _).bind fun _ => answerWith_headed mine (by decide)
  case chatCreateAndSend =>
    exact talks_headed mine fun _ _ => (chatIn_headed ..).bind fun _ => answerWith_headed mine (by decide)
  case chatSessions =>
    apply authorized_headed mine
    intro userId
    apply Throwing.Triple.bind (Throwing.triple_read _)
    intro ids
    exact (onMemory_headed _).bind fun _ => answerWith_headed mine (by decide)
  case chatSpeech =>
    apply authorized_headed mine
    intro _
    apply Throwing.Triple.bind (Throwing.triple_call _)
    intro text
    exact (Throwing.triple_call _).bind fun _ => answerWith_headed mine (by decide)

/-! The whole request. -/

theorem answerTo_headed {what : Bytes} (headed : Headed resp) : Headed (answerTo (.exception what) resp) :=
  (headed.setStatusCode.setStatusMessage (by decide)).setBody _

theorem responseTo_headed (known : KnownVersion req.version)
    (configured : app.corsMiddleware.config = .defaultConfig) (headed : Headed resp) :
    Headed (responseTo env app req resp) := by
  by_cases preflight : req.method = .kOptions
  · unfold responseTo
    rw [handleRequest_thrown (before_preflight preflight)]
    change Headed (app.corsMiddleware.config.handlePreflightRequest req {})
    rw [handlePreflightRequest_eq, configured]
    exact (decorate_headed (fresh_headed true) _).setStatusCode
  cases routed : handlerAt req.method req.path with
  | none =>
    have nowhere : route env req = pure false := by
      unfold route
      rw [initializeRouter_route, routed]
      rfl
    unfold responseTo
    rw [handleRequest_routed (before_run preflight) (by rw [nowhere]; rfl) (after_run _)]
    change Headed (app.corsMiddleware.config.decorate _ _)
    rw [configured]
    exact decorate_headed ((headed.setStatusCode.setStatusMessage (by decide)).setCloseConnection true) _
  | some handler =>
    have handled : Headed ((handler.handle env req).run (entered app req, resp)).1.2 :=
      handler.handle_headed known headed
    have kept := @handle_config env req handler (entered app req) resp
    rcases ran : (handler.handle env req).run (entered app req, resp) with ⟨⟨after, answer⟩, thrown | _⟩
    · rw [ran] at handled
      cases thrown with
      | response res => exact absurd (congrArg Prod.snd ran) (handler.handle_exception res)
      | exception what =>
        rw [responseTo_thrown preflight routed ran]
        exact @answerTo_headed answer what handled
    · rw [ran] at handled kept
      change after.corsMiddleware = (entered app req).corsMiddleware at kept
      rw [responseTo_returned preflight routed ran, kept]
      change Headed (app.corsMiddleware.config.decorate _ answer)
      rw [configured]
      exact decorate_headed handled _

/-- Whatever the handlers meet outside, the answer has a head that is framed. -/
theorem answer_framed (known : KnownVersion req.version) (configured : app.corsMiddleware.config = .defaultConfig)
    (answered : answer env app req = some (after, response)) (short : response.body.length < 10 ^ 13) :
    Framed response := by
  refine Headed.framed ?_ short
  rw [(answer_sent answered).1]
  exact responseTo_headed known configured (fresh_headed _)

end

theorem config_run {json : JsonLibrary} {codec : JsonCodec} {memory : ChatMemory} {actions : List ServerAction}
    {final : Application} (run : (serving json codec).run (initialised memory) actions = some final) :
    final.corsMiddleware.config = .defaultConfig := by
  let Default (app : Application) : Prop := app.corsMiddleware.config = .defaultConfig
  refine @System.run_preserves _ _ (serving json codec) Default ?_ (initialised memory) final actions rfl run
  intro app action next step configured
  change serveStep json codec app action = some next at step
  cases action with
  | sweep now =>
    cases step
    exact configured
  | request arrival =>
    rcases Option.map_eq_some_iff.mp step with ⟨⟨after, response⟩, answered, rfl⟩
    exact (answer_config answered).trans configured

/-- In every state the server comes to, a client reads the answer to a request that the parser took as the response
    that the server made, and the stream goes on behind it. -/
theorem answer_read (json : JsonLibrary) (codec : JsonCodec) (memory : ChatMemory) {actions : List ServerAction}
    {app : Application} (run : (serving json codec).run (initialised memory) actions = some app) {arrival : Arrival}
    {maxBodyBytes : UInt64} (formed : WellFormed maxBodyBytes arrival.req) {after : Application}
    {response : HttpResponse} (answered : answer (arrival.env json codec) app arrival.req = some (after, response))
    (short : response.body.length < 10 ^ 13) (more : Bytes) :
    Message.read (response.appendToBuffer ++ more) = some (response.message, more) :=
  Message.read_response (answer_framed formed.version (config_run run) answered short) more

end Chat
