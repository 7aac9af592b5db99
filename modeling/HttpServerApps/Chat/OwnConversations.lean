import HttpServerApps.Chat.Authority

namespace Chat

open Common Http Middlewares Routing Sessions

/-! The conversations of the whole server are those of the four handlers that work on them. -/

/-- The requests of a run to the conversations, each with the response that is sent. -/
def chatLog (json : JsonLibrary) (codec : JsonCodec) :
    Application → List ServerAction → List (ChatRequest × HttpResponse)
  | _, [] => []
  | app, .sweep now :: actions =>
    chatLog json codec { app with server.sessionManager := app.server.sessionManager.cleanExpiredSessions now } actions
  | app, .request arrival :: actions =>
    match answer (arrival.env json codec) app arrival.req with
    | none => []
    | some (after, response) =>
      ((chatRequest (arrival.env json codec) app arrival.req).map fun request => (request, response)).toList ++
        chatLog json codec after actions

/-- What is sent for what the handler of the request left: with the headers for the origin of the request, or the
    500 made of it. -/
def sentFor (config : CorsConfig) (request : ChatRequest) : Served → HttpResponse
  | (resp, .ok ()) => config.decorate (request.incoming.req.getHeader (bytes "Origin")) resp
  | (resp, .error _) => failed500 resp

/-- Both logs are of the same requests, and each response is made of what the handler left. -/
def Matches (config : CorsConfig) : List (ChatRequest × HttpResponse) → List (ChatRequest × Served) → Prop :=
  List.Forall₂ fun entry served => entry.1 = served.1 ∧ entry.2 = sentFor config entry.1 served.2

section

variable {env : Environment} {app after : Application} {req : HttpRequest} {response : HttpResponse}

/-- The handler of such a request, on what the memory is. -/
theorem chatRequest_handler {request : ChatRequest} (made : chatRequest env app req = some request) :
    ∃ handler, handlerAt req.method req.path = some handler ∧ request.incoming = incoming env app req ∧
      ∃ work : Incoming → Visiting Unit, handler.handle env req = visiting env req work ∧
        work (incoming env app req) = request.handle env.codec := by
  unfold chatRequest at made
  split at made
  case h_5 => cases made
  all_goals
    rename_i routed
    cases made
    exact ⟨_, routed, rfl, _, rfl, rfl⟩

section

variable {resp : HttpResponse} {work : Incoming → Visiting Unit} {visit : Visit}

theorem visiting_run {outcome : Except Failure Unit}
    (ran : (work (incomingOf env app req resp)).run ⟨app.memory, (incomingOf env app req resp).resp⟩ =
      (visit, outcome)) :
    (visiting env req work).run (app, resp) =
      match outcome with
      | .ok () => (({ afterSession env app req resp with memory := visit.memory }, visit.resp), .ok ())
      | .error (.exception what) =>
        (({ afterSession env app req resp with memory := visit.memory }, visit.resp), .error (.exception what))
      | .error .undefined =>
        (({ afterSession env app req resp with memory := visit.memory, undefined := true }, visit.resp),
          .error (.exception [])) := by
  have through : (onVisit (work (incomingOf env app req resp))).run
      ⟨app.imageRecognizerMap, app.memory, (incomingOf env app req resp).resp⟩ =
        (⟨app.imageRecognizerMap, visit⟩, outcome) := Throwing.run_within ran
  unfold visiting uploading
  simp only [afterSession, through]
  rcases outcome with failure | _
  · cases failure <;> rfl
  · rfl

end

/-- What is sent is what `handleRequest` leaves, which is defined. -/
theorem answer_sent (answered : answer env app req = some (after, response)) :
    response = responseTo env app req { closeConnection := wantsClose req } ∧
      ((handleRequest [corsMiddlewareHooks] (route env) req).run
        (app, { closeConnection := wantsClose req })).1.1.undefined = false := by
  unfold answer at answered
  dsimp only at answered
  split at answered
  · cases answered
  · rename_i defined
    exact ⟨(congrArg Prod.snd (Option.some.inj answered)).symm, Bool.eq_false_iff.mpr defined⟩

/-- A request to the conversations does to them, and answers, what its handler does. -/
theorem answer_served {request : ChatRequest} (made : chatRequest env app req = some request)
    (answered : answer env app req = some (after, response)) :
    ∃ output, servedStep env.codec app.memory request = some (after.memory, output) ∧
      response = sentFor app.corsMiddleware.config request output := by
  rcases chatRequest_handler made with ⟨handler, routed, same, work, handles, works⟩
  have ordinary := routed_ordinary routed
  have left := (answer_leaves answered).memory
  rcases answer_sent answered with ⟨sent, defined⟩
  unfold memoryAfter at left
  rw [made, Option.elim_some, ← serve_memory] at left
  unfold servedStep
  rcases served : request.serve env.codec app.memory with ⟨visit, outcome⟩
  have here : (work (incomingOf env (entered app req) req { closeConnection := wantsClose req })).run
      ⟨(entered app req).memory, (incomingOf env (entered app req) req { closeConnection := wantsClose req }).resp⟩ =
        (visit, outcome) := by
    change (work (incoming env app req)).run ⟨app.memory, (incoming env app req).resp⟩ = _
    rw [works, ← same]
    exact served
  have ran := visiting_run here
  rw [← handles] at ran
  rw [served] at left
  rw [left]
  rcases outcome with failure | _
  · cases failure with
    | exception what =>
      refine ⟨_, rfl, ?_⟩
      rw [sent, responseTo_thrown ordinary routed ran]
      rfl
    | undefined =>
      rw [handleRequest_handled routed, ran] at defined
      cases defined
  · refine ⟨_, rfl, ?_⟩
    rw [sent, responseTo_returned ordinary routed ran]
    unfold sentFor
    rw [same]
    rfl

/-! No request changes the config of the middleware. -/

theorem uploading_config (work : Incoming → Uploading Unit) (app : Application) (resp : HttpResponse) :
    ((uploading env req work).run (app, resp)).1.1.corsMiddleware = app.corsMiddleware := by
  unfold uploading
  dsimp only
  split <;> rfl

theorem handle_config (handler : Handler) (app : Application) (resp : HttpResponse) :
    ((handler.handle env req).run (app, resp)).1.1.corsMiddleware = app.corsMiddleware := by
  have visited : ∀ work : Incoming → Visiting Unit,
      ((visiting env req work).run (app, resp)).1.1.corsMiddleware = app.corsMiddleware :=
    fun work => uploading_config (fun request => onVisit (work request)) app resp
  cases handler
  case chatEntry | chatLogin | chatRegister | chatLogout => rfl
  case aiUploadSend => exact uploading_config (AIUploadSendHandler.handle env.codec env.loaded) app resp
  all_goals
    unfold Handler.handle
    exact visited _

theorem answer_config (answered : answer env app req = some (after, response)) :
    after.corsMiddleware.config = app.corsMiddleware.config := by
  have same : after = ((handleRequest [corsMiddlewareHooks] (route env) req).run
      (app, { closeConnection := wantsClose req })).1.1 := by
    unfold answer at answered
    dsimp only at answered
    split at answered
    · cases answered
    · exact (congrArg Prod.fst (Option.some.inj answered)).symm
  rw [same]
  cases routed : handlerAt req.method req.path with
  | some handler =>
    rw [handleRequest_handled routed, handle_config]
    rfl
  | none =>
    rw [handleRequest_unrouted routed]
    rfl

end

/-! Runs. -/

section

variable {json : JsonLibrary} {codec : JsonCodec}

theorem chatStep_served {memory next : ChatMemory} {request : ChatRequest} {output : Served}
    (step : servedStep codec memory request = some (next, output)) : chatStep codec memory request = some next := by
  unfold servedStep at step
  unfold chatStep
  rcases ran : request.serve codec memory with ⟨visit, failure | _⟩ <;> rw [ran] at step
  · cases failure with
    | exception what =>
      cases step
      rfl
    | undefined => cases step
  · cases step
    rfl

/-- What the whole server does to the conversations, and sends for them, the four handlers do on their own. -/
theorem chats_refined (config : CorsConfig) (app : Application) (configured : app.corsMiddleware.config = config)
    {actions : List ServerAction} {final : Application} (run : (serving json codec).run app actions = some final) :
    (chats codec).run app.memory ((chatLog json codec app actions).map Prod.fst) = some final.memory ∧
      ∃ log, (served codec).transcript app.memory ((chatLog json codec app actions).map Prod.fst) = some log ∧
        Matches config (chatLog json codec app actions) log := by
  induction actions generalizing app with
  | nil =>
    cases run
    exact ⟨rfl, [], rfl, .nil⟩
  | cons action actions ih =>
    rcases Option.bind_eq_some_iff.mp run with ⟨next, step, later⟩
    change serveStep json codec app action = some next at step
    cases action with
    | sweep now =>
      cases step
      refine ih _ ?_ later
      exact configured
    | request arrival =>
      rcases Option.map_eq_some_iff.mp step with ⟨⟨after, response⟩, answered, rfl⟩
      rcases ih _ ((answer_config answered).trans configured) later with ⟨chatted, log, transcript, same⟩
      unfold chatLog
      rw [answered]
      dsimp only
      cases made : chatRequest (arrival.env json codec) app arrival.req with
      | none =>
        have kept : after.memory = app.memory := by
          rw [(answer_leaves answered).memory]
          unfold memoryAfter
          rw [made]
          rfl
        rw [← kept]
        exact ⟨chatted, log, transcript, same⟩
      | some request =>
        rcases answer_served made answered with ⟨output, step, delivered⟩
        rw [configured] at delivered
        refine ⟨?_, (request, output) :: log, ?_, .cons ⟨rfl, delivered⟩ same⟩
        · exact (System.run_cons (chatStep_served step) _).trans chatted
        · exact Machine.transcript_cons step transcript

/-- Authenticated as the user. -/
def ownOf (userId : Int32) (request : ChatRequest) : Bool := request.user = some userId

/-- The same conversations for the user, the same list of them and the same rows in the queue. -/
structure HeldFor (userId : Int32) (memory twin : ChatMemory) : Prop where
  same : SameFor userId memory twin
  published : publishedFor userId memory.published = publishedFor userId twin.published

/-- A request of the user queues the same rows on memories that are the same for the user. -/
theorem own_published {userId : Int32} {request : ChatRequest} {memory twin : ChatMemory}
    (own : request.user = some userId) (held : HeldFor userId memory twin) :
    publishedFor userId (request.after codec memory).published =
      publishedFor userId (request.after codec twin).published := by
  have chatted : ∀ (question : Question) outside (first second : ChatMemory), question.userId = userId →
      HeldFor userId first second →
      publishedFor userId (first.afterChat codec question outside).published =
        publishedFor userId (second.afterChat codec question outside).published := by
    intro question outside first second mine held
    subst mine
    rw [afterChat_appends, afterChat_appends, held.same.helper question.sessionId]
    unfold publishedFor
    rw [List.filter_append, List.filter_append]
    exact congrArg (· ++ _) held.published
  unfold ChatRequest.after
  rw [own]
  cases request with
  | send incoming outside =>
    dsimp only
    cases ChatSendHandler.readFields codec incoming.req.content with
    | error failure => exact held.published
    | ok fields => exact chatted _ _ _ _ rfl ⟨held.same.enter _, held.published⟩
  | sendNewSession incoming now rand outside =>
    dsimp only
    cases ChatCreateAndSendHandler.readFields codec incoming.req.content with
    | error failure => exact held.published
    | ok fields =>
      apply chatted _ _ _ _ rfl
      refine ⟨held.same.enterListed _, ?_⟩
      rw [enterListed_published, enterListed_published]
      exact held.published
  | history incoming =>
    dsimp only
    cases ChatHistoryHandler.readSessionId codec incoming.req.content with
    | error failure => exact held.published
    | ok sessionId => exact held.published
  | sessions incoming => exact held.published

theorem served_unwinds_own (userId : Int32) : (served codec).Unwinds (HeldFor userId) (ownOf userId) := by
  apply Machine.Unwinds.mk
  · intro memory twin request next output foreign step held
    obtain rfl := servedStep_after step
    have other : request.user ≠ some userId := of_decide_eq_false foreign
    exact ⟨(sameFor_after codec other).trans held.same, (after_published codec memory other).trans held.published⟩
  · intro memory twin request next output own step held
    have user : request.user = some userId := of_decide_eq_true own
    have concerned : notOfOthers userId request = true := by simp [notOfOthers, user]
    rcases (served_unwinds codec userId).own memory twin request next output concerned step held.same with
      ⟨after, again, same⟩
    refine ⟨after, again, same, ?_⟩
    rw [servedStep_after step, servedStep_after again]
    exact own_published user held

/-- The requests of others take part in what a user has as little as in what the user is shown. -/
theorem own_run (userId : Int32) {memory twin final : ChatMemory} {requests : List ChatRequest}
    (run : (chats codec).run memory requests = some final)
    {log : List (ChatRequest × Served)} (transcript : (served codec).transcript memory requests = some log)
    (same : HeldFor userId memory twin) :
    ∃ alone, (chats codec).run twin (requests.filter (ownOf userId)) = some alone ∧ HeldFor userId final alone := by
  induction requests generalizing memory twin log with
  | nil =>
    cases run
    exact ⟨twin, rfl, same⟩
  | cons request requests ih =>
    rcases Option.bind_eq_some_iff.mp transcript with ⟨⟨next, output⟩, step, later⟩
    rcases Option.map_eq_some_iff.mp later with ⟨rest, ran, rfl⟩
    have chatted : (chats codec).step memory request = some next := chatStep_served step
    rw [System.run_cons chatted] at run
    cases own : ownOf userId request with
    | false =>
      rw [List.filter_cons_of_neg (ne_true_of_eq_false own)]
      exact ih run ran ((served_unwinds_own userId).others _ _ _ _ _ own step same)
    | true =>
      rcases (served_unwinds_own userId).own _ _ _ _ _ own step same with ⟨after, again, sameAfter⟩
      rw [List.filter_cons_of_pos own, System.run_cons (chatStep_served again)]
      exact ih run ran sameAfter

theorem Matches.filter {config : CorsConfig} {entries : List (ChatRequest × HttpResponse)}
    {log : List (ChatRequest × Served)} (same : Matches config entries log) (keep : ChatRequest → Bool) :
    Matches config (entries.filter fun entry => keep entry.1) (log.filter fun entry => keep entry.1) := by
  induction same with
  | nil => exact .nil
  | @cons entry served entries log first rest ih =>
    rcases first with ⟨request, delivered⟩
    have other : keep served.1 = keep entry.1 := congrArg keep request.symm
    cases kept : keep entry.1 with
    | false =>
      simp only [List.filter_cons, other, kept, Bool.false_eq_true, ↓reduceIte]
      exact ih
    | true =>
      simp only [List.filter_cons, other, kept, ↓reduceIte]
      exact .cons ⟨request, delivered⟩ ih

/-- Whatever else the server does, the conversations of a user, the rows queued for the user and the responses sent to
    the user's requests are those that these requests would make alone. -/
theorem own_requests_alone (json : JsonLibrary) (codec : JsonCodec) (userId : Int32) (app : Application)
    {actions : List ServerAction} {final : Application} (run : (serving json codec).run app actions = some final) :
    let mine := (chatLog json codec app actions).filter fun entry => ownOf userId entry.1
    (∃ alone, (chats codec).run app.memory (mine.map Prod.fst) = some alone ∧ HeldFor userId final.memory alone) ∧
      ∃ log, (served codec).transcript app.memory (mine.map Prod.fst) = some log ∧
        Matches app.corsMiddleware.config mine log := by
  rcases chats_refined _ app rfl run with ⟨chatted, log, transcript, same⟩
  have requests : ((chatLog json codec app actions).filter fun entry => ownOf userId entry.1).map Prod.fst =
      ((chatLog json codec app actions).map Prod.fst).filter (ownOf userId) := by
    rw [List.filter_map]
    rfl
  dsimp only
  rw [requests]
  have start : HeldFor userId app.memory app.memory := ⟨⟨rfl, rfl⟩, rfl⟩
  refine ⟨own_run userId chatted transcript start, _, ?_, same.filter (ownOf userId)⟩
  exact (served_unwinds_own userId).transcript start transcript

end

/-- Ada's question for her conversations, after her login. -/
def adaAsksSessions : Arrival := visits { closingGet (bytes "/chat/sessions") with
  headers := Dict.empty.insert (bytes "cookie") (bytes "sessionId=" ++ generateSessionId fun _ => 0) }

def adaAsks : List ServerAction := [.request adaArrives, .request adaAsksSessions]

theorem ada_is_shown :
    ∃ final log, (serving ChatLoginHandler.adaJson (knownTexts [])).run {} adaAsks = some final ∧
      ((chatLog ChatLoginHandler.adaJson (knownTexts []) {} adaAsks).filter
        fun entry => ownOf 7 entry.1).length = 1 ∧
      Matches .defaultConfig
        ((chatLog ChatLoginHandler.adaJson (knownTexts []) {} adaAsks).filter fun entry => ownOf 7 entry.1) log := by
  rcases Option.isSome_iff_exists.mp (show ((serving ChatLoginHandler.adaJson (knownTexts [])).run {}
    adaAsks).isSome = true by decide) with ⟨final, run⟩
  rcases own_requests_alone ChatLoginHandler.adaJson (knownTexts []) 7 {} run with ⟨_, log, _, same⟩
  exact ⟨final, log, run, by decide, same⟩

end Chat
