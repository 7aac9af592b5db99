import HttpServerApps.Chat.OnlineRuns
import HttpServerApps.Chat.Authentication
import HttpServerApps.Chat.ServerRuns

namespace Chat

open Common Http Middlewares Routing Sessions

/-! Whose sessions the storage holds. -/

/-- The session lasts an hour, and is empty or logged in as a user that is allowed. -/
structure Proper (Allowed : Int32 → Prop) (object : Session) : Prop where
  hour : object.maxAge = 3600
  owner : object.data = .empty ∨ ∃ userId, LoggedIn object userId ∧ Allowed userId

structure Owned (Allowed : Int32 → Prop) (manager : SessionManager) : Prop where
  consistent : manager.Consistent
  proper : ∀ key object, manager.lookup key = some object → Proper Allowed object

section

variable {Allowed : Int32 → Prop} {manager after : SessionManager} {clock : Readings} {cookie key : Bytes}
  {session : Handle} {object : Session}

theorem Owned.obtained_proper (owned : Owned Allowed manager)
    (obtained : SessionManager.Obtained manager after clock cookie key session object) : Proper Allowed object := by
  rcases obtained.origin with ⟨_, _, old, found, _, same, sameAge⟩ | ⟨_, empty, hour⟩
  · have proper := owned.proper cookie old found
    refine ⟨sameAge.trans proper.hour, ?_⟩
    rcases proper.owner with empty | ⟨userId, mine, allowed⟩
    · exact Or.inl (same.trans empty)
    · refine Or.inr ⟨userId, ?_, allowed⟩
      unfold LoggedIn
      rw [same]
      exact mine
  · exact ⟨hour, Or.inl empty⟩

/-- A change of what is under one key keeps the storage in order, if it leaves such a session there. -/
theorem Owned.replace (owned : Owned Allowed manager) {final : SessionManager} (consistent : final.Consistent)
    (others : ∀ other, other ≠ key → final.lookup other = manager.lookup other ∨ final.lookup other = none)
    (here : ∀ object, final.lookup key = some object → Proper Allowed object) : Owned Allowed final := by
  refine ⟨consistent, ?_⟩
  intro other object found
  by_cases same : other = key
  · subst same
    exact here object found
  · rcases others other same with kept | gone
    · exact owned.proper other object (kept.symm.trans found)
    · rw [gone] at found
      cases found

theorem obtained_others (obtained : SessionManager.Obtained manager after clock cookie key session object)
    (other : Bytes) (different : other ≠ key) :
    after.lookup other = manager.lookup other ∨ after.lookup other = none := by
  rcases obtained.others other different with same | ⟨gone, _⟩
  · exact Or.inl same
  · exact Or.inr gone

theorem Owned.getSession (owned : Owned Allowed manager)
    (obtained : SessionManager.Obtained manager after clock cookie key session object) : Owned Allowed after := by
  apply owned.replace obtained.held.consistent (obtained_others obtained)
  intro held found
  rw [obtained.held.lookup] at found
  cases found
  exact owned.obtained_proper obtained

/-- A login writes to its own session only. -/
theorem authenticate_held (held : after.Held key session object) (userId : Int32) (username : Bytes) :
    (∃ written, (ChatLoginHandler.authenticate after session userId username).Held key session written ∧
        LoggedIn written userId ∧ written.maxAge = object.maxAge ∧ written.expiryTime = object.expiryTime) ∧
      ∀ other, other ≠ key →
        (ChatLoginHandler.authenticate after session userId username).lookup other = after.lookup other := by
  rcases held.setValue (bytes "userId") (intText userId.toInt) with ⟨first, firstOthers⟩
  rcases first.setValue (bytes "username") username with ⟨second, secondOthers⟩
  rcases second.setValue (bytes "isLoggedIn") (bytes "true") with ⟨third, thirdOthers⟩
  refine ⟨⟨_, third, ⟨rfl, rfl⟩, rfl, rfl⟩, ?_⟩
  intro other different
  rw [ChatLoginHandler.authenticate, thirdOthers other different, secondOthers other different,
    firstOthers other different]

theorem Owned.authenticate (owned : Owned Allowed manager)
    (obtained : SessionManager.Obtained manager after clock cookie key session object) {userId : Int32}
    (allowed : Allowed userId) (username : Bytes) :
    Owned Allowed (ChatLoginHandler.authenticate after session userId username) := by
  rcases authenticate_held obtained.held userId username with ⟨⟨written, held, mine, age, _⟩, others⟩
  apply owned.replace held.consistent
  · intro other different
    rcases obtained_others obtained other different with kept | gone
    · exact Or.inl ((others other different).trans kept)
    · exact Or.inr ((others other different).trans gone)
  · intro stored found
    rw [held.lookup] at found
    cases found
    exact ⟨age.trans (owned.obtained_proper obtained).hour, Or.inr ⟨userId, mine, allowed⟩⟩

theorem Owned.destroy (owned : Owned Allowed manager)
    (obtained : SessionManager.Obtained manager after clock cookie key session object) :
    Owned Allowed ((after.clear session).destroySession
      ((((after.clear session).object session).map Session.sessionId).getD [])) := by
  rcases obtained.held.onObject Session.clear rfl with ⟨held, others⟩
  rw [obtained.held.clearedId]
  apply owned.replace (held.consistent.erase key)
  · intro other different
    rw [SessionManager.lookup_destroySession, if_neg different]
    rcases obtained_others obtained other different with kept | gone
    · exact Or.inl ((others other different).trans kept)
    · exact Or.inr ((others other different).trans gone)
  · intro object found
    rw [SessionManager.lookup_destroySession, if_pos rfl] at found
    cases found

theorem Owned.sweep (owned : Owned Allowed manager) (now : Int) :
    Owned Allowed (manager.cleanExpiredSessions now) := by
  refine ⟨owned.consistent.cleanExpiredSessions now, ?_⟩
  intro key object found
  rw [SessionManager.lookup_cleanExpiredSessions owned.consistent, Option.filter_eq_some_iff] at found
  exact owned.proper key object found.1

/-- The session says that it is logged in exactly when it names an allowed user. -/
theorem Owned.values (owned : Owned Allowed manager)
    (obtained : SessionManager.Obtained manager after clock cookie key session object) :
    (after.getValue session (bytes "isLoggedIn") ≠ bytes "true" ∧ after.getValue session (bytes "userId") = []) ∨
      ∃ userId, after.getValue session (bytes "isLoggedIn") = bytes "true" ∧
        after.getValue session (bytes "userId") = intText userId.toInt ∧ Allowed userId := by
  rw [obtained.held.getValue, obtained.held.getValue]
  rcases (owned.obtained_proper obtained).owner with empty | ⟨userId, mine, allowed⟩
  · left
    unfold Session.getValue
    rw [empty]
    exact ⟨by decide, rfl⟩
  · refine Or.inr ⟨userId, ?_, mine.getValue, allowed⟩
    unfold Session.getValue
    rw [mine.1]
    rfl

end

/-! What the server holds for a user. -/

structure Holdings where
  conversations : Option (Dict Bytes AIHelper) := none
  sessionIds : Option (List Bytes) := none
  recognizer : Option ImageRecognizer := none
  online : Option Bool := none
  published : List ChatInsert := []

def publishedFor (userId : Int32) (published : List ChatInsert) : List ChatInsert :=
  published.filter fun row => row.userId = userId

def Application.holdings (app : Application) (userId : Int32) : Holdings where
  conversations := app.memory.chatInformation.find userId
  sessionIds := app.memory.sessionsIdsMap.find userId
  recognizer := app.imageRecognizerMap.find userId
  online := app.server.onlineUsers.find userId
  published := publishedFor userId app.memory.published

theorem effect_inserts (question : Question) (outside : Outside) (effect : AIHelper.Effect) (row : ChatInsert)
    (member : row ∈ effect.inserts question outside) : row.userId = question.userId := by
  cases effect with
  | nothing => cases member
  | promptLeft prompt => cases member
  | questionOnly =>
    cases List.mem_singleton.mp member
    rfl
  | both answer =>
    rcases List.mem_cons.mp member with rfl | second
    · rfl
    · cases List.mem_singleton.mp second
      rfl

/-- What a chat publishes depends on its own conversation only. -/
theorem afterChat_appends (json : JsonCodec) (question : Question) (outside : Outside) (memory : ChatMemory) :
    (memory.afterChat json question outside).published =
      memory.published ++ (AIHelper.effect json question outside
        (memory.helper question.userId question.sessionId).messages).inserts question outside := by
  rcases @AIHelper.chat_leaves json question outside
    ⟨memory.helper question.userId question.sessionId, memory.published⟩ with ⟨strategy, outcome, ran, _⟩
  unfold ChatMemory.afterChat
  rw [ran]

/-- A chat publishes rows of its own user only. -/
theorem afterChat_published {json : JsonCodec} {question : Question} {outside : Outside} {memory : ChatMemory}
    {userId : Int32} (different : userId ≠ question.userId) :
    publishedFor userId (memory.afterChat json question outside).published =
      publishedFor userId memory.published := by
  have nothing : publishedFor userId ((AIHelper.effect json question outside
      (memory.helper question.userId question.sessionId).messages).inserts question outside) = [] := by
    apply List.filter_eq_nil_iff.mpr
    intro row member
    rw [effect_inserts question outside _ row member]
    simp [Ne.symm different]
  rw [afterChat_appends]
  unfold publishedFor at nothing ⊢
  rw [List.filter_append, nothing, List.append_nil]

theorem enterListed_published (memory : ChatMemory) (userId : Int32) (sessionId : Bytes) :
    (memory.enterListed userId sessionId).published = memory.published := by
  unfold ChatMemory.enterListed
  split <;> rfl

theorem after_published (json : JsonCodec) (memory : ChatMemory) {request : ChatRequest} {userId : Int32}
    (foreign : request.user ≠ some userId) :
    publishedFor userId (request.after json memory).published = publishedFor userId memory.published := by
  unfold ChatRequest.after
  cases user : request.user with
  | none => rfl
  | some other =>
    have different : userId ≠ other := by
      rintro rfl
      exact foreign user
    cases request with
    | send incoming outside =>
      dsimp only
      cases ChatSendHandler.readFields json incoming.req.content with
      | error failure => rfl
      | ok fields => exact afterChat_published different
    | sendNewSession incoming now rand outside =>
      dsimp only
      cases ChatCreateAndSendHandler.readFields json incoming.req.content with
      | error failure => rfl
      | ok fields =>
        have chatted := @afterChat_published json
          ⟨other, incoming.username, AISessionIdGenerator.generate now rand, fields.userQuestion, fields.modelType⟩
          outside (memory.enterListed other (AISessionIdGenerator.generate now rand)) userId different
        rw [enterListed_published] at chatted
        exact chatted
    | history incoming =>
      dsimp only
      cases ChatHistoryHandler.readSessionId json incoming.req.content with
      | error failure => rfl
      | ok sessionId => rfl
    | sessions incoming => rfl

section

variable {env : Environment} {app after : Application} {req : HttpRequest} {userId : Int32}

theorem chatRequest_user {request : ChatRequest} (made : chatRequest env app req = some request) :
    request.user = actor env app req := by
  unfold chatRequest at made
  unfold actor
  split at made
  case h_5 => cases made
  all_goals
    rename_i routed
    cases made
    rw [routed]
    rfl

theorem memory_foreign (foreign : actor env app req ≠ some userId) :
    SameFor userId (memoryAfter env app req) app.memory ∧
      publishedFor userId (memoryAfter env app req).published = publishedFor userId app.memory.published := by
  unfold memoryAfter
  cases made : chatRequest env app req with
  | none => exact ⟨⟨rfl, rfl⟩, rfl⟩
  | some request =>
    have other : request.user ≠ some userId := by
      rw [chatRequest_user made]
      exact foreign
    exact ⟨sameFor_after env.codec other, after_published env.codec app.memory other⟩

theorem recognizersAfter_find {loaded : Except Bytes ImageRecognizer} {owner : Int32}
    {imageRecognizerMap : Dict Int32 ImageRecognizer} (different : userId ≠ owner) :
    (AIUploadSendHandler.recognizersAfter loaded owner imageRecognizerMap).find userId =
      imageRecognizerMap.find userId := by
  unfold AIUploadSendHandler.recognizersAfter
  cases AIUploadSendHandler.recognizerFor imageRecognizerMap loaded owner with
  | error what => rfl
  | ok recognizer => exact Dict.find_insert_of_ne _ _ _ _ different

theorem images_foreign (foreign : actor env app req ≠ some userId) :
    (imagesAfter env app req).find userId = app.imageRecognizerMap.find userId := by
  unfold imagesAfter
  split
  · rename_i routed
    unfold actor at foreign
    rw [routed] at foreign
    dsimp only at foreign
    cases user : (incoming env app req).user with
    | none => rfl
    | some owner =>
      apply recognizersAfter_find
      rintro rfl
      exact foreign user
  · rfl

theorem online_foreign (foreign : actor env app req ≠ some userId) :
    (serverAfter env app req).onlineUsers.find userId = app.server.onlineUsers.find userId := by
  unfold serverAfter
  split
  · rename_i routed
    unfold actor at foreign
    rw [routed] at foreign
    dsimp only at foreign
    cases accepted : ChatLoginHandler.admitted env.json env.login req with
    | none =>
      rcases ChatLoginHandler.handle_refused ⟨app.server, { closeConnection := wantsClose req }⟩ accepted with
        ⟨resp, outcome, run, _⟩
      rw [run]
    | some user =>
      rcases user with ⟨owner, username⟩
      rw [accepted] at foreign
      rcases ChatLoginHandler.handle_admitted ⟨app.server, { closeConnection := wantsClose req }⟩ accepted with
        ⟨resp, run, _⟩
      rw [run]
      apply (welcomed_table app.server.onlineUsers owner userId).trans
      exact if_neg fun same => foreign (congrArg some same.symm)
  · rename_i routed
    unfold actor at foreign
    rw [routed] at foreign
    dsimp only at foreign
    unfold ChatLogoutHandler.left
    split
    · rfl
    · rename_i content
      rw [if_neg content] at foreign
      unfold incoming incomingOf at foreign
      dsimp only at foreign ⊢
      split
      · rfl
      · rename_i owner read
        rw [read] at foreign
        dsimp only
        split
        · exact Dict.find_erase_of_ne _ _ _ fun same => foreign (congrArg some same.symm)
        · rfl
  · rfl
  · rfl
  · rfl
  · rfl

/-- A request that does not act for the user leaves alone what is held for the user. -/
theorem Leaves.foreign (leaves : Leaves env app req after) (foreign : actor env app req ≠ some userId) :
    after.holdings userId = app.holdings userId := by
  rcases memory_foreign foreign with ⟨⟨conversations, sessionIds⟩, published⟩
  unfold Application.holdings
  rw [leaves.memory, leaves.images, leaves.server, conversations, sessionIds, published, images_foreign foreign,
    online_foreign foreign]

end

/-! No part of the server is a user's before the user has logged in. -/

section

variable {json : JsonLibrary} {codec : JsonCodec}

/-- A request to log in that is accepted for the user. -/
def LogsIn (json : JsonLibrary) (userId : Int32) : ServerAction → Prop
  | .request arrival => handlerAt arrival.req.method arrival.req.path = some .chatLogin ∧
      ∃ username, ChatLoginHandler.admitted json arrival.login arrival.req = some (userId, username)
  | .sweep _ => False

/-- Nothing is held for the user but what was read at the start, and no session is logged in as the user. -/
structure Unknown (memory : ChatMemory) (userId : Int32) (app : Application) : Prop where
  holdings : app.holdings userId = (initialised memory).holdings userId
  sessions : Owned (· ≠ userId) app.server.sessionManager

theorem incoming_user {env : Environment} {app : Application} {req : HttpRequest} {Allowed : Int32 → Prop}
    (owned : Owned Allowed app.server.sessionManager) :
    ((incoming env app req).isLoggedIn ≠ bytes "true" ∧ (incoming env app req).userId = []) ∨
      ∃ userId, (incoming env app req).isLoggedIn = bytes "true" ∧
        (incoming env app req).userId = intText userId.toInt ∧ Allowed userId := by
  rcases app.server.sessionManager.getSession_obtained owned.consistent env.clock env.draws req
    { closeConnection := wantsClose req } with ⟨object, obtained⟩
  exact owned.values obtained

/-- A request acts for a user whose session it has, or whom it logs in. -/
theorem actor_allowed {env : Environment} {app : Application} {req : HttpRequest} {Allowed : Int32 → Prop}
    (owned : Owned Allowed app.server.sessionManager) {userId : Int32} (acts : actor env app req = some userId) :
    Allowed userId ∨ handlerAt req.method req.path = some .chatLogin ∧
      ∃ username, ChatLoginHandler.admitted env.json env.login req = some (userId, username) := by
  have user : (incoming env app req).user = some userId → Allowed userId := by
    intro found
    unfold Incoming.user at found
    rcases @incoming_user env app req Allowed owned with ⟨nobody, _⟩ | ⟨owner, flag, text, allowed⟩
    · rw [if_neg nobody] at found
      cases found
    · rw [if_pos flag, text, stoi_intText] at found
      cases found
      exact allowed
  unfold actor at acts
  split at acts
  · rename_i routed
    rcases Option.map_eq_some_iff.mp acts with ⟨⟨owner, username⟩, accepted, same⟩
    cases same
    exact Or.inr ⟨routed, username, accepted⟩
  · left
    split at acts
    · cases acts
    · rcases @incoming_user env app req Allowed owned with ⟨_, text⟩ | ⟨owner, _, text, allowed⟩
      · rw [text, stoi_nil] at acts
        cases acts
      · rw [text, stoi_intText] at acts
        cases acts
        exact allowed
  · cases acts
  · cases acts
  · cases acts
  · exact Or.inl (user acts)

/-- What a request leaves of the sessions is in order, if it logs nobody in who is not allowed. -/
theorem Owned.serverAfter {env : Environment} {app : Application} {req : HttpRequest} {Allowed : Int32 → Prop}
    (owned : Owned Allowed app.server.sessionManager)
    (allowed : ∀ userId username, handlerAt req.method req.path = some .chatLogin →
      ChatLoginHandler.admitted env.json env.login req = some (userId, username) → Allowed userId) :
    Owned Allowed (Chat.serverAfter env app req).sessionManager := by
  unfold Chat.serverAfter
  split
  · rename_i routed
    cases accepted : ChatLoginHandler.admitted env.json env.login req with
    | none =>
      rcases ChatLoginHandler.handle_refused ⟨app.server, { closeConnection := wantsClose req }⟩ accepted with
        ⟨resp, outcome, run, _⟩
      rw [run]
      exact owned
    | some user =>
      rcases user with ⟨userId, username⟩
      rcases ChatLoginHandler.handle_admitted ⟨app.server, { closeConnection := wantsClose req }⟩ accepted with
        ⟨resp, run, _⟩
      rcases app.server.sessionManager.getSession_obtained owned.consistent env.login.clock env.login.draws req
        { closeConnection := wantsClose req } with ⟨object, obtained⟩
      rw [run]
      exact owned.authenticate obtained (allowed userId username routed accepted) username
  · rcases app.server.sessionManager.getSession_obtained owned.consistent env.clock env.draws req
      { closeConnection := wantsClose req } with ⟨object, obtained⟩
    unfold ChatLogoutHandler.left
    split
    · exact owned
    · dsimp only
      split
      · exact owned.getSession obtained
      · exact owned.destroy obtained
  · exact owned
  · exact owned
  · exact owned
  · rcases app.server.sessionManager.getSession_obtained owned.consistent env.clock env.draws req
      { closeConnection := wantsClose req } with ⟨object, obtained⟩
    exact owned.getSession obtained

theorem owned_step {Allowed : Int32 → Prop} {app next : Application} {action : ServerAction}
    (step : (serving json codec).step app action = some next) (owned : Owned Allowed app.server.sessionManager)
    (allowed : ∀ userId, LogsIn json userId action → Allowed userId) : Owned Allowed next.server.sessionManager := by
  change serveStep json codec app action = some next at step
  cases action with
  | sweep now =>
    cases step
    exact owned.sweep now
  | request arrival =>
    rcases Option.map_eq_some_iff.mp step with ⟨⟨after, response⟩, answered, rfl⟩
    rw [(answer_leaves answered).server]
    exact owned.serverAfter fun userId username routed accepted => allowed userId ⟨routed, username, accepted⟩

theorem unknown_step {memory : ChatMemory} {userId : Int32} {app next : Application} {action : ServerAction}
    (step : (serving json codec).step app action = some next) (unknown : Unknown memory userId app)
    (refused : ¬ LogsIn json userId action) : Unknown memory userId next := by
  have sessions : Owned (· ≠ userId) next.server.sessionManager := by
    apply owned_step step unknown.sessions
    rintro other logs rfl
    exact refused logs
  refine ⟨?_, sessions⟩
  rw [← unknown.holdings]
  change serveStep json codec app action = some next at step
  cases action with
  | sweep now =>
    cases step
    rfl
  | request arrival =>
    rcases Option.map_eq_some_iff.mp step with ⟨⟨after, response⟩, answered, rfl⟩
    apply (answer_leaves answered).foreign
    intro acts
    rcases actor_allowed unknown.sessions acts with different | logs
    · exact different rfl
    · exact refused logs

theorem unknown_run {memory : ChatMemory} {userId : Int32} {actions : List ServerAction} {final : Application}
    (run : (serving json codec).run (initialised memory) actions = some final)
    (refused : ∀ action ∈ actions, ¬ LogsIn json userId action) : Unknown memory userId final := by
  have start : Unknown memory userId (initialised memory) := ⟨rfl, nofun, nofun⟩
  have ok : (serving json codec).Everywhere (fun _ action => ¬ LogsIn json userId action) (initialised memory)
      actions :=
    System.everywhere_of_mem fun action member _ => refused action member
  exact System.always_of_everywhere (fun state action next step unknown refused => unknown_step step unknown refused)
    start ok actions [] final (List.append_nil _).symm run

end

theorem find_registered {Target Callback : Type} {router : Router Target Callback} {method : Method} {path : Bytes}
    {handler wanted : Target} {key : Method × Bytes}
    (found : (router.registerHandler method path handler).handlers.find key = some wanted) :
    handler = wanted ∧ key = (method, path) ∨ router.handlers.find key = some wanted := by
  unfold Router.registerHandler at found
  rw [Dict.find_insert] at found
  split at found
  · rename_i same
    exact Or.inl ⟨Option.some.inj found, same⟩
  · exact Or.inr found

theorem handlerAt_chatLogin {method : Method} {path : Bytes} (routed : handlerAt method path = some .chatLogin) :
    method = .kPost ∧ path = bytes "/login" := by
  unfold handlerAt initializeRouter at routed
  -- the eleven routes registered after it
  iterate 11
    rcases find_registered routed with ⟨wrong, _⟩ | routed
    · cases wrong
  rcases find_registered routed with ⟨_, same⟩ | routed
  · exact Prod.mk.inj same
  · iterate 2
      rcases find_registered routed with ⟨wrong, _⟩ | routed
      · cases wrong
    cases routed

/-- A user for whom anything has changed since the start, who has a session, or for whom a request works, has logged
    in before. -/
theorem nothing_without_login (json : JsonLibrary) (codec : JsonCodec) (memory : ChatMemory)
    {actions : List ServerAction} {final : Application}
    (run : (serving json codec).run (initialised memory) actions = some final) {userId : Int32}
    (known : final.holdings userId ≠ (initialised memory).holdings userId ∨
      (∃ key object, final.server.sessionManager.lookup key = some object ∧ LoggedIn object userId) ∨
      ∃ arrival : Arrival, actor (arrival.env json codec) final arrival.req = some userId ∧
        handlerAt arrival.req.method arrival.req.path ≠ some .chatLogin) :
    ∃ arrival, .request arrival ∈ actions ∧ arrival.req.method = .kPost ∧ arrival.req.path = bytes "/login" ∧
      Verified json arrival.login arrival.req userId := by
  by_contra never
  have unknown : Unknown memory userId final := by
    apply unknown_run run
    intro action member logs
    cases action with
    | sweep now => exact logs
    | request arrival =>
      rcases logs with ⟨routed, username, accepted⟩
      rcases handlerAt_chatLogin routed with ⟨method, path⟩
      exact never ⟨arrival, member, method, path, verified_of_admitted accepted⟩
  rcases known with held | ⟨key, object, stored, mine⟩ | ⟨arrival, acts, ordinary⟩
  · exact held unknown.holdings
  · rcases (unknown.sessions.proper key object stored).owner with empty | ⟨owner, theirs, different⟩
    · have flag := mine.1
      rw [empty] at flag
      cases flag
    · exact different (theirs.unique mine)
  · rcases actor_allowed unknown.sessions acts with different | ⟨routed, _⟩
    · exact different rfl
    · exact ordinary routed

def adaArrives : Arrival := visits ChatLoginHandler.adaLogin

theorem ada_is_known :
    ∃ final arrival,
      (serving ChatLoginHandler.adaJson (knownTexts [])).run (initialised {}) [.request adaArrives] = some final ∧
      ServerAction.request arrival ∈ [.request adaArrives] ∧ arrival.req.path = bytes "/login" ∧
      Verified ChatLoginHandler.adaJson arrival.login arrival.req 7 := by
  have online : ((serving ChatLoginHandler.adaJson (knownTexts [])).run (initialised {}) [.request adaArrives]).map
      (fun final => final.server.onlineUsers.find 7) = some (some true) := by decide
  rcases Option.map_eq_some_iff.mp online with ⟨final, run, there⟩
  have held : final.holdings 7 ≠ (initialised {}).holdings 7 := by
    intro nothing
    cases there.symm.trans (congrArg Holdings.online nothing)
  rcases nothing_without_login ChatLoginHandler.adaJson (knownTexts []) {} run (Or.inl held) with
    ⟨arrival, member, _, path, verified⟩
  exact ⟨final, arrival, run, member, path, verified⟩

/-- Whether a step acts for the user. -/
def ActsFor (json : JsonLibrary) (codec : JsonCodec) (userId : Int32) (app : Application) : ServerAction → Prop
  | .request arrival => actor (arrival.env json codec) app arrival.req = some userId
  | .sweep _ => False

/-- A run without a step that acts for the user leaves alone what the server holds for the user. -/
theorem others_leave_alone (json : JsonLibrary) (codec : JsonCodec) (userId : Int32) (app : Application)
    {actions : List ServerAction} {final : Application} (run : (serving json codec).run app actions = some final)
    (others : (serving json codec).Everywhere (fun state action => ¬ ActsFor json codec userId state action) app
      actions) : final.holdings userId = app.holdings userId := by
  have always : (serving json codec).Always (fun state => state.holdings userId = app.holdings userId) app actions := by
    refine System.always_of_everywhere ?_ rfl others
    intro state action next step same foreign
    rw [← same]
    change serveStep json codec state action = some next at step
    cases action with
    | sweep now =>
      cases step
      rfl
    | request arrival =>
      rcases Option.map_eq_some_iff.mp step with ⟨⟨after, response⟩, answered, rfl⟩
      exact (answer_leaves answered).foreign foreign
  exact always actions [] final (List.append_nil _).symm run

/-- A user 8 is online and has a conversation. -/
def eightOnline : Application where
  server := { onlineUsers := Dict.empty.insert 8 true }
  memory :=
    { chatInformation := Dict.empty.insert 8 (Dict.empty.insert (bytes "17") {})
      sessionsIdsMap := Dict.empty.insert 8 [bytes "17"] }

/-- Ada's login leaves alone what is held for that user. -/
theorem ada_leaves_alone :
    ∃ final, (serving ChatLoginHandler.adaJson (knownTexts [])).run eightOnline [.request adaArrives] = some final ∧
      final.holdings 8 = eightOnline.holdings 8 ∧ final.holdings 7 ≠ eightOnline.holdings 7 := by
  have online : ((serving ChatLoginHandler.adaJson (knownTexts [])).run eightOnline [.request adaArrives]).map
      (fun final => final.server.onlineUsers.find 7) = some (some true) := by decide
  rcases Option.map_eq_some_iff.mp online with ⟨final, run, there⟩
  have acts : actor (adaArrives.env ChatLoginHandler.adaJson (knownTexts [])) eightOnline adaArrives.req ≠ some 8 := by
    decide
  refine ⟨final, run, others_leave_alone ChatLoginHandler.adaJson (knownTexts []) 8 eightOnline run ?_, ?_⟩
  · exact System.everywhere_cons acts fun next _ => System.everywhere_nil next
  · intro nothing
    cases there.symm.trans (congrArg Holdings.online nothing)

end Chat
