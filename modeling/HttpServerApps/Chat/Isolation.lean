import HttpServerApps.Chat.Conversations
import HttpServerApps.Common.Unwinding

namespace Chat

open Common Http

/-! The queue is written only. -/

def SameHelper (talk twin : Talk) : Prop := talk.helper = twin.helper

theorem addMessage_respects (question : Question) (is_user : Bool) (text : Bytes) (ms : Int64) :
    Throwing.Respects SameHelper (AIHelper.addMessage question is_user text ms) := by
  apply Throwing.respects_modify
  intro talk twin same
  exact congrArg (AIHelper.pushBack · _) same

section

variable (json : JsonCodec) (question : Question) (outside : Outside)

theorem askModel_respects (strategy : AIStrategy) (transfer : Transfer) :
    Throwing.Respects SameHelper (AIHelper.askModel json outside strategy transfer) := by
  refine Throwing.Respects.bind (Throwing.respects_read ?_) fun messages => Throwing.respects_call _
  intro talk twin same
  exact congrArg AIHelper.messages same

theorem askWithPrompt_respects (strategy : AIStrategy) (transfer : Transfer) (prompt : Bytes) :
    Throwing.Respects SameHelper (AIHelper.askWithPrompt json outside strategy transfer prompt) := by
  refine Throwing.Respects.bind (Throwing.respects_modify fun talk twin same => ?_) fun _ => ?_
  · exact congrArg (AIHelper.pushBack · _) same
  refine Throwing.Respects.bind (askModel_respects json outside strategy transfer) fun result => ?_
  refine Throwing.Respects.bind (Throwing.respects_modify fun talk twin same => ?_) fun _ => ?_
  · exact congrArg AIHelper.popBack same
  exact Throwing.respects_call (.ok result)

theorem addBoth_respects (answer : Bytes) :
    Throwing.Respects SameHelper (AIHelper.addBoth question outside answer) := by
  refine Throwing.Respects.bind (addMessage_respects ..) fun _ => ?_
  refine Throwing.Respects.bind (addMessage_respects ..) fun _ => ?_
  exact Throwing.respects_call (.ok answer)

theorem afterFirst_respects (strategy : AIStrategy) (aiResult : Bytes) :
    Throwing.Respects SameHelper (AIHelper.afterFirst json question outside strategy aiResult) := by
  unfold AIHelper.afterFirst AIHelper.afterFirstBy
  dsimp only
  split
  · exact addBoth_respects question outside aiResult
  · split
    · exact Throwing.respects_call _
    · exact addBoth_respects question outside _
    · refine Throwing.Respects.bind (Throwing.respects_call _) fun secondPrompt => ?_
      refine Throwing.Respects.bind (askWithPrompt_respects ..) fun finalAnswer => ?_
      exact addBoth_respects question outside finalAnswer

theorem chat_respects : Throwing.Respects SameHelper (AIHelper.chat json question outside) := by
  refine Throwing.Respects.bind (Throwing.respects_call _) fun strategy => ?_
  refine Throwing.Respects.bind (Throwing.respects_modify fun talk twin same => ?_) fun _ => ?_
  · exact congrArg (AIHelper.setStrategy · strategy) same
  split
  · refine Throwing.Respects.bind (addMessage_respects ..) fun _ => ?_
    refine Throwing.Respects.bind (askModel_respects ..) fun answer => ?_
    refine Throwing.Respects.bind (addMessage_respects ..) fun _ => ?_
    exact Throwing.respects_call (.ok _)
  · refine Throwing.Respects.bind (Throwing.respects_call _) fun config => ?_
    refine Throwing.Respects.bind (askWithPrompt_respects ..) fun aiResult => ?_
    exact afterFirst_respects json question outside strategy aiResult

end

/-! What one user's requests see of the memory. -/

/-- The two maps have the same entries for the user. -/
def SameFor (userId : Int32) (memory twin : ChatMemory) : Prop :=
  memory.chatInformation.find userId = twin.chatInformation.find userId ∧
    memory.sessionsIdsMap.find userId = twin.sessionsIdsMap.find userId

def SameVisit (userId : Int32) (visit twin : Visit) : Prop :=
  SameFor userId visit.memory twin.memory ∧ visit.resp = twin.resp

section

variable {userId other : Int32} {memory twin : ChatMemory}

theorem SameFor.userSessions (same : SameFor userId memory twin) :
    memory.userSessions userId = twin.userSessions userId :=
  congrArg (fun entry : Option (Dict Bytes AIHelper) => entry.getD .empty) same.1

theorem SameFor.sessionIds (same : SameFor userId memory twin) : memory.sessionIds userId = twin.sessionIds userId :=
  congrArg (fun entry : Option (List Bytes) => entry.getD []) same.2

theorem SameFor.helper (same : SameFor userId memory twin) (sessionId : Bytes) :
    memory.helper userId sessionId = twin.helper userId sessionId := by
  unfold ChatMemory.helper
  rw [same.userSessions]

theorem SameFor.putHelper (same : SameFor userId memory twin) (sessionId : Bytes) (helper : AIHelper) :
    SameFor userId (memory.putHelper userId sessionId helper) (twin.putHelper userId sessionId helper) := by
  unfold ChatMemory.putHelper
  refine ⟨?_, same.2⟩
  simp only [Dict.find_insert_self, same.userSessions]

theorem SameFor.enter (same : SameFor userId memory twin) (sessionId : Bytes) :
    SameFor userId (memory.enter userId sessionId) (twin.enter userId sessionId) := by
  unfold ChatMemory.enter
  rw [same.helper]
  exact same.putHelper sessionId _

theorem SameFor.putSessionIds (same : SameFor userId memory twin) (ids : List Bytes) :
    SameFor userId (memory.putSessionIds userId ids) (twin.putSessionIds userId ids) := by
  unfold ChatMemory.putSessionIds
  refine ⟨same.1, ?_⟩
  simp only [Dict.find_insert_self]

theorem SameFor.enterListed (same : SameFor userId memory twin) (sessionId : Bytes) :
    SameFor userId (memory.enterListed userId sessionId) (twin.enterListed userId sessionId) := by
  unfold ChatMemory.enterListed
  rw [same.userSessions, same.sessionIds]
  split
  · exact (same.enter sessionId).putSessionIds _
  · exact same.enter sessionId

/-! What another user's requests leave alone. -/

theorem sameFor_putHelper (different : userId ≠ other) (sessionId : Bytes) (helper : AIHelper) :
    SameFor userId (memory.putHelper other sessionId helper) memory :=
  ⟨Dict.find_insert_of_ne _ _ _ _ different, rfl⟩

theorem sameFor_putSessionIds (different : userId ≠ other) (ids : List Bytes) :
    SameFor userId (memory.putSessionIds other ids) memory :=
  ⟨rfl, Dict.find_insert_of_ne _ _ _ _ different⟩

theorem SameFor.trans {third : ChatMemory} (first : SameFor userId memory twin) (second : SameFor userId twin third) :
    SameFor userId memory third := ⟨first.1.trans second.1, first.2.trans second.2⟩

theorem sameFor_enterListed (different : userId ≠ other) (sessionId : Bytes) :
    SameFor userId (memory.enterListed other sessionId) memory := by
  unfold ChatMemory.enterListed
  split
  · exact (sameFor_putSessionIds different _).trans (sameFor_putHelper different sessionId _)
  · exact sameFor_putHelper different sessionId _

theorem sameFor_afterChat {json : JsonCodec} {question : Question} {outside : Outside}
    (different : userId ≠ question.userId) : SameFor userId (memory.afterChat json question outside) memory :=
  ⟨Dict.find_insert_of_ne _ _ _ _ different, rfl⟩

/-- A request of another user, or of nobody, leaves the entries of the user alone. -/
theorem sameFor_after (json : JsonCodec) {request : ChatRequest} (foreign : request.user ≠ some userId) :
    SameFor userId (request.after json memory) memory := by
  unfold ChatRequest.after
  cases user : request.user with
  | none => exact ⟨rfl, rfl⟩
  | some other =>
    have different : userId ≠ other := by
      rintro rfl
      exact foreign user
    cases request with
    | send incoming outside =>
      dsimp only
      cases ChatSendHandler.readFields json incoming.req.content with
      | error failure => exact ⟨rfl, rfl⟩
      | ok fields => exact (sameFor_afterChat different).trans (sameFor_putHelper different fields.sessionId _)
    | sendNewSession incoming now rand outside =>
      dsimp only
      cases ChatCreateAndSendHandler.readFields json incoming.req.content with
      | error failure => exact ⟨rfl, rfl⟩
      | ok fields => exact (sameFor_afterChat different).trans (sameFor_enterListed different _)
    | history incoming =>
      dsimp only
      cases ChatHistoryHandler.readSessionId json incoming.req.content with
      | error failure => exact ⟨rfl, rfl⟩
      | ok sessionId => exact sameFor_putHelper different sessionId _
    | sessions incoming => exact sameFor_putSessionIds different _

end

section

variable {json : JsonCodec} {userId : Int32}

theorem answerWith_respects (version : Bytes) (statusCode : HttpStatusCode) (statusMessage : Bytes) (close : Bool)
    (body : Json) :
    Throwing.Respects (SameVisit userId) (answerWith json version statusCode statusMessage close body) := by
  refine Throwing.Respects.bind (Throwing.respects_call _) fun text => Throwing.respects_modify ?_
  intro visit twin same
  exact ⟨same.1, congrArg (jsonResponse · version statusCode statusMessage close text) same.2⟩

theorem onMemory_respects {change : ChatMemory → ChatMemory}
    (keeps : ∀ memory twin, SameFor userId memory twin → SameFor userId (change memory) (change twin)) :
    Throwing.Respects (SameVisit userId) (onMemory change) :=
  Throwing.respects_modify fun _ _ same => ⟨keeps _ _ same.1, same.2⟩

theorem chatIn_respects (question : Question) (outside : Outside) (own : question.userId = userId) :
    Throwing.Respects (SameVisit userId) (chatIn json question outside) := by
  apply Throwing.Respects.mk
  intro visit twin same
  subst own
  obtain ⟨outcome, helper⟩ := (chat_respects json question outside).run
    ⟨visit.memory.helper question.userId question.sessionId, visit.memory.published⟩
    ⟨twin.memory.helper question.userId question.sessionId, twin.memory.published⟩
    (same.1.helper question.sessionId)
  refine ⟨outcome, ?_, same.2⟩
  unfold SameHelper at helper
  have put := same.1.putHelper question.sessionId
    ((AIHelper.chat json question outside).run
      ⟨visit.memory.helper question.userId question.sessionId, visit.memory.published⟩).1.helper
  refine ⟨put.1.trans ?_, same.1.2⟩
  rw [helper]
  rfl

theorem authorized_respects (incoming : Incoming) {handler : Int32 → Visiting Unit}
    (own : incoming.user = some userId → Throwing.Respects (SameVisit userId) (handler userId))
    (mine : ∀ other, incoming.user = some other → other = userId) :
    Throwing.Respects (SameVisit userId) (authorized json incoming handler) := by
  apply Throwing.Respects.attempt
  · split
    · exact answerWith_respects ..
    · rename_i loggedIn
      apply Throwing.Respects.mk
      intro visit twin same
      have user : incoming.user = (stoi incoming.userId).toOption := if_pos (not_not.mp loggedIn)
      rw [Throwing.run_call_bind, Throwing.run_call_bind]
      cases read : stoi incoming.userId with
      | error what => exact ⟨rfl, same⟩
      | ok other =>
        rw [read] at user
        obtain rfl := mine other user
        exact (own user).run visit twin same
  · intro thrown
    cases thrown with
    | exception what => exact answerWith_respects ..
    | undefined => exact Throwing.respects_call _

theorem handle_respects {request : ChatRequest} (mine : ∀ other, request.user = some other → other = userId) :
    Throwing.Respects (SameVisit userId) (request.handle json) := by
  cases request with
  | send incoming outside =>
    refine authorized_respects incoming (fun _ => ?_) mine
    refine Throwing.Respects.bind (Throwing.respects_call _) fun fields => ?_
    refine Throwing.Respects.bind (onMemory_respects fun _ _ same => same.enter fields.sessionId) fun _ => ?_
    refine Throwing.Respects.bind (chatIn_respects _ _ rfl) fun aiInformation => ?_
    exact answerWith_respects ..
  | sendNewSession incoming now rand outside =>
    refine authorized_respects incoming (fun _ => ?_) mine
    refine Throwing.Respects.bind (Throwing.respects_call _) fun fields => ?_
    refine Throwing.Respects.bind (onMemory_respects fun _ _ same => same.enterListed _) fun _ => ?_
    refine Throwing.Respects.bind (chatIn_respects _ _ rfl) fun aiInformation => ?_
    exact answerWith_respects ..
  | history incoming =>
    refine authorized_respects incoming (fun _ => ?_) mine
    refine Throwing.Respects.bind (Throwing.respects_call _) fun sessionId => ?_
    refine Throwing.Respects.bind (onMemory_respects fun _ _ same => same.enter sessionId) fun _ => ?_
    refine Throwing.Respects.bind (Throwing.respects_read fun _ _ same => ?_) fun messages => ?_
    · exact congrArg AIHelper.messages (same.1.helper sessionId)
    exact answerWith_respects ..
  | sessions incoming =>
    refine authorized_respects incoming (fun _ => ?_) mine
    refine Throwing.Respects.bind (Throwing.respects_read fun _ _ same => same.1.sessionIds) fun ids => ?_
    refine Throwing.Respects.bind (onMemory_respects fun _ _ same => same.putSessionIds ids) fun _ => ?_
    exact answerWith_respects ..

end

/-! Runs with and without the requests of others. -/

/-- The response of a request, and how its handler ended. -/
abbrev Served := HttpResponse × Except Failure Unit

def servedStep (json : JsonCodec) (memory : ChatMemory) (request : ChatRequest) : Option (ChatMemory × Served) :=
  match request.serve json memory with
  | (_, .error .undefined) => none
  | (visit, outcome) => some (visit.memory, visit.resp, outcome)

def served (json : JsonCodec) : Machine ChatMemory ChatRequest Served := ⟨servedStep json⟩

/-- Not authenticated as another user. -/
def notOfOthers (userId : Int32) (request : ChatRequest) : Bool :=
  request.user = none || request.user = some userId

/-- What `/chat/history` and `/chat/sessions` answer to the user. -/
def shownTo (userId : Int32) (log : List (ChatRequest × Served)) : List (ChatRequest × Served) :=
  log.filter fun entry => entry.1.user = some userId &&
    match entry.1 with
    | .history _ | .sessions _ => true
    | _ => false

theorem servedStep_after {json : JsonCodec} {memory next : ChatMemory} {request : ChatRequest} {output : Served}
    (step : servedStep json memory request = some (next, output)) : next = request.after json memory := by
  rw [← serve_memory]
  unfold servedStep at step
  split at step
  · cases step
  · rename_i run
    cases step
    rw [run]

theorem served_unwinds (json : JsonCodec) (userId : Int32) :
    (served json).Unwinds (SameFor userId) (notOfOthers userId) := by
  apply Machine.Unwinds.mk
  · intro memory twin request next output foreign step same
    obtain rfl := servedStep_after step
    have other : request.user ≠ some userId := by
      intro own
      simp [notOfOthers, own] at foreign
    exact (sameFor_after json other).trans same
  · intro memory twin request next output concerned step same
    have mine : ∀ other, request.user = some other → other = userId := by
      intro other user
      simpa [notOfOthers, user] using concerned
    obtain ⟨outcome, after, resp⟩ := (@handle_respects json userId request mine).run
      ⟨memory, request.incoming.resp⟩ ⟨twin, request.incoming.resp⟩ ⟨same, rfl⟩
    change servedStep json memory request = some (next, output) at step
    show ∃ after, servedStep json twin request = some (after, output) ∧ _
    unfold servedStep ChatRequest.serve at step ⊢
    generalize (request.handle json).run ⟨memory, request.incoming.resp⟩ = first at step outcome after resp
    generalize (request.handle json).run ⟨twin, request.incoming.resp⟩ = second at outcome after resp ⊢
    rcases first with ⟨visit, answer⟩
    rcases second with ⟨twinVisit, twinAnswer⟩
    dsimp only at outcome after resp
    subst outcome
    split at step
    · cases step
    · rename_i defined given
      cases given
      cases step
      rw [resp]
      refine ⟨twinVisit.memory, ?_, after⟩
      cases answer with
      | ok _ => rfl
      | error failure =>
        cases failure with
        | exception what => rfl
        | undefined => exact (defined rfl).elim

/-- Deleting the requests of all others changes nothing that a user is shown. -/
theorem others_unseen (json : JsonCodec) (userId : Int32) (memory : ChatMemory) {requests : List ChatRequest}
    {log : List (ChatRequest × Served)} (run : (served json).transcript memory requests = some log) :
    ∃ alone, (served json).transcript memory (requests.filter (notOfOthers userId)) = some alone ∧
      shownTo userId alone = shownTo userId log := by
  refine ⟨_, (served_unwinds json userId).transcript ⟨rfl, rfl⟩ run, ?_⟩
  unfold shownTo
  rw [List.filter_filter]
  apply List.filter_congr
  intro entry _
  by_cases own : entry.1.user = some userId
  · simp [notOfOthers, own]
  · simp [own]

/-- Two users who both use the session id 5. -/
def twoUsers : List ChatRequest :=
  [.sendNewSession (requestOf (bytes "7") namesFive) 5 0 keyless, .send (requestOf (bytes "8") namesFive) keyless,
    .history (requestOf (bytes "7") namesFive), .sessions (requestOf (bytes "8") namesFive)]

theorem two_users_apart :
    ∃ log alone, (served namesFiveJson).transcript {} twoUsers = some log ∧
      (served namesFiveJson).transcript {} (twoUsers.filter (notOfOthers 7)) = some alone ∧
      shownTo 7 alone = shownTo 7 log := by
  obtain ⟨log, run⟩ := Option.isSome_iff_exists.mp
    (show ((served namesFiveJson).transcript {} twoUsers).isSome = true by decide)
  rcases others_unseen namesFiveJson 7 {} run with ⟨alone, ran, same⟩
  exact ⟨log, alone, run, ran, same⟩

end Chat
