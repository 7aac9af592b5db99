import HttpServerApps.Chat.Closing
import HttpServerApps.Chat.Login
import HttpServerApps.Chat.Logout

namespace Chat

open Common Http Sessions

/-! The handlers of the sessions. -/

theorem logout_closing (json : JsonLibrary) (clock : Readings) (draws : Fin 32 → Fin 16) (req : HttpRequest) :
    StaysClosing Exchange.resp (ChatLogoutHandler.handle json clock draws req) := by
  have caught : ∀ what, StaysClosing Exchange.resp (failWith json req.version what) :=
    fun what => failWith_closing json req.version what
  unfold ChatLogoutHandler.handle
  split
  · exact respond_close ..
  · apply Throwing.Triple.attempt _ caught
    apply Throwing.Triple.bind (getSession_closing ..)
    intro session
    apply Throwing.Triple.bind (Throwing.triple_read _)
    intro userIdText
    apply Throwing.Triple.bind (Throwing.triple_call _)
    intro userId
    apply Throwing.Triple.bind (onSessions_closing _)
    intro _
    apply Throwing.Triple.bind (Throwing.triple_read _)
    intro sessionId
    apply Throwing.Triple.bind (onSessions_closing _)
    intro _
    apply Throwing.Triple.bind (Throwing.triple_call _)
    intro _
    apply Throwing.Triple.bind (onOnlineUsers_closing _)
    intro _
    apply Throwing.Triple.bind (Throwing.triple_call _)
    intro responseBody
    exact respond_close ..

namespace ChatLoginHandler

/-- The password is wrong or, for a user who is not online, right. -/
def Answers (json : JsonLibrary) (env : Surroundings) (req : HttpRequest) (onlineUsers : Dict Int32 Bool) : Prop :=
  badContent req = false ∧ ∃ username password userId, credentials json req.content = .ok (username, password) ∧
    queryUserId env username password = .ok userId ∧ (userId = -1 ∨ isFree onlineUsers userId = true)

theorem handle_open_iff {json : JsonLibrary} {env : Surroundings} {req : HttpRequest} {exchange : Exchange}
    (closing : WithClose Exchange.resp true exchange) :
    WithClose Exchange.resp false ((handle json env req).run exchange).1 ↔
      Answers json env req exchange.server.onlineUsers := by
  have caught : ∀ what, ¬ WithClose Exchange.resp false ((failWith json req.version what).run exchange).1 := by
    intro what open_
    cases Eq.trans (Eq.symm ((failWith_closing json req.version what).run closing)) open_
  rcases @handle_handled json env req exchange with ⟨handling, handled, run⟩
  rw [run]
  cases handled with
  | content bad =>
    apply iff_of_false nofun
    rintro ⟨good, _⟩
    cases bad.symm.trans good
  | unread good unread =>
    apply iff_of_false (caught _)
    rintro ⟨_, username, password, userId, read, _⟩
    cases unread.symm.trans read
  | failed good read query =>
    apply iff_of_false (caught _)
    rintro ⟨_, name, secret, userId, same, found, _⟩
    cases read.symm.trans same
    cases query.symm.trans found
  | unknown good read query => exact iff_of_true rfl ⟨good, _, _, _, read, query, Or.inl rfl⟩
  | @known username password userId good read query known =>
    rcases welcome_run json env req exchange userId username with ⟨resp, welcomes, _, close⟩
    rw [welcomes]
    show resp.closeConnection = false ↔ _
    rw [close, Bool.not_eq_false']
    apply Iff.intro
    · intro free
      exact ⟨good, username, password, userId, read, query, Or.inr free⟩
    · rintro ⟨_, name, secret, user, same, found, answers⟩
      cases read.symm.trans same
      cases query.symm.trans found
      exact answers.resolve_left known

end ChatLoginHandler

/-! The handlers of the conversations. -/

section

variable {json : JsonCodec} {incoming : Incoming} {visit : Visit}

/-- What `helper->chat` makes of a question. -/
def answerIn (json : JsonCodec) (outside : Outside) (memory : ChatMemory) (question : Question) :
    Except Failure Bytes :=
  ((AIHelper.chat json question outside).run
    ⟨memory.helper question.userId question.sessionId, memory.published⟩).2

theorem chatIn_closing (question : Question) (outside : Outside) :
    Throwing.Triple (WithClose Visit.resp true) (chatIn json question outside) (fun _ => WithClose Visit.resp true)
      fun _ => WithClose Visit.resp true := by
  apply Throwing.Triple.mk
  intro visit closing
  unfold chatIn
  dsimp only
  cases ((AIHelper.chat json question outside).run
    ⟨visit.memory.helper question.userId question.sessionId, visit.memory.published⟩).2 <;> exact closing

/-- How the three handlers start that come to a conversation. -/
theorem reads_keepsOpen {Fields : Type} (read : Except Failure Fields) (change : Fields → ChatMemory → ChatMemory)
    {next : Fields → Visiting Unit} (keeps : ∀ fields, KeepsOpen Visit.resp (next fields)) :
    KeepsOpen Visit.resp (Throwing.call read >>= fun fields => onMemory (change fields) >>= fun _ => next fields) := by
  apply Throwing.Triple.bind (Throwing.triple_call _)
  intro fields
  apply Throwing.Triple.bind (onMemory_closing _)
  intro _
  exact keeps fields

theorem chatIn_ok_iff {question : Question} {outside : Outside} {next : Bytes → Visiting Unit} :
    ((chatIn json question outside >>= next).run visit).2 = .ok () ↔
      ∃ answer, answerIn json outside visit.memory question = .ok answer ∧
        ((next answer).run ((chatIn json question outside).run visit).1).2 = .ok () :=
  Throwing.ok_bind

namespace ChatSendHandler

/-- The body is read, the model answers, and the answer can be printed. -/
def Answers (json : JsonCodec) (incoming : Incoming) (outside : Outside) (memory : ChatMemory) (userId : Int32) :
    Prop :=
  ∃ fields, readFields json incoming.req.content = .ok fields ∧ ∃ aiInformation,
    answerIn json outside (memory.enter userId fields.sessionId)
      ⟨userId, incoming.username, fields.sessionId, fields.userQuestion, fields.modelType⟩ = .ok aiInformation ∧
    Prints json (.object [(bytes "Information", .string aiInformation), (bytes "success", .boolean true)])

theorem handle_open_iff {outside : Outside} (closing : WithClose Visit.resp true visit) :
    WithClose Visit.resp false ((handle json incoming outside).run visit).1 ↔
      ∃ userId, incoming.user = some userId ∧ Answers json incoming outside visit.memory userId := by
  unfold handle Answers
  rw [authorized_open_iff _ closing]
  · simp only [Throwing.ok_call_bind, onMemory, Throwing.run_modify_bind, chatIn_ok_iff, answerWith_ok_iff]
  · intro userId
    exact reads_keepsOpen _ _ fun fields => (chatIn_closing ..).bind fun _ => answerWith_close ..

end ChatSendHandler

namespace ChatCreateAndSendHandler

def Answers (json : JsonCodec) (incoming : Incoming) (now : Int64) (rand : Int32) (outside : Outside)
    (memory : ChatMemory) (userId : Int32) : Prop :=
  ∃ fields, readFields json incoming.req.content = .ok fields ∧ ∃ aiInformation,
    answerIn json outside (memory.enterListed userId (AISessionIdGenerator.generate now rand))
      ⟨userId, incoming.username, AISessionIdGenerator.generate now rand, fields.userQuestion, fields.modelType⟩ =
        .ok aiInformation ∧
    Prints json (.object [(bytes "Information", .string aiInformation),
      (bytes "sessionId", .string (AISessionIdGenerator.generate now rand)), (bytes "success", .boolean true)])

theorem handle_open_iff {now : Int64} {rand : Int32} {outside : Outside} (closing : WithClose Visit.resp true visit) :
    WithClose Visit.resp false ((handle json incoming now rand outside).run visit).1 ↔
      ∃ userId, incoming.user = some userId ∧ Answers json incoming now rand outside visit.memory userId := by
  unfold handle Answers
  rw [authorized_open_iff _ closing]
  · simp only [Throwing.ok_call_bind, onMemory, Throwing.run_modify_bind, chatIn_ok_iff, answerWith_ok_iff]
  · intro userId
    exact reads_keepsOpen _ _ fun fields => (chatIn_closing ..).bind fun _ => answerWith_close ..

end ChatCreateAndSendHandler

namespace ChatHistoryHandler

def Answers (json : JsonCodec) (incoming : Incoming) (memory : ChatMemory) (userId : Int32) : Prop :=
  ∃ sessionId, readSessionId json incoming.req.content = .ok sessionId ∧
    Prints json (.object
      [(bytes "history", historyArray ((memory.enter userId sessionId).helper userId sessionId).messages),
        (bytes "success", .boolean true)])

theorem handle_open_iff (closing : WithClose Visit.resp true visit) :
    WithClose Visit.resp false ((handle json incoming).run visit).1 ↔
      ∃ userId, incoming.user = some userId ∧ Answers json incoming visit.memory userId := by
  unfold handle Answers
  rw [authorized_open_iff _ closing]
  · simp only [Throwing.ok_call_bind, onMemory, Throwing.run_modify_bind, Throwing.run_read_bind, answerWith_ok_iff]
  · intro userId
    exact reads_keepsOpen _ _ fun sessionId => (Throwing.triple_read _).bind fun _ => answerWith_close ..

end ChatHistoryHandler

namespace ChatSessionsHandler

def Answers (json : JsonCodec) (memory : ChatMemory) (userId : Int32) : Prop :=
  Prints json (.object [(bytes "sessions", sessionArray (memory.sessionIds userId)), (bytes "success", .boolean true)])

theorem handle_open_iff (closing : WithClose Visit.resp true visit) :
    WithClose Visit.resp false ((handle json incoming).run visit).1 ↔
      ∃ userId, incoming.user = some userId ∧ Answers json visit.memory userId := by
  unfold handle Answers
  rw [authorized_open_iff _ closing]
  · simp only [onMemory, Throwing.run_modify_bind, Throwing.run_read_bind, answerWith_ok_iff]
  · intro userId
    apply Throwing.Triple.bind (Throwing.triple_read _)
    intro ids
    exact (onMemory_closing _).bind fun _ => answerWith_close ..

end ChatSessionsHandler

end

end Chat
