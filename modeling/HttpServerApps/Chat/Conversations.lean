import HttpServerApps.Chat.AIHelper
import HttpServerApps.Chat.Server
import HttpServerApps.Common.Runs

namespace Chat

open Common Http

/-! The conversations of the server, and what the four handlers do with them. -/

structure ChatMemory where
  chatInformation : Dict Int32 (Dict Bytes AIHelper) := .empty
  sessionsIdsMap : Dict Int32 (List Bytes) := .empty
  /-- What has been published to the queue. -/
  published : List ChatInsert := []

namespace ChatMemory

/-- `chatInformation[userId]`, which makes an entry where there is none. -/
def userSessions (memory : ChatMemory) (userId : Int32) : Dict Bytes AIHelper :=
  (memory.chatInformation.find userId).getD .empty

def helper (memory : ChatMemory) (userId : Int32) (sessionId : Bytes) : AIHelper :=
  ((memory.userSessions userId).find sessionId).getD {}

def putHelper (memory : ChatMemory) (userId : Int32) (sessionId : Bytes) (helper : AIHelper) : ChatMemory :=
  { memory with
    chatInformation := memory.chatInformation.insert userId
      ((memory.userSessions userId).insert sessionId helper) }

/-- `sessionsIdsMap[userId]`, which makes an entry where there is none. -/
def sessionIds (memory : ChatMemory) (userId : Int32) : List Bytes := (memory.sessionsIdsMap.find userId).getD []

def putSessionIds (memory : ChatMemory) (userId : Int32) (ids : List Bytes) : ChatMemory :=
  { memory with sessionsIdsMap := memory.sessionsIdsMap.insert userId ids }

/-- A conversation that does not exist yet is made, empty. -/
def enter (memory : ChatMemory) (userId : Int32) (sessionId : Bytes) : ChatMemory :=
  memory.putHelper userId sessionId (memory.helper userId sessionId)

/-- A conversation that does not exist yet is made, and listed. -/
def enterListed (memory : ChatMemory) (userId : Int32) (sessionId : Bytes) : ChatMemory :=
  if (memory.userSessions userId).find sessionId = none then
    (memory.enter userId sessionId).putSessionIds userId (memory.sessionIds userId ++ [sessionId])
  else memory.enter userId sessionId

end ChatMemory

namespace ChatMemory

variable (memory : ChatMemory) (userId other : Int32) (sessionId key : Bytes) (helper : AIHelper) (ids : List Bytes)

theorem userSessions_putHelper :
    (memory.putHelper userId sessionId helper).userSessions other =
      if other = userId then (memory.userSessions userId).insert sessionId helper else memory.userSessions other := by
  unfold putHelper userSessions
  dsimp only
  rw [Dict.find_insert]
  split <;> rfl

@[simp] theorem sessionIds_putHelper :
    (memory.putHelper userId sessionId helper).sessionIds other = memory.sessionIds other := rfl

@[simp] theorem userSessions_putSessionIds :
    (memory.putSessionIds userId ids).userSessions other = memory.userSessions other := rfl

theorem sessionIds_putSessionIds :
    (memory.putSessionIds userId ids).sessionIds other = if other = userId then ids else memory.sessionIds other := by
  unfold putSessionIds sessionIds
  dsimp only
  rw [Dict.find_insert]
  split <;> rfl

end ChatMemory

/-! The start of the server. -/

/-- A row of `chat_message`. -/
structure MessageRow where
  id : Int64
  username : Bytes
  session_id : Bytes
  is_user : Int32
  content : Bytes
  ts : Int64
  deriving DecidableEq

namespace ChatMemory

def restoreRow (memory : ChatMemory) (row : MessageRow) : ChatMemory :=
  let userId := row.id.toInt32
  let memory := memory.enterListed userId row.session_id
  memory.putHelper userId row.session_id
    ((memory.helper userId row.session_id).restoreMessage row.content row.ts (row.is_user ≠ 0))

/-- The answer of the `SELECT`: the query can fail, and so can the reading of a row, which is left out. -/
def readDataFromMySQL (memory : ChatMemory) (answer : Except Bytes (List (Except Bytes MessageRow))) : ChatMemory :=
  match answer with
  | .error _ => memory
  | .ok rows => (rows.filterMap Except.toOption).foldl restoreRow memory

end ChatMemory

/-- A request, with the values of the session that `getSession` gives and the response as it leaves it. -/
structure Incoming where
  isLoggedIn : Bytes
  userId : Bytes
  username : Bytes
  req : HttpRequest
  resp : HttpResponse := {}

/-- The user a request is authenticated as. -/
def Incoming.user (incoming : Incoming) : Option Int32 :=
  if incoming.isLoggedIn = bytes "true" then (stoi incoming.userId).toOption else none

/-- A request of a user whose session says so. -/
def requestOf (userId body : Bytes) : Incoming where
  isLoggedIn := bytes "true"
  userId := userId
  username := bytes "ada"
  req := { version := bytes "HTTP/1.1", content := body }

def namesFive : Bytes := bytes "\x7b\"sessionId\":\"5\"\x7d"

def namesFiveJson : JsonCodec := knownTexts [(namesFive, .object [(bytes "sessionId", .string (bytes "5"))])]

structure Visit where
  memory : ChatMemory
  resp : HttpResponse

abbrev Visiting (Value : Type) := Throwing Visit Failure Value

section

variable (json : JsonCodec)

def onMemory (change : ChatMemory → ChatMemory) : Visiting Unit :=
  Throwing.modify fun visit => { visit with memory := change visit.memory }

def answerWith (version : Bytes) (statusCode : HttpStatusCode) (statusMessage : Bytes) (close : Bool) (body : Json) :
    Visiting Unit := do
  let text ← Throwing.call (throwing (json.dump4 body))
  Throwing.modify fun visit =>
    { visit with resp := jsonResponse visit.resp version statusCode statusMessage close text }

def errorBody (message : Bytes) : Json :=
  .object [(bytes "message", .string message), (bytes "status", .string (bytes "error"))]

/-- The frame of the four handlers: the check of the session, and the `catch`. -/
def authorized (incoming : Incoming) (handler : Int32 → Visiting Unit) : Visiting Unit :=
  Throwing.attempt
    (if incoming.isLoggedIn ≠ bytes "true" then
      answerWith json incoming.req.version .k401Unauthorized (bytes "Unauthorized") true
        (errorBody (bytes "Unauthorized"))
    else do
      let userId ← Throwing.call (throwing (stoi incoming.userId))
      handler userId)
    fun
    | .exception what =>
      answerWith json incoming.req.version .k400BadRequest (bytes "Bad Request") true (errorBody what)
    | .undefined => Throwing.throw .undefined

/-- `helper->chat`, for the helper of a conversation. -/
def chatIn (question : Question) (outside : Outside) : Visiting Bytes := ⟨fun visit =>
  let (talk, outcome) := (AIHelper.chat json question outside).run
    ⟨visit.memory.helper question.userId question.sessionId, visit.memory.published⟩
  ({ visit with
    memory := { visit.memory.putHelper question.userId question.sessionId talk.helper with
      published := talk.published } }, outcome)⟩

/-! The fields of the bodies. -/

def stringField (j : Json) (key : Bytes) : Except Failure Bytes :=
  match j.field key with
  | some value => value.getString
  | none => .ok []

def modelTypeField (j : Json) : Bytes :=
  match j.field (bytes "modelType") with
  | some (.string modelType) => modelType
  | some (.integer number) => intText (Int32.ofInt number).toInt
  | _ => bytes "1"

namespace ChatSendHandler

structure Fields where
  userQuestion : Bytes := []
  sessionId : Bytes := []
  modelType : Bytes := bytes "1"

def readFields (body : Bytes) : Except Failure Fields :=
  if body = [] then .ok {}
  else do
    let j ← throwing (json.parse body)
    let userQuestion ← stringField j (bytes "question")
    let sessionId ← stringField j (bytes "sessionId")
    return ⟨userQuestion, sessionId, modelTypeField j⟩

def handle (incoming : Incoming) (outside : Outside) : Visiting Unit :=
  authorized json incoming fun userId => do
    let fields ← Throwing.call (readFields json incoming.req.content)
    onMemory (·.enter userId fields.sessionId)
    let aiInformation ← chatIn json
      ⟨userId, incoming.username, fields.sessionId, fields.userQuestion, fields.modelType⟩ outside
    answerWith json incoming.req.version .k200Ok (bytes "OK") false
      (.object [(bytes "Information", .string aiInformation), (bytes "success", .boolean true)])

end ChatSendHandler

/-- `rawId` of `AISessionIdGenerator::generate`, as text. -/
def AISessionIdGenerator.generate (now : Int64) (rand : Int32) : Bytes :=
  let randVal := (rand % 100000).toInt64
  intText (now ^^^ randVal).toInt

namespace ChatCreateAndSendHandler

structure Fields where
  userQuestion : Bytes := []
  modelType : Bytes := bytes "1"

def readFields (body : Bytes) : Except Failure Fields :=
  if body = [] then .ok {}
  else do
    let j ← throwing (json.parse body)
    let userQuestion ← stringField j (bytes "question")
    return ⟨userQuestion, modelTypeField j⟩

def handle (incoming : Incoming) (now : Int64) (rand : Int32) (outside : Outside) : Visiting Unit :=
  authorized json incoming fun userId => do
    let fields ← Throwing.call (readFields json incoming.req.content)
    let sessionId := AISessionIdGenerator.generate now rand
    onMemory (·.enterListed userId sessionId)
    let aiInformation ← chatIn json
      ⟨userId, incoming.username, sessionId, fields.userQuestion, fields.modelType⟩ outside
    answerWith json incoming.req.version .k200Ok (bytes "OK") false
      (.object [(bytes "Information", .string aiInformation), (bytes "sessionId", .string sessionId),
        (bytes "success", .boolean true)])

end ChatCreateAndSendHandler

namespace ChatHistoryHandler

def readSessionId (body : Bytes) : Except Failure Bytes :=
  if body = [] then .ok []
  else do
    let j ← throwing (json.parse body)
    stringField j (bytes "sessionId")

def historyArray (messages : List Message) : Json :=
  .array (messages.mapIdx fun i message =>
    .object [(bytes "content", .string message.content), (bytes "is_user", .boolean (isUserAt i))])

def handle (incoming : Incoming) : Visiting Unit :=
  authorized json incoming fun userId => do
    let sessionId ← Throwing.call (readSessionId json incoming.req.content)
    onMemory (·.enter userId sessionId)
    let messages ← Throwing.read fun visit => (visit.memory.helper userId sessionId).messages
    answerWith json incoming.req.version .k200Ok (bytes "OK") false
      (.object [(bytes "history", historyArray messages), (bytes "success", .boolean true)])

end ChatHistoryHandler

namespace ChatSessionsHandler

def sessionArray (ids : List Bytes) : Json :=
  .array (ids.map fun sid =>
    .object [(bytes "name", .string (bytes "Ự " ++ sid)), (bytes "sessionId", .string sid)])

def handle (incoming : Incoming) : Visiting Unit :=
  authorized json incoming fun userId => do
    let ids ← Throwing.read fun visit => visit.memory.sessionIds userId
    onMemory (·.putSessionIds userId ids)
    answerWith json incoming.req.version .k200Ok (bytes "OK") false
      (.object [(bytes "sessions", sessionArray ids), (bytes "success", .boolean true)])

end ChatSessionsHandler

end

/-! Requests one after another. -/

inductive ChatRequest where
  | send (incoming : Incoming) (outside : Outside)
  | sendNewSession (incoming : Incoming) (now : Int64) (rand : Int32) (outside : Outside)
  | history (incoming : Incoming)
  | sessions (incoming : Incoming)

namespace ChatRequest

def incoming : ChatRequest → Incoming
  | .send incoming _ => incoming
  | .sendNewSession incoming _ _ _ => incoming
  | .history incoming => incoming
  | .sessions incoming => incoming

def handle (json : JsonCodec) : ChatRequest → Visiting Unit
  | .send incoming outside => ChatSendHandler.handle json incoming outside
  | .sendNewSession incoming now rand outside => ChatCreateAndSendHandler.handle json incoming now rand outside
  | .history incoming => ChatHistoryHandler.handle json incoming
  | .sessions incoming => ChatSessionsHandler.handle json incoming

def user (request : ChatRequest) : Option Int32 := request.incoming.user

def serve (json : JsonCodec) (memory : ChatMemory) (request : ChatRequest) : Visit × Except Failure Unit :=
  (request.handle json).run ⟨memory, request.incoming.resp⟩

end ChatRequest

/-! What one request does to the memory. -/

def ChatMemory.afterChat (json : JsonCodec) (question : Question) (outside : Outside) (memory : ChatMemory) :
    ChatMemory :=
  let talk := ((AIHelper.chat json question outside).run
    ⟨memory.helper question.userId question.sessionId, memory.published⟩).1
  { memory.putHelper question.userId question.sessionId talk.helper with published := talk.published }

/-- The memory after a request, whatever is answered. -/
def ChatRequest.after (json : JsonCodec) (memory : ChatMemory) (request : ChatRequest) : ChatMemory :=
  match request.user with
  | none => memory
  | some userId =>
    match request with
    | .send incoming outside =>
      match ChatSendHandler.readFields json incoming.req.content with
      | .error _ => memory
      | .ok fields =>
        (memory.enter userId fields.sessionId).afterChat json
          ⟨userId, incoming.username, fields.sessionId, fields.userQuestion, fields.modelType⟩ outside
    | .sendNewSession incoming now rand outside =>
      match ChatCreateAndSendHandler.readFields json incoming.req.content with
      | .error _ => memory
      | .ok fields =>
        (memory.enterListed userId (AISessionIdGenerator.generate now rand)).afterChat json
          ⟨userId, incoming.username, AISessionIdGenerator.generate now rand, fields.userQuestion, fields.modelType⟩
          outside
    | .history incoming =>
      match ChatHistoryHandler.readSessionId json incoming.req.content with
      | .error _ => memory
      | .ok sessionId => memory.enter userId sessionId
    | .sessions _ => memory.putSessionIds userId (memory.sessionIds userId)

section

variable {json : JsonCodec}

theorem answerWith_memory (version : Bytes) (statusCode : HttpStatusCode) (statusMessage : Bytes) (close : Bool)
    (body : Json) (visit : Visit) :
    ((answerWith json version statusCode statusMessage close body).run visit).1.memory = visit.memory := by
  unfold answerWith
  rw [Throwing.run_call_bind]
  cases throwing (json.dump4 body) <;> rfl

/-- What `authorized` adds to a handler does not touch the memory. -/
theorem authorized_memory (incoming : Incoming) (handler : Int32 → Visiting Unit) (visit : Visit) :
    ((authorized json incoming handler).run visit).1.memory =
      match incoming.user with
      | some userId => ((handler userId).run visit).1.memory
      | none => visit.memory := by
  have caught : ∀ (body : Visiting Unit) (visit : Visit),
      ((Throwing.attempt body fun
        | .exception what =>
          answerWith json incoming.req.version .k400BadRequest (bytes "Bad Request") true (errorBody what)
        | .undefined => Throwing.throw .undefined).run visit).1.memory = (body.run visit).1.memory := by
    intro body visit
    unfold Throwing.attempt
    dsimp only
    cases run : body.run visit with
    | mk middle outcome =>
      cases outcome with
      | ok _ => rfl
      | error failure =>
        cases failure with
        | exception what => exact answerWith_memory ..
        | undefined => rfl
  unfold authorized Incoming.user
  rw [caught]
  by_cases loggedIn : incoming.isLoggedIn = bytes "true"
  · simp only [loggedIn, ne_eq, not_true_eq_false, ↓reduceIte, Throwing.run_call_bind]
    cases stoi incoming.userId <;> rfl
  · simp only [loggedIn, ne_eq, not_false_eq_true, ↓reduceIte]
    exact answerWith_memory ..

theorem bind_memory {Value : Type} (call : Visiting Value) {next : Value → Visiting Unit}
    (keeps : ∀ value visit, ((next value).run visit).1.memory = visit.memory) (visit : Visit) :
    ((call >>= next).run visit).1.memory = (call.run visit).1.memory := by
  simp only [Bind.bind, Throwing.andThen]
  cases run : call.run visit with
  | mk middle outcome =>
    cases outcome with
    | ok value => exact keeps value middle
    | error failure => rfl

theorem serve_memory (memory : ChatMemory) (request : ChatRequest) :
    (request.serve json memory).1.memory = request.after json memory := by
  unfold ChatRequest.serve ChatRequest.after ChatRequest.user
  cases request with
  | send incoming outside =>
    simp only [ChatRequest.handle, ChatRequest.incoming, ChatSendHandler.handle, authorized_memory]
    cases incoming.user with
    | none => rfl
    | some userId =>
      dsimp only
      rw [Throwing.run_call_bind]
      cases ChatSendHandler.readFields json incoming.req.content with
      | error failure => rfl
      | ok fields =>
        dsimp only [onMemory]
        rw [Throwing.run_modify_bind]
        exact bind_memory _ (fun _ _ => answerWith_memory ..) _
  | sendNewSession incoming now rand outside =>
    simp only [ChatRequest.handle, ChatRequest.incoming, ChatCreateAndSendHandler.handle, authorized_memory]
    cases incoming.user with
    | none => rfl
    | some userId =>
      dsimp only
      rw [Throwing.run_call_bind]
      cases ChatCreateAndSendHandler.readFields json incoming.req.content with
      | error failure => rfl
      | ok fields =>
        dsimp only [onMemory]
        rw [Throwing.run_modify_bind]
        exact bind_memory _ (fun _ _ => answerWith_memory ..) _
  | history incoming =>
    simp only [ChatRequest.handle, ChatRequest.incoming, ChatHistoryHandler.handle, authorized_memory]
    cases incoming.user with
    | none => rfl
    | some userId =>
      dsimp only
      rw [Throwing.run_call_bind]
      cases ChatHistoryHandler.readSessionId json incoming.req.content with
      | error failure => rfl
      | ok sessionId =>
        dsimp only [onMemory]
        rw [Throwing.run_modify_bind]
        exact bind_memory _ (fun _ _ => answerWith_memory ..) _
  | sessions incoming =>
    simp only [ChatRequest.handle, ChatRequest.incoming, ChatSessionsHandler.handle, authorized_memory]
    cases incoming.user with
    | none => rfl
    | some userId =>
      dsimp only
      rw [Throwing.run_read_bind]
      exact bind_memory (onMemory _) (fun _ _ => answerWith_memory ..) _

end

/-- A request whose outcome the library leaves undefined is not followed by another. -/
def chatStep (json : JsonCodec) (memory : ChatMemory) (request : ChatRequest) : Option ChatMemory :=
  match request.serve json memory with
  | (_, .error .undefined) => none
  | (visit, _) => some visit.memory

def chats (json : JsonCodec) : System ChatMemory ChatRequest := ⟨chatStep json⟩

theorem chatStep_after {json : JsonCodec} {memory next : ChatMemory} {request : ChatRequest}
    (step : (chats json).step memory request = some next) : next = request.after json memory := by
  change chatStep json memory request = some next at step
  rw [← serve_memory]
  unfold chatStep at step
  split at step
  · cases step
  · rename_i served
    cases step
    rw [served]

end Chat
