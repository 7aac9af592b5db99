import HttpServerApps.Chat.ServerRuns

namespace Chat

open Common Http

/-! Requests whose messages `MQManager::publish` may throw for: the call of `chat` ends there, and the handler answers
    with what was thrown. -/

/-- A call of `chat`, with the memory that its handler makes it in. -/
structure Asked where
  memory : ChatMemory
  question : Question
  outside : Outside

namespace Asked

variable (json : JsonCodec) (publish : Bool → UpdateAnswer Bytes) (asked : Asked)

def talk : Talk := ⟨asked.memory.helper asked.question.userId asked.question.sessionId, asked.memory.published⟩

/-- The memory that the call leaves. -/
def left : ChatMemory :=
  let talk := ((AIHelper.chatPublishing json asked.question asked.outside publish).run asked.talk).1
  { asked.memory.putHelper asked.question.userId asked.question.sessionId talk.helper with
    published := talk.published }

/-- `none` where the call does what the JSON library leaves undefined. -/
def after : Option ChatMemory :=
  match ((AIHelper.chatPublishing json asked.question asked.outside publish).run asked.talk).2 with
  | .error .undefined => none
  | _ => some (asked.left json publish)

/-- What the call gives to `MQManager::publish`. -/
def tried : List ChatInsert :=
  ((AIHelper.effect json asked.question asked.outside asked.talk.helper.messages).reached publish).inserts
    asked.question asked.outside

variable {json publish asked}

theorem after_some {memory : ChatMemory} (after : asked.after json publish = some memory) :
    memory = asked.left json publish := by
  unfold Asked.after at after
  split at after
  · cases after
  · exact (Option.some.inj after).symm

theorem left_done : asked.left json (fun _ => .done) = asked.memory.afterChat json asked.question asked.outside := by
  unfold left
  rw [AIHelper.chatPublishing_done]
  rfl

end Asked

/-- The call of `chat` that a request comes to. -/
def ChatRequest.asked (json : JsonCodec) (memory : ChatMemory) (request : ChatRequest) : Option Asked :=
  match request.user with
  | none => none
  | some userId =>
    match request with
    | .send incoming outside =>
      match ChatSendHandler.readFields json incoming.req.content with
      | .error _ => none
      | .ok fields =>
        some ⟨memory.enter userId fields.sessionId,
          ⟨userId, incoming.username, fields.sessionId, fields.userQuestion, fields.modelType⟩, outside⟩
    | .sendNewSession incoming now rand outside =>
      match ChatCreateAndSendHandler.readFields json incoming.req.content with
      | .error _ => none
      | .ok fields =>
        some ⟨memory.enterListed userId (AISessionIdGenerator.generate now rand),
          ⟨userId, incoming.username, AISessionIdGenerator.generate now rand, fields.userQuestion, fields.modelType⟩,
          outside⟩
    | .history _ | .sessions _ => none

theorem after_asked {json : JsonCodec} {memory : ChatMemory} {request : ChatRequest} {asked : Asked}
    (asks : request.asked json memory = some asked) :
    request.after json memory = asked.memory.afterChat json asked.question asked.outside := by
  unfold ChatRequest.asked at asks
  unfold ChatRequest.after
  cases user : request.user with
  | none =>
    rw [user] at asks
    cases asks
  | some userId =>
    rw [user] at asks
    cases request with
    | send incoming outside =>
      dsimp only at asks ⊢
      cases read : ChatSendHandler.readFields json incoming.req.content with
      | error failure =>
        rw [read] at asks
        cases asks
      | ok fields =>
        rw [read] at asks
        cases asks
        rfl
    | sendNewSession incoming now rand outside =>
      dsimp only at asks ⊢
      cases read : ChatCreateAndSendHandler.readFields json incoming.req.content with
      | error failure =>
        rw [read] at asks
        cases asks
      | ok fields =>
        rw [read] at asks
        cases asks
        rfl
    | history | sessions => cases asks

/-- The application after a request that comes to a call of `chat`, whose messages are published so, and those that
    the queue has not got. -/
def afterPublishing (env : Environment) (app : Application) (req : HttpRequest) (publish : Bool → UpdateAnswer Bytes) :
    Option (Application × List ChatInsert) := do
  let request ← chatRequest env app req
  let asked ← request.asked env.codec app.memory
  let memory ← asked.after env.codec publish
  return ({ entered app req with server := serverAfter env app req, memory },
    AIHelper.unqueued publish (asked.tried env.codec publish))

section

variable {env : Environment} {app after : Application} {req : HttpRequest} {publish : Bool → UpdateAnswer Bytes}

theorem afterPublishing_some {missed : List ChatInsert}
    (published : afterPublishing env app req publish = some (after, missed)) :
    ∃ request asked memory, chatRequest env app req = some request ∧ request.asked env.codec app.memory = some asked ∧
      asked.after env.codec publish = some memory ∧
      after = { entered app req with server := serverAfter env app req, memory } ∧
      missed = AIHelper.unqueued publish (asked.tried env.codec publish) := by
  unfold afterPublishing at published
  rcases Option.bind_eq_some_iff.mp published with ⟨request, made, rest⟩
  rcases Option.bind_eq_some_iff.mp rest with ⟨asked, asks, rest⟩
  rcases Option.bind_eq_some_iff.mp rest with ⟨memory, left, same⟩
  rcases Prod.mk.inj (Option.some.inj same) with ⟨rfl, rfl⟩
  exact ⟨request, asked, memory, made, asks, left, rfl, rfl⟩

theorem images_of_chatRequest {request : ChatRequest} (made : chatRequest env app req = some request) :
    imagesAfter env app req = app.imageRecognizerMap := by
  unfold imagesAfter
  apply if_neg
  intro uploads
  unfold chatRequest at made
  rw [uploads] at made
  cases made

/-- Where everything is published the request leaves what the server leaves. -/
theorem afterPublishing_done {response : HttpResponse} {other : Application} {missed : List ChatInsert}
    (answered : answer env app req = some (after, response))
    (published : afterPublishing env app req (fun _ => .done) = some (other, missed)) : missed = [] ∧
      other.server = after.server ∧ other.memory = after.memory ∧
      other.imageRecognizerMap = after.imageRecognizerMap := by
  rcases afterPublishing_some published with ⟨request, asked, memory, made, asks, left, rfl, rfl⟩
  have leaves := answer_leaves answered
  have same : memory = memoryAfter env app req := by
    unfold memoryAfter
    rw [made, Option.elim_some, after_asked asks]
    rw [Asked.after_some left, Asked.left_done]
  have images := (images_of_chatRequest made).symm
  exact ⟨List.filter_false _, leaves.server.symm, same.trans leaves.memory.symm, images.trans leaves.images.symm⟩

end

end Chat
