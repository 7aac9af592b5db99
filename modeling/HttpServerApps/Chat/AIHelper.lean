import HttpServerApps.Chat.AIConfig
import HttpServerApps.Chat.MessageInsert
import HttpServerApps.Chat.Strategy
import HttpServerApps.Common.Throwing

namespace Chat

open Common

structure AIHelper where
  strategy : Option AIStrategy := none
  messages : List Message := []

/-- The arguments of one call of `chat`. -/
structure Question where
  userId : Int32
  userName : Bytes
  sessionId : Bytes
  userQuestion : Bytes
  modelType : Bytes

/-- What `pushMessageToMysql` is given. -/
structure ChatInsert where
  userId : Int32
  userName : Bytes
  is_user : Bool
  userInput : Bytes
  ms : Int64
  sessionId : Bytes
  deriving DecidableEq

def ChatInsert.sql (row : ChatInsert) : Bytes :=
  (AIHelper.pushMessageToMysql row.userId row.userName row.is_user row.userInput row.ms row.sessionId).2

/-- How a transfer of curl ends. -/
inductive Transfer where
  | noHandle
  | failed (error : Bytes)
  | received (readBuffer : Bytes)

/-- What one call of `chat` meets outside: the environment, the file of the tools, the model, the tools and
    the clock. -/
structure Outside where
  getenv : Getenv
  paramOrder : ParamOrder := id
  configFile : Option Bytes := none
  firstReply : Transfer
  secondReply : Transfer := .noHandle
  tools : ToolWorld := ⟨.noHandle, []⟩
  questionMs : Int64
  answerMs : Int64

/-- A model whose key is not in the environment. -/
def keyless : Outside := { getenv := fun _ => none, firstReply := .noHandle, questionMs := 0, answerMs := 0 }

/-- A model with a key, and how the transfer to it ends. -/
def keyed (firstReply : Transfer) (questionMs answerMs : Int64) : Outside :=
  { getenv := fun _ => some (bytes "key"), firstReply, questionMs, answerMs }

def helloJson : JsonCodec := knownTexts [(bytes "r", choiceOf (bytes "hello"))]

/-- What a call changes: its helper and the queue. -/
structure Talk where
  helper : AIHelper := {}
  published : List ChatInsert := []

abbrev Talking (Value : Type) := Throwing Talk Failure Value

namespace AIHelper

def setStrategy (helper : AIHelper) (strat : AIStrategy) : AIHelper := { helper with strategy := some strat }

def pushBack (helper : AIHelper) (message : Message) : AIHelper :=
  { helper with messages := helper.messages ++ [message] }

def popBack (helper : AIHelper) : AIHelper := { helper with messages := helper.messages.dropLast }

/-- A restored message has the origin that its row tells. -/
def restoreMessage (helper : AIHelper) (userInput : Bytes) (ms : Int64) (is_user : Bool) : AIHelper :=
  helper.pushBack ⟨userInput, ms, .added is_user⟩

def executeCurl (json : JsonCodec) (getenv : Getenv) (strategy : AIStrategy) (payload : Json) (transfer : Transfer) :
    Except Failure Json :=
  match transfer with
  | .noHandle => .error (.exception (bytes "Failed to initialize curl"))
  | .failed error => do
    let _ ← strategy.getApiUrl getenv
    let _ ← throwing (json.dump payload)
    .error (.exception (bytes "curl_easy_perform() failed: " ++ error))
  | .received readBuffer => do
    let _ ← strategy.getApiUrl getenv
    let _ ← throwing (json.dump payload)
    match json.parse readBuffer with
    | .ok response => .ok response
    | .error _ => .error (.exception (bytes "Failed to parse JSON response: " ++ readBuffer))

variable (json : JsonCodec) (question : Question) (outside : Outside)

/-- The answer of the model to the messages. -/
def ask (strategy : AIStrategy) (transfer : Transfer) (messages : List Message) : Except Failure Bytes := do
  let payload := strategy.buildRequest outside.getenv messages
  let response ← executeCurl json outside.getenv strategy payload transfer
  strategy.parseResponse json response

def insertOf (is_user : Bool) (userInput : Bytes) (ms : Int64) : ChatInsert :=
  ⟨question.userId, question.userName, is_user, userInput, ms, question.sessionId⟩

def addMessage (is_user : Bool) (userInput : Bytes) (ms : Int64) : Talking Unit :=
  Throwing.modify fun talk =>
    ⟨talk.helper.pushBack ⟨userInput, ms, .added is_user⟩, talk.published ++ [insertOf question is_user userInput ms]⟩

/-- `addMessage` where `MQManager::publish` may throw: the message is in the conversation by then. -/
def addMessagePublishing (publish : Bool → UpdateAnswer Bytes) (is_user : Bool) (userInput : Bytes) (ms : Int64) :
    Talking Unit := do
  Throwing.modify fun talk => { talk with helper := talk.helper.pushBack ⟨userInput, ms, .added is_user⟩ }
  if (publish is_user).writes then
    Throwing.modify fun talk => { talk with published := talk.published ++ [insertOf question is_user userInput ms] }
  Throwing.call (throwing (publish is_user).outcome)

def askModel (strategy : AIStrategy) (transfer : Transfer) : Talking Bytes := do
  let messages ← Throwing.read fun talk => talk.helper.messages
  Throwing.call (ask json outside strategy transfer messages)

def askWithPrompt (strategy : AIStrategy) (transfer : Transfer) (prompt : Bytes) : Talking Bytes := do
  Throwing.modify fun talk => { talk with helper := talk.helper.pushBack ⟨prompt, 0, .prompt⟩ }
  let result ← askModel json outside strategy transfer
  Throwing.modify fun talk => { talk with helper := talk.helper.popBack }
  return result

section

/-! The body of `chat`, with `add` for its `addMessage`. -/

variable (add : Bool → Bytes → Int64 → Talking Unit)

def addBothBy (answer : Bytes) : Talking Bytes := do
  add true question.userQuestion outside.questionMs
  add false answer outside.answerMs
  return answer

/-- From the answer to the first prompt on. -/
def afterFirstBy (strategy : AIStrategy) (aiResult : Bytes) : Talking Bytes :=
  let call := AIConfig.parseAIResponse json aiResult
  if call.isToolCall = false then addBothBy question outside add aiResult
  else
    match AIToolRegistry.invoke outside.tools call.toolName call.args with
    | .error .undefined => Throwing.throw .undefined
    | .error (.exception what) => addBothBy question outside add (bytes "[工具调用失败] " ++ what)
    | .ok toolResult => do
      let secondPrompt ← Throwing.call
        (AIConfig.buildToolResultPrompt json question.userQuestion call.toolName call.args toolResult)
      let finalAnswer ← askWithPrompt json outside strategy outside.secondReply secondPrompt
      addBothBy question outside add finalAnswer

def chatBy : Talking Bytes := do
  let strategy ← Throwing.call (StrategyFactory.create outside.getenv question.modelType)
  Throwing.modify fun talk => { talk with helper := talk.helper.setStrategy strategy }
  if strategy.isMCPModel = false then
    add true question.userQuestion outside.questionMs
    let answer ← askModel json outside strategy outside.firstReply
    add false answer outside.answerMs
    return if answer = [] then bytes "[Error] 无法解析响应" else answer
  else
    let config ← Throwing.call (AIConfig.loadFromFile json outside.paramOrder outside.configFile)
    let tempUserQuestion := config.buildPrompt question.userQuestion
    let aiResult ← askWithPrompt json outside strategy outside.firstReply tempUserQuestion
    afterFirstBy json question outside add strategy aiResult

end

def addBoth (answer : Bytes) : Talking Bytes := addBothBy question outside (addMessage question) answer

def afterFirst (strategy : AIStrategy) (aiResult : Bytes) : Talking Bytes :=
  afterFirstBy json question outside (addMessage question) strategy aiResult

def chat : Talking Bytes := chatBy json question outside (addMessage question)

/-- `chat` where publishing may throw. -/
def chatPublishing (publish : Bool → UpdateAnswer Bytes) : Talking Bytes :=
  chatBy json question outside (addMessagePublishing question publish)

/-! What one call leaves behind. -/

inductive Effect where
  | nothing
  | questionOnly
  | promptLeft (prompt : Bytes)
  | both (answer : Bytes)

def Effect.messages : Effect → List Message
  | .nothing => []
  | .questionOnly => [⟨question.userQuestion, outside.questionMs, .added true⟩]
  | .promptLeft prompt => [⟨prompt, 0, .prompt⟩]
  | .both answer =>
    [⟨question.userQuestion, outside.questionMs, .added true⟩, ⟨answer, outside.answerMs, .added false⟩]

def Effect.inserts : Effect → List ChatInsert
  | .nothing | .promptLeft _ => []
  | .questionOnly => [insertOf question true question.userQuestion outside.questionMs]
  | .both answer =>
    [insertOf question true question.userQuestion outside.questionMs, insertOf question false answer outside.answerMs]

/-- The call has failed for want of an answer to a prompt, or goes on with the answer. -/
def promptEffect (strategy : AIStrategy) (transfer : Transfer) (prompt : Bytes) (messages : List Message)
    (next : Bytes → Effect) : Effect :=
  match ask json outside strategy transfer (messages ++ [⟨prompt, 0, .prompt⟩]) with
  | .error _ => .promptLeft prompt
  | .ok result => next result

def afterFirstEffect (strategy : AIStrategy) (messages : List Message) (aiResult : Bytes) : Effect :=
  let call := AIConfig.parseAIResponse json aiResult
  if call.isToolCall = false then .both aiResult
  else
    match AIToolRegistry.invoke outside.tools call.toolName call.args with
    | .error .undefined => .nothing
    | .error (.exception what) => .both (bytes "[工具调用失败] " ++ what)
    | .ok toolResult =>
      match AIConfig.buildToolResultPrompt json question.userQuestion call.toolName call.args toolResult with
      | .error _ => .nothing
      | .ok secondPrompt => promptEffect json outside strategy outside.secondReply secondPrompt messages .both

/-- The effect of a call, by how far it comes. -/
def effect (messages : List Message) : Effect :=
  match StrategyFactory.create outside.getenv question.modelType with
  | .error _ => .nothing
  | .ok strategy =>
    if strategy.isMCPModel = false then
      match ask json outside strategy outside.firstReply
          (messages ++ [⟨question.userQuestion, outside.questionMs, .added true⟩]) with
      | .error _ => .questionOnly
      | .ok answer => .both answer
    else
      match AIConfig.loadFromFile json outside.paramOrder outside.configFile with
      | .error _ => .nothing
      | .ok config =>
        promptEffect json outside strategy outside.firstReply (config.buildPrompt question.userQuestion) messages
          (afterFirstEffect json question outside strategy messages)

/-- The call returns when it leaves both messages, and only then. -/
def Effect.returns : Effect → Bool
  | .both _ => true
  | _ => false

/-- How far a call comes whose messages are published so. -/
def Effect.reached (publish : Bool → UpdateAnswer Bytes) : Effect → Effect
  | .both answer => if (publish true).outcome.isOk then .both answer else .questionOnly
  | effect => effect

/-- What comes to the queue of what such a call publishes. -/
def queued (publish : Bool → UpdateAnswer Bytes) (inserts : List ChatInsert) : List ChatInsert :=
  inserts.filter fun insert => (publish insert.is_user).writes

def unqueued (publish : Bool → UpdateAnswer Bytes) (inserts : List ChatInsert) : List ChatInsert :=
  inserts.filter fun insert => !(publish insert.is_user).writes

/-- A part of a call that has the effect on the talk it starts from, as far as it comes. -/
def LeavesPublishing (publish : Bool → UpdateAnswer Bytes) (call : Talking Bytes) (talk : Talk) (effect : Effect) :
    Prop :=
  ∃ strategy outcome, call.run talk =
    (⟨⟨strategy, talk.helper.messages ++ (effect.reached publish).messages question outside⟩,
      talk.published ++ queued publish ((effect.reached publish).inserts question outside)⟩, outcome) ∧
      outcome.isOk = ((effect.reached publish).returns && (publish false).outcome.isOk)

/-- A part of a call that has the effect on the talk it starts from. -/
def Leaves (call : Talking Bytes) (talk : Talk) (effect : Effect) : Prop :=
  ∃ strategy outcome, call.run talk =
    (⟨⟨strategy, talk.helper.messages ++ effect.messages question outside⟩,
      talk.published ++ effect.inserts question outside⟩, outcome) ∧ outcome.isOk = effect.returns

section

variable {json question outside}

theorem addMessagePublishing_run (publish : Bool → UpdateAnswer Bytes) (is_user : Bool) (userInput : Bytes)
    (ms : Int64) (talk : Talk) :
    (addMessagePublishing question publish is_user userInput ms).run talk =
      (⟨talk.helper.pushBack ⟨userInput, ms, .added is_user⟩,
        talk.published ++ queued publish [insertOf question is_user userInput ms]⟩,
        throwing (publish is_user).outcome) := by
  unfold addMessagePublishing queued
  rw [Throwing.run_modify_bind]
  have own : (insertOf question is_user userInput ms).is_user = is_user := rfl
  cases writes : (publish is_user).writes with
  | true =>
    rw [if_pos rfl, List.filter_cons_of_pos (by rw [own]; exact writes)]
    rfl
  | false =>
    rw [if_neg Bool.false_ne_true, List.filter_cons_of_neg (by rw [own, writes]; exact Bool.false_ne_true)]
    simp only [List.filter_nil, List.append_nil]
    rfl

theorem addMessagePublishing_done : addMessagePublishing question (fun _ => .done) = addMessage question := rfl

theorem chatPublishing_done : chatPublishing json question outside (fun _ => .done) = chat json question outside := by
  unfold chatPublishing chat
  rw [addMessagePublishing_done]

theorem askModel_run (strategy : AIStrategy) (transfer : Transfer) (talk : Talk) :
    (askModel json outside strategy transfer).run talk =
      (talk, ask json outside strategy transfer talk.helper.messages) := rfl

@[simp] theorem popBack_pushBack (helper : AIHelper) (message : Message) :
    (helper.pushBack message).popBack = helper := by
  simp [pushBack, popBack]

theorem askWithPrompt_run (strategy : AIStrategy) (transfer : Transfer) (prompt : Bytes) (talk : Talk) :
    (askWithPrompt json outside strategy transfer prompt).run talk =
      match ask json outside strategy transfer (talk.helper.messages ++ [⟨prompt, 0, .prompt⟩]) with
      | .error failure => ({ talk with helper := talk.helper.pushBack ⟨prompt, 0, .prompt⟩ }, .error failure)
      | .ok result => (talk, .ok result) := by
  simp only [askWithPrompt, Throwing.run_modify_bind]
  simp only [Bind.bind, Throwing.andThen, askModel_run]
  dsimp only [pushBack]
  cases ask json outside strategy transfer (talk.helper.messages ++ [⟨prompt, 0, .prompt⟩]) with
  | error failure => rfl
  | ok result =>
    show ({ talk with helper := (talk.helper.pushBack ⟨prompt, 0, .prompt⟩).popBack }, Except.ok result) = _
    rw [popBack_pushBack]

section

variable {publish : Bool → UpdateAnswer Bytes}

/-- The question, and where it could be published what follows it. -/
theorem question_leaves (talk : Talk) {next : Unit → Talking Bytes} {effect : Effect}
    (reaches : (publish true).outcome = .ok () → ∃ strategy outcome, (next ()).run
        ⟨talk.helper.pushBack ⟨question.userQuestion, outside.questionMs, .added true⟩,
          talk.published ++ queued publish [insertOf question true question.userQuestion outside.questionMs]⟩ =
      (⟨⟨strategy, talk.helper.messages ++ (effect.reached publish).messages question outside⟩,
        talk.published ++ queued publish ((effect.reached publish).inserts question outside)⟩, outcome) ∧
        outcome.isOk = ((effect.reached publish).returns && (publish false).outcome.isOk))
    (stops : ∀ what, (publish true).outcome = .error what → effect.reached publish = .questionOnly) :
    LeavesPublishing question outside publish
      (addMessagePublishing question publish true question.userQuestion outside.questionMs >>= next) talk effect := by
  have asked := @addMessagePublishing_run question publish true question.userQuestion outside.questionMs talk
  unfold LeavesPublishing
  cases told : (publish true).outcome with
  | ok _ =>
    rw [told] at asked
    rw [Throwing.run_bind_ok asked]
    exact reaches told
  | error what =>
    rw [told] at asked
    rw [Throwing.run_bind_error asked, stops what told]
    exact ⟨talk.helper.strategy, .error (.exception what), rfl, rfl⟩

/-- The answer after its question. -/
theorem answer_leaves (talk : Talk) (answer reply : Bytes) (asked : (publish true).outcome = .ok ()) :
    ∃ strategy outcome,
      (addMessagePublishing question publish false answer outside.answerMs >>= fun _ =>
        (return reply : Talking Bytes)).run
        ⟨talk.helper.pushBack ⟨question.userQuestion, outside.questionMs, .added true⟩,
          talk.published ++ queued publish [insertOf question true question.userQuestion outside.questionMs]⟩ =
      (⟨⟨strategy, talk.helper.messages ++ ((Effect.both answer).reached publish).messages question outside⟩,
        talk.published ++ queued publish (((Effect.both answer).reached publish).inserts question outside)⟩, outcome) ∧
        outcome.isOk = (((Effect.both answer).reached publish).returns && (publish false).outcome.isOk) := by
  have added := @addMessagePublishing_run question publish false answer outside.answerMs
    ⟨talk.helper.pushBack ⟨question.userQuestion, outside.questionMs, .added true⟩,
      talk.published ++ queued publish [insertOf question true question.userQuestion outside.questionMs]⟩
  have reached : (Effect.both answer).reached publish = .both answer := by
    simp only [Effect.reached, asked, Except.isOk, Except.toBool, if_true]
  have both : queued publish ((Effect.both answer).inserts question outside) =
      queued publish [insertOf question true question.userQuestion outside.questionMs] ++
        queued publish [insertOf question false answer outside.answerMs] :=
    List.filter_append [insertOf question true question.userQuestion outside.questionMs] _
  rw [reached, both, ← List.append_assoc]
  cases told : (publish false).outcome with
  | ok _ =>
    rw [told] at added
    rw [Throwing.run_bind_ok added]
    refine ⟨talk.helper.strategy, .ok reply, ?_, rfl⟩
    simp only [pushBack, Effect.messages, List.append_assoc]
    rfl
  | error what =>
    rw [told] at added
    rw [Throwing.run_bind_error added]
    refine ⟨talk.helper.strategy, .error (.exception what), ?_, rfl⟩
    simp only [pushBack, Effect.messages, List.append_assoc]
    rfl

theorem both_stops (answer : Bytes) (what : Bytes) (told : (publish true).outcome = .error what) :
    (Effect.both answer).reached publish = .questionOnly := by
  simp only [Effect.reached, told, Except.isOk, Except.toBool, Bool.false_eq_true, if_false]

theorem addBothBy_leaves (talk : Talk) (answer : Bytes) :
    LeavesPublishing question outside publish
      (addBothBy question outside (addMessagePublishing question publish) answer) talk (.both answer) :=
  question_leaves talk (answer_leaves talk answer answer) (both_stops answer)

/-- A prompt and what follows its answer, for parts that leave the talk alone up to the answer. -/
theorem askWithPrompt_leaves {strategy : AIStrategy} {transfer : Transfer} {prompt : Bytes} (talk : Talk)
    {next : Bytes → Talking Bytes} {effects : Bytes → Effect}
    (later : ∀ result, LeavesPublishing question outside publish (next result) talk (effects result)) :
    LeavesPublishing question outside publish (askWithPrompt json outside strategy transfer prompt >>= next) talk
      (promptEffect json outside strategy transfer prompt talk.helper.messages effects) := by
  have asked := @askWithPrompt_run json outside strategy transfer prompt talk
  unfold promptEffect LeavesPublishing
  simp only [Bind.bind, Throwing.andThen]
  rw [asked]
  cases ask json outside strategy transfer (talk.helper.messages ++ [⟨prompt, 0, .prompt⟩]) with
  | error failure =>
    refine ⟨talk.helper.strategy, .error failure, ?_, rfl⟩
    simp [Effect.reached, Effect.messages, Effect.inserts, queued, pushBack]
  | ok result => exact later result

theorem leaves_nothing (talk : Talk) (failure : Failure) :
    LeavesPublishing question outside publish (Throwing.throw failure) talk .nothing := by
  refine ⟨talk.helper.strategy, .error failure, ?_, rfl⟩
  simp only [Effect.reached, Effect.messages, Effect.inserts, queued, List.filter_nil, List.append_nil]
  rfl

theorem afterFirstBy_leaves (strategy : AIStrategy) (aiResult : Bytes) (talk : Talk) :
    LeavesPublishing question outside publish
      (afterFirstBy json question outside (addMessagePublishing question publish) strategy aiResult) talk
      (afterFirstEffect json question outside strategy talk.helper.messages aiResult) := by
  unfold afterFirstBy afterFirstEffect
  dsimp only
  split
  · exact addBothBy_leaves talk aiResult
  · cases AIToolRegistry.invoke outside.tools (AIConfig.parseAIResponse json aiResult).toolName
      (AIConfig.parseAIResponse json aiResult).args with
    | error failure =>
      cases failure with
      | undefined => exact leaves_nothing talk .undefined
      | exception what => exact addBothBy_leaves talk _
    | ok toolResult =>
      dsimp only
      cases prompted : AIConfig.buildToolResultPrompt json question.userQuestion
          (AIConfig.parseAIResponse json aiResult).toolName (AIConfig.parseAIResponse json aiResult).args
          toolResult with
      | error failure =>
        unfold LeavesPublishing
        rw [Throwing.run_call_bind]
        exact leaves_nothing talk failure
      | ok secondPrompt =>
        unfold LeavesPublishing
        rw [Throwing.run_call_bind]
        exact askWithPrompt_leaves talk fun result => addBothBy_leaves talk result

/-- The effect of `chat`, as far as the call comes with what its messages are answered. -/
theorem chatPublishing_leaves (talk : Talk) :
    LeavesPublishing question outside publish (chatPublishing json question outside publish) talk
      (effect json question outside talk.helper.messages) := by
  unfold chatPublishing chatBy effect LeavesPublishing
  rw [Throwing.run_call_bind]
  cases StrategyFactory.create outside.getenv question.modelType with
  | error failure => exact leaves_nothing talk failure
  | ok strategy =>
    dsimp only
    rw [Throwing.run_modify_bind]
    split
    · apply question_leaves { talk with helper := talk.helper.setStrategy strategy }
      · intro told
        simp only [Bind.bind, Throwing.andThen, askModel_run]
        dsimp only [pushBack, setStrategy]
        cases ask json outside strategy outside.firstReply
            (talk.helper.messages ++ [⟨question.userQuestion, outside.questionMs, .added true⟩]) with
        | error failure => exact ⟨some strategy, .error failure, rfl, rfl⟩
        | ok answer => exact answer_leaves { talk with helper := talk.helper.setStrategy strategy } answer _ told
      · intro what told
        cases ask json outside strategy outside.firstReply
            (talk.helper.messages ++ [⟨question.userQuestion, outside.questionMs, .added true⟩]) with
        | error failure => rfl
        | ok answer => exact both_stops answer what told
    · rw [Throwing.run_call_bind]
      cases AIConfig.loadFromFile json outside.paramOrder outside.configFile with
      | error failure =>
        exact leaves_nothing { talk with helper := talk.helper.setStrategy strategy } failure
      | ok config =>
        exact askWithPrompt_leaves { talk with helper := talk.helper.setStrategy strategy }
          fun result => afterFirstBy_leaves strategy result _

end

theorem chat_leaves (talk : Talk) :
    Leaves question outside (chat json question outside) talk (effect json question outside talk.helper.messages) := by
  have reached : ∀ effect : Effect, effect.reached (fun _ => .done) = effect := by
    intro effect
    cases effect <;> rfl
  have whole : ∀ inserts, queued (fun _ => .done) inserts = inserts := fun inserts => List.filter_true inserts
  rcases @chatPublishing_leaves json question outside (fun _ => .done) talk with ⟨strategy, outcome, run, returned⟩
  rw [reached, whole, chatPublishing_done] at run
  rw [reached, UpdateAnswer.outcome] at returned
  exact ⟨strategy, outcome, run, returned.trans (Bool.and_true _)⟩

end

end AIHelper

end Chat
