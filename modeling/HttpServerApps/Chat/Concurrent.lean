import HttpServerApps.Chat.AIHelper
import HttpServerApps.Common.Program

namespace Chat

open Common

/-! `chat` by its steps on the members of the helper, which the handlers call without a lock. -/

/-- The places where `strategy` is read. -/
inductive StrategyUse where
  | isMCPModel
  | buildRequest
  | logUrl
  | logKey
  | authHeader
  | url
  | parseResponse
  deriving DecidableEq

inductive ChatOp where
  | setStrategy (strat : AIStrategy)
  | readStrategy (use : StrategyUse)
  | readMessages
  | pushPrompt (prompt : Bytes)
  | popBack
  | addMessage (is_user : Bool) (userInput : Bytes) (ms : Int64)
  /-- `curl_easy_perform`, with what it has been set to -/
  | perform (url apiKey : Bytes) (payload : Json)

@[reducible] def ChatOp.Reply : ChatOp → Type
  | .readStrategy _ => Option AIStrategy
  | .readMessages => List Message
  | _ => Unit

abbrev Stepwise (Value : Type) := Program ChatOp ChatOp.Reply Failure Value

/-- The arguments of a call, and what it meets outside. -/
structure ChatInput where
  question : Question
  outside : Outside

/-- The helper with the queue, and the call that set the strategy last. -/
structure SharedHelper where
  talk : Talk := {}
  setter : Option ChatInput := none

def SharedHelper.perform (input : ChatInput) (shared : SharedHelper) : (op : ChatOp) → SharedHelper × op.Reply
  | .setStrategy strat => (⟨{ shared.talk with helper := shared.talk.helper.setStrategy strat }, some input⟩, ())
  | .readStrategy _ => (shared, shared.talk.helper.strategy)
  | .readMessages => (shared, shared.talk.helper.messages)
  | .pushPrompt prompt =>
    ({ shared with talk.helper := shared.talk.helper.pushBack ⟨prompt, 0, .prompt⟩ }, ())
  | .popBack => ({ shared with talk.helper := shared.talk.helper.popBack }, ())
  | .addMessage is_user userInput ms =>
    ({ shared with talk := ⟨shared.talk.helper.pushBack ⟨userInput, ms, .added is_user⟩,
      shared.talk.published ++ [AIHelper.insertOf input.question is_user userInput ms]⟩ }, ())
  | .perform _ _ _ => (shared, ())

namespace Stepwise

def doing (op : ChatOp) : Stepwise op.Reply := Program.op op

/-- A pointer that is not set yet is not to be followed. -/
def strategy (use : StrategyUse) : Stepwise AIStrategy := do
  match ← doing (.readStrategy use) with
  | some strategy => Program.give (.ok strategy)
  | none => Program.give (.error .undefined)

section

variable (json : JsonCodec) (getenv : Getenv)

/-- Up to the transfer: what is logged, then what curl is set to. -/
def prepareCurl (payload : Json) : Stepwise Unit := do
  let logged ← strategy .logUrl
  let _ ← Program.give (logged.getApiUrl getenv)
  let _ ← strategy .logKey
  let keyed ← strategy .authHeader
  let _ ← Program.give (throwing (json.dump payload))
  let addressed ← strategy .url
  let url ← Program.give (addressed.getApiUrl getenv)
  doing (.perform url keyed.getApiKey payload)

def executeCurl (payload : Json) : Transfer → Stepwise Json
  | .noHandle => Program.give (.error (.exception (bytes "Failed to initialize curl")))
  | .failed error => do
    prepareCurl json getenv payload
    Program.give (.error (.exception (bytes "curl_easy_perform() failed: " ++ error)))
  | .received readBuffer => do
    prepareCurl json getenv payload
    match json.parse readBuffer with
    | .ok response => Program.give (.ok response)
    | .error _ => Program.give (.error (.exception (bytes "Failed to parse JSON response: " ++ readBuffer)))

end

section

variable (json : JsonCodec) (input : ChatInput)

def askModel (transfer : Transfer) : Stepwise Bytes := do
  let builder ← strategy .buildRequest
  let messages ← doing .readMessages
  let response ← executeCurl json input.outside.getenv (builder.buildRequest input.outside.getenv messages) transfer
  let parser ← strategy .parseResponse
  Program.give (parser.parseResponse json response)

def askWithPrompt (transfer : Transfer) (prompt : Bytes) : Stepwise Bytes := do
  doing (.pushPrompt prompt)
  let result ← askModel json input transfer
  doing .popBack
  return result

def addBoth (answer : Bytes) : Stepwise Bytes := do
  doing (.addMessage true input.question.userQuestion input.outside.questionMs)
  doing (.addMessage false answer input.outside.answerMs)
  return answer

def afterFirst (aiResult : Bytes) : Stepwise Bytes :=
  let call := AIConfig.parseAIResponse json aiResult
  if call.isToolCall = false then addBoth input aiResult
  else
    match AIToolRegistry.invoke input.outside.tools call.toolName call.args with
    | .error .undefined => Program.give (.error .undefined)
    | .error (.exception what) => addBoth input (bytes "[工具调用失败] " ++ what)
    | .ok toolResult => do
      let secondPrompt ← Program.give
        (AIConfig.buildToolResultPrompt json input.question.userQuestion call.toolName call.args toolResult)
      let finalAnswer ← askWithPrompt json input input.outside.secondReply secondPrompt
      addBoth input finalAnswer

def chat : Stepwise Bytes := do
  let created ← Program.give (StrategyFactory.create input.outside.getenv input.question.modelType)
  doing (.setStrategy created)
  let branch ← strategy .isMCPModel
  if branch.isMCPModel = false then
    doing (.addMessage true input.question.userQuestion input.outside.questionMs)
    let answer ← askModel json input input.outside.firstReply
    doing (.addMessage false answer input.outside.answerMs)
    return if answer = [] then bytes "[Error] 无法解析响应" else answer
  else
    let config ← Program.give (AIConfig.loadFromFile json input.outside.paramOrder input.outside.configFile)
    let aiResult ← askWithPrompt json input input.outside.firstReply (config.buildPrompt input.question.userQuestion)
    afterFirst json input aiResult

end

end Stepwise

/-! A call by itself is the call of the sequential model. -/

abbrev Stepwise.alone {Value : Type} (input : ChatInput) (steps : Stepwise Value) :
    Throwing SharedHelper Failure Value := steps.interpret (SharedHelper.perform input)

section

variable {json : JsonCodec} {input : ChatInput} {strategy : AIStrategy}

/-- From a helper with the strategy on, the steps do what the call does. -/
structure Alike {Value : Type} (input : ChatInput) (strategy : AIStrategy) (steps : Stepwise Value)
    (call : Talking Value) : Prop where
  run : ∀ shared : SharedHelper, shared.talk.helper.strategy = some strategy →
    (Stepwise.alone input steps).run shared =
      ({ shared with talk := (call.run shared.talk).1 }, (call.run shared.talk).2)
  keeps : ∀ talk : Talk, talk.helper.strategy = some strategy → (call.run talk).1.helper.strategy = some strategy

variable {Value Result : Type}

theorem alike_give (outcome : Except Failure Value) :
    Alike input strategy (Program.give outcome) (Throwing.call outcome) :=
  ⟨fun _ _ => rfl, fun _ set => set⟩

theorem Alike.bind {steps : Stepwise Value} {call : Talking Value} {next : Value → Stepwise Result}
    {later : Value → Talking Result} (first : Alike input strategy steps call)
    (rest : ∀ value, Alike input strategy (next value) (later value)) :
    Alike input strategy (steps >>= next) (call >>= later) := by
  apply Alike.mk
  · intro shared set
    rw [Program.interpret_bind]
    have set' := first.keeps shared.talk set
    simp only [Bind.bind, Throwing.andThen]
    rw [first.run shared set]
    rcases ran : call.run shared.talk with ⟨talk, outcome⟩
    rw [ran] at set'
    cases outcome with
    | ok value => exact (rest value).run ⟨talk, shared.setter⟩ set'
    | error failure => rfl
  · intro talk set
    have set' := first.keeps talk set
    simp only [Bind.bind, Throwing.andThen]
    rcases ran : call.run talk with ⟨after, outcome⟩
    rw [ran] at set'
    cases outcome with
    | ok value => exact (rest value).keeps after set'
    | error failure => exact set'

theorem alike_doing {op : ChatOp} {change : Talk → Talk} {next : op.Reply → Stepwise Result} {later : Talking Result}
    (reply : op.Reply)
    (done : ∀ shared, SharedHelper.perform input shared op = ({ shared with talk := change shared.talk }, reply))
    (keeps : ∀ talk, (change talk).helper.strategy = talk.helper.strategy)
    (rest : Alike input strategy (next reply) later) :
    Alike input strategy (Stepwise.doing op >>= next) (Throwing.modify change >>= fun _ => later) := by
  apply Alike.mk
  · intro shared set
    show ((next (SharedHelper.perform input shared op).2).interpret _).run (SharedHelper.perform input shared op).1 = _
    rw [done, Throwing.run_modify_bind]
    exact rest.run _ ((keeps shared.talk).trans set)
  · intro talk set
    rw [Throwing.run_modify_bind]
    exact rest.keeps _ ((keeps talk).trans set)

theorem interpret_strategy {shared : SharedHelper} (set : shared.talk.helper.strategy = some strategy)
    (use : StrategyUse) (next : AIStrategy → Stepwise Result) :
    (Stepwise.alone input (Stepwise.strategy use >>= next)).run shared =
      (Stepwise.alone input (next strategy)).run shared := by
  rw [Program.interpret_bind]
  have read : (Stepwise.alone input (Stepwise.strategy use)).run shared = (shared, .ok strategy) := by
    unfold Stepwise.strategy Stepwise.doing
    rw [Program.op_bind]
    unfold Program.interpret SharedHelper.perform
    dsimp only
    rw [set]
    rfl
  simp only [Bind.bind, Throwing.andThen]
  rw [read]

theorem interpret_give {shared : SharedHelper} (outcome : Except Failure Value) (next : Value → Stepwise Result) :
    (Stepwise.alone input (Program.give outcome >>= next)).run shared =
      match outcome with
      | .ok value => (Stepwise.alone input (next value)).run shared
      | .error failure => (shared, .error failure) := by
  cases outcome <;> rfl

theorem interpret_setStrategy {shared : SharedHelper} (created : AIStrategy) (next : Unit → Stepwise Result) :
    (Stepwise.alone input (Stepwise.doing (.setStrategy created) >>= next)).run shared =
      (Stepwise.alone input (next ())).run
        ⟨{ shared.talk with helper := shared.talk.helper.setStrategy created }, some input⟩ := rfl

theorem interpret_readMessages {shared : SharedHelper} (next : List Message → Stepwise Result) :
    (Stepwise.alone input (Stepwise.doing .readMessages >>= next)).run shared =
      (Stepwise.alone input (next shared.talk.helper.messages)).run shared := rfl

theorem interpret_prepareCurl {shared : SharedHelper} (set : shared.talk.helper.strategy = some strategy)
    (payload : Json) (next : Unit → Stepwise Result) :
    (Stepwise.alone input (Stepwise.prepareCurl json input.outside.getenv payload >>= next)).run shared =
      match strategy.getApiUrl input.outside.getenv, throwing (json.dump payload) with
      | .error failure, _ => (shared, .error failure)
      | .ok _, .error failure => (shared, .error failure)
      | .ok _, .ok _ => (Stepwise.alone input (next ())).run shared := by
  have prepared : (Stepwise.alone input (Stepwise.prepareCurl json input.outside.getenv payload)).run shared =
      match strategy.getApiUrl input.outside.getenv, throwing (json.dump payload) with
      | .error failure, _ => (shared, .error failure)
      | .ok _, .error failure => (shared, .error failure)
      | .ok _, .ok _ => (shared, .ok ()) := by
    unfold Stepwise.prepareCurl
    rw [interpret_strategy set, interpret_give]
    cases url : strategy.getApiUrl input.outside.getenv with
    | error failure => rfl
    | ok url =>
      dsimp only
      rw [interpret_strategy set, interpret_strategy set, interpret_give]
      cases throwing (json.dump payload) with
      | error failure => rfl
      | ok text =>
        dsimp only
        rw [interpret_strategy set, interpret_give, url]
        rfl
  rw [Program.interpret_bind]
  simp only [Bind.bind, Throwing.andThen]
  rw [prepared]
  cases strategy.getApiUrl input.outside.getenv with
  | error failure => rfl
  | ok url => cases throwing (json.dump payload) <;> rfl

theorem interpret_executeCurl {shared : SharedHelper} (set : shared.talk.helper.strategy = some strategy)
    (payload : Json) (transfer : Transfer) :
    (Stepwise.alone input (Stepwise.executeCurl json input.outside.getenv payload transfer)).run shared =
      (shared, AIHelper.executeCurl json input.outside.getenv strategy payload transfer) := by
  cases transfer with
  | noHandle => rfl
  | failed error =>
    simp only [Stepwise.executeCurl, interpret_prepareCurl set, AIHelper.executeCurl]
    cases strategy.getApiUrl input.outside.getenv with
    | error failure => rfl
    | ok url => cases throwing (json.dump payload) <;> rfl
  | received readBuffer =>
    simp only [Stepwise.executeCurl, interpret_prepareCurl set, AIHelper.executeCurl]
    cases strategy.getApiUrl input.outside.getenv with
    | error failure => rfl
    | ok url =>
      cases throwing (json.dump payload) with
      | error failure => rfl
      | ok text => cases json.parse readBuffer <;> rfl

theorem alike_askModel (transfer : Transfer) :
    Alike input strategy (Stepwise.askModel json input transfer)
      (AIHelper.askModel json input.outside strategy transfer) := by
  apply Alike.mk
  · intro shared set
    rw [AIHelper.askModel_run]
    unfold Stepwise.askModel AIHelper.ask
    rw [interpret_strategy set, interpret_readMessages, Program.interpret_bind]
    simp only [Bind.bind, Throwing.andThen]
    rw [interpret_executeCurl set]
    cases AIHelper.executeCurl json input.outside.getenv strategy
        (strategy.buildRequest input.outside.getenv shared.talk.helper.messages) transfer with
    | error failure => rfl
    | ok response =>
      exact interpret_strategy set .parseResponse _
  · exact fun talk set => set

theorem alike_askWithPrompt (transfer : Transfer) (prompt : Bytes) :
    Alike input strategy (Stepwise.askWithPrompt json input transfer prompt)
      (AIHelper.askWithPrompt json input.outside strategy transfer prompt) := by
  unfold Stepwise.askWithPrompt AIHelper.askWithPrompt
  refine alike_doing () ?_ ?_ ((alike_askModel transfer).bind fun result => ?_)
  · exact fun _ => rfl
  · exact fun _ => rfl
  · refine alike_doing () ?_ ?_ (alike_give (.ok result))
    all_goals exact fun _ => rfl

theorem alike_addBoth (answer : Bytes) :
    Alike input strategy (Stepwise.addBoth input answer) (AIHelper.addBoth input.question input.outside answer) := by
  unfold Stepwise.addBoth AIHelper.addBoth AIHelper.addBothBy AIHelper.addMessage
  refine alike_doing () ?_ ?_ (alike_doing () ?_ ?_ (alike_give (.ok answer)))
  all_goals exact fun _ => rfl

theorem alike_afterFirst (aiResult : Bytes) :
    Alike input strategy (Stepwise.afterFirst json input aiResult)
      (AIHelper.afterFirst json input.question input.outside strategy aiResult) := by
  unfold Stepwise.afterFirst AIHelper.afterFirst AIHelper.afterFirstBy
  dsimp only
  split
  · exact alike_addBoth aiResult
  · cases AIToolRegistry.invoke input.outside.tools (AIConfig.parseAIResponse json aiResult).toolName
      (AIConfig.parseAIResponse json aiResult).args with
    | error failure =>
      cases failure with
      | undefined => exact alike_give _
      | exception what => exact alike_addBoth _
    | ok toolResult =>
      apply (alike_give _).bind
      intro secondPrompt
      exact (alike_askWithPrompt _ _).bind fun finalAnswer => alike_addBoth finalAnswer

/-- The steps of a call taken one after another are the call. -/
theorem chat_alone (shared : SharedHelper) :
    ∃ setter, (Stepwise.alone input (Stepwise.chat json input)).run shared =
      (⟨((AIHelper.chat json input.question input.outside).run shared.talk).1, setter⟩,
        ((AIHelper.chat json input.question input.outside).run shared.talk).2) := by
  unfold Stepwise.chat AIHelper.chat AIHelper.chatBy
  rw [interpret_give, Throwing.run_call_bind]
  cases StrategyFactory.create input.outside.getenv input.question.modelType with
  | error failure => exact ⟨shared.setter, rfl⟩
  | ok strategy =>
    refine ⟨some input, ?_⟩
    dsimp only
    rw [interpret_setStrategy, Throwing.run_modify_bind, interpret_strategy rfl]
    by_cases plain : strategy.isMCPModel = false
    · rw [if_pos plain, if_pos plain]
      unfold AIHelper.addMessage
      refine Alike.run (?_ : Alike input strategy _ _) _ rfl
      refine alike_doing () ?_ ?_ ((alike_askModel _).bind fun answer => alike_doing () ?_ ?_ (alike_give (.ok _)))
      all_goals exact fun _ => rfl
    · rw [if_neg plain, if_neg plain]
      refine Alike.run (?_ : Alike input strategy _ _) _ rfl
      exact (alike_give _).bind fun config => (alike_askWithPrompt _ _).bind fun aiResult => alike_afterFirst aiResult

end

/-- Calls on one helper; where one does what the library leaves undefined, nothing more is said. -/
def chatCalls (json : JsonCodec) : Calls ChatInput SharedHelper ChatOp ChatOp.Reply Failure Bytes where
  program := Stepwise.chat json
  perform := SharedHelper.perform
  fatal failure := failure = .undefined

abbrev ChatPool := Pool ChatInput SharedHelper ChatOp ChatOp.Reply Failure Bytes
abbrev ChatCaller := Caller ChatInput ChatOp ChatOp.Reply Failure Bytes

/-- A helper with its messages, and no call yet. -/
def idlePool (messages : List Message) : ChatPool where
  shared := { talk := { helper := { messages := messages } } }

/-- A call that meets no other leaves what it leaves in the sequential model. -/
theorem call_alone {json : JsonCodec} {pool : ChatPool} {i : Nat} {input : ChatInput}
    (entered : pool.callers[i]? = some { input, program := Stepwise.chat json input })
    (defined : ((AIHelper.chat json input.question input.outside).run pool.shared.talk).2 ≠ .error .undefined) :
    ∃ moves after, (∀ move ∈ moves, move = .step i) ∧ (chatCalls json).pool.run pool moves = some after ∧
      after.shared.talk = ((AIHelper.chat json input.question input.outside).run pool.shared.talk).1 := by
  rcases @chat_alone json input pool.shared with ⟨setter, alone⟩
  have survives : (chatCalls json).Survives
      (some ((AIHelper.chat json input.question input.outside).run pool.shared.talk).2) = true := by
    generalize ((AIHelper.chat json input.question input.outside).run pool.shared.talk).2 = outcome at defined
    cases outcome with
    | ok value => rfl
    | error failure =>
      have other : failure ≠ .undefined := fun same => defined (congrArg Except.error same)
      simp [Calls.Survives, chatCalls, other]
  rcases @Calls.run_alone _ _ _ _ _ _ (chatCalls json) pool i _ _ _ entered alone survives with ⟨moves, past, own, ran⟩
  exact ⟨moves, _, own, ran, rfl⟩

/-! What every call does, whatever is read from the members. -/

/-- The strategy that is created for the model type of the call. -/
def ChatInput.Own (input : ChatInput) (strategy : AIStrategy) : Prop :=
  StrategyFactory.create input.outside.getenv input.question.modelType = .ok strategy

/-- A payload, an address and a key of the call's own strategy. -/
def ChatInput.SentToOwn (input : ChatInput) (url apiKey : Bytes) (payload : Json) : Prop :=
  ∃ strategy, input.Own strategy ∧ strategy.getApiUrl input.outside.getenv = .ok url ∧ strategy.getApiKey = apiKey ∧
    ∃ messages, strategy.buildRequest input.outside.getenv messages = payload

/-- A read for anything but the branch gives the call's own strategy. -/
def ChatInput.ReadsOwn (input : ChatInput) (use : StrategyUse) (read : Option AIStrategy) : Prop :=
  use ≠ .isMCPModel → ∃ strategy, read = some strategy ∧ input.Own strategy

theorem ChatInput.ReadsOwn.own {input : ChatInput} {use : StrategyUse} {strategy : AIStrategy}
    (reads : input.ReadsOwn use (some strategy)) (used : use ≠ .isMCPModel) : input.Own strategy := by
  rcases reads used with ⟨_, same, own⟩
  cases same
  exact own

structure CallPhase where
  /-- The call has put a prompt into `messages` and not removed it. -/
  held : Bool
  /-- It has read its own strategy so far. -/
  own : Prop

def callContract (input : ChatInput) : Contract ChatOp ChatOp.Reply CallPhase where
  start := ⟨false, True⟩
  may phase
    | .setStrategy strat => input.Own strat
    | .pushPrompt _ => phase.held = false
    | .popBack => phase.held = true
    | .perform url apiKey payload => phase.own → input.SentToOwn url apiKey payload
    | _ => True
  after phase
    | .readStrategy use, read => ⟨phase.held, phase.own ∧ input.ReadsOwn use read⟩
    | .pushPrompt _, _ => ⟨true, phase.own⟩
    | .popBack, _ => ⟨false, phase.own⟩
    | _, _ => phase

/-- What returns leaves the prompt in, or out. -/
def holdsAs {Value : Type} (held : Bool) (phase : CallPhase) (outcome : Except Failure Value) : Prop :=
  outcome.isOk = true → phase.held = held

section

variable {json : JsonCodec} {input : ChatInput} {Value Result : Type} {held : Bool} {phase : CallPhase}

theorem obeys_give {outcome : Except Failure Value} {next : Value → Stepwise Result}
    (later : ∀ value, outcome = .ok value → (next value).Obeys (callContract input) (holdsAs held) phase) :
    (Program.give outcome >>= next).Obeys (callContract input) (holdsAs held) phase := by
  cases outcome with
  | ok value => exact later value rfl
  | error failure => exact nofun

theorem obeys_return {value : Value} (same : phase.held = held) :
    (pure value : Stepwise Value).Obeys (callContract input) (holdsAs held) phase := fun _ => same

theorem obeys_strategy {use : StrategyUse} {next : AIStrategy → Stepwise Result}
    (later : ∀ strategy, (next strategy).Obeys (callContract input) (holdsAs held)
      ⟨phase.held, phase.own ∧ input.ReadsOwn use (some strategy)⟩) :
    (Stepwise.strategy use >>= next).Obeys (callContract input) (holdsAs held) phase := by
  refine ⟨trivial, ?_⟩
  intro read
  cases read with
  | none => exact nofun
  | some strategy => exact later strategy

theorem obeys_doing {op : ChatOp} {next : op.Reply → Stepwise Result} (may : (callContract input).may phase op)
    (later : ∀ reply,
      (next reply).Obeys (callContract input) (holdsAs held) ((callContract input).after phase op reply)) :
    (Stepwise.doing op >>= next).Obeys (callContract input) (holdsAs held) phase := ⟨may, later⟩

theorem Obeys.then {steps : Stepwise Value} {next : Value → Stepwise Result} {between : Bool}
    (first : steps.Obeys (callContract input) (holdsAs between) phase)
    (later : ∀ after value, after.held = between → (next value).Obeys (callContract input) (holdsAs held) after) :
    (steps >>= next).Obeys (callContract input) (holdsAs held) phase :=
  first.bind (fun after value same => later after value (same rfl)) fun _ _ _ => nofun

theorem obeys_prepareCurl {payload : Json} (same : phase.held = held)
    (built : phase.own → ∃ strategy messages, input.Own strategy ∧
      strategy.buildRequest input.outside.getenv messages = payload) :
    (Stepwise.prepareCurl json input.outside.getenv payload).Obeys (callContract input) (holdsAs held) phase := by
  unfold Stepwise.prepareCurl
  refine obeys_strategy fun logged => obeys_give fun _ _ => obeys_strategy fun _ => obeys_strategy fun keyed =>
    obeys_give fun _ _ => obeys_strategy fun addressed => obeys_give fun url at_ => ⟨?_, fun _ _ => same⟩
  rintro ⟨⟨⟨⟨own, _⟩, _⟩, keyOwn⟩, urlOwn⟩
  rcases built own with ⟨strategy, messages, mine, made⟩
  cases mine.symm.trans (keyOwn.own nofun)
  cases mine.symm.trans (urlOwn.own nofun)
  exact ⟨_, mine, at_, rfl, messages, made⟩

theorem obeys_executeCurl {payload : Json} (transfer : Transfer) (same : phase.held = held)
    (built : phase.own → ∃ strategy messages, input.Own strategy ∧
      strategy.buildRequest input.outside.getenv messages = payload) :
    (Stepwise.executeCurl json input.outside.getenv payload transfer).Obeys (callContract input) (holdsAs held)
      phase := by
  cases transfer with
  | noHandle => exact nofun
  | failed error => exact Obeys.then (obeys_prepareCurl same built) fun _ _ _ => nofun
  | received readBuffer =>
    refine Obeys.then (obeys_prepareCurl same built) fun after _ kept => ?_
    cases json.parse readBuffer with
    | ok response => exact fun _ => kept
    | error what => exact nofun

theorem obeys_askModel (transfer : Transfer) (same : phase.held = held) :
    (Stepwise.askModel json input transfer).Obeys (callContract input) (holdsAs held) phase := by
  unfold Stepwise.askModel
  refine obeys_strategy fun builder => obeys_doing trivial fun messages => ?_
  refine Obeys.then (obeys_executeCurl transfer same ?_) fun after response kept => ?_
  · rintro ⟨_, readsOwn⟩
    exact ⟨builder, messages, readsOwn.own nofun, rfl⟩
  · exact obeys_strategy fun parser _ => kept

theorem obeys_askWithPrompt (transfer : Transfer) (prompt : Bytes) (free : phase.held = false) :
    (Stepwise.askWithPrompt json input transfer prompt).Obeys (callContract input) (holdsAs false) phase := by
  refine obeys_doing free fun _ => Obeys.then (obeys_askModel transfer rfl) fun after result kept => ?_
  exact obeys_doing kept fun _ => obeys_return rfl

theorem obeys_addBoth (answer : Bytes) (same : phase.held = held) :
    (Stepwise.addBoth input answer).Obeys (callContract input) (holdsAs held) phase :=
  obeys_doing trivial fun _ => obeys_doing trivial fun _ => obeys_return same

theorem obeys_afterFirst (aiResult : Bytes) (free : phase.held = false) :
    (Stepwise.afterFirst json input aiResult).Obeys (callContract input) (holdsAs false) phase := by
  unfold Stepwise.afterFirst
  dsimp only
  split
  · exact obeys_addBoth aiResult free
  · split
    · exact nofun
    · exact obeys_addBoth _ free
    · refine obeys_give fun secondPrompt _ => ?_
      exact Obeys.then (obeys_askWithPrompt _ _ free) fun after finalAnswer kept => obeys_addBoth finalAnswer kept

theorem chat_obeys (json : JsonCodec) (input : ChatInput) :
    (Stepwise.chat json input).Obeys (callContract input) (holdsAs false) (callContract input).start := by
  unfold Stepwise.chat
  refine obeys_give fun created mine => obeys_doing mine fun _ => obeys_strategy fun branch => ?_
  split
  · refine obeys_doing trivial fun _ => Obeys.then (obeys_askModel _ rfl) fun after answer kept => ?_
    exact obeys_doing trivial fun _ => obeys_return kept
  · refine obeys_give fun config _ => Obeys.then (obeys_askWithPrompt _ _ rfl) fun after aiResult kept => ?_
    exact obeys_afterFirst aiResult kept

end

end Chat
