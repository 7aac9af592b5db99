import HttpServerApps.Chat.AIHelper

namespace Chat.AIHelper

open Common

variable (json : JsonCodec) (question : Question) (outside : Outside)

/-- After a call: the prior messages with the question and the reply, or alone, and no prompt behind them. -/
structure Restored (prior after : List Message) (outcome : Except Failure Bytes) : Prop where
  messages : after = prior ∨ ∃ reply, outcome = .ok reply ∧ after = prior ++
    [⟨question.userQuestion, outside.questionMs, .added true⟩, ⟨reply, outside.answerMs, .added false⟩]
  noPrompt : ∀ message ∈ after.drop prior.length, message.origin ≠ .prompt

def Answered (strategy : AIStrategy) (transfer : Transfer) (prior : List Message) (prompt : Bytes) : Prop :=
  ∃ result, ask json outside strategy transfer (prior ++ [⟨prompt, 0, .prompt⟩]) = .ok result

/-- Where the answer to the first prompt calls a tool that returns, the model answers the prompt with its result. -/
def SecondAnswered (strategy : AIStrategy) (prior : List Message) (aiResult : Bytes) : Prop :=
  let call := AIConfig.parseAIResponse json aiResult
  ∀ toolResult secondPrompt, call.isToolCall = true →
    AIToolRegistry.invoke outside.tools call.toolName call.args = .ok toolResult →
      AIConfig.buildToolResultPrompt json question.userQuestion call.toolName call.args toolResult = .ok secondPrompt →
        Answered json outside strategy outside.secondReply prior secondPrompt

/-- The model answers every prompt that the call comes to. -/
def PromptsAnswered (strategy : AIStrategy) (prior : List Message) : Prop :=
  ∀ config, AIConfig.loadFromFile json outside.paramOrder outside.configFile = .ok config →
    ∃ aiResult, ask json outside strategy outside.firstReply
        (prior ++ [⟨config.buildPrompt question.userQuestion, 0, .prompt⟩]) = .ok aiResult ∧
      SecondAnswered json question outside strategy prior aiResult

section

variable {json question outside} {strategy : AIStrategy} {prior : List Message}

/-! The reply of a part that leaves both messages is its answer. -/

/-- A part of a call whose reply is the answer that it leaves. -/
def Replies (call : Talking Bytes) (talk : Talk) (effect : Effect) : Prop :=
  ∀ answer, effect = .both answer → (call.run talk).2 = .ok answer

theorem addBoth_replies (talk : Talk) (answer : Bytes) :
    Replies (addBoth question outside answer) talk (.both answer) := by
  intro reply same
  cases same
  rfl

theorem askWithPrompt_replies {transfer : Transfer} {prompt : Bytes} (talk : Talk) {next : Bytes → Talking Bytes}
    {effects : Bytes → Effect} (later : ∀ result, Replies (next result) talk (effects result)) :
    Replies (askWithPrompt json outside strategy transfer prompt >>= next) talk
      (promptEffect json outside strategy transfer prompt talk.helper.messages effects) := by
  have asked := @askWithPrompt_run json outside strategy transfer prompt talk
  intro answer same
  unfold promptEffect at same
  cases answered : ask json outside strategy transfer (talk.helper.messages ++ [⟨prompt, 0, .prompt⟩]) with
  | error failure =>
    rw [answered] at same
    cases same
  | ok result =>
    rw [answered] at same asked
    rw [Throwing.run_bind_ok asked]
    exact later result answer same

theorem afterFirst_replies (aiResult : Bytes) (talk : Talk) :
    Replies (afterFirst json question outside strategy aiResult) talk
      (afterFirstEffect json question outside strategy talk.helper.messages aiResult) := by
  unfold afterFirst afterFirstBy afterFirstEffect
  dsimp only
  split
  · exact addBoth_replies talk aiResult
  · cases AIToolRegistry.invoke outside.tools (AIConfig.parseAIResponse json aiResult).toolName
      (AIConfig.parseAIResponse json aiResult).args with
    | error failure =>
      cases failure with
      | undefined =>
        intro answer same
        cases same
      | exception what => exact addBoth_replies talk _
    | ok toolResult =>
      dsimp only
      cases AIConfig.buildToolResultPrompt json question.userQuestion
          (AIConfig.parseAIResponse json aiResult).toolName (AIConfig.parseAIResponse json aiResult).args
          toolResult with
      | error failure =>
        intro answer same
        cases same
      | ok secondPrompt =>
        unfold Replies
        rw [Throwing.run_call_bind]
        exact askWithPrompt_replies talk fun result => addBoth_replies talk result

/-! A call with a strategy that uses prompts. -/

def mcpEffect (json : JsonCodec) (question : Question) (outside : Outside) (strategy : AIStrategy)
    (prior : List Message) : Effect :=
  match AIConfig.loadFromFile json outside.paramOrder outside.configFile with
  | .error _ => .nothing
  | .ok config =>
    promptEffect json outside strategy outside.firstReply (config.buildPrompt question.userQuestion) prior
      (afterFirstEffect json question outside strategy prior)

theorem effect_mcp (created : StrategyFactory.create outside.getenv question.modelType = .ok strategy)
    (mcp : strategy.isMCPModel = true) :
    effect json question outside prior = mcpEffect json question outside strategy prior := by
  unfold effect mcpEffect
  rw [created]
  exact if_neg (ne_false_of_eq_true mcp)

theorem chat_replies (created : StrategyFactory.create outside.getenv question.modelType = .ok strategy)
    (mcp : strategy.isMCPModel = true) (talk : Talk) :
    Replies (chat json question outside) talk (mcpEffect json question outside strategy talk.helper.messages) := by
  unfold chat chatBy mcpEffect Replies
  rw [Throwing.run_call_bind, created]
  dsimp only
  rw [Throwing.run_modify_bind, if_neg (ne_false_of_eq_true mcp), Throwing.run_call_bind]
  cases AIConfig.loadFromFile json outside.paramOrder outside.configFile with
  | error failure =>
    intro answer same
    cases same
  | ok config =>
    exact askWithPrompt_replies { talk with helper := talk.helper.setStrategy strategy }
      fun result => afterFirst_replies result _

def Effect.Clean : Effect → Prop
  | .nothing | .both _ => True
  | .questionOnly | .promptLeft _ => False

theorem promptEffect_clean {transfer : Transfer} {prompt : Bytes} {next : Bytes → Effect} :
    (promptEffect json outside strategy transfer prompt prior next).Clean ↔
      ∃ result, ask json outside strategy transfer (prior ++ [⟨prompt, 0, .prompt⟩]) = .ok result ∧
        (next result).Clean := by
  unfold promptEffect
  cases ask json outside strategy transfer (prior ++ [⟨prompt, 0, .prompt⟩]) with
  | error failure =>
    apply iff_of_false not_false
    rintro ⟨result, answered, _⟩
    cases answered
  | ok result =>
    apply Iff.intro
    · intro clean
      exact ⟨result, rfl, clean⟩
    · rintro ⟨other, answered, clean⟩
      cases answered
      exact clean

theorem afterFirstEffect_clean (aiResult : Bytes) :
    (afterFirstEffect json question outside strategy prior aiResult).Clean ↔
      SecondAnswered json question outside strategy prior aiResult := by
  unfold afterFirstEffect SecondAnswered
  dsimp only
  split
  · rename_i noTool
    apply iff_of_true trivial
    intro toolResult secondPrompt isTool
    cases noTool.symm.trans isTool
  · rename_i isTool
    cases invoked : AIToolRegistry.invoke outside.tools (AIConfig.parseAIResponse json aiResult).toolName
      (AIConfig.parseAIResponse json aiResult).args with
    | error failure =>
      apply iff_of_true
      · cases failure <;> exact trivial
      · intro toolResult secondPrompt _ returned
        cases returned
    | ok toolResult =>
      dsimp only
      cases built : AIConfig.buildToolResultPrompt json question.userQuestion
          (AIConfig.parseAIResponse json aiResult).toolName (AIConfig.parseAIResponse json aiResult).args
          toolResult with
      | error failure =>
        apply iff_of_true trivial
        intro other secondPrompt _ returned prompted
        cases returned
        cases built.symm.trans prompted
      | ok secondPrompt =>
        dsimp only
        rw [promptEffect_clean]
        apply Iff.intro
        · rintro ⟨result, answered, _⟩ other prompt _ returned prompted
          cases returned
          cases built.symm.trans prompted
          exact ⟨result, answered⟩
        · intro second
          rcases second toolResult secondPrompt (Bool.not_eq_false _ ▸ isTool) rfl built with ⟨result, answered⟩
          exact ⟨result, answered, trivial⟩

theorem mcpEffect_clean :
    (mcpEffect json question outside strategy prior).Clean ↔ PromptsAnswered json question outside strategy prior := by
  unfold mcpEffect PromptsAnswered
  cases AIConfig.loadFromFile json outside.paramOrder outside.configFile with
  | error failure =>
    apply iff_of_true trivial
    intro config loaded
    cases loaded
  | ok config =>
    dsimp only
    rw [promptEffect_clean]
    simp only [afterFirstEffect_clean, Except.ok.injEq, forall_eq']

/-- What a call with this effect leaves is as it should be, where it replies what it leaves. -/
theorem restored_iff_clean {effect : Effect} {outcome : Except Failure Bytes}
    (replies : ∀ answer, effect = .both answer → outcome = .ok answer) :
    Restored question outside prior (prior ++ effect.messages question outside) outcome ↔ effect.Clean := by
  cases effect with
  | nothing =>
    apply iff_of_true _ trivial
    exact ⟨Or.inl (List.append_nil _), by simp [Effect.messages]⟩
  | questionOnly =>
    apply iff_of_false _ not_false
    intro restored
    -- one message more, where there may be none or two
    rcases restored.messages with same | ⟨reply, _, same⟩
    · have length := congrArg List.length same
      simp [Effect.messages] at length
    · have length := congrArg List.length same
      simp [Effect.messages] at length
  | promptLeft prompt =>
    apply iff_of_false _ not_false
    intro restored
    apply restored.noPrompt ⟨prompt, 0, .prompt⟩ _ rfl
    rw [List.drop_left]
    exact List.mem_singleton_self _
  | both answer =>
    apply iff_of_true _ trivial
    refine ⟨Or.inr ⟨answer, replies answer rfl, rfl⟩, ?_⟩
    rw [List.drop_left]
    simp [Effect.messages]

end

/-- Exactly a model that answers every prompt of the call leaves none of them in the messages. -/
theorem prompts_removed_iff (json : JsonCodec) (question : Question) (outside : Outside) (strategy : AIStrategy)
    (talk after : Talk) (outcome : Except Failure Bytes)
    (created : StrategyFactory.create outside.getenv question.modelType = .ok strategy)
    (mcp : strategy.isMCPModel = true) (ran : (chat json question outside).run talk = (after, outcome)) :
    Restored question outside talk.helper.messages after.helper.messages outcome ↔
      PromptsAnswered json question outside strategy talk.helper.messages := by
  rcases @chat_leaves json question outside talk with ⟨left, ended, run, _⟩
  have replies := @chat_replies json question outside strategy created mcp talk
  have replied : ∀ answer, mcpEffect json question outside strategy talk.helper.messages = .both answer →
      outcome = .ok answer := by
    intro answer same
    have reply := replies answer same
    rw [ran] at reply
    exact reply
  rw [run] at ran
  cases ran
  dsimp only
  rw [effect_mcp created mcp, restored_iff_clean replied]
  exact mcpEffect_clean

/-! A question to the model with tools, which the transfer fails for or which it answers. -/

def weatherQuestion : Question := ⟨7, bytes "ada", bytes "s", bytes "How is the weather?", bytes "4"⟩

theorem answered_prompt_removed :
    Restored weatherQuestion (keyed (.received (bytes "r")) 1 2) []
      ((chat helloJson weatherQuestion (keyed (.received (bytes "r")) 1 2)).run {}).1.helper.messages
      ((chat helloJson weatherQuestion (keyed (.received (bytes "r")) 1 2)).run {}).2 := by
  apply (prompts_removed_iff helloJson weatherQuestion (keyed (.received (bytes "r")) 1 2)
    ⟨.AliyunMcpStrategy, bytes "key"⟩ {} _ _ rfl rfl rfl).mpr
  intro config loaded
  cases loaded
  refine ⟨bytes "hello", rfl, ?_⟩
  intro toolResult secondPrompt isTool
  cases isTool

/-- The first request cannot be made, and its prompt stays. -/
theorem failed_prompt_stays :
    ¬ ∀ (json : JsonCodec) (question : Question) (outside : Outside) (strategy : AIStrategy) (talk after : Talk)
      (outcome : Except Failure Bytes),
      StrategyFactory.create outside.getenv question.modelType = .ok strategy → strategy.isMCPModel = true →
        (chat json question outside).run talk = (after, outcome) → outcome ≠ .error .undefined →
        Restored question outside talk.helper.messages after.helper.messages outcome := by
  intro claimed
  have restored := claimed helloJson weatherQuestion (keyed .noHandle 1 2) ⟨.AliyunMcpStrategy, bytes "key"⟩ {} _ _
    rfl rfl rfl (by decide)
  rcases restored.messages with same | ⟨reply, _, same⟩
  · cases same
  · cases same

end Chat.AIHelper
