import Mathlib.Data.List.Induction
import HttpServerApps.Chat.Concurrent

namespace Chat

open Common

/-! Whose strategy a call uses. -/

def ChatInput.created (input : ChatInput) : Except Failure AIStrategy :=
  StrategyFactory.create input.outside.getenv input.question.modelType

/-- The payload, the addresses, the keys and the parser that a call has used are its own, and so is all that it
    has sent. -/
structure OwnProvider (caller : ChatCaller) : Prop where
  reads : ∀ use read, ⟨.readStrategy use, read⟩ ∈ caller.past → caller.input.ReadsOwn use read
  sends : ∀ url apiKey payload reply, ⟨.perform url apiKey payload, reply⟩ ∈ caller.past →
    caller.input.SentToOwn url apiKey payload

def EachOwn (pool : ChatPool) : Prop := ∀ caller ∈ pool.callers, OwnProvider caller

/-- When a call reads the strategy, the last that was set is from a call for which the same is created. -/
def LastSetAlike (pool : ChatPool) (move : Move ChatInput) : Prop :=
  pool.AtStep move fun caller op _ => ∀ use, op = .readStrategy use → use ≠ .isMCPModel →
    ∃ setter, pool.shared.setter = some setter ∧ setter.created = caller.input.created

/-- The member holds what has been created for the call that set it last. -/
def SetBy (shared : SharedHelper) : Prop :=
  match shared.setter with
  | some setter => ∃ strategy, setter.Own strategy ∧ shared.talk.helper.strategy = some strategy
  | none => shared.talk.helper.strategy = none

structure Provided (pool : ChatPool) : Prop where
  sound : ∀ caller ∈ pool.callers, Calls.Sound callContract (fun _ => holdsAs false) caller
  set : SetBy pool.shared

section

variable {json : JsonCodec} {pool next : ChatPool}

theorem setBy_perform {input : ChatInput} {shared : SharedHelper} {op : ChatOp} {phase : CallPhase}
    (may : (callContract input).may phase op) (set : SetBy shared) :
    SetBy (SharedHelper.perform input shared op).1 := by
  cases op with
  | setStrategy strat => exact ⟨strat, may, rfl⟩
  | _ => exact set

theorem provided_step (pool : ChatPool) (move : Move ChatInput) (next : ChatPool)
    (step : (chatCalls json).pool.step pool move = some next) (provided : Provided pool) : Provided next := by
  have sound := Calls.sound_step (chat_obeys json) pool move next step provided.sound
  rcases Calls.pool_cases step with ⟨input, rfl, rfl⟩ | ⟨i, caller, op, rest, rfl, there, shape, rfl⟩
  · exact ⟨sound, provided.set⟩
  · have may := (provided.sound caller (List.mem_of_getElem? there)).may shape
    exact ⟨sound, setBy_perform may provided.set⟩

theorem own_after {input : ChatInput} (phase : CallPhase) (event : Event ChatOp ChatOp.Reply) :
    ((callContract input).after phase event.op event.reply).own ↔ phase.own ∧
      ∀ use read, (⟨.readStrategy use, read⟩ : Event ChatOp ChatOp.Reply) = event → input.ReadsOwn use read := by
  rcases event with ⟨op, reply⟩
  cases op with
  | readStrategy use =>
    apply and_congr_right
    intro _
    apply Iff.intro
    · intro reads other read same
      cases same
      exact reads
    · exact fun every => every use reply rfl
  | _ => exact (and_iff_left fun _ _ same => nomatch same).symm

theorem own_iff {input : ChatInput} (past : List (Event ChatOp ChatOp.Reply)) :
    ((callContract input).phase past).own ↔
      ∀ use read, ⟨.readStrategy use, read⟩ ∈ past → input.ReadsOwn use read := by
  induction past using List.reverseRecOn with
  | nil => exact iff_of_true trivial nofun
  | append_singleton past event ih =>
    rw [Contract.phase_snoc, own_after, ih]
    simp only [List.mem_append, List.mem_singleton]
    apply Iff.intro
    · rintro ⟨before, now⟩ use read (old | new)
      · exact before use read old
      · exact now use read new
    · intro every
      exact ⟨fun use read old => every use read (Or.inl old), fun use read new => every use read (Or.inr new)⟩

/-- What is sent is the call's own as long as what it reads is. -/
theorem ownProvider_iff {caller : ChatCaller} (sound : Calls.Sound callContract (fun _ => holdsAs false) caller) :
    OwnProvider caller ↔ ((callContract caller.input).phase caller.past).own := by
  apply Iff.intro
  · exact fun provider => (own_iff caller.past).mpr provider.reads
  · intro own
    have reads := (own_iff caller.past).mp own
    refine ⟨reads, ?_⟩
    intro url apiKey payload reply member
    rcases List.append_of_mem member with ⟨before, later, shape⟩
    apply sound.kept before _ later shape
    apply (own_iff before).mpr
    intro use read earlier
    exact reads use read (by rw [shape]; exact List.mem_append_left _ earlier)

theorem readsOwn_iff {input : ChatInput} {shared : SharedHelper} (set : SetBy shared) (use : StrategyUse) :
    input.ReadsOwn use shared.talk.helper.strategy ↔
      (use ≠ .isMCPModel → ∃ setter, shared.setter = some setter ∧ setter.created = input.created) := by
  unfold SetBy at set
  unfold ChatInput.ReadsOwn
  apply forall_congr'
  intro _
  cases setBy : shared.setter with
  | none =>
    rw [setBy] at set
    rw [set]
    exact iff_of_false (fun ⟨_, read, _⟩ => nomatch read) (fun ⟨_, some_, _⟩ => nomatch some_)
  | some setter =>
    rw [setBy] at set
    rcases set with ⟨strategy, created, held⟩
    rw [held]
    apply Iff.intro
    · rintro ⟨_, same, own⟩
      cases same
      exact ⟨setter, rfl, created.trans own.symm⟩
    · rintro ⟨_, same, alike⟩
      cases same
      exact ⟨strategy, rfl, alike.symm.trans created⟩

/-- What the step of a call adds to its past. -/
theorem ownProvider_after {caller : ChatCaller} {op : ChatOp} {rest : op.Reply → Stepwise Bytes} {shared : SharedHelper}
    (set : SetBy shared) (sound : Calls.Sound callContract (fun _ => holdsAs false) caller)
    (shape : caller.program = .call op rest) :
    OwnProvider (caller.after op rest (SharedHelper.perform caller.input shared op).2) ↔ OwnProvider caller ∧
      ∀ use, op = .readStrategy use → use ≠ .isMCPModel →
        ∃ setter, shared.setter = some setter ∧ setter.created = caller.input.created := by
  rw [ownProvider_iff (sound.after shape _), ownProvider_iff sound]
  show ((callContract caller.input).phase (caller.past ++ [⟨op, _⟩])).own ↔ _
  rw [Contract.phase_snoc, own_after]
  apply and_congr_right
  intro _
  apply Iff.intro
  · rintro reads use rfl
    exact (readsOwn_iff set use).mp (reads use _ rfl)
  · intro alike use read same
    cases same
    exact (readsOwn_iff set use).mpr (alike use rfl)

theorem eachOwn_step (pool : ChatPool) (move : Move ChatInput) (next : ChatPool)
    (step : (chatCalls json).pool.step pool move = some next) (provided : Provided pool) :
    EachOwn next ↔ EachOwn pool ∧ LastSetAlike pool move := by
  rcases Calls.pool_cases step with ⟨input, rfl, rfl⟩ | ⟨i, caller, op, rest, rfl, there, shape, rfl⟩
  · apply Iff.intro
    · intro own
      exact ⟨fun caller member => own caller (List.mem_append_left _ member), Calls.atStep_enter input⟩
    · rintro ⟨own, _⟩ caller member
      rcases List.mem_append.mp member with old | new
      · exact own caller old
      · cases List.mem_singleton.mp new
        exact ⟨nofun, nofun⟩
  · have member := List.mem_of_getElem? there
    have after := ownProvider_after provided.set (provided.sound caller member) shape
    have alike : LastSetAlike pool (.step i) ↔ _ := Calls.atStep_iff there shape
    rw [alike]
    apply Iff.intro
    · intro own
      have stepped := after.mp (own _ (List.mem_set (List.getElem?_eq_some_iff.mp there).1 _))
      exact ⟨((Calls.forall_mem_set there stepped.1).mp own).1, stepped.2⟩
    · rintro ⟨own, last⟩
      exact (Calls.forall_mem_set there (own caller member)).mpr ⟨own, after.mpr ⟨own caller member, last⟩⟩

end

theorem provided_start (messages : List Message) : Provided (idlePool messages) := by
  apply Provided.mk
  · intro caller member
    cases member
  · rfl

/-- In every interleaving of calls on one helper each has used and sent to its own provider exactly when, at each
    of its reads, the strategy set last was created like its own. -/
theorem own_provider_iff (json : JsonCodec) (messages : List Message) {moves : List (Move ChatInput)} {final : ChatPool}
    (ran : (chatCalls json).pool.run (idlePool messages) moves = some final) :
    EachOwn final ↔ (chatCalls json).pool.Everywhere LastSetAlike (idlePool messages) moves := by
  have start : EachOwn (idlePool messages) := by
    intro caller member
    cases member
  exact System.final_iff_everywhere provided_step eachOwn_step (provided_start messages) start ran

/-- The check of one read. -/
def ChatInput.readsOwn (input : ChatInput) : Event ChatOp ChatOp.Reply → Bool
  | ⟨.readStrategy use, read⟩ => use = .isMCPModel || match read, input.created with
    | some strategy, .ok own => strategy = own
    | _, _ => false
  | _ => true

theorem readsOwn_of_check {input : ChatInput} {use : StrategyUse} {read : Option AIStrategy}
    (checked : input.readsOwn ⟨.readStrategy use, read⟩ = true) : input.ReadsOwn use read := by
  intro used
  simp only [ChatInput.readsOwn, used, decide_false, Bool.false_or] at checked
  split at checked
  · rename_i strategy own created
    exact ⟨strategy, rfl, created.trans (congrArg Except.ok (of_decide_eq_true checked).symm)⟩
  · cases checked

def providerKeys : Getenv := fun name =>
  if name = bytes "DASHSCOPE_API_KEY" then some (bytes "ali")
  else if name = bytes "DOUBAO_API_KEY" then some (bytes "dou")
  else none

def asked (modelType : Bytes) : ChatInput where
  question := ⟨7, bytes "ada", bytes "5", bytes "hi", modelType⟩
  outside := { keyed (.received (bytes "r")) 1 2 with getenv := providerKeys }

/-- A second call enters after the first has ended. -/
def oneAfterOther : List (Move ChatInput) :=
  .enter (asked (bytes "1")) :: List.replicate 12 (.step 0) ++
    .enter (asked (bytes "2")) :: List.replicate 12 (.step 1)

theorem one_after_other_alike :
    (chatCalls helloJson).pool.Everywhere LastSetAlike (idlePool []) oneAfterOther := by
  have seen : ((chatCalls helloJson).pool.run (idlePool []) oneAfterOther).map
      (fun pool => pool.callers.all fun caller => caller.past.all caller.input.readsOwn) = some true := by
    decide
  rcases Option.map_eq_some_iff.mp seen with ⟨final, ran, checked⟩
  apply (own_provider_iff helloJson [] ran).mp
  intro caller member
  have provided := System.run_preserves provided_step (provided_start []) ran
  apply (ownProvider_iff (provided.sound caller member)).mpr
  apply (own_iff caller.past).mpr
  intro use read inPast
  exact readsOwn_of_check (List.all_eq_true.mp (List.all_eq_true.mp checked caller member) _ inPast)

def ChatCaller.sent (caller : ChatCaller) : List (Bytes × Bytes) :=
  caller.past.filterMap fun
    | ⟨.perform url apiKey _, _⟩ => some (url, apiKey)
    | _ => none

/-- The second call sets its strategy between the first call's reads of the key and of the address. -/
def setBetween : List (Move ChatInput) :=
  [.enter (asked (bytes "1")), .enter (asked (bytes "2"))] ++ List.replicate 8 (.step 0) ++
    [.step 1] ++ List.replicate 2 (.step 0)

theorem key_sent_elsewhere :
    ¬ ∀ (json : JsonCodec) (messages : List Message) (moves : List (Move ChatInput)) (final : ChatPool),
      (chatCalls json).pool.run (idlePool messages) moves = some final → EachOwn final := by
  intro every
  have seen : ((chatCalls helloJson).pool.run (idlePool []) setBetween).map (fun pool => pool.callers.map fun caller =>
      (caller.input.created.toOption.bind fun own => (own.getApiUrl caller.input.outside.getenv).toOption,
        ChatCaller.sent caller)) =
      some [(some AliyunStrategy.getApiUrl, [(DouBaoStrategy.getApiUrl, bytes "ali")]),
        (some DouBaoStrategy.getApiUrl, [])] := by decide
  rcases Option.map_eq_some_iff.mp seen with ⟨final, ran, callers⟩
  rcases List.map_eq_cons_iff.mp callers with ⟨first, others, shape, own, _⟩
  rcases Prod.mk.inj own with ⟨ownUrl, sent⟩
  have elsewhere : (DouBaoStrategy.getApiUrl, bytes "ali") ∈ ChatCaller.sent first := by
    rw [sent]
    exact List.mem_singleton_self _
  rcases List.mem_filterMap.mp elsewhere with ⟨event, member, isSent⟩
  have provider := every helloJson [] setBetween final ran first (by rw [shape]; exact List.mem_cons_self)
  split at isSent
  · cases isSent
    rcases provider.sends _ _ _ _ member with ⟨strategy, mine, url, _⟩
    have created : first.input.created = .ok strategy := mine
    rw [created] at ownUrl
    simp only [Except.toOption, Option.bind_some, url, Option.some.injEq] at ownUrl
    exact absurd ownUrl (by decide)
  · cases isSent

end Chat
