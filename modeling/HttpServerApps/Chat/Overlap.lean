import HttpServerApps.Chat.Concurrent
import HttpServerApps.Chat.Restart

namespace Chat

open Common

/-! What overlapping calls leave in `messages`. -/

def ChatInsert.message (insert : ChatInsert) : Message := ⟨insert.userInput, insert.ms, .added insert.is_user⟩

def Message.isAdded (message : Message) : Bool := message.origin ≠ .prompt

/-- What has been restored, then what has been passed to `addMessage`. -/
def added (rows : List MessageRow) (talk : Talk) : List Message :=
  rows.map MessageRow.message ++ talk.published.map ChatInsert.message

def restoredPool (rows : List MessageRow) : ChatPool := idlePool (rows.map MessageRow.message)

def holdsPrompt (caller : ChatCaller) : Bool := ((callContract caller.input).phase caller.past).held

/-- All calls have returned or thrown. -/
def AllReturned (pool : ChatPool) : Prop := ∀ caller ∈ pool.callers, caller.program.outcome.isSome = true

structure NoneLost (talk : Talk) : Prop where
  still : ∀ insert ∈ talk.published, ∃ message ∈ talk.helper.messages, message.content = insert.userInput
  noPrompt : ∀ message ∈ talk.helper.messages, message.origin ≠ .prompt

/-- A `pop_back` finds a prompt at the end, and no call throws while its prompt is in. -/
structure OpKeepsMessages (shared : SharedHelper) (caller : ChatCaller) (op : ChatOp)
    (next : op.Reply → Stepwise Bytes) : Prop where
  pops : op = .popBack → ∃ last, shared.talk.helper.messages.getLast? = some last ∧ last.origin = .prompt
  closes : ∀ failure, next (SharedHelper.perform caller.input shared op).2 = .done (.error failure) →
    holdsPrompt (caller.after op next (SharedHelper.perform caller.input shared op).2) = false

def KeepsMessages (pool : ChatPool) (move : Move ChatInput) : Prop := pool.AtStep move (OpKeepsMessages pool.shared)

structure NothingTaken (rows : List MessageRow) (pool : ChatPool) : Prop where
  kept : pool.shared.talk.helper.messages.filter Message.isAdded = added rows pool.shared.talk
  closed : ∀ caller ∈ pool.callers, caller.program.outcome.isSome = true → holdsPrompt caller = false

section

variable {json : JsonCodec} {rows : List MessageRow} {pool next : ChatPool}

theorem holdsPrompt_after {caller : ChatCaller} {op : ChatOp} (rest : op.Reply → Stepwise Bytes) (reply : op.Reply) :
    holdsPrompt (caller.after op rest reply) =
      ((callContract caller.input).after ((callContract caller.input).phase caller.past) op reply).held := by
  unfold holdsPrompt Caller.after
  dsimp only
  rw [Contract.phase_snoc]

theorem added_addMessage (talk : Talk) (insert : ChatInsert) (helper : AIHelper) :
    added rows ⟨helper, talk.published ++ [insert]⟩ = added rows talk ++ [insert.message] := by
  unfold added
  rw [List.map_append, List.append_assoc]
  rfl

/-- The books of the helper: restored, added, and one more for each prompt that is in. -/
structure Booked (rows : List MessageRow) (talk : Talk) (prompts : Nat) : Prop where
  length : talk.helper.messages.length = (added rows talk).length + prompts
  within : (talk.helper.messages.filter Message.isAdded).Sublist (added rows talk)

theorem Booked.last {talk : Talk} {prompts : Nat} (booked : Booked rows talk prompts) (some_ : 0 < prompts) :
    ∃ init last, talk.helper.messages = init ++ [last] := by
  have length := booked.length
  rcases List.eq_nil_or_concat talk.helper.messages with empty | ⟨init, last, shape⟩
  · rw [empty, List.length_nil] at length
    omega
  · exact ⟨init, last, by rw [shape, List.concat_eq_append]⟩

theorem booked_perform {input : ChatInput} {shared : SharedHelper} {op : ChatOp} {phase : CallPhase}
    {prompts after : Nat} (may : (callContract input).may phase op) (mine : phase.held = true → 0 < prompts)
    (counted : (after + if phase.held then 1 else 0) = prompts +
      if ((callContract input).after phase op (SharedHelper.perform input shared op).2).held then 1 else 0)
    (booked : Booked rows shared.talk prompts) : Booked rows (SharedHelper.perform input shared op).1.talk after := by
  have length := booked.length
  have unchanged : after = prompts → Booked rows shared.talk after := by
    rintro rfl
    exact booked
  cases op with
  | pushPrompt prompt =>
    have free : phase.held = false := may
    have one : after = prompts + 1 := by simpa [free, callContract] using counted
    apply Booked.mk
    · show (shared.talk.helper.messages ++ [_]).length = (added rows shared.talk).length + after
      rw [List.length_append, List.length_singleton]
      omega
    · show ((shared.talk.helper.messages ++ [(⟨prompt, 0, .prompt⟩ : Message)]).filter _).Sublist
        (added rows shared.talk)
      rw [List.filter_append]
      simpa [Message.isAdded] using booked.within
  | popBack =>
    have holds : phase.held = true := may
    have one : after + 1 = prompts := by simpa [holds, callContract] using counted
    apply Booked.mk
    · show shared.talk.helper.messages.dropLast.length = (added rows shared.talk).length + after
      rw [List.length_dropLast]
      omega
    · exact ((List.dropLast_sublist _).filter _).trans booked.within
  | addMessage is_user text ms =>
    have same : after = prompts := Nat.add_right_cancel counted
    apply Booked.mk
    · show (shared.talk.helper.messages ++ [_]).length = (added rows ⟨_, shared.talk.published ++ [_]⟩).length + after
      rw [added_addMessage, List.length_append, List.length_append, length, same]
      exact Nat.add_right_comm _ _ _
    · show ((shared.talk.helper.messages ++ [(⟨text, ms, .added is_user⟩ : Message)]).filter _).Sublist
        (added rows ⟨_, shared.talk.published ++ [_]⟩)
      rw [added_addMessage, List.filter_append]
      exact booked.within.append (List.Sublist.refl _)
  | setStrategy strat =>
    have same := unchanged (Nat.add_right_cancel counted)
    exact ⟨same.length, same.within⟩
  | _ => exact unchanged (Nat.add_right_cancel counted)

/-- Every message is restored, added, or a prompt for a call that has one in, though not always its own. -/
structure Accounted (rows : List MessageRow) (pool : ChatPool) : Prop where
  sound : ∀ caller ∈ pool.callers, Calls.Sound callContract (fun _ => holdsAs false) caller
  booked : Booked rows pool.shared.talk (pool.callers.countP holdsPrompt)

theorem accounted_step (pool : ChatPool) (move : Move ChatInput) (next : ChatPool)
    (step : (chatCalls json).pool.step pool move = some next) (accounted : Accounted rows pool) :
    Accounted rows next := by
  have sound := Calls.sound_step (chat_obeys json) pool move next step accounted.sound
  rcases Calls.pool_cases step with ⟨input, rfl, rfl⟩ | ⟨i, caller, op, rest, rfl, there, shape, rfl⟩
  · refine ⟨sound, ?_⟩
    rw [List.countP_append]
    exact accounted.booked
  · have may := (accounted.sound caller (List.mem_of_getElem? there)).may shape
    refine ⟨sound, booked_perform may ?_ ?_ accounted.booked⟩
    · exact fun holds => List.countP_pos_iff.mpr ⟨caller, List.mem_of_getElem? there, holds⟩
    · rw [← holdsPrompt_after rest]
      exact Calls.countP_set_of_getElem? there

theorem kept_perform {input : ChatInput} {shared : SharedHelper} {op : ChatOp} {phase : CallPhase} {prompts : Nat}
    (may : (callContract input).may phase op) (mine : phase.held = true → 0 < prompts)
    (booked : Booked rows shared.talk prompts) :
    (SharedHelper.perform input shared op).1.talk.helper.messages.filter Message.isAdded =
        added rows (SharedHelper.perform input shared op).1.talk ↔
      shared.talk.helper.messages.filter Message.isAdded = added rows shared.talk ∧
        (op = .popBack → ∃ last, shared.talk.helper.messages.getLast? = some last ∧ last.origin = .prompt) := by
  cases op with
  | popBack =>
    rcases booked.last (mine may) with ⟨init, last, shape⟩
    have within := booked.within
    show shared.talk.helper.messages.dropLast.filter _ = added rows shared.talk ↔ _
    simp only [shape, List.dropLast_concat, List.filter_append, List.getLast?_concat, Option.some.injEq,
      exists_eq_left', forall_const] at within ⊢
    by_cases isPrompt : last.origin = .prompt
    · simp [Message.isAdded, isPrompt]
    · have single : [last].filter Message.isAdded = [last] := by simp [Message.isAdded, isPrompt]
      rw [single] at within ⊢
      apply iff_of_false
      · intro same
        have length := within.length_le
        rw [← same, List.length_append, List.length_singleton] at length
        omega
      · exact fun both => isPrompt both.2
  | pushPrompt prompt =>
    show (shared.talk.helper.messages ++ [(⟨prompt, 0, .prompt⟩ : Message)]).filter _ = added rows shared.talk ↔ _
    simp [Message.isAdded]
  | addMessage is_user text ms =>
    show (shared.talk.helper.messages ++ [(⟨text, ms, .added is_user⟩ : Message)]).filter _ =
      added rows ⟨_, shared.talk.published ++ [_]⟩ ↔ _
    rw [added_addMessage, List.filter_append]
    have single : [(⟨text, ms, .added is_user⟩ : Message)].filter Message.isAdded =
        [(AIHelper.insertOf input.question is_user text ms).message] := rfl
    rw [single, List.append_left_inj]
    exact (and_iff_left nofun).symm
  | setStrategy strat => exact (and_iff_left nofun).symm
  | readStrategy use => exact (and_iff_left nofun).symm
  | readMessages => exact (and_iff_left nofun).symm
  | perform url apiKey payload => exact (and_iff_left nofun).symm

/-- A call that has ended has removed its prompt, or thrown. -/
theorem ended_cases {caller : ChatCaller} (sound : Calls.Sound callContract (fun _ => holdsAs false) caller)
    (ended : caller.program.outcome.isSome = true) :
    holdsPrompt caller = false ∨ ∃ failure, caller.program = .done (.error failure) := by
  have obeys := sound.obeys
  cases shape : caller.program with
  | call op rest =>
    rw [shape] at ended
    cases ended
  | done outcome =>
    cases outcome with
    | ok answer =>
      rw [shape] at obeys
      exact Or.inl (obeys rfl)
    | error failure => exact Or.inr ⟨failure, rfl⟩

theorem nothingTaken_step (pool : ChatPool) (move : Move ChatInput) (next : ChatPool)
    (step : (chatCalls json).pool.step pool move = some next) (accounted : Accounted rows pool) :
    NothingTaken rows next ↔ NothingTaken rows pool ∧ KeepsMessages pool move := by
  rcases Calls.pool_cases step with ⟨input, rfl, rfl⟩ | ⟨i, caller, op, rest, rfl, there, shape, rfl⟩
  · apply Iff.intro
    · intro taken
      refine ⟨⟨taken.kept, ?_⟩, Calls.atStep_enter input⟩
      exact fun caller member => taken.closed caller (List.mem_append_left _ member)
    · rintro ⟨taken, _⟩
      refine ⟨taken.kept, ?_⟩
      intro caller member ended
      rcases List.mem_append.mp member with old | new
      · exact taken.closed caller old ended
      · cases List.mem_singleton.mp new
        rfl
  · have sound := accounted.sound caller (List.mem_of_getElem? there)
    have mine : ((callContract caller.input).phase caller.past).held = true → 0 < pool.callers.countP holdsPrompt :=
      fun holds => List.countP_pos_iff.mpr ⟨caller, List.mem_of_getElem? there, holds⟩
    have kept := kept_perform (sound.may shape) mine accounted.booked
    have closed := @Calls.forall_mem_set _ pool.callers i caller
      (caller.after op rest (SharedHelper.perform caller.input pool.shared op).2)
      (fun caller => caller.program.outcome.isSome = true → holdsPrompt caller = false) there
      (by rw [shape]; exact nofun)
    have ends : ((rest (SharedHelper.perform caller.input pool.shared op).2).outcome.isSome = true →
          holdsPrompt (caller.after op rest (SharedHelper.perform caller.input pool.shared op).2) = false) ↔
        ∀ failure, rest (SharedHelper.perform caller.input pool.shared op).2 = .done (.error failure) →
          holdsPrompt (caller.after op rest (SharedHelper.perform caller.input pool.shared op).2) = false := by
      apply Iff.intro
      · exact fun closes failure thrown => closes (by rw [thrown]; rfl)
      · intro closes ended
        rcases ended_cases (sound.after shape _) ended with free | ⟨failure, thrown⟩
        · exact free
        · exact closes failure thrown
    have keeps : KeepsMessages pool (.step i) ↔ OpKeepsMessages pool.shared caller op rest :=
      Calls.atStep_iff there shape
    rw [keeps]
    apply Iff.intro
    · intro taken
      have both := kept.mp taken.kept
      have closes := closed.mp taken.closed
      exact ⟨⟨both.1, closes.1⟩, ⟨both.2, ends.mp closes.2⟩⟩
    · rintro ⟨taken, ok⟩
      exact ⟨kept.mpr ⟨taken.kept, ok.pops⟩, closed.mpr ⟨taken.closed, ends.mpr ok.closes⟩⟩

theorem accounted_start : Accounted rows (restoredPool rows) := by
  apply Accounted.mk
  · intro caller member
    cases member
  · apply Booked.mk
    · show (rows.map MessageRow.message).length = (rows.map MessageRow.message ++ []).length + 0
      rw [List.append_nil]
      rfl
    · show ((rows.map MessageRow.message).filter _).Sublist (rows.map MessageRow.message ++ [])
      rw [List.append_nil]
      exact List.filter_sublist

theorem nothingTaken_start : NothingTaken rows (restoredPool rows) := by
  apply NothingTaken.mk
  · show (rows.map MessageRow.message).filter _ = rows.map MessageRow.message ++ []
    rw [List.append_nil]
    apply List.filter_eq_self.mpr
    intro message member
    rcases List.mem_map.mp member with ⟨row, _, rfl⟩
    rfl
  · intro caller member
    cases member

theorem noneLost_of_accounted (accounted : Accounted rows pool) (returned : AllReturned pool) :
    NoneLost pool.shared.talk ↔ NothingTaken rows pool := by
  apply Iff.intro
  · intro none
    have all : pool.shared.talk.helper.messages.filter Message.isAdded = pool.shared.talk.helper.messages := by
      apply List.filter_eq_self.mpr
      intro message member
      exact decide_eq_true (none.noPrompt message member)
    have within := accounted.booked.within
    have length := accounted.booked.length
    have short := within.length_le
    rw [all] at short
    have noPrompts : pool.callers.countP holdsPrompt = 0 := by omega
    apply NothingTaken.mk
    · exact within.eq_of_length (by rw [all]; omega)
    · intro caller member _
      exact Bool.eq_false_of_not_eq_true (List.countP_eq_zero.mp noPrompts caller member)
  · intro taken
    have noPrompts : pool.callers.countP holdsPrompt = 0 := by
      apply List.countP_eq_zero.mpr
      intro caller member
      exact Bool.eq_false_iff.mp (taken.closed caller member (returned caller member))
    have length := accounted.booked.length
    rw [noPrompts, Nat.add_zero, ← taken.kept] at length
    have all := List.length_filter_eq_length_iff.mp length.symm
    apply NoneLost.mk
    · intro insert member
      have there : insert.message ∈ added rows pool.shared.talk :=
        List.mem_append_right _ (List.mem_map_of_mem member)
      rw [← taken.kept] at there
      exact ⟨insert.message, (List.mem_filter.mp there).1, rfl⟩
    · intro message member
      exact of_decide_eq_true (all message member)

end

/-- In every interleaving of calls on one helper nothing is lost and no prompt is left exactly when every
    `pop_back` finds a prompt at the end and no call throws while its prompt is in. -/
theorem none_lost_iff (json : JsonCodec) (rows : List MessageRow) {moves : List (Move ChatInput)} {final : ChatPool}
    (ran : (chatCalls json).pool.run (restoredPool rows) moves = some final) (returned : AllReturned final) :
    NoneLost final.shared.talk ↔ (chatCalls json).pool.Everywhere KeepsMessages (restoredPool rows) moves :=
  (noneLost_of_accounted (System.run_preserves accounted_step accounted_start ran) returned).trans
    (System.final_iff_everywhere accounted_step nothingTaken_step accounted_start nothingTaken_start ran)

/-- A question to a model; the two models answer differently. -/
def asks (modelType reply : Bytes) (ms : Int64) : ChatInput where
  question := ⟨7, bytes "ada", bytes "5", bytes "hi", modelType⟩
  outside := keyed (.received reply) ms ms

def twoAnswers : JsonCodec := knownTexts [(bytes "r", choiceOf (bytes "hello")), (bytes "s", choiceOf (bytes "hey"))]

/-- A call with tools and a plain one, the steps of the second after so many of the first. -/
def twoCalls (early : Nat) : List (Move ChatInput) :=
  [.enter (asks (bytes "4") (bytes "r") 1), .enter (asks (bytes "1") (bytes "s") 2)] ++
    List.replicate early (.step 0) ++ List.replicate 12 (.step 1) ++ List.replicate (14 - early) (.step 0)

/-- What is left to see at the end. -/
def ChatPool.left (pool : ChatPool) : List Message × List Bytes × Bool :=
  (pool.shared.talk.helper.messages, pool.shared.talk.published.map ChatInsert.userInput,
    pool.callers.all fun caller => caller.program.outcome.isSome)

theorem one_by_one_keeps : (chatCalls twoAnswers).pool.Everywhere KeepsMessages (restoredPool []) (twoCalls 14) := by
  have seen : ((chatCalls twoAnswers).pool.run (restoredPool []) (twoCalls 14)).map ChatPool.left =
      some ([⟨bytes "hi", 1, .added true⟩, ⟨bytes "hello", 1, .added false⟩, ⟨bytes "hi", 2, .added true⟩,
        ⟨bytes "hey", 2, .added false⟩], [bytes "hi", bytes "hello", bytes "hi", bytes "hey"], true) := by
    decide
  rcases Option.map_eq_some_iff.mp seen with ⟨final, ran, left⟩
  rcases Prod.mk.inj left with ⟨messages, rest⟩
  rcases Prod.mk.inj rest with ⟨published, ended⟩
  apply (none_lost_iff twoAnswers [] ran (List.all_eq_true.mp ended)).mp
  apply NoneLost.mk
  · intro insert member
    have text : insert.userInput ∈ final.shared.talk.published.map ChatInsert.userInput := List.mem_map_of_mem member
    rw [published] at text
    rw [messages]
    have all : ∀ text ∈ [bytes "hi", bytes "hello", bytes "hi", bytes "hey"],
        ∃ message ∈ [(⟨bytes "hi", 1, .added true⟩ : Message), ⟨bytes "hello", 1, .added false⟩,
          ⟨bytes "hi", 2, .added true⟩, ⟨bytes "hey", 2, .added false⟩], message.content = text := by decide
    exact all _ text
  · rw [messages]
    decide

/-- The pop of the call with tools takes the answer of the other call, and its prompt stays. -/
theorem answer_popped :
    ¬ ∀ (json : JsonCodec) (rows : List MessageRow) (moves : List (Move ChatInput)) (final : ChatPool),
      (chatCalls json).pool.run (restoredPool rows) moves = some final → AllReturned final →
        NoneLost final.shared.talk := by
  intro every
  have seen : ((chatCalls twoAnswers).pool.run (restoredPool []) (twoCalls 11)).map ChatPool.left =
      some ([⟨[], 0, .prompt⟩, ⟨bytes "hi", 2, .added true⟩, ⟨bytes "hi", 1, .added true⟩,
        ⟨bytes "hello", 1, .added false⟩], [bytes "hi", bytes "hey", bytes "hi", bytes "hello"], true) := by
    decide
  rcases Option.map_eq_some_iff.mp seen with ⟨final, ran, left⟩
  rcases Prod.mk.inj left with ⟨messages, rest⟩
  rcases Prod.mk.inj rest with ⟨published, ended⟩
  have hey : bytes "hey" ∈ final.shared.talk.published.map ChatInsert.userInput := by
    rw [published]
    decide
  rcases List.mem_map.mp hey with ⟨insert, member, text⟩
  rcases (every _ _ _ final ran (List.all_eq_true.mp ended)).still insert member with ⟨message, there, same⟩
  rw [messages] at there
  rw [text] at same
  have absent : ∀ message ∈ [(⟨[], 0, .prompt⟩ : Message), ⟨bytes "hi", 2, .added true⟩, ⟨bytes "hi", 1, .added true⟩,
      ⟨bytes "hello", 1, .added false⟩], message.content ≠ bytes "hey" := by decide
  exact absent message there same

end Chat
