import Mathlib.Data.List.Nodup
import HttpServerApps.Chat.Conversations

namespace Chat

open Common Http

namespace ChatMemory

/-- `chatInformation[userId]` has the key. -/
def Has (memory : ChatMemory) (userId : Int32) (sessionId : Bytes) : Prop :=
  (memory.userSessions userId).find sessionId ≠ none

/-- `sessionsIdsMap` lists the conversations of every user, each once. -/
def Agrees (memory : ChatMemory) : Prop :=
  ∀ userId, (memory.sessionIds userId).Nodup ∧
    ∀ sessionId, sessionId ∈ memory.sessionIds userId ↔ memory.Has userId sessionId

section

variable {memory : ChatMemory} {userId : Int32} {sessionId : Bytes}

theorem has_putHelper (other : Int32) (key : Bytes) (helper : AIHelper) :
    (memory.putHelper userId sessionId helper).Has other key ↔
      other = userId ∧ key = sessionId ∨ memory.Has other key := by
  unfold Has
  rw [userSessions_putHelper]
  by_cases sameUser : other = userId
  · subst sameUser
    simp only [↓reduceIte, Dict.find_insert, true_and]
    by_cases sameKey : key = sessionId
    · simp [sameKey]
    · simp [sameKey]
  · simp [sameUser]

theorem agrees_putHelper (agrees : memory.Agrees) (helper : AIHelper) :
    (memory.putHelper userId sessionId helper).Agrees ↔ memory.Has userId sessionId := by
  apply Iff.intro
  · intro next
    have mine := ((next userId).2 sessionId).mpr ((has_putHelper userId sessionId helper).mpr (Or.inl ⟨rfl, rfl⟩))
    exact ((agrees userId).2 sessionId).mp mine
  · intro present other
    refine ⟨(agrees other).1, ?_⟩
    intro key
    rw [has_putHelper, sessionIds_putHelper, (agrees other).2 key]
    apply Iff.intro
    · exact Or.inr
    · rintro (⟨rfl, rfl⟩ | has)
      · exact present
      · exact has

theorem agrees_enter (agrees : memory.Agrees) : (memory.enter userId sessionId).Agrees ↔ memory.Has userId sessionId :=
  agrees_putHelper agrees _

theorem has_enter : (memory.enter userId sessionId).Has userId sessionId :=
  (has_putHelper userId sessionId _).mpr (Or.inl ⟨rfl, rfl⟩)

/-- A new conversation comes into the list with its entry. -/
theorem agrees_enterListed (agrees : memory.Agrees) : (memory.enterListed userId sessionId).Agrees := by
  unfold enterListed
  split
  · rename_i absent
    intro other
    rw [sessionIds_putSessionIds]
    have entries : ∀ key, ((memory.enter userId sessionId).putSessionIds userId
        (memory.sessionIds userId ++ [sessionId])).Has other key ↔
          other = userId ∧ key = sessionId ∨ memory.Has other key := fun key => has_putHelper other key _
    by_cases sameUser : other = userId
    · subst sameUser
      rw [if_pos rfl]
      have unlisted : sessionId ∉ memory.sessionIds other := by
        intro listed
        exact (((agrees other).2 sessionId).mp listed) absent
      apply And.intro
      · exact List.Nodup.append (agrees other).1 (List.nodup_singleton sessionId)
          (List.disjoint_singleton.mpr unlisted)
      · intro key
        rw [entries, List.mem_append, List.mem_singleton, (agrees other).2 key]
        simp only [true_and]
        exact or_comm
    · rw [if_neg sameUser]
      refine ⟨(agrees other).1, ?_⟩
      intro key
      rw [entries]
      simp only [sameUser, false_and, false_or]
      exact (agrees other).2 key
  · rename_i present
    exact (agrees_enter agrees).mpr present

theorem has_enterListed : (memory.enterListed userId sessionId).Has userId sessionId := by
  unfold enterListed
  split
  · exact has_enter
  · exact has_enter

theorem has_enter_iff (other : Int32) (key : Bytes) :
    (memory.enter userId sessionId).Has other key ↔ other = userId ∧ key = sessionId ∨ memory.Has other key :=
  has_putHelper other key _

theorem has_enterListed_iff (other : Int32) (key : Bytes) :
    (memory.enterListed userId sessionId).Has other key ↔ other = userId ∧ key = sessionId ∨ memory.Has other key := by
  unfold enterListed
  split
  · exact has_enter_iff other key
  · exact has_enter_iff other key

theorem has_afterChat {json : JsonCodec} {question : Question} {outside : Outside}
    (present : memory.Has question.userId question.sessionId) (other : Int32) (key : Bytes) :
    (memory.afterChat json question outside).Has other key ↔ memory.Has other key := by
  show (memory.putHelper _ _ _).Has other key ↔ _
  rw [has_putHelper]
  apply Iff.intro
  · rintro (⟨rfl, rfl⟩ | has)
    · exact present
    · exact has
  · exact Or.inr

/-- A call of `chat` in a conversation that exists changes neither the keys nor the lists. -/
theorem agrees_afterChat {json : JsonCodec} {question : Question} {outside : Outside}
    (present : memory.Has question.userId question.sessionId) :
    (memory.afterChat json question outside).Agrees ↔ memory.Agrees := by
  apply forall_congr'
  intro other
  have ids : (memory.afterChat json question outside).sessionIds other = memory.sessionIds other := rfl
  rw [ids]
  simp only [has_afterChat present]

theorem agrees_putSessionIds : (memory.putSessionIds userId (memory.sessionIds userId)).Agrees ↔ memory.Agrees := by
  apply forall_congr'
  intro other
  have ids : (memory.putSessionIds userId (memory.sessionIds userId)).sessionIds other = memory.sessionIds other := by
    rw [sessionIds_putSessionIds]
    split
    · rename_i same
      rw [same]
    · rfl
  rw [ids]
  rfl

theorem agrees_restoreRow (agrees : memory.Agrees) (row : MessageRow) : (memory.restoreRow row).Agrees :=
  (agrees_putHelper (agrees_enterListed agrees) _).mpr has_enterListed

end

theorem agrees_readDataFromMySQL (answer : Except Bytes (List (Except Bytes MessageRow))) :
    (({} : ChatMemory).readDataFromMySQL answer).Agrees := by
  have start : ({} : ChatMemory).Agrees := fun userId =>
    ⟨List.nodup_nil, fun sessionId => ⟨fun listed => absurd listed List.not_mem_nil, fun has => absurd rfl has⟩⟩
  unfold readDataFromMySQL
  cases answer with
  | error what => exact start
  | ok rows =>
    dsimp only
    generalize rows.filterMap Except.toOption = read
    generalize ({} : ChatMemory) = memory at start ⊢
    induction read generalizing memory with
    | nil => exact start
    | cons row read ih => exact ih (memory.restoreRow row) (agrees_restoreRow start row)

end ChatMemory

open ChatMemory

/-- A send or a history that comes to the lookup names a conversation that the user has. -/
def NamesKnown (json : JsonCodec) (memory : ChatMemory) (request : ChatRequest) : Prop :=
  ∀ userId, request.user = some userId →
    match request with
    | .send incoming _ => ∀ fields, ChatSendHandler.readFields json incoming.req.content = .ok fields →
        memory.Has userId fields.sessionId
    | .history incoming => ∀ sessionId, ChatHistoryHandler.readSessionId json incoming.req.content = .ok sessionId →
        memory.Has userId sessionId
    | _ => True

theorem agrees_after {json : JsonCodec} {memory : ChatMemory} (agrees : memory.Agrees) (request : ChatRequest) :
    (request.after json memory).Agrees ↔ NamesKnown json memory request := by
  unfold ChatRequest.after NamesKnown
  cases request.user with
  | none => exact iff_of_true agrees nofun
  | some userId =>
    simp only [Option.some.injEq, forall_eq']
    cases request with
    | send incoming outside =>
      dsimp only
      cases ChatSendHandler.readFields json incoming.req.content with
      | error failure => exact iff_of_true agrees nofun
      | ok fields =>
        simp only [Except.ok.injEq, forall_eq']
        rw [agrees_afterChat has_enter, agrees_enter agrees]
    | sendNewSession incoming now rand outside =>
      dsimp only
      cases ChatCreateAndSendHandler.readFields json incoming.req.content with
      | error failure => exact iff_of_true agrees trivial
      | ok fields =>
        dsimp only
        rw [agrees_afterChat has_enterListed]
        exact iff_of_true (agrees_enterListed agrees) trivial
    | history incoming =>
      dsimp only
      cases ChatHistoryHandler.readSessionId json incoming.req.content with
      | error failure => exact iff_of_true agrees nofun
      | ok sessionId =>
        simp only [Except.ok.injEq, forall_eq']
        exact agrees_enter agrees
    | sessions incoming => exact iff_of_true (agrees_putSessionIds.mpr agrees) trivial

/-- From any stored rows, the lists name the conversations in every state of a run exactly when no send and no
    history in it names a conversation that its user does not have. -/
theorem session_list_agrees_iff (json : JsonCodec) (answer : Except Bytes (List (Except Bytes MessageRow)))
    {requests : List ChatRequest} {final : ChatMemory}
    (run : (chats json).run (({} : ChatMemory).readDataFromMySQL answer) requests = some final) :
    (chats json).Always Agrees (({} : ChatMemory).readDataFromMySQL answer) requests ↔
      (chats json).Everywhere (NamesKnown json) (({} : ChatMemory).readDataFromMySQL answer) requests := by
  refine @System.always_iff_everywhere _ _ _ (fun _ => True) _ _ (fun _ _ _ _ _ => trivial) ?_ _ _ _ trivial
    (agrees_readDataFromMySQL answer) run
  intro memory request next step _ agrees
  obtain rfl := chatStep_after step
  exact agrees_after agrees request

def newThenHistory : List ChatRequest :=
  [.sendNewSession (requestOf (bytes "7") []) 5 0 keyless, .history (requestOf (bytes "7") namesFive)]

theorem new_session_listed :
    (chats namesFiveJson).Always Agrees (({} : ChatMemory).readDataFromMySQL (.ok [])) newThenHistory := by
  obtain ⟨final, run⟩ := Option.isSome_iff_exists.mp (show ((chats namesFiveJson).run
    (({} : ChatMemory).readDataFromMySQL (.ok [])) newThenHistory).isSome = true by decide)
  refine (session_list_agrees_iff namesFiveJson (.ok []) run).mpr ?_
  apply System.everywhere_cons
  · intro userId _
    trivial
  · intro middle first
    apply System.everywhere_cons
    · intro userId seven sessionId named
      have made : ((((ChatRequest.sendNewSession (requestOf (bytes "7") []) 5 0 keyless).after namesFiveJson
          (({} : ChatMemory).readDataFromMySQL (.ok []))).userSessions 7).find (bytes "5")).isSome = true := by
        decide
      have user : (ChatRequest.history (requestOf (bytes "7") namesFive)).user = some 7 := by decide
      have five : ChatHistoryHandler.readSessionId namesFiveJson namesFive = .ok (bytes "5") := by rfl
      obtain rfl := Option.some.inj (user.symm.trans seven)
      obtain rfl := Except.ok.inj (five.symm.trans named)
      rw [← chatStep_after first] at made
      exact Option.isSome_iff_ne_none.mp made
    · intro last _
      exact System.everywhere_nil last

/-- A history without a session id makes a conversation that is not listed. -/
theorem history_unlisted :
    ¬ ∀ (json : JsonCodec) (answer : Except Bytes (List (Except Bytes MessageRow))) (requests : List ChatRequest)
        (final : ChatMemory),
      (chats json).run (({} : ChatMemory).readDataFromMySQL answer) requests = some final → final.Agrees := by
  intro every
  have seen : ((chats (knownTexts [])).run (({} : ChatMemory).readDataFromMySQL (.ok []))
      [.history (requestOf (bytes "7") [])]).map
        (fun memory => (memory.sessionIds 7, ((memory.userSessions 7).find []).isSome)) = some ([], true) := by
    decide
  rcases Option.map_eq_some_iff.mp seen with ⟨final, run, both⟩
  rcases Prod.mk.inj both with ⟨unlisted, made⟩
  have listed := ((every _ _ _ final run 7).2 []).mpr (Option.isSome_iff_ne_none.mp made)
  rw [unlisted] at listed
  cases listed

end Chat
