import Mathlib.Data.Prod.Lex
import HttpServerApps.Chat.Conversations
import HttpServerApps.Common.Listing

namespace Chat

open Common Sql

/-! The table `chat_message`. -/

/-- The number that a literal puts into a column of integers. -/
def integerOf : Literal → Option Int
  | .integer value => some value
  | _ => none

/-- The row that a statement inserts. -/
def insertRow (sql : Bytes) : Option MessageRow :=
  match readInsert AIHelper.chatMessageHead 6 sql with
  | some [id, username, session_id, is_user, content, ts] => do
    let id ← integerOf id
    let is_user ← integerOf is_user
    let ts ← integerOf ts
    return ⟨Int64.ofInt id, username.characters, session_id.characters, Int32.ofInt is_user, content.characters,
      Int64.ofInt ts⟩
  | _ => none

def ChatInsert.row (insert : ChatInsert) : MessageRow :=
  ⟨insert.userId.toInt64, insert.userName, insert.sessionId, if insert.is_user then 1 else 0, insert.userInput,
    insert.ms⟩

theorem ChatInsert.id_row (insert : ChatInsert) : insert.row.id = insert.userId.toInt64 := rfl

theorem insertRow_sql {insert : ChatInsert} (number : AIHelper.IsNumberText insert.sessionId) :
    insertRow insert.sql = some insert.row := by
  obtain ⟨session, same, read⟩ := AIHelper.persists_number insert.userId insert.userName insert.is_user
    insert.userInput insert.ms number
  unfold insertRow ChatInsert.sql
  rw [read]
  simp only [integerOf, Option.bind_eq_bind, Option.bind_some, Int64.ofInt_toInt]
  unfold ChatInsert.row
  rw [← same]
  cases insert.is_user <;> rfl

/-- `ORDER BY ts ASC, id ASC` -/
def rowKey (row : MessageRow) : Int ×ₗ Int := toLex (row.ts.toInt, row.id.toInt)

/-! What a restart makes of the rows. -/

def inConversation (userId : Int32) (sessionId : Bytes) (row : MessageRow) : Bool :=
  row.id.toInt32 = userId && row.session_id = sessionId

def MessageRow.message (row : MessageRow) : Message := ⟨row.content, row.ts, .added (row.is_user ≠ 0)⟩

def restarted (order : List MessageRow) : ChatMemory := ({} : ChatMemory).readDataFromMySQL (.ok (order.map .ok))

theorem helper_putHelper (memory : ChatMemory) (userId other : Int32) (sessionId key : Bytes) (helper : AIHelper) :
    (memory.putHelper userId sessionId helper).helper other key =
      if other = userId ∧ key = sessionId then helper else memory.helper other key := by
  unfold ChatMemory.helper
  rw [ChatMemory.userSessions_putHelper]
  by_cases sameUser : other = userId
  · subst sameUser
    simp only [↓reduceIte, Dict.find_insert, true_and]
    split <;> rfl
  · simp [sameUser]

theorem helper_enter (memory : ChatMemory) (userId other : Int32) (sessionId key : Bytes) :
    (memory.enter userId sessionId).helper other key = memory.helper other key := by
  unfold ChatMemory.enter
  rw [helper_putHelper]
  split
  · rename_i same
    rw [same.1, same.2]
  · rfl

theorem helper_enterListed (memory : ChatMemory) (userId other : Int32) (sessionId key : Bytes) :
    (memory.enterListed userId sessionId).helper other key = memory.helper other key := by
  unfold ChatMemory.enterListed
  split
  · exact helper_enter ..
  · exact helper_enter ..

theorem messages_restoreRow (memory : ChatMemory) (row : MessageRow) (userId : Int32) (sessionId : Bytes) :
    ((memory.restoreRow row).helper userId sessionId).messages =
      (memory.helper userId sessionId).messages ++
        ([row].filter (inConversation userId sessionId)).map MessageRow.message := by
  unfold ChatMemory.restoreRow
  dsimp only
  rw [helper_putHelper, helper_enterListed, helper_enterListed]
  by_cases mine : userId = row.id.toInt32 ∧ sessionId = row.session_id
  · rcases mine with ⟨rfl, rfl⟩
    simp [inConversation, AIHelper.restoreMessage, AIHelper.pushBack, MessageRow.message]
  · rw [if_neg mine]
    have other : inConversation userId sessionId row = false := by
      unfold inConversation
      simp only [Bool.and_eq_false_iff, decide_eq_false_iff_not]
      by_cases sameUser : row.id.toInt32 = userId
      · exact Or.inr fun sameSession => mine ⟨sameUser.symm, sameSession.symm⟩
      · exact Or.inl sameUser
    simp [other]

theorem messages_restarted (order : List MessageRow) (userId : Int32) (sessionId : Bytes) :
    ((restarted order).helper userId sessionId).messages =
      (order.filter (inConversation userId sessionId)).map MessageRow.message := by
  have all : (order.map Except.ok).filterMap (Except.toOption : Except Bytes MessageRow → Option MessageRow) =
      order := by
    rw [List.filterMap_map]
    exact List.filterMap_some
  unfold restarted ChatMemory.readDataFromMySQL
  dsimp only
  rw [all]
  clear all
  have start : ∀ memory : ChatMemory, ((order.foldl ChatMemory.restoreRow memory).helper userId sessionId).messages =
      (memory.helper userId sessionId).messages ++
        (order.filter (inConversation userId sessionId)).map MessageRow.message := by
    induction order with
    | nil => simp
    | cons row order ih =>
      intro memory
      rw [List.foldl_cons, ih, messages_restoreRow, List.append_assoc, ← List.map_append, ← List.filter_append]
      rfl
  exact start {}

/-! Runs of successful calls, one after another, under a clock that does not go back. -/

structure ChatCall where
  question : Question
  outside : Outside
  generated : ∃ now rand, question.sessionId = AISessionIdGenerator.generate now rand

structure Running where
  memory : ChatMemory
  now : Int64

def callStep (json : JsonCodec) (state : Running) (call : ChatCall) : Option Running :=
  if state.now ≤ call.outside.questionMs ∧ call.outside.questionMs ≤ call.outside.answerMs then
    match (AIHelper.chat json call.question call.outside).run
        ⟨state.memory.helper call.question.userId call.question.sessionId, state.memory.published⟩ with
    | (_, .ok _) => some ⟨state.memory.afterChat json call.question call.outside, call.outside.answerMs⟩
    | _ => none
  else none

def calls (json : JsonCodec) : System Running ChatCall := ⟨callStep json⟩

/-- The rows of earlier runs, in the order in which the start of this one has listed them. -/
structure Stored where
  inserts : List ChatInsert
  numbers : ∀ insert ∈ inserts, AIHelper.IsNumberText insert.sessionId
  listed : (inserts.map ChatInsert.row).Pairwise fun a b => rowKey a ≤ rowKey b

namespace Stored

def rows (stored : Stored) : List MessageRow := stored.inserts.map ChatInsert.row

def start (stored : Stored) (now : Int64) : Running := ⟨restarted stored.rows, now⟩

/-- The rows in the order in which their messages came into the memory. -/
def allRows (stored : Stored) (state : Running) : List MessageRow :=
  stored.rows ++ state.memory.published.map ChatInsert.row

end Stored

def contents (memory : ChatMemory) (userId : Int32) (sessionId : Bytes) : List Bytes :=
  (memory.helper userId sessionId).messages.map Message.content

/-- In whatever order the statements are executed and the rows then listed, a restart gives every conversation
    the contents it has. -/
def Restores (stored : Stored) (state : Running) : Prop :=
  ∀ (executed : List Bytes) (order : List MessageRow), executed.Perm (state.memory.published.map ChatInsert.sql) →
    Listing rowKey (stored.rows ++ executed.filterMap insertRow) order →
    ∀ userId sessionId, contents (restarted order) userId sessionId = contents state.memory userId sessionId

/-- Two messages of one conversation with one time have one content. -/
def TimesTell (state : Running) : Prop :=
  ∀ userId sessionId, ∀ message ∈ (state.memory.helper userId sessionId).messages,
    ∀ other ∈ (state.memory.helper userId sessionId).messages, message.ts = other.ts → message.content = other.content

/-! What a run keeps: the memory is what the rows, in their order, make. -/

structure Kept (stored : Stored) (state : Running) : Prop where
  numbers : ∀ insert ∈ stored.inserts ++ state.memory.published, AIHelper.IsNumberText insert.sessionId
  messages : ∀ userId sessionId, (state.memory.helper userId sessionId).messages =
    ((stored.allRows state).filter (inConversation userId sessionId)).map MessageRow.message
  timed : (stored.allRows state).Pairwise fun a b => a.ts ≤ b.ts
  past : ∀ row ∈ stored.allRows state, row.ts ≤ state.now

theorem published_restarted (order : List MessageRow) : (restarted order).published = [] := by
  have same : ∀ (rows : List MessageRow) (memory : ChatMemory),
      (rows.foldl ChatMemory.restoreRow memory).published = memory.published := by
    intro rows
    induction rows with
    | nil => exact fun _ => rfl
    | cons row rows ih =>
      intro memory
      have one : (memory.restoreRow row).published = memory.published := by
        show (memory.enterListed row.id.toInt32 row.session_id).published = _
        unfold ChatMemory.enterListed
        split <;> rfl
      exact (ih (memory.restoreRow row)).trans one
  exact same _ {}

theorem rowKey_ts {a b : MessageRow} (ordered : rowKey a ≤ rowKey b) : a.ts ≤ b.ts := by
  apply Int64.le_iff_toInt_le.mpr
  rcases Prod.Lex.toLex_le_toLex.mp ordered with below | ⟨same, _⟩
  · exact le_of_lt below
  · exact le_of_eq same

theorem kept_start (stored : Stored) {now : Int64} (past : ∀ insert ∈ stored.inserts, insert.ms ≤ now) :
    Kept stored (stored.start now) := by
  have nothing : (stored.start now).memory.published = [] := published_restarted stored.rows
  have rows : stored.allRows (stored.start now) = stored.rows := by
    unfold Stored.allRows
    rw [nothing]
    exact List.append_nil _
  apply Kept.mk
  · rw [nothing, List.append_nil]
    exact stored.numbers
  · intro userId sessionId
    rw [rows]
    exact messages_restarted stored.rows userId sessionId
  · rw [rows]
    exact stored.listed.imp rowKey_ts
  · rw [rows]
    intro row member
    rcases List.mem_map.mp member with ⟨insert, there, rfl⟩
    exact past insert there

/-- The two rows of a call. -/
def ChatCall.inserts (call : ChatCall) (answer : Bytes) : List ChatInsert :=
  [AIHelper.insertOf call.question true call.question.userQuestion call.outside.questionMs,
    AIHelper.insertOf call.question false answer call.outside.answerMs]

theorem callStep_cases {json : JsonCodec} {state next : Running} {call : ChatCall}
    (step : callStep json state call = some next) :
    state.now ≤ call.outside.questionMs ∧ call.outside.questionMs ≤ call.outside.answerMs ∧
      ∃ answer strategy, next = ⟨{ state.memory.putHelper call.question.userId call.question.sessionId
        ⟨strategy, (state.memory.helper call.question.userId call.question.sessionId).messages ++
          ((call.inserts answer).map ChatInsert.row).map MessageRow.message⟩ with
        published := state.memory.published ++ call.inserts answer }, call.outside.answerMs⟩ := by
  unfold callStep at step
  split at step
  · rename_i clock
    refine ⟨clock.1, clock.2, ?_⟩
    obtain ⟨strategy, outcome, run, returned⟩ := @AIHelper.chat_leaves json call.question call.outside
      ⟨state.memory.helper call.question.userId call.question.sessionId, state.memory.published⟩
    rw [run] at step
    cases outcome with
    | error failure => cases step
    | ok value =>
      cases effect : AIHelper.effect json call.question call.outside
          (state.memory.helper call.question.userId call.question.sessionId).messages with
      | both answer =>
        refine ⟨answer, strategy, ?_⟩
        cases step
        unfold ChatMemory.afterChat
        rw [run]
        dsimp only
        rw [effect]
        rfl
      | _ =>
        rw [effect] at returned
        cases returned
  · cases step

theorem inConversation_insertOf (question : Question) (is_user : Bool) (text : Bytes) (ms : Int64) (userId : Int32)
    (sessionId : Bytes) :
    inConversation userId sessionId (AIHelper.insertOf question is_user text ms).row =
      decide (userId = question.userId ∧ sessionId = question.sessionId) := by
  unfold inConversation ChatInsert.row AIHelper.insertOf
  simp only [Int32.toInt32_toInt64, Bool.decide_and, eq_comm]

theorem kept_step {json : JsonCodec} {stored : Stored} (state : Running) (call : ChatCall) (next : Running)
    (step : (calls json).step state call = some next) (kept : Kept stored state) : Kept stored next := by
  rcases callStep_cases step with ⟨notBack, ordered, answer, strategy, rfl⟩
  rcases call.generated with ⟨now, rand, generated⟩
  have rows : stored.rows ++ (state.memory.published ++ call.inserts answer).map ChatInsert.row =
      stored.allRows state ++ (call.inserts answer).map ChatInsert.row := by
    unfold Stored.allRows
    rw [List.map_append, List.append_assoc]
  have times : ∀ row ∈ (call.inserts answer).map ChatInsert.row,
      call.outside.questionMs ≤ row.ts ∧ row.ts ≤ call.outside.answerMs := by
    intro row member
    simp only [ChatCall.inserts, List.map_cons, List.map_nil, List.mem_cons, List.not_mem_nil, or_false] at member
    rcases member with rfl | rfl
    · exact ⟨Int64.le_refl _, ordered⟩
    · exact ⟨ordered, Int64.le_refl _⟩
  apply Kept.mk
  · intro insert member
    rw [← List.append_assoc] at member
    rcases List.mem_append.mp member with old | new
    · exact kept.numbers insert old
    · simp only [ChatCall.inserts, List.mem_cons, List.not_mem_nil, or_false] at new
      rcases new with rfl | rfl <;> exact Or.inl ⟨_, generated⟩
  · intro userId sessionId
    show ((state.memory.putHelper _ _ _).helper userId sessionId).messages = _
    unfold Stored.allRows
    rw [rows, helper_putHelper, List.filter_append, List.map_append, ← kept.messages]
    by_cases mine : userId = call.question.userId ∧ sessionId = call.question.sessionId
    · rw [if_pos mine]
      simp only [ChatCall.inserts, List.map_cons, List.map_nil, List.filter_cons, inConversation_insertOf, mine,
        and_self, decide_true, ↓reduceIte, List.filter_nil]
    · rw [if_neg mine]
      simp [ChatCall.inserts, inConversation_insertOf, mine]
  · show (stored.rows ++ (state.memory.published ++ call.inserts answer).map ChatInsert.row).Pairwise _
    rw [rows]
    apply List.pairwise_append.mpr
    refine ⟨kept.timed, ?_, ?_⟩
    · simp only [ChatCall.inserts, List.map_cons, List.map_nil, List.pairwise_cons, List.mem_cons,
        List.not_mem_nil, or_false, forall_eq, IsEmpty.forall_iff, implies_true, List.Pairwise.nil, and_true]
      exact ordered
    · intro a old b new
      exact Int64.le_trans (Int64.le_trans (kept.past a old) notBack) (times b new).1
  · show ∀ row ∈ stored.rows ++ (state.memory.published ++ call.inserts answer).map ChatInsert.row, _
    rw [rows]
    intro row member
    rcases List.mem_append.mp member with old | new
    · exact Int64.le_trans (Int64.le_trans (kept.past row old) notBack) ordered
    · exact (times row new).2

section

variable {stored : Stored} {state : Running} {userId : Int32} {sessionId : Bytes}

theorem contents_restarted (order : List MessageRow) :
    contents (restarted order) userId sessionId =
      (order.filter (inConversation userId sessionId)).map MessageRow.content := by
  unfold contents
  rw [messages_restarted, List.map_map]
  rfl

theorem Kept.contents (kept : Kept stored state) : contents state.memory userId sessionId =
    ((stored.allRows state).filter (inConversation userId sessionId)).map MessageRow.content := by
  unfold Chat.contents
  rw [kept.messages, List.map_map]
  rfl

/-- The rows of one conversation have one id, so that the times alone are compared. -/
theorem rowKey_conversation {a b : MessageRow}
    (aThere : a ∈ (stored.allRows state).filter (inConversation userId sessionId))
    (bThere : b ∈ (stored.allRows state).filter (inConversation userId sessionId)) : a.id = b.id := by
  have own : ∀ row ∈ (stored.allRows state).filter (inConversation userId sessionId), row.id = userId.toInt64 := by
    intro row member
    rcases List.mem_filter.mp member with ⟨there, mine⟩
    unfold Stored.allRows Stored.rows at there
    rw [← List.map_append] at there
    rcases List.mem_map.mp there with ⟨insert, _, rfl⟩
    simp only [inConversation, ChatInsert.row, Int32.toInt32_toInt64, Bool.and_eq_true, decide_eq_true_eq] at mine
    rw [ChatInsert.id_row, mine.1]
  rw [own a aThere, own b bThere]

/-- The table, in whatever order its rows came in. -/
theorem Kept.table (kept : Kept stored state) {executed : List Bytes}
    (all : executed.Perm (state.memory.published.map ChatInsert.sql)) :
    (stored.rows ++ executed.filterMap insertRow).Perm (stored.allRows state) := by
  have read : (state.memory.published.map ChatInsert.sql).filterMap insertRow =
      state.memory.published.map ChatInsert.row := by
    rw [List.filterMap_map]
    apply List.filterMap_eq_map_iff_forall_eq_some.mpr
    intro insert member
    rw [Function.comp_apply, insertRow_sql (kept.numbers insert (List.mem_append_right _ member))]
  unfold Stored.allRows
  rw [← read]
  exact List.Perm.append_left _ (all.filterMap insertRow)

theorem restores_iff (kept : Kept stored state) : Restores stored state ↔ TimesTell state := by
  apply Iff.intro
  · intro restores userId sessionId message inMemory other otherInMemory sameTime
    have always : ∀ order, Listing rowKey (stored.allRows state) order →
        (order.filter (inConversation userId sessionId)).map MessageRow.content =
          contents state.memory userId sessionId := by
      intro order listing
      rw [← contents_restarted]
      exact restores _ order (List.Perm.refl _) (listing.of_perm (kept.table (List.Perm.refl _)).symm) userId sessionId
    rw [kept.messages] at inMemory otherInMemory
    rcases List.mem_map.mp inMemory with ⟨a, aThere, rfl⟩
    rcases List.mem_map.mp otherInMemory with ⟨b, bThere, rfl⟩
    have sameKey : rowKey a = rowKey b := by
      unfold rowKey
      rw [show a.ts = b.ts from sameTime, rowKey_conversation aThere bThere]
    exact Listing.content_determined always a aThere b bThere sameKey
  · intro tell executed order all listing userId sessionId
    have mine := (listing.of_perm (kept.table all)).filter (inConversation userId sessionId)
    have inMemory : Listing rowKey ((stored.allRows state).filter (inConversation userId sessionId))
        ((stored.allRows state).filter (inConversation userId sessionId)) := by
      refine ⟨List.Perm.refl _, (kept.timed.filter _).imp_of_mem ?_⟩
      intro a b aThere bThere inTime
      apply Prod.Lex.toLex_le_toLex.mpr
      rcases lt_or_eq_of_le (Int64.le_iff_toInt_le.mp inTime) with below | same
      · exact Or.inl below
      · exact Or.inr ⟨same, le_of_eq (congrArg Int64.toInt (rowKey_conversation aThere bThere))⟩
    rw [contents_restarted, kept.contents]
    refine mine.content_unique inMemory ?_
    intro a aThere b bThere sameKey
    have sameTime : a.ts = b.ts := Int64.toInt_inj.mp (congrArg (fun key => (ofLex key).1) sameKey)
    have told := tell userId sessionId a.message (by rw [kept.messages]; exact List.mem_map_of_mem aThere) b.message
      (by rw [kept.messages]; exact List.mem_map_of_mem bThere) sameTime
    exact told

end

/-- A restart restores every conversation exactly when no two messages of one conversation with the same
    millisecond differ. -/
theorem restart_restores_iff (json : JsonCodec) (stored : Stored) {now : Int64}
    (past : ∀ insert ∈ stored.inserts, insert.ms ≤ now) {run : List ChatCall} {final : Running}
    (ran : (calls json).run (stored.start now) run = some final) : Restores stored final ↔ TimesTell final :=
  restores_iff (System.run_preserves kept_step (kept_start stored past) ran)

theorem Kept.tell {stored : Stored} {state : Running} (kept : Kept stored state)
    (apart : ∀ a ∈ stored.allRows state, ∀ b ∈ stored.allRows state, a.ts = b.ts → a.content = b.content) :
    TimesTell state := by
  intro userId sessionId message inMemory other otherInMemory sameTime
  rw [kept.messages] at inMemory otherInMemory
  rcases List.mem_map.mp inMemory with ⟨a, aThere, rfl⟩
  rcases List.mem_map.mp otherInMemory with ⟨b, bThere, rfl⟩
  exact apart a (List.mem_filter.mp aThere).1 b (List.mem_filter.mp bThere).1 sameTime

/-- A question to the model with tools, which answers without them. -/
def hello (questionMs answerMs : Int64) : ChatCall where
  question := ⟨7, bytes "ada", bytes "5", bytes "hi", bytes "4"⟩
  outside := keyed (.received (bytes "r")) questionMs answerMs
  generated := ⟨5, 0, by decide⟩

def noRows : Stored := ⟨[], nofun, List.Pairwise.nil⟩

theorem hello_restored :
    ∃ final, (calls helloJson).run (noRows.start 0) [hello 5 6] = some final ∧ Restores noRows final := by
  have seen : ((calls helloJson).run (noRows.start 0) [hello 5 6]).map (fun state => state.memory.published) =
      some ((hello 5 6).inserts (bytes "hello")) := by decide
  rcases Option.map_eq_some_iff.mp seen with ⟨final, ran, published⟩
  have past : ∀ insert ∈ noRows.inserts, insert.ms ≤ 0 := nofun
  refine ⟨final, ran, (restart_restores_iff helloJson noRows past ran).mpr ?_⟩
  apply (System.run_preserves kept_step (kept_start noRows past) ran).tell
  have rows : noRows.allRows final = ((hello 5 6).inserts (bytes "hello")).map ChatInsert.row := by
    unfold Stored.allRows
    rw [published]
    rfl
  rw [rows]
  decide

/-- Question and answer of one millisecond can change places. -/
theorem hello_swapped :
    ¬ ∀ (json : JsonCodec) (stored : Stored) (now : Int64) (run : List ChatCall) (final : Running),
      (∀ insert ∈ stored.inserts, insert.ms ≤ now) → (calls json).run (stored.start now) run = some final →
        Restores stored final := by
  intro every
  have seen : ((calls helloJson).run (noRows.start 0) [hello 5 5]).map
      (fun state => (state.memory.helper 7 (bytes "5")).messages) =
        some [⟨bytes "hi", 5, .added true⟩, ⟨bytes "hello", 5, .added false⟩] := by decide
  rcases Option.map_eq_some_iff.mp seen with ⟨final, ran, messages⟩
  have past : ∀ insert ∈ noRows.inserts, insert.ms ≤ 0 := nofun
  have kept := System.run_preserves kept_step (kept_start noRows past) ran
  have tell := (restores_iff kept).mp (every helloJson noRows 0 _ final past ran) 7 (bytes "5")
  rw [messages] at tell
  have same : bytes "hi" = bytes "hello" :=
    tell _ (List.mem_cons_self ..) _ (List.mem_cons_of_mem _ (List.mem_cons_self ..)) rfl
  exact absurd same (by decide)

end Chat
