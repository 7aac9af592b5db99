import HttpServerApps.Chat.Migration
import HttpServerApps.Chat.Overlap
import HttpServerApps.Chat.Publishing
import HttpServerApps.Mq.AtLeastOnce

namespace Chat

open Common Http Mq Sessions

/-! The server, the queue with its workers, and the table `chat_message`. -/

structure Deployment where
  app : Application
  pool : RabbitMQThreadPool
  table : List MessageRow
  /-- The messages that `MQManager::publish` threw for and the queue has not got. -/
  unqueued : List MessageRow := []

/-- A request counts as done when its first message is published: what it publishes more comes while the workers go
    on. -/
inductive DeploymentAction where
  | server (action : ServerAction)
  /-- A request that asks a model, where `MQManager::publish` may throw. -/
  | publishing (arrival : Arrival) (publish : Bool → UpdateAnswer Bytes)
  /-- The queue gets the next message. -/
  | publish
  /-- `executeMysql` for the message that a worker handles. -/
  | execute (id : Nat) (answer : UpdateAnswer Bytes)
  /-- Another step of the workers or of the broker. -/
  | broker (action : Mq.Action)

namespace Deployment

/-- What the worker handles. -/
def statement (state : Deployment) (id : Nat) : Option Bytes :=
  match (state.pool.workers[id]?).map Worker.stage with
  | some (.handling msg) => state.pool.published[msg]?
  | _ => none

def tableAfter (state : Deployment) (id : Nat) (answer : UpdateAnswer Bytes) : List MessageRow :=
  if answer.writes then state.table ++ ((state.statement id).bind insertRow).toList else state.table

/-- The steps that are taken as a `publish` or an `execute`. -/
def isShared : Mq.Action → Bool
  | .publish _ | .handler .. => true
  | _ => false

def step (json : JsonLibrary) (codec : JsonCodec) (state : Deployment) : DeploymentAction → Option Deployment
  | .server action => (serveStep json codec state.app action).map fun app => { state with app }
  | .publishing arrival publish =>
    (afterPublishing (arrival.env json codec) state.app arrival.req publish).map fun (app, missed) =>
      { state with app, unqueued := state.unqueued ++ missed.map ChatInsert.row }
  | .publish => (state.app.memory.published[state.pool.published.length]?).map fun insert =>
    { state with pool := state.pool.publish insert.sql }
  | .execute id answer => (state.pool.step (.handler id answer.outcome)).map fun pool =>
    { state with pool, table := state.tableAfter id answer }
  | .broker action =>
    if isShared action then none else (state.pool.step action).map fun pool => { state with pool }

end Deployment

def remembered (order : List MessageRow) (memory : ChatMemory) : List MessageRow :=
  order ++ memory.published.map ChatInsert.row

/-- The messages of a conversation among the rows. -/
def conversation (userId : Int32) (sessionId : Bytes) (rows : List MessageRow) : List Message :=
  (rows.filter (inConversation userId sessionId)).map MessageRow.message

@[simp] theorem conversation_append (userId : Int32) (sessionId : Bytes) (rows more : List MessageRow) :
    conversation userId sessionId (rows ++ more) =
      conversation userId sessionId rows ++ conversation userId sessionId more := by
  unfold conversation
  rw [List.filter_append, List.map_append]

theorem conversation_perm (userId : Int32) (sessionId : Bytes) {rows same : List MessageRow} (perm : rows.Perm same) :
    (conversation userId sessionId rows).Perm (conversation userId sessionId same) :=
  (perm.filter _).map _

def Remembers (order unqueued : List MessageRow) (memory : ChatMemory) : Prop :=
  ∀ userId sessionId, ((memory.helper userId sessionId).messages.filter Message.isAdded).Perm
    (conversation userId sessionId (remembered order memory ++ unqueued))

section

variable {order unqueued : List MessageRow} {memory : ChatMemory}

/-- The memory after the other one, with what was published meanwhile and what could not be. -/
structure Grows (before after : ChatMemory) (inserts missed : List ChatInsert) : Prop where
  published : after.published = before.published ++ inserts
  messages : ∀ userId sessionId, ((after.helper userId sessionId).messages.filter Message.isAdded).Perm
    ((before.helper userId sessionId).messages.filter Message.isAdded ++
      conversation userId sessionId ((inserts ++ missed).map ChatInsert.row))

theorem Grows.same {before after : ChatMemory} (published : after.published = before.published)
    (helper : ∀ userId sessionId, after.helper userId sessionId = before.helper userId sessionId) :
    Grows before after [] [] := by
  apply Grows.mk
  · rw [published, List.append_nil]
  · intro userId sessionId
    rw [helper]
    exact List.Perm.of_eq (List.append_nil _).symm

theorem Remembers.grows {after : ChatMemory} {inserts missed : List ChatInsert}
    (remembers : Remembers order unqueued memory) (grows : Grows memory after inserts missed) :
    Remembers order (unqueued ++ missed.map ChatInsert.row) after := by
  intro userId sessionId
  have rows : (remembered order memory ++ unqueued ++ (inserts ++ missed).map ChatInsert.row).Perm
      (remembered order after ++ (unqueued ++ missed.map ChatInsert.row)) := by
    unfold remembered
    rw [grows.published, List.map_append, List.map_append]
    have swapped : (unqueued ++ (inserts.map ChatInsert.row ++ missed.map ChatInsert.row)).Perm
        (inserts.map ChatInsert.row ++ (unqueued ++ missed.map ChatInsert.row)) := by
      rw [← List.append_assoc, ← List.append_assoc]
      exact List.perm_append_comm.append_right _
    simp only [List.append_assoc]
    exact (swapped.append_left _).append_left _
  refine (grows.messages userId sessionId).trans ?_
  refine ((remembers userId sessionId).append_right _).trans ?_
  rw [← conversation_append]
  exact conversation_perm userId sessionId rows

end

/-! What the workers handle has been published. -/

namespace Deployment

section

open RabbitMQThreadPool

variable {pool next : RabbitMQThreadPool}

def HandlesPublished (pool : RabbitMQThreadPool) : Prop :=
  ∀ worker ∈ pool.workers, ∀ msg, worker.stage = .handling msg → msg < pool.published.length

theorem unacked_published (conserved : pool.Conserved) {id : Nat} {worker : Worker} {msg : Nat}
    (there : pool.workers[id]? = some worker) (own : worker.unacked = some msg) : msg < pool.published.length := by
  have somewhere := at_iff.mp ⟨.unacked id, At.unacked there own⟩
  exact List.mem_range.mp (conserved.mem_iff.mp somewhere)

theorem consumeMessage_own {id : Nat} {got : Bool} (step : pool.consumeMessage id got = some next) :
    ∃ worker stage, pool.workers[id]? = some worker ∧ (∀ msg, stage = .handling msg → worker.unacked = some msg) ∧
      next = { pool with workers := pool.workers.modify id (·.toStage stage) } := by
  unfold consumeMessage at step
  cases there : pool.workers[id]? with
  | none =>
    rw [there] at step
    cases step
  | some worker =>
    rw [there] at step
    dsimp only at step
    split at step
    case isTrue => cases step
    case isFalse =>
      cases own : worker.unacked with
      | none =>
        rw [own] at step
        cases got with
        | true => cases step
        | false => exact ⟨worker, .looping, rfl, fun _ other => (by cases other), (Option.some.inj step).symm⟩
      | some msg =>
        rw [own] at step
        cases got with
        | true =>
          refine ⟨worker, .handling msg, rfl, ?_, (Option.some.inj step).symm⟩
          intro other same
          cases same
          exact own
        | false => exact ⟨worker, .looping, rfl, fun _ other => (by cases other), (Option.some.inj step).symm⟩

theorem handles_modify (handles : HandlesPublished pool) {id : Nat} {worker : Worker} {change : Worker → Worker}
    (there : pool.workers[id]? = some worker)
    (due : ∀ msg, (change worker).stage = .handling msg → msg < pool.published.length) :
    ∀ other ∈ pool.workers.modify id change, ∀ msg, other.stage = .handling msg → msg < pool.published.length :=
  forall_modify there handles fun _ => due

theorem handles_step {action : Mq.Action} (conserved : pool.Conserved) (handles : HandlesPublished pool)
    (step : pool.step action = some next) : HandlesPublished next := by
  have old : ∀ {id : Nat} {worker : Worker}, pool.workers[id]? = some worker → ∀ msg,
      worker.stage = .handling msg → msg < pool.published.length :=
    fun there => handles _ (List.mem_of_getElem? there)
  cases action with
  | publish msg =>
    cases step
    intro worker member other stage
    have before := handles worker member other stage
    show other < (pool.published ++ [msg]).length
    rw [List.length_append]
    omega
  | start =>
    cases step
    intro worker member msg stage
    rcases List.mem_append.mp member with was | new
    · exact handles worker was msg stage
    · rw [(List.mem_replicate.mp new).2] at stage
      cases stage
  | shutdown =>
    cases step
    exact handles
  | subscribe id =>
    rcases onWorker_some step with ⟨worker, there, _, rfl⟩
    exact handles_modify handles there (by intro msg stage; cases stage)
  | deliver id place =>
    rcases deliver_some step with ⟨worker, msg, there, _, _, rfl⟩
    exact handles_modify handles there fun other stage => old there other stage
  | checkStop id =>
    rcases onWorker_some step with ⟨worker, there, _, rfl⟩
    apply handles_modify handles there
    intro msg stage
    cases stops : pool.stop <;> rw [stops] at stage <;> cases stage
  | consumeMessage id got =>
    rcases consumeMessage_own step with ⟨worker, stage, there, own, rfl⟩
    apply handles_modify handles there
    intro msg same
    exact unacked_published conserved there (own msg same)
  | handler id outcome =>
    cases outcome with
    | ok _ =>
      rcases handlerReturns_some step with ⟨worker, msg, there, _, rfl⟩
      exact handles_modify handles there (by intro other stage; cases stage)
    | error what =>
      rcases closeChannel_some step with ⟨worker, there, _, rfl⟩
      exact handles_modify handles there (by intro other stage; cases stage)
  | ack id =>
    rcases ack_some step with ⟨worker, msg, there, _, _, rfl⟩
    exact handles_modify handles there (by intro other stage; cases stage)
  | cancel id | brokerThrows id =>
    rcases closeChannel_some step with ⟨worker, there, _, rfl⟩
    exact handles_modify handles there (by intro other stage; cases stage)
  | channelLost id =>
    rcases closeChannel_some step with ⟨worker, there, _, rfl⟩
    exact handles_modify handles there fun other stage => old there other stage

end

/-- The queue and its workers, as far as they depend on what has been published. -/
structure Carried (state : Deployment) : Prop where
  sent : state.pool.published <+: state.app.memory.published.map ChatInsert.sql
  handles : HandlesPublished state.pool
  conserved : state.pool.Conserved
  first : state.pool.HandledFirst

theorem Carried.pool {state : Deployment} (carried : Carried state) {action : Mq.Action} {next : RabbitMQThreadPool}
    (step : state.pool.step action = some next)
    (sent : next.published <+: state.app.memory.published.map ChatInsert.sql) (table : List MessageRow) :
    Carried { state with pool := next, table } where
  sent := sent
  handles := handles_step carried.conserved carried.handles step
  conserved := RabbitMQThreadPool.conserved_step step carried.conserved
  first := RabbitMQThreadPool.handledFirst_step step carried.first

/-- `executeMysql` is called for a message that the worker handles. -/
theorem execute_handling {pool next : RabbitMQThreadPool} {id : Nat} {answer : UpdateAnswer Bytes}
    (step : pool.step (.handler id answer.outcome) = some next) :
    ∃ msg, (pool.workers[id]?).map Worker.stage = some (.handling msg) ∧ next.published = pool.published ∧
      ((answer.writes = true ∧ next.handled = pool.handled ++ [msg]) ∨ next.handled = pool.handled) := by
  have failed : ∀ what, pool.step (.handler id (.error what)) = some next →
      ∃ msg, (pool.workers[id]?).map Worker.stage = some (.handling msg) ∧ next.published = pool.published ∧
        next.handled = pool.handled := by
    intro what threw
    rcases RabbitMQThreadPool.closeChannel_some threw with ⟨worker, there, handling, rfl⟩
    unfold RabbitMQThreadPool.isHandling at handling
    split at handling
    case h_1 msg stage =>
      rw [there]
      exact ⟨msg, congrArg some stage, rfl, rfl⟩
    case h_2 => cases handling
  cases answer with
  | done =>
    rcases RabbitMQThreadPool.handlerReturns_some step with ⟨worker, msg, there, stage, rfl⟩
    rw [there]
    exact ⟨msg, congrArg some stage, rfl, Or.inl ⟨rfl, rfl⟩⟩
  | refused what | lost what =>
    rcases failed what step with ⟨msg, handling, published, handled⟩
    exact ⟨msg, handling, published, Or.inr handled⟩

/-! What the table holds, where every session id published is a number. -/

def Numbered (memory : ChatMemory) : Prop := ∀ insert ∈ memory.published, AIHelper.IsNumberText insert.sessionId

/-- The row of a published message. -/
def rowAt (memory : ChatMemory) (msg : Nat) : Option MessageRow := (memory.published[msg]?).map ChatInsert.row

theorem statement_row {state : Deployment} (carried : Carried state) (numbered : Numbered state.app.memory)
    {id msg : Nat} (handling : (state.pool.workers[id]?).map Worker.stage = some (.handling msg)) :
    ∃ row, (state.statement id).bind insertRow = some row ∧ rowAt state.app.memory msg = some row := by
  rcases Option.map_eq_some_iff.mp handling with ⟨worker, there, stage⟩
  have bound := carried.handles worker (List.mem_of_getElem? there) msg stage
  have body := List.getElem?_eq_getElem bound
  have sent : (state.app.memory.published.map ChatInsert.sql)[msg]? = some state.pool.published[msg] := by
    rcases carried.sent with ⟨rest, shape⟩
    rw [← shape, List.getElem?_append_left bound]
    exact body
  rw [List.getElem?_map] at sent
  rcases Option.map_eq_some_iff.mp sent with ⟨insert, published, sql⟩
  refine ⟨insert.row, ?_, ?_⟩
  · unfold statement
    rw [handling]
    dsimp only
    rw [body, Option.bind_some, ← sql]
    exact insertRow_sql (numbered insert (List.mem_of_getElem? published))
  · unfold rowAt
    rw [published]
    rfl

/-- Every row of the table was there at the start or has been published, and what is handled is written. -/
structure Written (rows : List MessageRow) (state : Deployment) : Prop where
  known : ∀ row ∈ state.table, row ∈ remembered rows state.app.memory
  handled : ∀ msg ∈ state.pool.handled, msg < state.app.memory.published.length
  all : (rows ++ state.pool.handled.filterMap (rowAt state.app.memory)).Sublist state.table

theorem remembered_append (rows : List MessageRow) {before after : ChatMemory} {inserts : List ChatInsert}
    (published : after.published = before.published ++ inserts) :
    remembered rows after = remembered rows before ++ inserts.map ChatInsert.row := by
  unfold remembered
  rw [published, List.map_append, List.append_assoc]

theorem Written.grows {rows : List MessageRow} {state : Deployment} {app : Application} {inserts : List ChatInsert}
    (written : Written rows state) (published : app.memory.published = state.app.memory.published ++ inserts) :
    Written rows { state with app } := by
  have same : ∀ msg ∈ state.pool.handled, rowAt app.memory msg = rowAt state.app.memory msg := by
    intro msg member
    unfold rowAt
    rw [published, List.getElem?_append_left (written.handled msg member)]
  apply Written.mk
  · intro row member
    rw [remembered_append rows published]
    exact List.mem_append_left _ (written.known row member)
  · intro msg member
    have before := written.handled msg member
    show msg < app.memory.published.length
    rw [published, List.length_append]
    omega
  · show (rows ++ state.pool.handled.filterMap (rowAt app.memory)).Sublist state.table
    rw [List.filterMap_congr same]
    exact written.all

theorem mem_remembered {rows : List MessageRow} {memory : ChatMemory} {msg : Nat} {row : MessageRow}
    (published : rowAt memory msg = some row) : row ∈ remembered rows memory ∧ msg < memory.published.length := by
  rcases Option.map_eq_some_iff.mp published with ⟨insert, there, rfl⟩
  exact ⟨List.mem_append_right _ (List.mem_map_of_mem (List.mem_of_getElem? there)),
    (List.getElem?_eq_some_iff.mp there).1⟩

theorem Written.execute {rows : List MessageRow} {state : Deployment} {id : Nat} {answer : UpdateAnswer Bytes}
    {pool : RabbitMQThreadPool} (written : Written rows state) (carried : Carried state)
    (numbered : Numbered state.app.memory) (step : state.pool.step (.handler id answer.outcome) = some pool) :
    Written rows { state with pool, table := state.tableAfter id answer } := by
  rcases execute_handling step with ⟨msg, handling, _, handled⟩
  rcases statement_row carried numbered handling with ⟨row, read, published⟩
  rcases @mem_remembered rows state.app.memory msg row published with ⟨mine, bound⟩
  have table : state.tableAfter id answer = if answer.writes then state.table ++ [row] else state.table := by
    unfold tableAfter
    rw [read]
    rfl
  have grown : state.table.Sublist (state.tableAfter id answer) := by
    rw [table]
    split
    · exact List.sublist_append_left _ _
    · exact List.Sublist.refl _
  apply Written.mk
  · intro other member
    have either : other ∈ state.table ∨ other = row := by
      change other ∈ state.tableAfter id answer at member
      rw [table] at member
      split at member
      · rcases List.mem_append.mp member with old | new
        · exact Or.inl old
        · exact Or.inr (List.mem_singleton.mp new)
      · exact Or.inl member
    rcases either with old | rfl
    · exact written.known other old
    · exact mine
  · intro other member
    rcases handled with ⟨_, more⟩ | same
    · change other ∈ pool.handled at member
      rw [more] at member
      rcases List.mem_append.mp member with old | new
      · exact written.handled other old
      · rw [List.mem_singleton.mp new]
        exact bound
    · change other ∈ pool.handled at member
      rw [same] at member
      exact written.handled other member
  · show (rows ++ pool.handled.filterMap (rowAt state.app.memory)).Sublist (state.tableAfter id answer)
    rcases handled with ⟨writes, more⟩ | same
    · have last : [msg].filterMap (rowAt state.app.memory) = [row] := by
        rw [List.filterMap_cons_some published, List.filterMap_nil]
      rw [more, List.filterMap_append, last, ← List.append_assoc, table, if_pos writes]
      exact written.all.append (List.Sublist.refl _)
    · rw [same]
      exact written.all.trans grown

theorem Numbered.before {before after : ChatMemory} {inserts : List ChatInsert}
    (published : after.published = before.published ++ inserts) (numbered : Numbered after) : Numbered before := by
  intro insert member
  apply numbered insert
  rw [published]
  exact List.mem_append_left _ member

/-- What holds in every state of a run. -/
structure Lasting (rows order : List MessageRow) (state : Deployment) : Prop where
  remembers : Remembers order state.unqueued state.app.memory
  carried : Carried state
  written : Numbered state.app.memory → Written rows state

/-- What the server does at once: the queue and the table wait. -/
theorem Lasting.grows {rows order : List MessageRow} {state : Deployment} {app : Application}
    {inserts missed : List ChatInsert} (lasting : Lasting rows order state)
    (grows : Grows state.app.memory app.memory inserts missed) :
    Lasting rows order { state with app, unqueued := state.unqueued ++ missed.map ChatInsert.row } := by
  have sent : state.pool.published <+: app.memory.published.map ChatInsert.sql := by
    rw [grows.published, List.map_append]
    exact lasting.carried.sent.trans (List.prefix_append _ _)
  refine ⟨lasting.remembers.grows grows, ⟨sent, lasting.carried.handles, lasting.carried.conserved,
    lasting.carried.first⟩, ?_⟩
  intro numbered
  have written := (lasting.written (numbered.before grows.published)).grows grows.published
  exact ⟨written.known, written.handled, written.all⟩

def Drained (state : Deployment) : Prop :=
  state.pool.published.length = state.app.memory.published.length ∧ state.pool.queue = [] ∧ state.pool.held = []

theorem filterMap_rowAt (memory : ChatMemory) :
    (List.range memory.published.length).filterMap (rowAt memory) = memory.published.map ChatInsert.row := by
  unfold rowAt
  generalize memory.published = published
  induction published using List.reverseRecOn with
  | nil => rfl
  | append_singleton published insert ih =>
    have before : ∀ msg ∈ List.range published.length, ((published ++ [insert])[msg]?).map ChatInsert.row =
        (published[msg]?).map ChatInsert.row := by
      intro msg member
      rw [List.getElem?_append_left (List.mem_range.mp member)]
    rw [List.length_append, List.length_singleton, List.range_succ, List.filterMap_append,
      List.filterMap_congr before, ih, List.map_append]
    simp

/-- The table holds each row of the start, and each that was published, at least once. -/
theorem Lasting.drained {rows order : List MessageRow} {state : Deployment} (lasting : Lasting rows order state)
    (numbered : Numbered state.app.memory) (drained : Drained state) :
    (remembered rows state.app.memory).Subperm state.table := by
  rcases drained with ⟨sent, queue, held⟩
  have acked := lasting.carried.conserved
  unfold RabbitMQThreadPool.Conserved at acked
  rw [queue, held, List.nil_append, List.nil_append, sent] at acked
  have once : state.pool.acked.Nodup := acked.nodup_iff.mpr List.nodup_range
  rcases List.subperm_of_subset once lasting.carried.first.acked with ⟨handled, same, inside⟩
  have published :
      (handled.filterMap (rowAt state.app.memory)).Perm (state.app.memory.published.map ChatInsert.row) := by
    rw [← filterMap_rowAt]
    exact (same.trans acked).filterMap _
  refine ⟨rows ++ handled.filterMap (rowAt state.app.memory), published.append_left rows, ?_⟩
  have all := (lasting.written numbered).all
  exact ((List.Sublist.refl rows).append (inside.filterMap _)).trans all

end Deployment

end Chat
