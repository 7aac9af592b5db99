import HttpServerApps.Common.Bytes
import HttpServerApps.Common.Places
import HttpServerApps.Common.Runs

namespace Mq

open Common

structure MQManager where
  poolSize : Nat := 5
  counter : UInt64 := 0

def MQManager.publish (manager : MQManager) : Nat × MQManager :=
  (manager.counter.toNat % manager.poolSize, { manager with counter := manager.counter + 1 })

/-- Where a worker is; the messages are numbered as they are published. -/
inductive Stage where
  /-- Before the loop: `Channel::Create`, `DeclareQueue`, `BasicConsume`, `BasicQos`. -/
  | starting
  /-- At `while (!stop_)`. -/
  | looping
  /-- In `BasicConsumeMessage`. -/
  | consuming
  /-- In `handler_`. -/
  | handling (msg : Nat)
  /-- `handler_` has returned, `BasicAck` is next. -/
  | acking (msg : Nat)
  /-- Out of the loop, `BasicCancel` is next. -/
  | cancelling
  | ended
  deriving DecidableEq

/-- A worker with its channel. `BasicQos` lets the broker have one message unacknowledged there. -/
structure Worker where
  stage : Stage := .starting
  /-- Whether it has come to its consume loop. -/
  entered : Bool := false
  channelOpen : Bool := false
  unacked : Option Nat := none

namespace Worker

def toStage (worker : Worker) (stage : Stage) : Worker := { worker with stage := stage }

def subscribe (worker : Worker) : Worker :=
  { worker with stage := .looping, entered := true, channelOpen := true }

def take (msg : Nat) (worker : Worker) : Worker := { worker with unacked := some msg }

def close (worker : Worker) : Worker := { worker with channelOpen := false, unacked := none }

/-- The thread function returns, over its `catch` block or not, and the channel goes. -/
def leave (worker : Worker) : Worker := { worker.close with stage := .ended }

def left (worker : Worker) : Bool := worker.stage = .cancelling || worker.stage = .ended

end Worker

/-- The pool with the broker. The queue is declared, so what is published is queued; `handled` lists the messages
    that `handler_` has returned for. -/
structure RabbitMQThreadPool where
  threadNum : Nat
  stop : Bool := false
  workers : List Worker := []
  manager : MQManager := {}
  published : List Bytes := []
  queue : List Nat := []
  acked : List Nat := []
  handled : List Nat := []

/-- What happens next. The outcome of `handler_` is that of `executeMysql`: it returns, or throws with a text. A call
    of a worker to the broker may throw, and the broker may drop a channel. -/
inductive Action where
  | publish (msg : Bytes)
  | start
  | shutdown
  | subscribe (id : Nat)
  | deliver (id place : Nat)
  | checkStop (id : Nat)
  | consumeMessage (id : Nat) (got : Bool)
  | handler (id : Nat) (outcome : Except Bytes Unit)
  | ack (id : Nat)
  | cancel (id : Nat)
  | brokerThrows (id : Nat)
  | channelLost (id : Nat)

namespace RabbitMQThreadPool

def publish (pool : RabbitMQThreadPool) (msg : Bytes) : RabbitMQThreadPool :=
  { pool with
    manager := pool.manager.publish.2
    published := pool.published ++ [msg]
    queue := pool.queue ++ [pool.published.length] }

def start (pool : RabbitMQThreadPool) : RabbitMQThreadPool :=
  { pool with workers := pool.workers ++ List.replicate pool.threadNum {} }

def shutdown (pool : RabbitMQThreadPool) : RabbitMQThreadPool := { pool with stop := true }

def onWorker (pool : RabbitMQThreadPool) (id : Nat) (ready : Worker → Bool) (change : Worker → Worker) :
    Option RabbitMQThreadPool :=
  match pool.workers[id]? with
  | some worker => if ready worker then some { pool with workers := pool.workers.modify id change } else none
  | none => none

/-- The channel closes, and the message that is not acknowledged goes back to the queue. -/
def closeChannel (pool : RabbitMQThreadPool) (id : Nat) (ready : Worker → Bool) (change : Worker → Worker) :
    Option RabbitMQThreadPool :=
  match pool.workers[id]? with
  | some worker =>
    if ready worker then
      some { pool with
        workers := pool.workers.modify id change
        queue := worker.unacked.toList ++ pool.queue }
    else none
  | none => none

def deliver (pool : RabbitMQThreadPool) (id place : Nat) : Option RabbitMQThreadPool :=
  match pool.workers[id]?, pool.queue[place]? with
  | some worker, some msg =>
    if worker.channelOpen && worker.unacked.isNone then
      some { pool with workers := pool.workers.modify id (.take msg), queue := pool.queue.eraseIdx place }
    else none
  | _, _ => none

/-- `BasicConsumeMessage` comes back with the message that was delivered, or without one after 500 ms. -/
def consumeMessage (pool : RabbitMQThreadPool) (id : Nat) (got : Bool) : Option RabbitMQThreadPool :=
  match pool.workers[id]? with
  | some worker =>
    if worker.stage ≠ .consuming then none
    else
      match got, worker.unacked with
      | true, some msg => some { pool with workers := pool.workers.modify id (·.toStage (.handling msg)) }
      | true, none => none
      | false, _ => some { pool with workers := pool.workers.modify id (·.toStage .looping) }
  | none => none

def handlerReturns (pool : RabbitMQThreadPool) (id : Nat) : Option RabbitMQThreadPool :=
  match (pool.workers[id]?).map Worker.stage with
  | some (.handling msg) =>
    some { pool with
      workers := pool.workers.modify id (·.toStage (.acking msg))
      handled := pool.handled ++ [msg] }
  | _ => none

def isHandling (worker : Worker) : Bool :=
  match worker.stage with
  | .handling _ => true
  | _ => false

def ack (pool : RabbitMQThreadPool) (id : Nat) : Option RabbitMQThreadPool :=
  match pool.workers[id]? with
  | some worker =>
    match worker.stage, worker.unacked with
    | .acking msg, some delivered =>
      if delivered = msg then
        some { pool with
          workers := pool.workers.modify id fun worker => { worker with stage := .looping, unacked := none }
          acked := pool.acked ++ [msg] }
      else none
    | _, _ => none
  | none => none

/-- The stages in which a worker has called the broker. -/
def inBrokerCall (worker : Worker) : Bool :=
  match worker.stage with
  | .starting | .consuming | .acking _ | .cancelling => true
  | _ => false

def step (pool : RabbitMQThreadPool) : Action → Option RabbitMQThreadPool
  | .publish msg => some (pool.publish msg)
  | .start => some pool.start
  | .shutdown => some pool.shutdown
  | .subscribe id => pool.onWorker id (·.stage = .starting) Worker.subscribe
  | .deliver id place => pool.deliver id place
  | .checkStop id =>
    pool.onWorker id (·.stage = .looping) (·.toStage (if pool.stop then .cancelling else .consuming))
  | .consumeMessage id got => pool.consumeMessage id got
  | .handler id (.ok ()) => pool.handlerReturns id
  -- The `try` block is around the loop: a throw of `handler_` leaves it.
  | .handler id (.error _) => pool.closeChannel id isHandling Worker.leave
  | .ack id => pool.ack id
  | .cancel id => pool.closeChannel id (·.stage = .cancelling) Worker.leave
  | .brokerThrows id => pool.closeChannel id inBrokerCall Worker.leave
  | .channelLost id => pool.closeChannel id Worker.channelOpen Worker.close

end RabbitMQThreadPool

def threadPools : System RabbitMQThreadPool Action := ⟨RabbitMQThreadPool.step⟩

theorem MQManager.publish_index (manager : MQManager) (filled : 0 < manager.poolSize) :
    manager.publish.1 < manager.poolSize := Nat.mod_lt _ filled

namespace RabbitMQThreadPool

variable {pool next : RabbitMQThreadPool}

/-! What the steps of a worker do. -/

theorem onWorker_some {id : Nat} {ready : Worker → Bool} {change : Worker → Worker}
    (step : pool.onWorker id ready change = some next) :
    ∃ worker, pool.workers[id]? = some worker ∧ ready worker = true ∧
      next = { pool with workers := pool.workers.modify id change } := by
  unfold onWorker at step
  split at step
  · rename_i worker there
    split at step
    · rename_i good
      exact ⟨worker, there, good, (Option.some.inj step).symm⟩
    · cases step
  · cases step

theorem closeChannel_some {id : Nat} {ready : Worker → Bool} {change : Worker → Worker}
    (step : pool.closeChannel id ready change = some next) :
    ∃ worker, pool.workers[id]? = some worker ∧ ready worker = true ∧
      next = { pool with
        workers := pool.workers.modify id change
        queue := worker.unacked.toList ++ pool.queue } := by
  unfold closeChannel at step
  split at step
  · rename_i worker there
    split at step
    · rename_i good
      exact ⟨worker, there, good, (Option.some.inj step).symm⟩
    · cases step
  · cases step

theorem deliver_some {id place : Nat} (step : pool.deliver id place = some next) :
    ∃ worker msg, pool.workers[id]? = some worker ∧ pool.queue[place]? = some msg ∧ worker.unacked = none ∧
      next = { pool with workers := pool.workers.modify id (.take msg), queue := pool.queue.eraseIdx place } := by
  unfold deliver at step
  split at step
  · rename_i worker msg there queued
    split at step
    · rename_i free
      rw [Bool.and_eq_true, Option.isNone_iff_eq_none] at free
      exact ⟨worker, msg, there, queued, free.2, (Option.some.inj step).symm⟩
    · cases step
  · cases step

theorem consumeMessage_some {id : Nat} {got : Bool} (step : pool.consumeMessage id got = some next) :
    ∃ worker stage, pool.workers[id]? = some worker ∧ worker.stage = .consuming ∧
      ((∃ msg, stage = .handling msg) ∨ stage = .looping) ∧
      next = { pool with workers := pool.workers.modify id (·.toStage stage) } := by
  unfold consumeMessage at step
  split at step
  · rename_i worker there
    split at step
    · cases step
    · rename_i consuming
      have at_ : worker.stage = .consuming := Decidable.not_not.mp consuming
      split at step
      · rename_i msg _
        exact ⟨worker, .handling msg, there, at_, Or.inl ⟨msg, rfl⟩, (Option.some.inj step).symm⟩
      · cases step
      · exact ⟨worker, .looping, there, at_, Or.inr rfl, (Option.some.inj step).symm⟩
  · cases step

theorem handlerReturns_some {id : Nat} (step : pool.handlerReturns id = some next) :
    ∃ worker msg, pool.workers[id]? = some worker ∧ worker.stage = .handling msg ∧
      next = { pool with
        workers := pool.workers.modify id (·.toStage (.acking msg))
        handled := pool.handled ++ [msg] } := by
  unfold handlerReturns at step
  split at step
  · rename_i msg handling
    rcases Option.map_eq_some_iff.mp handling with ⟨worker, there, stage⟩
    exact ⟨worker, msg, there, stage, (Option.some.inj step).symm⟩
  · cases step

theorem ack_some {id : Nat} (step : pool.ack id = some next) :
    ∃ worker msg, pool.workers[id]? = some worker ∧ worker.stage = .acking msg ∧ worker.unacked = some msg ∧
      next = { pool with
        workers := pool.workers.modify id fun worker => { worker with stage := .looping, unacked := none }
        acked := pool.acked ++ [msg] } := by
  unfold ack at step
  split at step
  · rename_i worker there
    split at step
    · rename_i msg delivered stage unacked
      split at step
      · rename_i same
        rw [same] at unacked
        exact ⟨worker, msg, there, stage, unacked, (Option.some.inj step).symm⟩
      · cases step
    · cases step
  · cases step

end RabbitMQThreadPool

end Mq
