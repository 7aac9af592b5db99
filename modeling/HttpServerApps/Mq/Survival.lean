import HttpServerApps.Mq.ThreadPool

namespace Mq

open Common

namespace RabbitMQThreadPool

/-- A worker that has come to its loop has left it only after `stop_` was set. -/
def NoneLost (pool : RabbitMQThreadPool) : Prop :=
  ∀ worker ∈ pool.workers, worker.entered = true → worker.left = true → pool.stop = true

/-- No call to the broker fails. -/
def BrokerOk (_ : RabbitMQThreadPool) : Action → Prop
  | .brokerThrows _ | .channelLost _ => False
  | _ => True

/-- A call of `handler_` throws only after `stop_` was set. -/
def HandlerOk (pool : RabbitMQThreadPool) : Action → Prop
  | .handler _ (.error _) => pool.stop = true
  | _ => True

instance (pool : RabbitMQThreadPool) : (action : Action) → Decidable (pool.BrokerOk action)
  | .brokerThrows _ | .channelLost _ => isFalse id
  | .publish _ | .start | .shutdown | .subscribe _ | .deliver .. | .checkStop _ | .consumeMessage .. | .handler ..
  | .ack _ | .cancel _ => isTrue trivial

instance (pool : RabbitMQThreadPool) : (action : Action) → Decidable (pool.HandlerOk action)
  | .handler _ (.error _) => inferInstanceAs (Decidable (pool.stop = true))
  | .handler _ (.ok _) | .publish _ | .start | .shutdown | .subscribe _ | .deliver .. | .checkStop _
  | .consumeMessage .. | .ack _ | .cancel _ | .brokerThrows _ | .channelLost _ => isTrue trivial

/-- Between its start and its end a worker has come to its loop. -/
def InLoop (worker : Worker) : Prop :=
  worker.stage ≠ .starting → worker.stage ≠ .ended → worker.entered = true

variable {pool next : RabbitMQThreadPool}

theorem inLoop_step {action : Action} (step : threadPools.step pool action = some next)
    (all : ∀ worker ∈ pool.workers, InLoop worker) : ∀ worker ∈ next.workers, InLoop worker := by
  cases action with
  | publish msg =>
    cases step
    exact all
  | start =>
    cases step
    intro worker member
    rcases List.mem_append.mp member with old | new
    · exact all worker old
    · rw [(List.mem_replicate.mp new).2]
      exact fun started => absurd rfl started
  | shutdown =>
    cases step
    exact all
  | subscribe id =>
    rcases onWorker_some step with ⟨worker, there, _, rfl⟩
    exact forall_modify there all fun _ _ _ => rfl
  | deliver id place =>
    rcases deliver_some step with ⟨worker, msg, there, _, _, rfl⟩
    exact forall_modify there all fun held => held
  | checkStop id =>
    rcases onWorker_some step with ⟨worker, there, looping, rfl⟩
    have stage : worker.stage = .looping := of_decide_eq_true looping
    exact forall_modify there all fun held _ _ => held (by rw [stage]; nofun) (by rw [stage]; nofun)
  | consumeMessage id got =>
    rcases consumeMessage_some step with ⟨worker, after, there, stage, _, rfl⟩
    exact forall_modify there all fun held _ _ => held (by rw [stage]; nofun) (by rw [stage]; nofun)
  | handler id outcome =>
    cases outcome with
    | ok _ =>
      rcases handlerReturns_some step with ⟨worker, msg, there, stage, rfl⟩
      exact forall_modify there all fun held _ _ => held (by rw [stage]; nofun) (by rw [stage]; nofun)
    | error what =>
      rcases closeChannel_some step with ⟨worker, there, _, rfl⟩
      exact forall_modify there all fun _ _ open_ => absurd rfl open_
  | ack id =>
    rcases ack_some step with ⟨worker, msg, there, stage, _, rfl⟩
    exact forall_modify there all fun held _ _ => held (by rw [stage]; nofun) (by rw [stage]; nofun)
  | cancel id =>
    rcases closeChannel_some step with ⟨worker, there, _, rfl⟩
    exact forall_modify there all fun _ _ open_ => absurd rfl open_
  | brokerThrows id =>
    rcases closeChannel_some step with ⟨worker, there, _, rfl⟩
    exact forall_modify there all fun _ _ open_ => absurd rfl open_
  | channelLost id =>
    rcases closeChannel_some step with ⟨worker, there, _, rfl⟩
    exact forall_modify there all fun held => held

theorem isHandling_some {worker : Worker} (handling : isHandling worker = true) :
    ∃ msg, worker.stage = .handling msg := by
  unfold isHandling at handling
  split at handling
  · rename_i msg stage
    exact ⟨msg, stage⟩
  · cases handling

/-- Only a throw of the handler makes a worker leave that was not told to stop. -/
theorem noneLost_step {action : Action} (step : threadPools.step pool action = some next)
    (all : ∀ worker ∈ pool.workers, InLoop worker) (broker : pool.BrokerOk action) (none_ : pool.NoneLost) :
    next.NoneLost ↔ pool.HandlerOk action := by
  cases action with
  | publish msg =>
    cases step
    exact iff_of_true none_ trivial
  | start =>
    cases step
    apply iff_of_true _ trivial
    intro worker member entered
    rcases List.mem_append.mp member with old | new
    · exact none_ worker old entered
    · rw [(List.mem_replicate.mp new).2] at entered
      cases entered
  | shutdown =>
    cases step
    exact iff_of_true (fun _ _ _ _ => rfl) trivial
  | subscribe id =>
    rcases onWorker_some step with ⟨worker, there, _, rfl⟩
    exact iff_of_true (forall_modify there none_ fun _ => nofun) trivial
  | deliver id place =>
    rcases deliver_some step with ⟨worker, msg, there, _, _, rfl⟩
    exact iff_of_true (forall_modify there none_ fun held => held) trivial
  | checkStop id =>
    rcases onWorker_some step with ⟨worker, there, _, rfl⟩
    apply iff_of_true _ trivial
    apply forall_modify there none_
    intro _ _ left
    cases stop : pool.stop with
    | true => rfl
    | false =>
      rw [stop] at left
      cases left
  | consumeMessage id got =>
    rcases consumeMessage_some step with ⟨worker, stage, there, _, goes, rfl⟩
    apply iff_of_true _ trivial
    apply forall_modify there none_
    intro _ _ left
    rcases goes with ⟨msg, rfl⟩ | rfl
    · cases left
    · cases left
  | handler id outcome =>
    cases outcome with
    | ok _ =>
      rcases handlerReturns_some step with ⟨worker, msg, there, _, rfl⟩
      exact iff_of_true (forall_modify there none_ fun _ _ => nofun) trivial
    | error what =>
      rcases closeChannel_some step with ⟨worker, there, handling, rfl⟩
      rcases isHandling_some handling with ⟨msg, stage⟩
      have entered := all worker (List.mem_of_getElem? there) (by rw [stage]; nofun) (by rw [stage]; nofun)
      apply Iff.intro
      · intro survives
        have gone : worker.leave ∈ pool.workers.modify id Worker.leave :=
          List.mem_of_getElem? (getElem?_modify_self there Worker.leave)
        exact survives worker.leave gone entered rfl
      · exact fun stop => forall_modify there none_ fun _ _ _ => stop
  | ack id =>
    rcases ack_some step with ⟨worker, msg, there, _, _, rfl⟩
    exact iff_of_true (forall_modify there none_ fun _ _ => nofun) trivial
  | cancel id =>
    rcases closeChannel_some step with ⟨worker, there, cancelling, rfl⟩
    have left : worker.left = true := by
      rw [Worker.left, cancelling, Bool.true_or]
    exact iff_of_true (forall_modify there none_ fun held entered _ => held entered left) trivial
  | brokerThrows id => exact broker.elim
  | channelLost id => exact broker.elim

/-- While the broker answers, no consumer leaves its loop before `stop_` is set in exactly the runs in which the handler
    does not throw before that. -/
theorem noneLost_iff (threadNum : Nat) (actions : List Action) (pool : RabbitMQThreadPool)
    (run : threadPools.run { threadNum := threadNum } actions = some pool)
    (broker : threadPools.Everywhere BrokerOk { threadNum := threadNum } actions) :
    threadPools.Always NoneLost { threadNum := threadNum } actions ↔
      threadPools.Everywhere HandlerOk { threadNum := threadNum } actions := by
  apply @System.always_iff_everywhere_allowed _ _ _ (fun pool => ∀ worker ∈ pool.workers, InLoop worker) NoneLost
    BrokerOk HandlerOk _ _ _ _ _ _ _ run broker
  · exact fun _ _ _ step all _ => inLoop_step step all
  · exact fun _ _ _ step all broker none_ => noneLost_step step all broker none_
  · nofun
  · nofun

/-- One message that is handled, between the start and the end of the only worker. -/
def handledMessage : List Action :=
  [.start, .subscribe 0, .publish (bytes "DELETE FROM t"), .deliver 0 0, .checkStop 0, .consumeMessage 0 true,
    .handler 0 (.ok ()), .ack 0, .shutdown, .checkStop 0, .cancel 0]

theorem handledMessage_noneLost : threadPools.Always NoneLost { threadNum := 1 } handledMessage := by
  have ends : (threadPools.run { threadNum := 1 } handledMessage).isSome = true := by decide
  rcases Option.isSome_iff_exists.mp ends with ⟨pool, run⟩
  exact (noneLost_iff 1 handledMessage pool run (System.everywhere_of_meets (by decide))).mpr
    (System.everywhere_of_meets (by decide))

/-- The INSERT of a message whose session id, which is not quoted, is the word abc. -/
def poison : Bytes :=
  bytes "INSERT INTO chat_message (id, username, session_id, is_user, content, ts) VALUES (7, 'ann', abc, 1, 'hi', 0)"

def rejected : Except Bytes Unit := .error (bytes "Unknown column 'abc' in 'field list'")

/-- Each of the two workers gets the message, fails on it and hands it on. -/
def poisoned : List Action :=
  [.start, .subscribe 0, .subscribe 1, .publish poison,
    .deliver 0 0, .checkStop 0, .consumeMessage 0 true, .handler 0 rejected,
    .deliver 1 0, .checkStop 1, .consumeMessage 1 true, .handler 1 rejected]

theorem poisoned_lost :
    ¬ ∀ (threadNum : Nat) (actions : List Action) (pool : RabbitMQThreadPool),
      threadPools.run { threadNum := threadNum } actions = some pool →
      threadPools.Everywhere BrokerOk { threadNum := threadNum } actions → NoneLost pool := by
  intro claimed
  have ends : (threadPools.run { threadNum := 2 } poisoned).isSome = true := by decide
  rcases Option.isSome_iff_exists.mp ends with ⟨pool, run⟩
  have none_ := claimed 2 poisoned pool run (System.everywhere_of_meets (by decide))
  have gone : (threadPools.run { threadNum := 2 } poisoned).map (fun pool =>
      (pool.stop, pool.workers.map fun worker => (worker.entered, worker.left))) =
      some (false, [(true, true), (true, true)]) := by decide
  rw [run] at gone
  cases shape : pool.workers with
  | nil => simp [shape] at gone
  | cons worker workers =>
    simp only [Option.map_some, shape, List.map_cons, Option.some.injEq, Prod.mk.injEq, List.cons.injEq] at gone
    have stop := none_ worker (by rw [shape]; exact List.mem_cons_self ..) gone.2.1.1 gone.2.1.2
    rw [gone.1] at stop
    cases stop

end RabbitMQThreadPool

end Mq
