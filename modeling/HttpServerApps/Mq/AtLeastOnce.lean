import HttpServerApps.Mq.ThreadPool
import Mathlib.Data.List.Perm.Basic
import Mathlib.Data.List.Range

namespace Mq

open Common

/-- Where a published message can be. -/
inductive Custody where
  | queued
  | unacked (worker : Nat)
  | acked

namespace RabbitMQThreadPool

variable {pool next : RabbitMQThreadPool}

def held (pool : RabbitMQThreadPool) : List Nat := pool.workers.filterMap Worker.unacked

inductive At (pool : RabbitMQThreadPool) (msg : Nat) : Custody → Prop where
  | queued (member : msg ∈ pool.queue) : At pool msg .queued
  | unacked {id : Nat} {worker : Worker} (there : pool.workers[id]? = some worker) (own : worker.unacked = some msg) :
      At pool msg (.unacked id)
  | acked (member : msg ∈ pool.acked) : At pool msg .acked

/-- The messages in the queue, at the workers and acknowledged together are the published ones. -/
def Conserved (pool : RabbitMQThreadPool) : Prop :=
  (pool.queue ++ (pool.held ++ pool.acked)).Perm (List.range pool.published.length)

theorem conserved_same (kept : pool.Conserved) {id : Nat} {worker : Worker} {change : Worker → Worker}
    (there : pool.workers[id]? = some worker) (same : (change worker).unacked = worker.unacked) :
    ({ pool with workers := pool.workers.modify id change } : RabbitMQThreadPool).Conserved := by
  unfold Conserved held
  dsimp only
  rw [filterMap_modify_same there same]
  exact kept

theorem conserved_publish (kept : pool.Conserved) (msg : Bytes) : (pool.publish msg).Conserved := by
  unfold Conserved publish held
  dsimp only
  rw [List.length_append, List.length_singleton, List.range_succ]
  have moved : (pool.queue ++ [pool.published.length] ++ (pool.workers.filterMap Worker.unacked ++ pool.acked)).Perm
      (pool.queue ++ (pool.workers.filterMap Worker.unacked ++ pool.acked) ++ [pool.published.length]) := by
    rw [List.append_assoc, List.append_assoc]
    exact List.perm_append_comm.append_left _
  exact moved.trans (kept.append_right _)

theorem conserved_start (kept : pool.Conserved) : pool.start.Conserved := by
  have nothing : (List.replicate pool.threadNum ({} : Worker)).filterMap Worker.unacked = [] := by
    rw [List.filterMap_replicate_of_none rfl]
  unfold Conserved start held
  dsimp only
  rw [List.filterMap_append, nothing, List.append_nil]
  exact kept

theorem conserved_deliver (kept : pool.Conserved) {id place : Nat} (step : pool.deliver id place = some next) :
    next.Conserved := by
  rcases deliver_some step with ⟨worker, msg, there, queued, free, rfl⟩
  have gained := @filterMap_modify_gain _ _ Worker.unacked _ _ (.take msg) _ _ there free rfl
  rcases List.getElem?_eq_some_iff.mp queued with ⟨inside, same⟩
  have taken : pool.queue.Perm (msg :: pool.queue.eraseIdx place) := by
    rw [← same]
    exact (List.getElem_cons_eraseIdx_perm inside).symm
  unfold Conserved held
  dsimp only
  have moved : (pool.queue.eraseIdx place ++ ((pool.workers.modify id (.take msg)).filterMap Worker.unacked ++
      pool.acked)).Perm (pool.queue.eraseIdx place ++ (msg :: (pool.held ++ pool.acked))) :=
    (gained.append_right pool.acked).append_left _
  exact (moved.trans List.perm_middle).trans ((taken.symm.append_right _).trans kept)

theorem conserved_ack (kept : pool.Conserved) {id : Nat} (step : pool.ack id = some next) : next.Conserved := by
  rcases ack_some step with ⟨worker, msg, there, _, own, rfl⟩
  have dropped := @filterMap_modify_drop _ _ Worker.unacked _ _
    (fun worker => { worker with stage := .looping, unacked := none }) _ _ there own rfl
  unfold Conserved held
  dsimp only
  rw [← List.append_assoc (List.filterMap _ _)]
  have moved := (List.perm_append_singleton msg
    ((pool.workers.modify id fun worker => { worker with stage := .looping, unacked := none }).filterMap
      Worker.unacked ++ pool.acked)).trans (dropped.symm.append_right pool.acked)
  exact (moved.append_left pool.queue).trans kept

theorem conserved_closeChannel (kept : pool.Conserved) {id : Nat} {ready : Worker → Bool} {change : Worker → Worker}
    (closes : ∀ worker, (change worker).unacked = none) (step : pool.closeChannel id ready change = some next) :
    next.Conserved := by
  rcases closeChannel_some step with ⟨worker, there, _, rfl⟩
  cases own : worker.unacked with
  | none => exact conserved_same kept there ((closes worker).trans own.symm)
  | some msg =>
    have dropped := @filterMap_modify_drop _ _ Worker.unacked _ _ change _ _ there own (closes worker)
    unfold Conserved held
    dsimp only
    have back : ((some msg).toList ++ pool.queue ++
        ((pool.workers.modify id change).filterMap Worker.unacked ++ pool.acked)).Perm
        (pool.queue ++ (msg :: ((pool.workers.modify id change).filterMap Worker.unacked ++ pool.acked))) :=
      List.perm_middle.symm
    exact back.trans (((dropped.symm.append_right pool.acked).append_left pool.queue).trans kept)

theorem conserved_step {action : Action} (step : threadPools.step pool action = some next) (kept : pool.Conserved) :
    next.Conserved := by
  cases action with
  | publish msg =>
    cases step
    exact conserved_publish kept msg
  | start =>
    cases step
    exact conserved_start kept
  | shutdown =>
    cases step
    exact kept
  | subscribe id =>
    rcases onWorker_some step with ⟨worker, there, _, rfl⟩
    exact conserved_same kept there rfl
  | deliver id place => exact conserved_deliver kept step
  | checkStop id =>
    rcases onWorker_some step with ⟨worker, there, _, rfl⟩
    exact conserved_same kept there rfl
  | consumeMessage id got =>
    rcases consumeMessage_some step with ⟨worker, stage, there, _, _, rfl⟩
    exact conserved_same kept there rfl
  | handler id outcome =>
    cases outcome with
    | ok _ =>
      rcases handlerReturns_some step with ⟨worker, msg, there, _, rfl⟩
      exact conserved_same kept there rfl
    | error what => exact conserved_closeChannel kept (fun _ => rfl) step
  | ack id => exact conserved_ack kept step
  | cancel id => exact conserved_closeChannel kept (fun _ => rfl) step
  | brokerThrows id => exact conserved_closeChannel kept (fun _ => rfl) step
  | channelLost id => exact conserved_closeChannel kept (fun _ => rfl) step

/-! What is acknowledged has been handled. -/

structure HandledFirst (pool : RabbitMQThreadPool) : Prop where
  acking : ∀ worker ∈ pool.workers, ∀ msg, worker.stage = .acking msg → msg ∈ pool.handled
  acked : ∀ msg ∈ pool.acked, msg ∈ pool.handled

theorem handledFirst_modify {id : Nat} {worker : Worker} {change : Worker → Worker} (first : pool.HandledFirst)
    (there : pool.workers[id]? = some worker) (handled : List Nat) (more : ∀ msg ∈ pool.handled, msg ∈ handled)
    (due : ∀ msg, (change worker).stage = .acking msg → msg ∈ handled) :
    ∀ other ∈ pool.workers.modify id change, ∀ msg, other.stage = .acking msg → msg ∈ handled := by
  have before : ∀ other ∈ pool.workers, ∀ msg, other.stage = .acking msg → msg ∈ handled :=
    fun other member msg stage => more msg (first.acking other member msg stage)
  exact forall_modify there before fun _ => due

theorem handledFirst_onWorker {id : Nat} {ready : Worker → Bool} {change : Worker → Worker} (first : pool.HandledFirst)
    (step : pool.onWorker id ready change = some next)
    (other : ∀ worker msg, ready worker = true → (change worker).stage ≠ .acking msg) : next.HandledFirst := by
  rcases onWorker_some step with ⟨worker, there, good, rfl⟩
  have due : ∀ msg, (change worker).stage = .acking msg → msg ∈ pool.handled := fun msg stage =>
    absurd stage (other worker msg good)
  exact ⟨handledFirst_modify first there _ (fun _ member => member) due, first.acked⟩

theorem handledFirst_closeChannel {id : Nat} {ready : Worker → Bool} {change : Worker → Worker}
    (first : pool.HandledFirst) (step : pool.closeChannel id ready change = some next)
    (was : ∀ worker msg, (change worker).stage = .acking msg → worker.stage = .acking msg) : next.HandledFirst := by
  rcases closeChannel_some step with ⟨worker, there, _, rfl⟩
  have due : ∀ msg, (change worker).stage = .acking msg → msg ∈ pool.handled := fun msg stage =>
    first.acking worker (List.mem_of_getElem? there) msg (was worker msg stage)
  exact ⟨handledFirst_modify first there _ (fun _ member => member) due, first.acked⟩

theorem handledFirst_step {action : Action} (step : threadPools.step pool action = some next)
    (first : pool.HandledFirst) : next.HandledFirst := by
  have keeps : ∀ msg ∈ pool.handled, msg ∈ pool.handled := fun _ member => member
  have leaves : ∀ worker msg, (Worker.leave worker).stage = .acking msg → worker.stage = .acking msg := nofun
  cases action with
  | publish msg =>
    cases step
    exact ⟨first.acking, first.acked⟩
  | start =>
    cases step
    apply HandledFirst.mk
    · intro worker member msg stage
      rcases List.mem_append.mp member with old | new
      · exact first.acking worker old msg stage
      · rw [(List.mem_replicate.mp new).2] at stage
        cases stage
    · exact first.acked
  | shutdown =>
    cases step
    exact ⟨first.acking, first.acked⟩
  | subscribe id => exact handledFirst_onWorker first step nofun
  | deliver id place =>
    rcases deliver_some step with ⟨worker, msg, there, _, _, rfl⟩
    have due : ∀ other, (worker.take msg).stage = .acking other → other ∈ pool.handled := fun other stage =>
      first.acking worker (List.mem_of_getElem? there) other stage
    exact ⟨handledFirst_modify first there _ keeps due, first.acked⟩
  | checkStop id =>
    apply handledFirst_onWorker first step
    intro worker msg _
    cases pool.stop <;> nofun
  | consumeMessage id got =>
    rcases consumeMessage_some step with ⟨worker, stage, there, _, goes, rfl⟩
    have due : ∀ msg, (worker.toStage stage).stage = .acking msg → msg ∈ pool.handled := by
      intro msg acking
      rcases goes with ⟨other, rfl⟩ | rfl
      · cases acking
      · cases acking
    exact ⟨handledFirst_modify first there _ keeps due, first.acked⟩
  | handler id outcome =>
    cases outcome with
    | ok _ =>
      rcases handlerReturns_some step with ⟨worker, msg, there, _, rfl⟩
      have more : ∀ other ∈ pool.handled, other ∈ pool.handled ++ [msg] := fun other member =>
        List.mem_append_left _ member
      have due : ∀ other, (worker.toStage (.acking msg)).stage = .acking other → other ∈ pool.handled ++ [msg] := by
        intro other acking
        cases acking
        exact List.mem_append_right _ (List.mem_singleton_self _)
      exact ⟨handledFirst_modify first there _ more due, fun other member => more other (first.acked other member)⟩
    | error what => exact handledFirst_closeChannel first step leaves
  | ack id =>
    rcases ack_some step with ⟨worker, msg, there, stage, _, rfl⟩
    have handled := first.acking worker (List.mem_of_getElem? there) msg stage
    apply HandledFirst.mk
    · exact handledFirst_modify first there _ keeps nofun
    · intro other member
      rcases List.mem_append.mp member with old | new
      · exact first.acked other old
      · rw [List.mem_singleton.mp new]
        exact handled
  | cancel id => exact handledFirst_closeChannel first step leaves
  | brokerThrows id => exact handledFirst_closeChannel first step leaves
  | channelLost id => exact handledFirst_closeChannel first step fun worker msg stage => stage

theorem at_iff {msg : Nat} :
    (∃ custody, pool.At msg custody) ↔ msg ∈ pool.queue ++ (pool.held ++ pool.acked) := by
  rw [List.mem_append, List.mem_append, held, List.mem_filterMap]
  apply Iff.intro
  · rintro ⟨custody, here⟩
    cases here with
    | queued member => exact Or.inl member
    | unacked there own => exact Or.inr (Or.inl ⟨_, List.mem_of_getElem? there, own⟩)
    | acked member => exact Or.inr (Or.inr member)
  · rintro (queued | ⟨worker, member, own⟩ | acked)
    · exact ⟨.queued, .queued queued⟩
    · rcases List.getElem?_of_mem member with ⟨id, there⟩
      exact ⟨.unacked id, .unacked there own⟩
    · exact ⟨.acked, .acked acked⟩

theorem at_unique (once : (pool.queue ++ (pool.held ++ pool.acked)).Nodup) {msg : Nat} {custody other : Custody}
    (here : pool.At msg custody) (there : pool.At msg other) : custody = other := by
  rcases List.nodup_append.mp once with ⟨_, rest, apart⟩
  rcases List.nodup_append.mp rest with ⟨heldOnce, _, settled⟩
  have notQueued : ∀ {msg}, msg ∈ pool.queue → msg ∉ pool.held ++ pool.acked :=
    fun member behind => apart _ member _ behind rfl
  have inHeld : ∀ {id : Nat} {worker : Worker} {msg : Nat}, pool.workers[id]? = some worker →
      worker.unacked = some msg → msg ∈ pool.held := fun found own => mem_filterMap_place found own
  cases here with
  | queued member =>
    cases there with
    | queued => rfl
    | unacked found own => exact absurd (List.mem_append_left _ (inHeld found own)) (notQueued member)
    | acked done => exact absurd (List.mem_append_right _ done) (notQueued member)
  | unacked found own =>
    cases there with
    | queued member => exact absurd (List.mem_append_left _ (inHeld found own)) (notQueued member)
    | unacked again ownToo => rw [place_unique heldOnce found own again ownToo]
    | acked done => exact absurd rfl (settled _ (inHeld found own) _ done)
  | acked done =>
    cases there with
    | queued member => exact absurd (List.mem_append_right _ done) (notQueued member)
    | unacked found own => exact absurd rfl (settled _ (inHeld found own) _ done)
    | acked => rfl

/-- In every run, each published message is in exactly one place, there once, and acknowledged only after the handler
    has returned for it. -/
theorem at_least_once (threadNum : Nat) (actions : List Action) (pool : RabbitMQThreadPool)
    (run : threadPools.run { threadNum := threadNum } actions = some pool) :
    (∀ msg, (∃ custody, pool.At msg custody) ↔ msg < pool.published.length) ∧
      (∀ msg custody other, pool.At msg custody → pool.At msg other → custody = other) ∧
      pool.queue.Nodup ∧ pool.acked.Nodup ∧ ∀ msg ∈ pool.acked, msg ∈ pool.handled := by
  have start : Conserved { threadNum := threadNum } := List.Perm.refl _
  have nothing : HandledFirst { threadNum := threadNum } := ⟨nofun, nofun⟩
  have kept := System.run_preserves (fun _ _ _ step kept => conserved_step step kept) start run
  have first := System.run_preserves (fun _ _ _ step first => handledFirst_step step first) nothing run
  have once : (pool.queue ++ (pool.held ++ pool.acked)).Nodup := kept.nodup_iff.mpr List.nodup_range
  rcases List.nodup_append.mp once with ⟨queueOnce, rest, _⟩
  refine ⟨?_, fun _ _ _ => at_unique once, queueOnce, (List.nodup_append.mp rest).2.1, first.acked⟩
  intro msg
  rw [at_iff, kept.mem_iff, List.mem_range]

/-- A message that one worker fails on and another one handles. -/
def failedOnce : List Action :=
  [.start, .subscribe 0, .subscribe 1, .publish (bytes "UPDATE t SET n = 1"), .deliver 0 0, .checkStop 0,
    .consumeMessage 0 true, .handler 0 (.error (bytes "Lock wait timeout exceeded")), .deliver 1 0, .checkStop 1,
    .consumeMessage 1 true, .handler 1 (.ok ()), .ack 1]

theorem failedOnce_acked :
    ∃ pool, threadPools.run { threadNum := 2 } failedOnce = some pool ∧ 0 ∈ pool.acked ∧ 0 ∈ pool.handled := by
  have ends : (threadPools.run { threadNum := 2 } failedOnce).isSome = true := by decide
  rcases Option.isSome_iff_exists.mp ends with ⟨pool, run⟩
  have acked : (threadPools.run { threadNum := 2 } failedOnce).map (·.acked) = some [0] := by decide
  rw [run] at acked
  have only : pool.acked = [0] := Option.some.inj acked
  have member : 0 ∈ pool.acked := by
    rw [only]
    exact List.mem_singleton_self 0
  exact ⟨pool, run, member, (at_least_once 2 failedOnce pool run).2.2.2.2 0 member⟩

end RabbitMQThreadPool

end Mq
