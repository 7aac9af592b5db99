import HttpServerApps.Db.Conservation

namespace Db

open Common

/-- Where a thread inside `cv_.wait` is. A thread that has been woken re-runs the check of the `while` loop when
    it has the lock again. -/
inductive WaitStatus where
  | blocked
  | notified
  | spurious
  deriving DecidableEq

structure Waiter where
  thread : Thread
  status : WaitStatus := .blocked

namespace Waiter

def toStatus (waiter : Waiter) (status : WaitStatus) : Waiter := { waiter with status := status }

def isBlocked (waiter : Waiter) : Bool := waiter.status = .blocked

def isNotified (waiter : Waiter) : Bool := waiter.status = .notified

end Waiter

/-- The pool with the threads that wait on `cv_`. -/
structure WaitingPool where
  pool : DbConnectionPool := {}
  waiters : List Waiter := []

/-- As `Action`, with the waits: a newcomer may take the lock before a notified waiter does, `chosen` is the waiter
    that `notify_one` picks, and a wait may end without a notification. -/
inductive WaitAction where
  | getConnection (thread : Thread)
  | recheck (place : Nat)
  | spuriousWakeup (place : Nat)
  | pushBack (place chosen : Nat)
  | release (place chosen : Nat)
  | other (action : Action)

/-- The actions on the queue that wait or notify. -/
def Action.takesOrReturns : Action → Bool
  | .getConnection _ | .pushBack _ | .release _ => true
  | _ => false

namespace WaitingPool

def idle (state : WaitingPool) : Nat := state.pool.connections.length

def blocked (state : WaitingPool) : Nat := state.waiters.countP Waiter.isBlocked

def notified (state : WaitingPool) : Nat := state.waiters.countP Waiter.isNotified

/-- The first check of the `while` loop; a thread that waits makes no other call. -/
def getConnection (state : WaitingPool) (thread : Thread) : Option WaitingPool :=
  if state.waiters.any (·.thread = thread) then none
  else
    match state.pool.getConnection thread with
    | some pool => some { state with pool := pool }
    | none => some { state with waiters := state.waiters ++ [{ thread := thread }] }

/-- A woken thread checks again, and takes a connection or waits again. -/
def recheck (state : WaitingPool) (place : Nat) : Option WaitingPool :=
  match state.waiters[place]? with
  | some waiter =>
    if waiter.isBlocked then none
    else
      match state.pool.getConnection waiter.thread with
      | some pool => some { pool := pool, waiters := state.waiters.eraseIdx place }
      | none => some { state with waiters := state.waiters.modify place (·.toStatus .blocked) }
  | none => none

def wake (state : WaitingPool) (place : Nat) (status : WaitStatus) : Option WaitingPool :=
  match state.waiters[place]? with
  | some waiter =>
    if waiter.isBlocked then some { state with waiters := state.waiters.modify place (·.toStatus status) } else none
  | none => none

/-- `cv_.notify_one()`: wakes one blocked waiter, if there is any. -/
def notifyOne (state : WaitingPool) (chosen : Nat) : Option WaitingPool :=
  if state.waiters.any Waiter.isBlocked then state.wake chosen .notified else some state

/-- The push and the notification are under one lock. -/
def pushBack (state : WaitingPool) (place chosen : Nat) (ready : Borrow → Bool) : Option WaitingPool :=
  (state.pool.pushBack place ready).bind fun pool => { state with pool := pool }.notifyOne chosen

def step (state : WaitingPool) : WaitAction → Option WaitingPool
  | .getConnection thread => state.getConnection thread
  | .recheck place => state.recheck place
  | .spuriousWakeup place => state.wake place .spurious
  | .pushBack place chosen => state.pushBack place chosen (·.stage = .failed)
  | .release place chosen =>
    state.pushBack place chosen fun borrow => borrow.stage = .handed || borrow.stage = .spent
  | .other action =>
    if action.takesOrReturns then none else (state.pool.step action).map fun pool => { state with pool := pool }

end WaitingPool

def waitingPools : System WaitingPool WaitAction := ⟨WaitingPool.step⟩

namespace WaitingPool

variable {state next : WaitingPool}

/-! What the steps do. -/

theorem getConnection_waits {pool : DbConnectionPool} {thread : Thread} (waits : pool.getConnection thread = none) :
    pool.connections = [] ∧ pool.initialized = true := by
  unfold DbConnectionPool.getConnection at waits
  split at waits
  · rename_i empty
    split at waits
    · rename_i ready
      exact ⟨empty, ready⟩
    · cases waits
  · cases waits

theorem getConnection_goes {pool after : DbConnectionPool} {thread : Thread}
    (goes : pool.getConnection thread = some after) :
    after.initialized = pool.initialized ∧ after.connections.length = pool.connections.length - 1 := by
  unfold DbConnectionPool.getConnection at goes
  split at goes
  · rename_i empty
    split at goes
    · cases goes
    · cases goes
      exact ⟨rfl, by simp [empty]⟩
  · rename_i conn connections queue
    cases goes
    exact ⟨rfl, by simp [queue]⟩

theorem wake_some {place : Nat} {status : WaitStatus} (step : state.wake place status = some next) :
    ∃ waiter, state.waiters[place]? = some waiter ∧ waiter.isBlocked = true ∧
      next = { state with waiters := state.waiters.modify place (·.toStatus status) } := by
  unfold wake at step
  split at step
  · rename_i waiter there
    split at step
    · rename_i blocked
      exact ⟨waiter, there, blocked, (Option.some.inj step).symm⟩
    · cases step
  · cases step

theorem wake_counts {place : Nat} {status : WaitStatus} (woken : status ≠ .blocked)
    (step : state.wake place status = some next) :
    next.pool = state.pool ∧ next.blocked + 1 = state.blocked ∧
      next.notified = state.notified + if status = .notified then 1 else 0 := by
  rcases wake_some step with ⟨waiter, there, isBlocked, rfl⟩
  have blocked := @countP_modify _ Waiter.isBlocked _ _ _ there (·.toStatus status)
  have notified := @countP_modify _ Waiter.isNotified _ _ _ there (·.toStatus status)
  have was : waiter.status = .blocked := of_decide_eq_true isBlocked
  have notYet : waiter.isNotified = false := by simp [Waiter.isNotified, was]
  have nowBlocked : (waiter.toStatus status).isBlocked = false := decide_eq_false woken
  rw [isBlocked, nowBlocked] at blocked
  rw [notYet] at notified
  refine ⟨rfl, by simpa [WaitingPool.blocked] using blocked, ?_⟩
  have now : (waiter.toStatus status).isNotified = decide (status = .notified) := rfl
  rw [now] at notified
  simpa [WaitingPool.notified] using notified

/-- What every step keeps: threads wait only on an initialized pool, and while one is blocked no more connections are
    idle than waiters are on their way to them. -/
structure Steady (state : WaitingPool) : Prop where
  ready : state.waiters ≠ [] → state.pool.initialized = true
  served : 0 < state.blocked → state.idle ≤ state.notified

theorem steady_getConnection {thread : Thread} (steady : state.Steady)
    (step : state.getConnection thread = some next) : next.Steady := by
  unfold getConnection at step
  split at step
  · cases step
  · split at step
    · rename_i after goes
      cases step
      rcases getConnection_goes goes with ⟨same, fewer⟩
      apply Steady.mk
      · intro waiting
        exact same.trans (steady.ready waiting)
      · intro blocked
        have before := steady.served blocked
        unfold idle notified at *
        dsimp only at *
        omega
    · rename_i waits
      cases step
      rcases getConnection_waits waits with ⟨empty, ready⟩
      apply Steady.mk
      · exact fun _ => ready
      · intro _
        simp [idle, empty]

theorem steady_recheck {place : Nat} (steady : state.Steady) (step : state.recheck place = some next) :
    next.Steady := by
  unfold recheck at step
  split at step
  · rename_i waiter there
    split at step
    · cases step
    · rename_i awake
      split at step
      · rename_i after goes
        cases step
        rcases getConnection_goes goes with ⟨same, fewer⟩
        have waiting : state.waiters ≠ [] := List.ne_nil_of_mem (List.mem_of_getElem? there)
        have blocked := @countP_eraseIdx _ Waiter.isBlocked _ _ _ there
        have notified := @countP_eraseIdx _ Waiter.isNotified _ _ _ there
        rw [if_neg awake] at blocked
        apply Steady.mk
        · exact fun _ => same.trans (steady.ready waiting)
        · intro still
          unfold WaitingPool.blocked at still
          dsimp only at still
          have before := steady.served (by unfold WaitingPool.blocked; omega)
          unfold idle WaitingPool.notified at *
          dsimp only at *
          split at notified <;> omega
      · rename_i waits
        cases step
        rcases getConnection_waits waits with ⟨empty, ready⟩
        apply Steady.mk
        · exact fun _ => ready
        · intro _
          simp [idle, empty]
  · cases step

theorem steady_wake {place : Nat} {status : WaitStatus} (woken : status ≠ .blocked) (steady : state.Steady)
    (step : state.wake place status = some next) : next.Steady := by
  rcases wake_counts woken step with ⟨same, blocked, notified⟩
  rcases wake_some step with ⟨waiter, there, _, rfl⟩
  have waiting : state.waiters ≠ [] := List.ne_nil_of_mem (List.mem_of_getElem? there)
  apply Steady.mk
  · exact fun _ => steady.ready waiting
  · intro _
    have before := steady.served (by omega)
    show state.idle ≤ _
    omega

theorem steady_pushBack {place chosen : Nat} {ready : Borrow → Bool} (steady : state.Steady)
    (step : state.pushBack place chosen ready = some next) : next.Steady := by
  rcases Option.bind_eq_some_iff.mp step with ⟨pool, pushed, notifies⟩
  rcases DbConnectionPool.pushBack_some pushed with ⟨borrow, _, _, rfl⟩
  unfold notifyOne at notifies
  split at notifies
  · rename_i someBlocked
    rcases wake_counts (by nofun) notifies with ⟨same, blocked, notified⟩
    rcases wake_some notifies with ⟨waiter, there, _, rfl⟩
    have waiting : state.waiters ≠ [] := List.ne_nil_of_mem (List.mem_of_getElem? there)
    apply Steady.mk
    · exact fun _ => steady.ready waiting
    · intro _
      have before := steady.served (by
        show 0 < state.waiters.countP Waiter.isBlocked
        have more : _ + 1 = state.waiters.countP Waiter.isBlocked := blocked
        omega)
      have counted : _ = state.waiters.countP Waiter.isNotified + 1 := notified
      unfold idle WaitingPool.notified at *
      dsimp only at *
      rw [List.length_append, List.length_singleton, counted]
      omega
  · rename_i noneBlocked
    cases notifies
    apply Steady.mk
    · exact fun waiting => steady.ready waiting
    · intro blocked
      rcases List.countP_pos_iff.mp blocked with ⟨waiter, member, isBlocked⟩
      exact absurd (List.any_eq_true.mpr ⟨waiter, member, isBlocked⟩) noneBlocked

theorem other_step {pool after : DbConnectionPool} {action : Action} (other : action.takesOrReturns = false)
    (step : pools.step pool action = some after) :
    after.connections = pool.connections ∧ after.initialized = pool.initialized ∨ pool.initialized = false := by
  have onBorrow : ∀ {place ready change}, pool.onBorrow place ready change = some after →
      after.connections = pool.connections ∧ after.initialized = pool.initialized ∨ pool.initialized = false := by
    intro place ready change step
    rcases DbConnectionPool.onBorrow_some step with ⟨_, _, _, rfl⟩
    exact Or.inl ⟨rfl, rfl⟩
  have checker : DbConnectionPool.CheckerFrame pool after →
      after.connections = pool.connections ∧ after.initialized = pool.initialized ∨ pool.initialized = false :=
    fun frame => Or.inl ⟨frame.connections, frame.initialized⟩
  cases action with
  | init size made =>
    cases step
    unfold DbConnectionPool.init
    split
    · exact Or.inl ⟨rfl, rfl⟩
    · rename_i fresh
      exact Or.inr (Bool.not_eq_true _ ▸ fresh)
  | getConnection thread => cases other
  | ping place result => cases result <;> exact onBorrow step
  | reconnect place ok => cases ok <;> exact onBorrow step
  | pushBack place => cases other
  | executeQuery place ok => exact onBorrow step
  | executeUpdate place => exact onBorrow step
  | release place => cases other
  | finishReading place => exact onBorrow step
  | copyConnections => exact checker (DbConnectionPool.copyConnections_frame step)
  | nextConnection => exact checker (DbConnectionPool.nextConnection_frame step)
  | checkPing result => exact checker (DbConnectionPool.checkPing_frame step)
  | checkReconnect => exact checker (DbConnectionPool.checkReconnect_frame step)

theorem other_pool {action : Action} (step : state.step (.other action) = some next) :
    action.takesOrReturns = false ∧
      ∃ pool, pools.step state.pool action = some pool ∧ next = { state with pool := pool } := by
  cases queue : action.takesOrReturns with
  | true =>
    have refused : state.step (.other action) = none := if_pos queue
    rw [refused] at step
    cases step
  | false =>
    have taken : state.step (.other action) =
        (state.pool.step action).map fun pool => { state with pool := pool } := if_neg (by rw [queue]; nofun)
    rw [taken] at step
    rcases Option.map_eq_some_iff.mp step with ⟨pool, inner, rfl⟩
    exact ⟨rfl, pool, inner, rfl⟩

theorem steady_other {action : Action} (steady : state.Steady) (step : state.step (.other action) = some next) :
    next.Steady := by
  rcases other_pool step with ⟨other, pool, inner, rfl⟩
  rcases other_step other inner with ⟨connections, initialized⟩ | fresh
  · apply Steady.mk
    · exact fun waiting => initialized.trans (steady.ready waiting)
    · intro blocked
      have before := steady.served blocked
      show pool.connections.length ≤ _
      rw [connections]
      exact before
  · -- Nobody waits on a pool that is not initialized.
    have nobody : state.waiters = [] := by
      by_cases empty : state.waiters = []
      · exact empty
      · have ready := steady.ready empty
        rw [fresh] at ready
        cases ready
    apply Steady.mk
    · exact fun waiting => absurd nobody waiting
    · intro blocked
      unfold WaitingPool.blocked at blocked
      dsimp only at blocked
      rw [nobody] at blocked
      exact absurd blocked (Nat.lt_irrefl 0)

theorem steady_step {action : WaitAction} (step : waitingPools.step state action = some next) (steady : state.Steady) :
    next.Steady := by
  cases action with
  | getConnection thread => exact steady_getConnection steady step
  | recheck place => exact steady_recheck steady step
  | spuriousWakeup place => exact steady_wake (by decide) steady step
  | pushBack place chosen => exact steady_pushBack steady step
  | release place chosen => exact steady_pushBack steady step
  | other action => exact steady_other steady step

/-- Forgetting the waits: a step of the pool with its waiters is a step of the pool, or none. -/
theorem step_pool {action : WaitAction} (step : waitingPools.step state action = some next) :
    next.pool = state.pool ∨ ∃ inner, pools.step state.pool inner = some next.pool := by
  have pushBack : ∀ {place chosen ready}, state.pushBack place chosen ready = some next →
      state.pool.pushBack place ready = some next.pool := by
    intro place chosen ready step
    rcases Option.bind_eq_some_iff.mp step with ⟨pool, pushed, notifies⟩
    unfold notifyOne at notifies
    split at notifies
    · rcases wake_some notifies with ⟨_, _, _, rfl⟩
      exact pushed
    · cases notifies
      exact pushed
  cases action with
  | getConnection thread =>
    change state.getConnection thread = some next at step
    unfold getConnection at step
    split at step
    · cases step
    · split at step
      · rename_i pool goes
        cases step
        exact Or.inr ⟨.getConnection thread, goes⟩
      · cases step
        exact Or.inl rfl
  | recheck place =>
    change state.recheck place = some next at step
    unfold recheck at step
    split at step
    · rename_i waiter _
      split at step
      · cases step
      · split at step
        · rename_i pool goes
          cases step
          exact Or.inr ⟨.getConnection waiter.thread, goes⟩
        · cases step
          exact Or.inl rfl
    · cases step
  | spuriousWakeup place =>
    rcases wake_some step with ⟨_, _, _, rfl⟩
    exact Or.inl rfl
  | pushBack place chosen => exact Or.inr ⟨.pushBack place, pushBack step⟩
  | release place chosen => exact Or.inr ⟨.release place, pushBack step⟩
  | other action =>
    rcases other_pool step with ⟨_, pool, inner, rfl⟩
    exact Or.inr ⟨action, inner⟩

theorem waiting_conserved {actions : List WaitAction} (run : waitingPools.run {} actions = some state) :
    state.pool.Conserved := by
  have start : ({} : WaitingPool).pool.Conserved := List.Perm.refl _
  refine @System.run_preserves _ _ waitingPools (·.pool.Conserved) ?_ _ _ _ start run
  intro before action after step kept
  rcases step_pool step with same | ⟨inner, poolStep⟩
  · rw [same]
    exact kept
  · exact DbConnectionPool.conserved_step poolStep kept

/-- In every run, while a thread is blocked, each idle connection has a notified waiter that will look for it. -/
theorem no_stuck_waiter (actions : List WaitAction) (state : WaitingPool)
    (run : waitingPools.run {} actions = some state) :
    (∃ waiter ∈ state.waiters, waiter.status = .blocked) →
      state.pool.connections.length ≤ state.waiters.countP (·.status = .notified) ∧
      (state.pool.connections ≠ [] → ∃ waiter ∈ state.waiters, waiter.status = .notified) := by
  have start : ({} : WaitingPool).Steady :=
    ⟨fun waiting => absurd rfl waiting, fun blocked => absurd blocked (by decide)⟩
  have steady := System.run_preserves (fun _ _ _ step steady => steady_step step steady) start run
  rintro ⟨waiter, member, status⟩
  have someBlocked : 0 < state.blocked := List.countP_pos_iff.mpr ⟨waiter, member, decide_eq_true status⟩
  have served := steady.served someBlocked
  apply And.intro served
  intro idle
  have positive : 0 < state.notified := Nat.lt_of_lt_of_le (List.length_pos_iff.mpr idle) served
  rcases List.countP_pos_iff.mp positive with ⟨woken, inside, notified⟩
  exact ⟨woken, inside, of_decide_eq_true notified⟩

/-- One connection and three threads: the second waits, the third too; the release wakes the second. -/
def twoWaiters : List WaitAction :=
  [.other (.init 1 1), .getConnection 0, .other (.ping 0 .alive), .getConnection 1, .getConnection 2, .release 0 0]

theorem twoWaiters_served :
    ∃ state, waitingPools.run {} twoWaiters = some state ∧ state.pool.connections = [0] ∧
      ∃ waiter ∈ state.waiters, waiter.status = .notified := by
  have ends : (waitingPools.run {} twoWaiters).isSome = true := by decide
  rcases Option.isSome_iff_exists.mp ends with ⟨state, run⟩
  have idle : (waitingPools.run {} twoWaiters).map (·.pool.connections) = some [0] := by decide
  have waiting : (waitingPools.run {} twoWaiters).map (fun state =>
      state.waiters.any fun waiter => waiter.status = .blocked) = some true := by decide
  rw [run] at idle waiting
  have connections : state.pool.connections = [0] := Option.some.inj idle
  rcases List.any_eq_true.mp (Option.some.inj waiting) with ⟨waiter, member, blocked⟩
  have served := no_stuck_waiter twoWaiters state run ⟨waiter, member, of_decide_eq_true blocked⟩
  exact ⟨state, run, connections, served.2 (by rw [connections]; nofun)⟩

end WaitingPool

end Db
