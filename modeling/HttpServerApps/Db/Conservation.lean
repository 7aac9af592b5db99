import HttpServerApps.Db.Pool

namespace Db

open Common

/-- Where a connection can be; the calls of `getConnection` are numbered. -/
inductive Place where
  | queued
  | inTransit (call : Nat)
  | held (call : Nat)

/-- Where a call has its connection. -/
def Stage.place (call : Nat) : Stage → Option Place
  | .pinging | .reconnecting | .failed => some (.inTransit call)
  | .handed | .spent => some (.held call)
  | .returned => none

namespace DbConnectionPool

variable {pool next : DbConnectionPool}

theorem onBorrow_some {place : Nat} {ready : Borrow → Bool} {change : Borrow → Borrow}
    (step : pool.onBorrow place ready change = some next) :
    ∃ borrow, pool.borrows[place]? = some borrow ∧ ready borrow = true ∧
      next = { pool with borrows := pool.borrows.modify place change } := by
  unfold onBorrow at step
  split at step
  · rename_i borrow there
    split at step
    · rename_i good
      exact ⟨borrow, there, good, (Option.some.inj step).symm⟩
    · cases step
  · cases step

theorem pushBack_some {place : Nat} {ready : Borrow → Bool} (step : pool.pushBack place ready = some next) :
    ∃ borrow, pool.borrows[place]? = some borrow ∧ ready borrow = true ∧
      next = { pool with
        borrows := pool.borrows.modify place (·.toStage .returned)
        connections := pool.connections ++ [borrow.conn] } := by
  unfold pushBack at step
  split at step
  · rename_i borrow there
    split at step
    · rename_i good
      exact ⟨borrow, there, good, (Option.some.inj step).symm⟩
    · cases step
  · cases step

/-- The queue and the connections out of it together are the connections made. -/
def Conserved (pool : DbConnectionPool) : Prop :=
  (pool.connections ++ pool.borrows.filterMap Borrow.out).Perm (List.range pool.created)

theorem conserved_init (kept : pool.Conserved) (poolSize made : Nat) : (pool.init poolSize made).Conserved := by
  unfold init
  split
  · exact kept
  · have fresh : List.range (pool.created + min poolSize made) =
        List.range pool.created ++ List.range' pool.created (min poolSize made) := by
      rw [List.range_eq_range', List.range_eq_range', ← List.range'_append_1, Nat.zero_add]
    have moved := (@List.perm_append_comm _ (List.range' pool.created (min poolSize made))
      (pool.borrows.filterMap Borrow.out)).append_left pool.connections
    have more := kept.append_right (List.range' pool.created (min poolSize made))
    unfold Conserved
    dsimp only
    rw [fresh, List.append_assoc]
    rw [List.append_assoc] at more
    exact moved.trans more

theorem conserved_getConnection (kept : pool.Conserved) {thread : Thread}
    (step : pool.getConnection thread = some next) : next.Conserved := by
  unfold getConnection at step
  split at step
  · split at step
    · cases step
    · cases step
      exact kept
  · rename_i conn connections queue
    cases step
    unfold Conserved at *
    dsimp only
    rw [queue] at kept
    have added : (pool.borrows ++ [({ thread := thread, conn := conn } : Borrow)]).filterMap Borrow.out =
        pool.borrows.filterMap Borrow.out ++ [conn] := by
      rw [List.filterMap_append]
      rfl
    rw [added, ← List.append_assoc]
    exact (List.perm_append_singleton conn _).trans kept

theorem conserved_onBorrow (kept : pool.Conserved) {place : Nat} {ready : Borrow → Bool} {change : Borrow → Borrow}
    (step : pool.onBorrow place ready change = some next)
    (same : ∀ borrow, ready borrow = true → (change borrow).out = borrow.out) : next.Conserved := by
  rcases onBorrow_some step with ⟨borrow, there, good, rfl⟩
  unfold Conserved
  dsimp only
  rw [filterMap_modify_same there (same borrow good)]
  exact kept

theorem conserved_pushBack (kept : pool.Conserved) {place : Nat} {ready : Borrow → Bool}
    (step : pool.pushBack place ready = some next)
    (out : ∀ borrow, ready borrow = true → borrow.stage ≠ .returned) : next.Conserved := by
  rcases pushBack_some step with ⟨borrow, there, good, rfl⟩
  have had : borrow.out = some borrow.conn := if_neg (out borrow good)
  have gone : (borrow.toStage .returned).out = none := rfl
  have missing :=
    @filterMap_modify_drop _ _ Borrow.out pool.borrows place (·.toStage .returned) borrow borrow.conn there
    had gone
  unfold Conserved
  dsimp only
  rw [List.append_assoc]
  exact ((missing.append_left pool.connections).symm).trans kept

/-! The check thread leaves the queue and the borrows alone. -/

structure CheckerFrame (pool next : DbConnectionPool) : Prop where
  connections : next.connections = pool.connections
  initialized : next.initialized = pool.initialized
  created : next.created = pool.created
  borrows : next.borrows = pool.borrows

theorem copyConnections_frame (step : pool.copyConnections = some next) : CheckerFrame pool next := by
  unfold copyConnections at step
  split at step
  · cases step
    exact ⟨rfl, rfl, rfl, rfl⟩
  · cases step

theorem nextConnection_frame (step : pool.nextConnection = some next) : CheckerFrame pool next := by
  unfold nextConnection at step
  split at step
  · cases step
    exact ⟨rfl, rfl, rfl, rfl⟩
  · cases step

theorem checkPing_frame {result : Ping} (step : pool.checkPing result = some next) : CheckerFrame pool next := by
  unfold checkPing at step
  split at step
  · cases step
    exact ⟨rfl, rfl, rfl, rfl⟩
  · cases step
    exact ⟨rfl, rfl, rfl, rfl⟩
  · cases step
    exact ⟨rfl, rfl, rfl, rfl⟩
  · cases step

theorem checkReconnect_frame (step : pool.checkReconnect = some next) : CheckerFrame pool next := by
  unfold checkReconnect at step
  split at step
  · cases step
    exact ⟨rfl, rfl, rfl, rfl⟩
  · cases step

theorem conserved_checker (kept : pool.Conserved) (frame : CheckerFrame pool next) : next.Conserved := by
  unfold Conserved
  rw [frame.connections, frame.created, frame.borrows]
  exact kept

theorem out_of_stage {borrow : Borrow} {stage : Stage} (at_ : decide (borrow.stage = stage) = true)
    (other : stage ≠ .returned) : borrow.out = some borrow.conn := by
  unfold Borrow.out
  rw [of_decide_eq_true at_, if_neg other]

/-- Every step keeps the connections together. -/
theorem conserved_step {action : Action} (step : pools.step pool action = some next) (kept : pool.Conserved) :
    next.Conserved := by
  cases action with
  | init poolSize made =>
    cases step
    exact conserved_init kept poolSize made
  | getConnection thread => exact conserved_getConnection kept step
  | ping place result =>
    cases result <;>
      exact conserved_onBorrow kept step fun borrow good => (out_of_stage good nofun).symm
  | reconnect place ok =>
    cases ok <;>
      exact conserved_onBorrow kept step fun borrow good => (out_of_stage good nofun).symm
  | pushBack place =>
    exact conserved_pushBack kept step fun borrow good => by simp [of_decide_eq_true good]
  | executeQuery place ok => exact conserved_onBorrow kept step fun borrow good => (out_of_stage good nofun).symm
  | executeUpdate place => exact conserved_onBorrow kept step fun borrow good => (out_of_stage good nofun).symm
  | release place =>
    refine conserved_pushBack kept step fun borrow good back => ?_
    simp [back] at good
  | finishReading place => exact conserved_onBorrow kept step fun borrow good => rfl
  | copyConnections => exact conserved_checker kept (copyConnections_frame step)
  | nextConnection => exact conserved_checker kept (nextConnection_frame step)
  | checkPing result => exact conserved_checker kept (checkPing_frame step)
  | checkReconnect => exact conserved_checker kept (checkReconnect_frame step)

theorem conserved_run {actions : List Action} {pool : DbConnectionPool} (run : pools.run {} actions = some pool) :
    pool.Conserved := by
  have start : Conserved {} := List.Perm.refl _
  exact System.run_preserves (fun _ _ _ step kept => conserved_step step kept) start run

/-! An `init` that has succeeded is the last to make connections. -/

structure Settled (poolSize : Nat) (pool : DbConnectionPool) : Prop where
  initialized : pool.initialized = true
  created : pool.created = poolSize

theorem settled_step {poolSize : Nat} {action : Action} (step : pools.step pool action = some next)
    (settled : Settled poolSize pool) : Settled poolSize next := by
  have onBorrow : ∀ {place ready change}, pool.onBorrow place ready change = some next → Settled poolSize next := by
    intro place ready change step
    rcases onBorrow_some step with ⟨_, _, _, rfl⟩
    exact ⟨settled.initialized, settled.created⟩
  have pushBack : ∀ {place ready}, pool.pushBack place ready = some next → Settled poolSize next := by
    intro place ready step
    rcases pushBack_some step with ⟨_, _, _, rfl⟩
    exact ⟨settled.initialized, settled.created⟩
  have checker : CheckerFrame pool next → Settled poolSize next := fun frame =>
    ⟨frame.initialized.trans settled.initialized, frame.created.trans settled.created⟩
  cases action with
  | init size made =>
    cases step
    unfold init
    rw [if_pos settled.initialized]
    exact settled
  | getConnection thread =>
    simp only [pools, DbConnectionPool.step, getConnection] at step
    split at step
    · rw [if_pos settled.initialized] at step
      cases step
    · cases step
      exact ⟨settled.initialized, settled.created⟩
  | ping place result => cases result <;> exact onBorrow step
  | reconnect place ok => cases ok <;> exact onBorrow step
  | pushBack place => exact pushBack step
  | executeQuery place ok => exact onBorrow step
  | executeUpdate place => exact onBorrow step
  | release place => exact pushBack step
  | finishReading place => exact onBorrow step
  | copyConnections => exact checker (copyConnections_frame step)
  | nextConnection => exact checker (nextConnection_frame step)
  | checkPing result => exact checker (checkPing_frame step)
  | checkReconnect => exact checker (checkReconnect_frame step)

theorem settled_run {poolSize made : Nat} (success : poolSize ≤ made) {actions : List Action} {pool : DbConnectionPool}
    (run : pools.run {} (.init poolSize made :: actions) = some pool) : Settled poolSize pool := by
  have first : pools.step {} (.init poolSize made) = some (init {} poolSize made) := rfl
  have start : Settled poolSize (init {} poolSize made) := by
    refine ⟨decide_eq_true success, ?_⟩
    change 0 + min poolSize made = poolSize
    omega
  rw [System.run_cons first] at run
  exact System.run_preserves (fun _ _ _ step settled => settled_step step settled) start run

inductive At (pool : DbConnectionPool) (conn : DbConnection) : Place → Prop where
  | queued (member : conn ∈ pool.connections) : At pool conn .queued
  | out {call : Nat} {borrow : Borrow} {place : Place} (there : pool.borrows[call]? = some borrow)
      (own : borrow.conn = conn)
      (here : borrow.stage.place call = some place) : At pool conn place

theorem out_some {borrow : Borrow} {conn : DbConnection} (call : Nat) :
    borrow.out = some conn ↔ borrow.conn = conn ∧ ∃ place, borrow.stage.place call = some place := by
  rcases borrow with ⟨thread, own, stage, unread⟩
  cases stage <;> simp [Borrow.out, Stage.place]

theorem at_iff_out {pool : DbConnectionPool} {conn : DbConnection} :
    (∃ place, pool.At conn place) ↔ conn ∈ pool.connections ++ pool.borrows.filterMap Borrow.out := by
  rw [List.mem_append, List.mem_filterMap]
  apply Iff.intro
  · rintro ⟨place, here⟩
    cases here with
    | queued member => exact Or.inl member
    | out there own here =>
      exact Or.inr ⟨_, List.mem_of_getElem? there, (out_some _).mpr ⟨own, place, here⟩⟩
  · rintro (queued | ⟨borrow, member, out⟩)
    · exact ⟨.queued, .queued queued⟩
    · rcases List.getElem?_of_mem member with ⟨call, there⟩
      rcases (out_some call).mp out with ⟨own, place, here⟩
      exact ⟨place, .out there own here⟩

theorem at_unique {pool : DbConnectionPool} (once : (pool.connections ++ pool.borrows.filterMap Borrow.out).Nodup)
    {conn : DbConnection} {place other : Place} (here : pool.At conn place) (there : pool.At conn other) :
    place = other := by
  rcases List.nodup_append.mp once with ⟨_, outOnce, apart⟩
  cases here with
  | queued member =>
    cases there with
    | queued => rfl
    | out found own at_ =>
      have out := (out_some _).mpr ⟨own, _, at_⟩
      exact absurd rfl (apart conn member conn (mem_filterMap_place found out))
  | out found own at_ =>
    have out := (out_some _).mpr ⟨own, _, at_⟩
    cases there with
    | queued member => exact absurd rfl (apart conn member conn (mem_filterMap_place found out))
    | out again ownToo atToo =>
      have same := place_unique outOnce found out again ((out_some _).mpr ⟨ownToo, _, atToo⟩)
      subst same
      cases found.symm.trans again
      exact Option.some.inj (at_.symm.trans atToo)

/-- After a successful `init`, in every run, each of its connections is in exactly one place. -/
theorem pool_conservation (poolSize made : Nat) (actions : List Action) (pool : DbConnectionPool)
    (success : poolSize ≤ made) (run : pools.run {} (.init poolSize made :: actions) = some pool) :
    (∀ conn, (∃ place, pool.At conn place) ↔ conn < poolSize) ∧
      (∀ conn place other, pool.At conn place → pool.At conn other → place = other) ∧ pool.connections.Nodup := by
  have kept := conserved_run run
  have settled := settled_run success run
  have once : (pool.connections ++ pool.borrows.filterMap Borrow.out).Nodup := kept.nodup_iff.mpr List.nodup_range
  refine ⟨?_, fun _ _ _ => at_unique once, (List.nodup_append.mp once).1⟩
  intro conn
  rw [at_iff_out, kept.mem_iff, List.mem_range, settled.created]

/-- One of two connections is handed out and released, the `reconnect` of the other throws. -/
def twoCalls : List Action :=
  [.init 2 2, .getConnection 0, .getConnection 1, .ping 0 .alive, .ping 1 .lost, .reconnect 1 false, .release 0,
    .pushBack 1]

theorem twoCalls_conserved :
    ∃ pool, pools.run {} twoCalls = some pool ∧ ∀ conn, (∃ place, pool.At conn place) ↔ conn < 2 := by
  have ends : (pools.run {} twoCalls).isSome = true := by decide
  rcases Option.isSome_iff_exists.mp ends with ⟨pool, run⟩
  exact ⟨pool, run, (pool_conservation 2 2 _ pool (Nat.le_refl 2) run).1⟩

end DbConnectionPool

end Db
