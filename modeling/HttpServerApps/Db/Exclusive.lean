import HttpServerApps.Db.Conservation

namespace Db

open Common

def Checking.conn : Checking → Option DbConnection
  | .between => none
  | .pinging conn => some conn
  | .reconnecting conn => some conn

/-- Its thread is at one of the calls that issue a statement. -/
def Borrow.poised (borrow : Borrow) : Bool :=
  borrow.stage = .pinging || borrow.stage = .reconnecting || borrow.stage = .handed

namespace Borrow

variable {borrow : Borrow} {stage : Stage}

theorem poised_of_stage (at_ : decide (borrow.stage = stage) = true)
    (calls : (stage = .pinging || stage = .reconnecting || stage = .handed) = true) : borrow.poised = true := by
  rw [poised, of_decide_eq_true at_]
  exact calls

theorem inUse_of_handed (at_ : decide (borrow.stage = .handed) = true) : borrow.inUse = true := by
  rw [inUse, at_, Bool.true_or]

theorem inUse_of_toStage (other : stage ≠ .handed) (used : (borrow.toStage stage).inUse = true) :
    borrow.inUse = true := by
  rcases Bool.or_eq_true_iff.mp used with handed | unread
  · exact absurd (of_decide_eq_true handed) other
  · exact Bool.or_eq_true_iff.mpr (Or.inr unread)

end Borrow

namespace DbConnectionPool

variable {pool next : DbConnectionPool}

/-- The thread that issues a statement or a reconnect with this step, and the connection; the check thread has no
    number. -/
def issues (pool : DbConnectionPool) : Action → Option (Option Thread × DbConnection)
  | .ping place _ => (pool.borrows[place]?).map fun borrow => (some borrow.thread, borrow.conn)
  | .reconnect place _ => (pool.borrows[place]?).map fun borrow => (some borrow.thread, borrow.conn)
  | .executeQuery place _ => (pool.borrows[place]?).map fun borrow => (some borrow.thread, borrow.conn)
  | .executeUpdate place => (pool.borrows[place]?).map fun borrow => (some borrow.thread, borrow.conn)
  | .checkPing _ => pool.checking.conn.map fun conn => (none, conn)
  | .checkReconnect => pool.checking.conn.map fun conn => (none, conn)
  | _ => none

/-- This step is a statement or a reconnect on a connection that another thread is using. -/
def Intrudes (pool : DbConnectionPool) (action : Action) : Prop :=
  ∃ user conn, pool.issues action = some (user, conn) ∧
    ∃ borrow ∈ pool.borrows, borrow.conn = conn ∧ borrow.inUse = true ∧ user ≠ some borrow.thread

/-- Whichever thread goes on, it does not intrude. -/
def Exclusive (pool : DbConnectionPool) : Prop :=
  ∀ action next, pools.step pool action = some next → ¬ pool.Intrudes action

/-- The connection at the front of the queue has no `ResultSet` that another thread is still reading; a connection is
    not handed out while the check thread is at it; the check thread comes to no connection that is in use. -/
def Orderly (pool : DbConnectionPool) : Action → Prop
  | .getConnection thread => ∀ borrow ∈ pool.borrows, pool.connections.head? = some borrow.conn →
      borrow.unread = true → borrow.thread = thread
  | .ping place .alive => ∀ borrow ∈ pool.borrows[place]?, pool.checking.conn ≠ some borrow.conn
  | .reconnect place true => ∀ borrow ∈ pool.borrows[place]?, pool.checking.conn ≠ some borrow.conn
  | .nextConnection => ∀ borrow ∈ pool.borrows, pool.connsToCheck.head? = some borrow.conn → borrow.inUse = false
  | _ => True

instance (pool : DbConnectionPool) : (action : Action) → Decidable (pool.Orderly action)
  | .init .. | .ping _ .lost | .ping _ .throws | .reconnect _ false | .pushBack _ | .executeQuery .. | .executeUpdate _
  | .release _ | .finishReading _ | .copyConnections | .checkPing _ | .checkReconnect => isTrue trivial
  | .getConnection _ => inferInstanceAs (Decidable (∀ borrow ∈ pool.borrows, _ → _ → _))
  | .ping place .alive => inferInstanceAs (Decidable (∀ borrow ∈ pool.borrows[place]?, _))
  | .reconnect place true => inferInstanceAs (Decidable (∀ borrow ∈ pool.borrows[place]?, _))
  | .nextConnection => inferInstanceAs (Decidable (∀ borrow ∈ pool.borrows, _ → _))

/-- The thread can issue a statement on the connection next. -/
inductive Poised (pool : DbConnectionPool) : Option Thread → DbConnection → Prop where
  | borrower {place : Nat} {borrow : Borrow} (there : pool.borrows[place]? = some borrow)
      (poised : borrow.poised = true) : Poised pool (some borrow.thread) borrow.conn
  | checker {conn : DbConnection} (here : pool.checking.conn = some conn) : Poised pool none conn

def Apart (pool : DbConnectionPool) : Prop :=
  ∀ user conn, pool.Poised user conn → ∀ (place : Nat) (borrow : Borrow), pool.borrows[place]? = some borrow →
    borrow.conn = conn → borrow.inUse = true → user = some borrow.thread

theorem poised_of_issues {action : Action} (step : pools.step pool action = some next) {user : Option Thread}
    {conn : DbConnection} (issued : pool.issues action = some (user, conn)) : pool.Poised user conn := by
  have byBorrow : ∀ {place ready change} , pool.onBorrow place ready change = some next →
      (∀ borrow, ready borrow = true → borrow.poised = true) →
      (pool.borrows[place]?).map (fun borrow => (some borrow.thread, borrow.conn)) = some (user, conn) →
      pool.Poised user conn := by
    intro place ready change step poised issued
    rcases onBorrow_some step with ⟨borrow, there, good, _⟩
    rw [there] at issued
    cases issued
    exact .borrower there (poised borrow good)
  have byChecker : pool.checking.conn.map (fun conn => ((none : Option Thread), conn)) = some (user, conn) →
      pool.Poised user conn := by
    intro issued
    rcases Option.map_eq_some_iff.mp issued with ⟨found, here, same⟩
    cases same
    exact .checker here
  cases action with
  | ping place result =>
    cases result <;> exact byBorrow step (fun _ good => Borrow.poised_of_stage good rfl) issued
  | reconnect place ok =>
    cases ok <;> exact byBorrow step (fun _ good => Borrow.poised_of_stage good rfl) issued
  | executeQuery place ok =>
    exact byBorrow step (fun _ good => Borrow.poised_of_stage good rfl) issued
  | executeUpdate place =>
    exact byBorrow step (fun _ good => Borrow.poised_of_stage good rfl) issued
  | checkPing => exact byChecker issued
  | checkReconnect => exact byChecker issued
  | _ => cases issued

theorem onBorrow_ready {place : Nat} {borrow : Borrow} {ready : Borrow → Bool} {change : Borrow → Borrow}
    (there : pool.borrows[place]? = some borrow) (good : ready borrow = true) :
    pool.onBorrow place ready change = some { pool with borrows := pool.borrows.modify place change } := by
  unfold onBorrow
  rw [there]
  exact if_pos good

theorem issues_of_poised {user : Option Thread} {conn : DbConnection} (poised : pool.Poised user conn) :
    ∃ action next, pools.step pool action = some next ∧ pool.issues action = some (user, conn) := by
  cases poised with
  | @borrower place borrow there poised =>
    have issued : (pool.borrows[place]?).map (fun borrow => (some borrow.thread, borrow.conn)) =
        some (some borrow.thread, borrow.conn) := by
      rw [there]
      rfl
    simp only [Borrow.poised, Bool.or_eq_true, decide_eq_true_eq] at poised
    rcases poised with (stage | stage) | stage
    · exact ⟨.ping place .alive, _, onBorrow_ready there (decide_eq_true stage), issued⟩
    · exact ⟨.reconnect place true, _, onBorrow_ready there (decide_eq_true stage), issued⟩
    · exact ⟨.executeUpdate place, _, onBorrow_ready there (decide_eq_true stage), issued⟩
  | checker here =>
    have issued : pool.checking.conn.map (fun conn => ((none : Option Thread), conn)) = some (none, conn) := by
      rw [here]
      rfl
    cases checking : pool.checking with
    | between =>
      rw [checking] at here
      cases here
    | pinging found =>
      refine ⟨.checkPing .alive, { pool with checking := .between }, ?_, issued⟩
      simp only [pools, DbConnectionPool.step, checkPing, checking]
    | reconnecting found =>
      refine ⟨.checkReconnect, { pool with checking := .between }, ?_, issued⟩
      simp only [pools, DbConnectionPool.step, checkReconnect, checking]

theorem exclusive_iff : Exclusive pool ↔ Apart pool := by
  apply Iff.intro
  · intro exclusive user conn poised place borrow there own used
    rcases issues_of_poised poised with ⟨action, next, step, issued⟩
    by_contra other
    exact exclusive action next step
      ⟨user, conn, issued, borrow, List.mem_of_getElem? there, own, used, other⟩
  · rintro apart action next step ⟨user, conn, issued, borrow, member, own, used, other⟩
    rcases List.getElem?_of_mem member with ⟨place, there⟩
    exact other (apart user conn (poised_of_issues step issued) place borrow there own used)

/-! Most steps bring no thread to a statement and no connection into use. -/

structure Quieter (pool next : DbConnectionPool) : Prop where
  borrows : ∀ (place : Nat) (after : Borrow), next.borrows[place]? = some after →
    ∃ before, pool.borrows[place]? = some before ∧ after.thread = before.thread ∧ after.conn = before.conn ∧
      (after.poised = true → before.poised = true) ∧ (after.inUse = true → before.inUse = true)
  checking : ∀ conn, next.checking.conn = some conn → pool.checking.conn = some conn

theorem Apart.quieter (apart : Apart pool) (quieter : Quieter pool next) : Apart next := by
  intro user conn poised place borrow there own used
  rcases quieter.borrows place borrow there with ⟨old, was, thread, sameConn, _, usedBefore⟩
  have before : pool.Poised user conn := by
    cases poised with
    | borrower there poised =>
      rcases quieter.borrows _ _ there with ⟨old, was, thread, sameConn, poisedBefore, _⟩
      rw [thread, sameConn]
      exact .borrower was (poisedBefore poised)
    | checker here => exact .checker (quieter.checking _ here)
  rw [thread]
  exact apart user conn before place old was (sameConn ▸ own) (usedBefore used)

theorem quieter_modify {place : Nat} {change : Borrow → Borrow} {borrow : Borrow} {connections : List DbConnection}
    (there : pool.borrows[place]? = some borrow)
    (keeps : (change borrow).thread = borrow.thread ∧ (change borrow).conn = borrow.conn ∧
      ((change borrow).poised = true → borrow.poised = true) ∧ ((change borrow).inUse = true → borrow.inUse = true)) :
    Quieter pool { pool with borrows := pool.borrows.modify place change, connections := connections } := by
  refine ⟨?_, fun _ here => here⟩
  intro other after found
  rcases modify_some found with ⟨before, was, shape⟩
  refine ⟨before, was, ?_⟩
  split at shape
  · rename_i same
    subst same shape
    cases there.symm.trans was
    exact keeps
  · subst shape
    exact ⟨rfl, rfl, id, id⟩

theorem quieter_onBorrow {place : Nat} {ready : Borrow → Bool} {change : Borrow → Borrow}
    (step : pool.onBorrow place ready change = some next)
    (keeps : ∀ borrow, ready borrow = true → (change borrow).thread = borrow.thread ∧
      (change borrow).conn = borrow.conn ∧ ((change borrow).poised = true → borrow.poised = true) ∧
      ((change borrow).inUse = true → borrow.inUse = true)) : Quieter pool next := by
  rcases onBorrow_some step with ⟨borrow, there, good, rfl⟩
  exact quieter_modify there (keeps borrow good)

theorem quieter_pushBack {place : Nat} {ready : Borrow → Bool} (step : pool.pushBack place ready = some next) :
    Quieter pool next := by
  rcases pushBack_some step with ⟨borrow, there, good, rfl⟩
  exact quieter_modify there ⟨rfl, rfl, nofun, Borrow.inUse_of_toStage nofun⟩

theorem quieter_checker (frame : CheckerFrame pool next)
    (checking : ∀ conn, next.checking.conn = some conn → pool.checking.conn = some conn) : Quieter pool next := by
  refine ⟨?_, checking⟩
  intro place after found
  rw [frame.borrows] at found
  exact ⟨after, found, rfl, rfl, id, id⟩

theorem quieter_checkPing {result : Ping} (step : pool.checkPing result = some next) : Quieter pool next := by
  apply quieter_checker (checkPing_frame step)
  intro conn here
  unfold checkPing at step
  cases checking : pool.checking with
  | between =>
    rw [checking] at step
    cases step
  | pinging found =>
    rw [checking] at step
    cases result with
    | alive =>
      cases step
      cases here
    | lost =>
      cases step
      exact here
    | throws =>
      cases step
      cases here
  | reconnecting found =>
    rw [checking] at step
    cases step

theorem quieter_checkReconnect (step : pool.checkReconnect = some next) : Quieter pool next := by
  apply quieter_checker (checkReconnect_frame step)
  intro conn here
  unfold checkReconnect at step
  split at step <;> cases step
  cases here

/-! The three steps that can let a thread intrude. -/

theorem took_apart (kept : pool.Conserved) (apart : Apart pool) {thread : Thread} {conn : DbConnection}
    {connections : List DbConnection} (queue : pool.connections = conn :: connections) :
    Apart { pool with connections := connections, borrows := pool.borrows ++ [{ thread := thread, conn := conn }] } ↔
      pool.Orderly (.getConnection thread) := by
  have last : (pool.borrows ++ [({ thread := thread, conn := conn } : Borrow)])[pool.borrows.length]? =
      some { thread := thread, conn := conn } := List.getElem?_concat_length
  apply Iff.intro
  · intro after borrow member front unread
    rw [queue] at front
    cases front
    rcases List.getElem?_of_mem member with ⟨place, there⟩
    have still : (pool.borrows ++ [({ thread := thread, conn := borrow.conn } : Borrow)])[place]? = some borrow := by
      rw [List.getElem?_append_left (List.getElem?_eq_some_iff.mp there).1]
      exact there
    have used : borrow.inUse = true := by simp [Borrow.inUse, unread]
    have poised := @Poised.borrower
      { pool with connections := connections, borrows := pool.borrows ++ [{ thread := thread, conn := borrow.conn }] }
      pool.borrows.length { thread := thread, conn := borrow.conn } last rfl
    exact (Option.some.inj (after (some thread) borrow.conn poised place borrow still rfl used)).symm
  · intro orderly user other poised place borrow there own used
    rcases append_some there with old | ⟨_, rfl⟩
    · cases poised with
      | borrower found poised =>
        rcases append_some found with before | ⟨_, rfl⟩
        · exact apart _ _ (.borrower before poised) place borrow old own used
        · -- The connection was in the queue, so that no handle of it is out.
          have same : borrow.conn = conn := own
          have unread : borrow.unread = true := by
            simp only [Borrow.inUse, Bool.or_eq_true, decide_eq_true_eq] at used
            rcases used with handed | unread
            · have out : borrow.out = some conn := by
                rw [← same]
                exact if_neg (by rw [handed]; nofun)
              have once := kept.nodup_iff.mpr List.nodup_range
              rw [queue] at once
              have apart := (List.nodup_append.mp once).2.2
              exact absurd rfl (apart conn (List.mem_cons_self ..) conn (mem_filterMap_place old out))
            · exact unread
          have front : pool.connections.head? = some borrow.conn := by
            rw [queue, same]
            rfl
          exact congrArg some (orderly borrow (List.mem_of_getElem? old) front unread).symm
      | checker here => exact apart _ _ (.checker here) place borrow old own used
    · cases used

theorem out_of_poised {borrow : Borrow} (poised : borrow.poised = true) : borrow.out = some borrow.conn := by
  rcases borrow with ⟨thread, conn, stage, unread⟩
  cases stage with
  | failed => cases poised
  | spent => cases poised
  | returned => cases poised
  | _ => rfl

theorem handed_apart (kept : pool.Conserved) (apart : Apart pool) {place : Nat} {borrow : Borrow}
    (there : pool.borrows[place]? = some borrow) (poised : borrow.poised = true) :
    Apart { pool with borrows := pool.borrows.modify place (·.toStage .handed) } ↔
      pool.checking.conn ≠ some borrow.conn := by
  have changed := getElem?_modify_self there (·.toStage .handed)
  apply Iff.intro
  · intro after here
    cases after none borrow.conn (.checker here) place (borrow.toStage .handed) changed rfl rfl
  · intro away user conn poisedNow other found foundThere own used
    rcases modify_some foundThere with ⟨old, was, shape⟩
    cases poisedNow with
    | @borrower at_ mover moverThere moving =>
      rcases modify_some moverThere with ⟨before, beforeThere, moverShape⟩
      have same : mover.thread = before.thread ∧ mover.conn = before.conn ∧ before.poised = true := by
        split at moverShape
        · rename_i here
          subst here moverShape
          cases there.symm.trans beforeThere
          exact ⟨rfl, rfl, poised⟩
        · subst moverShape
          exact ⟨rfl, rfl, moving⟩
      split at shape
      · rename_i here
        subst here shape
        cases there.symm.trans was
        -- Two threads at one connection that is out of the queue are one thread.
        have once := (List.nodup_append.mp (kept.nodup_iff.mpr List.nodup_range)).2.1
        have conns : before.conn = borrow.conn := same.2.1.symm.trans own.symm
        have places := place_unique once beforeThere (out_of_poised same.2.2) there (conns ▸ out_of_poised poised)
        subst places
        cases beforeThere.symm.trans there
        exact congrArg some same.1
      · subst shape
        rw [same.1]
        exact apart _ _ (.borrower beforeThere same.2.2) other found was (own.trans same.2.1) used
    | checker here =>
      split at shape
      · rename_i atPlace
        subst atPlace shape
        cases there.symm.trans was
        have at_ : borrow.conn = conn := own
        exact absurd here (at_ ▸ away)
      · subst shape
        exact apart _ _ (.checker here) other found was own used

theorem next_apart (apart : Apart pool) {conn : DbConnection} {connsToCheck : List DbConnection}
    (copy : pool.connsToCheck = conn :: connsToCheck) :
    Apart { pool with connsToCheck := connsToCheck, checking := .pinging conn } ↔ pool.Orderly .nextConnection := by
  apply Iff.intro
  · intro after borrow member front
    rw [copy] at front
    cases front
    rcases List.getElem?_of_mem member with ⟨place, there⟩
    cases used : borrow.inUse with
    | false => rfl
    | true => cases after none borrow.conn (.checker rfl) place borrow there rfl used
  · intro orderly user other poised place borrow there own used
    cases poised with
    | borrower found poised => exact apart _ _ (.borrower found poised) place borrow there own used
    | checker here =>
      cases here
      have front : pool.connsToCheck.head? = some borrow.conn := by
        rw [copy, own]
        rfl
      rw [orderly borrow (List.mem_of_getElem? there) front] at used
      cases used

/-- A connection is handed to its borrower. -/
theorem given_apart (kept : pool.Conserved) (apart : Apart pool) {place : Nat} {ready : Borrow → Bool}
    (step : pool.onBorrow place ready (·.toStage .handed) = some next)
    (poised : ∀ borrow, ready borrow = true → borrow.poised = true) :
    Apart next ↔ ∀ borrow, pool.borrows[place]? = some borrow → pool.checking.conn ≠ some borrow.conn := by
  rcases onBorrow_some step with ⟨borrow, there, good, rfl⟩
  rw [handed_apart kept apart there (poised borrow good)]
  apply Iff.intro
  · intro away found foundThere
    cases there.symm.trans foundThere
    exact away
  · exact fun away => away borrow there

/-- One step. -/
theorem apart_step (kept : pool.Conserved) (apart : Apart pool) {action : Action}
    (step : pools.step pool action = some next) : Apart next ↔ pool.Orderly action := by
  have quiet : Quieter pool next → pool.Orderly action → (Apart next ↔ pool.Orderly action) :=
    fun quieter orderly => iff_of_true (apart.quieter quieter) orderly
  cases action with
  | init poolSize made =>
    cases step
    refine quiet ⟨?_, ?_⟩ trivial
    · intro place after found
      refine ⟨after, ?_, rfl, rfl, id, id⟩
      unfold init at found
      split at found <;> exact found
    · intro conn here
      unfold init at here
      split at here <;> exact here
  | getConnection thread =>
    simp only [pools, DbConnectionPool.step, getConnection] at step
    split at step
    · rename_i queue
      split at step
      · cases step
      · cases step
        refine iff_of_true apart ?_
        intro borrow _ front
        rw [queue] at front
        cases front
    · rename_i conn connections queue
      cases step
      exact took_apart kept apart queue
  | ping place result =>
    cases result with
    | alive => exact given_apart kept apart step fun _ good => Borrow.poised_of_stage good rfl
    | lost =>
      apply quiet (quieter_onBorrow step _) trivial
      intro borrow good
      exact ⟨rfl, rfl, fun _ => Borrow.poised_of_stage good rfl, Borrow.inUse_of_toStage (by decide)⟩
    | throws =>
      apply quiet (quieter_onBorrow step _) trivial
      intro borrow good
      exact ⟨rfl, rfl, (fun poised => by cases poised), Borrow.inUse_of_toStage (by decide)⟩
  | reconnect place ok =>
    cases ok with
    | true => exact given_apart kept apart step fun _ good => Borrow.poised_of_stage good rfl
    | false =>
      apply quiet (quieter_onBorrow step _) trivial
      intro borrow good
      exact ⟨rfl, rfl, (fun poised => by cases poised), Borrow.inUse_of_toStage (by decide)⟩
  | pushBack place => exact quiet (quieter_pushBack step) trivial
  | executeQuery place ok =>
    apply quiet (quieter_onBorrow step _) trivial
    intro borrow good
    exact ⟨rfl, rfl, (fun poised => by cases poised), fun _ => Borrow.inUse_of_handed good⟩
  | executeUpdate place =>
    apply quiet (quieter_onBorrow step _) trivial
    intro borrow good
    exact ⟨rfl, rfl, (fun poised => by cases poised), fun _ => Borrow.inUse_of_handed good⟩
  | release place => exact quiet (quieter_pushBack step) trivial
  | finishReading place =>
    refine quiet (quieter_onBorrow step fun borrow good => ⟨rfl, rfl, id, ?_⟩) trivial
    exact fun _ => by simp [Borrow.inUse, good]
  | copyConnections =>
    refine quiet (quieter_checker (copyConnections_frame step) ?_) trivial
    intro conn here
    simp only [pools, DbConnectionPool.step, copyConnections] at step
    split at step
    · cases step
      exact here
    · cases step
  | nextConnection =>
    simp only [pools, DbConnectionPool.step, nextConnection] at step
    split at step
    · cases step
      exact next_apart apart ‹_›
    · cases step
  | checkPing result => exact quiet (quieter_checkPing step) trivial
  | checkReconnect => exact quiet (quieter_checkReconnect step) trivial

/-- In every run, a connection has one user at a time whichever thread goes on, exactly when all its steps are
    orderly; and then none of its steps has intruded. -/
theorem one_user_iff (actions : List Action) (pool : DbConnectionPool) (run : pools.run {} actions = some pool) :
    (pools.Always Exclusive {} actions ↔ pools.Everywhere Orderly {} actions) ∧
      (pools.Everywhere Orderly {} actions →
        pools.Everywhere (fun pool action => ¬ pool.Intrudes action) {} actions) := by
  have start : Conserved {} := List.Perm.refl _
  have quiet : Exclusive {} := by
    apply exclusive_iff.mpr
    intro user conn poised place borrow there
    cases there
  have exact_ : pools.Always Exclusive {} actions ↔ pools.Everywhere Orderly {} actions := by
    apply System.always_iff_everywhere (fun _ _ _ step kept => conserved_step step kept) ?_ start quiet run
    intro pool action next step kept exclusive
    rw [exclusive_iff]
    exact apart_step kept (exclusive_iff.mp exclusive) step
  refine ⟨exact_, fun orderly before action after middle shape prior => ?_⟩
  rw [shape, System.run_append, prior] at run
  have rest : pools.run middle (action :: after) = some pool := run
  rcases Option.bind_eq_some_iff.mp rest with ⟨next, step, _⟩
  exact exact_.mpr orderly before (action :: after) middle shape prior action next step

/-- Two threads and one connection: `executeQuery` has pushed it back before its `ResultSet` is read. -/
def twoQueries : List Action :=
  [.init 1 1, .getConnection 0, .ping 0 .alive, .executeQuery 0 true, .release 0, .getConnection 1, .ping 1 .alive]

theorem query_intrudes :
    ¬ ∀ (actions : List Action) (pool : DbConnectionPool), pools.run {} actions = some pool →
      pools.Everywhere (fun pool action => ¬ pool.Intrudes action) {} actions := by
  intro claimed
  have ends : (pools.run {} twoQueries).isSome = true := by decide
  rcases Option.isSome_iff_exists.mp ends with ⟨pool, run⟩
  apply claimed twoQueries pool run (twoQueries.take 6) (.ping 1 .alive) [] _ rfl rfl
  exact ⟨some 1, 0, rfl, _, List.mem_cons_self .., rfl, rfl, nofun⟩

/-- The same two threads where the first has read its `ResultSet` when the second comes. -/
def readFirst : List Action :=
  [.init 1 1, .getConnection 0, .ping 0 .alive, .executeQuery 0 true, .release 0, .finishReading 0, .getConnection 1,
    .ping 1 .alive, .executeUpdate 1, .release 1, .copyConnections, .nextConnection, .checkPing .alive]

theorem readFirst_exclusive : pools.Always Exclusive {} readFirst := by
  have ends : (pools.run {} readFirst).isSome = true := by decide
  rcases Option.isSome_iff_exists.mp ends with ⟨pool, run⟩
  exact (one_user_iff readFirst pool run).1.mpr (System.everywhere_of_meets (by decide))

end DbConnectionPool

end Db
