import Mathlib.Data.List.TakeWhile
import HttpServerApps.Common.Bytes
import HttpServerApps.Db.Pool

namespace Db.Initialisation

open Common

/-! The pool before its connections are borrowed, with what each of them was made with. -/

structure Settings where
  host : Bytes := []
  user : Bytes := []
  password : Bytes := []
  database : Bytes := []
  deriving DecidableEq

structure DbConnection where
  settings : Settings
  number : Nat
  deriving DecidableEq

structure DbConnectionPool where
  settings : Settings := {}
  connections : List DbConnection := []
  initialized : Bool := false
  created : Nat := 0

/-- A call of `init`, with what the `createConnection` of each round of its loop throws. -/
structure InitCall where
  settings : Settings
  poolSize : Nat
  thrown : Nat → Option Bytes

/-- What `getConnection` does under its lock. -/
inductive Taking where
  | throws (what : Bytes)
  | waits
  | takes (conn : DbConnection)
  deriving DecidableEq

namespace DbConnectionPool

def createConnection (pool : DbConnectionPool) (thrown : Option Bytes) : Except Bytes DbConnection :=
  match thrown with
  | some what => .error what
  | none => .ok ⟨pool.settings, pool.created⟩

def push (pool : DbConnectionPool) (conn : DbConnection) : DbConnectionPool :=
  { pool with connections := pool.connections ++ [conn], created := pool.created + 1 }

/-- The loop from round `i` on; a throw leaves what has been pushed. -/
def createConnections (thrown : Nat → Option Bytes) :
    (left i : Nat) → DbConnectionPool → DbConnectionPool × Except Bytes Unit
  | 0, _, pool => (pool, .ok ())
  | left + 1, i, pool =>
    match pool.createConnection (thrown i) with
    | .error what => (pool, .error what)
    | .ok conn => createConnections thrown left (i + 1) (pool.push conn)

def init (pool : DbConnectionPool) (call : InitCall) : DbConnectionPool × Except Bytes Unit :=
  if pool.initialized then (pool, .ok ())
  else
    match createConnections call.thrown call.poolSize 0 { pool with settings := call.settings } with
    | (pool, .ok ()) => ({ pool with initialized := true }, .ok ())
    | (pool, .error what) => (pool, .error what)

def getConnection (pool : DbConnectionPool) : Taking :=
  match pool.connections with
  | [] => if pool.initialized then .waits else .throws (bytes "Connection pool not initialized")
  | conn :: _ => .takes conn

/-- The pool of the other modules, which know a connection by its number. -/
def numbered (pool : DbConnectionPool) : Db.DbConnectionPool :=
  { connections := pool.connections.map DbConnection.number
    initialized := pool.initialized
    created := pool.created }

end DbConnectionPool

namespace InitCall

/-- How many connections the loop makes when it runs. -/
def made (call : InitCall) : Nat :=
  ((List.range' 0 call.poolSize).takeWhile fun i => (call.thrown i).isNone).length

/-- Some round throws. -/
def Fails (call : InitCall) : Prop := ∃ i < call.poolSize, call.thrown i ≠ none

/-- The first round that throws comes after one that did not. -/
def FailsLate (call : InitCall) : Prop := call.Fails ∧ call.thrown 0 = none

/-- The connections of a call that finds so many made before it. -/
def requested (call : InitCall) (created : Nat) : List DbConnection :=
  (List.range' created call.poolSize).map fun number => ⟨call.settings, number⟩

end InitCall

/-- The pool after these calls, from its construction on. -/
def after (calls : List InitCall) : DbConnectionPool :=
  calls.foldl (fun pool call => (pool.init call).1) {}

/-- Either nothing has been built, or exactly what the one call that succeeded asked for. -/
def AllOrNothing (calls : List InitCall) : Prop :=
  (after calls).initialized = false ∧ (after calls).connections = [] ∧
      (after calls).getConnection = .throws (bytes "Connection pool not initialized") ∨
    (after calls).initialized = true ∧ ∃ earlier call later, calls = earlier ++ call :: later ∧
      (after earlier).initialized = false ∧ ((after earlier).init call).2 = .ok () ∧
      (after calls).connections = call.requested (after earlier).created

/-! One call. -/

namespace InitCall

variable (call : InitCall)

theorem made_le : call.made ≤ call.poolSize := by
  have short := (@List.takeWhile_sublist _ (List.range' 0 call.poolSize) fun i => (call.thrown i).isNone).length_le
  rw [List.length_range'] at short
  exact short

theorem made_eq_poolSize : call.made = call.poolSize ↔ ¬ call.Fails := by
  have whole : call.made = call.poolSize ↔
      (List.range' 0 call.poolSize).takeWhile (fun i => (call.thrown i).isNone) = List.range' 0 call.poolSize := by
    apply Iff.intro
    · intro length
      apply (List.takeWhile_sublist _).eq_of_length
      rw [List.length_range']
      exact length
    · intro same
      unfold made
      rw [same, List.length_range']
  rw [whole, List.takeWhile_eq_self_iff]
  unfold Fails
  simp

theorem made_eq_zero (fails : call.Fails) : call.made = 0 ↔ ¬ call.FailsLate := by
  rcases fails with ⟨i, below, throws⟩
  obtain ⟨size, shape⟩ : ∃ size, call.poolSize = size + 1 := ⟨call.poolSize - 1, by omega⟩
  unfold made FailsLate
  rw [shape, List.range'_succ, List.takeWhile_cons]
  cases first : call.thrown 0 with
  | none =>
    apply iff_of_false
    · simp
    · simp only [and_true, not_not]
      exact ⟨i, below, throws⟩
  | some what => simp

end InitCall

namespace DbConnectionPool

theorem createConnections_eq (thrown : Nat → Option Bytes) (left i : Nat) (pool : DbConnectionPool) :
    let made := ((List.range' i left).takeWhile fun i => (thrown i).isNone).length
    (createConnections thrown left i pool).1 =
        { pool with
          connections := pool.connections ++ (List.range' pool.created made).map fun number => ⟨pool.settings, number⟩
          created := pool.created + made } ∧
      ((createConnections thrown left i pool).2 = .ok () ↔ made = left) := by
  induction left generalizing i pool with
  | zero => simp [createConnections]
  | succ left ih =>
    rw [createConnections, List.range'_succ]
    cases throws : thrown i with
    | some what => simp [createConnection, throws]
    | none =>
      have later := ih (i + 1) (pool.push ⟨pool.settings, pool.created⟩)
      simp only [createConnection, List.takeWhile_cons, throws, Option.isNone_none, if_true, List.length_cons]
      refine ⟨later.1.trans ?_, later.2.trans (by omega)⟩
      simp only [push, List.range'_succ, List.map_cons, List.append_assoc, List.singleton_append]
      congr 1
      omega

theorem init_initialized {pool : DbConnectionPool} (ready : pool.initialized = true) (call : InitCall) :
    pool.init call = (pool, .ok ()) := by
  unfold init
  rw [if_pos ready]

theorem init_fresh {pool : DbConnectionPool} (fresh : pool.initialized = false) (call : InitCall) :
    (pool.init call).1 =
        { settings := call.settings
          connections := pool.connections ++
            (List.range' pool.created call.made).map fun number => ⟨call.settings, number⟩
          initialized := decide (call.made = call.poolSize)
          created := pool.created + call.made } ∧
      ((pool.init call).2 = .ok () ↔ call.made = call.poolSize) := by
  have loop := createConnections_eq call.thrown call.poolSize 0 { pool with settings := call.settings }
  unfold init
  rw [fresh, if_neg (by decide), ← fresh]
  rcases shape : createConnections call.thrown call.poolSize 0 { pool with settings := call.settings } with ⟨built, outcome⟩
  rw [shape] at loop
  rcases loop with ⟨state, success⟩
  change built = { pool with
    settings := call.settings
    connections := pool.connections ++ (List.range' pool.created call.made).map fun number => ⟨call.settings, number⟩
    created := pool.created + call.made } at state
  change outcome = .ok () ↔ call.made = call.poolSize at success
  rw [state]
  cases outcome with
  | ok _ =>
    have whole := success.mp rfl
    apply And.intro
    · simp only [decide_eq_true whole]
    · exact iff_of_true rfl whole
  | error what =>
    have partly : ¬ call.made = call.poolSize := fun whole => by cases success.mpr whole
    apply And.intro
    · simp only [decide_eq_false partly, fresh]
    · exact success

/-- The calls are those of the pool in the other modules. -/
theorem init_numbered (pool : DbConnectionPool) (call : InitCall) :
    (pool.init call).1.numbered = pool.numbered.init call.poolSize call.made := by
  have bound : call.made ≤ call.poolSize := call.made_le
  unfold numbered Db.DbConnectionPool.init
  cases ready : pool.initialized with
  | true =>
    rw [init_initialized ready, if_pos rfl, ready]
  | false =>
    have least : min call.poolSize call.made = call.made := by omega
    have same : decide (call.made = call.poolSize) = decide (call.poolSize ≤ call.made) := by
      apply decide_eq_decide.mpr
      omega
    rw [(init_fresh ready call).1, if_neg Bool.false_ne_true]
    simp only [least, same, List.map_append, List.map_map, Function.comp_def, List.map_id']

end DbConnectionPool

/-! Sequences of calls. -/

theorem after_append (calls : List InitCall) (call : InitCall) :
    after (calls ++ [call]) = ((after calls).init call).1 := by
  unfold after
  rw [List.foldl_append]
  rfl

theorem uninitialised_iff (calls : List InitCall) :
    (after calls).initialized = false ↔ ∀ call ∈ calls, call.Fails := by
  induction calls using List.reverseRecOn with
  | nil => exact iff_of_true rfl nofun
  | append_singleton calls call ih =>
    rw [after_append]
    cases ready : (after calls).initialized with
    | true =>
      rw [DbConnectionPool.init_initialized ready]
      apply iff_of_false
      · simp [ready]
      · intro all
        have fresh := ih.mpr fun other member => all other (List.mem_append_left _ member)
        rw [ready] at fresh
        cases fresh
    | false =>
      rw [(DbConnectionPool.init_fresh ready call).1]
      have full := call.made_eq_poolSize
      have before := ih.mp ready
      apply Iff.intro
      · intro partly other member
        rcases List.mem_append.mp member with earlier | here
        · exact before other earlier
        · rcases List.mem_singleton.mp here
          by_contra succeeds
          exact of_decide_eq_false partly (full.mpr succeeds)
      · intro all
        have fails := all call (by simp)
        exact decide_eq_false fun whole => full.mp whole fails

theorem settled {calls : List InitCall} (ready : (after calls).initialized = true) (later : List InitCall) :
    after (calls ++ later) = after calls := by
  induction later using List.reverseRecOn with
  | nil => rw [List.append_nil]
  | append_singleton later call ih =>
    rw [← List.append_assoc, after_append, ih, DbConnectionPool.init_initialized ready]

theorem nothing_built {calls : List InitCall} (fail : ∀ call ∈ calls, call.Fails)
    (early : ∀ call ∈ calls, ¬ call.FailsLate) : (after calls).connections = [] := by
  induction calls using List.reverseRecOn with
  | nil => rfl
  | append_singleton calls call ih =>
    have before := ih (fun other member => fail other (List.mem_append_left _ member))
      fun other member => early other (List.mem_append_left _ member)
    have fresh := (uninitialised_iff calls).mpr fun other member => fail other (List.mem_append_left _ member)
    have none_ := (call.made_eq_zero (fail call (by simp))).mpr (early call (by simp))
    rw [after_append, (DbConnectionPool.init_fresh fresh call).1, before, none_]
    rfl

theorem something_built {calls : List InitCall} (fail : ∀ call ∈ calls, call.Fails) {call : InitCall}
    (late : call.FailsLate) : (after (calls ++ [call])).connections ≠ [] := by
  have fresh := (uninitialised_iff calls).mpr fail
  have some_ : call.made ≠ 0 := fun none_ => (call.made_eq_zero late.1).mp none_ late
  rw [after_append, (DbConnectionPool.init_fresh fresh call).1]
  intro empty
  rcases List.append_eq_nil_iff.mp empty with ⟨_, none_⟩
  rw [List.map_eq_nil_iff, List.range'_eq_nil_iff] at none_
  exact some_ none_

theorem first_success {calls : List InitCall} (some_ : ¬ ∀ call ∈ calls, call.Fails) :
    ∃ earlier call later, calls = earlier ++ call :: later ∧ (∀ other ∈ earlier, other.Fails) ∧ ¬ call.Fails := by
  induction calls with
  | nil => exact absurd nofun some_
  | cons call calls ih =>
    by_cases fails : call.Fails
    · have rest : ¬ ∀ other ∈ calls, other.Fails := by
        intro all
        exact some_ fun other member => (List.mem_cons.mp member).elim (fun same => same ▸ fails) (all other)
      rcases ih rest with ⟨earlier, success, later, shape, fail, succeeds⟩
      refine ⟨call :: earlier, success, later, by rw [shape]; rfl, ?_, succeeds⟩
      exact fun other member => (List.mem_cons.mp member).elim (fun same => same ▸ fails) (fail other)
    · exact ⟨[], call, calls, rfl, nofun, fails⟩

theorem allOrNothing {calls : List InitCall}
    (early : ∀ before call rest, calls = before ++ call :: rest → (∀ other ∈ before, other.Fails) → ¬ call.FailsLate) :
    AllOrNothing calls := by
  by_cases all : ∀ call ∈ calls, call.Fails
  · left
    have fresh := (uninitialised_iff calls).mpr all
    have none_ : (after calls).connections = [] := by
      apply nothing_built all
      intro call member
      rcases List.append_of_mem member with ⟨before, rest, shape⟩
      apply early before call rest shape
      intro other inside
      apply all other
      rw [shape]
      exact List.mem_append_left _ inside
    refine ⟨fresh, none_, ?_⟩
    unfold DbConnectionPool.getConnection
    rw [none_, fresh]
    rfl
  · right
    rcases first_success all with ⟨earlier, call, later, shape, fail, succeeds⟩
    have fresh := (uninitialised_iff earlier).mpr fail
    have none_ : (after earlier).connections = [] := by
      apply nothing_built fail
      intro other member
      rcases List.append_of_mem member with ⟨before, rest, cut⟩
      apply early before other (rest ++ call :: later) (by rw [shape, cut]; simp)
      intro first inside
      apply fail first
      rw [cut]
      exact List.mem_append_left _ inside
    have whole := call.made_eq_poolSize.mpr succeeds
    rcases DbConnectionPool.init_fresh fresh call with ⟨built, success⟩
    have once : after (earlier ++ [call]) = ((after earlier).init call).1 := after_append earlier call
    have ready : (after (earlier ++ [call])).initialized = true := by
      rw [once, built]
      exact decide_eq_true whole
    have last : after calls = after (earlier ++ [call]) := by
      rw [shape, ← settled ready later, List.append_assoc]
      rfl
    refine ⟨by rw [last]; exact ready, earlier, call, later, shape, fresh, success.mpr whole, ?_⟩
    rw [last, once, built, none_, whole]
    rfl

/-- After every call the pool is all or nothing, exactly when no call before the first success fails with
    connections already made. -/
theorem initialisation_iff (calls : List InitCall) :
    (∀ before rest, calls = before ++ rest → AllOrNothing before) ↔
      ∀ before call rest, calls = before ++ call :: rest → (∀ other ∈ before, other.Fails) → ¬ call.FailsLate := by
  apply Iff.intro
  · intro always before call rest shape fail late
    have built := something_built fail late
    have fresh : (after (before ++ [call])).initialized = false := by
      apply (uninitialised_iff _).mpr
      intro other member
      rcases List.mem_append.mp member with earlier | here
      · exact fail other earlier
      · rcases List.mem_singleton.mp here
        exact late.1
    rcases always (before ++ [call]) rest (by rw [shape]; simp) with ⟨_, none_, _⟩ | ⟨ready, _⟩
    · exact built none_
    · rw [fresh] at ready
      cases ready
  · intro early before rest shape
    apply allOrNothing
    intro first call later cut fail
    exact early first call (later ++ rest) (by rw [shape, cut]; simp) fail

/-- The second connection cannot be made: the first stays in a pool that is not initialised. -/
theorem second_connection_fails :
    ¬ AllOrNothing [⟨{}, 2, fun i => if i = 1 then some (bytes "Too many connections") else none⟩] := by
  rintro (⟨_, none_, _⟩ | ⟨ready, _⟩)
  · cases none_
  · cases ready

end Db.Initialisation
