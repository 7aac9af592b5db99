import HttpServerApps.Common.Places
import HttpServerApps.Common.Runs
import Mathlib.Data.List.Range

namespace Db

open Common

/-- The connections are numbered as `createConnection` makes them. -/
abbrev DbConnection := Nat

abbrev Thread := Nat

/-- How far a call of `getConnection` and the use of what it returns have come. -/
inductive Stage where
  /-- Taken from the queue, before `ping`. -/
  | pinging
  /-- `ping` has returned false. -/
  | reconnecting
  /-- In the `catch` block, before the connection is pushed back. -/
  | failed
  /-- The handle is out, its caller has not finished its statement. -/
  | handed
  /-- The statement has returned or thrown, the handle is still there. -/
  | spent
  /-- The connection has been pushed back. -/
  | returned
  deriving DecidableEq

/-- A call of `getConnection` that has taken a connection, and its caller's use of it. -/
structure Borrow where
  thread : Thread
  conn : DbConnection
  stage : Stage := .pinging
  /-- Whether there is a `ResultSet` of its statement that the caller has not finished reading. -/
  unread : Bool := false

namespace Borrow

def toStage (borrow : Borrow) (stage : Stage) : Borrow := { borrow with stage := stage }

/-- The connection, while it is not in the queue. -/
def out (borrow : Borrow) : Option DbConnection := if borrow.stage = .returned then none else some borrow.conn

/-- Between the moment the connection is handed out and the end of the statement and of its `ResultSet`. -/
def inUse (borrow : Borrow) : Bool := borrow.stage = .handed || borrow.unread

end Borrow

/-- Where the check thread is in its `for` loop. -/
inductive Checking where
  | between
  | pinging (conn : DbConnection)
  | reconnecting (conn : DbConnection)
  deriving DecidableEq

/-- The pool, with the calls made on it and the locals of `checkConnections`. -/
structure DbConnectionPool where
  connections : List DbConnection := []
  initialized : Bool := false
  created : Nat := 0
  borrows : List Borrow := []
  connsToCheck : List DbConnection := []
  checking : Checking := .between

/-- What `ping` does. It catches only `SQLException`. -/
inductive Ping where
  | alive
  | lost
  | throws
  deriving DecidableEq

/-- What the threads do next. Every block under the lock is one step, and so is every call on a connection. -/
inductive Action where
  | init (poolSize made : Nat)
  | getConnection (thread : Thread)
  | ping (place : Nat) (result : Ping)
  | reconnect (place : Nat) (ok : Bool)
  | pushBack (place : Nat)
  | executeQuery (place : Nat) (ok : Bool)
  | executeUpdate (place : Nat)
  | release (place : Nat)
  | finishReading (place : Nat)
  | copyConnections
  | nextConnection
  | checkPing (result : Ping)
  | checkReconnect

namespace DbConnectionPool

/-- `made` calls of `createConnection` return before one throws. -/
def init (pool : DbConnectionPool) (poolSize made : Nat) : DbConnectionPool :=
  if pool.initialized then pool
  else
    { pool with
      connections := pool.connections ++ List.range' pool.created (min poolSize made)
      created := pool.created + min poolSize made
      initialized := poolSize ≤ made }

/-- Up to the release of the lock. A call that waits on `cv_` is not possible yet. -/
def getConnection (pool : DbConnectionPool) (thread : Thread) : Option DbConnectionPool :=
  match pool.connections with
  | [] => if pool.initialized then none else some pool
  | conn :: connections =>
    some { pool with connections := connections, borrows := pool.borrows ++ [{ thread := thread, conn := conn }] }

def onBorrow (pool : DbConnectionPool) (place : Nat) (ready : Borrow → Bool) (change : Borrow → Borrow) :
    Option DbConnectionPool :=
  match pool.borrows[place]? with
  | some borrow => if ready borrow then some { pool with borrows := pool.borrows.modify place change } else none
  | none => none

/-- `connections_.push(conn)`, in the `catch` block and in the deleter of the handle. -/
def pushBack (pool : DbConnectionPool) (place : Nat) (ready : Borrow → Bool) : Option DbConnectionPool :=
  match pool.borrows[place]? with
  | some borrow =>
    if ready borrow then
      some { pool with
        borrows := pool.borrows.modify place (·.toStage .returned)
        connections := pool.connections ++ [borrow.conn] }
    else none
  | none => none

/-- `checkConnections` copies the queue under the lock, when it has gone through its last copy. -/
def copyConnections (pool : DbConnectionPool) : Option DbConnectionPool :=
  if pool.checking = .between ∧ pool.connsToCheck = [] then some { pool with connsToCheck := pool.connections }
  else none

def nextConnection (pool : DbConnectionPool) : Option DbConnectionPool :=
  match pool.checking, pool.connsToCheck with
  | .between, conn :: connsToCheck => some { pool with connsToCheck := connsToCheck, checking := .pinging conn }
  | _, _ => none

def checkPing (pool : DbConnectionPool) (result : Ping) : Option DbConnectionPool :=
  match pool.checking, result with
  | .pinging _, .alive => some { pool with checking := .between }
  | .pinging conn, .lost => some { pool with checking := .reconnecting conn }
  -- The outer `catch` gives up the rest of the copy.
  | .pinging _, .throws => some { pool with checking := .between, connsToCheck := [] }
  | _, _ => none

/-- Whether `reconnect` throws or not, the loop goes on. -/
def checkReconnect (pool : DbConnectionPool) : Option DbConnectionPool :=
  match pool.checking with
  | .reconnecting _ => some { pool with checking := .between }
  | _ => none

def step (pool : DbConnectionPool) : Action → Option DbConnectionPool
  | .init poolSize made => some (pool.init poolSize made)
  | .getConnection thread => pool.getConnection thread
  | .ping place .alive => pool.onBorrow place (·.stage = .pinging) (·.toStage .handed)
  | .ping place .lost => pool.onBorrow place (·.stage = .pinging) (·.toStage .reconnecting)
  | .ping place .throws => pool.onBorrow place (·.stage = .pinging) (·.toStage .failed)
  | .reconnect place true => pool.onBorrow place (·.stage = .reconnecting) (·.toStage .handed)
  | .reconnect place false => pool.onBorrow place (·.stage = .reconnecting) (·.toStage .failed)
  | .pushBack place => pool.pushBack place (·.stage = .failed)
  | .executeQuery place ok =>
    pool.onBorrow place (·.stage = .handed) fun borrow => { borrow with stage := .spent, unread := borrow.unread || ok }
  | .executeUpdate place => pool.onBorrow place (·.stage = .handed) (·.toStage .spent)
  | .release place => pool.pushBack place fun borrow => borrow.stage = .handed || borrow.stage = .spent
  | .finishReading place => pool.onBorrow place Borrow.unread fun borrow => { borrow with unread := false }
  | .copyConnections => pool.copyConnections
  | .nextConnection => pool.nextConnection
  | .checkPing result => pool.checkPing result
  | .checkReconnect => pool.checkReconnect

end DbConnectionPool

def pools : System DbConnectionPool Action := ⟨DbConnectionPool.step⟩

end Db
