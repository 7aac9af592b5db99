import HttpServerApps.Ssl.Engine

namespace Ssl

open Common OpenSSL

inductive SSLState where
  | HANDSHAKE
  | ESTABLISHED
  | SHUTDOWN
  | ERROR
  deriving DecidableEq

inductive SSLError where
  | NONE
  | WANT_READ
  | WANT_WRITE
  | SYSCALL
  | SSL
  | UNKNOWN
  deriving DecidableEq

/-- A call that moves data in or out of the connection, with its result. -/
inductive Call where
  | sslWrite (offered : Bytes) (result : WriteResult)
  | sslRead (result : ReadResult)
  | connSend (data : Bytes)
  | connShutdown

/-- A connection that passed `ok()`; `HttpServer` keeps no other. `calls` lists the calls made. -/
structure SslConnection (Engine : Type) where
  ssl : Engine
  state : SSLState := .HANDSHAKE
  decryptedBuffer : Bytes := []
  pendingPlain : Bytes := []
  calls : List Call := []

def INT_MAX : Nat := 2147483647
def kMaxSpins : Nat := 65536

namespace SslConnection

variable {Engine : Type}

def record (conn : SslConnection Engine) (call : Call) : SslConnection Engine :=
  { conn with calls := conn.calls ++ [call] }

def setState (conn : SslConnection Engine) (state : SSLState) : SslConnection Engine :=
  { conn with state := state }

def setPending (conn : SslConnection Engine) (pendingPlain : Bytes) : SslConnection Engine :=
  { conn with pendingPlain := pendingPlain }

def setSsl (conn : SslConnection Engine) (ssl : Engine) : SslConnection Engine := { conn with ssl := ssl }

variable [OpenSSL Engine]

def write (conn : SslConnection Engine) (offered : Bytes) : WriteResult × SslConnection Engine :=
  let (result, ssl) := sslWrite conn.ssl offered
  (result, (conn.setSsl ssl).record (.sslWrite offered result))

/-- Every round but the last takes pending bytes, so the fuel outlasts the loop. -/
def flushLoop : Nat → SslConnection Engine → SslConnection Engine
  | 0, conn => conn
  | fuel + 1, conn =>
    let pending := bioPending conn.ssl
    if 0 < pending then
      let (data, ssl) := bioRead conn.ssl (min pending 4096)
      if data ≠ [] then flushLoop fuel ((conn.setSsl ssl).record (.connSend data)) else conn.setSsl ssl
    else conn

def flushWriteBio (conn : SslConnection Engine) : SslConnection Engine :=
  flushLoop (bioPending conn.ssl) conn

def feedLoop : Nat → SslConnection Engine → Bytes → SslConnection Engine × Bool
  | 0, conn, _ => (conn, true)
  | fuel + 1, conn, data =>
    if data = [] then (conn, true)
    else
      let chunk := data.take INT_MAX
      let (w, ssl) := bioWrite conn.ssl chunk
      let conn := conn.setSsl ssl
      if w ≠ chunk.length then (((conn.setState .ERROR).flushWriteBio).record .connShutdown, false)
      else feedLoop fuel conn (data.drop INT_MAX)

def feedReadBio (conn : SslConnection Engine) (data : Bytes) : SslConnection Engine × Bool :=
  feedLoop data.length conn data

/-- What `drainPendingPlain` does when a write fails. -/
def drainFailed (conn : SslConnection Engine) (err : ErrorCode) : SslConnection Engine :=
  match err with
  | .wantRead | .wantWrite => conn.flushWriteBio
  | .zeroReturn => (conn.setPending []).flushWriteBio
  | _ => (((conn.setPending []).setState .ERROR).flushWriteBio).record .connShutdown

/-- The loop of `drainPendingPlain` and what follows it; the number of spins left. -/
def drainLoop : Nat → SslConnection Engine → SslConnection Engine
  | 0, conn =>
    if conn.pendingPlain ≠ [] then ((conn.setPending []).setState .ERROR).record .connShutdown
    else conn.flushWriteBio
  | spins + 1, conn =>
    if conn.pendingPlain = [] then conn.flushWriteBio
    else
      match conn.write (conn.pendingPlain.take INT_MAX) with
      | (.accepted n, conn) =>
        drainLoop spins (conn.setPending (conn.pendingPlain.drop n)).flushWriteBio
      | (.failed err, conn) => conn.drainFailed err

def drainPendingPlain (conn : SslConnection Engine) : SslConnection Engine :=
  if conn.state ≠ .ESTABLISHED then conn else drainLoop kMaxSpins conn

def handleHandshake (conn : SslConnection Engine) : SslConnection Engine :=
  let (result, ssl) := doHandshake conn.ssl
  let conn := conn.setSsl ssl
  match result with
  | .done => (conn.setState .ESTABLISHED).flushWriteBio
  | .failed .wantRead => conn.flushWriteBio
  | .failed .wantWrite => conn.flushWriteBio
  | .failed _ => (conn.record .connShutdown).flushWriteBio

def startHandshake (conn : SslConnection Engine) : SslConnection Engine := conn.handleHandshake

def onWriteComplete (conn : SslConnection Engine) : SslConnection Engine :=
  let conn := conn.flushWriteBio
  if conn.state = .HANDSHAKE then conn.handleHandshake
  else if conn.state = .ESTABLISHED then conn.drainPendingPlain.flushWriteBio
  else conn

/-- What `send` does when a write fails with `data` remaining. -/
def sendFailed (conn : SslConnection Engine) (err : ErrorCode) (data : Bytes) : SslConnection Engine :=
  match err with
  | .wantRead | .wantWrite =>
    (conn.flushWriteBio.setPending (conn.pendingPlain ++ data)).drainPendingPlain
  | .zeroReturn => conn.flushWriteBio
  | _ => (((conn.setPending []).setState .ERROR).flushWriteBio).record .connShutdown

/-- The loop of `send`; `data` is what remains. -/
def sendLoop : Nat → SslConnection Engine → Bytes → SslConnection Engine
  | 0, conn, _ => conn.flushWriteBio
  | fuel + 1, conn, data =>
    if data = [] then conn.flushWriteBio
    else
      match conn.write (data.take INT_MAX) with
      | (.accepted n, conn) => sendLoop fuel conn.flushWriteBio (data.drop n)
      | (.failed err, conn) => conn.sendFailed err data

def send (conn : SslConnection Engine) (data : Bytes) : SslConnection Engine :=
  if conn.state ≠ .ESTABLISHED then conn
  else if data = [] then conn
  else sendLoop data.length conn data

def getLastError (err : ErrorCode) : SSLError :=
  match err with
  | .none => .NONE
  | .wantRead => .WANT_READ
  | .wantWrite => .WANT_WRITE
  | .syscall => .SYSCALL
  | .ssl => .SSL
  | _ => .UNKNOWN

def handleError (conn : SslConnection Engine) (error : SSLError) : SslConnection Engine :=
  match error with
  | .SSL | .SYSCALL | .UNKNOWN => (conn.setState .ERROR).record .connShutdown
  | _ => conn

/-- The `SSL_read` loop of `onRead`; with the result that ends it. -/
def readLoop : Nat → SslConnection Engine → SslConnection Engine × Option (Bool × ErrorCode)
  | 0, conn => (conn, none)
  | fuel + 1, conn =>
    let (result, ssl) := sslRead conn.ssl 4096
    let conn := (conn.setSsl ssl).record (.sslRead result)
    match result with
    | .data decryptedData =>
      readLoop fuel { conn with decryptedBuffer := conn.decryptedBuffer ++ decryptedData }
    | .failed negative err => (conn, some (negative, err))

/-- The Muduo buffer is given and handed back. -/
def onRead (conn : SslConnection Engine) (buf : Bytes) : SslConnection Engine × Bytes :=
  if conn.state = .HANDSHAKE then
    match conn.feedReadBio buf with
    | (conn, false) => (conn, buf)
    | (conn, true) => (conn.handleHandshake, [])
  else if conn.state = .ESTABLISHED then
    if buf = [] then (conn, buf)
    else
      match conn.feedReadBio buf with
      | (conn, false) => (conn, buf)
      | (conn, true) =>
        match readLoop (unread conn.ssl + 1) conn with
        | (conn, some (true, err)) =>
          let error := getLastError err
          let conn :=
            if error ≠ .WANT_READ ∧ error ≠ .WANT_WRITE then conn.handleError error else conn
          (conn.flushWriteBio.drainPendingPlain, [])
        | (conn, _) => (conn.flushWriteBio.drainPendingPlain, [])
  else (conn, buf)

end SslConnection

end Ssl
