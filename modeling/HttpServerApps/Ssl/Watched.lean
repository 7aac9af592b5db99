import HttpServerApps.Ssl.EngineMap
import HttpServerApps.Ssl.Growth

namespace Ssl

open Common OpenSSL

/-- A call to libssl that can fail, with its result; `fed` tells whether `BIO_write` took all the bytes. -/
inductive Report where
  | handshake (result : HandshakeResult)
  | read (result : ReadResult)
  | write (result : WriteResult)
  | fed (whole : Bool)

def ErrorCode.fatal : ErrorCode → Bool
  | .ssl | .syscall => true
  | _ => false

def HandshakeResult.fatal : HandshakeResult → Bool
  | .done => false
  | .failed err => err.fatal

def ReadResult.fatal : ReadResult → Bool
  | .data _ => false
  | .failed _ err => err.fatal

def WriteResult.fatal : WriteResult → Bool
  | .accepted _ => false
  | .failed err => err.fatal

namespace Report

def fatal : Report → Bool
  | .handshake result => result.fatal
  | .read result => result.fatal
  | .write result => result.fatal
  | .fed whole => !whole

/-- The bytes an `SSL_read` has returned. -/
def data : Report → Bytes
  | .read (.data bytes) => bytes
  | _ => []

/-- The calls that feed the read BIO, offer plaintext or have returned some. -/
def moves : Report → Bool
  | .handshake _ => false
  | .read (.data _) => true
  | .read (.failed ..) => false
  | .write _ => true
  | .fed _ => true

theorem data_of_still {report : Report} (still : report.moves = false) : report.data = [] := by
  cases report with
  | read result =>
    cases result with
    | data bytes => cases still
    | failed negative err => rfl
  | _ => rfl

theorem data_of_fatal {report : Report} (fatal : report.fatal = true) : report.data = [] := by
  cases report with
  | read result =>
    cases result with
    | data bytes => cases fatal
    | failed negative err => rfl
  | _ => rfl

end Report

/-- An engine that lists the results of the calls made on it, and is otherwise the engine it has. -/
structure Watched (Engine : Type) where
  engine : Engine
  reports : List Report := []

def Watched.report {Engine : Type} (reports : List Report) (engine : Engine) (report : Report) : Watched Engine :=
  ⟨engine, reports ++ [report]⟩

instance {Engine : Type} [OpenSSL Engine] : OpenSSL (Watched Engine) where
  doHandshake ssl :=
    ((doHandshake ssl.engine).1,
      Watched.report ssl.reports (doHandshake ssl.engine).2 (.handshake (doHandshake ssl.engine).1))
  sslRead ssl size :=
    ((sslRead ssl.engine size).1,
      Watched.report ssl.reports (sslRead ssl.engine size).2 (.read (sslRead ssl.engine size).1))
  sslWrite ssl offered :=
    ((sslWrite ssl.engine offered).1,
      Watched.report ssl.reports (sslWrite ssl.engine offered).2 (.write (sslWrite ssl.engine offered).1))
  bioWrite ssl data :=
    ((bioWrite ssl.engine data).1,
      Watched.report ssl.reports (bioWrite ssl.engine data).2 (.fed ((bioWrite ssl.engine data).1 = data.length)))
  bioPending ssl := bioPending ssl.engine
  bioRead ssl size := ((bioRead ssl.engine size).1, ⟨(bioRead ssl.engine size).2, ssl.reports⟩)
  unread ssl := unread ssl.engine
  sslWrite_bound ssl offered n took := sslWrite_bound ssl.engine offered n took
  sslRead_unread ssl size data positive read := sslRead_unread ssl.engine size data positive read
  bioRead_pending ssl size := bioRead_pending ssl.engine size

namespace SslConnection

variable {Engine : Type}

def reports (conn : SslConnection (Watched Engine)) : List Report := conn.ssl.reports

/-- The connection on the engine that is watched. -/
def unwatched (conn : SslConnection (Watched Engine)) : SslConnection Engine :=
  { ssl := conn.ssl.engine, state := conn.state, decryptedBuffer := conn.decryptedBuffer
    pendingPlain := conn.pendingPlain, calls := conn.calls }

variable [OpenSSL Engine]

/-! Watching changes nothing. -/

def watchedEngine : EngineMap (Watched Engine) Engine where
  map := Watched.engine
  doHandshake _ := rfl
  sslRead _ _ := rfl
  sslWrite _ _ := rfl
  bioWrite _ _ := rfl
  bioPending _ := rfl
  bioRead _ _ := rfl
  unread _ := rfl

theorem unwatched_handshake (conn : SslConnection (Watched Engine)) :
    conn.handleHandshake.unwatched = conn.unwatched.handleHandshake := onEngine_handshake watchedEngine conn

theorem unwatched_send (conn : SslConnection (Watched Engine)) (data : Bytes) :
    (conn.send data).unwatched = conn.unwatched.send data := onEngine_send watchedEngine conn data

theorem unwatched_onWriteComplete (conn : SslConnection (Watched Engine)) :
    conn.onWriteComplete.unwatched = conn.unwatched.onWriteComplete := onEngine_onWriteComplete watchedEngine conn

theorem unwatched_onRead (conn : SslConnection (Watched Engine)) (buf : Bytes) :
    conn.unwatched.onRead buf = ((conn.onRead buf).1.unwatched, (conn.onRead buf).2) :=
  onEngine_onRead watchedEngine conn buf

end SslConnection

end Ssl
