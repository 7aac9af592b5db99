import HttpServerApps.Common.Runs
import HttpServerApps.Http.Context
import HttpServerApps.Http.HandleRequest
import HttpServerApps.Ssl.Connection

namespace Http

open Common MuduoBuffer Middlewares Ssl

def kHttp400 : Bytes := bytes "HTTP/1.1 400 Bad Request\r\n\r\n"

def kHttp413 : Bytes := bytes "HTTP/1.1 413 Payload Too Large\r\nConnection: close\r\n\r\n"

structure HttpServer where
  useSSL : Bool := false
  maxRequestBodyBytes : UInt64 := 8 * 1024 * 1024

/-- A `TcpConnection` with what the server keeps for it. `calls` are the calls on it of a connection
    without TLS; `dispatched` lists the requests given to `httpCallback_`. -/
structure Connection (Engine : Type) where
  context : HttpContext
  buf : Bytes := []
  sslConn : Option (SslConnection Engine) := none
  calls : List Call := []
  dispatched : List HttpRequest := []

/-- Bytes that arrive, with what `httpCallback_` makes of a request and a fresh response then. -/
structure Delivery where
  data : Bytes
  arrives : data ≠ []
  receiveTime : Timestamp
  httpCallback : HttpRequest → HttpResponse → Except Thrown HttpResponse

inductive Event where
  | message (delivery : Delivery)
  | writeComplete

/-- Muduo drops what is sent after `shutdown()`. -/
def sentBy : List Call → List Bytes
  | [] => []
  | .connSend data :: calls => data :: sentBy calls
  | .connShutdown :: _ => []
  | _ :: calls => sentBy calls

namespace Connection

variable {Engine : Type}

def allCalls (conn : Connection Engine) : List Call :=
  match conn.sslConn with
  | some sslConn => sslConn.calls
  | none => conn.calls

def wire (conn : Connection Engine) : List Bytes := sentBy conn.allCalls

def record (conn : Connection Engine) (call : Call) : Connection Engine :=
  match conn.sslConn with
  | some sslConn => { conn with sslConn := some (sslConn.record call) }
  | none => { conn with calls := conn.calls ++ [call] }

def shutdown (conn : Connection Engine) : Connection Engine := conn.record .connShutdown

/-- The buffer that `onMessage` parses. -/
def input (conn : Connection Engine) : Bytes :=
  match conn.sslConn with
  | some sslConn => sslConn.decryptedBuffer
  | none => conn.buf

def setInput (conn : Connection Engine) (left : Bytes) : Connection Engine :=
  match conn.sslConn with
  | some sslConn => { conn with sslConn := some { sslConn with decryptedBuffer := left } }
  | none => { conn with buf := left }

def setContext (conn : Connection Engine) (context : HttpContext) : Connection Engine :=
  { conn with context := context }

end Connection

namespace HttpServer

variable {Engine : Type} [OpenSSL Engine]

def sendToClient (server : HttpServer) (conn : Connection Engine) (data : Bytes) : Connection Engine :=
  if data = [] then conn
  else if server.useSSL then
    match conn.sslConn with
    | some sslConn =>
      if sslConn.state = .ESTABLISHED then { conn with sslConn := some (sslConn.send data) } else conn
    | none => conn
  else conn.record (.connSend data)

/-- A new connection; `ssl` is there when `SslConnection` could be set up on it. -/
def onConnection (server : HttpServer) (ssl : Option Engine) : Connection Engine :=
  let conn : Connection Engine := { context := { maxBodyBytes := server.maxRequestBodyBytes } }
  if server.useSSL then
    match ssl with
    | some ssl => { conn with sslConn := some ({ ssl := ssl } : SslConnection Engine).startHandshake }
    | none => conn.shutdown
  else conn

/-- The start of `onMessage`: where the bytes go, and whether there is something to parse. -/
def receive (server : HttpServer) (conn : Connection Engine) (data : Bytes) : Connection Engine × Bool :=
  let buf := conn.buf ++ data
  if server.useSSL then
    match conn.sslConn with
    | none => ({ conn with buf := buf }.shutdown, false)
    | some sslConn =>
      let (sslConn, buf) := sslConn.onRead buf
      ({ conn with buf := buf, sslConn := some sslConn },
        sslConn.state = .ESTABLISHED && sslConn.decryptedBuffer ≠ [])
  else ({ conn with buf := buf }, true)

def answerException (server : HttpServer) (conn : Connection Engine) : Connection Engine :=
  (server.sendToClient conn kHttp400).shutdown

def onRequest (server : HttpServer) (conn : Connection Engine) (response : HttpResponse) : Connection Engine :=
  let conn := server.sendToClient conn response.appendToBuffer
  if response.closeConnection then conn.shutdown else conn

/-- A parsed request: the callback is called, and the context is reset unless it throws. -/
def dispatch (server : HttpServer) (conn : Connection Engine) (delivery : Delivery) :
    Except Fault (Connection Engine) :=
  let req := conn.context.request
  let conn := { conn with dispatched := conn.dispatched ++ [req] }
  match delivery.httpCallback req { closeConnection := wantsClose req } with
  | .ok response => .ok ((server.onRequest conn response).setContext conn.context.reset)
  | .error (.exception _) => .ok (server.answerException conn)
  | .error (.response _) => .error .uncaught

def answerError (server : HttpServer) (conn : Connection Engine) : Connection Engine :=
  if conn.context.parseErrorStatus = 413 then (server.sendToClient conn kHttp413).shutdown
  else (server.sendToClient conn kHttp400).shutdown

/-- `substr` is never out of range, so a fault of `parseRequest` is not an exception to catch. -/
def onMessage (server : HttpServer) (conn : Connection Engine) (delivery : Delivery) :
    Except Fault (Connection Engine) :=
  match server.receive conn delivery.data with
  | (conn, false) => .ok conn
  | (conn, true) => do
    let (ok, context, left) ← conn.context.parseRequest conn.input delivery.receiveTime
    let conn := (conn.setInput left).setContext context
    if ok = false then .ok (server.answerError conn)
    else if context.gotAll then server.dispatch conn delivery
    else .ok conn

def onWriteComplete (conn : Connection Engine) : Connection Engine :=
  { conn with sslConn := conn.sslConn.map SslConnection.onWriteComplete }

/-- The events of a connection; after a fault there is no next state. -/
def events (server : HttpServer) : System (Connection Engine) Event where
  step conn event :=
    match event with
    | .message delivery => (server.onMessage conn delivery).toOption
    | .writeComplete => some (onWriteComplete conn)

end HttpServer

end Http
