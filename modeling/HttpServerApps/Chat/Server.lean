import HttpServerApps.Chat.Json
import HttpServerApps.Common.Throwing
import HttpServerApps.Session.Lookup

namespace Chat

open Common Http Sessions

structure ChatServer where
  sessionManager : SessionManager := {}
  onlineUsers : Dict Int32 Bool := .empty

/-- What a handler works on: the shared server and the response of its own request. -/
structure Exchange where
  server : ChatServer
  resp : HttpResponse

/-- A handler or a part of one; it throws the text of a `std::exception`. -/
abbrev Handling (Value : Type) := Throwing Exchange Bytes Value

/-- The test of `onlineUsers_` at login. -/
def isFree (onlineUsers : Dict Int32 Bool) (userId : Int32) : Bool :=
  onlineUsers.find userId = none || onlineUsers.find userId = some false

def markOnline (onlineUsers : Dict Int32 Bool) (userId : Int32) : Dict Int32 Bool :=
  onlineUsers.insert userId true

def markOffline (onlineUsers : Dict Int32 Bool) (userId : Int32) : Dict Int32 Bool :=
  onlineUsers.erase userId

def badContent (req : HttpRequest) : Bool :=
  let contentType := req.getHeader (bytes "Content-Type")
  contentType = [] || contentType != bytes "application/json" || req.content = []

def jsonResponse (resp : HttpResponse) (version : Bytes) (statusCode : HttpStatusCode)
    (statusMessage : Bytes) (close : Bool) (body : Bytes) : HttpResponse :=
  ((((resp.setStatusLine version statusCode statusMessage).setCloseConnection close).setContentType
    (bytes "application/json")).setContentLength body.length).setBody body

/-! The calls the handlers make. -/

def respond (version : Bytes) (statusCode : HttpStatusCode) (statusMessage : Bytes) (close : Bool)
    (body : Bytes) : Handling Unit :=
  Throwing.modify fun exchange =>
    { exchange with resp := jsonResponse exchange.resp version statusCode statusMessage close body }

def onSessions (change : SessionManager → SessionManager) : Handling Unit :=
  Throwing.modify fun exchange =>
    { exchange with
      server := { exchange.server with sessionManager := change exchange.server.sessionManager } }

def onOnlineUsers (change : Dict Int32 Bool → Dict Int32 Bool) : Handling Unit :=
  Throwing.modify fun exchange =>
    { exchange with server := { exchange.server with onlineUsers := change exchange.server.onlineUsers } }

def getSession (clock : Readings) (draws : Fin 32 → Fin 16) (req : HttpRequest) : Handling Handle :=
  Throwing.update fun exchange =>
    let (manager, resp, session) :=
      exchange.server.sessionManager.getSession clock draws req exchange.resp
    (⟨{ exchange.server with sessionManager := manager }, resp⟩, session)

/-- The answer of a handler's `catch`. -/
def failWith (json : JsonLibrary) (version what : Bytes) : Handling Unit := do
  let failureBody ← Throwing.call (json.dump [(bytes "status", .string (bytes "error")),
    (bytes "message", .string what)])
  respond version .k400BadRequest (bytes "Bad Request") true failureBody

theorem failWith_run (json : JsonLibrary) (version what : Bytes) (exchange : Exchange) :
    ∃ resp outcome, (failWith json version what).run exchange = (⟨exchange.server, resp⟩, outcome) ∧
      (outcome = .ok () → resp.statusCode = .k400BadRequest) := by
  unfold failWith
  cases json.dump [(bytes "status", .string (bytes "error")), (bytes "message", .string what)] with
  | error thrown => exact ⟨_, _, rfl, nofun⟩
  | ok failureBody => exact ⟨_, _, rfl, fun _ => by rfl⟩

end Chat
