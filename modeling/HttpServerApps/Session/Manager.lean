import HttpServerApps.Http.Request
import HttpServerApps.Http.Response

namespace Http.Sessions

open Common

/-- Times are those of `system_clock`, in nanoseconds. -/
structure Session where
  sessionId : Bytes
  data : Dict Bytes Bytes := .empty
  expiryTime : Int
  maxAge : Int := 3600
  /-- Whether `sessionManager_` is set. -/
  managed : Bool

namespace Session

def isExpired (session : Session) (now : Int) : Bool := now > session.expiryTime

def refresh (session : Session) (now : Int) : Session :=
  { session with expiryTime := now + session.maxAge * 10 ^ 9 }

def create (sessionId : Bytes) (now : Int) : Session :=
  ({ sessionId := sessionId, expiryTime := 0, managed := true } : Session).refresh now

def setManager (session : Session) : Session := { session with managed := true }

def setData (session : Session) (key value : Bytes) : Session :=
  { session with data := session.data.insert key value }

def getValue (session : Session) (key : Bytes) : Bytes := (session.data.find key).getD []

def remove (session : Session) (key : Bytes) : Session := { session with data := session.data.erase key }

def clear (session : Session) : Session := { session with data := .empty }

end Session

/-- A `shared_ptr<Session>`. -/
abbrev Handle := Nat

/-- The manager with its storage. `heap` lists every session object ever made, so that a handle
    outlives the entry of its session in the storage. -/
structure SessionManager where
  heap : List Session := []
  sessions : Dict Bytes Handle := .empty

/-- What the clock shows at the calls of `now()` in `getSession`. -/
structure Readings where
  load : Int
  check : Int
  create : Int
  refresh : Int

def Readings.all (now : Int) : Readings := ⟨now, now, now, now⟩

/-- The literals of `Fin 16`. -/
instance sixteen : NeZero 16 := ⟨by decide⟩

def hexDigit (n : Fin 16) : UInt8 := if n.val < 10 then digitByte n.val else UInt8.ofNat (87 + n.val)

/-- The draws of `dist(rng_)` are given. -/
def generateSessionId (draws : Fin 32 → Fin 16) : Bytes := (List.ofFn draws).map hexDigit

def getSessionIdFromCookie (req : HttpRequest) : Bytes :=
  let cookie := req.getHeader (bytes "Cookie")
  if cookie = [] then []
  else
    match findText (bytes "sessionId=") cookie with
    | none => []
    | some pos =>
      match splitFirst 59 (cookie.drop (pos + 10)) with
      | some (sessionId, _) => sessionId
      | none => cookie.drop (pos + 10)

def setSessionCookie (sessionId : Bytes) (resp : HttpResponse) : HttpResponse :=
  resp.addHeader (bytes "Set-Cookie") (bytes "sessionId=" ++ sessionId ++ bytes "; Path=/; HttpOnly")

namespace SessionManager

def object (manager : SessionManager) (session : Handle) : Option Session := manager.heap[session]?

def onObject (manager : SessionManager) (session : Handle) (change : Session → Session) :
    SessionManager :=
  { manager with heap := manager.heap.modify session change }

def expired (manager : SessionManager) (now : Int) (session : Handle) : Bool :=
  (manager.object session).all (·.isExpired now)

/-! `MemorySessionStorage` -/

def save (manager : SessionManager) (session : Handle) : SessionManager :=
  match manager.object session with
  | some object => { manager with sessions := manager.sessions.insert object.sessionId session }
  | none => manager

def load (manager : SessionManager) (sessionId : Bytes) (now : Int) : SessionManager × Option Handle :=
  match manager.sessions.find sessionId with
  | some session =>
    if manager.expired now session then
      ({ manager with sessions := manager.sessions.erase sessionId }, none)
    else (manager, some session)
  | none => (manager, none)

def destroySession (manager : SessionManager) (sessionId : Bytes) : SessionManager :=
  { manager with sessions := manager.sessions.erase sessionId }

def cleanExpiredSessions (manager : SessionManager) (now : Int) : SessionManager :=
  { manager with sessions := manager.sessions.filter fun session => !manager.expired now session }

/-! `SessionManager` and the auto-saving setter of `Session` -/

def setValue (manager : SessionManager) (session : Handle) (key value : Bytes) : SessionManager :=
  let manager := manager.onObject session (·.setData key value)
  if (manager.object session).any (·.managed) then manager.save session else manager

def getValue (manager : SessionManager) (session : Handle) (key : Bytes) : Bytes :=
  ((manager.object session).map (·.getValue key)).getD []

def clear (manager : SessionManager) (session : Handle) : SessionManager :=
  manager.onObject session Session.clear

/-- The session of the cookie, if it can be loaded and has not expired. -/
def findSession (manager : SessionManager) (clock : Readings) (sessionId : Bytes) :
    SessionManager × Option Handle :=
  let (manager, session) :=
    if sessionId = [] then (manager, none) else manager.load sessionId clock.load
  (manager, session.filter fun session => !manager.expired clock.check session)

def getSession (manager : SessionManager) (clock : Readings) (draws : Fin 32 → Fin 16)
    (req : HttpRequest) (resp : HttpResponse) : SessionManager × HttpResponse × Handle :=
  match manager.findSession clock (getSessionIdFromCookie req) with
  | (manager, some session) =>
    let manager := (manager.onObject session Session.setManager).onObject session (·.refresh clock.refresh)
    (manager.save session, resp, session)
  | (manager, none) =>
    let sessionId := generateSessionId draws
    let session := manager.heap.length
    let manager := { manager with heap := manager.heap ++ [Session.create sessionId clock.create] }
    let manager := manager.onObject session (·.refresh clock.refresh)
    (manager.save session, setSessionCookie sessionId resp, session)

end SessionManager

end Http.Sessions
