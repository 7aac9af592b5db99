import HttpServerApps.Chat.PasswordHash
import HttpServerApps.Chat.Server

namespace Chat.ChatLoginHandler

open Common Http Sessions

/-- What a login request meets: the answers of the database, the clock and the random draws. -/
structure Surroundings where
  crypto : Crypto
  /-- `SELECT id, password FROM users WHERE username = ?`, read with `next`, `getString`, `getInt`. -/
  selectUser : Bytes → Except Bytes (Option (Bytes × Int32))
  /-- `UPDATE users SET password = ? WHERE id = ?` -/
  updatePassword : Bytes → Int32 → Except Bytes Unit
  clock : Readings
  draws : Fin 32 → Fin 16

def queryUserId (env : Surroundings) (username password : Bytes) : Except Bytes Int32 := do
  match ← env.selectUser username with
  | some (storedPassword, userId) =>
    let (accepted, upgraded) ← verifyPassword env.crypto password storedPassword
    if accepted then
      if upgraded ≠ [] then env.updatePassword upgraded userId
      return userId
    else return -1
  | none => return -1

def credentials (json : JsonLibrary) (body : Bytes) : Except Bytes (Bytes × Bytes) := do
  let parsed ← json.parse body
  let username ← json.stringAt parsed (bytes "username")
  let password ← json.stringAt parsed (bytes "password")
  return (username, password)

variable (json : JsonLibrary) (env : Surroundings) (req : HttpRequest)

/-- From `getSession` to the answer, for an accepted password. -/
def welcome (userId : Int32) (username : Bytes) : Handling Unit := do
  let session ← getSession env.clock env.draws req
  onSessions (·.setValue session (bytes "userId") (intText userId.toInt))
  onSessions (·.setValue session (bytes "username") username)
  onSessions (·.setValue session (bytes "isLoggedIn") (bytes "true"))
  if ← Throwing.read fun exchange => isFree exchange.server.onlineUsers userId then
    onOnlineUsers (markOnline · userId)
    let successBody ← Throwing.call
      (json.dump [(bytes "success", .bool true), (bytes "userId", .int userId)])
    respond req.version .k200Ok (bytes "OK") false successBody
  else
    let failureBody ← Throwing.call (json.dump [(bytes "success", .bool false),
      (bytes "error", .string (bytes "Account already logged in elsewhere"))])
    respond req.version .k403Forbidden (bytes "Forbidden") true failureBody

def handle : Handling Unit :=
  if badContent req then respond req.version .k400BadRequest (bytes "Bad Request") true []
  else
    Throwing.attempt
      (do
        let (username, password) ← Throwing.call (credentials json req.content)
        let userId ← Throwing.call (queryUserId env username password)
        if userId ≠ -1 then welcome json env req userId username
        else
          let failureBody ← Throwing.call (json.dump [(bytes "status", .string (bytes "error")),
            (bytes "message", .string (bytes "Invalid username or password"))])
          respond req.version .k401Unauthorized (bytes "Unauthorized") false failureBody)
      fun what => failWith json req.version what

/-! What one request does. -/

/-- The user a request is accepted for, with the name it gave. -/
def admitted : Option (Int32 × Bytes) :=
  if badContent req then none
  else
    match credentials json req.content with
    | .error _ => none
    | .ok (username, password) =>
      match queryUserId env username password with
      | .error _ => none
      | .ok userId => if userId ≠ -1 then some (userId, username) else none

def authenticate (manager : SessionManager) (session : Handle) (userId : Int32) (username : Bytes) :
    SessionManager :=
  ((manager.setValue session (bytes "userId") (intText userId.toInt)).setValue session
    (bytes "username") username).setValue session (bytes "isLoggedIn") (bytes "true")

def welcomed (exchange : Exchange) (userId : Int32) (username : Bytes) : ChatServer where
  sessionManager :=
    let (manager, _, session) :=
      exchange.server.sessionManager.getSession env.clock env.draws req exchange.resp
    authenticate manager session userId username
  onlineUsers :=
    if isFree exchange.server.onlineUsers userId then markOnline exchange.server.onlineUsers userId
    else exchange.server.onlineUsers

theorem welcome_run (exchange : Exchange) (userId : Int32) (username : Bytes) :
    ∃ resp, (welcome json env req userId username).run exchange =
        (⟨welcomed env req exchange userId username, resp⟩, .ok ()) ∧
      resp.statusCode = (if isFree exchange.server.onlineUsers userId then .k200Ok else .k403Forbidden) ∧
      resp.closeConnection = !isFree exchange.server.onlineUsers userId := by
  obtain ⟨successBody, success⟩ := json.dump_ascii
    [(bytes "success", .bool true), (bytes "userId", .int userId)] (by rfl)
  obtain ⟨failureBody, failure⟩ := json.dump_ascii [(bytes "success", .bool false),
    (bytes "error", .string (bytes "Account already logged in elsewhere"))] (by decide)
  unfold welcome welcomed getSession onSessions onOnlineUsers respond
  rw [success, failure]
  simp only [Throwing.run_update_bind, Throwing.run_modify_bind, Throwing.run_read_bind]
  cases free : isFree exchange.server.onlineUsers userId with
  | true => exact ⟨_, rfl, rfl, rfl⟩
  | false => exact ⟨_, rfl, rfl, rfl⟩

variable {json env req}

theorem of_admitted {userId : Int32} {username : Bytes} (accepted : admitted json env req = some (userId, username)) :
    badContent req = false ∧ ∃ password, credentials json req.content = .ok (username, password) ∧
      queryUserId env username password = .ok userId ∧ userId ≠ -1 := by
  unfold admitted at accepted
  split at accepted
  · cases accepted
  · rename_i content
    refine ⟨Bool.eq_false_iff.mpr content, ?_⟩
    split at accepted
    · cases accepted
    · rename_i name password read
      split at accepted
      · cases accepted
      · rename_i found query
        split at accepted
        · rename_i known
          cases accepted
          exact ⟨password, read, query, known⟩
        · cases accepted

/-- How a request is handled, by how far it comes. -/
inductive Handled (json : JsonLibrary) (env : Surroundings) (req : HttpRequest) : Handling Unit → Prop where
  | content (bad : badContent req = true) :
      Handled json env req (respond req.version .k400BadRequest (bytes "Bad Request") true [])
  | unread {what : Bytes} (good : badContent req = false) (unread : credentials json req.content = .error what) :
      Handled json env req (failWith json req.version what)
  | failed {username password what : Bytes} (good : badContent req = false)
      (read : credentials json req.content = .ok (username, password))
      (query : queryUserId env username password = .error what) : Handled json env req (failWith json req.version what)
  | unknown {username password failureBody : Bytes} (good : badContent req = false)
      (read : credentials json req.content = .ok (username, password))
      (query : queryUserId env username password = .ok (-1)) :
      Handled json env req (respond req.version .k401Unauthorized (bytes "Unauthorized") false failureBody)
  | known {username password : Bytes} {userId : Int32} (good : badContent req = false)
      (read : credentials json req.content = .ok (username, password))
      (query : queryUserId env username password = .ok userId) (known : userId ≠ -1) :
      Handled json env req (welcome json env req userId username)

theorem handle_handled (exchange : Exchange) :
    ∃ handling, Handled json env req handling ∧ (handle json env req).run exchange = handling.run exchange := by
  unfold handle
  cases content : badContent req with
  | true => exact ⟨_, .content content, rfl⟩
  | false =>
    simp only [Bool.false_eq_true, ↓reduceIte]
    cases read : credentials json req.content with
    | error what => exact ⟨_, .unread content read, Throwing.run_attempt_error rfl _⟩
    | ok given =>
      obtain ⟨username, password⟩ := given
      cases query : queryUserId env username password with
      | error what =>
        refine ⟨_, .failed content read query, ?_⟩
        rw [Throwing.run_attempt_error (by simp only [Throwing.run_call_bind, query]; rfl)]
      | ok userId =>
        by_cases known : userId ≠ -1
        · refine ⟨_, .known content read query known, ?_⟩
          obtain ⟨resp, run, _⟩ := welcome_run json env req exchange userId username
          rw [run]
          apply Throwing.run_attempt_ok
          simp only [Throwing.run_call_bind, query, if_pos known]
          exact run
        · obtain ⟨failureBody, failure⟩ := json.dump_ascii [(bytes "status", .string (bytes "error")),
            (bytes "message", .string (bytes "Invalid username or password"))] (by decide)
          have same := not_not.mp known
          rw [same] at query
          refine ⟨_, @Handled.unknown json env req username password failureBody content read query, ?_⟩
          rw [Throwing.run_attempt_ok (by
            simp only [Throwing.run_call_bind, query, failure]
            rfl)]
          rfl

theorem handle_refused (exchange : Exchange) (refused : admitted json env req = none) :
    ∃ resp outcome, (handle json env req).run exchange = (⟨exchange.server, resp⟩, outcome) ∧
      (outcome = .ok () → resp.statusCode ≠ .k200Ok) := by
  have caught : ∀ what, ∃ resp outcome,
      (failWith json req.version what).run exchange = (⟨exchange.server, resp⟩, outcome) ∧
        (outcome = .ok () → resp.statusCode ≠ .k200Ok) := by
    intro what
    obtain ⟨resp, outcome, run, status⟩ := failWith_run json req.version what exchange
    exact ⟨resp, outcome, run, fun returned => by rw [status returned]; decide⟩
  obtain ⟨handling, handled, run⟩ := @handle_handled json env req exchange
  rw [run]
  cases handled with
  | content => exact ⟨_, _, rfl, fun _ => nofun⟩
  | unread => exact caught _
  | failed => exact caught _
  | unknown => exact ⟨_, _, rfl, fun _ => nofun⟩
  | known good read query known => simp [admitted, good, read, query, known] at refused

theorem handle_admitted (exchange : Exchange) {userId : Int32} {username : Bytes}
    (accepted : admitted json env req = some (userId, username)) :
    ∃ resp, (handle json env req).run exchange = (⟨welcomed env req exchange userId username, resp⟩, .ok ()) ∧
      resp.statusCode = if isFree exchange.server.onlineUsers userId then .k200Ok else .k403Forbidden := by
  obtain ⟨content, password, given, found, different⟩ := of_admitted accepted
  obtain ⟨handling, handled, run⟩ := @handle_handled json env req exchange
  rw [run]
  cases handled with
  | content bad => cases bad.symm.trans content
  | unread good unread => cases unread.symm.trans given
  | failed good read query =>
    cases read.symm.trans given
    cases query.symm.trans found
  | unknown good read query =>
    cases read.symm.trans given
    cases query.symm.trans found
    exact absurd rfl different
  | known good read query known =>
    cases read.symm.trans given
    cases query.symm.trans found
    obtain ⟨resp, welcomes, status, _⟩ := welcome_run json env req exchange userId username
    exact ⟨resp, welcomes, status⟩

/-! A stored password, with the key that PBKDF2 derives from `secret` for it. -/

def secretSalt : Bytes := [0, 1, 2, 3, 4, 5, 6, 7, 8, 9, 10, 11, 12, 13, 14, 15]

def secretKey : Bytes :=
  [6, 28, 237, 64, 115, 220, 108, 105, 15, 60, 225, 228, 116, 184, 18, 250,
   35, 204, 47, 10, 241, 135, 225, 139, 119, 87, 205, 222, 189, 33, 47, 117]

def secretRecord : Bytes :=
  bytes "pbkdf2_sha256$310000$" ++ toHex secretSalt ++ bytes "$" ++ toHex secretKey

def secretCrypto : Crypto where
  sha256 _ := []
  pbkdf2 password salt iterations :=
    if password = bytes "secret" ∧ salt = secretSalt ∧ iterations = 310000 then some secretKey else none
  randBytes := none

/-- The users table has one user, `ada` with id 7; the session ids are given. -/
def adaOnly (draws : Fin 32 → Fin 16) : Surroundings where
  crypto := secretCrypto
  selectUser username := .ok (if username = bytes "ada" then some (secretRecord, 7) else none)
  updatePassword _ _ := .ok ()
  clock := .all 0
  draws := draws

def adaBody : Bytes := bytes "\x7b\"username\": \"ada\", \"password\": \"secret\"\x7d"

def adaJson : JsonLibrary :=
  bodyJson adaBody [(bytes "username", bytes "ada"), (bytes "password", bytes "secret")]

def adaLogin : HttpRequest where
  method := .kPost
  version := bytes "HTTP/1.1"
  path := bytes "/login"
  headers := Dict.empty.insert (bytes "content-type") (bytes "application/json")
  content := adaBody
  contentLength := 41

theorem ada_admitted (draws : Fin 32 → Fin 16) :
    admitted adaJson (adaOnly draws) adaLogin = some (7, bytes "ada") := by
  show admitted adaJson (adaOnly fun _ => 0) adaLogin = some (7, bytes "ada")
  decide

end Chat.ChatLoginHandler
