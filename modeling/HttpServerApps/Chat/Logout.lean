import HttpServerApps.Chat.Server

namespace Chat.ChatLogoutHandler

open Common Http Sessions

variable (json : JsonLibrary) (clock : Readings) (draws : Fin 32 → Fin 16) (req : HttpRequest)

def handle : Handling Unit :=
  if badContent req then respond req.version .k400BadRequest (bytes "Bad Request") true []
  else
    Throwing.attempt
      (do
        let session ← getSession clock draws req
        let userIdText ← Throwing.read fun exchange =>
          exchange.server.sessionManager.getValue session (bytes "userId")
        let userId ← Throwing.call (stoi userIdText)
        onSessions (·.clear session)
        let sessionId ← Throwing.read fun exchange =>
          ((exchange.server.sessionManager.object session).map Session.sessionId).getD []
        onSessions (·.destroySession sessionId)
        let _ ← Throwing.call (json.parse req.content)
        onOnlineUsers (markOffline · userId)
        let responseBody ← Throwing.call
          (json.dump [(bytes "message", .string (bytes "logout successful"))])
        respond req.version .k200Ok (bytes "OK") true responseBody)
      fun what => failWith json req.version what

/-! What one request does. -/

/-- The server after a request, whatever is answered. -/
def left (exchange : Exchange) : ChatServer :=
  if badContent req then exchange.server
  else
    let (manager, _, session) := exchange.server.sessionManager.getSession clock draws req exchange.resp
    match stoi (manager.getValue session (bytes "userId")) with
    | .error _ => { exchange.server with sessionManager := manager }
    | .ok userId =>
      let cleared := manager.clear session
      { sessionManager := cleared.destroySession (((cleared.object session).map Session.sessionId).getD [])
        onlineUsers :=
          match json.parse req.content with
          | .ok _ => markOffline exchange.server.onlineUsers userId
          | .error _ => exchange.server.onlineUsers }

/-- Nothing throws before the answer. -/
def Completes (exchange : Exchange) : Prop :=
  let (manager, _, session) := exchange.server.sessionManager.getSession clock draws req exchange.resp
  (∃ userId, stoi (manager.getValue session (bytes "userId")) = .ok userId) ∧
    ∃ value, json.parse req.content = .ok value

/-- The statuses of the answer, for a request with such content. -/
structure Status (resp : HttpResponse) (outcome : Except Bytes Unit) (exchange : Exchange) : Prop where
  refused : badContent req = true → outcome = .ok () ∧ resp.statusCode = .k400BadRequest
  completed : badContent req = false → Completes json clock draws req exchange →
    outcome = .ok () ∧ resp.statusCode = .k200Ok
  failed : badContent req = false → ¬ Completes json clock draws req exchange →
    outcome = .ok () → resp.statusCode = .k400BadRequest

theorem handle_status (exchange : Exchange) :
    ∃ resp outcome, (handle json clock draws req).run exchange =
        (⟨left json clock draws req exchange, resp⟩, outcome) ∧
      Status json clock draws req resp outcome exchange := by
  rcases json.dump_ascii [(bytes "message", .string (bytes "logout successful"))] (by decide) with
    ⟨responseBody, dumped⟩
  unfold handle left
  cases content : badContent req with
  | true =>
    have notGood : badContent req ≠ false := ne_false_of_eq_true content
    exact ⟨_, _, rfl, fun _ => ⟨rfl, rfl⟩, fun good => absurd good notGood, fun good => absurd good notGood⟩
  | false =>
    have notBad : badContent req ≠ true := ne_true_of_eq_false content
    simp only [Bool.false_eq_true, ↓reduceIte]
    cases user : stoi ((exchange.server.sessionManager.getSession clock draws req exchange.resp).1.getValue
        (exchange.server.sessionManager.getSession clock draws req exchange.resp).2.2 (bytes "userId")) with
    | error what =>
      have stopped : ¬ Completes json clock draws req exchange := by
        rintro ⟨⟨userId, read⟩, _⟩
        cases user.symm.trans read
      rw [Throwing.run_attempt_error (by
        simp only [getSession, Throwing.run_update_bind, Throwing.run_read_bind, Throwing.run_call_bind,
          user]
        rfl)]
      rcases failWith_run json req.version what _ with ⟨resp, outcome, run, status⟩
      exact ⟨resp, outcome, run, fun bad => absurd bad notBad, fun _ all => absurd all stopped, fun _ _ => status⟩
    | ok userId =>
      cases parsed : json.parse req.content with
      | error what =>
        have stopped : ¬ Completes json clock draws req exchange := by
          rintro ⟨_, value, read⟩
          cases parsed.symm.trans read
        rw [Throwing.run_attempt_error (by
          simp only [getSession, onSessions, Throwing.run_update_bind, Throwing.run_read_bind,
            Throwing.run_call_bind, Throwing.run_modify_bind, user]
          rfl)]
        rcases failWith_run json req.version what _ with ⟨resp, outcome, run, status⟩
        exact ⟨resp, outcome, run, fun bad => absurd bad notBad, fun _ all => absurd all stopped, fun _ _ => status⟩
      | ok value =>
        rw [Throwing.run_attempt_ok (by
          simp only [getSession, onSessions, onOnlineUsers, respond, Throwing.run_update_bind,
            Throwing.run_read_bind, Throwing.run_call_bind, Throwing.run_modify_bind, user, dumped]
          rfl)]
        exact ⟨_, _, rfl, fun bad => absurd bad notBad, fun _ _ => ⟨rfl, rfl⟩,
          fun _ stopped => absurd ⟨⟨userId, user⟩, value, parsed⟩ stopped⟩

theorem handle_run (exchange : Exchange) :
    ∃ resp outcome, (handle json clock draws req).run exchange =
      (⟨left json clock draws req exchange, resp⟩, outcome) := by
  rcases handle_status json clock draws req exchange with ⟨resp, outcome, run, _⟩
  exact ⟨resp, outcome, run⟩

end Chat.ChatLogoutHandler
