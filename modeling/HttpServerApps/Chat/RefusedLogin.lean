import HttpServerApps.Chat.Login

namespace Chat.ChatLoginHandler

open Common Http Sessions

variable (json : JsonLibrary) (env : Surroundings) (req : HttpRequest) (exchange : Exchange)

def requester : Handle :=
  (exchange.server.sessionManager.getSession env.clock env.draws req exchange.resp).2.2

def identityKeys : List Bytes := [bytes "isLoggedIn", bytes "userId", bytes "username"]

def identity (server : ChatServer) : List (Option Bytes) :=
  identityKeys.map (server.sessionManager.data (requester env req exchange)).find

def answers200 (result : Exchange × Except Bytes Unit) : Prop :=
  (∃ done, result.2 = .ok done) ∧ result.1.resp.statusCode = .k200Ok

def GrantsNothing : Prop :=
  ¬ answers200 ((handle json env req).run exchange) →
    identity env req exchange ((handle json env req).run exchange).1.server =
      identity env req exchange exchange.server

/-- The request is not admitted for a user who is online, or the session is this user's already. -/
def OwnOrFree : Prop :=
  ∀ userId username, admitted json env req = some (userId, username) →
    isFree exchange.server.onlineUsers userId = false →
    identity env req exchange exchange.server =
      [some (bytes "true"), some (intText userId.toInt), some username]

variable {json env req exchange}

theorem data_authenticate {manager : SessionManager} {session : Handle}
    (made : session < manager.heap.length) (userId : Int32) (username : Bytes) :
    (authenticate manager session userId username).data session =
      (((manager.data session).insert (bytes "userId") (intText userId.toInt)).insert
        (bytes "username") username).insert (bytes "isLoggedIn") (bytes "true") := by
  unfold authenticate
  rw [SessionManager.data_setValue (by simp only [SessionManager.heap_setValue]; exact made), if_pos rfl,
    SessionManager.data_setValue (by rw [SessionManager.heap_setValue]; exact made), if_pos rfl,
    SessionManager.data_setValue made, if_pos rfl]

theorem identity_welcomed (exchange : Exchange) (userId : Int32) (username : Bytes) :
    identity env req exchange (welcomed env req exchange userId username) =
      [some (bytes "true"), some (intText userId.toInt), some username] := by
  have made := exchange.server.sessionManager.getSession_made env.clock env.draws req exchange.resp
  have first : bytes "userId" ≠ bytes "username" := by decide
  have second : bytes "userId" ≠ bytes "isLoggedIn" := by decide
  have third : bytes "username" ≠ bytes "isLoggedIn" := by decide
  unfold identity identityKeys welcomed requester
  dsimp only
  rw [data_authenticate made]
  simp only [List.map_cons, List.map_nil, Dict.find_insert, first, second, third, ↓reduceIte]

/-- A refused login grants nothing in exactly these cases: the three values are written before the
    online table is looked at. -/
theorem refused_login_iff (json : JsonLibrary) (env : Surroundings) (req : HttpRequest)
    (exchange : Exchange) :
    GrantsNothing json env req exchange ↔ OwnOrFree json env req exchange := by
  unfold GrantsNothing OwnOrFree answers200
  cases accepted : admitted json env req with
  | none =>
    obtain ⟨resp, outcome, run, _⟩ := handle_refused exchange accepted
    rw [run]
    exact ⟨fun _ => nofun, fun _ _ => rfl⟩
  | some user =>
    obtain ⟨userId, username⟩ := user
    obtain ⟨resp, run, status⟩ := handle_admitted exchange accepted
    rw [run, identity_welcomed, status]
    cases free : isFree exchange.server.onlineUsers userId with
    | true =>
      apply Iff.intro
      · intro _ other name same online
        cases same
        rw [free] at online
        cases online
      · intro _ refused
        exact absurd ⟨⟨(), rfl⟩, rfl⟩ refused
    | false =>
      apply Iff.intro
      · intro nothing other name same _
        cases same
        apply (nothing _).symm
        intro granted
        cases granted.2
      · intro own _
        exact (own userId username rfl free).symm

def adaOnline : Exchange := ⟨{ onlineUsers := Dict.empty.insert 7 true }, {}⟩

/-- Without a cookie and with `ada` online elsewhere: the answer is 403, and the new session is
    logged in as `ada`. -/
theorem refused_login_grants :
    ¬ ∀ (json : JsonLibrary) (env : Surroundings) (req : HttpRequest) (exchange : Exchange),
      GrantsNothing json env req exchange := by
  intro claimed
  have nothing := claimed adaJson (adaOnly fun _ => 0) adaLogin adaOnline
  obtain ⟨resp, run, status⟩ := handle_admitted adaOnline (ada_admitted fun _ => 0)
  unfold GrantsNothing at nothing
  rw [run, identity_welcomed] at nothing
  have refused : resp.statusCode = .k403Forbidden := status
  have same := nothing fun granted => by
    rw [answers200, refused] at granted
    cases granted.2
  revert same
  decide

end Chat.ChatLoginHandler
