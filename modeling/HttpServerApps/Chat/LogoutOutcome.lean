import HttpServerApps.Chat.CloseHonoured
import HttpServerApps.Chat.LiveSessions

namespace Chat

open Common Http Middlewares Sessions

/-- The cookie of the request names a session that has not expired and is logged in as the user. -/
structure Authenticated (manager : SessionManager) (clock : Readings) (req : HttpRequest) (session : Handle)
    (userId : Int32) : Prop where
  consistent : manager.Consistent
  given : getSessionIdFromCookie req ≠ []
  stored : manager.sessions.find (getSessionIdFromCookie req) = some session
  atLoad : manager.expired clock.load session = false
  atCheck : manager.expired clock.check session = false
  loggedIn : ∃ object, manager.object session = some object ∧ LoggedIn object userId

/-- What the request leaves of the shared state, and the response that is sent. -/
def handledRequest (env : Environment) (app : Application) (req : HttpRequest) : Application × HttpResponse :=
  ((handleRequest [corsMiddlewareHooks] (route env) req).run (app, { closeConnection := wantsClose req })).1

structure LoggedOut (before after : ChatServer) (resp : HttpResponse) (key : Bytes) (userId : Int32) : Prop where
  status : resp.statusCode = .k200Ok
  removed : after.sessionManager.sessions.find key = none
  offline : after.onlineUsers = markOffline before.onlineUsers userId

structure Unchanged (before after : ChatServer) (resp : HttpResponse) (key : Bytes) (session : Handle) : Prop where
  status : 400 ≤ resp.statusCode.toNat
  data : after.sessionManager.data session = before.sessionManager.data session
  present : after.sessionManager.sessions.find key = some session
  onlineUsers : after.onlineUsers = before.onlineUsers

def AllOrNothing (env : Environment) (app : Application) (req : HttpRequest) (session : Handle) (userId : Int32) :
    Prop :=
  let (after, resp) := handledRequest env app req
  LoggedOut app.server after.server resp (getSessionIdFromCookie req) userId ∨
    Unchanged app.server after.server resp (getSessionIdFromCookie req) session

/-! The session that the handler gets. -/

section

variable {manager : SessionManager} {clock : Readings} {req : HttpRequest} {session : Handle} {userId : Int32}

theorem Authenticated.found (authenticated : Authenticated manager clock req session userId) :
    manager.findSession clock (getSessionIdFromCookie req) = (manager, some session) :=
  SessionManager.findSession_live authenticated.given authenticated.stored authenticated.atLoad authenticated.atCheck

theorem Authenticated.held (authenticated : Authenticated manager clock req session userId) :
    ∃ object, manager.Held (getSessionIdFromCookie req) session object ∧ LoggedIn object userId := by
  rcases authenticated.loggedIn with ⟨object, found, mine⟩
  rcases authenticated.consistent _ _ authenticated.stored with ⟨other, again, own⟩
  cases found.symm.trans again
  exact ⟨object, ⟨authenticated.consistent, authenticated.stored, found, own⟩, mine⟩

theorem Authenticated.getSession (authenticated : Authenticated manager clock req session userId)
    (draws : Fin 32 → Fin 16) (resp : HttpResponse) :
    ∃ after object, manager.getSession clock draws req resp = (after, resp, session) ∧
      after.Held (getSessionIdFromCookie req) session object ∧ LoggedIn object userId := by
  rcases authenticated.held with ⟨object, held, mine⟩
  rcases held.onObject Session.setManager rfl with ⟨managed, _⟩
  rcases managed.onObject (·.refresh clock.refresh) rfl with ⟨refreshed, _⟩
  unfold SessionManager.getSession
  rw [authenticated.found]
  dsimp only
  rw [refreshed.save]
  exact ⟨_, _, rfl, refreshed, mine⟩

theorem held_user {object : Session} {key : Bytes} (held : manager.Held key session object)
    (mine : LoggedIn object userId) : stoi (manager.getValue session (bytes "userId")) = .ok userId := by
  rw [held.getValue, mine.getValue, stoi_intText]

theorem held_destroyed {object : Session} {key : Bytes} (held : manager.Held key session object) :
    ((manager.clear session).destroySession
      ((((manager.clear session).object session).map Session.sessionId).getD [])).sessions.find key = none := by
  rw [held.clearedId]
  exact Dict.find_erase_self _ _

end

/-! The handler in the request. -/

variable {env : Environment} {app : Application} {req : HttpRequest} {session : Handle} {userId : Int32}

theorem exchanging_run {handler : Handling Unit} {resp answer : HttpResponse} {server : ChatServer}
    {outcome : Except Bytes Unit} (ran : handler.run ⟨app.server, resp⟩ = (⟨server, answer⟩, outcome)) :
    (exchanging handler).run (app, resp) = (({ app with server }, answer), outcome.mapError Thrown.exception) := by
  apply Throwing.run_rethrow
  exact @Throwing.run_within _ _ _ _ (fun state => ⟨state.1.server, state.2⟩) _ handler (app, resp) ⟨server, answer⟩
    outcome ran

theorem addHeader_status (response : HttpResponse) (key value : Bytes) :
    (response.addHeader key value).statusCode = response.statusCode := rfl

/-- The status of what is sent: what a handler throws becomes the 500. -/
def sentStatus (answer : HttpResponse) : Except Bytes Unit → HttpStatusCode
  | .ok () => answer.statusCode
  | .error _ => .k500InternalServerError

theorem handled_logout (isPost : req.method = .kPost) (isLogout : req.path = bytes "/user/logout")
    {server : ChatServer} {answer : HttpResponse} {outcome : Except Bytes Unit}
    (ran : (ChatLogoutHandler.handle env.json env.clock env.draws req).run
      ⟨app.server, { closeConnection := wantsClose req }⟩ = (⟨server, answer⟩, outcome)) :
    (handledRequest env app req).1.server = server ∧
      (handledRequest env app req).2.statusCode = sentStatus answer outcome := by
  have ordinary : req.method ≠ .kOptions := by
    rw [isPost]
    decide
  have routed : handlerAt req.method req.path = some .chatLogout := by
    rw [isPost, isLogout]
    decide
  have handled : (Handler.chatLogout.handle env req).run (entered app req, { closeConnection := wantsClose req }) =
      (({ entered app req with server }, answer), outcome.mapError Thrown.exception) := exchanging_run ran
  unfold handledRequest
  cases outcome with
  | error what =>
    rw [handleRequest_threw (before_run ordinary) (by
      rw [route_handler routed]
      exact Throwing.run_bind_error handled _)]
    exact ⟨rfl, rfl⟩
  | ok _ =>
    rw [handleRequest_routed (before_run ordinary) (by
      rw [route_handler routed]
      exact Throwing.run_bind_ok handled _) (after_run _)]
    exact ⟨rfl, decorate_frame addHeader_status ..⟩

theorem error_status {outcome : Except Bytes Unit} {answer : HttpResponse}
    (failed : outcome = .ok () → answer.statusCode = .k400BadRequest) :
    400 ≤ (sentStatus answer outcome).toNat := by
  cases outcome with
  | error what => exact Nat.le_of_ble_eq_true rfl
  | ok _ =>
    have code : (sentStatus answer (.ok ())).toNat = 400 := congrArg HttpStatusCode.toNat (failed rfl)
    exact Nat.le_of_eq code.symm

theorem error_not_ok {code : HttpStatusCode} (failed : 400 ≤ code.toNat) : code ≠ .k200Ok := by
  intro same
  rw [same] at failed
  exact absurd failed (by decide)

/-- An error answer after the session has gone: neither all nor nothing. -/
theorem half_done {before after : ChatServer} {resp : HttpResponse} {key : Bytes} (failed : 400 ≤ resp.statusCode.toNat)
    (gone : after.sessionManager.sessions.find key = none) :
    ¬ (LoggedOut before after resp key userId ∨ Unchanged before after resp key session) := by
  intro either
  rcases either with done | same
  · exact error_not_ok failed done.status
  · have present := same.present
    rw [gone] at present
    cases present

/-- The requester's id is read back, so only the body can stop the handler. -/
theorem Authenticated.completes_iff
    (authenticated : Authenticated app.server.sessionManager env.clock req session userId) (resp : HttpResponse) :
    ChatLogoutHandler.Completes env.json env.clock env.draws req ⟨app.server, resp⟩ ↔
      ∃ value, env.json.parse req.content = .ok value := by
  rcases authenticated.getSession env.draws resp with ⟨after, object, got, held, mine⟩
  unfold ChatLogoutHandler.Completes
  rw [got]
  exact and_iff_right ⟨userId, held_user held mine⟩

/-- Exactly a body that the handler refuses at once or that parses leaves nothing half done. -/
theorem logout_all_or_nothing_iff (env : Environment) (app : Application) (req : HttpRequest) (session : Handle)
    (userId : Int32) (isPost : req.method = .kPost) (isLogout : req.path = bytes "/user/logout")
    (authenticated : Authenticated app.server.sessionManager env.clock req session userId) :
    AllOrNothing env app req session userId ↔
      badContent req = true ∨ ∃ value, env.json.parse req.content = .ok value := by
  rcases ChatLogoutHandler.handle_status env.json env.clock env.draws req
    ⟨app.server, { closeConnection := wantsClose req }⟩ with ⟨answer, outcome, ran, status⟩
  rcases handled_logout isPost isLogout ran with ⟨server, code⟩
  rcases authenticated.getSession env.draws { closeConnection := wantsClose req } with ⟨after, object, got, held, mine⟩
  unfold AllOrNothing
  dsimp only
  rw [server]
  unfold ChatLogoutHandler.left
  cases content : badContent req with
  | true =>
    rcases status.refused content with ⟨returned, refused⟩
    apply iff_of_true _ (Or.inl rfl)
    right
    exact ⟨code ▸ error_status fun _ => refused, rfl, authenticated.stored, rfl⟩
  | false =>
    have body := authenticated.completes_iff { closeConnection := wantsClose req }
    simp only [Bool.false_eq_true, ↓reduceIte, false_or]
    rw [got]
    dsimp only
    rw [held_user held mine]
    cases parsed : env.json.parse req.content with
    | ok value =>
      rcases status.completed content (body.mpr ⟨value, parsed⟩) with ⟨returned, ok⟩
      apply iff_of_true _ ⟨value, rfl⟩
      left
      rw [returned] at code
      exact ⟨code.trans ok, held_destroyed held, rfl⟩
    | error what =>
      have unread : ¬ ∃ value, env.json.parse req.content = .ok value := by
        rintro ⟨value, read⟩
        cases parsed.symm.trans read
      have failed := error_status (status.failed content (body.not.mpr unread))
      rw [← code] at failed
      apply iff_of_false (half_done failed (held_destroyed held))
      rintro ⟨value, read⟩
      cases read

/-! Ada logs out with a body that is not JSON. -/

def adaKey : Bytes := generateSessionId fun _ => 0

/-- The session that her login has left, a moment after the start of the clock. -/
def adaSession : Session where
  sessionId := adaKey
  data := ((Dict.empty.insert (bytes "userId") (bytes "7")).insert (bytes "username") (bytes "ada")).insert
    (bytes "isLoggedIn") (bytes "true")
  expiryTime := 3600 * 10 ^ 9
  managed := true

def adaOnline : Application where
  server :=
    { sessionManager := ⟨[adaSession], Dict.empty.insert adaKey 0⟩
      onlineUsers := Dict.empty.insert 7 true }

def logoutWith (body : Bytes) : HttpRequest where
  method := .kPost
  version := bytes "HTTP/1.1"
  path := bytes "/user/logout"
  headers := (Dict.empty.insert (bytes "content-type") (bytes "application/json")).insert (bytes "cookie")
    (bytes "sessionId=" ++ adaKey)
  content := body

theorem ada_authenticated (body : Bytes) :
    Authenticated adaOnline.server.sessionManager (.all 0) (logoutWith body) 0 7 where
  consistent := by
    intro key session stored
    have known : (if key = adaKey then some 0 else none) = some session := stored
    split at known
    · rename_i same
      cases known
      exact ⟨adaSession, rfl, same.symm⟩
    · cases known
  given := by
    have given : getSessionIdFromCookie (logoutWith []) ≠ [] := by decide
    exact given
  stored := by
    have stored : adaOnline.server.sessionManager.sessions.find (getSessionIdFromCookie (logoutWith [])) = some 0 := by
      decide
    exact stored
  atLoad := by decide
  atCheck := by decide
  loggedIn := ⟨adaSession, rfl, by decide, by decide⟩

theorem logout_of_good_body :
    AllOrNothing entryOnly adaOnline (logoutWith ChatLoginHandler.adaBody) 0 7 :=
  (logout_all_or_nothing_iff entryOnly adaOnline (logoutWith ChatLoginHandler.adaBody) 0 7 rfl rfl
    (ada_authenticated ChatLoginHandler.adaBody)).mpr (Or.inr ⟨_, rfl⟩)

/-- The answer is the 400 of the parser, and the session is gone. -/
theorem unparsed_logout_half_done :
    ¬ ∀ (env : Environment) (app : Application) (req : HttpRequest) (session : Handle) (userId : Int32),
      req.method = .kPost → req.path = bytes "/user/logout" →
        Authenticated app.server.sessionManager env.clock req session userId →
        AllOrNothing env app req session userId := by
  intro claimed
  have served : (handledRequest entryOnly adaOnline (logoutWith (bytes "not json"))).2.statusCode = .k400BadRequest ∧
      (handledRequest entryOnly adaOnline (logoutWith (bytes "not json"))).1.server.sessionManager.sessions.find
        (getSessionIdFromCookie (logoutWith (bytes "not json"))) = none := by decide
  rcases claimed entryOnly adaOnline (logoutWith (bytes "not json")) 0 7 rfl rfl (ada_authenticated _) with done | same
  · cases served.1.symm.trans done.status
  · cases served.2.symm.trans same.present

end Chat
