import HttpServerApps.Chat.Refusals
import HttpServerApps.Session.Expiry

namespace Http.Sessions.SessionManager

open Common

variable {manager : SessionManager} {clock : Readings} {draws : Fin 32 → Fin 16} {req : HttpRequest}
  {resp : HttpResponse} {key : Bytes}

/-- `getSession` leaves alone what is under neither the cookie nor a new id. -/
theorem getSession_aside (consistent : manager.Consistent) (cookie : getSessionIdFromCookie req ≠ key)
    (drawn : generateSessionId draws ≠ key) :
    (manager.getSession clock draws req resp).1.lookup key = manager.lookup key := by
  unfold getSession
  rcases findSession_cases manager clock (getSessionIdFromCookie req) with
    ⟨session, run, _, stored, _⟩ | ⟨run, _⟩ | ⟨stale, run, _⟩
  · rcases consistent.expired stored with ⟨object, held, _⟩
    rcases held.onObject Session.setManager rfl with ⟨managed, managedOthers⟩
    rcases managed.onObject (·.refresh clock.refresh) rfl with ⟨refreshed, others⟩
    rw [run]
    dsimp only
    rw [refreshed.save, others key cookie.symm, managedOthers key cookie.symm]
  · rcases created_held consistent (generateSessionId draws) clock with ⟨_, others⟩
    rw [run]
    exact others key drawn.symm
  · rcases created_held (consistent.erase (getSessionIdFromCookie req)) (generateSessionId draws) clock with ⟨_, others⟩
    rw [run]
    exact (others key drawn.symm).trans
      ((lookup_destroySession manager _ key).trans (if_neg cookie.symm))

/-- What `getSession` obtains from the cookie of a session that has not expired at that moment. -/
theorem getSession_own (consistent : manager.Consistent) {moment : Int} {object : Session}
    (named : getSessionIdFromCookie req ≠ []) (found : manager.lookup (getSessionIdFromCookie req) = some object)
    (live : object.isExpired moment = false) :
    ∃ after, (manager.getSession (.all moment) draws req resp).1.Held (getSessionIdFromCookie req)
        (manager.getSession (.all moment) draws req resp).2.2 after ∧
      after.data = object.data ∧ after.maxAge = object.maxAge ∧
      after.expiryTime = moment + object.maxAge * 10 ^ 9 := by
  rcases manager.getSession_obtained consistent (.all moment) draws req resp with ⟨after, obtained⟩
  rcases obtained.origin with ⟨same, _, old, stored, _, data, age⟩ | ⟨lost, _⟩
  · cases found.symm.trans stored
    refine ⟨after, same ▸ obtained.held, data, age, ?_⟩
    rw [obtained.expiry, age]
    rfl
  · rcases lost with empty | expired
    · exact absurd empty named
    · rcases expired object found with late | late <;> cases late.symm.trans live

end Http.Sessions.SessionManager

namespace Chat

open Common Http Middlewares Routing Sessions

/-- The `maxAge_` of a session, in nanoseconds. -/
def hour : Int := 3600 * 10 ^ 9

/-- The session under the key is logged in as the user, and was given out for the last time at `last`. -/
structure SignedIn (manager : SessionManager) (key : Bytes) (userId : Int32) (last : Int) : Prop where
  named : key ≠ []
  stored : ∃ object, manager.lookup key = some object ∧ LoggedIn object userId ∧ object.maxAge = 3600 ∧
    object.expiryTime = last + hour

section

variable {manager after : SessionManager} {key : Bytes} {userId : Int32} {last moment : Int}
  {draws : Fin 32 → Fin 16} {req : HttpRequest} {resp : HttpResponse}

/-- The session stays where what is under its key stays. -/
theorem SignedIn.aside (signed : SignedIn manager key userId last)
    (same : after.lookup key = manager.lookup key) : SignedIn after key userId last := by
  refine ⟨signed.named, ?_⟩
  rw [same]
  exact signed.stored

theorem SignedIn.live (signed : SignedIn manager key userId last) (intime : moment ≤ last + hour) :
    ∃ object, manager.lookup key = some object ∧ LoggedIn object userId ∧ object.maxAge = 3600 ∧
      object.isExpired moment = false := by
  rcases signed.stored with ⟨object, found, mine, age, expiry⟩
  refine ⟨object, found, mine, age, ?_⟩
  unfold Session.isExpired
  rw [expiry]
  exact decide_eq_false (Int.not_lt.mpr intime)

theorem SignedIn.sweep (signed : SignedIn manager key userId last) (consistent : manager.Consistent)
    (intime : moment ≤ last + hour) : SignedIn (manager.cleanExpiredSessions moment) key userId last := by
  apply signed.aside
  rcases signed.live intime with ⟨object, found, _, _, live⟩
  rw [SessionManager.lookup_cleanExpiredSessions consistent, found, Option.filter_some, live]
  rfl

/-- A visit in time gives out the session for another hour. -/
theorem SignedIn.visit (signed : SignedIn manager key userId last) (consistent : manager.Consistent)
    (cookie : getSessionIdFromCookie req = key) (intime : moment ≤ last + hour) :
    SignedIn (manager.getSession (.all moment) draws req resp).1 key userId moment ∧
      (manager.getSession (.all moment) draws req resp).1.getValue
        (manager.getSession (.all moment) draws req resp).2.2 (bytes "isLoggedIn") = bytes "true" ∧
      (manager.getSession (.all moment) draws req resp).1.getValue
        (manager.getSession (.all moment) draws req resp).2.2 (bytes "userId") = intText userId.toInt := by
  rcases signed.live intime with ⟨object, found, mine, age, live⟩
  rw [← cookie] at found
  rcases @SessionManager.getSession_own manager draws req resp consistent moment object
    (cookie ▸ signed.named) found live with ⟨renewed, held, data, sameAge, expiry⟩
  have still : LoggedIn renewed userId := by
    unfold LoggedIn
    rw [data]
    exact mine
  rw [held.getValue, held.getValue]
  refine ⟨⟨signed.named, renewed, cookie ▸ held.lookup, still, sameAge.trans age, ?_⟩, ?_,
    still.getValue⟩
  · rw [expiry, age]
    rfl
  · unfold Session.getValue
    rw [still.1]
    rfl

end

/-! What a request does to a session that it does not show. -/

section

variable {env : Environment} {app : Application} {req : HttpRequest} {key : Bytes}

/-- Neither the cookie nor a new id is the key. -/
structure Aside (env : Environment) (req : HttpRequest) (key : Bytes) : Prop where
  cookie : getSessionIdFromCookie req ≠ key
  drawn : generateSessionId env.draws ≠ key
  drawnAtLogin : generateSessionId env.login.draws ≠ key

theorem sessionKey_ne {manager : SessionManager} {clock : Readings} {draws : Fin 32 → Fin 16}
    (cookie : getSessionIdFromCookie req ≠ key) (drawn : generateSessionId draws ≠ key) :
    key ≠ manager.sessionKey clock draws req := by
  unfold SessionManager.sessionKey
  split
  · exact cookie.symm
  · exact drawn.symm

theorem serverAfter_aside (consistent : app.server.sessionManager.Consistent) (aside : Aside env req key) :
    (serverAfter env app req).sessionManager.lookup key = app.server.sessionManager.lookup key := by
  have given : ∀ {clock draws}, generateSessionId draws ≠ key →
      (app.server.sessionManager.getSession clock draws req { closeConnection := wantsClose req }).1.lookup key =
        app.server.sessionManager.lookup key :=
    fun drawn => SessionManager.getSession_aside consistent aside.cookie drawn
  unfold serverAfter
  split
  · cases accepted : ChatLoginHandler.admitted env.json env.login req with
    | none =>
      rcases ChatLoginHandler.handle_refused ⟨app.server, { closeConnection := wantsClose req }⟩ accepted with
        ⟨resp, outcome, run, _⟩
      rw [run]
    | some user =>
      rcases user with ⟨userId, username⟩
      rcases ChatLoginHandler.handle_admitted ⟨app.server, { closeConnection := wantsClose req }⟩ accepted with
        ⟨resp, run, _⟩
      rcases app.server.sessionManager.getSession_obtained consistent env.login.clock env.login.draws req
        { closeConnection := wantsClose req } with ⟨object, obtained⟩
      rcases authenticate_held obtained.held userId username with ⟨_, others⟩
      rw [run]
      exact (others key (sessionKey_ne aside.cookie aside.drawnAtLogin)).trans (given aside.drawnAtLogin)
  · rcases app.server.sessionManager.getSession_obtained consistent env.clock env.draws req
      { closeConnection := wantsClose req } with ⟨object, obtained⟩
    have different : key ≠ app.server.sessionManager.sessionKey env.clock env.draws req :=
      sessionKey_ne aside.cookie aside.drawn
    unfold ChatLogoutHandler.left
    split
    · rfl
    · dsimp only
      split
      · exact given aside.drawn
      · rcases obtained.held.onObject Session.clear rfl with ⟨_, others⟩
        rw [obtained.held.clearedId, SessionManager.lookup_destroySession, if_neg different]
        exact (others key different).trans (given aside.drawn)
  · rfl
  · rfl
  · rfl
  · exact given aside.drawn

/-- The handlers that ask for no session. -/
def sessionless (req : HttpRequest) : Bool :=
  match handlerAt req.method req.path with
  | some .chatEntry | some .chatRegister | none => true
  | _ => false

theorem serverAfter_sessionless (free : sessionless req = true) : serverAfter env app req = app.server := by
  unfold sessionless at free
  unfold serverAfter
  split at free
  · rename_i routed
    rw [routed]
  · rename_i routed
    rw [routed]
  · rename_i unrouted
    rw [unrouted]
  · cases free

theorem serverAfter_guarded {handler : Handler} (routed : handlerAt req.method req.path = some handler)
    (guarded : handler.guarded = true) :
    serverAfter env app req = (afterSession env app req { closeConnection := wantsClose req }).server := by
  unfold serverAfter
  rw [routed]
  cases handler
  case chatEntry | chatLogin | chatRegister | chatLogout => cases guarded
  all_goals rfl

end

/-! Runs. -/

section

variable {json : JsonLibrary} {codec : JsonCodec} {key : Bytes}

/-- The steps that leave the session under the key logged in, by when they leave it to have been given out: a visit
    in time, a request that neither shows the session nor draws its id, one that asks for no session, and a clean-up
    while the session lasts. -/
inductive Keeps (json : JsonLibrary) (codec : JsonCodec) (key : Bytes) : Int → ServerAction → Int → Prop where
  | visit {last moment arrival handler} (cookie : getSessionIdFromCookie arrival.req = key)
      (routed : handlerAt arrival.req.method arrival.req.path = some handler) (guarded : handler.guarded = true)
      (atOnce : arrival.clock = .all moment) (intime : moment ≤ last + hour) :
      Keeps json codec key last (.request arrival) moment
  | aside {last arrival} (aside : Aside (arrival.env json codec) arrival.req key) :
      Keeps json codec key last (.request arrival) last
  | sessionless {last arrival} (free : sessionless arrival.req = true) :
      Keeps json codec key last (.request arrival) last
  | sweep {last now} (intime : now ≤ last + hour) : Keeps json codec key last (.sweep now) last

theorem signedIn_step {app next : Application} {action : ServerAction} {userId : Int32} {last later : Int}
    (step : (serving json codec).step app action = some next) (keeps : Keeps json codec key last action later)
    (owned : Owned (fun _ => True) app.server.sessionManager)
    (signed : SignedIn app.server.sessionManager key userId last) :
    SignedIn next.server.sessionManager key userId later := by
  change serveStep json codec app action = some next at step
  cases action with
  | sweep now =>
    cases step
    cases keeps with
    | sweep intime => exact signed.sweep owned.consistent intime
  | request arrival =>
    rcases Option.map_eq_some_iff.mp step with ⟨⟨after, response⟩, answered, rfl⟩
    rw [(answer_leaves answered).server]
    cases keeps with
    | visit cookie routed guarded atOnce intime =>
      rw [serverAfter_guarded routed guarded]
      have visited := @SignedIn.visit _ _ _ _ later arrival.draws _ { closeConnection := wantsClose arrival.req } signed
        owned.consistent cookie intime
      rw [← atOnce] at visited
      exact visited.1
    | aside aside => exact signed.aside (serverAfter_aside owned.consistent aside)
    | sessionless free =>
      rw [serverAfter_sessionless free]
      exact signed

theorem signedIn_run {app final : Application} {actions : List ServerAction} {userId : Int32} {last later : Int}
    (run : (serving json codec).run app actions = some final)
    (kept : System.Clocked (Keeps json codec key) last actions later)
    (owned : Owned (fun _ => True) app.server.sessionManager)
    (signed : SignedIn app.server.sessionManager key userId last) :
    Owned (fun _ => True) final.server.sessionManager ∧ SignedIn final.server.sessionManager key userId later := by
  let Held (last : Int) (app : Application) : Prop :=
    Owned (fun _ => True) app.server.sessionManager ∧ SignedIn app.server.sessionManager key userId last
  have steps : ∀ last state action later next, (serving json codec).step state action = some next →
      Keeps json codec key last action later → Held last state → True → Held later next :=
    fun _ _ _ _ _ step keeps held _ =>
      ⟨owned_step step held.1 fun _ _ => trivial, signedIn_step step keeps held.1 held.2⟩
  exact System.clocked_preserves steps kept ⟨owned, signed⟩ run (System.everywhere_of_mem fun _ _ _ => trivial)

/-- The session of a login that the store admits. -/
theorem signedIn_login {app next : Application} {login : Arrival} {userId : Int32} {username : Bytes} {moment : Int}
    (owned : Owned (fun _ => True) app.server.sessionManager)
    (routed : handlerAt login.req.method login.req.path = some .chatLogin)
    (accepted : ChatLoginHandler.admitted json login.login login.req = some (userId, username))
    (atOnce : login.login.clock = .all moment) (step : (serving json codec).step app (.request login) = some next) :
    SignedIn next.server.sessionManager
      (app.server.sessionManager.sessionKey login.login.clock login.login.draws login.req) userId moment := by
  rcases Option.map_eq_some_iff.mp step with ⟨⟨after, response⟩, answered, rfl⟩
  rcases app.server.sessionManager.getSession_obtained owned.consistent login.login.clock login.login.draws login.req
    { closeConnection := wantsClose login.req } with ⟨object, obtained⟩
  rcases ChatLoginHandler.handle_admitted ⟨app.server, { closeConnection := wantsClose login.req }⟩ accepted with
    ⟨resp, run, _⟩
  rcases authenticate_held obtained.held userId username with ⟨⟨written, held, mine, age, expiry⟩, _⟩
  have hours := (owned.obtained_proper obtained).hour
  have server : after.server = ChatLoginHandler.welcomed login.login login.req
      ⟨app.server, { closeConnection := wantsClose login.req }⟩ userId username := by
    rw [(answer_leaves answered).server]
    unfold serverAfter
    rw [routed]
    exact congrArg (fun ended => ended.1.server) run
  rw [server]
  refine ⟨?_, written, held.lookup, mine, age.trans hours, ?_⟩
  · unfold SessionManager.sessionKey
    rcases SessionManager.findSession_cases app.server.sessionManager login.login.clock
      (getSessionIdFromCookie login.req) with ⟨session, run, named, _⟩ | ⟨run, _⟩ | ⟨_, run, _⟩ <;> rw [run]
    · exact named
    · exact generateSessionId_ne _
    · exact generateSessionId_ne _
  · rw [expiry, obtained.expiry, hours, atOnce]
    rfl

/-- Who has logged in stays logged in, whatever others do, while no two visits lie more than an hour apart: a request
    that shows the session of the login is handled for its user, and is not refused. -/
theorem stays_logged_in (json : JsonLibrary) (codec : JsonCodec)
    (prints : Prints codec (errorBody (bytes "Unauthorized"))) (memory : ChatMemory) {before : List ServerAction}
    {app : Application} (started : (serving json codec).run (initialised memory) before = some app) {login : Arrival}
    {userId : Int32} {username : Bytes} {moment : Int}
    (entry : handlerAt login.req.method login.req.path = some .chatLogin)
    (accepted : ChatLoginHandler.admitted json login.login login.req = some (userId, username))
    (atOnce : login.login.clock = .all moment) {actions : List ServerAction} {final : Application}
    (run : (serving json codec).run app (.request login :: actions) = some final) {last now : Int}
    (kept : System.Clocked (Keeps json codec
      (app.server.sessionManager.sessionKey login.login.clock login.login.draws login.req)) moment actions last)
    (arrival : Arrival) {handler : Handler}
    (routed : handlerAt arrival.req.method arrival.req.path = some handler) (guarded : handler.guarded = true)
    (shown : getSessionIdFromCookie arrival.req =
      app.server.sessionManager.sessionKey login.login.clock login.login.draws login.req)
    (visit : arrival.clock = .all now) (intime : now ≤ last + hour) :
    actor (arrival.env json codec) final arrival.req = some userId ∧
      ∀ after response, answer (arrival.env json codec) final arrival.req = some (after, response) →
        response.statusCode ≠ .k401Unauthorized := by
  have owned := owned_run started
  rcases Option.bind_eq_some_iff.mp run with ⟨next, step, later⟩
  have ownedNext := owned_step step owned fun _ _ => trivial
  rcases signedIn_run later kept ownedNext (signedIn_login owned entry accepted atOnce step) with ⟨ownedFinal, signed⟩
  have visited := @SignedIn.visit _ _ _ _ now arrival.draws _ { closeConnection := wantsClose arrival.req } signed
    ownedFinal.consistent shown intime
  rw [← visit] at visited
  rcases visited with ⟨_, flag, name⟩
  have loggedIn : (incoming (arrival.env json codec) final arrival.req).isLoggedIn = bytes "true" := flag
  have text : (incoming (arrival.env json codec) final arrival.req).userId = intText userId.toInt := name
  have user : (incoming (arrival.env json codec) final arrival.req).user = some userId := by
    unfold Incoming.user
    rw [if_pos loggedIn, text, stoi_intText]
    rfl
  apply And.intro
  · unfold actor
    rw [routed]
    cases handler
    case chatEntry | chatLogin | chatRegister | chatLogout => cases guarded
    all_goals exact user
  · intro after response answered refused
    rw [(answer_sent answered).1, responseTo_refuses routed guarded prints] at refused
    exact refused loggedIn

end

/-- A request for the menu that shows the session of Ada's login. -/
def adaReturns (moment : Int) : Arrival :=
  { visits { closingGet (bytes "/menu") with
      headers := Dict.empty.insert (bytes "cookie") (bytes "sessionId=" ++ generateSessionId fun _ => 0) } with
    clock := .all moment }

/-- A request of somebody else, who gets another session. -/
def strangerVisits : Arrival := { menuArrives with login := ChatLoginHandler.adaOnly fun _ => 1, draws := fun _ => 1 }

/-- Ada visits fifty minutes after her login, and then again. -/
theorem ada_stays :
    ∃ final, (serving ChatLoginHandler.adaJson (knownTexts [])).run {}
        [.request adaArrives, .request strangerVisits, .request (adaReturns (3000 * 10 ^ 9)),
          .sweep (3500 * 10 ^ 9)] = some final ∧
      actor ((adaReturns (6000 * 10 ^ 9)).env ChatLoginHandler.adaJson (knownTexts [])) final
        (adaReturns (6000 * 10 ^ 9)).req = some 7 := by
  rcases Option.isSome_iff_exists.mp (show ((serving ChatLoginHandler.adaJson (knownTexts [])).run {}
    [.request adaArrives, .request strangerVisits, .request (adaReturns (3000 * 10 ^ 9)),
      .sweep (3500 * 10 ^ 9)]).isSome = true by decide) with ⟨final, run⟩
  have menu : handlerAt .kGet (bytes "/menu") = some .aiMenu := by decide
  have kept : System.Clocked (Keeps ChatLoginHandler.adaJson (knownTexts []) (generateSessionId fun _ => 0)) 0
      [.request strangerVisits, .request (adaReturns (3000 * 10 ^ 9)), .sweep (3500 * 10 ^ 9)] (3000 * 10 ^ 9) :=
    .cons (.aside ⟨by decide, by decide, by decide⟩)
      (.cons (.visit (by decide) menu rfl rfl (by decide)) (.cons (.sweep (by decide)) (.nil _)))
  have started : (serving ChatLoginHandler.adaJson (knownTexts [])).run (initialised {}) [] = some {} := rfl
  refine ⟨final, run, (stays_logged_in ChatLoginHandler.adaJson (knownTexts []) ⟨_, rfl⟩ {} started
    (show handlerAt .kPost (bytes "/login") = some .chatLogin by decide) (ChatLoginHandler.ada_admitted _) rfl run kept
    (adaReturns (6000 * 10 ^ 9)) menu rfl (by decide) rfl (by decide)).1⟩

end Chat
