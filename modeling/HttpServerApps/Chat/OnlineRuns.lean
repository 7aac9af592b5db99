import HttpServerApps.Chat.LiveSessions
import HttpServerApps.Chat.Login
import HttpServerApps.Chat.Logout
import HttpServerApps.Common.Runs
import HttpServerApps.Http.HandleRequest

namespace Chat

open Common Http Sessions

inductive ServerStep where
  | login (env : ChatLoginHandler.Surroundings) (req : HttpRequest)
  | logout (draws : Fin 32 → Fin 16) (req : HttpRequest)
  | pass (elapsed : Nat)
  | sweep

/-- The clock stands still during one request. -/
def ServerStep.surroundings (env : ChatLoginHandler.Surroundings) (now : Int) :
    ChatLoginHandler.Surroundings := { env with clock := .all now }

def Moment.exchange (state : Moment) (req : HttpRequest) : Exchange :=
  ⟨state.server, { closeConnection := wantsClose req }⟩

def serverStep (json : JsonLibrary) (state : Moment) : ServerStep → Option Moment
  | .login env req =>
    let run := (ChatLoginHandler.handle json (ServerStep.surroundings env state.now) req).run
      (state.exchange req)
    some { state with server := run.1.server }
  | .logout draws req =>
    let run := (ChatLogoutHandler.handle json (.all state.now) draws req).run (state.exchange req)
    some { state with server := run.1.server }
  | .pass elapsed => some { state with now := state.now + elapsed }
  | .sweep =>
    some { state with server := { state.server with
      sessionManager := state.server.sessionManager.cleanExpiredSessions state.now } }

def requests (json : JsonLibrary) : System Moment ServerStep := ⟨serverStep json⟩

/-! The conditions under which a step keeps the table and the storage in step. -/

def Presents (state : Moment) (req : HttpRequest) (userId : Int32) : Prop :=
  getSessionIdFromCookie req ≠ [] ∧
    LiveAt state.server.sessionManager state.now (getSessionIdFromCookie req) userId

def KeepsStep (json : JsonLibrary) (state : Moment) : ServerStep → Prop
  | .login env req =>
    -- an accepted login takes no other user's only live session
    ∀ userId username,
      ChatLoginHandler.admitted json (ServerStep.surroundings env state.now) req = some (userId, username) →
      ∀ other, other ≠ userId →
        Elsewhere state (state.server.sessionManager.sessionKey (.all state.now) env.draws req) other
  | .logout draws req =>
    badContent req = false →
      let key := state.server.sessionManager.sessionKey (.all state.now) draws req
      -- a logout whose body parses ends the user's only live session, one whose body does not another
      (∀ userId, Presents state req userId →
        match json.parse req.content with
        | .ok _ => OnlySession state key userId
        | .error _ => Elsewhere state key userId) ∧
      -- without a session of its own it replaces no user's only live session by the new one
      ((∀ userId, ¬ Presents state req userId) → ∀ userId, Elsewhere state key userId)
  | .pass elapsed =>
    -- no user's last live session expires
    ∀ userId, (∃ key, LiveAt state.server.sessionManager state.now key userId) →
      ∃ key, LiveAt state.server.sessionManager (state.now + elapsed) key userId
  | .sweep => True

/-! The requests. -/

section

variable {before after : SessionManager} {now : Int} {cookie key : Bytes} {session : Handle}
  {object : Session}

theorem obtained_apart (obtained : SessionManager.Obtained before after (.all now) cookie key session object) :
    Apart before after now key := obtained.others

theorem obtained_hour {state : Moment} (orderly : Orderly state)
    (obtained : SessionManager.Obtained state.server.sessionManager after (.all state.now) cookie key
      session object) :
    object.maxAge = 3600 := by
  rcases obtained.origin with ⟨_, _, old, found, _, _, same⟩ | ⟨_, _, hour⟩
  · exact same.trans (orderly.hour cookie old found)
  · exact hour

theorem obtained_fresh (obtained : SessionManager.Obtained before after (.all now) cookie key session object)
    (hour : object.maxAge = 3600) : object.isExpired now = false := by
  have expiry : object.expiryTime = now + object.maxAge * 10 ^ 9 := obtained.expiry
  unfold Session.isExpired
  rw [expiry, hour]
  simp

theorem authenticate_entry
    (obtained : SessionManager.Obtained before after (.all now) cookie key session object)
    (hour : object.maxAge = 3600) (userId : Int32) (username : Bytes) :
    let final := ChatLoginHandler.authenticate after session userId username
    final.Consistent ∧ Apart before final now key ∧ Entry final now key (some userId) ∧
      ∀ held, final.lookup key = some held → held.expiryTime = now + 3600 * 10 ^ 9 := by
  intro final
  obtain ⟨first, firstOthers⟩ := obtained.held.setValue (bytes "userId") (intText userId.toInt)
  obtain ⟨second, secondOthers⟩ := first.setValue (bytes "username") username
  obtain ⟨third, thirdOthers⟩ := second.setValue (bytes "isLoggedIn") (bytes "true")
  have fresh := obtained_fresh obtained hour
  refine ⟨third.consistent, ?_, ?_, ?_⟩
  · intro other different
    have same : final.lookup other = after.lookup other :=
      (thirdOthers other different).trans
        ((secondOthers other different).trans (firstOthers other different))
    rw [same]
    exact obtained.others other different
  · refine ⟨?_, nofun, ?_⟩
    · intro held found
      have there : final.lookup key = some _ := third.lookup
      rw [found] at there
      cases there
      exact hour
    · intro owner same
      cases same
      exact ⟨_, third.lookup, fresh, rfl, rfl⟩
  · intro held found
    have there : final.lookup key = some _ := third.lookup
    rw [found] at there
    cases there
    have expiry := obtained.expiry
    rw [hour] at expiry
    exact expiry

end

theorem welcomed_table (onlineUsers : Dict Int32 Bool) (userId other : Int32) :
    (if isFree onlineUsers userId then markOnline onlineUsers userId else onlineUsers).find other =
      if other = userId then some true else onlineUsers.find other := by
  cases free : isFree onlineUsers userId with
  | true => rfl
  | false =>
    simp only [Bool.false_eq_true, ↓reduceIte]
    split
    · rename_i same
      subst same
      unfold isFree at free
      cases found : onlineUsers.find other with
      | none =>
        rw [found] at free
        cases free
      | some online =>
        cases online with
        | true => rfl
        | false =>
          rw [found] at free
          cases free
    · rfl

variable {json : JsonLibrary}

theorem login_step {state next : Moment} {env : ChatLoginHandler.Surroundings} {req : HttpRequest}
    (taken : serverStep json state (.login env req) = some next) (orderly : Orderly state) :
    Orderly next ∧ (InStep state → (InStep next ↔ KeepsStep json state (.login env req))) := by
  simp only [serverStep, Option.some.injEq] at taken
  subst taken
  unfold KeepsStep
  cases accepted : ChatLoginHandler.admitted json (ServerStep.surroundings env state.now) req with
  | none =>
    obtain ⟨resp, outcome, run, _⟩ := ChatLoginHandler.handle_refused (state.exchange req) accepted
    rw [run]
    refine ⟨orderly, fun good => iff_of_true good ?_⟩
    intro userId username same
    rw [accepted] at same
    cases same
  | some user =>
    obtain ⟨userId, username⟩ := user
    obtain ⟨resp, run, _⟩ := ChatLoginHandler.handle_admitted (state.exchange req) accepted
    obtain ⟨object, obtained⟩ := state.server.sessionManager.getSession_obtained orderly.consistent
      (.all state.now) env.draws req (state.exchange req).resp
    obtain ⟨consistent, apart, entry, _⟩ :=
      authenticate_entry obtained (obtained_hour orderly obtained) userId username
    rw [run]
    refine ⟨orderly.replace consistent apart entry, fun good => ?_⟩
    have owned := inStep_owned good apart entry (welcomed_table state.server.onlineUsers userId)
    apply owned.trans
    apply Iff.intro
    · intro others owner name same
      rw [accepted] at same
      cases same
      exact others
    · intro kept
      exact kept userId username accepted

theorem presents_key {state : Moment} {req : HttpRequest} {userId : Int32} (draws : Fin 32 → Fin 16)
    (presents : Presents state req userId) :
    state.server.sessionManager.sessionKey (.all state.now) draws req = getSessionIdFromCookie req := by
  obtain ⟨given, object, found, fresh, _⟩ := presents
  obtain ⟨session, stored, there⟩ := Option.bind_eq_some_iff.mp found
  have live : state.server.sessionManager.expired state.now session = false := by
    unfold SessionManager.expired
    rw [there]
    exact fresh
  unfold SessionManager.sessionKey
  rw [SessionManager.findSession_live given stored live live]

theorem obtained_user {state : Moment} (orderly : Orderly state) {after : SessionManager}
    {draws : Fin 32 → Fin 16} {req : HttpRequest} {session : Handle} {object : Session}
    (obtained : SessionManager.Obtained state.server.sessionManager after (.all state.now)
      (getSessionIdFromCookie req) (state.server.sessionManager.sessionKey (.all state.now) draws req)
      session object) :
    (object.data = .empty ∧ ∀ userId, ¬ Presents state req userId) ∨
      ∃ userId, LoggedIn object userId ∧ Presents state req userId := by
  rcases obtained.origin with ⟨_, given, old, found, fresh, same, _⟩ | ⟨noLive, empty, _⟩
  · rcases orderly.whole _ old found with empty | ⟨userId, mine⟩
    · left
      refine ⟨same.trans empty, ?_⟩
      intro userId presents
      obtain ⟨_, object, again, _, loggedIn⟩ := presents
      rw [found] at again
      cases again
      have present := loggedIn.1
      rw [empty] at present
      cases present
    · right
      refine ⟨userId, ?_, given, old, found, fresh, mine⟩
      unfold LoggedIn
      rw [same]
      exact mine
  · left
    refine ⟨empty, ?_⟩
    intro userId presents
    obtain ⟨given, object, found, fresh, _⟩ := presents
    rcases noLive with none_ | expired
    · exact given none_
    · have late : object.isExpired state.now = true := by
        rcases expired object found with first | second
        · exact first
        · exact second
      rw [fresh] at late
      cases late

theorem bare_entry {manager : SessionManager} (now : Int) {key : Bytes} {session : Handle}
    {object : Session} (held : manager.Held key session object) (hour : object.maxAge = 3600)
    (empty : object.data = .empty) : Entry manager now key none := by
  refine ⟨?_, ?_, nofun⟩
  · intro other found
    rw [held.lookup] at found
    cases found
    exact hour
  · intro _ other found
    rw [held.lookup] at found
    cases found
    exact empty

theorem destroyed_entry {before after : SessionManager} {now : Int} {cookie key : Bytes} {session : Handle}
    {object : Session}
    (obtained : SessionManager.Obtained before after (.all now) cookie key session object) :
    let cleared := after.clear session
    let final := cleared.destroySession (((cleared.object session).map Session.sessionId).getD [])
    final.Consistent ∧ Apart before final now key ∧ Entry final now key none := by
  intro cleared final
  obtain ⟨held, others⟩ := obtained.held.onObject Session.clear rfl
  have sessionId : ((cleared.object session).map Session.sessionId).getD [] = key := obtained.held.clearedId
  have entries : ∀ other, final.lookup other = if other = key then none else cleared.lookup other := by
    intro other
    have gone := cleared.lookup_destroySession (((cleared.object session).map Session.sessionId).getD []) other
    rw [sessionId] at gone
    rw [← gone]
    exact congrArg (fun id => (cleared.destroySession id).lookup other) sessionId
  have empty : final.lookup key = none := (entries key).trans (if_pos rfl)
  refine ⟨held.consistent.erase _, ?_, ?_⟩
  · intro other different
    rw [entries other, if_neg different]
    have same : cleared.lookup other = after.lookup other := others other different
    rw [same]
    exact obtained.others other different
  · refine ⟨?_, ?_, nofun⟩
    · intro found there
      rw [empty] at there
      cases there
    · intro _ found there
      rw [empty] at there
      cases there

/-- A logout whose session is nobody's stops at `stoi`: only the session it obtained is new. -/
theorem logout_unowned {state : Moment} {draws : Fin 32 → Fin 16} {req : HttpRequest}
    {after : SessionManager} {session : Handle} {object : Session} (orderly : Orderly state)
    (content : badContent req = false)
    (obtained : SessionManager.Obtained state.server.sessionManager after (.all state.now)
      (getSessionIdFromCookie req) (state.server.sessionManager.sessionKey (.all state.now) draws req)
      session object)
    (empty : object.data = .empty) (nobody : ∀ userId, ¬ Presents state req userId) :
    let next : Moment := { state with server := { state.server with sessionManager := after } }
    Orderly next ∧ (InStep state → (InStep next ↔ KeepsStep json state (.logout draws req))) := by
  intro next
  have entry := bare_entry state.now obtained.held (obtained_hour orderly obtained) empty
  refine ⟨orderly.replace obtained.held.consistent (obtained_apart obtained) entry, fun good => ?_⟩
  apply (inStep_unowned good (obtained_apart obtained) entry).trans
  unfold KeepsStep
  apply Iff.intro
  · intro elsewhere _
    exact ⟨fun userId presents => absurd presents (nobody userId), fun _ => elsewhere⟩
  · intro kept
    exact (kept content).2 nobody

/-- A logout of a user destroys the session; the table is written only when the body parses. -/
theorem logout_owned {state : Moment} {draws : Fin 32 → Fin 16} {req : HttpRequest}
    {after : SessionManager} {session : Handle} {object : Session} {userId : Int32} (orderly : Orderly state)
    (content : badContent req = false)
    (obtained : SessionManager.Obtained state.server.sessionManager after (.all state.now)
      (getSessionIdFromCookie req) (state.server.sessionManager.sessionKey (.all state.now) draws req)
      session object)
    (presents : Presents state req userId) :
    let cleared := after.clear session
    let next : Moment := { state with server :=
      { sessionManager := cleared.destroySession (((cleared.object session).map Session.sessionId).getD [])
        onlineUsers :=
          match json.parse req.content with
          | .ok _ => markOffline state.server.onlineUsers userId
          | .error _ => state.server.onlineUsers } }
    Orderly next ∧ (InStep state → (InStep next ↔ KeepsStep json state (.logout draws req))) := by
  intro cleared next
  obtain ⟨consistent, apart, entry⟩ := destroyed_entry obtained
  have live : LiveAt state.server.sessionManager state.now
      (state.server.sessionManager.sessionKey (.all state.now) draws req) userId := by
    rw [presents_key draws presents]
    exact presents.2
  have same : ∀ other, Presents state req other → other = userId :=
    fun other theirs => theirs.2.unique presents.2
  refine ⟨orderly.replace consistent apart entry, fun good => ?_⟩
  unfold KeepsStep
  dsimp only [next]
  cases parsed : json.parse req.content with
  | ok value =>
    apply (inStep_erased good apart entry live).trans
    apply Iff.intro
    · intro only _
      refine ⟨fun other theirs => ?_, fun nobody => absurd presents (nobody userId)⟩
      rw [same other theirs]
      exact only
    · intro kept
      exact (kept content).1 userId presents
  | error what =>
    apply (inStep_unowned good apart entry).trans
    apply Iff.intro
    · intro elsewhere _
      exact ⟨fun other _ => elsewhere other, fun nobody => absurd presents (nobody userId)⟩
    · intro kept other theirs
      have mine := theirs.unique live
      subst mine
      exact (kept content).1 other presents theirs

theorem logout_step {state next : Moment} {draws : Fin 32 → Fin 16} {req : HttpRequest}
    (taken : serverStep json state (.logout draws req) = some next) (orderly : Orderly state) :
    Orderly next ∧ (InStep state → (InStep next ↔ KeepsStep json state (.logout draws req))) := by
  simp only [serverStep, Option.some.injEq] at taken
  subst taken
  obtain ⟨resp, outcome, run⟩ := ChatLogoutHandler.handle_run json (.all state.now) draws req (state.exchange req)
  rw [run]
  unfold ChatLogoutHandler.left
  cases content : badContent req with
  | true =>
    refine ⟨orderly, fun good => iff_of_true good ?_⟩
    intro other
    cases content.symm.trans other
  | false =>
    obtain ⟨object, obtained⟩ := state.server.sessionManager.getSession_obtained orderly.consistent
      (.all state.now) draws req (state.exchange req).resp
    have text := obtained.held.getValue (bytes "userId")
    dsimp only [Moment.exchange] at text ⊢
    rw [text]
    rcases obtained_user orderly obtained with ⟨empty, nobody⟩ | ⟨userId, mine, presents⟩
    · have noUser : object.getValue (bytes "userId") = [] := by
        unfold Session.getValue
        rw [empty]
        rfl
      rw [noUser, stoi_nil]
      exact logout_unowned orderly content obtained empty nobody
    · rw [mine.getValue, stoi_intText]
      exact logout_owned orderly content obtained presents

theorem pass_step {state next : Moment} {elapsed : Nat}
    (taken : serverStep json state (.pass elapsed) = some next) (orderly : Orderly state) :
    Orderly next ∧ (InStep state → (InStep next ↔ KeepsStep json state (.pass elapsed))) := by
  cases taken
  refine ⟨⟨orderly.consistent, orderly.hour, orderly.whole⟩, fun good => ?_⟩
  apply forall_congr'
  intro userId
  dsimp only
  rw [good userId]
  apply Iff.intro
  · exact Iff.mp
  · intro kept
    refine ⟨kept, ?_⟩
    intro given
    obtain ⟨key, object, found, fresh, mine⟩ := given
    refine ⟨key, object, found, ?_, mine⟩
    unfold Session.isExpired at fresh ⊢
    rw [decide_eq_false_iff_not] at fresh ⊢
    intro late
    exact fresh (Int.lt_of_lt_of_le late (Int.le_add_of_nonneg_right (Int.natCast_nonneg elapsed)))

theorem sweep_step {state next : Moment} (taken : serverStep json state .sweep = some next)
    (orderly : Orderly state) :
    Orderly next ∧ (InStep state → (InStep next ↔ KeepsStep json state .sweep)) := by
  cases taken
  have kept : ∀ key object,
      (state.server.sessionManager.cleanExpiredSessions state.now).lookup key = some object ↔
        state.server.sessionManager.lookup key = some object ∧ object.isExpired state.now = false := by
    intro key object
    rw [SessionManager.lookup_cleanExpiredSessions orderly.consistent, Option.filter_eq_some_iff,
      Bool.not_eq_true']
  have same : ∀ key userId,
      LiveAt (state.server.sessionManager.cleanExpiredSessions state.now) state.now key userId ↔
        LiveAt state.server.sessionManager state.now key userId := by
    intro key userId
    unfold LiveAt
    simp only [kept, and_assoc, and_self_left]
  refine ⟨⟨orderly.consistent.cleanExpiredSessions state.now, ?_, ?_⟩, fun good => ?_⟩
  · exact fun key object found => orderly.hour key object ((kept key object).mp found).1
  · exact fun key object found => orderly.whole key object ((kept key object).mp found).1
  · apply iff_of_true
    · intro userId
      simp only [same]
      exact good userId
    · trivial

/-- Every step keeps the storage orderly, and keeps the table right exactly under its condition. -/
theorem orderly_step (state : Moment) (step : ServerStep) (next : Moment)
    (taken : (requests json).step state step = some next) (orderly : Orderly state) :
    Orderly next ∧ (InStep state → (InStep next ↔ KeepsStep json state step)) := by
  change serverStep json state step = some next at taken
  cases step with
  | login env req => exact login_step taken orderly
  | logout draws req => exact logout_step taken orderly
  | pass elapsed => exact pass_step taken orderly
  | sweep => exact sweep_step taken orderly

theorem orderly_start (now : Int) : Orderly { now := now } := ⟨nofun, nofun, nofun⟩

theorem nobody_live (now : Int) (key : Bytes) (userId : Int32) :
    ¬ LiveAt ({} : SessionManager) now key userId := by
  intro live
  obtain ⟨object, found, _⟩ := live
  cases found

/-- The table and the sessions stay in step in exactly the runs whose steps all meet the condition. -/
theorem online_in_step_iff (json : JsonLibrary) (now : Int) (steps : List ServerStep) (final : Moment)
    (run : (requests json).run { now := now } steps = some final) :
    (requests json).Always InStep { now := now } steps ↔
      (requests json).Everywhere (KeepsStep json) { now := now } steps := by
  have good : InStep { now := now } := by
    intro userId
    apply Iff.intro
    · exact nofun
    · intro found
      obtain ⟨key, live⟩ := found
      exact absurd live (nobody_live now key userId)
  exact System.always_iff_everywhere
    (fun state step next taken orderly => (orderly_step state step next taken orderly).1)
    (fun state step next taken orderly good => (orderly_step state step next taken orderly).2 good)
    (orderly_start now) good run

/-- A login that nothing follows for more than an hour: the user has no live session any more, and is
    still online. -/
theorem expired_login_online {state next : Moment} {env : ChatLoginHandler.Surroundings} {req : HttpRequest}
    {userId : Int32} {username : Bytes} (orderly : Orderly state)
    (taken : serverStep json state (.login env req) = some next)
    (accepted : ChatLoginHandler.admitted json (ServerStep.surroundings env state.now) req =
      some (userId, username))
    (alone : ∀ key, ¬ LiveAt state.server.sessionManager state.now key userId) {elapsed : Nat}
    (hour : 3600 * 10 ^ 9 < elapsed) :
    next.server.onlineUsers.find userId = some true ∧
      ∀ key, ¬ LiveAt next.server.sessionManager (next.now + elapsed) key userId := by
  simp only [serverStep, Option.some.injEq] at taken
  subst taken
  obtain ⟨resp, run, _⟩ := ChatLoginHandler.handle_admitted (state.exchange req) accepted
  obtain ⟨object, obtained⟩ := state.server.sessionManager.getSession_obtained orderly.consistent
    (.all state.now) env.draws req (state.exchange req).resp
  obtain ⟨_, apart, _, expiry⟩ :=
    authenticate_entry obtained (obtained_hour orderly obtained) userId username
  rw [run]
  refine ⟨?_, ?_⟩
  · have table := welcomed_table state.server.onlineUsers userId userId
    rw [if_pos rfl] at table
    exact table
  · intro key given
    obtain ⟨held, found, fresh, mine⟩ := given
    have bound : ¬ state.now + (elapsed : Int) > held.expiryTime := of_decide_eq_false fresh
    by_cases same : key = state.server.sessionManager.sessionKey (.all state.now) env.draws req
    · subst same
      rw [expiry held found] at bound
      omega
    · refine alone key ⟨held, apart.found same found, decide_eq_false ?_, mine⟩
      intro late
      exact bound (Int.lt_of_lt_of_le late (Int.le_add_of_nonneg_right (Int.natCast_nonneg elapsed)))

/-! `ada` logs in, and out again or not. -/

def adaStep : ServerStep := .login (ChatLoginHandler.adaOnly fun _ => 0) ChatLoginHandler.adaLogin

def expiring : List ServerStep := [adaStep, .pass (3601 * 10 ^ 9)]

theorem expiry_out_of_step :
    ¬ ∀ (json : JsonLibrary) (now : Int) (steps : List ServerStep) (final : Moment),
      (requests json).run { now := now } steps = some final →
      (requests json).Always InStep { now := now } steps := by
  intro claimed
  have always := claimed ChatLoginHandler.adaJson 0 expiring _ rfl
  have inStep := always expiring [] _ (List.append_nil _).symm rfl
  have taken : serverStep ChatLoginHandler.adaJson { now := 0 } adaStep = some _ := rfl
  have longer : 3600 * 10 ^ 9 < 3601 * 10 ^ 9 := by decide
  have gone := expired_login_online (orderly_start 0) taken (ChatLoginHandler.ada_admitted _)
    (fun key => nobody_live 0 key 7) longer
  obtain ⟨key, live⟩ := (inStep 7).mp gone.1
  exact gone.2 key live

theorem login_in_step :
    ∃ final, (requests ChatLoginHandler.adaJson).run { now := 0 } [adaStep] = some final ∧
      ((requests ChatLoginHandler.adaJson).Always InStep { now := 0 } [adaStep] ↔
        (requests ChatLoginHandler.adaJson).Everywhere (KeepsStep ChatLoginHandler.adaJson) { now := 0 }
          [adaStep]) :=
  ⟨_, rfl, online_in_step_iff ChatLoginHandler.adaJson 0 [adaStep] _ rfl⟩

end Chat
