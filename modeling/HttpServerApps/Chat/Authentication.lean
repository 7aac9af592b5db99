import HttpServerApps.Chat.LiveSessions
import HttpServerApps.Chat.Login
import HttpServerApps.Chat.Logout
import HttpServerApps.Common.Runs
import Mathlib.Logic.Relation

namespace Chat

open Common Http Sessions

/-- What a handler does to the store through the session it was given, one call at a time. -/
inductive StoreCall where
  | setManager
  | refresh (now : Int)
  | save
  | setData (key value : Bytes)
  | updateSession
  | stoiUserId
  | clear
  | destroySession

/-- `none` where the call throws. -/
def StoreCall.apply (manager : SessionManager) (session : Handle) : StoreCall → Option SessionManager
  | .setManager => some (manager.onObject session Session.setManager)
  | .refresh now => some (manager.onObject session (·.refresh now))
  | .save => some (manager.save session)
  | .setData key value => some (manager.onObject session (·.setData key value))
  | .updateSession => some (if (manager.object session).any (·.managed) then manager.save session else manager)
  | .stoiUserId =>
    match stoi (manager.getValue session (bytes "userId")) with
    | .ok _ => some manager
    | .error _ => none
  | .clear => some (manager.clear session)
  | .destroySession =>
    some (manager.destroySession (((manager.object session).map Session.sessionId).getD []))

/-- A request to one of the handlers. All but login and logout only read the session they are given, and
    entry and registration take none. -/
inductive ServerRequest where
  | login (env : ChatLoginHandler.Surroundings) (req : HttpRequest)
  | logout (clock : Readings) (draws : Fin 32 → Fin 16) (req : HttpRequest)
  | reading (clock : Readings) (draws : Fin 32 → Fin 16) (req : HttpRequest)

namespace ServerRequest

def req : ServerRequest → HttpRequest
  | .login _ req => req
  | .logout _ _ req => req
  | .reading _ _ req => req

def clock : ServerRequest → Readings
  | .login env _ => env.clock
  | .logout clock _ _ => clock
  | .reading clock _ _ => clock

def draws : ServerRequest → Fin 32 → Fin 16
  | .login env _ => env.draws
  | .logout _ draws _ => draws
  | .reading _ draws _ => draws

def setValues (values : List (Bytes × Bytes)) : List StoreCall :=
  values.flatMap fun (key, value) => [.setData key value, .updateSession]

/-- The calls after `getSession`; `none` for a request that does not come to it. -/
def calls (json : JsonLibrary) : ServerRequest → Option (List StoreCall)
  | .login env req =>
    (ChatLoginHandler.admitted json env req).map fun (userId, username) =>
      setValues [(bytes "userId", intText userId.toInt), (bytes "username", username),
        (bytes "isLoggedIn", bytes "true")]
  | .logout _ _ req => if badContent req then none else some [.stoiUserId, .clear, .destroySession]
  | .reading _ _ _ => some []

end ServerRequest

/-- How far a request has come: before `getSession`, inside it, or after it. -/
inductive Stage where
  | arrived
  | loaded (found : Option Handle)
  | entering (session : Handle) (todo : List StoreCall)
  | given (session : Handle) (todo : List StoreCall)

/-- The next call of a request on the store. -/
def proceed (json : JsonLibrary) (request : ServerRequest) (manager : SessionManager) :
    Stage → Option (SessionManager × Stage)
  | .arrived =>
    if (request.calls json).isNone then none
    else
      let sessionId := getSessionIdFromCookie request.req
      let (manager, found) := if sessionId = [] then (manager, none) else manager.load sessionId request.clock.load
      some (manager, .loaded found)
  | .loaded found =>
    match found.filter fun session => !manager.expired request.clock.check session with
    | some session => some (manager, .entering session [.setManager, .refresh request.clock.refresh, .save])
    | none =>
      let session := manager.heap.length
      some ({ manager with
        heap := manager.heap ++ [Session.create (generateSessionId request.draws) request.clock.create] },
        .entering session [.refresh request.clock.refresh, .save])
  | .entering session [] => some (manager, .given session ((request.calls json).getD []))
  | .entering session (call :: todo) =>
    (call.apply manager session).map fun manager => (manager, .entering session todo)
  | .given _ [] => none
  | .given session (call :: todo) =>
    match call.apply manager session with
    | some manager => some (manager, .given session todo)
    | none => some (manager, .given session [])

/-- The session store, with the requests that have arrived. -/
structure Store where
  manager : SessionManager := {}
  requests : List (ServerRequest × Stage) := []

inductive StoreStep where
  | arrive (request : ServerRequest)
  | proceed (id : Nat)
  | sweep (now : Int)

def storeStep (json : JsonLibrary) (store : Store) : StoreStep → Option Store
  | .arrive request => some { store with requests := store.requests ++ [(request, .arrived)] }
  | .proceed id =>
    (store.requests[id]?).bind fun (request, stage) =>
      (proceed json request store.manager stage).map fun (manager, stage) =>
        ⟨manager, store.requests.set id (request, stage)⟩
  | .sweep now => some { store with manager := store.manager.cleanExpiredSessions now }

def storeSteps (json : JsonLibrary) : System Store StoreStep := ⟨storeStep json⟩

/-- `getSession` gave the request this session. -/
def Store.Gave (store : Store) (request : ServerRequest) (session : Handle) : Prop :=
  ∃ todo, (request, .given session todo) ∈ store.requests

/-- `queryUserId` returned the user: the password sent is accepted for the stored one. -/
def Verified (json : JsonLibrary) (env : ChatLoginHandler.Surroundings) (req : HttpRequest) (userId : Int32) : Prop :=
  ∃ username password storedPassword upgraded,
    ChatLoginHandler.credentials json req.content = .ok (username, password) ∧
      ChatLoginHandler.queryUserId env username password = .ok userId ∧
      env.selectUser username = .ok (some (storedPassword, userId)) ∧
      verifyPassword env.crypto password storedPassword = .ok (true, upgraded)

/-! A request that no other comes between does what its handler does. -/

section

variable {json : JsonLibrary}

def Alone (json : JsonLibrary) (request : ServerRequest) : SessionManager × Stage → SessionManager × Stage → Prop :=
  Relation.ReflTransGen fun before after => proceed json request before.1 before.2 = some after

theorem Alone.step {request : ServerRequest} {manager next : SessionManager} {stage later : Stage}
    {final : SessionManager × Stage} (step : proceed json request manager stage = some (next, later))
    (rest : Alone json request (next, later) final) : Alone json request (manager, stage) final :=
  Relation.ReflTransGen.head step rest

theorem alone_getSession {request : ServerRequest} {todo : List StoreCall}
    (made : request.calls json = some todo) (manager : SessionManager) (resp : HttpResponse) :
    Alone json request (manager, .arrived)
      ((manager.getSession request.clock request.draws request.req resp).1,
        .given (manager.getSession request.clock request.draws request.req resp).2.2 todo) := by
  have comes : ¬ (request.calls json).isNone := by rw [made]; nofun
  have arrived : proceed json request manager .arrived = some
      ((if getSessionIdFromCookie request.req = [] then (manager, none)
        else manager.load (getSessionIdFromCookie request.req) request.clock.load).1,
      .loaded (if getSessionIdFromCookie request.req = [] then (manager, none)
        else manager.load (getSessionIdFromCookie request.req) request.clock.load).2) := by
    simp only [proceed, comes]
    rfl
  unfold SessionManager.getSession SessionManager.findSession
  generalize (if getSessionIdFromCookie request.req = [] then (manager, none)
    else manager.load (getSessionIdFromCookie request.req) request.clock.load) = loaded at arrived ⊢
  rcases loaded with ⟨middle, found⟩
  dsimp only
  cases live : found.filter fun session => !middle.expired request.clock.check session with
  | some session =>
    apply Alone.step arrived
    apply Alone.step (by simp only [proceed, live]; rfl)
    iterate 3 apply Alone.step rfl
    apply Alone.step (by simp only [proceed, made]; rfl)
    exact Relation.ReflTransGen.refl
  | none =>
    apply Alone.step arrived
    apply Alone.step (by simp only [proceed, live]; rfl)
    iterate 2 apply Alone.step rfl
    apply Alone.step (by simp only [proceed, made]; rfl)
    exact Relation.ReflTransGen.refl

theorem login_alone {env : ChatLoginHandler.Surroundings} {req : HttpRequest} {userId : Int32} {username : Bytes}
    (accepted : ChatLoginHandler.admitted json env req = some (userId, username)) (exchange : Exchange) :
    ∃ session, Alone json (.login env req) (exchange.server.sessionManager, .arrived)
      (((ChatLoginHandler.handle json env req).run exchange).1.server.sessionManager, .given session []) := by
  rcases ChatLoginHandler.handle_admitted exchange accepted with ⟨resp, run, _⟩
  rw [run]
  have made : (ServerRequest.login env req).calls json = some (ServerRequest.setValues
      [(bytes "userId", intText userId.toInt), (bytes "username", username), (bytes "isLoggedIn", bytes "true")]) := by
    simp only [ServerRequest.calls, accepted]
    rfl
  have entered := alone_getSession made exchange.server.sessionManager exchange.resp
  refine ⟨(exchange.server.sessionManager.getSession env.clock env.draws req exchange.resp).2.2, entered.trans ?_⟩
  iterate 6 apply Alone.step rfl
  exact Relation.ReflTransGen.refl

theorem logout_alone {clock : Readings} {draws : Fin 32 → Fin 16} {req : HttpRequest} (content : badContent req = false)
    (exchange : Exchange) :
    ∃ session, Alone json (.logout clock draws req) (exchange.server.sessionManager, .arrived)
      (((ChatLogoutHandler.handle json clock draws req).run exchange).1.server.sessionManager, .given session []) := by
  rcases ChatLogoutHandler.handle_run json clock draws req exchange with ⟨resp, outcome, run⟩
  rw [run]
  have made : (ServerRequest.logout clock draws req).calls json =
      some [.stoiUserId, .clear, .destroySession] := by
    simp only [ServerRequest.calls, content]
    rfl
  have entered := alone_getSession made exchange.server.sessionManager exchange.resp
  refine ⟨(exchange.server.sessionManager.getSession clock draws req exchange.resp).2.2, entered.trans ?_⟩
  unfold ChatLogoutHandler.left
  simp only [content, Bool.false_eq_true, ↓reduceIte]
  dsimp only [ServerRequest.clock, ServerRequest.draws, ServerRequest.req]
  cases user : stoi ((exchange.server.sessionManager.getSession clock draws req exchange.resp).1.getValue
      (exchange.server.sessionManager.getSession clock draws req exchange.resp).2.2 (bytes "userId")) with
  | error what =>
    apply Alone.step (by simp only [proceed, StoreCall.apply, user]; rfl)
    exact Relation.ReflTransGen.refl
  | ok userId =>
    apply Alone.step (by simp only [proceed, StoreCall.apply, user]; rfl)
    iterate 2 apply Alone.step rfl
    exact Relation.ReflTransGen.refl

end

section

variable {json : JsonLibrary}

theorem verified_of_queryUserId {env : ChatLoginHandler.Surroundings} {req : HttpRequest} {userId : Int32}
    {username password : Bytes} (given : ChatLoginHandler.credentials json req.content = .ok (username, password))
    (found : ChatLoginHandler.queryUserId env username password = .ok userId) (known : userId ≠ -1) :
    Verified json env req userId := by
  have query := found
  unfold ChatLoginHandler.queryUserId at query
  cases row : env.selectUser username with
  | error what =>
    rw [row] at query
    cases query
  | ok answer =>
    cases answer with
    | none =>
      rw [row] at query
      cases query
      exact absurd rfl known
    | some user =>
      rcases user with ⟨storedPassword, id⟩
      cases verdict : verifyPassword env.crypto password storedPassword with
      | error what =>
        simp only [row, verdict, Bind.bind, Except.bind] at query
        cases query
      | ok result =>
        rcases result with ⟨accepted, upgraded⟩
        simp only [row, verdict, Bind.bind, Except.bind] at query
        cases accepted with
        | false =>
          cases query
          exact absurd rfl known
        | true =>
          have same : id = userId := by
            split at query
            · split at query
              · split at query
                · cases query
                · cases query
                  rfl
              · cases query
                rfl
            · rename_i refused
              exact absurd rfl refused
          subst same
          exact ⟨username, password, storedPassword, upgraded, given, found, row, verdict⟩

theorem verified_of_admitted {env : ChatLoginHandler.Surroundings} {req : HttpRequest} {userId : Int32}
    {username : Bytes} (accepted : ChatLoginHandler.admitted json env req = some (userId, username)) :
    Verified json env req userId := by
  rcases ChatLoginHandler.of_admitted accepted with ⟨_, password, given, query, known⟩
  exact verified_of_queryUserId given query known

/-! The only calls that write a user id are those of a login that was verified. -/

def Rightful (json : JsonLibrary) (request : ServerRequest) (text : Bytes) : Prop :=
  ∃ env req userId, request = .login env req ∧ text = intText userId.toInt ∧ Verified json env req userId

def Tame (json : JsonLibrary) (request : ServerRequest) : Stage → Prop
  | .arrived | .loaded _ => True
  | .entering _ todo => ∀ key value, StoreCall.setData key value ∉ todo
  | .given _ todo => ∀ text, StoreCall.setData (bytes "userId") text ∈ todo → Rightful json request text

theorem calls_rightful {request : ServerRequest} {todo : List StoreCall} (made : request.calls json = some todo)
    {text : Bytes} (writes : StoreCall.setData (bytes "userId") text ∈ todo) : Rightful json request text := by
  cases request with
  | login env req =>
    rcases Option.map_eq_some_iff.mp made with ⟨⟨userId, username⟩, accepted, rfl⟩
    have notUsername : bytes "userId" ≠ bytes "username" := by decide
    have notFlag : bytes "userId" ≠ bytes "isLoggedIn" := by decide
    simp only [ServerRequest.setValues, List.flatMap_cons, List.flatMap_nil, List.cons_append, List.nil_append,
      List.mem_cons, StoreCall.setData.injEq, notUsername, notFlag, false_and, reduceCtorEq, or_false,
      true_and, List.not_mem_nil] at writes
    exact ⟨env, req, userId, rfl, writes, verified_of_admitted accepted⟩
  | logout clock draws req =>
    simp only [ServerRequest.calls] at made
    split at made
    · cases made
    · cases made
      simp at writes
  | reading clock draws req =>
    cases made
    cases writes

theorem proceed_tame {request : ServerRequest} {manager next : SessionManager} {stage later : Stage}
    (step : proceed json request manager stage = some (next, later)) (tame : Tame json request stage) :
    Tame json request later := by
  cases stage with
  | arrived =>
    simp only [proceed] at step
    split at step
    · cases step
    · cases step
      trivial
  | loaded found =>
    simp only [proceed] at step
    split at step
    · cases step
      simp [Tame]
    · cases step
      simp [Tame]
  | entering session todo =>
    cases todo with
    | nil =>
      cases step
      intro text writes
      cases made : request.calls json with
      | none =>
        rw [made] at writes
        cases writes
      | some todo =>
        rw [made] at writes
        exact calls_rightful made writes
    | cons call todo =>
      rcases Option.map_eq_some_iff.mp step with ⟨_, _, done⟩
      cases done
      exact fun key value later => tame key value (List.mem_cons_of_mem _ later)
  | given session todo =>
    cases todo with
    | nil => cases step
    | cons call todo =>
      simp only [proceed] at step
      split at step
      · cases step
        exact fun text later => tame text (List.mem_cons_of_mem _ later)
      · cases step
        exact fun text later => nomatch later

/-! What a call does to the store. -/

inductive StoreCall.Applied (manager : SessionManager) (session : Handle) : StoreCall → SessionManager → Prop where
  | kept {call : StoreCall} : Applied manager session call manager
  | touched {call : StoreCall} {change : Session → Session} (keeps : ∀ object, (change object).data = object.data) :
      Applied manager session call (manager.onObject session change)
  | saved {call : StoreCall} : Applied manager session call (manager.save session)
  | wrote {key value : Bytes} :
      Applied manager session (.setData key value) (manager.onObject session (·.setData key value))
  | cleared : Applied manager session .clear (manager.clear session)
  | erased {call : StoreCall} (sessionId : Bytes) :
      Applied manager session call (manager.destroySession sessionId)

theorem StoreCall.applied {manager next : SessionManager} {session : Handle} {call : StoreCall}
    (step : call.apply manager session = some next) : call.Applied manager session next := by
  cases call with
  | setManager =>
    cases step
    exact .touched fun _ => rfl
  | refresh now =>
    cases step
    exact .touched fun _ => rfl
  | save =>
    cases step
    exact .saved
  | setData key value =>
    cases step
    exact .wrote
  | updateSession =>
    simp only [StoreCall.apply] at step
    split at step
    · cases step
      exact .saved
    · cases step
      exact .kept
  | stoiUserId =>
    simp only [StoreCall.apply] at step
    split at step
    · cases step
      exact .kept
    · cases step
  | clear =>
    cases step
    exact .cleared
  | destroySession =>
    cases step
    exact .erased _

/-- All calls but `setData` leave the data of a session or empty it. -/
theorem apply_data {manager next : SessionManager} {session : Handle} {call : StoreCall}
    (step : call.apply manager session = some next) (silent : ∀ key value, call ≠ .setData key value)
    (other : Handle) : next.data other = manager.data other ∨ next.data other = .empty := by
  cases StoreCall.applied step with
  | kept => exact Or.inl rfl
  | @touched _ change keeps => exact Or.inl (SessionManager.data_onObject _ _ _ change keeps)
  | saved => exact Or.inl (SessionManager.data_save ..)
  | wrote => exact absurd rfl (silent _ _)
  | cleared =>
    unfold SessionManager.clear SessionManager.data
    rw [SessionManager.object_onObject]
    split
    · right
      cases manager.object other <;> rfl
    · exact Or.inl rfl
  | erased => exact Or.inl rfl

/-- A step writes as a `setValue` asks, or leaves the data of each session or empties it. -/
theorem proceed_data {request : ServerRequest} {manager next : SessionManager} {stage later : Stage}
    (step : proceed json request manager stage = some (next, later)) (tame : Tame json request stage) :
    (∃ session key value todo, stage = .given session (.setData key value :: todo) ∧ later = .given session todo ∧
      next = manager.onObject session (·.setData key value)) ∨
    (∀ session key value todo, stage ≠ .given session (.setData key value :: todo)) ∧
      ∀ other, next.data other = manager.data other ∨ next.data other = .empty := by
  cases stage with
  | arrived =>
    right
    apply And.intro nofun
    intro other
    simp only [proceed] at step
    split at step
    · cases step
    · cases step
      left
      split
      · rfl
      · exact SessionManager.data_of_heap (SessionManager.heap_load ..) other
  | loaded found =>
    right
    apply And.intro nofun
    intro other
    simp only [proceed] at step
    split at step
    · cases step
      exact Or.inl rfl
    · cases step
      exact Or.inl (SessionManager.data_append ..)
  | entering session todo =>
    right
    apply And.intro nofun
    intro other
    cases todo with
    | nil =>
      cases step
      exact Or.inl rfl
    | cons call todo =>
      rcases Option.map_eq_some_iff.mp step with ⟨_, applied, done⟩
      cases done
      apply apply_data applied
      exact fun key value same => tame key value (same ▸ List.mem_cons_self)
  | given session todo =>
    cases todo with
    | nil => cases step
    | cons call todo =>
      simp only [proceed] at step
      by_cases writes : ∃ key value, call = .setData key value
      · rcases writes with ⟨key, value, rfl⟩
        cases step
        exact Or.inl ⟨session, key, value, todo, rfl, rfl, rfl⟩
      · right
        have silent : ∀ key value, call ≠ .setData key value := fun key value same => writes ⟨key, value, same⟩
        apply And.intro
        · intro other key value rest same
          cases same
          exact silent key value rfl
        · intro other
          split at step
          · rename_i applied
            cases step
            exact apply_data applied silent other
          · cases step
            exact Or.inl rfl

/-! Where the user id of a session comes from. -/

def userIdOf (manager : SessionManager) (session : Handle) : Option Bytes :=
  (manager.data session).find (bytes "userId")

theorem userIdOf_object {manager : SessionManager} {session : Handle} {object : Session}
    (found : manager.object session = some object) : userIdOf manager session = object.data.find (bytes "userId") := by
  unfold userIdOf SessionManager.data
  rw [found]
  rfl

/-- What a write leaves under a key was there, or is the value written. -/
theorem find_setData {manager : SessionManager} {session other : Handle} {key value asked text : Bytes}
    (found : ((manager.onObject session (·.setData key value)).data other).find asked = some text) :
    (manager.data other).find asked = some text ∨ other = session ∧ asked = key ∧ text = value := by
  unfold SessionManager.data at found ⊢
  rw [SessionManager.object_onObject] at found
  by_cases same : session = other
  · rw [if_pos same] at found
    cases there : manager.object other with
    | none =>
      rw [there] at found
      cases found
    | some object =>
      rw [there] at found
      change (object.data.insert key value).find asked = some text at found
      by_cases sameKey : asked = key
      · subst sameKey
        rw [Dict.find_insert_self] at found
        exact Or.inr ⟨same.symm, rfl, (Option.some.inj found).symm⟩
      · rw [Dict.find_insert_of_ne _ _ _ _ sameKey] at found
        exact Or.inl found
  · rw [if_neg same] at found
    exact Or.inl found

/-- After a step a session has the user id it had, if any, or one that its login has the right to write. -/
theorem proceed_userId {request : ServerRequest} {manager next : SessionManager} {stage later : Stage}
    (step : proceed json request manager stage = some (next, later)) (tame : Tame json request stage)
    {other : Handle} {text : Bytes} (found : userIdOf next other = some text) :
    userIdOf manager other = some text ∨
      (∃ todo, later = .given other todo) ∧ Rightful json request text := by
  unfold userIdOf at found ⊢
  rcases proceed_data step tame with ⟨session, key, value, todo, rfl, rfl, rfl⟩ | ⟨_, data⟩
  · rcases find_setData found with before | ⟨rfl, rfl, rfl⟩
    · exact Or.inl before
    · exact Or.inr ⟨⟨todo, rfl⟩, tame text List.mem_cons_self⟩
  · left
    rcases data other with same | empty
    · rwa [same] at found
    · rw [empty] at found
      cases found

theorem proceed_given {request : ServerRequest} {manager next : SessionManager} {session : Handle}
    {todo : List StoreCall} {later : Stage}
    (step : proceed json request manager (.given session todo) = some (next, later)) :
    ∃ rest, later = .given session rest := by
  cases todo with
  | nil => cases step
  | cons call todo =>
    simp only [proceed] at step
    split at step <;> cases step <;> exact ⟨_, rfl⟩

/-- A request that was given a session keeps it. -/
theorem gave_step {store next : Store} {action : StoreStep} (step : (storeSteps json).step store action = some next)
    {request : ServerRequest} {session : Handle} (gave : store.Gave request session) : next.Gave request session := by
  change storeStep json store action = some next at step
  rcases gave with ⟨todo, member⟩
  cases action with
  | arrive other =>
    cases step
    exact ⟨todo, List.mem_append_left _ member⟩
  | sweep now =>
    cases step
    exact ⟨todo, member⟩
  | proceed id =>
    rcases Option.bind_eq_some_iff.mp step with ⟨⟨mover, stage⟩, there, moved⟩
    rcases Option.map_eq_some_iff.mp moved with ⟨⟨manager, later⟩, proceeded, rfl⟩
    rcases List.getElem?_eq_some_iff.mp there with ⟨bound, entry⟩
    rcases List.getElem_of_mem member with ⟨index, otherBound, otherEntry⟩
    by_cases same : index = id
    · subst same
      rw [entry] at otherEntry
      cases otherEntry
      rcases proceed_given proceeded with ⟨rest, rfl⟩
      exact ⟨rest, List.mem_set bound _⟩
    · refine ⟨todo, List.mem_iff_getElem?.mpr ⟨index, ?_⟩⟩
      rw [List.getElem?_set_ne (Ne.symm same), List.getElem?_eq_getElem otherBound, otherEntry]

/-- Every user id in a session was put there for a verified login that was given the session. -/
structure Authentic (json : JsonLibrary) (store : Store) : Prop where
  tame : ∀ request stage, (request, stage) ∈ store.requests → Tame json request stage
  owned : ∀ session text, userIdOf store.manager session = some text →
    ∃ request, store.Gave request session ∧ Rightful json request text

theorem authentic_step (store : Store) (action : StoreStep) (next : Store)
    (step : (storeSteps json).step store action = some next) (holds : Authentic json store) :
    Authentic json next := by
  have kept : ∀ {session text}, (∃ request, store.Gave request session ∧ Rightful json request text) →
      ∃ request, next.Gave request session ∧ Rightful json request text := by
    rintro session text ⟨request, gave, rightful⟩
    exact ⟨request, gave_step step gave, rightful⟩
  change storeStep json store action = some next at step
  cases action with
  | arrive request =>
    cases step
    apply Authentic.mk
    · intro other stage member
      rcases List.mem_append.mp member with old | new
      · exact holds.tame other stage old
      · cases List.mem_singleton.mp new
        trivial
    · exact fun session text found => kept (holds.owned session text found)
  | sweep now =>
    cases step
    exact ⟨holds.tame, holds.owned⟩
  | proceed id =>
    rcases Option.bind_eq_some_iff.mp step with ⟨⟨request, stage⟩, there, moved⟩
    rcases Option.map_eq_some_iff.mp moved with ⟨⟨manager, later⟩, proceeded, rfl⟩
    rcases List.getElem?_eq_some_iff.mp there with ⟨bound, entry⟩
    have mine : (request, stage) ∈ store.requests := entry ▸ List.getElem_mem bound
    have now : (request, later) ∈ store.requests.set id (request, later) := List.mem_set bound _
    apply Authentic.mk
    · intro other otherStage member
      rcases List.mem_or_eq_of_mem_set member with old | new
      · exact holds.tame other otherStage old
      · cases new
        exact proceed_tame proceeded (holds.tame _ _ mine)
    · intro session text found
      rcases proceed_userId proceeded (holds.tame _ _ mine) found with before | ⟨⟨todo, here⟩, rightful⟩
      · exact kept (holds.owned session text before)
      · exact ⟨request, ⟨todo, here ▸ now⟩, rightful⟩

theorem authentic_run {actions : List StoreStep} {store : Store}
    (run : (storeSteps json).run {} actions = some store) : Authentic json store := by
  apply System.run_preserves authentic_step _ run
  apply Authentic.mk
  · intro request stage member
    cases member
  · intro session text found
    have noObject : ({} : SessionManager).object session = none := List.getElem?_nil
    unfold userIdOf SessionManager.data at found
    rw [noObject] at found
    cases found

end

/-- A stored session that is logged in was given to a login request that was verified for its user. -/
theorem logged_in_was_verified (json : JsonLibrary) {actions : List StoreStep} {store : Store}
    (run : (storeSteps json).run {} actions = some store) {key : Bytes} {object : Session}
    (stored : store.manager.lookup key = some object) {text : Bytes}
    (loggedIn : object.data.find (bytes "isLoggedIn") = some (bytes "true") ∧
      object.data.find (bytes "userId") = some text) :
    ∃ session env req userId, store.manager.sessions.find key = some session ∧
      store.Gave (.login env req) session ∧ text = intText userId.toInt ∧ Verified json env req userId := by
  rcases Option.bind_eq_some_iff.mp stored with ⟨session, there, found⟩
  have user : userIdOf store.manager session = some text := (userIdOf_object found).trans loggedIn.2
  rcases (authentic_run run).owned session text user with ⟨request, gave, env, req, userId, rfl, written, verified⟩
  exact ⟨session, env, req, userId, there, gave, written, verified⟩

/-- Ada's login, with a request of somebody else between its calls. -/
def adaSteps : List StoreStep :=
  [.arrive (.login (ChatLoginHandler.adaOnly fun _ => 0) ChatLoginHandler.adaLogin),
    .arrive (.reading (.all 0) (fun _ => 1) {})] ++
    List.replicate 8 (.proceed 0) ++ [.proceed 1] ++ List.replicate 3 (.proceed 0)

theorem ada_was_verified :
    ∃ store session env req, (storeSteps ChatLoginHandler.adaJson).run {} adaSteps = some store ∧
      store.Gave (.login env req) session ∧ Verified ChatLoginHandler.adaJson env req 7 := by
  have fields : (((storeSteps ChatLoginHandler.adaJson).run {} adaSteps).bind
      fun store => store.manager.lookup (generateSessionId fun _ => 0)).map
        (fun object => (object.data.find (bytes "isLoggedIn"), object.data.find (bytes "userId"))) =
      some (some (bytes "true"), some (intText (7 : Int32).toInt)) := by decide
  rcases Option.map_eq_some_iff.mp fields with ⟨object, found, values⟩
  rcases Option.bind_eq_some_iff.mp found with ⟨store, run, stored⟩
  rcases Prod.mk.inj values with ⟨flag, user⟩
  obtain ⟨session, env, req, userId, _, gave, text, verified⟩ :=
    logged_in_was_verified ChatLoginHandler.adaJson run stored ⟨flag, user⟩
  obtain rfl := Int32.toInt_inj.mp (intText_injective text)
  exact ⟨store, session, env, req, run, gave, verified⟩

end Chat
