import HttpServerApps.Session.Manager

namespace Http.Sessions

open Common

namespace SessionManager

/-! The objects, and the data they hold. -/

def data (manager : SessionManager) (session : Handle) : Dict Bytes Bytes :=
  ((manager.object session).map Session.data).getD .empty

theorem object_onObject (manager : SessionManager) (session other : Handle)
    (change : Session → Session) :
    (manager.onObject session change).object other =
      if session = other then (manager.object other).map change else manager.object other := by
  unfold object onObject
  dsimp only
  rw [List.getElem?_modify]
  split
  · rfl
  · simp

@[simp] theorem sessions_onObject (manager : SessionManager) (session : Handle)
    (change : Session → Session) : (manager.onObject session change).sessions = manager.sessions := rfl

@[simp] theorem object_save (manager : SessionManager) (session other : Handle) :
    (manager.save session).object other = manager.object other := by
  unfold save
  split <;> rfl

theorem sessions_save {manager : SessionManager} {session : Handle} {object : Session}
    (found : manager.object session = some object) :
    (manager.save session).sessions = manager.sessions.insert object.sessionId session := by
  unfold save
  rw [found]

theorem object_setValue (manager : SessionManager) (session other : Handle) (key value : Bytes) :
    (manager.setValue session key value).object other =
      (manager.onObject session (·.setData key value)).object other := by
  unfold setValue
  dsimp only
  split
  · exact object_save _ _ _
  · rfl

theorem data_setData {manager : SessionManager} {session : Handle}
    (made : session < manager.heap.length) (other : Handle) (key value : Bytes) :
    (manager.onObject session (·.setData key value)).data other =
      if session = other then (manager.data other).insert key value else manager.data other := by
  unfold data
  rw [object_onObject]
  by_cases same : session = other
  · subst same
    have found : manager.object session = some manager.heap[session] := List.getElem?_eq_getElem made
    simp [found, Session.setData]
  · simp [same]

theorem data_setValue {manager : SessionManager} {session : Handle}
    (made : session < manager.heap.length) (other : Handle) (key value : Bytes) :
    (manager.setValue session key value).data other =
      if session = other then (manager.data other).insert key value else manager.data other := by
  rw [← data_setData made]
  unfold data
  rw [object_setValue]

theorem heap_setValue (manager : SessionManager) (session : Handle) (key value : Bytes) :
    (manager.setValue session key value).heap.length = manager.heap.length := by
  unfold setValue
  dsimp only
  split
  · unfold save
    split <;> simp [onObject]
  · simp [onObject]

/-! What the storage holds under a key. -/

def lookup (manager : SessionManager) (key : Bytes) : Option Session :=
  (manager.sessions.find key).bind manager.object

/-- Every session of the storage exists and is kept under its own id. -/
def Consistent (manager : SessionManager) : Prop :=
  ∀ key session, manager.sessions.find key = some session →
    ∃ object, manager.object session = some object ∧ object.sessionId = key

structure Held (manager : SessionManager) (key : Bytes) (session : Handle) (object : Session) : Prop where
  consistent : manager.Consistent
  stored : manager.sessions.find key = some session
  found : manager.object session = some object
  own : object.sessionId = key

theorem Held.lookup {manager : SessionManager} {key : Bytes} {session : Handle} {object : Session}
    (held : manager.Held key session object) : manager.lookup key = some object := by
  unfold SessionManager.lookup
  rw [held.stored]
  exact held.found

theorem held_of_lookup {manager : SessionManager} (consistent : manager.Consistent) {key : Bytes}
    {object : Session} (found : manager.lookup key = some object) :
    ∃ session, manager.Held key session object := by
  obtain ⟨session, stored, there⟩ := Option.bind_eq_some_iff.mp found
  obtain ⟨same, again, own⟩ := consistent key session stored
  have equal := Option.some.inj (there.symm.trans again)
  subst equal
  exact ⟨session, consistent, stored, there, own⟩

theorem Held.onObject {manager : SessionManager} {key : Bytes} {session : Handle} {object : Session}
    (held : manager.Held key session object) (change : Session → Session)
    (sameId : (change object).sessionId = object.sessionId) :
    (manager.onObject session change).Held key session (change object) ∧
      ∀ other, other ≠ key → (manager.onObject session change).lookup other = manager.lookup other := by
  have changed : (manager.onObject session change).object session = some (change object) := by
    rw [object_onObject, if_pos rfl, held.found]
    rfl
  have distinct : ∀ other handle, other ≠ key → manager.sessions.find other = some handle →
      session ≠ handle := by
    intro other handle different stored same
    subst same
    obtain ⟨kept, there, own⟩ := held.consistent other session stored
    rw [held.found] at there
    cases there
    exact different (own.symm.trans held.own)
  refine ⟨⟨?_, held.stored, changed, sameId.trans held.own⟩, ?_⟩
  · intro other handle stored
    by_cases same : other = key
    · subst same
      have equal := Option.some.inj (stored.symm.trans held.stored)
      subst equal
      exact ⟨_, changed, sameId.trans held.own⟩
    · obtain ⟨kept, there, own⟩ := held.consistent other handle stored
      refine ⟨kept, ?_, own⟩
      rw [object_onObject, if_neg (distinct other handle same stored)]
      exact there
  · intro other different
    unfold SessionManager.lookup
    rw [sessions_onObject]
    cases stored : manager.sessions.find other with
    | none => rfl
    | some handle =>
      simp only [Option.bind_some]
      rw [object_onObject, if_neg (distinct other handle different stored)]

theorem Held.getValue {manager : SessionManager} {key : Bytes} {session : Handle} {object : Session}
    (held : manager.Held key session object) (field : Bytes) :
    manager.getValue session field = object.getValue field := by
  unfold SessionManager.getValue
  rw [held.found]
  rfl

/-- `destroySession` is given the id of the cleared session. -/
theorem Held.clearedId {manager : SessionManager} {key : Bytes} {session : Handle} {object : Session}
    (held : manager.Held key session object) :
    (((manager.clear session).object session).map Session.sessionId).getD [] = key := by
  have there : (manager.clear session).object session = some object.clear :=
    (held.onObject Session.clear rfl).1.found
  rw [there]
  exact held.own

theorem Held.save {manager : SessionManager} {key : Bytes} {session : Handle} {object : Session}
    (held : manager.Held key session object) : manager.save session = manager := by
  unfold SessionManager.save
  rw [held.found]
  have same : manager.sessions.insert object.sessionId session = manager.sessions := by
    rw [held.own]
    exact Dict.insert_found held.stored
  dsimp only
  rw [same]

theorem Held.setValue {manager : SessionManager} {key : Bytes} {session : Handle} {object : Session}
    (held : manager.Held key session object) (field value : Bytes) :
    (manager.setValue session field value).Held key session (object.setData field value) ∧
      ∀ other, other ≠ key → (manager.setValue session field value).lookup other = manager.lookup other := by
  have changed := held.onObject (·.setData field value) rfl
  have saved : manager.setValue session field value = manager.onObject session (·.setData field value) := by
    unfold SessionManager.setValue
    dsimp only
    split
    · exact changed.1.save
    · rfl
  rw [saved]
  exact changed

theorem Consistent.erase {manager : SessionManager} (consistent : manager.Consistent) (key : Bytes) :
    (manager.destroySession key).Consistent := by
  intro other session stored
  unfold destroySession at stored
  rw [Dict.find_erase] at stored
  split at stored
  · cases stored
  · exact consistent other session stored

theorem lookup_destroySession (manager : SessionManager) (key other : Bytes) :
    (manager.destroySession key).lookup other = if other = key then none else manager.lookup other := by
  unfold lookup destroySession
  rw [Dict.find_erase]
  split <;> rfl

/-! What `getSession` gives. -/

/-- The key of the session that `getSession` gives: the cookie's, or a fresh one. -/
def sessionKey (manager : SessionManager) (clock : Readings) (draws : Fin 32 → Fin 16)
    (req : HttpRequest) : Bytes :=
  match (manager.findSession clock (getSessionIdFromCookie req)).2 with
  | some _ => getSessionIdFromCookie req
  | none => generateSessionId draws

theorem findSession_live {manager : SessionManager} {clock : Readings} {sessionId : Bytes} {session : Handle}
    (given : sessionId ≠ []) (stored : manager.sessions.find sessionId = some session)
    (atLoad : manager.expired clock.load session = false) (atCheck : manager.expired clock.check session = false) :
    manager.findSession clock sessionId = (manager, some session) := by
  unfold findSession load
  simp only [given, ↓reduceIte, stored, atLoad, atCheck, Bool.false_eq_true, Option.filter_some, Bool.not_false]

theorem findSession_cases (manager : SessionManager) (clock : Readings) (sessionId : Bytes) :
    (∃ session, manager.findSession clock sessionId = (manager, some session) ∧ sessionId ≠ [] ∧
        manager.sessions.find sessionId = some session ∧
        manager.expired clock.load session = false ∧ manager.expired clock.check session = false) ∨
      (manager.findSession clock sessionId = (manager, none) ∧ (sessionId = [] ∨
        ∀ session, manager.sessions.find sessionId = some session →
          manager.expired clock.check session = true)) ∨
      ∃ session, manager.findSession clock sessionId = (manager.destroySession sessionId, none) ∧
        manager.sessions.find sessionId = some session ∧ manager.expired clock.load session = true := by
  unfold findSession
  by_cases empty : sessionId = []
  · right
    left
    simp [empty]
  · simp only [empty, ↓reduceIte]
    unfold load
    cases stored : manager.sessions.find sessionId with
    | none =>
      right
      left
      exact ⟨rfl, Or.inr nofun⟩
    | some session =>
      cases stale : manager.expired clock.load session with
      | true =>
        right
        right
        exact ⟨session, by simp [stale, destroySession], rfl, stale⟩
      | false =>
        cases late : manager.expired clock.check session with
        | true =>
          right
          left
          simp [stale, late]
        | false =>
          left
          exact ⟨session, by simp [stale, late], empty, rfl, stale, late⟩

theorem expired_false {manager : SessionManager} {now : Int} {session : Handle}
    (live : manager.expired now session = false) :
    ∃ object, manager.object session = some object ∧ object.isExpired now = false := by
  unfold expired at live
  cases found : manager.object session with
  | none =>
    rw [found] at live
    cases live
  | some object =>
    rw [found] at live
    exact ⟨object, rfl, live⟩

theorem heap_load (manager : SessionManager) (sessionId : Bytes) (now : Int) :
    (manager.load sessionId now).1.heap = manager.heap := by
  unfold load
  split
  · split <;> rfl
  · rfl

theorem data_of_heap {first second : SessionManager} (same : first.heap = second.heap) (other : Handle) :
    first.data other = second.data other := by
  unfold data object
  rw [same]

theorem heap_findSession (manager : SessionManager) (clock : Readings) (sessionId : Bytes) :
    (manager.findSession clock sessionId).1.heap = manager.heap := by
  rcases findSession_cases manager clock sessionId with ⟨_, run, _⟩ | ⟨run, _⟩ | ⟨_, run, _⟩ <;> rw [run]
  rfl

theorem data_onObject (manager : SessionManager) (session other : Handle) (change : Session → Session)
    (keeps : ∀ object, (change object).data = object.data) :
    (manager.onObject session change).data other = manager.data other := by
  unfold data
  rw [object_onObject]
  split
  · cases manager.object other with
    | none => rfl
    | some object => exact keeps object
  · rfl

theorem data_save (manager : SessionManager) (session other : Handle) :
    (manager.save session).data other = manager.data other := by
  unfold data
  rw [object_save]

theorem data_append (manager : SessionManager) (sessionId : Bytes) (now : Int) (other : Handle) :
    ({ manager with heap := manager.heap ++ [Session.create sessionId now] } : SessionManager).data other =
      manager.data other := by
  unfold data object
  dsimp only
  rcases Nat.lt_trichotomy other manager.heap.length with old | new | beyond
  · rw [List.getElem?_append_left old]
  · subst new
    simp [Session.create, Session.refresh]
  · rw [List.getElem?_eq_none (by simp; omega), List.getElem?_eq_none (by omega)]

/-- `getSession` leaves the data of every session alone; a session it creates has none. -/
theorem data_getSession (manager : SessionManager) (clock : Readings) (draws : Fin 32 → Fin 16)
    (req : HttpRequest) (resp : HttpResponse) (other : Handle) :
    (manager.getSession clock draws req resp).1.data other = manager.data other := by
  have sameHeap := heap_findSession manager clock (getSessionIdFromCookie req)
  unfold getSession
  cases run : manager.findSession clock (getSessionIdFromCookie req) with
  | mk found session =>
    rw [run] at sameHeap
    have same := data_of_heap sameHeap other
    cases session with
    | some session =>
      dsimp only
      rw [data_save, data_onObject _ _ _ (·.refresh clock.refresh) fun _ => rfl,
        data_onObject _ _ _ Session.setManager fun _ => rfl, same]
    | none =>
      dsimp only
      rw [data_save, data_onObject _ _ _ (·.refresh clock.refresh) fun _ => rfl, data_append, same]

theorem heap_save (manager : SessionManager) (session : Handle) :
    (manager.save session).heap = manager.heap := by
  unfold save
  split <;> rfl

theorem getSession_made (manager : SessionManager) (clock : Readings) (draws : Fin 32 → Fin 16)
    (req : HttpRequest) (resp : HttpResponse) :
    (manager.getSession clock draws req resp).2.2 <
      (manager.getSession clock draws req resp).1.heap.length := by
  unfold getSession
  rcases findSession_cases manager clock (getSessionIdFromCookie req) with
    ⟨session, run, _, _, live, _⟩ | ⟨run, _⟩ | ⟨_, run, _⟩
  · obtain ⟨object, found, _⟩ := expired_false live
    have made := (List.getElem?_eq_some_iff.mp found).1
    simp only [run, heap_save, onObject, List.length_modify]
    exact made
  · simp [run, heap_save, onObject]
  · simp [run, heap_save, onObject]

/-- The cookie names a session that has expired, or none. -/
def NoLive (manager : SessionManager) (clock : Readings) (sessionId : Bytes) : Prop :=
  sessionId = [] ∨ ∀ old, manager.lookup sessionId = some old →
    old.isExpired clock.load = true ∨ old.isExpired clock.check = true

/-- What `getSession` gives is held under `key`: the session of the cookie with its data, or, where
    the cookie has no live session, one without data. -/
structure Obtained (before after : SessionManager) (clock : Readings) (cookie key : Bytes)
    (session : Handle) (object : Session) : Prop where
  held : after.Held key session object
  expiry : object.expiryTime = clock.refresh + object.maxAge * 10 ^ 9
  origin : (key = cookie ∧ cookie ≠ [] ∧ ∃ old, before.lookup cookie = some old ∧
      old.isExpired clock.load = false ∧ object.data = old.data ∧ object.maxAge = old.maxAge) ∨
    before.NoLive clock cookie ∧ object.data = .empty ∧ object.maxAge = 3600
  others : ∀ other, other ≠ key → after.lookup other = before.lookup other ∨
    after.lookup other = none ∧ ∃ old, before.lookup other = some old ∧ old.isExpired clock.load = true

theorem created_held {manager : SessionManager} (consistent : manager.Consistent) (sessionId : Bytes)
    (clock : Readings) :
    let session := manager.heap.length
    let made : SessionManager :=
      { manager with heap := manager.heap ++ [Session.create sessionId clock.create] }
    let after := (made.onObject session (·.refresh clock.refresh)).save session
    after.Held sessionId session ((Session.create sessionId clock.create).refresh clock.refresh) ∧
      ∀ other, other ≠ sessionId → after.lookup other = manager.lookup other := by
  intro session made after
  have old : ∀ other handle, manager.sessions.find other = some handle → handle < session := by
    intro other handle stored
    obtain ⟨object, found, _⟩ := consistent other handle stored
    exact (List.getElem?_eq_some_iff.mp found).1
  have kept : ∀ other handle, manager.sessions.find other = some handle →
      after.object handle = manager.object handle := by
    intro other handle stored
    have before := old other handle stored
    rw [object_save, object_onObject, if_neg (Nat.ne_of_gt before)]
    exact List.getElem?_append_left before
  have found : made.object session = some (Session.create sessionId clock.create) :=
    List.getElem?_concat_length
  have refreshed : (made.onObject session (·.refresh clock.refresh)).object session =
      some ((Session.create sessionId clock.create).refresh clock.refresh) := by
    rw [object_onObject, if_pos rfl, found]
    rfl
  have entries : after.sessions = manager.sessions.insert sessionId session := sessions_save refreshed
  have there : after.object session =
      some ((Session.create sessionId clock.create).refresh clock.refresh) := by
    rw [object_save]
    exact refreshed
  refine ⟨⟨?_, by rw [entries, Dict.find_insert_self], there, rfl⟩, ?_⟩
  · intro other handle stored
    rw [entries, Dict.find_insert] at stored
    split at stored
    · rename_i same
      cases stored
      exact ⟨_, there, same.symm⟩
    · rw [kept other handle stored]
      exact consistent other handle stored
  · intro other different
    unfold lookup
    rw [entries, Dict.find_insert_of_ne _ _ _ _ different]
    cases stored : manager.sessions.find other with
    | none => rfl
    | some handle => exact kept other handle stored

theorem Consistent.expired {manager : SessionManager} (consistent : manager.Consistent) {key : Bytes}
    {session : Handle} (stored : manager.sessions.find key = some session) :
    ∃ object, manager.Held key session object ∧ ∀ now, manager.expired now session = object.isExpired now := by
  obtain ⟨object, found, own⟩ := consistent key session stored
  refine ⟨object, ⟨consistent, stored, found, own⟩, fun now => ?_⟩
  unfold SessionManager.expired
  rw [found]
  rfl

theorem lookup_cleanExpiredSessions {manager : SessionManager} (consistent : manager.Consistent)
    (now : Int) (key : Bytes) :
    (manager.cleanExpiredSessions now).lookup key =
      (manager.lookup key).filter fun object => !object.isExpired now := by
  unfold lookup cleanExpiredSessions
  rw [Dict.find_filter]
  cases stored : manager.sessions.find key with
  | none => rfl
  | some session =>
    obtain ⟨object, held, same⟩ := consistent.expired stored
    rw [Option.filter_some, same, Option.bind_some]
    rw [held.found, Option.filter_some]
    cases object.isExpired now with
    | true => rfl
    | false => exact held.found

theorem Consistent.cleanExpiredSessions {manager : SessionManager} (consistent : manager.Consistent)
    (now : Int) : (manager.cleanExpiredSessions now).Consistent := by
  intro key session stored
  unfold SessionManager.cleanExpiredSessions at stored
  rw [Dict.find_filter, Option.filter_eq_some_iff] at stored
  exact consistent key session stored.1

theorem getSession_obtained {manager : SessionManager} (consistent : manager.Consistent)
    (clock : Readings) (draws : Fin 32 → Fin 16) (req : HttpRequest) (resp : HttpResponse) :
    ∃ object, Obtained manager (manager.getSession clock draws req resp).1 clock
      (getSessionIdFromCookie req) (manager.sessionKey clock draws req)
      (manager.getSession clock draws req resp).2.2 object := by
  unfold getSession sessionKey
  rcases findSession_cases manager clock (getSessionIdFromCookie req) with
    ⟨session, run, given, stored, live, _⟩ | ⟨run, absent⟩ | ⟨stale, run, stored, expired⟩
  · obtain ⟨object, held, same⟩ := consistent.expired stored
    obtain ⟨managed, managedOthers⟩ := held.onObject Session.setManager rfl
    obtain ⟨refreshed, others⟩ := managed.onObject (·.refresh clock.refresh) rfl
    rw [run]
    dsimp only
    rw [refreshed.save]
    have notExpired : object.isExpired clock.load = false := (same clock.load).symm.trans live
    refine ⟨_, refreshed, rfl, Or.inl ⟨rfl, given, object, held.lookup, notExpired, rfl, rfl⟩, ?_⟩
    intro other different
    left
    rw [others other different, managedOthers other different]
  · obtain ⟨held, others⟩ := created_held consistent (generateSessionId draws) clock
    have noLive : manager.NoLive clock (getSessionIdFromCookie req) := by
      rcases absent with empty | late
      · exact Or.inl empty
      · refine Or.inr fun old found => Or.inr ?_
        obtain ⟨session, there⟩ := held_of_lookup consistent found
        obtain ⟨object, held, same⟩ := consistent.expired there.stored
        have equal := Option.some.inj (held.found.symm.trans there.found)
        rw [← equal, ← same]
        exact late session there.stored
    rw [run]
    exact ⟨_, held, rfl, Or.inr ⟨noLive, rfl, rfl⟩, fun other different => Or.inl (others other different)⟩
  · obtain ⟨held, others⟩ :=
      created_held (consistent.erase (getSessionIdFromCookie req)) (generateSessionId draws) clock
    obtain ⟨object, gone, same⟩ := consistent.expired stored
    have late : object.isExpired clock.load = true := (same clock.load).symm.trans expired
    have noLive : manager.NoLive clock (getSessionIdFromCookie req) := by
      refine Or.inr fun old found => Or.inl ?_
      rw [gone.lookup] at found
      cases found
      exact late
    rw [run]
    refine ⟨_, held, rfl, Or.inr ⟨noLive, rfl, rfl⟩, ?_⟩
    intro other different
    rw [others other different, lookup_destroySession]
    split
    · rename_i equal
      subst equal
      exact Or.inr ⟨rfl, object, gone.lookup, late⟩
    · left
      rfl

end SessionManager

end Http.Sessions
