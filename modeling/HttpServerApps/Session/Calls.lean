import HttpServerApps.Common.Places
import HttpServerApps.Common.Runs
import HttpServerApps.Session.Lookup

namespace Http.Sessions

open Common

namespace SessionManager

def remove (manager : SessionManager) (session : Handle) (key : Bytes) : SessionManager :=
  manager.onObject session (·.remove key)

/-- The sweep of `cleanExpired`, with what the clock shows when each session is looked at. -/
def cleanExpired (manager : SessionManager) (clock : Handle → Int) : SessionManager :=
  { manager with sessions := manager.sessions.filter fun session => !manager.expired (clock session) session }

theorem cleanExpired_const (manager : SessionManager) (now : Int) :
    manager.cleanExpired (fun _ => now) = manager.cleanExpiredSessions now := rfl

end SessionManager

/-- The calls that requests make on the sessions. Each is one step, as the manager locks; `setValue` is one
    with its `updateSession`. -/
inductive SessionCall where
  | getSession (clock : Readings) (draws : Fin 32 → Fin 16) (req : HttpRequest) (resp : HttpResponse)
  | setValue (session : Handle) (key value : Bytes)
  | remove (session : Handle) (key : Bytes)
  | clear (session : Handle)
  | destroySession (sessionId : Bytes)
  | cleanExpiredSessions (clock : Handle → Int)

/-- What `getSession` gives its caller. -/
structure Reply where
  session : Handle
  sessionId : Bytes
  data : Dict Bytes Bytes
  resp : HttpResponse

namespace SessionManager

def perform (manager : SessionManager) : SessionCall → SessionManager × Option Reply
  | .getSession clock draws req resp =>
    let (manager, resp, session) := manager.getSession clock draws req resp
    let sessionId := ((manager.object session).map Session.sessionId).getD []
    (manager, some ⟨session, sessionId, manager.data session, resp⟩)
  | .setValue session key value => (manager.setValue session key value, none)
  | .remove session key => (manager.remove session key, none)
  | .clear session => (manager.clear session, none)
  | .destroySession sessionId => (manager.destroySession sessionId, none)
  | .cleanExpiredSessions clock => (manager.cleanExpired clock, none)

/-- A call through a handle needs a session to hold. -/
def usable (manager : SessionManager) : SessionCall → Bool
  | .setValue session _ _ => session < manager.heap.length
  | .remove session _ => session < manager.heap.length
  | .clear session => session < manager.heap.length
  | _ => true

end SessionManager

/-- What has happened to a session since it was made. -/
structure Record where
  sessionId : Bytes
  /-- When `getSession` gave it last, at its making first. -/
  touched : Int
  /-- What the calls through its handles have made of its data. -/
  data : Dict Bytes Bytes := .empty
  destroyed : Bool := false

namespace Record

/-- The last moment at which it has not expired. -/
def expiry (record : Record) : Int := record.touched + 3600 * 10 ^ 9

/-- The object a session with this past is. -/
def object (record : Record) : Session where
  sessionId := record.sessionId
  data := record.data
  expiryTime := record.expiry
  managed := true

def create (sessionId : Bytes) (now : Int) : Record := { sessionId := sessionId, touched := now }

def touch (record : Record) (now : Int) : Record := { record with touched := now }

def setData (record : Record) (key value : Bytes) : Record := { record with data := record.data.insert key value }

def remove (record : Record) (key : Bytes) : Record := { record with data := record.data.erase key }

def clear (record : Record) : Record := { record with data := .empty }

def destroy (record : Record) (sessionId : Bytes) : Record :=
  if record.sessionId = sessionId then { record with destroyed := true } else record

theorem object_destroy (record : Record) (sessionId : Bytes) : (record.destroy sessionId).object = record.object := by
  unfold destroy
  split <;> rfl

theorem sessionId_destroy (record : Record) (sessionId : Bytes) :
    (record.destroy sessionId).sessionId = record.sessionId := by
  unfold destroy
  split <;> rfl

theorem expiry_destroy (record : Record) (sessionId : Bytes) : (record.destroy sessionId).expiry = record.expiry := by
  unfold destroy
  split <;> rfl

theorem destroyed_destroy (record : Record) (sessionId : Bytes) :
    (record.destroy sessionId).destroyed = (record.destroyed || decide (record.sessionId = sessionId)) := by
  unfold destroy
  split <;> simp [*]

end Record

/-- The records after a call, with the reply it got. -/
def note (records : List Record) : SessionCall → Option Reply → List Record
  | .getSession clock _ _ _, some reply =>
    if reply.session < records.length then records.modify reply.session (·.touch clock.refresh)
    else records ++ [.create reply.sessionId clock.refresh]
  | .setValue session key value, _ => records.modify session (·.setData key value)
  | .remove session key, _ => records.modify session (·.remove key)
  | .clear session, _ => records.modify session Record.clear
  | .destroySession sessionId, _ => records.map (·.destroy sessionId)
  | _, _ => records

/-- The manager, and beside it the past of every session made, by handle, and the replies so far. -/
structure Store where
  manager : SessionManager := {}
  records : List Record := []
  replies : List Reply := []

def storeStep (store : Store) (call : SessionCall) : Option Store :=
  if store.manager.usable call then
    let (manager, reply) := store.manager.perform call
    some ⟨manager, note store.records call reply, store.replies ++ reply.toList⟩
  else none

def storeCalls : System Store SessionCall := ⟨storeStep⟩

/-- The ids of all sessions ever made, by handle. -/
def Store.ids (store : Store) : List Bytes := store.records.map Record.sessionId

/-- A session that this call makes gets an id that no session has had. -/
def FreshId (store : Store) : SessionCall → Prop
  | .getSession clock draws req _ =>
    (store.manager.findSession clock (getSessionIdFromCookie req)).2 = none → generateSessionId draws ∉ store.ids
  | _ => True

/-! The manager's objects are what the records say. -/

structure Tracks (store : Store) : Prop where
  heap : store.manager.heap = store.records.map Record.object
  consistent : store.manager.Consistent

theorem Tracks.object {store : Store} (tracks : Tracks store) (session : Handle) :
    store.manager.object session = (store.records[session]?).map Record.object := by
  unfold SessionManager.object
  rw [tracks.heap, List.getElem?_map]

theorem Tracks.expired {store : Store} (tracks : Tracks store) {session : Handle} {record : Record}
    (made : store.records[session]? = some record) (now : Int) :
    store.manager.expired now session = decide (record.expiry < now) := by
  unfold SessionManager.expired
  rw [tracks.object, made]
  rfl

/-- What is stored has a record, under whose id it is stored. -/
theorem Tracks.stored {store : Store} (tracks : Tracks store) {key : Bytes} {session : Handle}
    (stored : store.manager.sessions.find key = some session) :
    ∃ record, store.records[session]? = some record ∧ record.sessionId = key := by
  rcases tracks.consistent key session stored with ⟨object, found, own⟩
  rw [tracks.object] at found
  rcases Option.map_eq_some_iff.mp found with ⟨record, made, rfl⟩
  exact ⟨record, made, own⟩

def Store.of (sessions : Dict Bytes Handle) (records : List Record) (replies : List Reply) : Store :=
  ⟨⟨records.map Record.object, sessions⟩, records, replies⟩

theorem Tracks.eq_of {store : Store} (tracks : Tracks store) :
    store = .of store.manager.sessions store.records store.replies := by
  rcases store with ⟨⟨heap, sessions⟩, records, replies⟩
  have same : heap = records.map Record.object := tracks.heap
  rw [same]
  rfl

theorem onObject_records (sessions : Dict Bytes Handle) (records : List Record) (session : Handle)
    {change : Record → Record} {write : Session → Session}
    (same : ∀ record, (change record).object = write record.object) :
    (⟨records.map Record.object, sessions⟩ : SessionManager).onObject session write =
      ⟨(records.modify session change).map Record.object, sessions⟩ := by
  unfold SessionManager.onObject
  rw [map_modify records session same]

theorem save_records (sessions : Dict Bytes Handle) {records : List Record} {session : Handle} {record : Record}
    (made : records[session]? = some record) :
    (⟨records.map Record.object, sessions⟩ : SessionManager).save session =
      ⟨records.map Record.object, sessions.insert record.sessionId session⟩ := by
  unfold SessionManager.save SessionManager.object
  dsimp only
  rw [List.getElem?_map, made]
  rfl

/-- What holds of the cookie of a request for which no session is found. -/
def Lost (store : Store) (clock : Readings) (sessionId : Bytes) : Prop :=
  sessionId = [] ∨ ∀ session record, store.manager.sessions.find sessionId = some session →
    store.records[session]? = some record → record.expiry < clock.load ∨ record.expiry < clock.check

/-- What a call does. The constructors split `getSession` into the two ways it ends; `dropped` is what its lookup
    has taken out of the storage. -/
inductive Does (store : Store) : SessionCall → Store → Prop where
  | gave {clock draws req resp session record}
      (stored : store.manager.sessions.find (getSessionIdFromCookie req) = some session)
      (made : store.records[session]? = some record) (given : getSessionIdFromCookie req ≠ [])
      (atLoad : clock.load ≤ record.expiry) (atCheck : clock.check ≤ record.expiry) :
      Does store (.getSession clock draws req resp) (.of store.manager.sessions
        (store.records.modify session (·.touch clock.refresh))
        (store.replies ++ [⟨session, record.sessionId, record.data, resp⟩]))
  | created {clock draws req resp sessions}
      (lost : Lost store clock (getSessionIdFromCookie req))
      (notFound : (store.manager.findSession clock (getSessionIdFromCookie req)).2 = none)
      (dropped : sessions = store.manager.sessions ∨
        sessions = store.manager.sessions.erase (getSessionIdFromCookie req) ∧
          ∃ session record, store.manager.sessions.find (getSessionIdFromCookie req) = some session ∧
            store.records[session]? = some record ∧ record.expiry < clock.load) :
      Does store (.getSession clock draws req resp)
        (.of (sessions.insert (generateSessionId draws) store.records.length)
        (store.records ++ [.create (generateSessionId draws) clock.refresh])
        (store.replies ++ [⟨store.records.length, generateSessionId draws, .empty,
          setSessionCookie (generateSessionId draws) resp⟩]))
  | wrote {session key value record} (made : store.records[session]? = some record) :
      Does store (.setValue session key value) (.of (store.manager.sessions.insert record.sessionId session)
        (store.records.modify session (·.setData key value)) store.replies)
  | removed {session key} (made : session < store.records.length) :
      Does store (.remove session key) (.of store.manager.sessions
        (store.records.modify session (·.remove key)) store.replies)
  | cleared {session} (made : session < store.records.length) :
      Does store (.clear session) (.of store.manager.sessions
        (store.records.modify session Record.clear) store.replies)
  | destroyed {sessionId} :
      Does store (.destroySession sessionId) (.of (store.manager.sessions.erase sessionId)
        (store.records.map (·.destroy sessionId)) store.replies)
  | cleaned {clock} :
      Does store (.cleanExpiredSessions clock)
        (.of (store.manager.sessions.filter fun session => !store.manager.expired (clock session) session)
          store.records store.replies)

theorem Tracks.manager {store : Store} (tracks : Tracks store) :
    store.manager = ⟨store.records.map Record.object, store.manager.sessions⟩ := congrArg Store.manager tracks.eq_of

theorem setValue_records {store : Store} (tracks : Tracks store) {session : Handle} {record : Record}
    (made : store.records[session]? = some record) (key value : Bytes) :
    store.manager.setValue session key value =
      ⟨(store.records.modify session (·.setData key value)).map Record.object,
        store.manager.sessions.insert record.sessionId session⟩ := by
  have changed := getElem?_modify_self made (·.setData key value)
  have written : store.manager.onObject session (·.setData key value) =
      ⟨(store.records.modify session (·.setData key value)).map Record.object, store.manager.sessions⟩ := by
    rw [tracks.manager]
    exact onObject_records _ _ _ fun _ => rfl
  unfold SessionManager.setValue
  rw [written]
  have managed : ((⟨(store.records.modify session (·.setData key value)).map Record.object,
      store.manager.sessions⟩ : SessionManager).object session).any (·.managed) = true := by
    unfold SessionManager.object
    dsimp only
    rw [List.getElem?_map, changed]
    rfl
  dsimp only
  rw [managed, if_pos rfl, save_records _ changed]
  rfl

/-- The end of `getSession` with the session of the cookie. -/
theorem gave_records {store : Store} (tracks : Tracks store) {session : Handle} {record : Record}
    (made : store.records[session]? = some record)
    (stored : store.manager.sessions.find record.sessionId = some session) (now : Int) :
    ((store.manager.onObject session Session.setManager).onObject session (·.refresh now)).save session =
      ⟨(store.records.modify session (·.touch now)).map Record.object, store.manager.sessions⟩ := by
  have managed : store.manager.onObject session Session.setManager = store.manager := by
    have same := @onObject_records store.manager.sessions store.records session id Session.setManager fun _ => rfl
    rw [List.modify_id] at same
    rw [tracks.manager]
    exact same
  have refreshed : store.manager.onObject session (·.refresh now) =
      ⟨(store.records.modify session (·.touch now)).map Record.object, store.manager.sessions⟩ := by
    rw [tracks.manager]
    exact onObject_records _ _ _ fun _ => rfl
  rw [managed, refreshed, save_records _ (getElem?_modify_self made (·.touch now))]
  have again : store.manager.sessions.insert record.sessionId session = store.manager.sessions :=
    Dict.insert_found stored
  exact congrArg (SessionManager.mk _) again

/-- The end of `getSession` with a new session. -/
theorem created_records (sessions : Dict Bytes Handle) (records : List Record) (sessionId : Bytes) (create now : Int) :
    ((⟨records.map Record.object ++ [Session.create sessionId create], sessions⟩ : SessionManager).onObject
        records.length (·.refresh now)).save records.length =
      ⟨(records ++ [Record.create sessionId now]).map Record.object,
        sessions.insert sessionId records.length⟩ := by
  have grown : records.map Record.object ++ [Session.create sessionId create] =
      (records ++ [Record.create sessionId create]).map Record.object := by
    rw [List.map_append]
    rfl
  have made : (records ++ [Record.create sessionId create])[records.length]? = some (.create sessionId create) :=
    List.getElem?_concat_length
  have touched : (records ++ [Record.create sessionId create]).modify records.length (·.touch now) =
      records ++ [Record.create sessionId now] := by
    rw [List.modify_eq_set_getElem?, made]
    simp [Record.touch, Record.create]
  rw [grown, onObject_records _ _ _ fun _ => (rfl : (Record.touch _ now).object = Session.refresh _ now),
    save_records _ (getElem?_modify_self made (·.touch now)), touched]
  rfl

theorem object_records (sessions : Dict Bytes Handle) {records : List Record} {session : Handle} {record : Record}
    (made : records[session]? = some record) :
    (⟨records.map Record.object, sessions⟩ : SessionManager).object session = some record.object := by
  unfold SessionManager.object
  dsimp only
  rw [List.getElem?_map, made]
  rfl

theorem data_records (sessions : Dict Bytes Handle) {records : List Record} {session : Handle} {record : Record}
    (made : records[session]? = some record) :
    (⟨records.map Record.object, sessions⟩ : SessionManager).data session = record.data := by
  unfold SessionManager.data
  rw [object_records sessions made]
  rfl

theorem Tracks.length {store : Store} (tracks : Tracks store) : store.manager.heap.length = store.records.length := by
  rw [tracks.heap, List.length_map]

theorem does_gave {store next : Store} (tracks : Tracks store) {clock : Readings} {draws : Fin 32 → Fin 16}
    {req : HttpRequest} {resp : HttpResponse} {session : Handle} {record : Record}
    (run : store.manager.findSession clock (getSessionIdFromCookie req) = (store.manager, some session))
    (stored : store.manager.sessions.find (getSessionIdFromCookie req) = some session)
    (made : store.records[session]? = some record) (given : getSessionIdFromCookie req ≠ [])
    (atLoad : clock.load ≤ record.expiry) (atCheck : clock.check ≤ record.expiry)
    (step : storeStep store (.getSession clock draws req resp) = some next) :
    Does store (.getSession clock draws req resp) next := by
  have own : store.manager.sessions.find record.sessionId = some session := by
    rcases tracks.stored stored with ⟨same, again, own⟩
    cases made.symm.trans again
    rw [own]
    exact stored
  have got : store.manager.getSession clock draws req resp =
      (⟨(store.records.modify session (·.touch clock.refresh)).map Record.object, store.manager.sessions⟩, resp,
        session) := by
    unfold SessionManager.getSession
    rw [run, ← gave_records tracks made own clock.refresh]
  have changed := getElem?_modify_self made (·.touch clock.refresh)
  have handle : session < store.records.length := (List.getElem?_eq_some_iff.mp made).1
  simp only [storeStep, SessionManager.usable, if_true, Option.some.injEq, SessionManager.perform, got,
    object_records _ changed, data_records _ changed, note, handle] at step
  rw [← step]
  exact @Does.gave store clock draws req resp session record stored made given atLoad atCheck

theorem does_created {store next : Store} (tracks : Tracks store) {clock : Readings} {draws : Fin 32 → Fin 16}
    {req : HttpRequest} {resp : HttpResponse} {sessions : Dict Bytes Handle}
    (run : store.manager.findSession clock (getSessionIdFromCookie req) = (⟨store.manager.heap, sessions⟩, none))
    (lost : Lost store clock (getSessionIdFromCookie req))
    (dropped : sessions = store.manager.sessions ∨
      sessions = store.manager.sessions.erase (getSessionIdFromCookie req) ∧
        ∃ session record, store.manager.sessions.find (getSessionIdFromCookie req) = some session ∧
          store.records[session]? = some record ∧ record.expiry < clock.load)
    (step : storeStep store (.getSession clock draws req resp) = some next) :
    Does store (.getSession clock draws req resp) next := by
  have got : store.manager.getSession clock draws req resp =
      (⟨(store.records ++ [Record.create (generateSessionId draws) clock.refresh]).map Record.object,
        sessions.insert (generateSessionId draws) store.records.length⟩,
        setSessionCookie (generateSessionId draws) resp, store.records.length) := by
    unfold SessionManager.getSession
    rw [run, ← created_records _ _ _ clock.create]
    dsimp only
    rw [tracks.length, tracks.heap]
  have made : (store.records ++ [Record.create (generateSessionId draws) clock.refresh])[store.records.length]? =
      some (.create (generateSessionId draws) clock.refresh) := List.getElem?_concat_length
  simp only [storeStep, SessionManager.usable, if_true, Option.some.injEq, SessionManager.perform, got,
    object_records _ made, data_records _ made, note, Nat.lt_irrefl, if_false] at step
  rw [← step]
  exact .created lost (congrArg Prod.snd run) dropped

theorem does_getSession {store next : Store} (tracks : Tracks store) {clock : Readings} {draws : Fin 32 → Fin 16}
    {req : HttpRequest} {resp : HttpResponse} (step : storeStep store (.getSession clock draws req resp) = some next) :
    Does store (.getSession clock draws req resp) next := by
  rcases SessionManager.findSession_cases store.manager clock (getSessionIdFromCookie req) with
    ⟨session, run, given, stored, live, valid⟩ | ⟨run, absent⟩ | ⟨session, run, stored, late⟩
  · rcases tracks.stored stored with ⟨record, made, _⟩
    have atLoad : clock.load ≤ record.expiry := by simpa [tracks.expired made] using live
    have atCheck : clock.check ≤ record.expiry := by simpa [tracks.expired made] using valid
    exact does_gave tracks run stored made given atLoad atCheck step
  · have lost : Lost store clock (getSessionIdFromCookie req) := by
      rcases absent with empty | late
      · exact Or.inl empty
      · refine Or.inr fun session record stored made => Or.inr ?_
        simpa [tracks.expired made] using late session stored
    exact does_created tracks run lost (Or.inl rfl) step
  · rcases tracks.stored stored with ⟨record, made, _⟩
    have expired : record.expiry < clock.load := by simpa [tracks.expired made] using late
    have lost : Lost store clock (getSessionIdFromCookie req) := by
      refine Or.inr fun other again there old => Or.inl ?_
      cases stored.symm.trans there
      cases made.symm.trans old
      exact expired
    exact does_created tracks run lost (Or.inr ⟨rfl, session, record, stored, made, expired⟩) step

theorem does_of_step {store next : Store} {call : SessionCall} (tracks : Tracks store)
    (step : storeCalls.step store call = some next) : Does store call next := by
  have writes : ∀ {session : Handle} {write : Session → Session} {change : Record → Record},
      (∀ record, (change record).object = write record.object) →
        store.manager.onObject session write =
          ⟨(store.records.modify session change).map Record.object, store.manager.sessions⟩ := by
    intro session write change same
    have changed := onObject_records store.manager.sessions store.records session same
    rw [← tracks.manager] at changed
    exact changed
  simp only [storeCalls, storeStep] at step
  split at step
  · rename_i usable
    have done := Option.some.inj step
    cases call with
    | getSession clock draws req resp => exact does_getSession tracks (done ▸ rfl)
    | setValue session key value =>
      have handle : session < store.records.length := by simpa [SessionManager.usable, tracks.length] using usable
      have made : store.records[session]? = some store.records[session] := List.getElem?_eq_getElem handle
      simp only [SessionManager.perform, note, Option.toList_none, List.append_nil,
        setValue_records tracks made] at done
      rw [← done]
      exact .wrote made
    | remove session key =>
      have handle : session < store.records.length := by simpa [SessionManager.usable, tracks.length] using usable
      have written : store.manager.remove session key = _ := writes fun record => (rfl : (record.remove key).object = _)
      simp only [SessionManager.perform, note, Option.toList_none, List.append_nil, written] at done
      rw [← done]
      exact .removed handle
    | clear session =>
      have handle : session < store.records.length := by simpa [SessionManager.usable, tracks.length] using usable
      have written : store.manager.clear session = _ := writes fun record => (rfl : record.clear.object = _)
      simp only [SessionManager.perform, note, Option.toList_none, List.append_nil, written] at done
      rw [← done]
      exact .cleared handle
    | destroySession sessionId =>
      have objects : (store.records.map (·.destroy sessionId)).map Record.object = store.records.map Record.object := by
        rw [List.map_map]
        exact List.map_congr_left fun record _ => record.object_destroy sessionId
      have kept : store.manager.destroySession sessionId =
          ⟨(store.records.map (·.destroy sessionId)).map Record.object, store.manager.sessions.erase sessionId⟩ := by
        rw [objects, ← tracks.heap]
        rfl
      simp only [SessionManager.perform, note, Option.toList_none, List.append_nil, kept] at done
      rw [← done]
      exact .destroyed
    | cleanExpiredSessions clock =>
      have kept : store.manager.cleanExpired clock = ⟨store.records.map Record.object,
          store.manager.sessions.filter fun session => !store.manager.expired (clock session) session⟩ := by
        rw [← tracks.heap]
        rfl
      simp only [SessionManager.perform, note, Option.toList_none, List.append_nil, kept] at done
      rw [← done]
      exact .cleaned
  · cases step

/-! The ids: a call keeps them, or adds the one of a new session at the end. -/

theorem ids_modify (records : List Record) (session : Handle) {change : Record → Record}
    (keeps : ∀ record, (change record).sessionId = record.sessionId) :
    (records.modify session change).map Record.sessionId = records.map Record.sessionId := by
  rw [@map_modify _ _ Record.sessionId records session change id keeps, List.modify_id]

theorem ids_destroy (records : List Record) (sessionId : Bytes) :
    (records.map (·.destroy sessionId)).map Record.sessionId = records.map Record.sessionId := by
  rw [List.map_map]
  exact List.map_congr_left fun record _ => record.sessionId_destroy sessionId

theorem Tracks.id {store : Store} (tracks : Tracks store) {key : Bytes} {session : Handle}
    (stored : store.manager.sessions.find key = some session) : store.ids[session]? = some key := by
  rcases tracks.stored stored with ⟨record, made, rfl⟩
  unfold Store.ids
  rw [List.getElem?_map, made]
  rfl

theorem tracks_of {sessions : Dict Bytes Handle} {records : List Record}
    (own : ∀ key session, sessions.find key = some session → (records.map Record.sessionId)[session]? = some key)
    (replies : List Reply) : Tracks (.of sessions records replies) := by
  refine ⟨rfl, ?_⟩
  intro key session stored
  have found := own key session stored
  rw [List.getElem?_map] at found
  rcases Option.map_eq_some_iff.mp found with ⟨record, made, same⟩
  exact ⟨record.object, object_records sessions made, same⟩

theorem Does.ids {store next : Store} {call : SessionCall} (does : Does store call next) :
    next.ids = store.ids ∨ ∃ clock draws req resp, call = .getSession clock draws req resp ∧
      (store.manager.findSession clock (getSessionIdFromCookie req)).2 = none ∧
      next.ids = store.ids ++ [generateSessionId draws] := by
  cases does with
  | gave => exact Or.inl (ids_modify _ _ fun _ => rfl)
  | @created clock draws req resp sessions lost notFound dropped =>
    exact Or.inr ⟨clock, draws, req, resp, rfl, notFound, List.map_append⟩
  | wrote => exact Or.inl (ids_modify _ _ fun _ => rfl)
  | removed => exact Or.inl (ids_modify _ _ fun _ => rfl)
  | cleared => exact Or.inl (ids_modify _ _ fun _ => rfl)
  | destroyed => exact Or.inl (ids_destroy _ _)
  | cleaned => exact Or.inl rfl

def SessionCall.destroys : SessionCall → Bytes → Bool
  | .destroySession sessionId, key => key = sessionId
  | _, _ => false

/-- Where what is stored after a call comes from. -/
theorem Does.stored {store next : Store} {call : SessionCall} (does : Does store call next) {key : Bytes}
    {session : Handle} (stored : next.manager.sessions.find key = some session) :
    (store.manager.sessions.find key = some session ∧ call.destroys key = false) ∨
      (∃ field value, call = .setValue session field value ∧ store.ids[session]? = some key) ∨
      ∃ clock draws req resp, call = .getSession clock draws req resp ∧
        (store.manager.findSession clock (getSessionIdFromCookie req)).2 = none ∧ key = generateSessionId draws ∧
        session = store.ids.length ∧ next.ids = store.ids ++ [key] := by
  cases does with
  | gave => exact Or.inl ⟨stored, rfl⟩
  | @created clock draws req resp sessions lost notFound dropped =>
    simp only [Store.of, Dict.find_insert] at stored
    split at stored
    · rename_i same
      cases stored
      exact Or.inr (Or.inr ⟨clock, draws, req, resp, rfl, notFound, same, (List.length_map _).symm,
        same ▸ List.map_append⟩)
    · left
      rcases dropped with rfl | ⟨rfl, _⟩
      · exact ⟨stored, rfl⟩
      · rw [Dict.find_erase] at stored
        split at stored
        · cases stored
        · exact ⟨stored, rfl⟩
  | @wrote written field value record made =>
    simp only [Store.of, Dict.find_insert] at stored
    split at stored
    · rename_i same
      cases stored
      refine Or.inr (Or.inl ⟨field, value, rfl, ?_⟩)
      rw [Store.ids, List.getElem?_map, made, same]
      rfl
    · exact Or.inl ⟨stored, rfl⟩
  | removed => exact Or.inl ⟨stored, rfl⟩
  | cleared => exact Or.inl ⟨stored, rfl⟩
  | destroyed =>
    simp only [Store.of, Dict.find_erase] at stored
    split at stored
    · cases stored
    · rename_i different
      exact Or.inl ⟨stored, decide_eq_false different⟩
  | cleaned =>
    simp only [Store.of, Dict.find_filter, Option.filter_eq_some_iff] at stored
    exact Or.inl ⟨stored.1, rfl⟩

theorem Does.tracks {store next : Store} {call : SessionCall} (does : Does store call next) (tracks : Tracks store) :
    Tracks next := by
  have shape : next = .of next.manager.sessions next.records next.replies := by cases does <;> rfl
  have older : ∀ {session : Handle} {key : Bytes}, store.ids[session]? = some key → next.ids[session]? = some key := by
    intro session key same
    rcases does.ids with kept | ⟨_, _, _, _, _, _, grown⟩
    · rw [kept, same]
    · rw [grown, List.getElem?_append_left (List.getElem?_eq_some_iff.mp same).1, same]
  rw [shape]
  apply tracks_of
  intro key session stored
  rcases does.stored stored with ⟨old, _⟩ | ⟨_, _, _, own⟩ | ⟨_, _, _, _, _, _, _, rfl, grown⟩
  · exact older (tracks.id old)
  · exact older own
  · change next.ids[store.ids.length]? = some key
    rw [grown]
    exact List.getElem?_concat_length

theorem Does.nodup {store next : Store} {call : SessionCall} (does : Does store call next) (fresh : FreshId store call)
    (nodup : store.ids.Nodup) : next.ids.Nodup := by
  rcases does.ids with kept | ⟨clock, draws, req, resp, rfl, notFound, grown⟩
  · rw [kept]
    exact nodup
  · rw [grown]
    apply List.nodup_append.mpr
    refine ⟨nodup, List.pairwise_singleton _ _, ?_⟩
    rintro key old _ new rfl
    cases List.mem_singleton.mp new
    exact fresh notFound old

/-- Where a record comes from. Only `destroySession` makes a session destroyed. -/
theorem Does.record {store next : Store} {call : SessionCall} (does : Does store call next) {session : Handle}
    {record : Record} (made : next.records[session]? = some record) :
    (∃ old, store.records[session]? = some old ∧ record.sessionId = old.sessionId ∧
        record.destroyed = (old.destroyed || call.destroys old.sessionId)) ∨
      record.destroyed = false ∧ session = store.records.length := by
  have written : ∀ {changed : Handle} {change : Record → Record},
      (store.records.modify changed change)[session]? = some record →
        (∀ old, (change old).sessionId = old.sessionId) → (∀ old, (change old).destroyed = old.destroyed) →
          ∃ old, store.records[session]? = some old ∧ record.sessionId = old.sessionId ∧
            record.destroyed = (old.destroyed || false) := by
    intro changed change made sameId sameMark
    rcases modify_some made with ⟨old, there, shape⟩
    refine ⟨old, there, ?_, ?_⟩ <;> rw [shape] <;> split
    · exact sameId old
    · rfl
    · rw [sameMark, Bool.or_false]
    · rw [Bool.or_false]
  cases does with
  | gave => exact Or.inl (written made (fun _ => rfl) (fun _ => rfl))
  | created =>
    rcases append_some made with old | ⟨last, rfl⟩
    · exact Or.inl ⟨record, old, rfl, (Bool.or_false _).symm⟩
    · exact Or.inr ⟨rfl, last⟩
  | wrote => exact Or.inl (written made (fun _ => rfl) (fun _ => rfl))
  | removed => exact Or.inl (written made (fun _ => rfl) (fun _ => rfl))
  | cleared => exact Or.inl (written made (fun _ => rfl) (fun _ => rfl))
  | @destroyed sessionId =>
    have there : (store.records.map (·.destroy sessionId))[session]? = some record := made
    rw [List.getElem?_map] at there
    rcases Option.map_eq_some_iff.mp there with ⟨old, before, same⟩
    refine Or.inl ⟨old, before, ?_, ?_⟩
    · rw [← same, old.sessionId_destroy]
    · rw [← same, old.destroyed_destroy]
      rfl
  | cleaned => exact Or.inl ⟨record, made, rfl, (Bool.or_false _).symm⟩

theorem tracks_empty : Tracks {} := ⟨rfl, nofun⟩

theorem tracks_run {calls : List SessionCall} {store : Store} (run : storeCalls.run {} calls = some store) :
    Tracks store :=
  System.run_preserves (fun _ _ _ step tracks => (does_of_step tracks step).tracks tracks) tracks_empty run

theorem handle_unique {store : Store} (nodup : store.ids.Nodup) {key : Bytes} {session other : Handle}
    (mine : store.ids[session]? = some key) (theirs : store.ids[other]? = some key) : session = other :=
  (List.getElem?_inj (List.getElem?_eq_some_iff.mp mine).1 nodup).mp (mine.trans theirs.symm)

/-! For runs on fixed inputs. -/

def draw (digit : Fin 16) : Fin 32 → Fin 16 := fun _ => digit

def withCookie (sessionId : Bytes) : HttpRequest :=
  { headers := Dict.empty.insert (bytes "cookie") (bytes "sessionId=" ++ sessionId) }

instance (store : Store) : (call : SessionCall) → Decidable (FreshId store call)
  | .getSession .. => inferInstanceAs (Decidable (_ → _))
  | .setValue .. => isTrue trivial
  | .remove .. => isTrue trivial
  | .clear .. => isTrue trivial
  | .destroySession .. => isTrue trivial
  | .cleanExpiredSessions .. => isTrue trivial

end Http.Sessions
