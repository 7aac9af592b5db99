import HttpServerApps.Session.Calls
import Mathlib.Data.List.Induction

namespace Http.Sessions

open Common

/-- The key is an id that a `getSession` of these calls generated for a new session. -/
def Generated (calls : List SessionCall) (key : Bytes) : Prop :=
  ∃ before clock draws req resp after store, calls = before ++ .getSession clock draws req resp :: after ∧
    storeCalls.run {} before = some store ∧
    (store.manager.findSession clock (getSessionIdFromCookie req)).2 = none ∧ key = generateSessionId draws

theorem Generated.append {calls : List SessionCall} {key : Bytes} (generated : Generated calls key)
    (more : List SessionCall) : Generated (calls ++ more) key := by
  rcases generated with ⟨before, clock, draws, req, resp, after, store, shape, run, notFound, same⟩
  refine ⟨before, clock, draws, req, resp, after ++ more, store, ?_, run, notFound, same⟩
  rw [shape, List.append_assoc, List.cons_append]

/-- The id of every session ever made was generated for it. -/
theorem ids_generated {calls : List SessionCall} {store : Store} (run : storeCalls.run {} calls = some store) :
    ∀ key ∈ store.ids, Generated calls key := by
  induction calls using List.reverseRecOn generalizing store with
  | nil =>
    cases run
    nofun
  | append_singleton calls call ih =>
    rw [System.run_append] at run
    rcases Option.bind_eq_some_iff.mp run with ⟨middle, prior, last⟩
    rcases Option.bind_eq_some_iff.mp last with ⟨next, step, same⟩
    cases same
    intro key member
    rcases (does_of_step (tracks_run prior) step).ids with kept | ⟨clock, draws, req, resp, rfl, notFound, grown⟩
    · rw [kept] at member
      exact (ih prior key member).append [call]
    · rw [grown] at member
      rcases List.mem_append.mp member with old | new
      · exact (ih prior key old).append _
      · exact ⟨calls, clock, draws, req, resp, [], middle, rfl, prior, notFound, List.mem_singleton.mp new⟩

/-- The response has a `Set-Cookie` that names the id. -/
def Names (resp : HttpResponse) (sessionId : Bytes) : Prop :=
  resp.headers.find (bytes "Set-Cookie") = some (bytes "sessionId=" ++ sessionId ++ bytes "; Path=/; HttpOnly")

theorem names_setSessionCookie (sessionId : Bytes) (resp : HttpResponse) :
    Names (setSessionCookie sessionId resp) sessionId := by
  unfold Names setSessionCookie HttpResponse.addHeader
  rw [OrderedMap.find_insert, if_pos rfl]

/-- What `getSession` returns, from the sessions before it and after it. -/
structure Returned (before after : SessionManager) (resp : HttpResponse) (reply : Reply) : Prop where
  stored : after.sessions.find reply.sessionId = some reply.session
  own : (after.object reply.session).map Session.sessionId = some reply.sessionId
  cookie : ¬ Names resp reply.sessionId → (Names reply.resp reply.sessionId ↔ before.object reply.session = none)
  silent : before.object reply.session ≠ none → reply.resp = resp

theorem Does.returned {store next : Store} {clock : Readings} {draws : Fin 32 → Fin 16} {req : HttpRequest}
    {resp : HttpResponse} (tracks : Tracks store) (does : Does store (.getSession clock draws req resp) next) :
    ∃ reply, next.replies = store.replies ++ [reply] ∧ Returned store.manager next.manager resp reply := by
  cases does with
  | @gave _ _ _ _ session record stored made given atLoad atCheck =>
    refine ⟨_, rfl, ?_⟩
    have own : record.sessionId = getSessionIdFromCookie req := by
      rcases tracks.stored stored with ⟨same, again, own⟩
      cases made.symm.trans again
      exact own
    have there : store.manager.object session = some record.object := by
      rw [tracks.object, made]
      rfl
    have touched := object_records store.manager.sessions (getElem?_modify_self made (·.touch clock.refresh))
    refine ⟨own ▸ stored, by simp only [Store.of, touched]; rfl, ?_, fun _ => rfl⟩
    intro silent
    rw [there]
    apply iff_of_false silent
    intro none_
    cases none_
  | @created _ _ _ _ sessions lost notFound dropped =>
    refine ⟨_, rfl, ?_⟩
    have absent : store.manager.object store.records.length = none := by
      rw [tracks.object, List.getElem?_eq_none (Nat.le_refl _)]
      rfl
    have made : (store.records ++ [Record.create (generateSessionId draws) clock.refresh])[store.records.length]? =
        some (.create (generateSessionId draws) clock.refresh) := List.getElem?_concat_length
    refine ⟨Dict.find_insert_self _ _ _, by simp only [Store.of, object_records _ made]; rfl, ?_, ?_⟩
    · intro _
      exact iff_of_true (names_setSessionCookie _ _) absent
    · exact fun present => absurd absent present

/-- The session that a call writes through its handle. -/
def SessionCall.through : SessionCall → Option Handle
  | .setValue session _ _ => some session
  | .remove session _ => some session
  | .clear session => some session
  | _ => none

theorem Does.elsewhere {store next : Store} {call : SessionCall} (does : Does store call next) {session other : Handle}
    (through : call.through = some session) (different : session ≠ other) :
    next.records[other]? = store.records[other]? := by
  cases does with
  | gave => cases through
  | created => cases through
  | wrote =>
    cases through
    exact List.getElem?_modify_ne _ _ different
  | removed =>
    cases through
    exact List.getElem?_modify_ne _ _ different
  | cleared =>
    cases through
    exact List.getElem?_modify_ne _ _ different
  | destroyed => cases through
  | cleaned => cases through

theorem getValue_eq {store : Store} (tracks : Tracks store) (session : Handle) (key : Bytes) :
    store.manager.getValue session key = ((store.records[session]?).map fun record =>
      record.object.getValue key).getD [] := by
  unfold SessionManager.getValue
  rw [tracks.object, Option.map_map]
  rfl

/-- What holds of the storage after these calls, and of the next call. -/
structure Representation (calls : List SessionCall) (store : Store) : Prop where
  own : ∀ key session, store.manager.sessions.find key = some session →
    ∃ object, store.manager.object session = some object ∧ object.sessionId = key
  generated : ∀ key session, store.manager.sessions.find key = some session → Generated calls key
  distinct : ∀ key other session, store.manager.sessions.find key = some session →
    store.manager.sessions.find other = some session → key = other
  returned : ∀ clock draws req resp next, storeCalls.step store (.getSession clock draws req resp) = some next →
    ∃ reply, next.replies = store.replies ++ [reply] ∧ Returned store.manager next.manager resp reply
  isolated : ∀ call session next, call.through = some session → storeCalls.step store call = some next →
    ∀ other mine theirs, store.manager.object session = some mine → store.manager.object other = some theirs →
      mine.sessionId ≠ theirs.sessionId → ∀ key, next.manager.getValue other key = store.manager.getValue other key

theorem store_representation (calls : List SessionCall) (store : Store)
    (run : storeCalls.run {} calls = some store) : Representation calls store := by
  have tracks := tracks_run run
  refine ⟨tracks.consistent, ?_, ?_, ?_, ?_⟩
  · intro key session stored
    exact ids_generated run key (List.mem_of_getElem? (tracks.id stored))
  · intro key other session stored again
    exact Option.some.inj ((tracks.id stored).symm.trans (tracks.id again))
  · intro clock draws req resp next step
    exact (does_of_step tracks step).returned tracks
  · intro call session next through step other mine theirs found there differ key
    have does := does_of_step tracks step
    have different : session ≠ other := by
      rintro rfl
      cases found.symm.trans there
      exact differ rfl
    rw [getValue_eq (does.tracks tracks), getValue_eq tracks, does.elsewhere through different]

/-- A client without a cookie, one that brings an id of its own, and one that comes back. -/
def threeVisits : List SessionCall :=
  [.getSession (.all 0) (draw 1) {} {}, .getSession (.all 0) (draw 2) (withCookie (bytes "mine")) {},
    .getSession (.all 0) (draw 3) (withCookie (generateSessionId (draw 1))) {}]

theorem threeVisits_representation :
    ∃ store, storeCalls.run {} threeVisits = some store ∧ Representation threeVisits store :=
  ⟨_, rfl, store_representation threeVisits _ rfl⟩

end Http.Sessions
