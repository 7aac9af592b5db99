import HttpServerApps.Session.Destroyed

namespace Http.Sessions

open Common

/-- The call is made at one moment, which is not before `now`. -/
def AtOnce (now : Int) : SessionCall → Int → Prop
  | .getSession clock _ _ _, moment => now ≤ moment ∧ clock = .all moment
  | .cleanExpiredSessions clock, moment => now ≤ moment ∧ clock = fun _ => moment
  | _, moment => now ≤ moment

theorem AtOnce.le {now moment : Int} {call : SessionCall} (once : AtOnce now call moment) : now ≤ moment := by
  cases call with
  | getSession => exact once.1
  | cleanExpiredSessions => exact once.1
  | _ => exact once

/-- What holds of the storage at a moment: the sessions that are neither destroyed nor expired are in it, the
    destroyed ones are not. -/
structure Timely (now : Int) (store : Store) : Prop where
  tracks : Tracks store
  nodup : store.ids.Nodup
  named : ∀ key ∈ store.ids, key ≠ []
  gone : Gone store
  held : ∀ (session : Handle) (record : Record), store.records[session]? = some record →
    record.destroyed = false → now ≤ record.expiry → store.manager.sessions.find record.sessionId = some session

theorem timely_empty (now : Int) : Timely now {} :=
  ⟨tracks_empty, List.nodup_nil, nofun, nofun, nofun⟩

theorem generateSessionId_ne (draws : Fin 32 → Fin 16) : generateSessionId draws ≠ [] := by
  intro empty
  have length := congrArg List.length empty
  simp [generateSessionId] at length

theorem Does.named {store next : Store} {call : SessionCall} (does : Does store call next)
    (named : ∀ key ∈ store.ids, key ≠ []) : ∀ key ∈ next.ids, key ≠ [] := by
  rcases does.ids with kept | ⟨_, draws, _, _, _, _, grown⟩
  · rw [kept]
    exact named
  · rw [grown]
    intro key member
    rcases List.mem_append.mp member with old | new
    · exact named key old
    · rw [List.mem_singleton.mp new]
      exact generateSessionId_ne draws

/-- A session in its time is in the storage, also where a call has written to its data. -/
theorem Timely.held_written {now moment : Int} {store : Store} (timely : Timely now store) (later : now ≤ moment)
    {written session : Handle} {change : Record → Record} {record : Record}
    (made : (store.records.modify written change)[session]? = some record)
    (keeps : ∀ old, (change old).sessionId = old.sessionId ∧ (change old).destroyed = old.destroyed ∧
      (change old).touched = old.touched)
    (alive : record.destroyed = false) (valid : moment ≤ record.expiry) :
    store.manager.sessions.find record.sessionId = some session := by
  rcases modify_some made with ⟨old, was, shape⟩
  have same : record.sessionId = old.sessionId ∧ record.destroyed = old.destroyed ∧ record.touched = old.touched := by
    rw [shape]
    split
    · exact keeps old
    · exact ⟨rfl, rfl, rfl⟩
  have expiry : record.expiry = old.expiry := by
    unfold Record.expiry
    rw [same.2.2]
  rw [same.1]
  exact timely.held session old was (same.2.1.symm.trans alive) (Int.le_trans later (expiry ▸ valid))

theorem Timely.held_step {now moment : Int} {store next : Store} {call : SessionCall} (timely : Timely now store)
    (once : AtOnce now call moment) (does : Does store call next) (fresh : FreshId store call) (session : Handle)
    (record : Record) (made : next.records[session]? = some record) (alive : record.destroyed = false)
    (valid : moment ≤ record.expiry) : next.manager.sessions.find record.sessionId = some session := by
  have later := once.le
  have before : ∀ {old}, store.records[session]? = some old → old.destroyed = false → moment ≤ old.expiry →
      store.manager.sessions.find old.sessionId = some session :=
    fun there alive valid => timely.held session _ there alive (Int.le_trans later valid)
  cases does with
  | @gave clock draws req resp given found stored there _ atLoad atCheck =>
    rcases modify_some made with ⟨old, was, shape⟩
    rcases once with ⟨_, rfl⟩
    split at shape
    · rename_i same
      subst same shape
      cases there.symm.trans was
      exact @before found was alive atLoad
    · subst shape
      exact before was alive valid
  | @created clock draws req resp sessions lost notFound dropped =>
    change (sessions.insert (generateSessionId draws) store.records.length).find record.sessionId = some session
    rcases append_some made with old | ⟨last, rfl⟩
    · have different : record.sessionId ≠ generateSessionId draws := by
        intro same
        have mine := List.mem_of_getElem? (ids_of_record old)
        rw [same] at mine
        exact fresh notFound mine
      rw [Dict.find_insert_of_ne _ _ _ _ different]
      have stored := before old alive valid
      rcases dropped with rfl | ⟨rfl, stale, lapsed, there, was, expired⟩
      · exact stored
      · -- The lookup has dropped an expired session, so not this one.
        rw [Dict.find_erase_of_ne _ _ _ ?_]
        · exact stored
        · intro same
          rcases once with ⟨_, rfl⟩
          rw [same, there] at stored
          cases stored
          cases old.symm.trans was
          exact Int.not_lt.mpr valid expired
    · rw [last]
      exact Dict.find_insert_self _ _ _
  | @wrote written key value found there =>
    change (store.manager.sessions.insert found.sessionId written).find record.sessionId = some session
    have stored := timely.held_written later made (fun _ => ⟨rfl, rfl, rfl⟩) alive valid
    rw [Dict.find_insert]
    split
    · rename_i own
      rw [own] at stored
      rw [handle_unique timely.nodup (ids_of_record there) (timely.tracks.id stored)]
    · exact stored
  | removed => exact timely.held_written later made (fun _ => ⟨rfl, rfl, rfl⟩) alive valid
  | cleared => exact timely.held_written later made (fun _ => ⟨rfl, rfl, rfl⟩) alive valid
  | @destroyed sessionId =>
    have there : (store.records.map (·.destroy sessionId))[session]? = some record := made
    rw [List.getElem?_map] at there
    rcases Option.map_eq_some_iff.mp there with ⟨old, was, rfl⟩
    rw [old.destroyed_destroy, Bool.or_eq_false_iff, decide_eq_false_iff_not] at alive
    have same : old.destroy sessionId = old := if_neg alive.2
    rw [same] at valid ⊢
    exact (Dict.find_erase_of_ne _ _ _ alive.2).trans (before was alive.1 valid)
  | @cleaned clock =>
    have live : store.manager.expired (clock session) session = false := by
      rcases once with ⟨_, rfl⟩
      rw [timely.tracks.expired made]
      exact decide_eq_false (Int.not_lt.mpr valid)
    simp only [Store.of, Dict.find_filter, before made alive valid, Option.filter_some, live, Bool.not_false, if_true]

theorem Timely.step {now moment : Int} {store next : Store} {call : SessionCall} (timely : Timely now store)
    (once : AtOnce now call moment) (does : Does store call next) (fresh : FreshId store call)
    (living : ¬ SavesDestroyed store call) : Timely moment next where
  tracks := does.tracks timely.tracks
  nodup := does.nodup fresh timely.nodup
  named := does.named timely.named
  gone := (gone_step does timely.nodup fresh timely.gone).mpr living
  held := timely.held_step once does fresh

theorem timely_run {start now : Int} {calls : List SessionCall} {store : Store}
    (clocked : System.Clocked AtOnce start calls now) (run : storeCalls.run {} calls = some store)
    (fresh : storeCalls.Everywhere FreshId {} calls)
    (living : storeCalls.Everywhere (fun store call => ¬ SavesDestroyed store call) {} calls) : Timely now store := by
  have ok : storeCalls.Everywhere (fun store call => FreshId store call ∧ ¬ SavesDestroyed store call) {} calls :=
    fun before call after state shape prior =>
      ⟨fresh before call after state shape prior, living before call after state shape prior⟩
  apply System.clocked_preserves ?_ clocked (timely_empty start) run ok
  intro now store call later next step once timely ok
  exact timely.step once (does_of_step timely.tracks step) ok.1 ok.2

/-- Neither destroyed, nor later than `maxAge_` seconds after the last `getSession` that gave it or made it. -/
def Lasts (now : Int) (record : Record) (object : Session) : Prop :=
  record.destroyed = false ∧ now ≤ record.touched + object.maxAge * 10 ^ 9

/-- What `getSession` returns with a new session. -/
structure Anew (store : Store) (draws : Fin 32 → Fin 16) (resp : HttpResponse) (reply : Reply) : Prop where
  reply : reply =
    ⟨store.records.length, generateSessionId draws, .empty, setSessionCookie (generateSessionId draws) resp⟩
  made : store.manager.object store.records.length = none
  fresh : generateSessionId draws ∉ store.ids

theorem Tracks.object_eq {store : Store} (tracks : Tracks store) {session : Handle} {record : Record} {object : Session}
    (made : store.records[session]? = some record) (found : store.manager.object session = some object) :
    object = record.object := by
  rw [tracks.object, made] at found
  exact (Option.some.inj found).symm

/-- After every run with a clock that never goes back, in which ids never repeat and no destroyed session is written
    to: `getSession` gives the session of the cookie with its data exactly while it lasts, and a new one else. -/
theorem sliding_expiry (start now moment : Int) (calls : List SessionCall) (store : Store) (draws : Fin 32 → Fin 16)
    (req : HttpRequest) (resp : HttpResponse) (clocked : System.Clocked AtOnce start calls now)
    (run : storeCalls.run {} calls = some store) (later : now ≤ moment)
    (fresh : storeCalls.Everywhere FreshId {} calls)
    (freshLast : FreshId store (.getSession (.all moment) draws req resp))
    (living : storeCalls.Everywhere (fun store call => ¬ SavesDestroyed store call) {} calls) :
    ∃ next reply, storeCalls.step store (.getSession (.all moment) draws req resp) = some next ∧
      next.replies = store.replies ++ [reply] ∧
      (∀ session record object, store.records[session]? = some record → store.manager.object session = some object →
        getSessionIdFromCookie req = object.sessionId →
          (Lasts moment record object → reply = ⟨session, object.sessionId, object.data, resp⟩) ∧
            (¬ Lasts moment record object → Anew store draws resp reply)) ∧
      (Anew store draws resp reply ∨ ∃ record object, store.records[reply.session]? = some record ∧
        store.manager.object reply.session = some object ∧ getSessionIdFromCookie req = object.sessionId ∧
        Lasts moment record object ∧ reply = ⟨reply.session, object.sessionId, object.data, resp⟩) := by
  have timely := timely_run clocked run fresh living
  have answers : ∃ next, storeCalls.step store (.getSession (.all moment) draws req resp) = some next := ⟨_, rfl⟩
  rcases answers with ⟨next, step⟩
  rcases timely with ⟨tracks, nodup, named, gone, held⟩
  have does := does_of_step tracks step
  cases does with
  | @gave _ _ _ _ given found stored made _ atLoad _ =>
    rcases tracks.stored stored with ⟨again, there, own⟩
    cases made.symm.trans there
    have object : store.manager.object given = some found.object := by
      rw [tracks.object, made]
      rfl
    have alive : found.destroyed = false := by
      cases destroyed : found.destroyed with
      | false => rfl
      | true =>
        have absent := gone given found made destroyed
        rw [own, stored] at absent
        cases absent
    have lasts : Lasts moment found found.object := ⟨alive, atLoad⟩
    refine ⟨_, _, step, rfl, ?_, Or.inr ⟨found, found.object, made, object, own.symm, lasts, rfl⟩⟩
    intro session record other known seen cookie
    cases tracks.object_eq known seen
    have same : record.sessionId = found.sessionId := cookie.symm.trans own.symm
    cases handle_unique nodup (ids_of_record made) (same ▸ ids_of_record known)
    cases known.symm.trans made
    exact ⟨fun _ => rfl, fun ended => absurd lasts ended⟩
  | @created _ _ _ _ sessions lost notFound dropped =>
    have anew : Anew store draws resp ⟨store.records.length, generateSessionId draws, .empty,
        setSessionCookie (generateSessionId draws) resp⟩ := by
      refine ⟨rfl, ?_, freshLast notFound⟩
      rw [tracks.object, List.getElem?_eq_none (Nat.le_refl _)]
      rfl
    refine ⟨_, _, step, rfl, ?_, Or.inl anew⟩
    intro session record object known seen cookie
    cases tracks.object_eq known seen
    refine ⟨fun lasts => ?_, fun _ => anew⟩
    -- A session that lasts is in the storage, so that the lookup would have found it.
    have stored := held session record known lasts.1 (Int.le_trans later lasts.2)
    rcases lost with empty | expired
    · exact absurd (cookie.symm.trans empty) (named _ (List.mem_of_getElem? (ids_of_record known)))
    · have late := expired session record (cookie ▸ stored) known
      rcases late with late | late <;> exact absurd late (Int.not_lt.mpr lasts.2)

/-- A visit an hour after the last one, to the nanosecond. -/
theorem last_moment_visit :
    ∃ store next reply,
      storeCalls.run {} [.getSession (.all 0) (draw 1) {} {}, .setValue 0 (bytes "userId") (bytes "7")] = some store ∧
      storeCalls.step store
        (.getSession (.all (3600 * 10 ^ 9)) (draw 2) (withCookie (generateSessionId (draw 1))) {}) = some next ∧
      next.replies = store.replies ++ [reply] ∧ reply.session = 0 ∧
      reply.data.find (bytes "userId") = some (bytes "7") := by
  have clocked : System.Clocked AtOnce 0
      [.getSession (.all 0) (draw 1) {} {}, .setValue 0 (bytes "userId") (bytes "7")] 0 :=
    .cons ⟨Int.le_refl 0, rfl⟩ (.cons (Int.le_refl 0) (.nil 0))
  rcases sliding_expiry 0 0 (3600 * 10 ^ 9) _ _ (draw 2) (withCookie (generateSessionId (draw 1))) {} clocked rfl
    (by decide) (System.everywhere_of_meets (by decide)) (by decide)
    (System.everywhere_of_meets (by decide)) with ⟨next, reply, step, replies, ours, _⟩
  have same := (ours 0 _ _ rfl rfl (by decide)).1 ⟨rfl, by decide⟩
  refine ⟨_, next, reply, rfl, step, replies, ?_, ?_⟩
  · rw [same]
  · rw [same]
    decide

end Http.Sessions
