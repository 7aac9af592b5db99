import HttpServerApps.Session.Calls

namespace Http.Sessions

open Common

/-- No `load` finds a session whose id has been destroyed. -/
def DestroyedStays (store : Store) : Prop :=
  ∀ record ∈ store.records, record.destroyed = true → ∀ now, (store.manager.load record.sessionId now).2 = none

/-- The call is a `setValue` through the handle of a session that has been destroyed. -/
def SavesDestroyed (store : Store) : SessionCall → Prop
  | .setValue session _ _ => (store.records[session]?).any Record.destroyed
  | _ => False

instance (store : Store) : (call : SessionCall) → Decidable (SavesDestroyed store call)
  | .getSession .. => isFalse id
  | .setValue session _ _ => inferInstanceAs (Decidable ((store.records[session]?).any Record.destroyed))
  | .remove .. => isFalse id
  | .clear .. => isFalse id
  | .destroySession .. => isFalse id
  | .cleanExpiredSessions .. => isFalse id

theorem load_none_iff {store : Store} (tracks : Tracks store) (key : Bytes) :
    (∀ now, (store.manager.load key now).2 = none) ↔ store.manager.sessions.find key = none := by
  apply Iff.intro
  · intro never
    cases stored : store.manager.sessions.find key with
    | none => rfl
    | some session =>
      -- At its last moment the session would be found.
      rcases tracks.stored stored with ⟨record, made, _⟩
      have live : store.manager.expired record.expiry session = false := by
        rw [tracks.expired made]
        exact decide_eq_false (Int.lt_irrefl _)
      have none := never record.expiry
      simp only [SessionManager.load, stored, live] at none
      cases none
  · intro absent now
    simp only [SessionManager.load, absent]

/-- What has been destroyed is not in the storage. -/
def Gone (store : Store) : Prop :=
  ∀ (session : Handle) (record : Record), store.records[session]? = some record → record.destroyed = true →
    store.manager.sessions.find record.sessionId = none

theorem destroyedStays_iff {store : Store} (tracks : Tracks store) : DestroyedStays store ↔ Gone store := by
  apply Iff.intro
  · intro stays session record made destroyed
    exact (load_none_iff tracks _).mp (stays record (List.mem_of_getElem? made) destroyed)
  · intro gone record member destroyed
    rcases List.getElem?_of_mem member with ⟨session, made⟩
    exact (load_none_iff tracks _).mpr (gone session record made destroyed)

theorem ids_of_record {store : Store} {session : Handle} {record : Record}
    (made : store.records[session]? = some record) : store.ids[session]? = some record.sessionId := by
  unfold Store.ids
  rw [List.getElem?_map, made]
  rfl

theorem gone_step {store next : Store} {call : SessionCall} (does : Does store call next) (nodup : store.ids.Nodup)
    (fresh : FreshId store call) (gone : Gone store) : Gone next ↔ ¬ SavesDestroyed store call := by
  apply Iff.intro
  · intro after saves
    cases does with
    | @wrote session key value record made =>
      rcases (Option.any_eq_true _ _).mp saves with ⟨same, again, destroyed⟩
      cases made.symm.trans again
      have changed := getElem?_modify_self made (·.setData key value)
      have absent := after session (record.setData key value) changed destroyed
      have stored : (store.manager.sessions.insert record.sessionId session).find record.sessionId = some session :=
        Dict.find_insert_self _ _ _
      cases stored.symm.trans absent
    | _ => exact saves
  · intro living session record made destroyed
    rcases does.record made with ⟨old, before, sameId, mark⟩ | ⟨alive, _⟩
    · cases stored : next.manager.sessions.find record.sessionId with
      | none => rfl
      | some other =>
        -- Nothing puts the session back: what is stored was there, is written through its handle, or is new.
        rw [destroyed] at mark
        rw [sameId] at stored
        rcases does.stored stored with ⟨kept, spared⟩ | ⟨field, value, rfl, own⟩ |
          ⟨clock, draws, req, resp, rfl, notFound, new, _, _⟩
        · rw [spared, Bool.or_false] at mark
          have absent := gone session old before mark.symm
          cases kept.symm.trans absent
        · have same := handle_unique nodup own (ids_of_record before)
          subst same
          have already : old.destroyed = true := by simpa [SessionCall.destroys] using mark.symm
          have saves : (store.records[other]?).any Record.destroyed = true := by
            rw [before]
            exact already
          exact absurd saves living
        · have mine := List.mem_of_getElem? (ids_of_record before)
          rw [new] at mine
          exact absurd mine (fresh notFound)
    · rw [alive] at destroyed
      cases destroyed

/-- Over every run in which generated ids never repeat: destroyed sessions stay destroyed exactly when no
    `setValue` of the run goes through the handle of one. -/
theorem destroyed_stays_iff (calls : List SessionCall) (store : Store) (run : storeCalls.run {} calls = some store)
    (fresh : storeCalls.Everywhere FreshId {} calls) :
    storeCalls.Always DestroyedStays {} calls ↔
      storeCalls.Everywhere (fun store call => ¬ SavesDestroyed store call) {} calls := by
  apply @System.always_iff_everywhere_allowed _ _ storeCalls (fun store => Tracks store ∧ store.ids.Nodup)
    DestroyedStays FreshId _ ?_ ?_ {} store calls ⟨tracks_empty, List.nodup_nil⟩ nofun run fresh
  · intro store call next step inv fresh
    have does := does_of_step inv.1 step
    exact ⟨does.tracks inv.1, does.nodup fresh inv.2⟩
  · intro store call next step inv fresh stays
    have does := does_of_step inv.1 step
    rw [destroyedStays_iff (does.tracks inv.1)]
    exact gone_step does inv.2 fresh ((destroyedStays_iff inv.1).mp stays)

/-- Two requests come with one cookie: a login gets the session, a logout clears and destroys it, and the login
    goes on with the handle it has. -/
def lateLogin : List SessionCall :=
  let sessionId := generateSessionId (draw 1)
  [.getSession (.all 0) (draw 1) {} {}, .getSession (.all 1) (draw 2) (withCookie sessionId) {},
    .getSession (.all 1) (draw 2) (withCookie sessionId) {}, .clear 0, .destroySession sessionId,
    .setValue 0 (bytes "userId") (bytes "7")]

theorem destroyed_session_returns :
    ¬ ∀ (calls : List SessionCall) (store : Store), storeCalls.run {} calls = some store →
      storeCalls.Everywhere FreshId {} calls → storeCalls.Always DestroyedStays {} calls := by
  intro claimed
  have fresh : storeCalls.Everywhere FreshId {} lateLogin := System.everywhere_of_meets (by decide)
  have stays := claimed lateLogin _ rfl fresh lateLogin [] _ (List.append_nil _).symm rfl
  have found := stays _ (List.mem_singleton.mpr rfl) rfl 2
  revert found
  decide

theorem orderly_logout_stays : storeCalls.Always DestroyedStays {} (lateLogin.take 5) :=
  (destroyed_stays_iff (lateLogin.take 5) _ rfl (System.everywhere_of_meets (by decide))).mpr
    (System.everywhere_of_meets (by decide))

end Http.Sessions
