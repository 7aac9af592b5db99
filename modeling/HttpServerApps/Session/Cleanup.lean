import HttpServerApps.Session.Destroyed

namespace Http.Sessions

open Common

/-- The clock does not go back before, during and after the call. -/
def Passes (now : Int) : SessionCall → Int → Prop
  | .getSession clock _ _ _, later =>
    now ≤ clock.load ∧ clock.load ≤ clock.check ∧ clock.check ≤ clock.create ∧ clock.create ≤ clock.refresh ∧
      clock.refresh ≤ later
  | .cleanExpiredSessions clock, later => now ≤ later ∧ ∀ session, now ≤ clock session ∧ clock session ≤ later
  | _, later => now ≤ later

theorem Passes.le {now later : Int} {call : SessionCall} (passes : Passes now call later) : now ≤ later := by
  cases call with
  | getSession clock draws req resp =>
    rcases passes with ⟨first, second, third, fourth, fifth⟩
    omega
  | cleanExpiredSessions => exact passes.1
  | _ => exact passes

theorem passes_all {now moment : Int} (draws : Fin 32 → Fin 16) (req : HttpRequest) (resp : HttpResponse)
    (later : now ≤ moment) : Passes now (.getSession (.all moment) draws req resp) moment :=
  ⟨later, Int.le_refl _, Int.le_refl _, Int.le_refl _, Int.le_refl _⟩

def SessionCall.isCleanup : SessionCall → Bool
  | .cleanExpiredSessions _ => true
  | _ => false

/-! The sessions that a lookup can still find. -/

def inTime (records : List Record) (now : Int) (session : Handle) : Bool :=
  (records[session]?).any fun record => now ≤ record.expiry

def Store.live (store : Store) (now : Int) (key : Bytes) : Option Handle :=
  (store.manager.sessions.find key).filter (inTime store.records now)

theorem inTime_iff {records : List Record} {now : Int} {session : Handle} :
    inTime records now session = true ↔ ∃ record, records[session]? = some record ∧ now ≤ record.expiry := by
  unfold inTime
  rw [Option.any_eq_true]
  simp only [decide_eq_true_eq]

theorem filter_narrow {left right : Option Handle} {wide narrow : Handle → Bool}
    (within : ∀ session, left = some session ∨ right = some session → narrow session = true → wide session = true)
    (same : left.filter wide = right.filter wide) : left.filter narrow = right.filter narrow := by
  have through : ∀ side : Option Handle,
      (∀ session, side = some session → narrow session = true → wide session = true) →
      side.filter narrow = (side.filter wide).filter narrow := by
    intro side within
    cases side with
    | none => rfl
    | some session =>
      cases good : narrow session with
      | false =>
        simp only [Option.filter_some, good, Bool.false_eq_true, if_false]
        split
        · simp [Option.filter_some, good]
        · rfl
      | true => simp [Option.filter_some, good, within session rfl good]
  rw [through left fun session is => within session (Or.inl is), same,
    ← through right fun session is => within session (Or.inr is)]

/-- Two stores that differ in nothing but expired sessions. -/
structure Alike (now : Int) (store other : Store) : Prop where
  mine : Tracks store
  theirs : Tracks other
  records : store.records = other.records
  replies : store.replies = other.replies
  live : ∀ key, store.live now key = other.live now key

/-- What is stored and in time afterwards was in time before. -/
theorem Alike.narrow {now later : Int} {store other : Store} (alike : Alike now store other) {records : List Record}
    (older : ∀ session record, records[session]? = some record → session < store.records.length →
      later ≤ record.expiry → inTime store.records now session = true) (key : Bytes) :
    (store.manager.sessions.find key).filter (inTime records later) =
      (other.manager.sessions.find key).filter (inTime records later) := by
  have same := alike.live key
  unfold Store.live at same
  rw [← alike.records] at same
  apply filter_narrow ?_ same
  intro session stored good
  rcases inTime_iff.mp good with ⟨record, made, valid⟩
  have old : session < store.records.length := by
    rcases stored with stored | stored
    · rcases alike.mine.stored stored with ⟨_, there, _⟩
      exact (List.getElem?_eq_some_iff.mp there).1
    · rcases alike.theirs.stored stored with ⟨_, there, _⟩
      rw [alike.records]
      exact (List.getElem?_eq_some_iff.mp there).1
  exact older session record made old valid

/-- The same where a call has written to the data of a session. -/
theorem Alike.written {now later : Int} {store other : Store} (alike : Alike now store other) (passed : now ≤ later)
    {written : Handle} {change : Record → Record} (keeps : ∀ old, (change old).touched = old.touched) (key : Bytes) :
    (store.manager.sessions.find key).filter (inTime (store.records.modify written change) later) =
      (other.manager.sessions.find key).filter (inTime (store.records.modify written change) later) := by
  apply alike.narrow
  intro session record made _ valid
  rcases modify_some made with ⟨old, was, shape⟩
  have expiry : record.expiry = old.expiry := by
    unfold Record.expiry
    rw [shape]
    split
    · rw [keeps]
    · rfl
  exact inTime_iff.mpr ⟨old, was, Int.le_trans passed (expiry ▸ valid)⟩

theorem Alike.find {now : Int} {store other : Store} (alike : Alike now store other) {key : Bytes} {session : Handle}
    {record : Record} (stored : store.manager.sessions.find key = some session)
    (made : store.records[session]? = some record) (valid : now ≤ record.expiry) :
    other.manager.sessions.find key = some session := by
  have same := alike.live key
  have good : inTime store.records now session = true := inTime_iff.mpr ⟨record, made, valid⟩
  unfold Store.live at same
  rw [stored, Option.filter_some, if_pos good] at same
  exact (Option.filter_eq_some_iff.mp same.symm).1

theorem Alike.symm {now : Int} {store other : Store} (alike : Alike now store other) : Alike now other store :=
  ⟨alike.theirs, alike.mine, alike.records.symm, alike.replies.symm, fun key => (alike.live key).symm⟩

/-- A session found in one store is not lost in the other. -/
theorem Alike.not_lost {now : Int} {store other : Store} (alike : Alike now store other) {clock : Readings}
    {key : Bytes} {session : Handle} {record : Record} (stored : store.manager.sessions.find key = some session)
    (made : store.records[session]? = some record) (given : key ≠ []) (later : now ≤ clock.load)
    (atLoad : clock.load ≤ record.expiry) (atCheck : clock.check ≤ record.expiry) : ¬ Lost other clock key := by
  intro lost
  have there := alike.find stored made (Int.le_trans later atLoad)
  rcases lost with empty | expired
  · exact given empty
  · rw [alike.records] at made
    rcases expired session record there made with late | late
    · exact Int.not_lt.mpr atLoad late
    · exact Int.not_lt.mpr atCheck late

theorem live_erase (sessions : Dict Bytes Handle) (sessionId key : Bytes) (keep : Handle → Bool) :
    ((sessions.erase sessionId).find key).filter keep =
      if key = sessionId then none else (sessions.find key).filter keep := by
  rw [Dict.find_erase]
  split <;> rfl

/-- What a lookup has dropped was expired. -/
theorem live_dropped {store : Store} {clock : Readings} {cookie : Bytes} {sessions : Dict Bytes Handle} {later : Int}
    {records : List Record} (passed : clock.load ≤ later)
    (dropped : sessions = store.manager.sessions ∨ sessions = store.manager.sessions.erase cookie ∧
      ∃ session record, store.manager.sessions.find cookie = some session ∧ store.records[session]? = some record ∧
        record.expiry < clock.load)
    (older : ∀ (session : Handle) (record : Record), store.records[session]? = some record →
      records[session]? = some record) (key : Bytes) :
    (sessions.find key).filter (inTime records later) =
      (store.manager.sessions.find key).filter (inTime records later) := by
  rcases dropped with rfl | ⟨rfl, session, record, stored, made, expired⟩
  · rfl
  · rw [live_erase]
    split
    · rename_i same
      have late : inTime records later session = false := by
        apply Bool.eq_false_iff.mpr
        intro good
        rcases inTime_iff.mp good with ⟨found, there, valid⟩
        cases (older session record made).symm.trans there
        exact Int.not_lt.mpr (Int.le_trans passed valid) expired
      rw [same, stored, Option.filter_some, late]
      rfl
    · rfl

theorem find_insert_filter (sessions : Dict Bytes Handle) (sessionId key : Bytes) (session : Handle)
    (keep : Handle → Bool) :
    ((sessions.insert sessionId session).find key).filter keep =
      if key = sessionId then (some session).filter keep else (sessions.find key).filter keep := by
  rw [Dict.find_insert]
  split <;> rfl

/-- The same where a lookup has refreshed a session that both stores hold. -/
theorem Alike.touched {now later : Int} {store other : Store} (alike : Alike now store other) (passed : now ≤ later)
    {session : Handle} {record : Record} (made : store.records[session]? = some record) (valid : now ≤ record.expiry)
    (moment : Int) (key : Bytes) :
    (store.manager.sessions.find key).filter (inTime (store.records.modify session (·.touch moment)) later) =
      (other.manager.sessions.find key).filter (inTime (store.records.modify session (·.touch moment)) later) := by
  apply alike.narrow
  intro handle touched there _ still
  rcases modify_some there with ⟨old, was, shape⟩
  by_cases here : session = handle
  · subst here
    cases made.symm.trans was
    exact inTime_iff.mpr ⟨record, made, valid⟩
  · rw [if_neg here] at shape
    subst shape
    exact inTime_iff.mpr ⟨_, was, Int.le_trans passed still⟩

/-- The same where both have dropped what they found expired and hold one new session. -/
theorem Alike.created {now later : Int} {store other : Store} (alike : Alike now store other) (passed : now ≤ later)
    {clock : Readings} {cookie sessionId : Bytes} {sessions remaining : Dict Bytes Handle} (soon : clock.load ≤ later)
    (dropped : sessions = store.manager.sessions ∨ sessions = store.manager.sessions.erase cookie ∧
      ∃ session record, store.manager.sessions.find cookie = some session ∧ store.records[session]? = some record ∧
        record.expiry < clock.load)
    (droppedToo : remaining = other.manager.sessions ∨ remaining = other.manager.sessions.erase cookie ∧
      ∃ session record, other.manager.sessions.find cookie = some session ∧ other.records[session]? = some record ∧
        record.expiry < clock.load) (new : Record) (key : Bytes) :
    ((sessions.insert sessionId store.records.length).find key).filter (inTime (store.records ++ [new]) later) =
      ((remaining.insert sessionId store.records.length).find key).filter
        (inTime (store.records ++ [new]) later) := by
  have older : ∀ (session : Handle) (record : Record), store.records[session]? = some record →
      (store.records ++ [new])[session]? = some record := by
    intro session record made
    rw [List.getElem?_append_left (List.getElem?_eq_some_iff.mp made).1]
    exact made
  rw [find_insert_filter, find_insert_filter]
  split
  · rfl
  · rw [live_dropped soon dropped older, live_dropped soon droppedToo (alike.records ▸ older)]
    apply alike.narrow
    intro session record there old valid
    rcases append_some there with made | ⟨last, _⟩
    · exact inTime_iff.mpr ⟨record, made, Int.le_trans passed valid⟩
    · exact absurd old (last ▸ Nat.lt_irrefl _)

/-- The same where a session is destroyed. -/
theorem Alike.destroyed {now later : Int} {store other : Store} (alike : Alike now store other) (passed : now ≤ later)
    {change : Record → Record} (keeps : ∀ old, (change old).expiry = old.expiry) (sessionId key : Bytes) :
    ((store.manager.sessions.erase sessionId).find key).filter (inTime (store.records.map change) later) =
      ((other.manager.sessions.erase sessionId).find key).filter (inTime (store.records.map change) later) := by
  rw [live_erase, live_erase]
  split
  · rfl
  · apply alike.narrow
    intro session record there _ valid
    rw [List.getElem?_map] at there
    rcases Option.map_eq_some_iff.mp there with ⟨old, was, rfl⟩
    rw [keeps] at valid
    exact inTime_iff.mpr ⟨old, was, Int.le_trans passed valid⟩

theorem alike_of {later : Int} {mine theirs : Dict Bytes Handle} {records recordsToo : List Record}
    {replies repliesToo : List Reply} (tracks : Tracks (.of mine records replies))
    (others : Tracks (.of theirs recordsToo repliesToo)) (sameRecords : records = recordsToo)
    (sameReplies : replies = repliesToo)
    (live : ∀ key, (mine.find key).filter (inTime records later) = (theirs.find key).filter (inTime records later)) :
    Alike later (.of mine records replies) (.of theirs recordsToo repliesToo) := by
  subst sameRecords sameReplies
  exact ⟨tracks, others, rfl, rfl, live⟩

/-- One call on both stores. -/
theorem alike_step {now later : Int} {store other next after : Store} {call : SessionCall}
    (alike : Alike now store other) (passes : Passes now call later) (mine : Does store call next)
    (theirs : Does other call after) (plain : call.isCleanup = false) : Alike later next after := by
  have tracks := mine.tracks alike.mine
  have others := theirs.tracks alike.theirs
  have passed := passes.le
  rcases alike with ⟨trackStore, trackOther, records, replies, live⟩
  have alike : Alike now store other := ⟨trackStore, trackOther, records, replies, live⟩
  cases mine with
  | @gave clock draws req resp session record stored made given atLoad atCheck =>
    cases theirs with
    | @gave _ _ _ _ again found there known _ _ _ =>
      have same := alike.find stored made (Int.le_trans passes.1 atLoad)
      cases there.symm.trans same
      rw [← records] at known
      cases made.symm.trans known
      apply alike_of tracks others (by rw [records]) (by rw [replies])
      exact alike.touched passed made (Int.le_trans passes.1 atLoad) clock.refresh
    | created lost => exact absurd lost (alike.not_lost stored made given passes.1 atLoad atCheck)
  | @created clock draws req resp sessions lost notFound dropped =>
    cases theirs with
    | gave stored made given atLoad atCheck =>
      exact absurd lost (alike.symm.not_lost stored made given passes.1 atLoad atCheck)
    | @created _ _ _ _ remaining _ _ droppedToo =>
      apply alike_of tracks others (by rw [records]) (by rw [records, replies])
      have soon : clock.load ≤ later := by
        rcases passes with ⟨_, second, third, fourth, fifth⟩
        omega
      rw [← records]
      exact alike.created passed soon dropped droppedToo _
  | @wrote session field value record made =>
    cases theirs with
    | @wrote _ _ _ found known =>
      rw [← records] at known
      cases made.symm.trans known
      apply alike_of tracks others (by rw [records]) replies
      intro key
      rw [find_insert_filter, find_insert_filter]
      split
      · rfl
      · apply alike.written passed
        exact fun _ => rfl
  | removed =>
    cases theirs with
    | removed =>
      apply alike_of tracks others (by rw [records]) replies
      intro key
      apply alike.written passed
      exact fun _ => rfl
  | cleared =>
    cases theirs with
    | cleared =>
      apply alike_of tracks others (by rw [records]) replies
      intro key
      apply alike.written passed
      exact fun _ => rfl
  | @destroyed sessionId =>
    cases theirs with
    | destroyed =>
      apply alike_of tracks others (by rw [records]) replies
      exact alike.destroyed passed (fun old => old.expiry_destroy _) sessionId
  | cleaned => cases plain

/-- A cleanup of one of the stores. -/
theorem alike_cleaned {now later : Int} {store other after : Store} {clock : Handle → Int}
    (alike : Alike now store other) (passes : Passes now (.cleanExpiredSessions clock) later)
    (cleaned : Does other (.cleanExpiredSessions clock) after) : Alike later store after := by
  have tracks := cleaned.tracks alike.theirs
  cases cleaned with
  | cleaned =>
    refine ⟨alike.mine, tracks, alike.records, alike.replies, ?_⟩
    intro key
    have narrow : (store.manager.sessions.find key).filter (inTime store.records later) =
        (other.manager.sessions.find key).filter (inTime store.records later) := by
      apply alike.narrow
      intro session record made _ valid
      exact inTime_iff.mpr ⟨record, made, Int.le_trans passes.1 valid⟩
    unfold Store.live
    simp only [Store.of, Dict.find_filter, ← alike.records]
    rw [narrow]
    cases stored : other.manager.sessions.find key with
    | none => rfl
    | some session =>
      cases good : inTime store.records later session with
      | false =>
        simp only [Option.filter_some, good, Bool.false_eq_true, if_false]
        split
        · simp [Option.filter_some, good]
        · rfl
      | true =>
        -- What is in time later was in time when the sweep looked at it.
        rcases inTime_iff.mp good with ⟨record, made, valid⟩
        rw [alike.records] at made
        have kept : other.manager.expired (clock session) session = false := by
          rw [alike.theirs.expired made]
          exact decide_eq_false (Int.not_lt.mpr (Int.le_trans (passes.2 session).2 valid))
        simp [Option.filter_some, good, kept]

theorem usable_length {manager other : SessionManager} (same : manager.heap.length = other.heap.length)
    (call : SessionCall) : manager.usable call = other.usable call := by
  cases call <;> simp only [SessionManager.usable, same]

theorem Alike.usable {now : Int} {store other : Store} (alike : Alike now store other) (call : SessionCall) :
    store.manager.usable call = other.manager.usable call := by
  apply usable_length
  rw [alike.mine.length, alike.theirs.length, alike.records]

theorem storeStep_usable {store : Store} {call : SessionCall} (usable : store.manager.usable call = true) :
    ∃ next, storeCalls.step store call = some next := ⟨_, if_pos usable⟩

theorem storeStep_unusable {store : Store} {call : SessionCall} (unusable : store.manager.usable call = false) :
    storeCalls.step store call = none := if_neg (Bool.eq_false_iff.mp unusable)

def dropCleanups (calls : List SessionCall) : List SessionCall := calls.filter fun call => !call.isCleanup

theorem alike_run {now final : Int} {calls : List SessionCall} (clocked : System.Clocked Passes now calls final)
    {store other : Store} (alike : Alike now store other) :
    (storeCalls.run store (dropCleanups calls)).map Store.replies = (storeCalls.run other calls).map Store.replies := by
  induction clocked generalizing store other with
  | nil => exact congrArg some alike.replies
  | @cons now later final call calls passes rest ih =>
    cases kind : call.isCleanup with
    | true =>
      have dropped : dropCleanups (call :: calls) = dropCleanups calls := List.filter_cons_of_neg (by simp [kind])
      cases call with
      | cleanExpiredSessions clock =>
        have sweeps : ∃ after, storeCalls.step other (.cleanExpiredSessions clock) = some after := ⟨_, rfl⟩
        rcases sweeps with ⟨after, step⟩
        rw [dropped, System.run_cons step]
        exact ih (alike_cleaned alike passes (does_of_step alike.theirs step))
      | _ => cases kind
    | false =>
      have stays : dropCleanups (call :: calls) = call :: dropCleanups calls := List.filter_cons_of_pos (by simp [kind])
      rw [stays]
      cases usable : store.manager.usable call with
      | true =>
        rcases storeStep_usable usable with ⟨next, step⟩
        rcases storeStep_usable ((alike.usable call).symm.trans usable) with ⟨after, stepToo⟩
        rw [System.run_cons step, System.run_cons stepToo]
        exact ih (alike_step alike passes (does_of_step alike.mine step) (does_of_step alike.theirs stepToo) kind)
      | false =>
        have fails := storeStep_unusable usable
        have failsToo := storeStep_unusable ((alike.usable call).symm.trans usable)
        simp only [System.run, fails, failsToo, Option.bind_none]

/-- With a clock that never goes back, the runs with and without the cleanups give the same replies. -/
theorem cleanup_invisible (start final : Int) (calls : List SessionCall)
    (clocked : System.Clocked Passes start calls final) :
    (storeCalls.run {} (dropCleanups calls)).map Store.replies = (storeCalls.run {} calls).map Store.replies :=
  alike_run clocked ⟨tracks_empty, tracks_empty, rfl, rfl, fun _ => rfl⟩

/-- A session that a cleanup has taken out is saved again through its handle, and its cookie comes back. -/
def savedAfterCleanup : List SessionCall :=
  [.getSession (.all 0) (draw 1) {} {}, .cleanExpiredSessions (fun _ => 3600 * 10 ^ 9 + 1),
    .setValue 0 (bytes "userId") (bytes "7"),
    .getSession (.all (3600 * 10 ^ 9 + 1)) (draw 2) (withCookie (generateSessionId (draw 1))) {}]

theorem savedAfterCleanup_same :
    (storeCalls.run {} (dropCleanups savedAfterCleanup)).map Store.replies =
      (storeCalls.run {} savedAfterCleanup).map Store.replies := by
  apply cleanup_invisible 0 (3600 * 10 ^ 9 + 1)
  have later : (0 : Int) ≤ 3600 * 10 ^ 9 + 1 := by decide
  have first := passes_all (draw 1) {} {} (Int.le_refl 0)
  have last := passes_all (draw 2) (withCookie (generateSessionId (draw 1))) {} (Int.le_refl (3600 * 10 ^ 9 + 1))
  exact .cons first (.cons ⟨later, fun _ => ⟨later, Int.le_refl _⟩⟩ (.cons (Int.le_refl _) (.cons last (.nil _))))

end Http.Sessions
