import HttpServerApps.Chat.Server

namespace Chat

open Common Http Sessions

structure Moment where
  server : ChatServer := {}
  now : Int

/-! Whose sessions are live. -/

def LoggedIn (object : Session) (userId : Int32) : Prop :=
  object.data.find (bytes "isLoggedIn") = some (bytes "true") ∧
    object.data.find (bytes "userId") = some (intText userId.toInt)

theorem LoggedIn.getValue {object : Session} {userId : Int32} (loggedIn : LoggedIn object userId) :
    object.getValue (bytes "userId") = intText userId.toInt := by
  unfold Session.getValue
  rw [loggedIn.2]
  rfl

def LiveAt (manager : SessionManager) (now : Int) (key : Bytes) (userId : Int32) : Prop :=
  ∃ object, manager.lookup key = some object ∧ object.isExpired now = false ∧ LoggedIn object userId

/-- `onlineUsers_` says which users have a live session. -/
def InStep (state : Moment) : Prop :=
  ∀ userId, state.server.onlineUsers.find userId = some true ↔
    ∃ key, LiveAt state.server.sessionManager state.now key userId

/-- What the handlers leave in the storage: a session is empty or logged in. -/
structure Orderly (state : Moment) : Prop where
  consistent : state.server.sessionManager.Consistent
  hour : ∀ key object, state.server.sessionManager.lookup key = some object → object.maxAge = 3600
  whole : ∀ key object, state.server.sessionManager.lookup key = some object →
    object.data = .empty ∨ ∃ userId, LoggedIn object userId

theorem LoggedIn.unique {object : Session} {first second : Int32} (left : LoggedIn object first)
    (right : LoggedIn object second) : first = second := by
  have same := Option.some.inj (left.2.symm.trans right.2)
  exact Int32.toInt_inj.mp (intText_injective same)

theorem LiveAt.unique {manager : SessionManager} {now : Int} {key : Bytes} {first second : Int32}
    (left : LiveAt manager now key first) (right : LiveAt manager now key second) : first = second := by
  obtain ⟨object, found, _, mine⟩ := left
  obtain ⟨other, again, _, yours⟩ := right
  have same := Option.some.inj (found.symm.trans again)
  subst same
  exact mine.unique yours

/-- A user who has a live session under the key has another one elsewhere. -/
def Elsewhere (state : Moment) (key : Bytes) (userId : Int32) : Prop :=
  LiveAt state.server.sessionManager state.now key userId →
    ∃ other, other ≠ key ∧ LiveAt state.server.sessionManager state.now other userId

def OnlySession (state : Moment) (key : Bytes) (userId : Int32) : Prop :=
  ∀ other, other ≠ key → ¬ LiveAt state.server.sessionManager state.now other userId

/-! What a request does to the storage: it puts one session under one key. -/

/-- The entry of the storage under the key: a session of the owner, or one without data. -/
structure Entry (manager : SessionManager) (now : Int) (key : Bytes) (owner : Option Int32) : Prop where
  hour : ∀ object, manager.lookup key = some object → object.maxAge = 3600
  bare : owner = none → ∀ object, manager.lookup key = some object → object.data = .empty
  live : ∀ userId, owner = some userId → LiveAt manager now key userId

def Apart (before after : SessionManager) (now : Int) (key : Bytes) : Prop :=
  ∀ other, other ≠ key → after.lookup other = before.lookup other ∨
    after.lookup other = none ∧ ∃ old, before.lookup other = some old ∧ old.isExpired now = true

theorem Apart.found {before after : SessionManager} {now : Int} {key other : Bytes}
    (apart : Apart before after now key) (different : other ≠ key) {object : Session}
    (found : after.lookup other = some object) : before.lookup other = some object := by
  rcases apart other different with same | ⟨gone, _⟩
  · exact same.symm.trans found
  · rw [gone] at found
    cases found

theorem Apart.live {before after : SessionManager} {now : Int} {key other : Bytes}
    (apart : Apart before after now key) (different : other ≠ key) (userId : Int32) :
    LiveAt after now other userId ↔ LiveAt before now other userId := by
  apply Iff.intro
  · intro given
    obtain ⟨object, found, live⟩ := given
    exact ⟨object, apart.found different found, live⟩
  · intro given
    obtain ⟨object, found, fresh, mine⟩ := given
    rcases apart other different with same | ⟨_, old, again, expired⟩
    · exact ⟨object, same.trans found, fresh, mine⟩
    · rw [found] at again
      cases again
      rw [fresh] at expired
      cases expired

theorem Entry.iff {manager : SessionManager} {now : Int} {key : Bytes} {owner : Option Int32}
    (entry : Entry manager now key owner) (userId : Int32) :
    LiveAt manager now key userId ↔ owner = some userId := by
  apply Iff.intro
  · intro live
    cases owner with
    | none =>
      obtain ⟨object, found, _, mine⟩ := live
      have empty := mine.1
      rw [entry.bare rfl object found] at empty
      cases empty
    | some other => rw [(entry.live other rfl).unique live]
  · exact entry.live userId

theorem live_after {before after : SessionManager} {now : Int} {key : Bytes} {owner : Option Int32}
    (apart : Apart before after now key) (entry : Entry after now key owner) (userId : Int32) :
    (∃ other, LiveAt after now other userId) ↔
      owner = some userId ∨ ∃ other, other ≠ key ∧ LiveAt before now other userId := by
  apply Iff.intro
  · intro given
    obtain ⟨other, live⟩ := given
    by_cases same : other = key
    · subst same
      exact Or.inl ((entry.iff userId).mp live)
    · exact Or.inr ⟨other, same, (apart.live same userId).mp live⟩
  · intro given
    rcases given with mine | ⟨other, different, live⟩
    · exact ⟨key, entry.live userId mine⟩
    · exact ⟨other, (apart.live different userId).mpr live⟩

theorem Orderly.replace {state : Moment} (orderly : Orderly state) {after : SessionManager}
    {onlineUsers : Dict Int32 Bool} {key : Bytes} {owner : Option Int32} (consistent : after.Consistent)
    (apart : Apart state.server.sessionManager after state.now key)
    (entry : Entry after state.now key owner) :
    Orderly { state with server := ⟨after, onlineUsers⟩ } := by
  refine ⟨consistent, ?_, ?_⟩
  · intro other object found
    by_cases same : other = key
    · subst same
      exact entry.hour object found
    · exact orderly.hour other object (apart.found same found)
  · intro other object found
    by_cases same : other = key
    · subst same
      cases owner with
      | none => exact Or.inl (entry.bare rfl object found)
      | some userId =>
        obtain ⟨held, again, _, mine⟩ := entry.live userId rfl
        rw [found] at again
        cases again
        exact Or.inr ⟨userId, mine⟩
    · exact orderly.whole other object (apart.found same found)

/-- For a user the request does not log in or out, the table stays right if a session is left. -/
theorem elsewhere_iff {state : Moment} (good : InStep state) (key : Bytes) (userId : Int32) :
    (state.server.onlineUsers.find userId = some true ↔
        ∃ other, other ≠ key ∧ LiveAt state.server.sessionManager state.now other userId) ↔
      Elsewhere state key userId := by
  rw [good userId]
  apply Iff.intro
  · intro same live
    exact same.mp ⟨key, live⟩
  · intro elsewhere
    apply Iff.intro
    · intro given
      obtain ⟨other, live⟩ := given
      by_cases same : other = key
      · subst same
        exact elsewhere live
      · exact ⟨other, same, live⟩
    · intro given
      obtain ⟨other, _, live⟩ := given
      exact ⟨other, live⟩

section

variable {state : Moment} {after : SessionManager} {key : Bytes}

theorem inStep_unowned (good : InStep state)
    (apart : Apart state.server.sessionManager after state.now key)
    (entry : Entry after state.now key none) :
    InStep { state with server := ⟨after, state.server.onlineUsers⟩ } ↔
      ∀ userId, Elsewhere state key userId := by
  apply forall_congr'
  intro userId
  rw [← elsewhere_iff good]
  dsimp only
  rw [live_after apart entry]
  simp only [reduceCtorEq, false_or]

theorem inStep_owned (good : InStep state)
    (apart : Apart state.server.sessionManager after state.now key) {owner : Int32}
    (entry : Entry after state.now key (some owner)) {onlineUsers : Dict Int32 Bool}
    (table : ∀ userId, onlineUsers.find userId =
      if userId = owner then some true else state.server.onlineUsers.find userId) :
    InStep { state with server := ⟨after, onlineUsers⟩ } ↔
      ∀ other, other ≠ owner → Elsewhere state key other := by
  apply forall_congr'
  intro userId
  dsimp only
  rw [live_after apart entry, table userId]
  by_cases same : userId = owner
  · simp [same]
  · simp only [same, ↓reduceIte, Option.some.injEq, Ne.symm same, false_or, ne_eq, not_false_eq_true,
      forall_const]
    exact elsewhere_iff good key userId

theorem inStep_erased (good : InStep state)
    (apart : Apart state.server.sessionManager after state.now key) (entry : Entry after state.now key none)
    {leaver : Int32} (mine : LiveAt state.server.sessionManager state.now key leaver) :
    InStep { state with server := ⟨after, markOffline state.server.onlineUsers leaver⟩ } ↔
      OnlySession state key leaver := by
  have others : ∀ userId, userId ≠ leaver → Elsewhere state key userId :=
    fun userId different live => absurd (live.unique mine) different
  apply Iff.intro
  · intro next other different live
    have offline := (next leaver).mpr ((live_after apart entry leaver).mpr (Or.inr ⟨other, different, live⟩))
    unfold markOffline at offline
    rw [Dict.find_erase_self] at offline
    cases offline
  · intro only userId
    dsimp only
    rw [live_after apart entry]
    unfold markOffline
    by_cases same : userId = leaver
    · subst same
      rw [Dict.find_erase_self]
      apply Iff.intro
      · exact nofun
      · intro given
        rcases given with owned | ⟨other, different, live⟩
        · cases owned
        · exact absurd live (only other different)
    · rw [Dict.find_erase_of_ne _ _ _ same]
      simp only [reduceCtorEq, false_or]
      exact (elsewhere_iff good key userId).mpr (others userId same)

end

end Chat
