import HttpServerApps.Chat.Authentication

namespace Chat

open Common Http Sessions

variable {json : JsonLibrary}

/-- A login that was given the session was admitted for this user id and under this name. -/
def Store.Pair (json : JsonLibrary) (store : Store) (session : Handle) (userId username : Bytes) : Prop :=
  ∃ env req id, store.Gave (.login env req) session ∧
    ChatLoginHandler.admitted json env req = some (id, username) ∧ userId = intText id.toInt

/-- Where `isLoggedIn` reads `true`, the two other fields are a pair. -/
def Identified (pair : Bytes → Bytes → Prop) (data : Dict Bytes Bytes) : Prop :=
  data.find (bytes "isLoggedIn") = some (bytes "true") →
    ∃ userId username, data.find (bytes "userId") = some userId ∧ data.find (bytes "username") = some username ∧
      pair userId username

def OneIdentity (json : JsonLibrary) (store : Store) : Prop :=
  ∀ session, Identified (store.Pair json session) (store.manager.data session)

/-- A user id or a name may be written where the session is not logged in or has the other half of the pair, and
    `isLoggedIn` where both halves are there. -/
structure WriteOk (pair : Bytes → Bytes → Prop) (data : Dict Bytes Bytes) (key value : Bytes) : Prop where
  userId : key = bytes "userId" → data.find (bytes "isLoggedIn") = some (bytes "true") →
    ∃ username, data.find (bytes "username") = some username ∧ pair value username
  username : key = bytes "username" → data.find (bytes "isLoggedIn") = some (bytes "true") →
    ∃ userId, data.find (bytes "userId") = some userId ∧ pair userId value
  isLoggedIn : key = bytes "isLoggedIn" → value = bytes "true" →
    ∃ userId username, data.find (bytes "userId") = some userId ∧ data.find (bytes "username") = some username ∧
      pair userId username

/-- Every `setValue` of a login meets the session so. -/
def WritesOk (json : JsonLibrary) (store : Store) : StoreStep → Prop
  | .proceed id => ∀ request session key value todo,
    store.requests[id]? = some (request, .given session (.setData key value :: todo)) →
      WriteOk (store.Pair json session) (store.manager.data session) key value
  | .arrive _ | .sweep _ => True

/-! One write. -/

theorem identified_insert_iff {pair : Bytes → Bytes → Prop} {data : Dict Bytes Bytes} (good : Identified pair data)
    (key value : Bytes) : Identified pair (data.insert key value) ↔ WriteOk pair data key value := by
  have idName : bytes "userId" ≠ bytes "username" := by decide
  have idFlag : bytes "userId" ≠ bytes "isLoggedIn" := by decide
  have nameFlag : bytes "username" ≠ bytes "isLoggedIn" := by decide
  unfold Identified
  by_cases isId : key = bytes "userId"
  · subst isId
    rw [Dict.find_insert_of_ne _ _ _ _ idFlag.symm, Dict.find_insert_self, Dict.find_insert_of_ne _ _ _ _ idName.symm]
    apply Iff.intro
    · intro after
      refine ⟨fun _ flag => ?_, fun same => absurd same idName, fun same => absurd same idFlag⟩
      rcases after flag with ⟨userId, username, found, named, paired⟩
      cases found
      exact ⟨username, named, paired⟩
    · intro ok flag
      rcases ok.userId rfl flag with ⟨username, named, paired⟩
      exact ⟨value, username, rfl, named, paired⟩
  · by_cases isName : key = bytes "username"
    · subst isName
      rw [Dict.find_insert_of_ne _ _ _ _ nameFlag.symm, Dict.find_insert_self, Dict.find_insert_of_ne _ _ _ _ idName]
      apply Iff.intro
      · intro after
        refine ⟨fun same => absurd same isId, fun _ flag => ?_, fun same => absurd same nameFlag⟩
        rcases after flag with ⟨userId, username, found, named, paired⟩
        cases named
        exact ⟨userId, found, paired⟩
      · intro ok flag
        rcases ok.username rfl flag with ⟨userId, found, paired⟩
        exact ⟨userId, value, found, rfl, paired⟩
    · rw [Dict.find_insert_of_ne _ _ _ _ (Ne.symm isId), Dict.find_insert_of_ne _ _ _ _ (Ne.symm isName)]
      by_cases isFlag : key = bytes "isLoggedIn"
      · subst isFlag
        rw [Dict.find_insert_self]
        apply Iff.intro
        · exact fun after =>
            ⟨fun same => absurd same isId, fun same => absurd same isName, fun _ same => after (by rw [same])⟩
        · exact fun ok same => ok.isLoggedIn rfl (Option.some.inj same)
      · rw [Dict.find_insert_of_ne _ _ _ _ (Ne.symm isFlag)]
        apply iff_of_true good
        exact ⟨fun same => absurd same isId, fun same => absurd same isName, fun same => absurd same isFlag⟩

theorem Identified.mono {weak strong : Bytes → Bytes → Prop} {data : Dict Bytes Bytes} (good : Identified weak data)
    (more : ∀ userId username, weak userId username → strong userId username) : Identified strong data := by
  intro flag
  rcases good flag with ⟨userId, username, found, named, paired⟩
  exact ⟨userId, username, found, named, more userId username paired⟩

theorem identified_empty (pair : Bytes → Bytes → Prop) : Identified pair .empty := nofun

/-! A session that a request holds exists. -/

def Stage.handle : Stage → Option Handle
  | .arrived => none
  | .loaded found => found
  | .entering session _ => some session
  | .given session _ => some session

def Allocated (manager : SessionManager) : Prop :=
  ∀ key session, manager.sessions.find key = some session → session < manager.heap.length

structure Attached (store : Store) : Prop where
  held : ∀ request stage session, (request, stage) ∈ store.requests → stage.handle = some session →
    session < store.manager.heap.length
  stored : Allocated store.manager

theorem allocated_onObject {manager : SessionManager} (stored : Allocated manager) (session : Handle)
    (change : Session → Session) : Allocated (manager.onObject session change) ∧
      (manager.onObject session change).heap.length = manager.heap.length := by
  have length : (manager.onObject session change).heap.length = manager.heap.length := List.length_modify ..
  apply And.intro _ length
  intro key other found
  rw [length]
  exact stored key other found

theorem allocated_save {manager : SessionManager} (stored : Allocated manager) {session : Handle}
    (there : session < manager.heap.length) : Allocated (manager.save session) ∧
      (manager.save session).heap.length = manager.heap.length := by
  unfold SessionManager.save
  split
  · apply And.intro _ rfl
    intro key other found
    rw [Dict.find_insert] at found
    split at found
    · cases found
      exact there
    · exact stored key other found
  · exact ⟨stored, rfl⟩

theorem allocated_erase {manager : SessionManager} (stored : Allocated manager) (sessionId : Bytes) :
    Allocated { manager with sessions := manager.sessions.erase sessionId } := by
  intro key other found
  rw [Dict.find_erase] at found
  split at found
  · cases found
  · exact stored key other found

theorem apply_stored {manager next : SessionManager} {session : Handle} {call : StoreCall}
    (step : call.apply manager session = some next) (stored : Allocated manager)
    (there : session < manager.heap.length) : Allocated next ∧ next.heap.length = manager.heap.length := by
  cases StoreCall.applied step with
  | kept => exact ⟨stored, rfl⟩
  | touched => exact allocated_onObject stored session _
  | saved => exact allocated_save stored there
  | wrote => exact allocated_onObject stored session _
  | cleared => exact allocated_onObject stored session _
  | erased sessionId => exact ⟨allocated_erase stored sessionId, rfl⟩

theorem load_allocated {manager : SessionManager} (stored : Allocated manager) (sessionId : Bytes) (now : Int) :
    Allocated (manager.load sessionId now).1 ∧
      ∀ session, (manager.load sessionId now).2 = some session → session < manager.heap.length := by
  unfold SessionManager.load
  cases found : manager.sessions.find sessionId with
  | none =>
    apply And.intro stored
    intro other same
    cases same
  | some session =>
    dsimp only
    split
    · apply And.intro (allocated_erase stored sessionId)
      intro other same
      cases same
    · apply And.intro stored
      intro other same
      cases same
      exact stored sessionId session found

theorem allocated_holding {manager next : SessionManager} (stored : Allocated next)
    (length : next.heap.length = manager.heap.length) {session : Handle} (bound : session < manager.heap.length) :
    Allocated next ∧ manager.heap.length ≤ next.heap.length ∧
      ∀ other, some session = some other → other < next.heap.length := by
  refine ⟨stored, Nat.le_of_eq length.symm, ?_⟩
  intro other same
  cases same
  rw [length]
  exact bound

theorem proceed_stored {request : ServerRequest} {manager next : SessionManager} {stage later : Stage}
    (step : proceed json request manager stage = some (next, later)) (stored : Allocated manager)
    (there : ∀ session, stage.handle = some session → session < manager.heap.length) :
    Allocated next ∧ manager.heap.length ≤ next.heap.length ∧
      ∀ session, later.handle = some session → session < next.heap.length := by
  cases stage with
  | arrived =>
    simp only [proceed] at step
    split at step
    · cases step
    · cases step
      split
      · refine ⟨stored, Nat.le_refl _, ?_⟩
        intro other same
        cases same
      · rcases load_allocated stored (getSessionIdFromCookie request.req) request.clock.load with ⟨kept, bound⟩
        rw [SessionManager.heap_load]
        exact ⟨kept, Nat.le_refl _, bound⟩
  | loaded found =>
    simp only [proceed] at step
    split at step
    · rename_i session live
      cases step
      rcases Option.filter_eq_some_iff.mp live with ⟨given, _⟩
      exact allocated_holding stored rfl (there session given)
    · cases step
      have grown : manager.heap.length <
          (manager.heap ++ [Session.create (generateSessionId request.draws) request.clock.create]).length := by
        rw [List.length_append]
        exact Nat.lt_succ_self _
      refine ⟨?_, Nat.le_of_lt grown, ?_⟩
      · exact fun key session found => Nat.lt_trans (stored key session found) grown
      · intro other same
        cases same
        exact grown
  | entering session todo =>
    have bound := there session rfl
    cases todo with
    | nil =>
      cases step
      exact allocated_holding stored rfl bound
    | cons call todo =>
      rcases Option.map_eq_some_iff.mp step with ⟨_, applied, done⟩
      cases done
      rcases apply_stored applied stored bound with ⟨kept, length⟩
      exact allocated_holding kept length bound
  | given session todo =>
    have bound := there session rfl
    cases todo with
    | nil => cases step
    | cons call todo =>
      simp only [proceed] at step
      split at step
      · rename_i applied
        cases step
        rcases apply_stored applied stored bound with ⟨kept, length⟩
        exact allocated_holding kept length bound
      · cases step
        exact allocated_holding stored rfl bound

theorem attached_step (store : Store) (action : StoreStep) (next : Store)
    (step : (storeSteps json).step store action = some next) (holds : Attached store) : Attached next := by
  change storeStep json store action = some next at step
  cases action with
  | arrive request =>
    cases step
    refine ⟨?_, holds.stored⟩
    intro other stage session member handle
    rcases List.mem_append.mp member with old | new
    · exact holds.held other stage session old handle
    · cases List.mem_singleton.mp new
      cases handle
  | sweep now =>
    cases step
    refine ⟨holds.held, ?_⟩
    intro key session found
    unfold SessionManager.cleanExpiredSessions at found
    rw [Dict.find_filter] at found
    exact holds.stored key session (Option.filter_eq_some_iff.mp found).1
  | proceed id =>
    rcases Option.bind_eq_some_iff.mp step with ⟨⟨request, stage⟩, there, moved⟩
    rcases Option.map_eq_some_iff.mp moved with ⟨⟨manager, later⟩, proceeded, rfl⟩
    have mine := List.mem_of_getElem? there
    rcases proceed_stored proceeded holds.stored fun session => holds.held request stage session mine with
      ⟨stored, grown, bound⟩
    refine ⟨?_, stored⟩
    intro other otherStage session member handle
    rcases List.mem_or_eq_of_mem_set member with old | new
    · exact Nat.lt_of_lt_of_le (holds.held other otherStage session old handle) grown
    · cases new
      exact bound session handle

/-! What a step does to the identities. -/

theorem Store.Pair.step {store next : Store} {action : StoreStep} {session : Handle} {userId username : Bytes}
    (pair : store.Pair json session userId username) (step : (storeSteps json).step store action = some next) :
    next.Pair json session userId username := by
  rcases pair with ⟨env, req, id, gave, admitted, text⟩
  exact ⟨env, req, id, gave_step step gave, admitted, text⟩

theorem oneIdentity_step (store : Store) (action : StoreStep) (next : Store)
    (step : (storeSteps json).step store action = some next) (holds : Authentic json store ∧ Attached store)
    (good : OneIdentity json store) : OneIdentity json next ↔ WritesOk json store action := by
  have more : ∀ session userId username, store.Pair json session userId username →
      next.Pair json session userId username := fun _ _ _ pair => pair.step step
  change storeStep json store action = some next at step
  cases action with
  | arrive request =>
    cases step
    exact iff_of_true (fun session => (good session).mono (more session)) trivial
  | sweep now =>
    cases step
    exact iff_of_true (fun session => (good session).mono (more session)) trivial
  | proceed id =>
    rcases Option.bind_eq_some_iff.mp step with ⟨⟨request, stage⟩, there, moved⟩
    rcases Option.map_eq_some_iff.mp moved with ⟨⟨manager, later⟩, proceeded, rfl⟩
    have mine := List.mem_of_getElem? there
    rcases proceed_data proceeded (holds.1.tame request stage mine) with
      ⟨session, key, value, todo, rfl, rfl, rfl⟩ | ⟨silent, data⟩
    · have made : session < store.manager.heap.length := holds.2.held request _ session mine rfl
      -- The step gives no request another session, so the pairs are the same.
      have fewer : ∀ other userId username,
          Store.Pair json ⟨store.manager.onObject session (·.setData key value),
            store.requests.set id (request, .given session todo)⟩ other userId username →
          store.Pair json other userId username := by
        rintro other userId username ⟨env, req, user, ⟨rest, member⟩, admitted, text⟩
        refine ⟨env, req, user, ?_, admitted, text⟩
        rcases List.mem_or_eq_of_mem_set member with old | new
        · exact ⟨rest, old⟩
        · cases new
          exact ⟨_, mine⟩
      have wanted : WritesOk json store (.proceed id) ↔
          WriteOk (store.Pair json session) (store.manager.data session) key value := by
        apply Iff.intro
        · exact fun ok => ok request session key value todo there
        · intro ok other otherSession otherKey otherValue rest here
          cases there.symm.trans here
          exact ok
      rw [wanted, ← identified_insert_iff (good session)]
      apply Iff.intro
      · intro after
        have here := (after session).mono (fewer session)
        rw [SessionManager.data_setData made, if_pos rfl] at here
        exact here
      · intro inserted other
        show Identified _ ((store.manager.onObject session (·.setData key value)).data other)
        rw [SessionManager.data_setData made]
        by_cases same : session = other
        · subst same
          rw [if_pos rfl]
          exact inserted.mono (more session)
        · rw [if_neg same]
          exact (good other).mono (more other)
    · apply iff_of_true
      · intro session
        rcases data session with same | empty
        · show Identified _ (manager.data session)
          rw [same]
          exact (good session).mono (more session)
        · show Identified _ (manager.data session)
          rw [empty]
          exact identified_empty _
      · intro other session key value todo here
        cases there.symm.trans here
        exact absurd rfl (silent session key value todo)

/-- In a run the sessions have one identity throughout if and only if every write of a login meets its session so. -/
theorem one_identity_iff (json : JsonLibrary) {actions : List StoreStep} {store : Store}
    (run : (storeSteps json).run {} actions = some store) :
    (storeSteps json).Always (OneIdentity json) {} actions ↔
      (storeSteps json).Everywhere (WritesOk json) {} actions := by
  have noObject : ∀ session, ({} : SessionManager).data session = .empty := by
    intro session
    unfold SessionManager.data SessionManager.object
    rw [List.getElem?_nil]
    rfl
  have authentic : Authentic json {} := @authentic_run json [] {} rfl
  have attached : Attached {} := by
    apply Attached.mk
    · intro request stage session member
      cases member
    · intro key session found
      cases found
  have good : OneIdentity json {} := by
    intro session
    rw [noObject]
    exact identified_empty _
  have kept : ∀ state action next, (storeSteps json).step state action = some next →
      Authentic json state ∧ Attached state → Authentic json next ∧ Attached next :=
    fun state action next step holds =>
      ⟨authentic_step state action next step holds.1, attached_step state action next step holds.2⟩
  exact System.always_iff_everywhere kept oneIdentity_step ⟨authentic, attached⟩ good run

theorem ada_one_identity : ∃ store, (storeSteps ChatLoginHandler.adaJson).run {} adaSteps = some store ∧
    ((storeSteps ChatLoginHandler.adaJson).Always (OneIdentity ChatLoginHandler.adaJson) {} adaSteps ↔
      (storeSteps ChatLoginHandler.adaJson).Everywhere (WritesOk ChatLoginHandler.adaJson) {} adaSteps) := by
  have ends : ((storeSteps ChatLoginHandler.adaJson).run {} adaSteps).isSome = true := by decide
  rcases Option.isSome_iff_exists.mp ends with ⟨store, run⟩
  exact ⟨store, run, one_identity_iff ChatLoginHandler.adaJson run⟩

/-! Bob logs in with the cookie of Ada's session. -/

theorem requests_of_run {Expected : ServerRequest → Prop} {actions : List StoreStep} {store : Store}
    (arrivals : ∀ request, .arrive request ∈ actions → Expected request)
    (run : (storeSteps json).run {} actions = some store) :
    ∀ request stage, (request, stage) ∈ store.requests → Expected request := by
  have expected : (storeSteps json).Everywhere (fun _ action => ∀ request, action = .arrive request → Expected request)
      {} actions := System.everywhere_of_mem fun action member _ request same => arrivals request (same ▸ member)
  have empty : ∀ request stage, (request, stage) ∈ ({} : Store).requests → Expected request := by
    intro request stage member
    cases member
  refine @System.always_of_everywhere _ _ _ (fun store => ∀ request stage, (request, stage) ∈ store.requests →
    Expected request) _ ?_ _ _ empty expected actions [] store (List.append_nil _).symm run
  intro state action next step holds arrives
  change storeStep json state action = some next at step
  cases action with
  | arrive request =>
    cases step
    intro other stage member
    rcases List.mem_append.mp member with old | new
    · exact holds other stage old
    · cases List.mem_singleton.mp new
      exact arrives request rfl
  | sweep now =>
    cases step
    exact holds
  | proceed id =>
    rcases Option.bind_eq_some_iff.mp step with ⟨⟨request, stage⟩, there, moved⟩
    rcases Option.map_eq_some_iff.mp moved with ⟨⟨manager, later⟩, _, rfl⟩
    intro other otherStage member
    rcases List.mem_or_eq_of_mem_set member with old | new
    · exact holds other otherStage old
    · cases new
      exact holds request stage (List.mem_of_getElem? there)

def bobBody : Bytes := bytes "\x7b\"username\": \"bob\", \"password\": \"secret\"\x7d"

def bothJson : JsonLibrary where
  Value := List (Bytes × Bytes)
  parse text :=
    if text = bobBody then .ok [(bytes "username", bytes "bob"), (bytes "password", bytes "secret")]
    else ChatLoginHandler.adaJson.parse text
  stringAt := ChatLoginHandler.adaJson.stringAt
  dump := ChatLoginHandler.adaJson.dump
  dump_ascii := ChatLoginHandler.adaJson.dump_ascii

/-- `ada` has the id 7 and `bob` the id 8. -/
def adaAndBob : ChatLoginHandler.Surroundings :=
  { ChatLoginHandler.adaOnly fun _ => 0 with
    selectUser := fun username =>
      .ok (if username = bytes "ada" then some (ChatLoginHandler.secretRecord, 7)
        else if username = bytes "bob" then some (ChatLoginHandler.secretRecord, 8) else none) }

def bobLogin : HttpRequest :=
  { ChatLoginHandler.adaLogin with
    headers := ChatLoginHandler.adaLogin.headers.insert (bytes "cookie")
      (bytes "sessionId=" ++ generateSessionId fun _ => 0)
    content := bobBody }

/-- Ada's login comes to its end, and Bob's has written the user id. -/
def mixedSteps : List StoreStep :=
  [.arrive (.login adaAndBob ChatLoginHandler.adaLogin), .arrive (.login adaAndBob bobLogin)] ++
    List.replicate 11 (.proceed 0) ++ List.replicate 7 (.proceed 1)

theorem mixed_identity : ¬ ∀ (json : JsonLibrary) (actions : List StoreStep) (store : Store),
    (storeSteps json).run {} actions = some store → (storeSteps json).Always (OneIdentity json) {} actions := by
  intro claimed
  have fields : (((storeSteps bothJson).run {} mixedSteps).map fun store =>
      ((store.manager.data 0).find (bytes "isLoggedIn"), (store.manager.data 0).find (bytes "userId"),
        (store.manager.data 0).find (bytes "username"))) =
      some (some (bytes "true"), some (intText (8 : Int32).toInt), some (bytes "ada")) := by decide
  rcases Option.map_eq_some_iff.mp fields with ⟨store, run, values⟩
  rcases Prod.mk.inj values with ⟨flag, values⟩
  rcases Prod.mk.inj values with ⟨eight, ada⟩
  have good := claimed bothJson mixedSteps store run mixedSteps [] store (List.append_nil _).symm run
  rcases good 0 flag with ⟨userId, username, found, named, env, req, id, ⟨todo, member⟩, admitted, text⟩
  cases eight.symm.trans found
  cases ada.symm.trans named
  have arrived := @requests_of_run bothJson (fun request => request = .login adaAndBob ChatLoginHandler.adaLogin ∨
    request = .login adaAndBob bobLogin) mixedSteps store (by simp [mixedSteps]) run _ _ member
  rcases arrived with first | second
  · cases first
    have answer : ChatLoginHandler.admitted bothJson adaAndBob ChatLoginHandler.adaLogin = some (7, bytes "ada") := by
      decide
    rw [answer] at admitted
    cases admitted
    revert text
    decide
  · cases second
    have answer : ChatLoginHandler.admitted bothJson adaAndBob bobLogin = some (8, bytes "bob") := by decide
    rw [answer] at admitted
    have names : bytes "bob" ≠ bytes "ada" := by decide
    exact names (congrArg Prod.snd (Option.some.inj admitted))

end Chat
