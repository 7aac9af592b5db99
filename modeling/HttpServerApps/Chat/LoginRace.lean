import HttpServerApps.Chat.Login
import HttpServerApps.Common.Runs

namespace Chat.ChatLoginHandler

open Common Http

inductive LoginPhase where
  | started
  | foundFree
  | answered (statusCode : HttpStatusCode)
  deriving DecidableEq

inductive TableStep (Request : Type) where
  | test (id : Request)
  | write (id : Request)
  | erase (userId : Int32)

/-- The table with the login requests in progress, and for every user the number of answers 200
    since the last erase. -/
structure Logins (Request : Type) where
  onlineUsers : Dict Int32 Bool := .empty
  phase : Request → LoginPhase := fun _ => .started
  granted : Int32 → Nat := fun _ => 0

section

variable {Request : Type} [DecidableEq Request]

def Logins.setPhase (state : Logins Request) (id : Request) (phase : LoginPhase) : Logins Request :=
  { state with phase := fun other => if other = id then phase else state.phase other }

/-- The locked write, after which the request is answered 200. -/
def Logins.grant (state : Logins Request) (id : Request) (userId : Int32) : Logins Request :=
  { state with
    onlineUsers := markOnline state.onlineUsers userId
    granted := fun other => state.granted other + if other = userId then 1 else 0 }.setPhase id
      (.answered .k200Ok)

variable (user : Request → Int32)

/-- The test is not under the lock that the write and the erase take. -/
def tableStep (state : Logins Request) : TableStep Request → Option (Logins Request)
  | .test id =>
    if state.phase id = .started then
      some (state.setPhase id
        (if isFree state.onlineUsers (user id) then .foundFree else .answered .k403Forbidden))
    else none
  | .write id =>
    if state.phase id = .foundFree then some (state.grant id (user id)) else none
  | .erase userId =>
    some { state with
      onlineUsers := markOffline state.onlineUsers userId
      granted := fun other => if other = userId then 0 else state.granted other }

def logins : System (Logins Request) (TableStep Request) := ⟨tableStep user⟩

def AtMostOne (state : Logins Request) : Prop := ∀ userId, state.granted userId ≤ 1

def StillFree (state : Logins Request) : TableStep Request → Prop
  | .write id => isFree state.onlineUsers (user id) = true
  | _ => True

def Counted (state : Logins Request) : Prop :=
  ∀ userId, isFree state.onlineUsers userId = true ↔ state.granted userId = 0

variable {user}

theorem isFree_markOnline (onlineUsers : Dict Int32 Bool) (userId other : Int32) :
    isFree (markOnline onlineUsers userId) other = if other = userId then false else isFree onlineUsers other := by
  unfold isFree markOnline
  rw [Dict.find_insert]
  split <;> rfl

theorem isFree_markOffline (onlineUsers : Dict Int32 Bool) (userId other : Int32) :
    isFree (markOffline onlineUsers userId) other = if other = userId then true else isFree onlineUsers other := by
  unfold isFree markOffline
  rw [Dict.find_erase]
  split <;> rfl

theorem counted_step (state : Logins Request) (step : TableStep Request) (next : Logins Request)
    (taken : (logins user).step state step = some next) (holds : Counted state) : Counted next := by
  change tableStep user state step = some next at taken
  cases step with
  | test id =>
    simp only [tableStep] at taken
    split at taken
    · cases taken
      exact holds
    · cases taken
  | write id =>
    simp only [tableStep] at taken
    split at taken
    · cases taken
      intro userId
      simp only [Logins.grant, Logins.setPhase, isFree_markOnline]
      by_cases same : userId = user id
      · simp [same]
      · simp only [same, ↓reduceIte, Nat.add_zero]
        exact holds userId
    · cases taken
  | erase erased =>
    cases taken
    intro userId
    simp only [isFree_markOffline]
    by_cases same : userId = erased
    · simp [same]
    · simp only [same, ↓reduceIte]
      exact holds userId

theorem atMostOne_step (state : Logins Request) (step : TableStep Request) (next : Logins Request)
    (taken : (logins user).step state step = some next) (holds : Counted state)
    (good : AtMostOne state) : AtMostOne next ↔ StillFree user state step := by
  change tableStep user state step = some next at taken
  cases step with
  | test id =>
    simp only [tableStep] at taken
    split at taken
    · cases taken
      exact ⟨fun _ => trivial, fun _ => good⟩
    · cases taken
  | write id =>
    simp only [tableStep] at taken
    split at taken
    · cases taken
      simp only [AtMostOne, Logins.grant, Logins.setPhase, StillFree]
      rw [holds (user id)]
      apply Iff.intro
      · intro next
        have mine := next (user id)
        simp only [↓reduceIte] at mine
        omega
      · intro none_ userId
        have before := good userId
        by_cases same : userId = user id
        · subst same
          simp only [↓reduceIte]
          omega
        · simp only [same, ↓reduceIte]
          omega
    · cases taken
  | erase erased =>
    cases taken
    apply iff_of_true
    · intro userId
      have before := good userId
      dsimp only
      split
      · omega
      · exact before
    · trivial

/-- At most one login of a user is answered 200 between two erases in exactly the runs in which no
    other login of the user comes between a test and its write. -/
theorem one_login_iff (user : Request → Int32) (steps : List (TableStep Request))
    (final : Logins Request) (run : (logins user).run {} steps = some final) :
    (logins user).Always AtMostOne {} steps ↔ (logins user).Everywhere (StillFree user) {} steps :=
  System.always_iff_everywhere counted_step atMostOne_step (fun _ => iff_of_true rfl rfl)
    (fun _ => Nat.zero_le 1) run

/-- A request that takes its steps without others between them does to the table, and answers,
    what the handler does. -/
theorem steps_alone (json : JsonLibrary) (env : Surroundings) (req : HttpRequest) (exchange : Exchange)
    {userId : Int32} {username : Bytes} (accepted : admitted json env req = some (userId, username))
    (state : Logins Request) (id : Request) (mine : user id = userId)
    (table : state.onlineUsers = exchange.server.onlineUsers) (started : state.phase id = .started) :
    ∃ steps final, (logins user).run state steps = some final ∧
      final.onlineUsers = ((handle json env req).run exchange).1.server.onlineUsers ∧
      final.phase id = .answered ((handle json env req).run exchange).1.resp.statusCode := by
  obtain ⟨resp, run, status⟩ := handle_admitted exchange accepted
  rw [run, status]
  unfold welcomed
  subst mine
  cases free : isFree exchange.server.onlineUsers (user id) with
  | true =>
    have tested : (logins user).step state (.test id) = some (state.setPhase id .foundFree) := by
      simp only [logins, tableStep, started, table, free, ↓reduceIte]
    have written : (logins user).step (state.setPhase id .foundFree) (.write id) =
        some ((state.setPhase id .foundFree).grant id (user id)) :=
      if_pos (by simp [Logins.setPhase])
    refine ⟨[.test id, .write id], (state.setPhase id .foundFree).grant id (user id), ?_, ?_, ?_⟩
    · exact (System.run_cons tested _).trans (System.run_cons written [])
    · simp [Logins.grant, Logins.setPhase, table]
    · simp [Logins.grant, Logins.setPhase]
  | false =>
    have tested : (logins user).step state (.test id) =
        some (state.setPhase id (.answered .k403Forbidden)) := by
      simp only [logins, tableStep, started, table, free, ↓reduceIte, Bool.false_eq_true]
    refine ⟨[.test id], state.setPhase id (.answered .k403Forbidden), ?_, ?_, ?_⟩
    · exact System.run_cons tested []
    · simp [Logins.setPhase, table]
    · simp [Logins.setPhase]

end

/-! Two requests for the user 7. -/

def overlapping : List (TableStep Bool) := [.test false, .test true, .write false, .write true]

def successive : List (TableStep Bool) := [.test false, .write false, .erase 7, .test true, .write true]

theorem overlapping_both_granted :
    ¬ ∀ (user : Bool → Int32) (steps : List (TableStep Bool)) (final : Logins Bool),
      (logins user).run {} steps = some final → (logins user).Always AtMostOne {} steps := by
  intro claimed
  have always := claimed (fun _ => 7) overlapping _ rfl
  have counts := always overlapping [] _ (List.append_nil _).symm rfl 7
  revert counts
  decide

theorem successive_one_each :
    ∃ final, (logins fun _ : Bool => 7).run {} successive = some final ∧
      ((logins fun _ => 7).Always AtMostOne {} successive ↔
        (logins fun _ => 7).Everywhere (StillFree fun _ => 7) {} successive) :=
  ⟨_, rfl, one_login_iff (fun _ => 7) successive _ rfl⟩

end Chat.ChatLoginHandler
