import HttpServerApps.Http.HandleRequest

namespace Http.Middlewares

open Common

/-- One call of an `after` hook: which middleware's, on which response, and how it left it. -/
structure Invocation where
  middleware : Nat
  given : HttpResponse
  left : HttpResponse

section

variable {World : Type}

/-- The middleware at a place of the chain, with its `after` calls written down. -/
def Middleware.observed (middleware : Middleware World) (place : Nat) : Middleware (World × List Invocation) where
  before request := ⟨fun (world, log) =>
    let (entered, outcome) := (middleware.before request).run world
    ((entered, log), outcome)⟩
  after := ⟨fun ((world, log), given) =>
    let ((world, left), outcome) := middleware.after.run (world, given)
    (((world, log ++ [⟨place, given, left⟩]), left), outcome)⟩

def observedAll (chain : List (Middleware World × Nat)) : List (Middleware (World × List Invocation)) :=
  chain.map fun (middleware, place) => middleware.observed place

def unobserved {Value : Type} (call : Throwing (World × HttpResponse) Thrown Value) :
    Throwing ((World × List Invocation) × HttpResponse) Thrown Value := ⟨fun ((world, log), resp) =>
  let ((world, resp), outcome) := call.run (world, resp)
  (((world, log), resp), outcome)⟩

/-- Each hook gets the response that the one before it left, and the last leaves the one that is sent. -/
def Threaded : HttpResponse → List Invocation → HttpResponse → Prop
  | given, [], sent => given = sent
  | given, invocation :: rest, sent => invocation.given = given ∧ Threaded invocation.left rest sent

variable (middlewares : List (Middleware World)) (route : HttpRequest → Throwing (World × HttpResponse) Thrown Bool)
  (req : HttpRequest) (world : World) (resp : HttpResponse)

/-- What `handleRequest` leaves: the calls of `after` hooks and the response that is sent. -/
def invocations : List Invocation × HttpResponse :=
  let ((_, log), sent) := ((handleRequest (observedAll middlewares.zipIdx) (fun req => unobserved (route req)) req).run
    ((world, []), resp)).1
  (log, sent)

/-- Every `after` hook is called once on the response that is sent, in the reverse of the `before` order. -/
def HooksPaired : Prop :=
  (invocations middlewares route req world resp).1.map Invocation.middleware = (List.range middlewares.length).reverse ∧
    ∃ given, Threaded given (invocations middlewares route req world resp).1
      (invocations middlewares route req world resp).2

/-- None of these hooks throws when its turn comes. -/
def AfterReturn : List (Middleware World) → World × HttpResponse → Prop
  | [], _ => True
  | middleware :: rest, state => ∃ after, middleware.after.run state = (after, .ok ()) ∧ AfterReturn rest after

end

variable {World : Type}

def ExceptionsOnly (middlewares : List (Middleware World)) : Prop :=
  ∀ middleware ∈ middlewares, ∀ state after sent, middleware.after.run state ≠ (after, .error (.response sent))

theorem before_observed {middleware : Middleware World} {req : HttpRequest} {world entered : World}
    {outcome : Except Thrown HttpRequest} (ran : (middleware.before req).run world = (entered, outcome))
    (place : Nat) (log : List Invocation) :
    ((middleware.observed place).before req).run (world, log) = ((entered, log), outcome) := by
  change ((((middleware.before req).run world).1, log), ((middleware.before req).run world).2) = _
  rw [ran]

theorem after_observed {middleware : Middleware World} {world after : World} {given left : HttpResponse}
    {outcome : Except Thrown Unit} (ran : middleware.after.run (world, given) = ((after, left), outcome))
    (place : Nat) (log : List Invocation) :
    (middleware.observed place).after.run ((world, log), given) =
      (((after, log ++ [⟨place, given, left⟩]), left), outcome) := by
  let ran_ := middleware.after.run (world, given)
  change (((ran_.1.1, log ++ [⟨place, given, ran_.1.2⟩]), ran_.1.2), ran_.2) = _
  rw [show ran_ = _ from ran]

theorem processBefore_observed (chain : List (Middleware World × Nat)) (req : HttpRequest) (world : World)
    (log : List Invocation) {entered : World} {mutableReq : HttpRequest}
    (ran : (processBefore (chain.map Prod.fst) req).run world = (entered, .ok mutableReq)) :
    (processBefore (observedAll chain) req).run (world, log) = ((entered, log), .ok mutableReq) := by
  induction chain generalizing req world with
  | nil =>
    cases ran
    rfl
  | cons first rest ih =>
    change (first.1.before req >>= processBefore (rest.map Prod.fst)).run world = _ at ran
    change ((first.1.observed first.2).before req >>= processBefore (observedAll rest)).run (world, log) = _
    cases hook : (first.1.before req).run world with
    | mk after answer =>
      cases answer with
      | error thrown =>
        rw [Throwing.run_bind_error hook] at ran
        cases ran
      | ok changed =>
        rw [Throwing.run_bind_ok hook] at ran
        rw [Throwing.run_bind_ok (before_observed hook first.2 log)]
        exact ih changed after ran

theorem afterReturn_threw {first : Middleware World} {state reached : World × HttpResponse} {thrown : Thrown}
    (hook : first.after.run state = (reached, .error thrown)) (rest : List (Middleware World)) :
    AfterReturn (first :: rest).dropLast state ↔ rest = [] := by
  cases rest with
  | nil => exact ⟨fun _ => rfl, fun _ => trivial⟩
  | cons second later =>
    apply iff_of_false
    · intro returns
      rcases returns with ⟨after, returned, _⟩
      cases hook.symm.trans returned
    · intro same
      cases same

theorem afterReturn_returned {first : Middleware World} {state reached : World × HttpResponse}
    (hook : first.after.run state = (reached, .ok ())) (rest : List (Middleware World)) :
    AfterReturn (first :: rest).dropLast state ↔ AfterReturn rest.dropLast reached := by
  cases rest with
  | nil => exact ⟨fun _ => trivial, fun _ => trivial⟩
  | cons second later =>
    apply Iff.intro
    · intro returns
      rcases returns with ⟨after, returned, later⟩
      cases hook.symm.trans returned
      exact later
    · intro returns
      exact ⟨reached, hook, returns⟩

/-- The hooks run in order until one throws, which is logged with the others. -/
theorem afterHooks_observed (chain : List (Middleware World × Nat))
    (exceptions : ExceptionsOnly (chain.map Prod.fst)) (world : World) (log : List Invocation) (given : HttpResponse) :
    ∃ after left calls outcome,
      (afterHooks (observedAll chain)).run ((world, log), given) = (((after, log ++ calls), left), outcome) ∧
      (∀ sent, outcome ≠ .error (.response sent)) ∧ Threaded given calls left ∧
      (calls.map Invocation.middleware = chain.map Prod.snd ↔
        AfterReturn (chain.map Prod.fst).dropLast (world, given)) := by
  induction chain generalizing world log given with
  | nil =>
    refine ⟨world, given, [], .ok (), ?_, ?_, rfl, ?_⟩
    · rw [List.append_nil]
      rfl
    · intro sent same
      cases same
    · exact ⟨fun _ => trivial, fun _ => rfl⟩
  | cons first rest ih =>
    change ∃ after left calls outcome,
      ((first.1.observed first.2).after >>= fun _ => afterHooks (observedAll rest)).run ((world, log), given) = _ ∧ _
    cases hook : first.1.after.run (world, given) with
    | mk reached answer =>
      have logged := after_observed hook first.2 log
      cases answer with
      | error thrown =>
        refine ⟨reached.1, reached.2, [⟨first.2, given, reached.2⟩], .error thrown, Throwing.run_bind_error logged _,
          ?_, ⟨rfl, rfl⟩, ?_⟩
        · intro sent same
          cases same
          exact exceptions first.1 (List.mem_cons_self ..) _ _ _ hook
        · simp only [List.map_cons, afterReturn_threw hook, List.map_nil, List.cons_inj_right, List.map_eq_nil_iff]
          rw [eq_comm, List.map_eq_nil_iff]
      | ok _ =>
        have fewer : ExceptionsOnly (rest.map Prod.fst) :=
          fun middleware member => exceptions middleware (List.mem_cons_of_mem _ member)
        rcases ih fewer reached.1 (log ++ [⟨first.2, given, reached.2⟩]) reached.2 with
          ⟨after, left, calls, outcome, ran, noResponse, threaded, complete⟩
        refine ⟨after, left, ⟨first.2, given, reached.2⟩ :: calls, outcome, ?_, noResponse, ⟨rfl, threaded⟩, ?_⟩
        · rw [Throwing.run_bind_ok logged, ran, List.append_assoc]
          rfl
        · rw [List.map_cons, List.map_cons, List.cons_inj_right, complete, List.map_cons, afterReturn_returned hook]

theorem processAfter_observed (middlewares : List (Middleware World)) (exceptions : ExceptionsOnly middlewares)
    (world : World) (given : HttpResponse) :
    ∃ after left calls,
      (processAfter (observedAll middlewares.zipIdx)).run ((world, []), given) = (((after, calls), left), .ok ()) ∧
      Threaded given calls left ∧
      (calls.map Invocation.middleware = (List.range middlewares.length).reverse ↔
        AfterReturn middlewares.tail.reverse (world, given)) := by
  have exceptions : ExceptionsOnly (middlewares.zipIdx.reverse.map Prod.fst) := by
    intro middleware member
    rw [List.map_reverse, List.mem_reverse, List.zipIdx_map_fst] at member
    exact exceptions middleware member
  rcases afterHooks_observed _ exceptions world [] given with
    ⟨after, left, calls, outcome, ran, noResponse, threaded, complete⟩
  refine ⟨after, left, calls, ?_, threaded, ?_⟩
  · unfold processAfter
    have reversed : (observedAll middlewares.zipIdx).reverse = observedAll middlewares.zipIdx.reverse :=
      List.map_reverse.symm
    rw [reversed]
    cases outcome with
    | ok _ => exact Throwing.run_attempt_ok ran _
    | error thrown =>
      rw [Throwing.run_attempt_error ran]
      cases thrown with
      | exception what => rfl
      | response sent => exact absurd rfl (noResponse sent)
  · rw [List.map_reverse, List.map_reverse, List.zipIdx_map_fst, List.zipIdx_map_snd, List.dropLast_reverse,
      ← List.range_eq_range'] at complete
    exact complete

section

variable {middlewares : List (Middleware World)} {route : HttpRequest → Throwing (World × HttpResponse) Thrown Bool}
  {req mutableReq : HttpRequest} {world entered left : World} {resp given : HttpResponse}

theorem route_unobserved {outcome : Except Thrown Bool}
    (handled : (route mutableReq).run (entered, resp) = ((left, given), outcome)) :
    (unobserved (route mutableReq)).run ((entered, []), resp) = (((left, []), given), outcome) := by
  let ran := (route mutableReq).run (entered, resp)
  change (((ran.1.1, []), ran.1.2), ran.2) = _
  rw [show ran = _ from handled]

/-- The hooks are paired if the handler returns and no hook but the last of them throws. -/
theorem hooks_paired_iff (before : (processBefore middlewares req).run world = (entered, .ok mutableReq))
    {outcome : Except Thrown Bool} (handled : (route mutableReq).run (entered, resp) = ((left, given), outcome))
    (noResponse : ∀ sent, outcome ≠ .error (.response sent)) (exceptions : ExceptionsOnly middlewares) :
    HooksPaired middlewares route req world resp ↔
      middlewares = [] ∨ ∃ found, outcome = .ok found ∧
        AfterReturn middlewares.tail.reverse (left, found404 found given) := by
  have observed : (processBefore (observedAll middlewares.zipIdx) req).run (world, []) =
      ((entered, []), .ok mutableReq) := by
    apply processBefore_observed
    rw [List.zipIdx_map_fst]
    exact before
  have lifted := route_unobserved handled
  unfold HooksPaired invocations
  cases outcome with
  | error thrown =>
    rw [handleRequest_threw observed lifted]
    apply Iff.intro
    · intro paired
      apply Or.inl
      have order : [] = (List.range middlewares.length).reverse := paired.1
      have empty := congrArg List.length order
      rw [List.length_reverse, List.length_range] at empty
      exact List.length_eq_zero_iff.mp empty.symm
    · intro holds
      rcases holds with rfl | ⟨found, same, _⟩
      · exact ⟨rfl, answerTo thrown given, rfl⟩
      · cases same
  | ok found =>
    rcases processAfter_observed middlewares exceptions left (found404 found given) with
      ⟨after, sent, calls, ran, threaded, complete⟩
    rw [handleRequest_routed observed lifted ran]
    dsimp only
    rw [complete]
    apply Iff.intro
    · intro paired
      exact Or.inr ⟨found, rfl, paired.1⟩
    · intro holds
      refine ⟨?_, _, threaded⟩
      rcases holds with rfl | ⟨_, same, returns⟩
      · trivial
      · cases same
        exact returns

end

/-! A chain of one hook that counts its calls. -/

def counting : Middleware Nat where
  before req := pure req
  after := Throwing.modify fun (count, resp) => (count + 1, resp)

theorem counting_exceptions : ExceptionsOnly [counting] := by
  intro middleware member state after sent same
  rcases List.mem_singleton.mp member with rfl
  cases same

theorem counting_paired :
    HooksPaired [counting] (fun _ => pure true) {} 0 {} ↔
      [counting] = [] ∨ ∃ found, (Except.ok true : Except Thrown Bool) = .ok found ∧
        AfterReturn [counting].tail.reverse (0, found404 found {}) := by
  apply @hooks_paired_iff _ _ _ _ {} _ 0 _ _ _ rfl _ rfl
  · intro sent same
    cases same
  · exact counting_exceptions

/-- A handler that throws leaves the hooks without their `after`. -/
theorem throwing_handler_unpaired :
    ¬ ∀ (middlewares : List (Middleware Nat)) (route : HttpRequest → Throwing (Nat × HttpResponse) Thrown Bool)
      (req mutableReq : HttpRequest) (world entered left : Nat) (resp given : HttpResponse)
      (outcome : Except Thrown Bool),
      (processBefore middlewares req).run world = (entered, .ok mutableReq) →
      (route mutableReq).run (entered, resp) = ((left, given), outcome) →
      (∀ sent, outcome ≠ .error (.response sent)) → ExceptionsOnly middlewares →
        HooksPaired middlewares route req world resp := by
  intro claimed
  have paired := claimed [counting] (fun _ => Throwing.throw (.exception [])) {} {} 0 0 0 {} {} _ rfl rfl
    (by intro sent same; cases same) counting_exceptions
  have called := congrArg List.length paired.1
  exact absurd called (by decide)

end Http.Middlewares
