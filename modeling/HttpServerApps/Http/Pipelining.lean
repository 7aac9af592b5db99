import HttpServerApps.Http.KeepAlive

namespace Http

open Common MuduoBuffer Middlewares Ssl

/-! Requests that are sent without waiting for the responses. -/

/-- A text that the parser accepts as one request, to its last byte. -/
structure AcceptedText (maxBodyBytes : UInt64) where
  text : Bytes
  request : HttpRequest
  accepted : parseAlone maxBodyBytes text = .ok ⟨.complete, request, []⟩

namespace AcceptedText

variable {maxBodyBytes : UInt64} (accepted : AcceptedText maxBodyBytes)

def size : Nat := accepted.text.length

theorem filled : accepted.text ≠ [] := by
  intro empty
  have whole := accepted.accepted
  rw [empty] at whole
  cases whole

theorem size_pos : 0 < accepted.size := List.length_pos_iff.mpr accepted.filled

theorem run : ∃ done, HttpContext.parser.Runs { maxBodyBytes := maxBodyBytes } accepted.text
    (.halted (.ok (true, done))) [] ∧ done.request = accepted.request := by
  let alone : WholeRequest maxBodyBytes :=
    { deliveries := [⟨accepted.text, accepted.filled, 0, fun _ response => .ok response⟩]
      request := accepted.request
      accepted := by
        simp only [List.map_cons, List.map_nil, List.flatten_cons, List.flatten_nil, List.append_nil]
        exact accepted.accepted
      returns := by
        intro delivery member req response
        cases List.mem_singleton.mp member
        exact ⟨response, rfl⟩ }
  rcases alone.run with ⟨done, run, same⟩
  simp only [alone, List.map_cons, List.map_nil, List.flatten_cons, List.flatten_nil, List.append_nil,
    List.nil_append] at run
  exact ⟨done, run, same⟩

end AcceptedText

theorem acceptedText_of {maxBodyBytes : UInt64} (text : Bytes)
    (complete : (parseAlone maxBodyBytes text).toOption.map (fun result => (result.verdict, result.unconsumed)) =
      some (.complete, [])) : ∃ accepted : AcceptedText maxBodyBytes, accepted.text = text := by
  cases parsed : parseAlone maxBodyBytes text with
  | error fault =>
    rw [parsed] at complete
    cases complete
  | ok result =>
    rcases result with ⟨verdict, request, unconsumed⟩
    rw [parsed] at complete
    cases complete
    exact ⟨⟨text, request, parsed⟩, rfl⟩

/-- How many requests of these sizes the deliveries dispatch, where `backlog` bytes are there from before: each
    delivery dispatches one at most. -/
def dispatchedBy : List Nat → Nat → List Nat → Nat
  | [], _, _ => 0
  | _ :: _, _, [] => 0
  | size :: sizes, backlog, arriving :: later =>
    if size ≤ backlog + arriving then dispatchedBy sizes (backlog + arriving - size) later + 1
    else dispatchedBy (size :: sizes) (backlog + arriving) later

/-- How many requests are there to their last byte. -/
def completeIn : List Nat → Nat → Nat
  | [], _ => 0
  | size :: sizes, arrived => if size ≤ arrived then completeIn sizes (arrived - size) + 1 else 0

@[simp] theorem dispatchedBy_nil (sizes : List Nat) (backlog : Nat) : dispatchedBy sizes backlog [] = 0 := by
  cases sizes <;> rfl

/-- Nothing is left behind exactly when there are always enough deliveries to come. -/
theorem dispatchedBy_all_iff (sizes : List Nat) (backlog : Nat) (deliveries : List Nat) :
    dispatchedBy sizes backlog deliveries = sizes.length ↔
      sizes.length ≤ deliveries.length ∧ ∀ j, j < deliveries.length →
        sizes.length ≤ completeIn sizes (backlog + (deliveries.take (j + 1)).sum) + (deliveries.length - (j + 1)) := by
  induction deliveries generalizing sizes backlog with
  | nil =>
    rw [dispatchedBy_nil]
    apply Iff.intro
    · intro none_
      exact ⟨Nat.le_of_eq none_.symm, nofun⟩
    · intro few
      exact (Nat.le_zero.mp few.1).symm
  | cons arriving later ih =>
    cases sizes with
    | nil => simp [dispatchedBy]
    | cons size sizes =>
      by_cases whole : size ≤ backlog + arriving
      · have tail : ∀ more, completeIn (size :: sizes) (backlog + (arriving + more)) =
            completeIn sizes (backlog + arriving - size + more) + 1 := by
          intro more
          have enough : size ≤ backlog + (arriving + more) := by omega
          have rest : backlog + (arriving + more) - size = backlog + arriving - size + more := by omega
          simp only [completeIn, enough, ↓reduceIte, rest]
        simp only [dispatchedBy, whole, ↓reduceIte, List.length_cons, Nat.add_right_cancel_iff, List.take_succ_cons,
          List.sum_cons, tail]
        rw [ih]
        apply Iff.intro
        · intro enough
          refine ⟨by omega, ?_⟩
          intro j bound
          cases j with
          | zero => omega
          | succ j =>
            have here := enough.2 j (by omega)
            omega
        · intro enough
          refine ⟨by omega, ?_⟩
          intro j bound
          have here := enough.2 (j + 1) (by omega)
          omega
      · have first : completeIn (size :: sizes) (backlog + (arriving + 0)) = 0 := if_neg whole
        have rest := ih (size :: sizes) (backlog + arriving)
        simp only [List.length_cons, Nat.add_assoc] at rest
        simp only [dispatchedBy, whole, ↓reduceIte, List.length_cons, List.take_succ_cons, List.sum_cons]
        rw [rest]
        apply Iff.intro
        · intro enough
          refine ⟨by omega, ?_⟩
          intro j bound
          cases j with
          | zero =>
            simp only [List.take_zero, List.sum_nil]
            omega
          | succ j =>
            have here := enough.2 j (by omega)
            omega
        · intro enough
          have start := enough.2 0 (by omega)
          simp only [List.take_zero, List.sum_nil, first] at start
          refine ⟨by omega, ?_⟩
          intro j bound
          have here := enough.2 (j + 1) (by omega)
          omega

namespace HttpServer

open Connection

variable {Engine : Type} [OpenSSL Engine]

/-- A connection whose context waits for `rest`, which ends a request with `done`. -/
structure Expects (maxBodyBytes : UInt64) (rest : Bytes) (done : HttpContext) (conn : Connection Engine) : Prop where
  noSsl : conn.sslConn = none
  clean : HttpContext.Clean conn.context
  status : conn.context.parseErrorStatus = 400
  limit : conn.context.maxBodyBytes = maxBodyBytes
  run : HttpContext.parser.Runs conn.context.untimed rest (.halted (.ok (true, done))) []

section

variable {server : HttpServer} {maxBodyBytes : UInt64} {conn : Connection Engine} {rest : Bytes} {done : HttpContext}

omit [OpenSSL Engine] in
theorem expects_fresh (accepted : AcceptedText maxBodyBytes) (noSsl : conn.sslConn = none)
    (fresh : conn.context = { maxBodyBytes := maxBodyBytes }) :
    ∃ done, Expects maxBodyBytes accepted.text done conn ∧ done.request = accepted.request := by
  rcases accepted.run with ⟨done, run, same⟩
  refine ⟨done, ⟨noSsl, ?_, ?_, ?_, ?_⟩, same⟩
  · rw [fresh]
    exact HttpContext.fresh_clean maxBodyBytes
  · rw [fresh]
  · rw [fresh]
  · rw [fresh]
    exact run

omit [OpenSSL Engine] in
theorem Expects.entry (expects : Expects maxBodyBytes rest done conn) :
    { conn.context.untimed with parseErrorStatus := 400 } = conn.context.untimed := by
  rw [← expects.status]
  rfl

/-- A delivery that ends the request, and may bring more. -/
theorem step_completes (plain : server.useSSL = false) (expects : Expects maxBodyBytes rest done conn)
    {delivery : Delivery} (returns : ∀ req response, ∃ answer, delivery.httpCallback req response = .ok answer)
    {extra : Bytes} (cut : rest ++ extra = conn.buf ++ delivery.data) :
    ∃ served, server.events.step conn (.message delivery) = some served ∧ served.sslConn = none ∧
      served.context = { maxBodyBytes := maxBodyBytes } ∧ served.buf = extra ∧
      served.dispatched.map HttpRequest.untimed = conn.dispatched.map HttpRequest.untimed ++ [done.request] := by
  obtain ⟨ok, next, left, call, runs, _⟩ :=
    HttpContext.parseRequest_total conn.context (conn.buf ++ delivery.data) delivery.receiveTime expects.clean
  have message := plain_message plain expects.noSsl delivery call
  have extended := expects.run.halted_extend extra
  rw [cut] at extended
  rw [expects.entry] at runs
  rcases runs.deterministic extended with ⟨verdict, left_eq⟩
  change left = [] ++ extra at left_eq
  rw [List.nil_append] at left_eq
  subst left_eq
  rcases HttpContext.callVerdict_complete verdict with ⟨rfl, gotAll⟩
  obtain ⟨served, dispatches, context, buf, noSsl, dispatched⟩ :=
    @dispatch_plain _ _ _ plain { conn with buf := left, context := next } expects.noSsl delivery returns
  rw [if_neg Bool.false_ne_true.symm, if_pos gotAll, dispatches] at message
  have seen : next.request.untimed = done.request := by
    rw [← HttpContext.callVerdict_seen verdict]
    rfl
  refine ⟨served, step_message message, noSsl, ?_, buf, ?_⟩
  · rw [context, ← expects.limit, ← HttpContext.parseRequest_maxBodyBytes call]
    rfl
  · rw [dispatched, List.map_append, List.map_singleton, seen]

/-- A delivery that does not bring the end of the request. -/
theorem step_continues (plain : server.useSSL = false) (expects : Expects maxBodyBytes rest done conn)
    {delivery : Delivery} {tail : Bytes} (cut : conn.buf ++ delivery.data ++ tail = rest) (missing : tail ≠ []) :
    ∃ waited, server.events.step conn (.message delivery) = some waited ∧
      Expects maxBodyBytes (waited.buf ++ tail) done waited ∧ waited.dispatched = conn.dispatched := by
  obtain ⟨ok, next, left, call, runs, settled⟩ :=
    HttpContext.parseRequest_total conn.context (conn.buf ++ delivery.data) delivery.receiveTime expects.clean
  have message := plain_message plain expects.noSsl delivery call
  rw [expects.entry] at runs
  cases finished : HttpContext.callVerdict ok next with
  | halted answer =>
    rw [finished] at runs
    have extended := runs.halted_extend tail
    change HttpContext.parser.Runs _ ((conn.buf ++ delivery.data) ++ tail) _ _ at extended
    rw [cut] at extended
    rcases extended.deterministic expects.run with ⟨_, nothing⟩
    exact absurd (List.append_eq_nil_iff.mp nothing).2 missing
  | suspended waiting =>
    rw [finished] at runs
    rcases HttpContext.callVerdict_waiting finished with ⟨rfl, open_, rfl⟩
    have notAll : next.state ≠ .kGotAll := by
      intro gotAll
      rw [HttpContext.gotAll, gotAll] at open_
      cases open_
    rcases settled rfl notAll with ⟨nextClean, nextStatus⟩
    rw [if_neg Bool.false_ne_true.symm, if_neg (ne_true_of_eq_false open_)] at message
    rcases HttpContext.parseRequest_total next (left ++ tail) 0 nextClean with ⟨_, _, _, _, resumed, _⟩
    have nextEntry : { next.untimed with parseErrorStatus := 400 } = next.untimed := by
      rw [← nextStatus]
      rfl
    rw [nextEntry] at resumed
    have through := runs.resume resumed
    change HttpContext.parser.Runs _ ((conn.buf ++ delivery.data) ++ tail) _ _ at through
    rw [cut] at through
    rcases through.deterministic expects.run with ⟨verdict, nothing⟩
    change readable _ = [] at nothing
    rw [verdict, nothing] at resumed
    have limit := (HttpContext.parseRequest_maxBodyBytes call).trans expects.limit
    exact ⟨{ conn with buf := left, context := next }, step_message message,
      ⟨expects.noSsl, nextClean, nextStatus, limit, resumed⟩, rfl⟩

/-- With more requests to follow; `backlog` counts the bytes that have arrived since the request before. By induction on
    the deliveries, each of which completes the request or leaves it waiting. -/
theorem run_pipelined (plain : server.useSSL = false) {requests : List (AcceptedText maxBodyBytes)}
    {deliveries : List Delivery}
    (returns : ∀ delivery ∈ deliveries, ∀ req response, ∃ answer, delivery.httpCallback req response = .ok answer)
    {size backlog : Nat} (expects : Expects maxBodyBytes rest done conn)
    (balance : backlog + rest.length = size + conn.buf.length)
    (arrives : conn.buf ++ (deliveries.map Delivery.data).flatten <+:
      rest ++ (requests.map AcceptedText.text).flatten) :
    ∃ final, server.events.run conn (deliveries.map .message) = some final ∧
      final.dispatched.map HttpRequest.untimed = conn.dispatched.map HttpRequest.untimed ++
        (done.request :: requests.map AcceptedText.request).take
          (dispatchedBy (size :: requests.map AcceptedText.size) backlog
            (deliveries.map fun delivery => delivery.data.length)) := by
  induction deliveries generalizing conn rest done size backlog requests with
  | nil => exact ⟨conn, rfl, by simp⟩
  | cons delivery deliveries ih =>
    rw [List.map_cons, List.flatten_cons, ← List.append_assoc] at arrives
    have later_returns := fun other member => returns other (List.mem_cons_of_mem delivery member)
    have arrived : (conn.buf ++ delivery.data).length = conn.buf.length + delivery.data.length := List.length_append
    have here : conn.buf ++ delivery.data <+: rest ++ (requests.map AcceptedText.text).flatten :=
      (List.prefix_append _ _).trans arrives
    by_cases whole : rest.length ≤ (conn.buf ++ delivery.data).length
    · rcases List.prefix_of_prefix_length_le (List.prefix_append rest _) here whole with ⟨extra, cut⟩
      have cut_length := congrArg List.length cut
      rw [List.length_append] at cut_length
      obtain ⟨served, step, noSsl, fresh, buf, noted⟩ :=
        step_completes plain expects (returns delivery (List.mem_cons_self ..)) cut
      have enough : size ≤ backlog + delivery.data.length := by omega
      rw [← cut, List.append_assoc, List.prefix_append_right_inj, ← buf] at arrives
      simp only [List.map_cons, dispatchedBy, enough, ↓reduceIte]
      cases requests with
      | nil =>
        have nothing : deliveries = [] := by
          cases deliveries with
          | nil => rfl
          | cons other others =>
            have empty := List.prefix_nil.mp arrives
            exact absurd (List.append_eq_nil_iff.mp (List.append_eq_nil_iff.mp empty).2).1 other.arrives
        subst nothing
        refine ⟨served, System.run_cons step [], ?_⟩
        rw [noted]
        simp
      | cons request requests =>
        rcases expects_fresh request noSsl fresh with ⟨last, next, same⟩
        have servedBalance : backlog + delivery.data.length - size + request.text.length =
            request.size + served.buf.length := by
          unfold AcceptedText.size
          rw [buf]
          omega
        obtain ⟨final, later_run, requested⟩ := ih later_returns next servedBalance arrives
        refine ⟨final, (System.run_cons step _).trans later_run, ?_⟩
        rw [requested, noted, same, List.append_assoc]
        rfl
    · have short : (conn.buf ++ delivery.data).length ≤ rest.length := Nat.le_of_not_le whole
      rcases List.prefix_of_prefix_length_le here (List.prefix_append rest _) short with ⟨tail, cut⟩
      have cut_length := congrArg List.length cut
      rw [List.length_append] at cut_length
      have missing : tail ≠ [] := by
        rintro rfl
        simp only [List.length_nil] at cut_length
        omega
      have few : ¬ size ≤ backlog + delivery.data.length := by
        have positive := List.length_pos_iff.mpr missing
        omega
      obtain ⟨waited, step, still, dispatched⟩ := step_continues plain expects cut missing
      rw [← cut, List.append_assoc (conn.buf ++ delivery.data), List.prefix_append_right_inj] at arrives
      have waitedArrives : waited.buf ++ (deliveries.map Delivery.data).flatten <+:
          (waited.buf ++ tail) ++ (requests.map AcceptedText.text).flatten := by
        rw [List.append_assoc, List.prefix_append_right_inj]
        exact arrives
      have waitedBalance : backlog + delivery.data.length + (waited.buf ++ tail).length =
          size + waited.buf.length := by
        rw [List.length_append]
        omega
      obtain ⟨final, served, requested⟩ := ih later_returns still waitedBalance waitedArrives
      refine ⟨final, (System.run_cons step _).trans served, ?_⟩
      rw [requested, dispatched]
      simp only [List.map_cons, dispatchedBy, few, ↓reduceIte]

end

/-- Requests sent without waiting, cut into deliveries in any way: a prefix of them is dispatched, in order and each
    once, as they are parsed alone. How long it is depends on the sizes only: a delivery dispatches one request at
    most, and all are dispatched exactly when enough deliveries are to come at any time. -/
theorem pipelined_dispatch (server : HttpServer) (plain : server.useSSL = false)
    (requests : List (AcceptedText server.maxRequestBodyBytes)) (deliveries : List Delivery)
    (returns : ∀ delivery ∈ deliveries, ∀ req response, ∃ answer, delivery.httpCallback req response = .ok answer)
    (arrives : (deliveries.map Delivery.data).flatten <+: (requests.map AcceptedText.text).flatten) :
    let sizes := requests.map AcceptedText.size
    let arriving := deliveries.map fun delivery => delivery.data.length
    ∃ final : Connection Engine,
      server.events.run (server.onConnection none) (deliveries.map .message) = some final ∧
      final.dispatched.map HttpRequest.untimed =
        (requests.map AcceptedText.request).take (dispatchedBy sizes 0 arriving) ∧
      (dispatchedBy sizes 0 arriving = requests.length ↔
        ∀ j ≤ arriving.length, requests.length ≤ completeIn sizes (arriving.take j).sum + (arriving.length - j)) := by
  have opened : server.onConnection none =
      ({ context := { maxBodyBytes := server.maxRequestBodyBytes } } : Connection Engine) := by
    unfold onConnection
    dsimp only
    rw [if_neg (by rw [plain]; nofun)]
  have all := dispatchedBy_all_iff (requests.map AcceptedText.size) 0
    (deliveries.map fun delivery => delivery.data.length)
  dsimp only
  rw [opened]
  have exactly : dispatchedBy (requests.map AcceptedText.size) 0
      (deliveries.map fun delivery => delivery.data.length) = requests.length ↔
      ∀ j ≤ (deliveries.map fun delivery => delivery.data.length).length,
        requests.length ≤ completeIn (requests.map AcceptedText.size)
          ((deliveries.map fun delivery => delivery.data.length).take j).sum +
            ((deliveries.map fun delivery => delivery.data.length).length - j) := by
    rw [List.length_map] at all
    rw [all]
    have none_yet : completeIn (requests.map AcceptedText.size) 0 = 0 := by
      cases requests with
      | nil => rfl
      | cons request requests => exact if_neg (Nat.not_le.mpr request.size_pos)
    apply Iff.intro
    · intro enough j bound
      cases j with
      | zero =>
        rw [List.take_zero, List.sum_nil, none_yet]
        omega
      | succ j =>
        have here := enough.2 j bound
        rw [Nat.zero_add] at here
        exact here
    · intro enough
      have start := enough 0 (Nat.zero_le _)
      rw [List.take_zero, List.sum_nil, none_yet] at start
      refine ⟨by omega, ?_⟩
      intro j bound
      rw [Nat.zero_add]
      exact enough (j + 1) bound
  cases requests with
  | nil =>
    have nothing : deliveries = [] := by
      cases deliveries with
      | nil => rfl
      | cons other others =>
        have empty := List.prefix_nil.mp arrives
        exact absurd (List.append_eq_nil_iff.mp empty).1 other.arrives
    subst nothing
    exact ⟨_, rfl, rfl, exactly⟩
  | cons request requests =>
    rcases @expects_fresh Engine _ { context := { maxBodyBytes := server.maxRequestBodyBytes } } request rfl rfl with
      ⟨done, expects, same⟩
    have balance : 0 + request.text.length = request.size + 0 := Nat.zero_add _
    obtain ⟨final, served, dispatched⟩ := run_pipelined plain returns expects balance arrives
    refine ⟨final, served, ?_, exactly⟩
    rw [dispatched, same]
    rfl

/-- Two requests, the second of which arrives but for its last byte with the first. -/
def twoGets : List Delivery :=
  [deliveryOf (bytes "GET /a HTTP/1.1\r\n\r\nGET /b HTTP/1.1\r\n\r") (by decide),
    deliveryOf (bytes "\n") (by decide)]

theorem two_gets_dispatched :
    ∃ final : Connection (List Bool),
      (events {}).run (onConnection {} none) (twoGets.map .message) = some final ∧ final.dispatched.length = 2 := by
  rcases @acceptedText_of ({} : HttpServer).maxRequestBodyBytes (bytes "GET /a HTTP/1.1\r\n\r\n") (by decide) with
    ⟨first, firstText⟩
  rcases @acceptedText_of ({} : HttpServer).maxRequestBodyBytes (bytes "GET /b HTTP/1.1\r\n\r\n") (by decide) with
    ⟨second, secondText⟩
  have arrives : (twoGets.map Delivery.data).flatten = ([first, second].map AcceptedText.text).flatten := by
    simp only [List.map_cons, List.map_nil, firstText, secondText]
    decide
  obtain ⟨final, run, dispatched, _⟩ := @pipelined_dispatch (List Bool) _ {} rfl [first, second] twoGets
    (by simp [twoGets, deliveryOf]) (arrives ▸ List.prefix_refl _)
  refine ⟨final, run, ?_⟩
  have count := congrArg List.length dispatched
  simp only [List.map_cons, List.map_nil, AcceptedText.size, firstText, secondText] at count
  rw [List.length_map] at count
  exact count

end HttpServer

end Http
