import HttpServerApps.Http.Framing
import HttpServerApps.Http.TerminalErrors

namespace Http

open Common MuduoBuffer Middlewares Ssl

/-- What a fresh context makes of a text given to it at once. -/
def parseAlone (maxBodyBytes : UInt64) (text : Bytes) : Except Fault ParseResult :=
  HttpContext.parseChunks { maxBodyBytes := maxBodyBytes } ([] : Bytes) [(text, 0)]

/-- A request that the parser accepts to its last byte, with the deliveries it arrives in. -/
structure WholeRequest (maxBodyBytes : UInt64) where
  deliveries : List Delivery
  request : HttpRequest
  accepted : parseAlone maxBodyBytes (deliveries.map Delivery.data).flatten = .ok ⟨.complete, request, []⟩
  /-- The callback does not throw. -/
  returns : ∀ delivery ∈ deliveries, ∀ req response, ∃ answer, delivery.httpCallback req response = .ok answer

def WholeRequest.messages {maxBodyBytes : UInt64} (request : WholeRequest maxBodyBytes) : List Event :=
  request.deliveries.map .message

/-- A request alone: its run on a fresh context. -/
theorem WholeRequest.run {maxBodyBytes : UInt64} (request : WholeRequest maxBodyBytes) :
    ∃ done, HttpContext.parser.Runs { maxBodyBytes := maxBodyBytes }
      ([] ++ (request.deliveries.map Delivery.data).flatten) (.halted (.ok (true, done))) [] ∧
      done.request = request.request := by
  have accepted := request.accepted
  unfold parseAlone at accepted
  obtain ⟨verdict, left, result, feeds, parsed, seen⟩ := HttpContext.parseChunks_feeds
    { maxBodyBytes := maxBodyBytes } ([] : Bytes) [((request.deliveries.map Delivery.data).flatten, 0)]
    (HttpContext.fresh_clean maxBodyBytes) rfl
  rw [accepted] at parsed
  cases parsed
  have run := feeds.runs rfl
  simp only [List.map_cons, List.map_nil, List.flatten_cons, List.flatten_nil, List.append_nil] at run
  cases verdict with
  | suspended waiting => cases seen
  | halted answer =>
    cases answer with
    | error fault => cases seen
    | ok result =>
      rcases result with ⟨ok, done⟩
      cases ok with
      | false => cases seen
      | true =>
        simp only [HttpContext.resultOf, Except.ok.injEq, ParseResult.mk.injEq, true_and] at seen
        rcases seen with ⟨same, rfl⟩
        exact ⟨done, run, same⟩

theorem wholeRequest_of {maxBodyBytes : UInt64} (deliveries : List Delivery)
    (complete : (parseAlone maxBodyBytes (deliveries.map Delivery.data).flatten).toOption.map
      (fun result => (result.verdict, result.unconsumed)) = some (.complete, []))
    (returns : ∀ delivery ∈ deliveries, ∀ req response,
      ∃ answer, delivery.httpCallback req response = .ok answer) :
    ∃ request : WholeRequest maxBodyBytes, request.deliveries = deliveries := by
  cases parsed : parseAlone maxBodyBytes (deliveries.map Delivery.data).flatten with
  | error fault =>
    rw [parsed] at complete
    cases complete
  | ok result =>
    rcases result with ⟨verdict, request, unconsumed⟩
    rw [parsed] at complete
    cases complete
    exact ⟨⟨deliveries, request, parsed, returns⟩, rfl⟩

namespace HttpServer

open Connection

variable {Engine : Type} [OpenSSL Engine]

theorem dispatch_plain {server : HttpServer} (plain : server.useSSL = false) {conn : Connection Engine}
    (noSsl : conn.sslConn = none) (delivery : Delivery)
    (returns : ∀ req response, ∃ answer, delivery.httpCallback req response = .ok answer) :
    ∃ next, server.dispatch conn delivery = .ok next ∧ next.context = conn.context.reset ∧
      next.buf = conn.buf ∧ next.sslConn = none ∧
      next.dispatched = conn.dispatched ++ [conn.context.request] := by
  let noted : Connection Engine := { conn with dispatched := conn.dispatched ++ [conn.context.request] }
  obtain ⟨answer, called⟩ :=
    returns conn.context.request { closeConnection := wantsClose conn.context.request }
  rcases @plain_sendToClient _ _ _ plain noted noSsl answer.appendToBuffer with ⟨sentNoSsl, sentBuf⟩
  have sent := follows_sendToClient server noted answer.appendToBuffer
  rcases plain_record sentNoSsl .connShutdown with ⟨shutNoSsl, shutBuf⟩
  have shut := sent.trans (follows_record _ .connShutdown)
  unfold dispatch
  dsimp only
  rw [called]
  refine ⟨_, rfl, rfl, ?_, ?_, ?_⟩
  · show (Connection.buf (ite _ _ _)) = _
    split
    · exact shutBuf.trans sentBuf
    · exact sentBuf
  · show (Connection.sslConn (ite _ _ _)) = _
    split
    · exact shutNoSsl
    · exact sentNoSsl
  · show (Connection.dispatched (ite _ _ _)) = _
    split
    · exact shut.dispatched
    · exact sent.dispatched

/-- The deliveries of one request, from a context that still waits: the last of them dispatches it. -/
theorem run_request {server : HttpServer} (plain : server.useSSL = false) {deliveries : List Delivery}
    (returns : ∀ delivery ∈ deliveries, ∀ req response, ∃ answer, delivery.httpCallback req response = .ok answer)
    {conn : Connection Engine} (noSsl : conn.sslConn = none) (clean : HttpContext.Clean conn.context)
    (status : conn.context.parseErrorStatus = 400)
    (quiet : HttpContext.parser.step conn.context.untimed conn.buf = .wait) {done : HttpContext}
    (run : HttpContext.parser.Runs conn.context.untimed (conn.buf ++ (deliveries.map Delivery.data).flatten)
      (.halted (.ok (true, done))) []) :
    ∃ final, server.events.run conn (deliveries.map .message) = some final ∧
      final.context = { maxBodyBytes := conn.context.maxBodyBytes } ∧ final.buf = [] ∧ final.sslConn = none ∧
      final.dispatched.map HttpRequest.untimed = conn.dispatched.map HttpRequest.untimed ++ [done.request] := by
  induction deliveries generalizing conn with
  | nil =>
    rw [List.map_nil, List.flatten_nil, List.append_nil] at run
    rcases run.deterministic (.wait quiet) with ⟨verdict, _⟩
    cases verdict
  | cons delivery deliveries ih =>
    obtain ⟨ok, next, left, call, runs, settled⟩ :=
      HttpContext.parseRequest_total conn.context (conn.buf ++ delivery.data) delivery.receiveTime clean
    have entry : { conn.context.untimed with parseErrorStatus := 400 } = conn.context.untimed := by
      rw [← status]
      rfl
    have sameMax := HttpContext.parseRequest_maxBodyBytes call
    have message := plain_message plain noSsl delivery call
    rw [List.map_cons, List.flatten_cons, ← List.append_assoc] at run
    rw [entry] at runs
    let later : Bytes := (deliveries.map Delivery.data).flatten
    cases finished : HttpContext.callVerdict ok next with
    | halted answer =>
      rw [finished] at runs
      rcases (runs.halted_extend later).deterministic run with ⟨same, nothing⟩
      rcases List.append_eq_nil_iff.mp nothing with ⟨noLeft, noLater⟩
      rw [same] at finished
      rcases HttpContext.callVerdict_complete finished with ⟨rfl, gotAll⟩
      have last : deliveries = [] := by
        cases deliveries with
        | nil => rfl
        | cons other others => exact absurd (List.append_eq_nil_iff.mp noLater).1 other.arrives
      subst last
      obtain ⟨final, served, context, buf, finalNoSsl, dispatched⟩ :=
        @dispatch_plain _ _ _ plain { conn with buf := left, context := next } noSsl delivery
          (returns delivery (List.mem_cons_self ..))
      rw [if_neg Bool.false_ne_true.symm, if_pos gotAll, served] at message
      refine ⟨final, System.run_cons (step_message message) [], ?_, buf.trans noLeft, finalNoSsl, ?_⟩
      · rw [context, ← sameMax]
        rfl
      · rw [dispatched, List.map_append, List.map_singleton, ← HttpContext.callVerdict_seen finished]
        rfl
    | suspended waiting =>
      rw [finished] at runs
      rcases HttpContext.callVerdict_waiting finished with ⟨rfl, open_, rfl⟩
      have notAll : next.state ≠ .kGotAll := by
        intro gotAll
        rw [HttpContext.gotAll, gotAll] at open_
        cases open_
      rcases settled rfl notAll with ⟨nextClean, nextStatus⟩
      rw [if_neg Bool.false_ne_true.symm, if_neg (ne_true_of_eq_false open_)] at message
      rcases HttpContext.parseRequest_total next (left ++ later) 0 nextClean with ⟨_, _, _, _, rest, _⟩
      have nextEntry : { next.untimed with parseErrorStatus := 400 } = next.untimed := by
        rw [← nextStatus]
        rfl
      rw [nextEntry] at rest
      rcases (runs.resume rest).deterministic run with ⟨verdict, nothing⟩
      change readable _ = [] at nothing
      rw [verdict, nothing] at rest
      let waited : Connection Engine := { conn with buf := left, context := next }
      have waitedNoSsl : waited.sslConn = none := noSsl
      obtain ⟨final, served, context, buf, finalNoSsl, dispatched⟩ :=
        ih (fun other member => returns other (List.mem_cons_of_mem _ member)) waitedNoSsl nextClean nextStatus
          runs.suspended_waits rest
      refine ⟨final, (System.run_cons (step_message message) _).trans served, ?_, buf, finalNoSsl, dispatched⟩
      rw [context, ← sameMax]

theorem run_requests {server : HttpServer} (plain : server.useSSL = false) {maxBodyBytes : UInt64}
    (requests : List (WholeRequest maxBodyBytes)) {conn : Connection Engine} (noSsl : conn.sslConn = none)
    (fresh : conn.context = { maxBodyBytes := maxBodyBytes }) (drained : conn.buf = []) :
    ∃ final, server.events.run conn (requests.flatMap WholeRequest.messages) = some final ∧ final.buf = [] ∧
      final.dispatched.map HttpRequest.untimed =
        conn.dispatched.map HttpRequest.untimed ++ requests.map WholeRequest.request := by
  induction requests generalizing conn with
  | nil => exact ⟨conn, rfl, drained, by simp⟩
  | cons request requests ih =>
    rcases request.run with ⟨done, run, same⟩
    obtain ⟨middle, served, context, buf, middleNoSsl, dispatched⟩ :=
      @run_request _ _ server plain request.deliveries request.returns conn noSsl
        (by rw [fresh]; exact HttpContext.fresh_clean maxBodyBytes) (by rw [fresh])
        (by rw [fresh, drained]; rfl) done (by rw [fresh, drained]; exact run)
    rcases ih middleNoSsl (by rw [context, fresh]) buf with ⟨final, later, finalBuf, requested⟩
    refine ⟨final, ?_, finalBuf, ?_⟩
    · rw [List.flatMap_cons, System.run_append]
      show (server.events.run conn (request.deliveries.map .message)).bind _ = _
      rw [served]
      exact later
    · rw [requested, dispatched, same, List.append_assoc]
      rfl

/-- One request after another on a plain connection: each is dispatched once, as it is parsed alone, and
    nothing is left in the buffer. -/
theorem keep_alive_carries_nothing (server : HttpServer) (plain : server.useSSL = false)
    (requests : List (WholeRequest server.maxRequestBodyBytes)) :
    ∃ final : Connection Engine,
      server.events.run (server.onConnection none) (requests.flatMap WholeRequest.messages) = some final ∧
      final.dispatched.map HttpRequest.untimed = requests.map WholeRequest.request ∧ final.buf = [] := by
  have opened : server.onConnection none =
      ({ context := { maxBodyBytes := server.maxRequestBodyBytes } } : Connection Engine) := by
    unfold onConnection
    dsimp only
    rw [if_neg (by rw [plain]; nofun)]
  rw [opened]
  obtain ⟨final, run, buf, dispatched⟩ := @run_requests Engine _ server plain _ requests
    { context := { maxBodyBytes := server.maxRequestBodyBytes } } rfl rfl rfl
  exact ⟨final, run, dispatched, buf⟩

/-- A POST cut in its header section and in its body, and a GET. -/
def postDeliveries : List Delivery :=
  [deliveryOf (bytes "POST /a HTTP/1.1\r\nContent-") (by decide),
    deliveryOf (bytes "Length: 3\r\n\r\nab") (by decide), deliveryOf (bytes "c") (by decide)]

def getDeliveries : List Delivery := [deliveryOf (bytes "GET /b?k=v HTTP/1.1\r\n\r\n") (by decide)]

theorem post_and_get_served :
    ∃ final : Connection (List Bool),
      (events {}).run (onConnection {} none) ((postDeliveries ++ getDeliveries).map .message) = some final ∧
        final.dispatched.length = 2 ∧ final.buf = [] := by
  obtain ⟨post, postCut⟩ := @wholeRequest_of ({} : HttpServer).maxRequestBodyBytes postDeliveries
    (by decide) (by simp [postDeliveries, deliveryOf])
  obtain ⟨get_, getCut⟩ := @wholeRequest_of ({} : HttpServer).maxRequestBodyBytes getDeliveries
    (by decide) (by simp [getDeliveries, deliveryOf])
  obtain ⟨final, run, dispatched, drained⟩ :=
    @keep_alive_carries_nothing (List Bool) _ {} rfl [post, get_]
  refine ⟨final, ?_, ?_, drained⟩
  · rw [List.map_append, ← postCut, ← getCut]
    simpa [WholeRequest.messages] using run
  · have count := congrArg List.length dispatched
    rw [List.length_map] at count
    exact count

end HttpServer

end Http
