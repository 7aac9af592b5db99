import HttpServerApps.Http.TerminalErrors

namespace Http

open Common MuduoBuffer Ssl

namespace HttpContext

/-! How a call of `parseRequest` can fault, and what it leaves where the request line is awaited. -/

/-- `setMethod` is all that can fault. -/
theorem processRequestLine_fault {request : HttpRequest} {line : Bytes} {fault : Fault}
    (faulty : processRequestLine request line = .error fault) :
    fault = .assertion ∧ request.method ≠ .kInvalid := by
  by_cases free : request.method = .kInvalid
  · rcases processRequestLine_total request line free with ⟨result, processed⟩
    rw [processed] at faulty
    cases faulty
  · unfold processRequestLine at faulty
    cases split_ : splitFirst space line with
    | none =>
      rw [split_] at faulty
      cases faulty
    | some parts =>
      simp only [split_, HttpRequest.setMethod, free, if_false, Bind.bind, Except.bind] at faulty
      cases faulty
      exact ⟨rfl, free⟩

theorem iteration_fault {loop : ParseLoop Bytes} {fault : Fault} (faulty : iteration 0 loop = .error fault) :
    fault = .assertion ∧ loop.context.state = .kExpectRequestLine ∧ loop.context.request.method ≠ .kInvalid := by
  unfold iteration at faulty
  cases state : loop.context.state with
  | kExpectRequestLine =>
    simp only [state] at faulty
    cases found : findCRLF loop.buf with
    | none =>
      rw [found] at faulty
      cases faulty
    | some crlf =>
      simp only [found] at faulty
      cases line : processRequestLine loop.context.request ((readable loop.buf).take crlf) with
      | error other =>
        rw [line] at faulty
        cases faulty
        rcases processRequestLine_fault line with ⟨rfl, busy⟩
        exact ⟨rfl, rfl, busy⟩
      | ok result =>
        rcases result with ⟨accepted, request⟩
        rw [line] at faulty
        cases accepted with
        | false => cases faulty
        | true => cases faulty
  | kExpectHeaders =>
    simp only [state] at faulty
    cases found : findCRLF loop.buf with
    | none =>
      rw [found] at faulty
      cases faulty
    | some crlf =>
      rw [found] at faulty
      cases faulty
  | kExpectBody =>
    simp only [state] at faulty
    split at faulty
    · cases faulty
    · cases faulty
  | kGotAll =>
    simp only [state] at faulty
    cases faulty

/-- By induction on the fuel: an iteration that goes on leaves the request line behind, and less to read. -/
theorem whileLoop_fault {fuel : Nat} {loop : ParseLoop Bytes} {fault : Fault}
    (faulty : whileLoop 0 fuel loop = .error fault) (enough : loop.buf.length < fuel) (ok : loop.ok = true)
    (more : loop.hasMore = true) (state : loop.context.state ≠ .kGotAll) :
    fault = .assertion ∧ loop.context.state = .kExpectRequestLine ∧ loop.context.request.method ≠ .kInvalid := by
  induction fuel generalizing loop with
  | zero => omega
  | succ fuel ih =>
    simp only [whileLoop, more, if_true, Bind.bind, Except.bind] at faulty
    cases first : iteration 0 loop with
    | error other =>
      rw [first] at faulty
      cases faulty
      exact iteration_fault first
    | ok next =>
      simp only [first] at faulty
      have stopped : next.hasMore = false → False := by
        intro stop
        cases fuel <;> simp [whileLoop, stop] at faulty
      rcases iteration_cases first ok more state with ⟨_, rfl⟩ | ⟨_, advances | halts⟩
      · exact (stopped rfl).elim
      · rcases advances.used with ⟨used, two, bound, shape⟩
        have shorter : next.buf.length < fuel := by
          rw [shape, List.length_drop]
          omega
        have past : next.context.state ≠ .kExpectRequestLine ∧ next.context.state ≠ .kGotAll := by
          rcases advances.state with state | state <;> rw [state] <;> decide
        exact absurd (ih faulty shorter advances.ok advances.more past.2).2.1 past.1
      · exact (stopped halts.stop).elim

theorem parseRequest_fault {context : HttpContext} {input : Bytes} {receiveTime : Timestamp} {fault : Fault}
    (faulty : parseRequest context input receiveTime = .error fault) (state : context.state ≠ .kGotAll) :
    fault = .assertion ∧ context.state = .kExpectRequestLine ∧ context.request.method ≠ .kInvalid := by
  let loop : ParseLoop Bytes := { context := { context with parseErrorStatus := 400 }, buf := input }
  have seen := whileLoop_view receiveTime (readableBytes input + 2) loop
  cases whole : whileLoop receiveTime (readableBytes input + 2) loop with
  | ok last =>
    simp only [parseRequest, loop] at faulty whole
    rw [whole] at faulty
    cases faulty
  | error other =>
    have same : other = fault := by
      simp only [parseRequest, loop] at faulty whole
      rw [whole] at faulty
      cases faulty
      rfl
    subst same
    rw [whole] at seen
    have enough : loop.view.buf.length < readableBytes input + 2 := by
      show input.length < input.length + 2
      omega
    exact whileLoop_fault seen enough rfl rfl state

/-! What is left with the request line still awaited. -/

/-- A line that is no request line, though its first word is a method the server knows. -/
def RefusesMethod (line : Bytes) : Prop :=
  ∃ m rest, splitFirst space line = some (m, rest) ∧ HttpRequest.methodOf m ≠ .kInvalid ∧
    acceptsRequestLine line = false

theorem processVersion_method (request : HttpRequest) (version : Bytes) :
    (processVersion request version).2.method = request.method := by
  unfold processVersion
  repeat' split
  all_goals rfl

theorem setTarget_method {request next : HttpRequest} {target : Bytes} (set_ : setTarget request target = .ok next) :
    next.method = request.method := by
  unfold setTarget at set_
  cases parts : splitFirst 63 target with
  | none =>
    rw [parts] at set_
    cases set_
    rfl
  | some pair =>
    rcases pair with ⟨path, query⟩
    simp only [parts, setQueryParameters_eq] at set_
    cases set_
    rfl

/-- A refused line leaves a method where its first word is one. -/
theorem processRequestLine_refused {request next : HttpRequest} {line : Bytes} (free : request.method = .kInvalid)
    (refused : processRequestLine request line = .ok (false, next)) :
    next.method ≠ .kInvalid ↔ RefusesMethod line := by
  have verdict := processRequestLine_verdict refused
  unfold RefusesMethod
  unfold processRequestLine at refused
  cases split_ : splitFirst space line with
  | none =>
    rw [split_] at refused
    cases refused
    simp [free]
  | some parts =>
    rcases parts with ⟨m, afterMethod⟩
    have method : next.method = HttpRequest.methodOf m := by
      simp only [split_, HttpRequest.setMethod, free, if_true, Bind.bind, Except.bind] at refused
      split at refused
      · cases second : splitFirst space afterMethod with
        | none =>
          rw [second] at refused
          cases refused
          rfl
        | some parts =>
          rcases parts with ⟨target, version⟩
          rcases setTarget_ok { request with method := HttpRequest.methodOf m } target with ⟨set_, run⟩
          simp only [second, run, Pure.pure, Except.pure, Except.ok.injEq] at refused
          have same : (processVersion set_ version).2 = next := by rw [refused]
          rw [← same, processVersion_method]
          exact setTarget_method run
      · cases refused
        rfl
    rw [method]
    apply Iff.intro
    · intro known
      exact ⟨m, afterMethod, rfl, known, verdict⟩
    · rintro ⟨word, rest, same, known, _⟩
      cases same
      exact known

section

variable {context next : HttpContext} {input left : Bytes} {receiveTime : Timestamp} {offset : Nat}

theorem parseRequest_line_fault (state : context.state = .kExpectRequestLine) (found : crlfOffset input = some offset)
    {fault : Fault} (faulty : processRequestLine context.request (input.take offset) = .error fault) :
    parseRequest context input receiveTime = .error fault := by
  have crlf : findCRLF input = some offset := found
  have line : processRequestLine context.request ((readable input).take offset) = .error fault := faulty
  simp only [parseRequest, whileLoop, if_true, iteration, state, crlf, line, Bind.bind, Except.bind]

theorem parseRequest_line_refused (state : context.state = .kExpectRequestLine) (found : crlfOffset input = some offset)
    {request : HttpRequest} (refused : processRequestLine context.request (input.take offset) = .ok (false, request)) :
    parseRequest context input receiveTime =
      .ok (false, { context with parseErrorStatus := 400, request := request }, input) := by
  have crlf : findCRLF input = some offset := found
  have line : processRequestLine context.request ((readable input).take offset) = .ok (false, request) := refused
  simp only [parseRequest, whileLoop, if_true, iteration, state, crlf, line, Bind.bind, Except.bind, Pure.pure,
    Except.pure, Bool.false_eq_true, if_false]

/-- A method is there already, so the first word of the line is not stored. -/
theorem parseRequest_busy (state : context.state = .kExpectRequestLine) (busy : context.request.method ≠ .kInvalid)
    (found : crlfOffset input = some offset) (word : splitFirst space (input.take offset) ≠ none) :
    parseRequest context input receiveTime = .error .assertion := by
  apply parseRequest_line_fault state found
  cases split_ : splitFirst space (input.take offset) with
  | none => exact absurd split_ word
  | some parts =>
    simp only [processRequestLine, split_, HttpRequest.setMethod, busy, if_false, Bind.bind, Except.bind]

theorem runs_awaiting {final : HttpContext} {verdict : Verdict HttpContext Answer}
    (run : parser.Runs context input verdict left) (suspended : verdict = .suspended final)
    (state : final.state = .kExpectRequestLine) : final = context := by
  induction run with
  | wait =>
    cases suspended
    rfl
  | halt => cases suspended
  | advance moves _ ih =>
    have same := ih suspended
    subst same
    exact absurd state (advance_state moves)

/-- A call that waits for the request line has set nothing. -/
theorem parse_awaiting (call : parseRequest context input receiveTime = .ok (true, next, left))
    (state : next.state = .kExpectRequestLine) :
    context.state = .kExpectRequestLine ∧ next.request.method = context.request.method := by
  have open_ : context.state ≠ .kGotAll := by
    intro gotAll
    rw [parseRequest_gotAll gotAll] at call
    cases call
  have run := parseRequest_runs call open_
  have verdict : callVerdict true next = .suspended next.untimed := by
    unfold callVerdict
    rw [state]
    rfl
  have same := runs_awaiting run verdict state
  have awaited : next.untimed.state = context.untimed.state := by rw [same]
  have method : next.untimed.request.method = context.untimed.request.method := by rw [same]
  exact ⟨awaited.symm.trans state, method⟩

end

end HttpContext

namespace HttpServer

open Connection

variable {Engine : Type} [OpenSSL Engine]

/-- The delivery gets as far as `parseRequest`. -/
def Reaches (server : HttpServer) (conn : Connection Engine) (event : Event) : Prop :=
  ∃ delivery ready, event = .message delivery ∧ server.receive conn delivery.data = (ready, true)

/-- What a delivery that is parsed leaves, by the ways `parseRequest` and the callback end. -/
inductive Parsing (server : HttpServer) (ready : Connection Engine) (delivery : Delivery) : Connection Engine → Prop
  | refused {context left}
      (call : ready.context.parseRequest ready.input delivery.receiveTime = .ok (false, context, left)) :
      Parsing server ready delivery (server.answerError ((ready.setInput left).setContext context))
  | waiting {context left}
      (call : ready.context.parseRequest ready.input delivery.receiveTime = .ok (true, context, left))
      (unfinished : context.gotAll = false) :
      Parsing server ready delivery ((ready.setInput left).setContext context)
  | answered {context left response next}
      (call : ready.context.parseRequest ready.input delivery.receiveTime = .ok (true, context, left))
      (gotAll : context.gotAll = true)
      (returns : delivery.httpCallback context.request { closeConnection := wantsClose context.request } =
        .ok response)
      (reset : next.context = context.reset) : Parsing server ready delivery next
  | thrown {context left what next}
      (call : ready.context.parseRequest ready.input delivery.receiveTime = .ok (true, context, left))
      (gotAll : context.gotAll = true)
      (throws : delivery.httpCallback context.request { closeConnection := wantsClose context.request } =
        .error (.exception what))
      (kept : next.context = context) : Parsing server ready delivery next

theorem onMessage_parsing {server : HttpServer} {conn ready next : Connection Engine} {delivery : Delivery}
    (arrived : server.receive conn delivery.data = (ready, true))
    (message : server.onMessage conn delivery = .ok next) : Parsing server ready delivery next := by
  unfold onMessage at message
  simp only [arrived] at message
  cases call : ready.context.parseRequest ready.input delivery.receiveTime with
  | error fault =>
    rw [call] at message
    cases message
  | ok result =>
    rcases result with ⟨ok, context, left⟩
    simp only [call, Bind.bind, Except.bind] at message
    cases ok with
    | false =>
      cases message
      exact .refused call
    | true =>
      rw [if_neg Bool.false_ne_true.symm] at message
      cases gotAll : ((ready.setInput left).setContext context).context.gotAll with
      | false =>
        simp only [setContext] at gotAll
        rw [if_neg (ne_true_of_eq_false gotAll)] at message
        cases message
        exact .waiting call gotAll
      | true =>
        simp only [setContext] at gotAll
        rw [if_pos gotAll] at message
        unfold dispatch at message
        dsimp only [setContext] at message
        cases outcome : delivery.httpCallback context.request { closeConnection := wantsClose context.request } with
        | ok response =>
          rw [outcome] at message
          cases message
          exact .answered call gotAll outcome rfl
        | error thrown =>
          rw [outcome] at message
          cases thrown with
          | response res => cases message
          | exception what =>
            cases message
            refine .thrown call gotAll outcome ?_
            have sent := (follows_sendToClient server { (ready.setInput left) with
              context := context, dispatched := (ready.setInput left).dispatched ++ [context.request] } kHttp400)
            exact (sent.trans (follows_record _ _)).context

/-- What an event can do: nothing to the context where it is not parsed. -/
theorem step_cases {server : HttpServer} {conn next : Connection Engine} {event : Event}
    (step : server.events.step conn event = some next) :
    (¬ Reaches server conn event ∧ Follows conn next) ∨
      ∃ delivery ready, event = .message delivery ∧ server.receive conn delivery.data = (ready, true) ∧
        Follows conn ready ∧ Parsing server ready delivery next := by
  cases event with
  | writeComplete =>
    cases step
    left
    refine ⟨?_, follows_onWriteComplete conn⟩
    rintro ⟨delivery, ready, same, _⟩
    cases same
  | message delivery =>
    have follows := follows_receive server conn delivery.data
    have taken : (server.onMessage conn delivery).toOption = some next := step
    cases message : server.onMessage conn delivery with
    | error fault =>
      rw [message] at taken
      cases taken
    | ok after =>
      rw [message] at taken
      cases taken
      cases arrived : server.receive conn delivery.data with
      | mk ready parsed =>
        rw [arrived] at follows
        cases parsed with
        | true => exact Or.inr ⟨delivery, ready, rfl, arrived, follows, onMessage_parsing arrived message⟩
        | false =>
          left
          unfold onMessage at message
          rw [arrived] at message
          cases message
          refine ⟨?_, follows⟩
          rintro ⟨other, reached, same, again⟩
          cases same
          rw [arrived] at again
          cases again

omit [OpenSSL Engine] in
theorem record_context (conn : Connection Engine) (call : Call) : (conn.record call).context = conn.context := by
  unfold record
  cases conn.sslConn <;> rfl

theorem onConnection_context (server : HttpServer) (ssl : Option Engine) :
    (server.onConnection ssl).context = { maxBodyBytes := server.maxRequestBodyBytes } := by
  unfold onConnection
  dsimp only
  split
  · cases ssl with
    | none => exact record_context _ _
    | some ssl => rfl
  · rfl

end HttpServer

end Http
