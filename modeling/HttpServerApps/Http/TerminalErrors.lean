import HttpServerApps.Http.ParseErrors

namespace Http

open Common MuduoBuffer Ssl

theorem sentBy_append {calls : List Call} (shut : .connShutdown ∈ calls) (more : List Call) :
    sentBy (calls ++ more) = sentBy calls := by
  induction calls with
  | nil => cases shut
  | cons call calls ih =>
    cases call with
    | connShutdown => rfl
    | connSend data =>
      have later : Call.connShutdown ∈ calls := by simpa using shut
      simp only [List.cons_append, sentBy, ih later]
    | sslWrite offered result =>
      have later : Call.connShutdown ∈ calls := by simpa using shut
      simp only [List.cons_append, sentBy, ih later]
    | sslRead result =>
      have later : Call.connShutdown ∈ calls := by simpa using shut
      simp only [List.cons_append, sentBy, ih later]

namespace Connection

variable {Engine : Type}

structure Follows (before after : Connection Engine) : Prop where
  context : after.context = before.context
  dispatched : after.dispatched = before.dispatched
  calls : before.allCalls <+: after.allCalls
  input : before.input <+: after.input

theorem Follows.refl (conn : Connection Engine) : Follows conn conn :=
  ⟨rfl, rfl, List.prefix_refl _, List.prefix_refl _⟩

theorem Follows.trans {first second third : Connection Engine} (h1 : Follows first second)
    (h2 : Follows second third) : Follows first third :=
  ⟨h2.context.trans h1.context, h2.dispatched.trans h1.dispatched, h1.calls.trans h2.calls,
    h1.input.trans h2.input⟩

theorem follows_sslConn {conn : Connection Engine} {before after : SslConnection Engine}
    (ssl : conn.sslConn = some before) (grows : before.Extends after) :
    Follows conn { conn with sslConn := some after } := by
  refine ⟨rfl, rfl, ?_, ?_⟩
  · unfold allCalls
    rw [ssl]
    exact grows.calls
  · unfold input
    rw [ssl]
    exact grows.decrypted

theorem allCalls_record (conn : Connection Engine) (call : Call) :
    (conn.record call).allCalls = conn.allCalls ++ [call] := by
  unfold allCalls record
  cases conn.sslConn <;> rfl

theorem follows_record (conn : Connection Engine) (call : Call) : Follows conn (conn.record call) := by
  refine ⟨?_, ?_, ?_, ?_⟩
  · unfold record
    cases conn.sslConn <;> rfl
  · unfold record
    cases conn.sslConn <;> rfl
  · rw [allCalls_record]
    exact List.prefix_append _ _
  · unfold record input
    cases conn.sslConn <;> exact List.prefix_refl _

theorem setInput_input (conn : Connection Engine) : conn.setInput conn.input = conn := by
  obtain ⟨context, buf, sslConn, calls, dispatched⟩ := conn
  cases sslConn <;> rfl

/-- A rejected request line is at the head of the buffer, and the peer gets nothing more. -/
structure Stuck (conn : Connection Engine) : Prop where
  rejected : HttpContext.RejectedLine conn.context conn.input
  shut : .connShutdown ∈ conn.allCalls

def Quiet (before after : Connection Engine) : Prop :=
  after.dispatched = before.dispatched ∧ after.wire = before.wire

theorem Quiet.trans {first second third : Connection Engine} (h1 : Quiet first second)
    (h2 : Quiet second third) : Quiet first third := ⟨h2.1.trans h1.1, h2.2.trans h1.2⟩

theorem Stuck.follows {before after : Connection Engine} (stuck : Stuck before)
    (follows : Follows before after) : Stuck after ∧ Quiet before after := by
  obtain ⟨more, grown⟩ := follows.calls
  obtain ⟨later, longer⟩ := follows.input
  refine ⟨⟨?_, ?_⟩, follows.dispatched, ?_⟩
  · rw [follows.context, ← longer]
    exact stuck.rejected.append later
  · rw [← grown]
    exact List.mem_append_left _ stuck.shut
  · unfold wire
    rw [← grown, sentBy_append stuck.shut]

end Connection

namespace HttpServer

open Connection

variable {Engine : Type} [OpenSSL Engine]

theorem follows_sendToClient (server : HttpServer) (conn : Connection Engine) (data : Bytes) :
    Follows conn (server.sendToClient conn data) := by
  unfold sendToClient
  split
  · exact Follows.refl conn
  split
  · split
    · next sslConn ssl =>
      split
      · exact follows_sslConn ssl (SslConnection.extends_send sslConn data)
      · exact Follows.refl conn
    · exact Follows.refl conn
  · exact follows_record conn _

theorem follows_receive (server : HttpServer) (conn : Connection Engine) (data : Bytes) :
    Follows conn (server.receive conn data).1 := by
  have appended : Follows conn { conn with buf := conn.buf ++ data } := by
    refine ⟨rfl, rfl, List.prefix_refl _, ?_⟩
    unfold input
    cases conn.sslConn with
    | none => exact List.prefix_append _ _
    | some sslConn => exact List.prefix_refl _
  unfold receive
  split
  · split
    · exact appended.trans (follows_record _ _)
    · next sslConn ssl =>
      have read := SslConnection.extends_onRead sslConn (conn.buf ++ data)
      refine ⟨rfl, rfl, ?_, ?_⟩
      · unfold allCalls
        rw [ssl]
        exact read.calls
      · unfold input
        rw [ssl]
        exact read.decrypted
  · exact appended

theorem follows_onWriteComplete (conn : Connection Engine) : Follows conn (onWriteComplete conn) := by
  unfold onWriteComplete
  cases ssl : conn.sslConn with
  | none =>
    have same : { conn with sslConn := none } = conn := by rw [← ssl]
    rw [Option.map_none, same]
    exact Follows.refl conn
  | some sslConn => exact follows_sslConn ssl (SslConnection.extends_onWriteComplete sslConn)

theorem follows_answerError (server : HttpServer) (conn : Connection Engine) :
    Follows conn (server.answerError conn) ∧ .connShutdown ∈ (server.answerError conn).allCalls := by
  have shut : ∀ data : Bytes, Follows conn (server.sendToClient conn data).shutdown ∧
      .connShutdown ∈ (server.sendToClient conn data).shutdown.allCalls := by
    intro data
    refine ⟨(follows_sendToClient server conn data).trans (follows_record _ _), ?_⟩
    unfold shutdown
    rw [allCalls_record]
    exact List.mem_append_right _ (List.mem_singleton.mpr rfl)
  unfold answerError
  split
  · exact shut kHttp413
  · exact shut kHttp400

omit [OpenSSL Engine] in
theorem answer_rejected {ready : Connection Engine} {context : HttpContext} {left : Bytes}
    {receiveTime : Timestamp} {ok : Bool} (rejected : HttpContext.RejectedLine ready.context ready.input)
    (call : ready.context.parseRequest ready.input receiveTime = .ok (ok, context, left)) :
    ok = false ∧ (ready.setInput left).setContext context = ready.setContext context ∧
      HttpContext.RejectedLine context ready.input := by
  obtain ⟨failed, rfl, state⟩ := HttpContext.parse_rejected rejected call
  refine ⟨failed, ?_, state, rejected.2⟩
  rw [setInput_input]

theorem stuck_step (server : HttpServer) {conn next : Connection Engine} {event : Event}
    (step : server.events.step conn event = some next) (stuck : Stuck conn) : Stuck next ∧ Quiet conn next := by
  cases event with
  | writeComplete =>
    cases step
    exact stuck.follows (follows_onWriteComplete conn)
  | message delivery =>
    have received := stuck.follows (follows_receive server conn delivery.data)
    change (server.onMessage conn delivery).toOption = some next at step
    unfold onMessage at step
    split at step
    · next ready arrived =>
      rw [arrived] at received
      cases step
      exact received
    · next ready arrived =>
      rw [arrived] at received
      obtain ⟨stuckReady, quiet⟩ := received
      cases call : ready.context.parseRequest ready.input delivery.receiveTime with
      | error fault =>
        rw [call] at step
        cases step
      | ok result =>
        obtain ⟨ok, context, left⟩ := result
        obtain ⟨rfl, same, again⟩ := answer_rejected stuckReady.rejected call
        simp only [call, Bind.bind, Except.bind, if_true, same] at step
        cases step
        have stuckAgain : Stuck (ready.setContext context) := ⟨again, stuckReady.shut⟩
        obtain ⟨stuckNext, quietNext⟩ := stuckAgain.follows (follows_answerError server _).1
        exact ⟨stuckNext, quiet.trans quietNext⟩

theorem stuck_run (server : HttpServer) {conn final : Connection Engine} {later : List Event}
    (run : server.events.run conn later = some final) (stuck : Stuck conn) : Quiet conn final := by
  have whole : Stuck final ∧ Quiet conn final := by
    apply System.run_preserves ?_ ⟨stuck, rfl, rfl⟩ run
    intro state event next step holds
    obtain ⟨stuckNext, quiet⟩ := stuck_step server step holds.1
    exact ⟨stuckNext, holds.2.trans quiet⟩
  exact whole.2

/-! A connection without TLS, and a parse error in the header section. -/

omit [OpenSSL Engine] in
theorem plain_record {conn : Connection Engine} (noSsl : conn.sslConn = none) (call : Call) :
    (conn.record call).sslConn = none ∧ (conn.record call).buf = conn.buf := by
  obtain ⟨context, buf, sslConn, calls, dispatched⟩ := conn
  cases noSsl
  exact ⟨rfl, rfl⟩

theorem plain_sendToClient {server : HttpServer} (plain : server.useSSL = false) {conn : Connection Engine}
    (noSsl : conn.sslConn = none) (data : Bytes) :
    (server.sendToClient conn data).sslConn = none ∧ (server.sendToClient conn data).buf = conn.buf := by
  unfold sendToClient
  split
  · exact ⟨noSsl, rfl⟩
  · rw [if_neg (by rw [plain]; nofun)]
    exact plain_record noSsl _

theorem plain_answerError {server : HttpServer} (plain : server.useSSL = false) {conn : Connection Engine}
    (noSsl : conn.sslConn = none) :
    (server.answerError conn).sslConn = none ∧ (server.answerError conn).buf = conn.buf := by
  have shut : ∀ data : Bytes, (server.sendToClient conn data).shutdown.sslConn = none ∧
      (server.sendToClient conn data).shutdown.buf = conn.buf := by
    intro data
    obtain ⟨sentNoSsl, sentBuf⟩ := plain_sendToClient plain noSsl data
    obtain ⟨shutNoSsl, shutBuf⟩ := plain_record sentNoSsl .connShutdown
    exact ⟨shutNoSsl, shutBuf.trans sentBuf⟩
  unfold answerError
  split
  · exact shut kHttp413
  · exact shut kHttp400

theorem plain_message {server : HttpServer} (plain : server.useSSL = false) {conn : Connection Engine}
    (noSsl : conn.sslConn = none) (delivery : Delivery) {ok : Bool} {next : HttpContext} {left : Bytes}
    (call : conn.context.parseRequest (conn.buf ++ delivery.data) delivery.receiveTime = .ok (ok, next, left)) :
    server.onMessage conn delivery =
      if ok = false then .ok (server.answerError { conn with buf := left, context := next })
      else if next.gotAll then server.dispatch { conn with buf := left, context := next } delivery
      else .ok { conn with buf := left, context := next } := by
  obtain ⟨context, buf, sslConn, calls, dispatched⟩ := conn
  cases noSsl
  have arrived : server.receive ⟨context, buf, none, calls, dispatched⟩ delivery.data =
      ((⟨context, buf ++ delivery.data, none, calls, dispatched⟩ : Connection Engine), true) := by
    unfold receive
    simp only [plain, Bool.false_eq_true, if_false]
  unfold onMessage
  rw [arrived]
  simp only [input, Bind.bind, Except.bind]
  rw [call]
  rfl

theorem step_message {server : HttpServer} {conn next : Connection Engine} {delivery : Delivery}
    (message : server.onMessage conn delivery = .ok next) :
    server.events.step conn (.message delivery) = some next := congrArg Except.toOption message

theorem dispatch_accepted (server : HttpServer) (conn : Connection Engine) (delivery : Delivery)
    (accepts : ∀ req response, delivery.httpCallback req response = .ok response) :
    ∃ next, server.dispatch conn delivery = .ok next ∧
      next.dispatched = conn.dispatched ++ [conn.context.request] := by
  unfold dispatch
  dsimp only
  rw [accepts]
  refine ⟨_, rfl, ?_⟩
  unfold onRequest
  have sent := follows_sendToClient server { conn with dispatched := conn.dispatched ++ [conn.context.request] }
  show (Connection.dispatched (ite _ _ _)) = _
  split
  · exact ((sent _).trans (follows_record _ _)).dispatched
  · exact (sent _).dispatched

/-- The deliveries that revive a context do so on a connection without TLS: its parse errors do not
    stop them. -/
theorem revives_dispatches {server : HttpServer} (plain : server.useSSL = false) {context : HttpContext}
    {pending : Bytes} (revives : HttpContext.Revives context pending) {conn : Connection Engine}
    (noSsl : conn.sslConn = none) (same : HttpContext.entry conn.context = context) (holds : conn.buf = pending) :
    ∃ later final, server.events.run conn later = some final ∧
      conn.dispatched.length < final.dispatched.length := by
  have clean : ∀ {conn : Connection Engine} {context : HttpContext}, HttpContext.entry conn.context = context →
      (context.state = .kExpectHeaders ∨ context.state = .kExpectBody) → HttpContext.Clean conn.context := by
    intro conn context same reading
    subst same
    have state : conn.context.state = .kExpectHeaders ∨ conn.context.state = .kExpectBody := reading
    rcases state with state | state <;> exact ⟨by simp [state], by simp [state]⟩
  induction revives generalizing conn with
  | @complete context seen pending left data arrives reading run =>
    let delivery : Delivery := ⟨data, arrives, 0, fun _ response => .ok response⟩
    rw [← same, ← holds] at run
    obtain ⟨ok, next, call, verdict⟩ := HttpContext.call_of_run (clean same reading) run 0
    obtain ⟨rfl, gotAll⟩ := HttpContext.callVerdict_complete verdict
    let parsed : Connection Engine := { conn with buf := left, context := next }
    obtain ⟨final, dispatched, longer⟩ := dispatch_accepted server parsed delivery fun _ _ => rfl
    have message := plain_message plain noSsl delivery call
    rw [if_neg (by nofun), if_pos gotAll, dispatched] at message
    refine ⟨[.message delivery], final, ?_, ?_⟩
    · exact System.run_cons (step_message message) []
    · rw [longer, List.length_append, List.length_singleton]
      exact Nat.lt_succ_self _
  | @failed context seen pending left data arrives reading run later ih =>
    let delivery : Delivery := ⟨data, arrives, 0, fun _ response => .ok response⟩
    rw [← same, ← holds] at run
    obtain ⟨ok, next, call, verdict⟩ := HttpContext.call_of_run (clean same reading) run 0
    obtain ⟨rfl, rfl⟩ := HttpContext.callVerdict_failed verdict
    have message := plain_message plain noSsl delivery call
    rw [if_pos rfl] at message
    let parsed : Connection Engine := { conn with buf := left, context := next }
    have parsedNoSsl : parsed.sslConn = none := noSsl
    obtain ⟨answeredNoSsl, answeredBuf⟩ := plain_answerError plain parsedNoSsl
    have follows := (follows_answerError server parsed).1
    have entered := congrArg HttpContext.entry follows.context
    obtain ⟨events, final, run, longer⟩ := ih answeredNoSsl entered answeredBuf
    refine ⟨.message delivery :: events, final, ?_, ?_⟩
    · exact (System.run_cons (step_message message) events).trans run
    · rw [follows.dispatched] at longer
      exact longer
  | @waiting context seen pending left data arrives reading run later ih =>
    let delivery : Delivery := ⟨data, arrives, 0, fun _ response => .ok response⟩
    rw [← same, ← holds] at run
    obtain ⟨ok, next, call, verdict⟩ := HttpContext.call_of_run (clean same reading) run 0
    obtain ⟨rfl, notAll, rfl⟩ := HttpContext.callVerdict_waiting verdict
    have message := plain_message plain noSsl delivery call
    rw [if_neg (by nofun), if_neg (by rw [notAll]; nofun)] at message
    let waited : Connection Engine := { conn with buf := left, context := next }
    have waitedNoSsl : waited.sslConn = none := noSsl
    obtain ⟨events, final, run, longer⟩ := ih waitedNoSsl rfl rfl
    refine ⟨.message delivery :: events, final, ?_, longer⟩
    exact (System.run_cons (step_message message) events).trans run

/-- After this state nothing is dispatched and nothing is sent, whatever happens. -/
def Terminal (server : HttpServer) (conn : Connection Engine) : Prop :=
  ∀ later final, server.events.run conn later = some final → Quiet conn final

/-- On this delivery `parseRequest` returns false; `ready` is the connection when it is called. -/
structure ParseFails (server : HttpServer) (conn : Connection Engine) (delivery : Delivery)
    (ready refused : Connection Engine) : Prop where
  arrived : server.receive conn delivery.data = (ready, true)
  failed : ∃ context left,
    ready.context.parseRequest ready.input delivery.receiveTime = .ok (false, context, left) ∧
      refused = server.answerError ((ready.setInput left).setContext context)

theorem ParseFails.message {server : HttpServer} {conn ready refused : Connection Engine} {delivery : Delivery}
    (fails : ParseFails server conn delivery ready refused) :
    server.events.step conn (.message delivery) = some refused := by
  obtain ⟨context, left, call, rfl⟩ := fails.failed
  show (server.onMessage conn delivery).toOption = _
  unfold onMessage
  rw [fails.arrived]
  simp only [call, Bind.bind, Except.bind, if_true]
  rfl

theorem ParseFails.stuck {server : HttpServer} {conn ready refused : Connection Engine} {delivery : Delivery}
    (fails : ParseFails server conn delivery ready refused)
    (rejected : HttpContext.RejectedLine ready.context ready.input) : Stuck refused := by
  obtain ⟨context, left, call, rfl⟩ := fails.failed
  obtain ⟨_, same, again⟩ := answer_rejected rejected call
  rw [same]
  obtain ⟨follows, shut⟩ := follows_answerError server (ready.setContext context)
  obtain ⟨more, longer⟩ := follows.input
  refine ⟨?_, shut⟩
  rw [follows.context, ← longer]
  have kept : HttpContext.RejectedLine (ready.setContext context).context (ready.setContext context).input := again
  exact kept.append more

/-- Without TLS, a parse error in the header section leaves a connection that can be revived. -/
theorem ParseFails.revived {server : HttpServer} {conn ready refused : Connection Engine} {delivery : Delivery}
    (fails : ParseFails server conn delivery ready refused) (plain : server.useSSL = false)
    (noSsl : conn.sslConn = none) (accepted : ¬ HttpContext.RejectedLine ready.context ready.input) :
    ∃ later final, server.events.run refused later = some final ∧
      refused.dispatched.length < final.dispatched.length := by
  obtain ⟨context, left, call, rfl⟩ := fails.failed
  have readyNoSsl : ready.sslConn = none := by
    have arrived := fails.arrived
    unfold receive at arrived
    simp only [plain, Bool.false_eq_true, if_false, Prod.mk.injEq, and_true] at arrived
    subst ready
    exact noSsl
  have parsedNoSsl : ((ready.setInput left).setContext context).sslConn = none := by
    simp only [setContext, setInput, readyNoSsl]
  have headers := (HttpContext.parse_failed call).resolve_right accepted
  have follows := (follows_answerError server ((ready.setInput left).setContext context)).1
  have reading : (HttpContext.entry
      (server.answerError ((ready.setInput left).setContext context)).context).state = .kExpectHeaders := by
    rw [follows.context]
    exact headers
  exact revives_dispatches plain (HttpContext.revives (Or.inl reading) _)
    (plain_answerError plain parsedNoSsl).1 rfl rfl

/-- The parse error of a rejected request line ends its connection, as the line stays in the buffer.
    Without TLS, where every byte is the client's to choose, no other parse error does. -/
theorem parse_error_terminal_iff (server : HttpServer) (conn ready refused : Connection Engine)
    (delivery : Delivery) (fails : ParseFails server conn delivery ready refused) :
    (HttpContext.RejectedLine ready.context ready.input → Terminal server refused) ∧
      (server.useSSL = false → conn.sslConn = none →
        (Terminal server refused ↔ HttpContext.RejectedLine ready.context ready.input)) := by
  have ends : HttpContext.RejectedLine ready.context ready.input → Terminal server refused :=
    fun rejected later final run => stuck_run server run (fails.stuck rejected)
  refine ⟨ends, fun plain noSsl => ⟨?_, ends⟩⟩
  intro terminal
  by_contra accepted
  obtain ⟨later, final, run, longer⟩ := fails.revived plain noSsl accepted
  rw [(terminal later final run).1] at longer
  exact Nat.lt_irrefl _ longer

theorem parseFails_of {server : HttpServer} {conn ready : Connection Engine} {delivery : Delivery}
    (arrived : server.receive conn delivery.data = (ready, true))
    (failed : (ready.context.parseRequest ready.input delivery.receiveTime).toOption.map Prod.fst = some false) :
    ∃ refused, ParseFails server conn delivery ready refused := by
  cases call : ready.context.parseRequest ready.input delivery.receiveTime with
  | error fault =>
    rw [call] at failed
    cases failed
  | ok result =>
    obtain ⟨ok, context, left⟩ := result
    rw [call] at failed
    cases failed
    exact ⟨_, arrived, context, left, call, rfl⟩

def opened : Connection (List Bool) := onConnection {} none

def deliveryOf (text : Bytes) (arrives : text ≠ []) : Delivery := ⟨text, arrives, 0, fun _ response => .ok response⟩

/-- After a header line without a colon, an empty line completes the request. -/
theorem bad_header_revived :
    ¬ ∀ (server : HttpServer) (ssl : Option (List Bool)) (before : List Event)
        (conn ready refused : Connection (List Bool)) (delivery : Delivery),
      server.events.run (server.onConnection ssl) before = some conn →
        ParseFails server conn delivery ready refused → Terminal server refused := by
  intro claimed
  let bad := deliveryOf (bytes "GET / HTTP/1.1\r\nBad\r\n") (by decide)
  let empty_ := deliveryOf (bytes "\r\n") (by decide)
  have arrived : receive {} opened bad.data = ({ opened with buf := bad.data }, true) := rfl
  obtain ⟨refused, fails⟩ := parseFails_of arrived (by decide)
  have terminal := claimed {} none [] opened _ refused bad rfl fails
  have count : ((events {}).run opened [.message bad, .message empty_]).map (fun conn => conn.dispatched.length) =
      some 1 := by decide
  rw [System.run_cons fails.message] at count
  cases after : (events {}).run refused [.message empty_] with
  | none =>
    rw [after] at count
    cases count
  | some final =>
    rw [after] at count
    have quiet := (terminal [.message empty_] final after).1
    have none_ : refused.dispatched = [] := by
      obtain ⟨context, left, _, rfl⟩ := fails.failed
      exact (follows_answerError {} _).1.dispatched
    rw [none_] at quiet
    simp [quiet] at count

theorem bad_request_line_terminal :
    ∃ refused : Connection (List Bool),
      ParseFails {} opened (deliveryOf (bytes "BAD\r\n") (by decide))
        { opened with buf := bytes "BAD\r\n" } refused ∧ Terminal {} refused := by
  have arrived : receive {} opened (bytes "BAD\r\n") = ({ opened with buf := bytes "BAD\r\n" }, true) := rfl
  obtain ⟨refused, fails⟩ := @parseFails_of _ _ _ _ _ (deliveryOf (bytes "BAD\r\n") (by decide)) arrived
    (by decide)
  refine ⟨refused, fails, ?_⟩
  apply ((parse_error_terminal_iff {} opened _ refused _ fails).2 rfl rfl).mpr
  exact ⟨rfl, 3, by decide, by decide⟩

end HttpServer

end Http
