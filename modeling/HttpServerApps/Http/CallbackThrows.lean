import HttpServerApps.Http.Reentry

namespace Http

open Common MuduoBuffer Ssl

namespace HttpContext

/-- Some number of iterations is enough for the loop of `parseRequest`, called on this context and buffer. -/
def LoopEnds {Buffer : Type} [MuduoBuffer Buffer] (context : HttpContext) (buf : Buffer) (receiveTime : Timestamp) :
    Prop :=
  ∃ fuel, whileLoop receiveTime fuel { context := { context with parseErrorStatus := 400 }, buf := buf } ≠
    .error .spin

theorem loopEnds_open {Buffer : Type} [MuduoBuffer Buffer] {context : HttpContext} (state : context.state ≠ .kGotAll)
    (buf : Buffer) (receiveTime : Timestamp) : LoopEnds context buf receiveTime := by
  let loop : ParseLoop Buffer := { context := { context with parseErrorStatus := 400 }, buf := buf }
  have seen := whileLoop_view receiveTime (readableBytes buf + 1) loop
  refine ⟨readableBytes buf + 1, ?_⟩
  intro spins
  rw [spins] at seen
  have enough : loop.view.buf.length < readableBytes buf + 1 := Nat.lt_succ_self _
  have faulty := whileLoop_fault seen enough rfl rfl state
  cases faulty.1

theorem loopEnds_iff (context : HttpContext) :
    (∀ (input : Bytes) (receiveTime : Timestamp), LoopEnds context input receiveTime) ↔ context.state ≠ .kGotAll := by
  apply Iff.intro
  · intro ends gotAll
    rcases ends [] 0 with ⟨fuel, ended⟩
    exact ended (whileLoop_gotAll rfl gotAll 0 fuel)
  · intro state input receiveTime
    exact loopEnds_open state input receiveTime

end HttpContext

namespace HttpServer

open Connection

variable {Engine : Type} [OpenSSL Engine]

/-! A callback that throws leaves the context in `kGotAll`. -/

/-- The callback throws a `std::exception` on the request that this event completes. -/
def CallbackThrows (server : HttpServer) (conn : Connection Engine) (event : Event) : Prop :=
  ∃ delivery ready context left what, event = .message delivery ∧
    server.receive conn delivery.data = (ready, true) ∧
    ready.context.parseRequest ready.input delivery.receiveTime = .ok (true, context, left) ∧
    context.gotAll = true ∧
    delivery.httpCallback context.request { closeConnection := wantsClose context.request } = .error (.exception what)

theorem callbackThrows_iff {server : HttpServer} {conn ready : Connection Engine} {delivery : Delivery} {ok : Bool}
    {context : HttpContext} {left : Bytes} (arrived : server.receive conn delivery.data = (ready, true))
    (call : ready.context.parseRequest ready.input delivery.receiveTime = .ok (ok, context, left)) :
    CallbackThrows server conn (.message delivery) ↔ ok = true ∧ context.gotAll = true ∧ ∃ what,
      delivery.httpCallback context.request { closeConnection := wantsClose context.request } =
        .error (.exception what) := by
  apply Iff.intro
  · rintro ⟨_, reached, other, rest, what, same, again, parsed, gotAll, throws⟩
    cases same
    rw [arrived] at again
    cases again
    rw [call] at parsed
    cases parsed
    exact ⟨rfl, gotAll, what, throws⟩
  · rintro ⟨rfl, gotAll, what, throws⟩
    exact ⟨delivery, ready, context, left, what, rfl, arrived, call, gotAll, throws⟩

theorem gotAll_step {server : HttpServer} {conn next : Connection Engine} {event : Event}
    (step : server.events.step conn event = some next) :
    next.context.state ≠ .kGotAll ↔ conn.context.state ≠ .kGotAll ∧ ¬ CallbackThrows server conn event := by
  rcases step_cases step with ⟨unparsed, follows⟩ | ⟨delivery, ready, rfl, arrived, follows, parsing⟩
  · have silent : ¬ CallbackThrows server conn event := by
      rintro ⟨delivery, ready, _, _, _, same, reached, _⟩
      exact unparsed ⟨delivery, ready, same, reached⟩
    rw [follows.context]
    exact (and_iff_left silent).symm
  · have before : ∀ {ok context left},
        ready.context.parseRequest ready.input delivery.receiveTime = .ok (ok, context, left) →
          conn.context.state ≠ .kGotAll := by
      intro ok context left call gotAll
      rw [← follows.context] at gotAll
      rw [HttpContext.parseRequest_gotAll gotAll] at call
      cases call
    cases parsing with
    | @refused context left call =>
      have after := (follows_answerError server ((ready.setInput left).setContext context)).1.context
      have state : context.state ≠ .kGotAll := by
        rcases HttpContext.parse_failed call with headers | rejected
        · rw [headers]
          decide
        · rw [(HttpContext.parse_rejected rejected call).2.2]
          decide
      rw [after, callbackThrows_iff arrived call]
      refine iff_of_true state ⟨before call, ?_⟩
      rintro ⟨succeeded, _⟩
      cases succeeded
    | @waiting context left call unfinished =>
      have state : context.state ≠ .kGotAll := by simpa [HttpContext.gotAll] using unfinished
      rw [callbackThrows_iff arrived call]
      refine iff_of_true state ⟨before call, ?_⟩
      rintro ⟨_, finished, _⟩
      rw [unfinished] at finished
      cases finished
    | answered call gotAll returns reset =>
      rw [callbackThrows_iff arrived call, reset]
      apply iff_of_true
      · intro same
        cases same
      · apply And.intro (before call)
        rintro ⟨_, _, what, throws⟩
        rw [returns] at throws
        cases throws
    | thrown call gotAll throws kept =>
      have state := gotAll
      simp only [HttpContext.gotAll, decide_eq_true_eq] at state
      rw [callbackThrows_iff arrived call, kept]
      exact iff_of_false (fun open_ => open_ state) (fun both => both.2 ⟨rfl, gotAll, _, throws⟩)

/-- After any run, the loop of `parseRequest` ends on every buffer exactly when no request of the run has been
    thrown at by its callback. -/
theorem parse_loop_ends_iff (server : HttpServer) (ssl : Option Engine) (events : List Event) (conn : Connection Engine)
    (run : server.events.run (server.onConnection ssl) events = some conn) :
    (∀ (input : Bytes) (receiveTime : Timestamp), HttpContext.LoopEnds conn.context input receiveTime) ↔
      server.events.Everywhere (fun conn event => ¬ CallbackThrows server conn event) (server.onConnection ssl)
        events := by
  rw [HttpContext.loopEnds_iff]
  have start : (server.onConnection ssl).context.state ≠ .kGotAll := by
    rw [onConnection_context]
    nofun
  apply @System.final_iff_everywhere _ _ _ (fun _ => True) (fun conn => conn.context.state ≠ .kGotAll) _
    (fun _ _ _ _ _ => trivial) (fun _ _ _ step _ => gotAll_step step) _ _ _ trivial start run

def wholeGet : Bytes := bytes "GET / HTTP/1.1\r\n\r\n"

def thrownAt : Delivery := ⟨wholeGet, by decide, 0, fun _ _ => .error (.exception (bytes "boom"))⟩

/-- A request whose callback throws, and then any byte. -/
theorem thrown_request_spins :
    ¬ ∀ (server : HttpServer) (ssl : Option (List Bool)) (events : List Event) (conn : Connection (List Bool)),
      server.events.run (server.onConnection ssl) events = some conn →
        ∀ (input : Bytes) (receiveTime : Timestamp), HttpContext.LoopEnds conn.context input receiveTime := by
  intro claimed
  have state : ((events {}).run opened [.message thrownAt]).map (fun conn => conn.context.state) =
      some .kGotAll := by decide
  cases run : (events {}).run opened [.message thrownAt] with
  | none =>
    rw [run] at state
    cases state
  | some conn =>
    rw [run] at state
    have gotAll : conn.context.state = .kGotAll := Option.some.inj state
    rcases claimed {} none [.message thrownAt] conn run [97] 0 with ⟨fuel, ends⟩
    exact ends (HttpContext.whileLoop_gotAll rfl gotAll 0 fuel)

theorem answered_request_ends :
    ∃ conn : Connection (List Bool),
      (events {}).run (onConnection {} none) [.message (deliveryOf wholeGet (by decide))] = some conn ∧
        ∀ (input : Bytes) (receiveTime : Timestamp), HttpContext.LoopEnds conn.context input receiveTime := by
  have whole : ((events {}).run opened [.message (deliveryOf wholeGet (by decide))]).isSome = true := by
    decide
  rcases Option.isSome_iff_exists.mp whole with ⟨conn, run⟩
  refine ⟨conn, run, (parse_loop_ends_iff {} none _ conn run).mpr ?_⟩
  intro before event after state shape _ throws
  rcases throws with ⟨delivery, ready, context, left, what, rfl, _, _, _, thrown⟩
  have only : Event.message delivery ∈ [Event.message (deliveryOf wholeGet (by decide))] := by
    rw [shape]
    exact List.mem_append_right _ (List.mem_cons_self ..)
  cases List.mem_singleton.mp only
  cases thrown

end HttpServer

end Http
