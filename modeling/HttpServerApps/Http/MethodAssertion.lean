import HttpServerApps.Http.Reentry

namespace Http

open Common MuduoBuffer Ssl

namespace HttpServer

open Connection

variable {Engine : Type} [OpenSSL Engine]

/-! The method of a refused request line stays, and `setMethod` is called again with it. -/

/-- `assert(method_ == kInvalid)` fails on this event. -/
def Asserts (server : HttpServer) (conn : Connection Engine) (event : Event) : Prop :=
  ∃ delivery, event = .message delivery ∧ server.onMessage conn delivery = .error .assertion

/-- This event has the request line refused, and its first word is a method. -/
def RefusesKnown (server : HttpServer) (conn : Connection Engine) (event : Event) : Prop :=
  ∃ delivery ready offset, event = .message delivery ∧ server.receive conn delivery.data = (ready, true) ∧
    ready.context.state = .kExpectRequestLine ∧ crlfOffset ready.input = some offset ∧
    HttpContext.RefusesMethod (ready.input.take offset)

/-- The request line is awaited and the method is set already. -/
def Marked (conn : Connection Engine) : Prop :=
  conn.context.state = .kExpectRequestLine ∧ conn.context.request.method ≠ .kInvalid

/-- The refused line is at the head of the buffer, with a word in it that `setMethod` is given. -/
def Keeps (conn : Connection Engine) : Prop :=
  Marked conn → ∃ offset, crlfOffset conn.input = some offset ∧ splitFirst space (conn.input.take offset) ≠ none

omit [OpenSSL Engine] in
theorem Keeps.follows {before after : Connection Engine} (keeps : Keeps before) (follows : Follows before after) :
    Keeps after := by
  intro marked
  unfold Marked at marked
  rw [follows.context] at marked
  rcases keeps marked with ⟨offset, found, word⟩
  rcases follows.input with ⟨more, longer⟩
  refine ⟨offset, ?_, ?_⟩
  · rw [← longer]
    exact crlfOffset_append found more
  · rw [← longer, take_append_of_crlf found]
    exact word

omit [OpenSSL Engine] in
/-- Where the method is set, the next delivery that is parsed fails the assertion. -/
theorem parse_marked {ready : Connection Engine} (keeps : Keeps ready) (marked : Marked ready)
    (receiveTime : Timestamp) : ready.context.parseRequest ready.input receiveTime = .error .assertion := by
  rcases keeps marked with ⟨offset, found, word⟩
  exact HttpContext.parseRequest_busy marked.1 marked.2 found word

theorem refusesKnown_iff {server : HttpServer} {conn ready : Connection Engine} {delivery : Delivery}
    (arrived : server.receive conn delivery.data = (ready, true)) :
    RefusesKnown server conn (.message delivery) ↔ ready.context.state = .kExpectRequestLine ∧
      ∃ offset, crlfOffset ready.input = some offset ∧ HttpContext.RefusesMethod (ready.input.take offset) := by
  apply Iff.intro
  · rintro ⟨_, reached, offset, same, again, state, found, refuses⟩
    cases same
    rw [arrived] at again
    cases again
    exact ⟨state, offset, found, refuses⟩
  · rintro ⟨state, offset, found, refuses⟩
    exact ⟨delivery, ready, offset, rfl, arrived, state, found, refuses⟩

theorem RefusesKnown.rejected {server : HttpServer} {conn ready : Connection Engine} {delivery : Delivery}
    (arrived : server.receive conn delivery.data = (ready, true))
    (refuses : RefusesKnown server conn (.message delivery)) :
    HttpContext.RejectedLine ready.context ready.input := by
  rcases (refusesKnown_iff arrived).mp refuses with ⟨state, offset, found, _, _, _, _, refused⟩
  exact ⟨state, offset, found, refused⟩

omit [OpenSSL Engine] in
/-- What `parseRequest` leaves of a connection whose method was not set. -/
theorem refused_marked {ready : Connection Engine} {context : HttpContext} {left : Bytes} {receiveTime : Timestamp}
    (free : ready.context.state = .kExpectRequestLine → ready.context.request.method = .kInvalid)
    (call : ready.context.parseRequest ready.input receiveTime = .ok (false, context, left)) :
    (Marked ((ready.setInput left).setContext context) ↔ ready.context.state = .kExpectRequestLine ∧
      ∃ offset, crlfOffset ready.input = some offset ∧ HttpContext.RefusesMethod (ready.input.take offset)) ∧
    Keeps ((ready.setInput left).setContext context) := by
  rcases HttpContext.parse_failed call with headers | rejected
  · have unmarked : ¬ Marked ((ready.setInput left).setContext context) := by
      intro marked
      have state : context.state = .kExpectRequestLine := marked.1
      rw [headers] at state
      cases state
    refine ⟨iff_of_false unmarked ?_, fun marked => absurd marked unmarked⟩
    rintro ⟨state, offset, found, _, _, _, _, refused⟩
    have again := (HttpContext.parse_rejected ⟨state, offset, found, refused⟩ call).2.2
    rw [headers] at again
    cases again
  · rcases rejected with ⟨state, offset, found, refused⟩
    rcases HttpContext.processRequestLine_total ready.context.request (ready.input.take offset) (free state) with
      ⟨⟨ok, request⟩, processed⟩
    have failed := HttpContext.processRequestLine_verdict processed
    rw [refused] at failed
    subst failed
    have method := HttpContext.processRequestLine_refused (free state) processed
    rw [HttpContext.parseRequest_line_refused state found processed] at call
    cases call
    rw [setInput_input]
    have marked : Marked (ready.setContext { ready.context with parseErrorStatus := 400, request := request }) ↔
        HttpContext.RefusesMethod (ready.input.take offset) :=
      ⟨fun marked => method.mp marked.2, fun refuses => ⟨state, method.mpr refuses⟩⟩
    apply And.intro
    · rw [marked]
      apply Iff.intro
      · intro refuses
        exact ⟨state, offset, found, refuses⟩
      · rintro ⟨_, other, again, refuses⟩
        rw [found] at again
        cases again
        exact refuses
    · intro marks
      rcases marked.mp marks with ⟨m, rest, split_, _⟩
      refine ⟨offset, found, ?_⟩
      show splitFirst space (ready.input.take offset) ≠ none
      rw [split_]
      nofun

theorem marked_step {server : HttpServer} {conn next : Connection Engine} {event : Event}
    (step : server.events.step conn event = some next) (keeps : Keeps conn) :
    Keeps next ∧ (¬ Marked next ↔ ¬ Marked conn ∧ ¬ RefusesKnown server conn event) := by
  rcases step_cases step with ⟨unparsed, follows⟩ | ⟨delivery, ready, rfl, arrived, follows, parsing⟩
  · have silent : ¬ RefusesKnown server conn event := by
      rintro ⟨delivery, ready, _, same, reached, _⟩
      exact unparsed ⟨delivery, ready, same, reached⟩
    refine ⟨keeps.follows follows, ?_⟩
    unfold Marked
    rw [follows.context]
    exact (and_iff_left silent).symm
  · have unmarked : ∀ {result}, ready.context.parseRequest ready.input delivery.receiveTime = .ok result →
        ¬ Marked ready := by
      intro result call marked
      rw [parse_marked (keeps.follows follows) marked] at call
      cases call
    have same : Marked conn ↔ Marked ready := by
      unfold Marked
      rw [follows.context]
    have accepted : ∀ {context left},
        ready.context.parseRequest ready.input delivery.receiveTime = .ok (true, context, left) →
          ¬ RefusesKnown server conn (.message delivery) := by
      intro context left call refuses
      cases (HttpContext.parse_rejected (refuses.rejected arrived) call).1
    cases parsing with
    | @refused context left call =>
      have free := unmarked call
      rcases refused_marked (fun state => by_contra fun busy => free ⟨state, busy⟩) call with ⟨marks, kept⟩
      have answered := (follows_answerError server ((ready.setInput left).setContext context)).1
      refine ⟨kept.follows answered, ?_⟩
      rw [same, refusesKnown_iff arrived, ← marks]
      unfold Marked
      rw [answered.context]
      exact (and_iff_right free).symm
    | @waiting context left call unfinished =>
      have free : ¬ Marked ((ready.setInput left).setContext context) := by
        intro marked
        rcases HttpContext.parse_awaiting call marked.1 with ⟨state, method⟩
        exact unmarked call ⟨state, fun invalid => marked.2 (method.trans invalid)⟩
      refine ⟨fun marked => absurd marked free, ?_⟩
      rw [same]
      exact iff_of_true free ⟨unmarked call, accepted call⟩
    | answered call gotAll returns reset =>
      have free : ¬ Marked next := by
        intro marked
        have method := marked.2
        rw [reset] at method
        exact method rfl
      refine ⟨fun marked => absurd marked free, ?_⟩
      rw [same]
      exact iff_of_true free ⟨unmarked call, accepted call⟩
    | thrown call gotAll throws kept =>
      have free : ¬ Marked next := by
        intro marked
        have state := marked.1
        rw [kept] at state
        simp [HttpContext.gotAll, state] at gotAll
      refine ⟨fun marked => absurd marked free, ?_⟩
      rw [same]
      exact iff_of_true free ⟨unmarked call, accepted call⟩

theorem asserts_iff {server : HttpServer} {conn : Connection Engine} {event : Event} (keeps : Keeps conn) :
    Asserts server conn event ↔ Marked conn ∧ Reaches server conn event := by
  apply Iff.intro
  · rintro ⟨delivery, rfl, failed⟩
    have follows := follows_receive server conn delivery.data
    unfold onMessage at failed
    cases arrived : server.receive conn delivery.data with
    | mk ready parsed =>
      rw [arrived] at failed follows
      cases parsed with
      | false => cases failed
      | true =>
        dsimp only at failed
        cases call : ready.context.parseRequest ready.input delivery.receiveTime with
        | error fault =>
          rw [call] at failed
          cases failed
          have open_ : ready.context.state ≠ .kGotAll := by
            intro gotAll
            rw [HttpContext.parseRequest_gotAll gotAll] at call
            cases call
          have marked := (HttpContext.parseRequest_fault call open_).2
          rw [follows.context] at marked
          exact ⟨marked, delivery, ready, rfl, arrived⟩
        | ok result =>
          rcases result with ⟨ok, context, left⟩
          simp only [call, Bind.bind, Except.bind] at failed
          split at failed
          · cases failed
          · split at failed
            · unfold dispatch at failed
              dsimp only at failed
              split at failed <;> cases failed
            · cases failed
  · rintro ⟨marked, delivery, ready, rfl, arrived⟩
    have follows := follows_receive server conn delivery.data
    rw [arrived] at follows
    have marks : Marked ready := by
      unfold Marked
      rw [follows.context]
      exact marked
    refine ⟨delivery, rfl, ?_⟩
    unfold onMessage
    simp only [arrived, parse_marked (keeps.follows follows) marks delivery.receiveTime, Bind.bind, Except.bind]

/-- The method is set exactly when a line with a method was refused. -/
theorem marked_run {server : HttpServer} {ssl : Option Engine} {events : List Event} {conn : Connection Engine}
    (run : server.events.run (server.onConnection ssl) events = some conn) :
    Keeps conn ∧ (¬ Marked conn ↔
      server.events.Everywhere (fun conn event => ¬ RefusesKnown server conn event) (server.onConnection ssl)
        events) := by
  have free : ¬ Marked (server.onConnection ssl) := by
    intro marked
    have method := marked.2
    rw [onConnection_context] at method
    exact method rfl
  have keeps : Keeps (server.onConnection ssl) := fun marked => absurd marked free
  apply And.intro
  · exact System.run_preserves (fun _ _ _ step keeps => (marked_step step keeps).1) keeps run
  · exact @System.final_iff_everywhere _ _ _ Keeps (fun conn => ¬ Marked conn) _
      (fun _ _ _ step keeps => (marked_step step keeps).1) (fun _ _ _ step keeps => (marked_step step keeps).2)
      _ _ _ keeps free run

/-- Once a request line has been refused whose first word is a method, no delivery is parsed. -/
def SilentOnceRefused (server : HttpServer) (start : Connection Engine) (events : List Event) : Prop :=
  ∀ before refused between again after conn ready,
    events = before ++ refused :: (between ++ again :: after) →
      server.events.run start before = some conn → RefusesKnown server conn refused →
        server.events.run start (before ++ refused :: between) = some ready → ¬ Reaches server ready again

/-- `method_ == kInvalid` holds at every call of `setMethod` exactly when nothing is parsed any more after a
    refusal of a line with a method. -/
theorem method_unset_iff (server : HttpServer) (ssl : Option Engine) (events : List Event) :
    server.events.Everywhere (fun conn event => ¬ Asserts server conn event) (server.onConnection ssl) events ↔
      SilentOnceRefused server (server.onConnection ssl) events := by
  apply Iff.intro
  · intro unset before refused between again after conn ready shape run refuses later reaches
    rcases marked_run later with ⟨keeps, marks⟩
    have marked : Marked ready := by
      by_contra free
      exact marks.mp free before refused between conn rfl run refuses
    apply unset (before ++ refused :: between) again after ready _ later
    · exact (asserts_iff keeps).mpr ⟨marked, reaches⟩
    · rw [shape, List.append_assoc, List.cons_append]
  · intro silent before again after ready shape run asserts
    rcases marked_run run with ⟨keeps, marks⟩
    rcases (asserts_iff keeps).mp asserts with ⟨marked, reaches⟩
    apply marks.mpr ?_ marked
    intro earlier refused between conn split_ prior refuses
    subst split_
    have whole : events = earlier ++ refused :: (between ++ again :: after) := by
      rw [shape, List.append_assoc, List.cons_append]
    exact silent earlier refused between again after conn ready whole prior refuses run reaches

/-- A request line without a version, and then any byte. -/
theorem refused_get_asserts :
    ¬ ∀ (server : HttpServer) (ssl : Option (List Bool)) (events : List Event),
      server.events.Everywhere (fun conn event => ¬ Asserts server conn event) (server.onConnection ssl) events := by
  intro claimed
  let cut := deliveryOf (bytes "GET /\r\n") (by decide)
  let more := deliveryOf (bytes "x") (by decide)
  have failed : ((events {}).run opened [.message cut]).map (fun conn =>
      (onMessage {} conn more).map fun _ => ()) = some (.error .assertion) := by decide
  cases run : (events {}).run opened [.message cut] with
  | none =>
    rw [run] at failed
    cases failed
  | some conn =>
    rw [run] at failed
    apply claimed {} none [.message cut, .message more] [.message cut] (.message more) [] conn rfl run
    refine ⟨more, rfl, ?_⟩
    have ended : (onMessage {} conn more).map (fun _ => ()) = .error .assertion := Option.some.inj failed
    cases message : onMessage {} conn more with
    | ok next =>
      rw [message] at ended
      cases ended
    | error fault =>
      rw [message] at ended
      cases ended
      rfl

end HttpServer

end Http
