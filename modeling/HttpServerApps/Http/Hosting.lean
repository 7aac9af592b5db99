import HttpServerApps.Http.Transcript

namespace Http

open Common MuduoBuffer Middlewares Ssl

/-! Connections whose callbacks overlap. -/

/-- Bytes that arrive on a connection. -/
structure Segment where
  data : Bytes
  arrives : data ≠ []
  receiveTime : Timestamp

/-- The delivery of a segment whose callback comes to this outcome. -/
def Segment.delivery (segment : Segment) (outcome : Except Thrown HttpResponse) : Delivery :=
  ⟨segment.data, segment.arrives, segment.receiveTime, fun _ _ => outcome⟩

def Event.data : Event → Option Bytes
  | .message delivery => some delivery.data
  | .writeComplete => none

/-- A callback that is running: the segment that brought its request, and the connection as it was called. -/
structure Calling (Engine : Type) where
  segment : Segment
  conn : Connection Engine

/-- A connection in its IO loop. `past` lists its own events, each with what its callback came to. -/
structure Seat (Engine : Type) where
  ssl : Option Engine
  conn : Connection Engine
  calling : Option (Calling Engine) := none
  past : List Event := []

/-- The application is called with a request of a connection, and its call returns or throws. -/
inductive CallbackEvent where
  | called (id : Nat) (req : HttpRequest)
  | returned (id : Nat) (outcome : Except Thrown HttpResponse)

structure Host (Engine : Type) where
  accepted : Nat := 0
  seats : Dict Nat (Seat Engine) := .empty
  trace : List CallbackEvent := []

inductive HostEvent (Engine : Type) where
  | connected (ssl : Option Engine)
  | message (id : Nat) (segment : Segment)
  | returned (id : Nat) (outcome : Except Thrown HttpResponse)
  | writeComplete (id : Nat)
  | disconnected (id : Nat)

def Host.put {Engine : Type} (host : Host Engine) (id : Nat) (seat : Seat Engine) : Host Engine :=
  { host with seats := host.seats.insert id seat }

def Host.note {Engine : Type} (host : Host Engine) (event : CallbackEvent) : Host Engine :=
  { host with trace := host.trace ++ [event] }

namespace HttpServer

variable {Engine : Type} [OpenSSL Engine]

/-- `onMessage` as far as the callback, and whether it comes to one. -/
def arrive (server : HttpServer) (conn : Connection Engine) (data : Bytes) (receiveTime : Timestamp) :
    Except Fault (Connection Engine × Bool) :=
  match server.receive conn data with
  | (conn, false) => .ok (conn, false)
  | (conn, true) => do
    let (ok, context, left) ← conn.context.parseRequest conn.input receiveTime
    let conn := (conn.setInput left).setContext context
    if ok = false then .ok (server.answerError conn, false) else .ok (conn, context.gotAll)

end HttpServer

/-! What is of one connection. -/

/-- An event of the connection, by the bytes that it brings. -/
def HostEvent.own {Engine : Type} (id : Nat) : HostEvent Engine → Option (Option Bytes)
  | .message other segment => if other = id then some (some segment.data) else none
  | .writeComplete other => if other = id then some none else none
  | _ => none

def eventsOn {Engine : Type} (id : Nat) (events : List (HostEvent Engine)) : List (Option Bytes) :=
  events.filterMap (HostEvent.own id)

def CallbackEvent.call (id : Nat) : CallbackEvent → Option HttpRequest
  | .called other req => if other = id then some req else none
  | .returned _ _ => none

def CallbackEvent.outcome (id : Nat) : CallbackEvent → Option (Except Thrown HttpResponse)
  | .called _ _ => none
  | .returned other outcome => if other = id then some outcome else none

def callsOn (id : Nat) (trace : List CallbackEvent) : List HttpRequest := trace.filterMap (CallbackEvent.call id)

def returnsOn (id : Nat) (trace : List CallbackEvent) : List (Except Thrown HttpResponse) :=
  trace.filterMap (CallbackEvent.outcome id)

/-- The requests of the connection whose calls have ended, each with the response if there is one. -/
def exchangesOn (id : Nat) (trace : List CallbackEvent) : List Given :=
  (callsOn id trace).zip ((returnsOn id trace).map Except.toOption)

/-- The request that the application has been called with and has not answered. -/
def Seat.waiting {Engine : Type} (seat : Seat Engine) : List HttpRequest :=
  (seat.calling.map fun calling => calling.conn.context.request).toList

def Seat.unfinished {Engine : Type} (seat : Seat Engine) : List (Option Bytes) :=
  (seat.calling.map fun calling => some calling.segment.data).toList

theorem callsOn_append (id : Nat) (trace more : List CallbackEvent) :
    callsOn id (trace ++ more) = callsOn id trace ++ callsOn id more := List.filterMap_append

theorem returnsOn_append (id : Nat) (trace more : List CallbackEvent) :
    returnsOn id (trace ++ more) = returnsOn id trace ++ returnsOn id more := List.filterMap_append

theorem eventsOn_append {Engine : Type} (id : Nat) (events more : List (HostEvent Engine)) :
    eventsOn id (events ++ more) = eventsOn id events ++ eventsOn id more := List.filterMap_append

theorem zip_shorter {First Second : Type} {firsts more : List First} {seconds : List Second}
    (same : seconds.length = firsts.length) : (firsts ++ more).zip seconds = firsts.zip seconds := by
  induction firsts generalizing seconds with
  | nil =>
    rw [List.eq_nil_of_length_eq_zero same, List.zip_nil_right, List.zip_nil_right]
  | cons head firsts ih =>
    cases seconds with
    | nil => cases same
    | cons other seconds => exact congrArg ((head, other) :: ·) (ih (Nat.succ.inj same))

theorem zip_last {First Second : Type} {firsts : List First} {seconds : List Second}
    (same : seconds.length = firsts.length) (first : First) (second : Second) :
    (firsts ++ [first]).zip (seconds ++ [second]) = (firsts ++ [first]).zip seconds ++ [(first, second)] := by
  rw [zip_shorter same, List.zip_append same.symm]
  rfl

namespace HttpServer

variable {Engine : Type} [OpenSSL Engine] {server : HttpServer}

/-! `onMessage` is its part before the callback and its part after it. -/

theorem onMessage_arrive (server : HttpServer) (conn : Connection Engine) (delivery : Delivery) :
    server.onMessage conn delivery = (server.arrive conn delivery.data delivery.receiveTime).bind fun arrived =>
      if arrived.2 then server.dispatch arrived.1 delivery else .ok arrived.1 := by
  unfold onMessage arrive
  rcases server.receive conn delivery.data with ⟨ready, _ | _⟩
  · rfl
  · dsimp only
    cases call : ready.context.parseRequest ready.input delivery.receiveTime with
    | error fault => simp only [Bind.bind, Except.bind]
    | ok result =>
      rcases result with ⟨_ | _, context, left⟩
      · simp only [Bind.bind, Except.bind, ↓reduceIte]
        rfl
      · simp only [Bind.bind, Except.bind, Bool.true_eq_false, ↓reduceIte]

theorem onMessage_arrived {conn next : Connection Engine} {segment : Segment} {whole : Bool}
    (arrived : server.arrive conn segment.data segment.receiveTime = .ok (next, whole))
    (outcome : Except Thrown HttpResponse) :
    server.onMessage conn (segment.delivery outcome) =
      if whole then server.dispatch next (segment.delivery outcome) else .ok next := by
  rw [onMessage_arrive]
  change (server.arrive conn segment.data segment.receiveTime).bind _ = _
  rw [arrived]
  rfl

/-- Before the callback, no request is dispatched. -/
theorem arrive_kept {conn next : Connection Engine} {data : Bytes} {receiveTime : Timestamp} {whole : Bool}
    (arrived : server.arrive conn data receiveTime = .ok (next, whole)) : next.dispatched = conn.dispatched := by
  have received := (follows_receive server conn data).dispatched
  unfold arrive at arrived
  generalize server.receive conn data = reading at arrived received
  rcases reading with ⟨ready, _ | _⟩
  · cases arrived
    exact received
  · dsimp only at arrived received
    cases call : ready.context.parseRequest ready.input receiveTime with
    | error fault =>
      rw [call] at arrived
      cases arrived
    | ok result =>
      rcases result with ⟨ok, context, left⟩
      simp only [call, Bind.bind, Except.bind] at arrived
      have kept := (setInput_kept ready left context).2.trans received
      split at arrived
      · cases arrived
        exact (follows_answerError server _).1.dispatched.trans kept
      · cases arrived
        exact kept

/-! A connection among others is what it would be alone. -/

/-- What has happened to a connection, against the run of a server that has no other: it has had the same bytes, and
    callbacks that came to the same outcomes. -/
structure Alone (server : HttpServer) (id : Nat) (events : List (HostEvent Engine)) (trace : List CallbackEvent)
    (seat : Seat Engine) : Prop where
  lone : server.events.run (server.onConnection seat.ssl) seat.past = some seat.conn
  own : eventsOn id events = seat.past.map Event.data ++ seat.unfinished
  arrived : ∀ calling, seat.calling = some calling →
    server.arrive seat.conn calling.segment.data calling.segment.receiveTime = .ok (calling.conn, true)
  calls : callsOn id trace = seat.conn.dispatched ++ seat.waiting
  returns : (returnsOn id trace).length = seat.conn.dispatched.length
  told : server.useSSL = false → seat.conn.sslConn = none ∧ ∃ answered tail,
    Connection.Exchanged seat.conn (exchangesOn id trace) answered tail

theorem lone_next {ssl : Option Engine} {past : List Event} {conn next : Connection Engine} {event : Event}
    (lone : server.events.run (server.onConnection ssl) past = some conn)
    (step : server.events.step conn event = some next) :
    server.events.run (server.onConnection ssl) (past ++ [event]) = some next := by
  rw [System.run_append, lone, Option.bind_some]
  exact System.run_cons step []

variable {id : Nat} {events : List (HostEvent Engine)} {trace : List CallbackEvent} {seat : Seat Engine}

theorem alone_connected (server : HttpServer) (ssl : Option Engine) (own : eventsOn id events = [])
    (calls : callsOn id trace = []) (returns : returnsOn id trace = []) :
    Alone server id events trace { ssl := ssl, conn := server.onConnection ssl } := by
  have nothing : (server.onConnection ssl).dispatched = [] := by
    unfold onConnection
    dsimp only
    split
    · split
      · rfl
      · exact (Connection.follows_record _ .connShutdown).dispatched
    · rfl
  refine ⟨rfl, own, ?_, ?_, ?_, ?_⟩
  · intro calling found
    cases found
  · rw [calls, nothing]
    rfl
  · rw [returns, nothing]
    rfl
  · intro plain
    rcases onConnection_exchanged plain ssl with ⟨noSsl, started⟩
    refine ⟨noSsl, [], [], ?_⟩
    unfold exchangesOn
    rw [calls]
    exact started

omit [OpenSSL Engine] in
theorem own_message (id : Nat) (segment : Segment) :
    eventsOn id [(.message id segment : HostEvent Engine)] = [some segment.data] := by
  simp [eventsOn, HostEvent.own]

omit [OpenSSL Engine] in
theorem Seat.waiting_idle (idle : seat.calling = none) : seat.waiting = [] ∧ seat.unfinished = [] := by
  unfold Seat.waiting Seat.unfinished
  rw [idle]
  exact ⟨rfl, rfl⟩

/-- A delivery that brings a request: the application is called, and the connection waits. -/
theorem Alone.asked (alone : Alone server id events trace seat) (idle : seat.calling = none) {segment : Segment}
    {conn : Connection Engine}
    (arrived : server.arrive seat.conn segment.data segment.receiveTime = .ok (conn, true)) :
    Alone server id (events ++ [.message id segment]) (trace ++ [.called id conn.context.request])
      { seat with calling := some ⟨segment, conn⟩ } := by
  rcases Seat.waiting_idle idle with ⟨waiting, unfinished⟩
  have called : callsOn id [.called id conn.context.request] = [conn.context.request] := by
    simp [callsOn, CallbackEvent.call]
  have sameReturns : returnsOn id (trace ++ [.called id conn.context.request]) = returnsOn id trace := by
    rw [returnsOn_append]
    exact List.append_nil _
  have calls := alone.calls
  rw [waiting, List.append_nil] at calls
  refine ⟨alone.lone, ?_, ?_, ?_, ?_, ?_⟩
  · rw [eventsOn_append, alone.own, unfinished, List.append_nil, own_message]
    rfl
  · intro calling found
    cases found
    exact arrived
  · rw [callsOn_append, calls, called]
    rfl
  · rw [sameReturns]
    exact alone.returns
  · intro plain
    have same : exchangesOn id (trace ++ [.called id conn.context.request]) = exchangesOn id trace := by
      unfold exchangesOn
      rw [sameReturns, callsOn_append, called]
      apply zip_shorter
      rw [List.length_map, alone.returns, calls]
    rw [same]
    exact alone.told plain

/-- The callback ends, with a response or by throwing. -/
theorem Alone.answered (alone : Alone server id events trace seat) {calling : Calling Engine}
    (found : seat.calling = some calling) {outcome : Except Thrown HttpResponse} {conn : Connection Engine}
    (dispatched : server.dispatch calling.conn (calling.segment.delivery outcome) = .ok conn) :
    Alone server id (events ++ [.returned id outcome]) (trace ++ [.returned id outcome])
      { seat with
        conn := conn, calling := none, past := seat.past ++ [.message (calling.segment.delivery outcome)] } := by
  have arrived := alone.arrived calling found
  have message := onMessage_arrived arrived outcome
  rw [if_pos rfl, dispatched] at message
  have kept := arrive_kept arrived
  have left := (dispatch_left dispatched).1
  rw [kept] at left
  have waiting : seat.waiting = [calling.conn.context.request] := by
    unfold Seat.waiting
    rw [found]
    rfl
  have unfinished : seat.unfinished = [some calling.segment.data] := by
    unfold Seat.unfinished
    rw [found]
    rfl
  have calls := alone.calls
  rw [waiting] at calls
  have sameCalls : callsOn id (trace ++ [.returned id outcome]) = callsOn id trace := by
    rw [callsOn_append]
    exact List.append_nil _
  have returned : returnsOn id (trace ++ [.returned id outcome]) = returnsOn id trace ++ [outcome] := by
    rw [returnsOn_append]
    simp [returnsOn, CallbackEvent.outcome]
  refine ⟨lone_next alone.lone (step_message message), ?_, ?_, ?_, ?_, ?_⟩
  · rw [eventsOn_append, alone.own, unfinished, List.map_append]
    rfl
  · intro calling found
    cases found
  · rw [sameCalls, calls, left]
    exact (List.append_nil _).symm
  · rw [returned, left, List.length_append, List.length_append, alone.returns]
    rfl
  · intro plain
    rcases alone.told plain with ⟨noSsl, answered, tail, exchanged⟩
    rcases message_adds plain noSsl message with ⟨keeps, more, adds, _, gives⟩
    have one : more = [(calling.conn.context.request, outcome.toOption)] := by
      have same := adds.dispatched
      rw [left] at same
      rcases List.map_eq_singleton_iff.mp (List.append_cancel_left same.symm) with ⟨⟨req, response⟩, rfl, rfl⟩
      have gave := gives _ (List.mem_singleton_self _)
      cases response with
      | none =>
        rcases gave with ⟨what, threw⟩
        cases threw
        rfl
      | some response =>
        cases gave
        rfl
    have whole : exchangesOn id (trace ++ [.returned id outcome]) =
        exchangesOn id trace ++ [(calling.conn.context.request, outcome.toOption)] := by
      unfold exchangesOn
      rw [sameCalls, returned, calls, List.map_append]
      apply zip_last
      rw [List.length_map, alone.returns]
    rw [one] at adds
    rw [whole]
    exact ⟨keeps, exchanged.adds adds⟩

theorem Alone.writeComplete (alone : Alone server id events trace seat) (idle : seat.calling = none) :
    Alone server id (events ++ [.writeComplete id]) trace
      { seat with conn := onWriteComplete seat.conn, past := seat.past ++ [.writeComplete] } := by
  have unfinished := (Seat.waiting_idle idle).2
  refine ⟨lone_next alone.lone rfl, ?_, ?_, alone.calls, alone.returns, ?_⟩
  · have own : eventsOn id [(.writeComplete id : HostEvent Engine)] = [none] := by simp [eventsOn, HostEvent.own]
    rw [eventsOn_append, alone.own, unfinished, List.append_nil, own, List.map_append]
    change _ = _ ++ seat.unfinished
    rw [unfinished, List.append_nil]
    rfl
  · intro calling found
    cases idle.symm.trans found
  · intro plain
    rcases alone.told plain with ⟨noSsl, answered, tail, exchanged⟩
    rcases writeComplete_adds noSsl with ⟨keeps, adds⟩
    have still := exchanged.adds adds
    rw [List.append_nil] at still
    exact ⟨keeps, still⟩

/-- What happens to others leaves a connection as it is. -/
theorem Alone.aside (alone : Alone server id events trace seat) {event : HostEvent Engine} {more : List CallbackEvent}
    (own : event.own id = none) (calls : callsOn id more = []) (returns : returnsOn id more = []) :
    Alone server id (events ++ [event]) (trace ++ more) seat := by
  have sameCalls : callsOn id (trace ++ more) = callsOn id trace := by
    rw [callsOn_append, calls, List.append_nil]
  have sameReturns : returnsOn id (trace ++ more) = returnsOn id trace := by
    rw [returnsOn_append, returns, List.append_nil]
  refine ⟨alone.lone, ?_, alone.arrived, sameCalls.trans alone.calls, ?_, ?_⟩
  · rw [eventsOn_append, ← alone.own]
    simp [eventsOn, own]
  · rw [sameReturns]
    exact alone.returns
  · unfold exchangesOn
    rw [sameCalls, sameReturns]
    exact alone.told

/-! All connections. -/

/-- What has happened so far is of connections that were accepted, and each open one is as it would be alone. -/
structure Hosted (server : HttpServer) (events : List (HostEvent Engine)) (host : Host Engine) : Prop where
  later : ∀ id, host.accepted ≤ id → host.seats.find id = none ∧ eventsOn id events = [] ∧
    callsOn id host.trace = [] ∧ returnsOn id host.trace = []
  alone : ∀ id seat, host.seats.find id = some seat → Alone server id events host.trace seat

variable {host next : Host Engine}

omit [OpenSSL Engine] in
theorem eventsOn_other {event : HostEvent Engine} {other : Nat} (own : event.own other = none)
    (before : eventsOn other events = []) : eventsOn other (events ++ [event]) = [] := by
  rw [eventsOn_append, before]
  simp [eventsOn, own]

theorem Hosted.accepted (hosted : Hosted server events host) (found : host.seats.find id = some seat) :
    id < host.accepted := by
  by_contra past
  cases found.symm.trans (hosted.later id (Nat.le_of_not_lt past)).1

/-- An event of one connection. -/
theorem Hosted.put (hosted : Hosted server events host) {changed : Seat Engine} {event : HostEvent Engine}
    {more : List CallbackEvent} (known : id < host.accepted) (own : ∀ other, other ≠ id → event.own other = none)
    (others : ∀ other, other ≠ id → callsOn other more = [] ∧ returnsOn other more = [])
    (alone : Alone server id (events ++ [event]) (host.trace ++ more) changed) :
    Hosted server (events ++ [event]) { host.put id changed with trace := host.trace ++ more } := by
  apply Hosted.mk
  · intro other past
    have different : other ≠ id := Nat.ne_of_gt (Nat.lt_of_lt_of_le known past)
    rcases hosted.later other past with ⟨closed, events_, calls, returns⟩
    rcases others other different with ⟨noCalls, noReturns⟩
    refine ⟨(Dict.find_insert_of_ne _ _ _ _ different).trans closed, eventsOn_other (own other different) events_, ?_, ?_⟩
    · rw [callsOn_append, calls, noCalls]
      rfl
    · rw [returnsOn_append, returns, noReturns]
      rfl
  · intro other there found
    change (host.seats.insert id changed).find other = some there at found
    rw [Dict.find_insert] at found
    split at found
    · rename_i same
      cases found
      rw [same]
      exact alone
    · rename_i different
      rcases others other different with ⟨noCalls, noReturns⟩
      exact (hosted.alone other there found).aside (own other different) noCalls noReturns

theorem Hosted.quiet (hosted : Hosted server events host) {changed : Seat Engine} {event : HostEvent Engine}
    (known : id < host.accepted) (own : ∀ other, other ≠ id → event.own other = none)
    (alone : Alone server id (events ++ [event]) host.trace changed) :
    Hosted server (events ++ [event]) (host.put id changed) := by
  have put := @Hosted.put Engine _ server id events host hosted changed event [] known own
    (fun _ _ => ⟨rfl, rfl⟩) (by rw [List.append_nil]; exact alone)
  rw [List.append_nil] at put
  exact put

theorem Hosted.connected (hosted : Hosted server events host) (ssl : Option Engine) :
    Hosted server (events ++ [.connected ssl])
      { host.put host.accepted { ssl := ssl, conn := server.onConnection ssl } with
        accepted := host.accepted + 1 } := by
  rcases hosted.later host.accepted (Nat.le_refl _) with ⟨_, events_, calls, returns⟩
  apply Hosted.mk
  · intro other past
    rcases hosted.later other (Nat.le_of_succ_le past) with ⟨closed, before, later⟩
    exact ⟨(Dict.find_insert_of_ne _ _ _ _ (Nat.ne_of_gt past)).trans closed, eventsOn_other rfl before, later⟩
  · intro other there found
    change (host.seats.insert host.accepted _).find other = some there at found
    rw [Dict.find_insert] at found
    split at found
    · rename_i same
      cases found
      rw [same]
      exact alone_connected server ssl (eventsOn_other rfl events_) calls returns
    · have kept := @Alone.aside Engine _ server other events host.trace there (hosted.alone other there found)
        (.connected ssl) [] rfl rfl rfl
      rw [List.append_nil] at kept
      exact kept

theorem Hosted.disconnected (hosted : Hosted server events host) (gone : Nat) :
    Hosted server (events ++ [.disconnected gone]) { host with seats := host.seats.erase gone } := by
  apply Hosted.mk
  · intro other past
    rcases hosted.later other past with ⟨closed, before, later⟩
    refine ⟨?_, eventsOn_other rfl before, later⟩
    rw [Dict.find_erase, closed, ite_self]
  · intro other there found
    rw [Dict.find_erase] at found
    split at found
    · cases found
    · have kept := @Alone.aside Engine _ server other events host.trace there (hosted.alone other there found)
        (.disconnected gone) [] rfl rfl rfl
      rw [List.append_nil] at kept
      exact kept

end HttpServer

end Http
