import HttpServerApps.Http.RoundTrip
import HttpServerApps.Http.WellFormed

namespace Common

/-- So many items of a stream, one after the other, and what is left of it. -/
def readMany {Item : Type} (read : Bytes → Option (Item × Bytes)) : Nat → Bytes → Option (List Item × Bytes)
  | 0, text => some ([], text)
  | count + 1, text => do
    let (item, rest) ← read text
    let (items, rest) ← readMany read count rest
    some (item :: items, rest)

/-- What is written one after the other is read one after the other. -/
theorem readMany_written {Source Item : Type} {read : Bytes → Option (Item × Bytes)} {write : Source → Bytes}
    {view : Source → Item} {sources : List Source}
    (reads : ∀ source ∈ sources, ∀ more, read (write source ++ more) = some (view source, more)) (rest : Bytes) :
    readMany read sources.length (sources.flatMap write ++ rest) = some (sources.map view, rest) := by
  induction sources with
  | nil => rfl
  | cons source sources ih =>
    have first := reads source (List.mem_cons_self ..)
    have later := ih fun other member => reads other (List.mem_cons_of_mem _ member)
    simp [readMany, List.append_assoc, first, later]

end Common

namespace Http

open Common MuduoBuffer Ssl

/-! A response in the stream that a client reads. -/

def HttpResponse.message (response : HttpResponse) : Message := ⟨response.statusLine, response.fields, response.body⟩

theorem Message.read_response {response : HttpResponse} (framed : Framed response) (more : Bytes) :
    Message.read (response.appendToBuffer ++ more) = some (response.message, more) := by
  have split_ : splitBlankLine (response.head ++ blankLine ++ (response.body ++ more)) =
      some (response.head, response.body ++ more) :=
    splitBlankLine_joinLines (lines_plain framed) lines_filled _
  have lines : splitLines response.head = response.statusLine :: response.fields.map fieldLine :=
    splitLines_joinLines (List.cons_ne_nil _ _) (lines_plain framed)
  have length : Message.contentLength response.fields = some response.body.length := by
    unfold Message.contentLength
    rw [one_contentLength]
    exact readDecimal_natText _
  unfold Message.read
  rw [appendToBuffer_lines framed, List.append_assoc, split_]
  simp [lines, mapM_readField (fields_names framed), length, HttpResponse.message]

theorem HttpResponse.appendToBuffer_ne_nil (response : HttpResponse) : response.appendToBuffer ≠ [] := by
  have crlf : bytes "\r\n" = [CR, LF] := by decide
  unfold appendToBuffer
  rw [crlf]
  simp

/-! What a connection without TLS sends. -/

theorem sentBy_open {calls : List Call} (open_ : .connShutdown ∉ calls) (more : List Call) :
    sentBy (calls ++ more) = sentBy calls ++ sentBy more := by
  induction calls with
  | nil => rfl
  | cons call calls ih =>
    have later := ih fun member => open_ (List.mem_cons_of_mem _ member)
    cases call with
    | connShutdown => exact absurd (List.mem_cons_self ..) open_
    | connSend data => simp [sentBy, later]
    | sslWrite offered result => simp [sentBy, later]
    | sslRead result => simp [sentBy, later]

/-- The texts that are not made by the callback. -/
def Refusal (text : Bytes) : Prop := text = kHttp400 ∨ text = kHttp413

/-- The calls that answer a request. -/
def answerCalls (response : HttpResponse) : List Call :=
  .connSend response.appendToBuffer :: if response.closeConnection then [.connShutdown] else []

/-- What the callback makes of a request: a response, or none where it throws. -/
abbrev Given := HttpRequest × Option HttpResponse

/-- What the callback of a delivery makes of a request. -/
def Delivery.Gives (delivery : Delivery) (given : Given) : Prop :=
  match given with
  | (req, some response) => delivery.httpCallback req { closeConnection := wantsClose req } = .ok response
  | (req, none) => ∃ what, delivery.httpCallback req { closeConnection := wantsClose req } = .error (.exception what)

namespace Connection

variable {Engine : Type}

/-- What one event adds to the calls and to the requests given to the callback. A refusal shuts down. -/
inductive Adds (before after : Connection Engine) : List Given → Prop where
  | nothing (calls : after.calls = before.calls) (dispatched : after.dispatched = before.dispatched) :
      Adds before after []
  | refused {text} (refusal : Refusal text) (calls : after.calls = before.calls ++ [.connSend text, .connShutdown])
      (dispatched : after.dispatched = before.dispatched) : Adds before after []
  | answered {req response} (calls : after.calls = before.calls ++ answerCalls response)
      (dispatched : after.dispatched = before.dispatched ++ [req]) : Adds before after [(req, some response)]
  | threw {req text} (refusal : Refusal text) (calls : after.calls = before.calls ++ [.connSend text, .connShutdown])
      (dispatched : after.dispatched = before.dispatched ++ [req]) : Adds before after [(req, none)]

theorem Adds.dispatched {before after : Connection Engine} {more : List Given} (adds : Adds before after more) :
    after.dispatched = before.dispatched ++ more.map Prod.fst := by
  cases adds <;> simp [*]

/-- The stream is the first responses that were given, in their order, up to one that closes, and then a refusal or
    nothing. -/
structure Exchanged (conn : Connection Engine) (given : List Given) (answered : List (HttpRequest × HttpResponse))
    (tail : Bytes) : Prop where
  requests : given.map Prod.fst = conn.dispatched
  stream : (sentBy conn.calls).flatten = (answered.flatMap fun entry => entry.2.appendToBuffer) ++ tail
  inOrder : answered.map (fun entry => (entry.1, some entry.2)) <+: given
  open_ : ∀ entry ∈ answered.dropLast, entry.2.closeConnection = false
  refusal : tail = [] ∨ Refusal tail
  complete : .connShutdown ∉ conn.calls → tail = [] ∧ answered.map (fun entry => (entry.1, some entry.2)) = given ∧
    ∀ entry ∈ answered, entry.2.closeConnection = false

theorem Exchanged.silent {before after : Connection Engine} {given : List Given}
    {answered : List (HttpRequest × HttpResponse)} {tail : Bytes} (exchanged : Exchanged before given answered tail)
    (shut : .connShutdown ∈ before.calls) {more : List Given} (adds : Adds before after more) :
    Exchanged after (given ++ more) answered tail := by
  have longer : ∃ calls, after.calls = before.calls ++ calls := by
    cases adds with
    | nothing calls => exact ⟨[], by simp [calls]⟩
    | refused refusal calls => exact ⟨_, calls⟩
    | answered calls => exact ⟨_, calls⟩
    | threw refusal calls => exact ⟨_, calls⟩
  rcases longer with ⟨calls, longer⟩
  refine ⟨?_, ?_, exchanged.inOrder.trans (List.prefix_append _ _), exchanged.open_, exchanged.refusal, ?_⟩
  · rw [adds.dispatched, List.map_append, exchanged.requests]
  · rw [longer, sentBy_append shut]
    exact exchanged.stream
  · intro never
    rw [longer] at never
    exact absurd (List.mem_append_left _ shut) never

theorem Exchanged.adds {before after : Connection Engine} {given : List Given}
    {answered : List (HttpRequest × HttpResponse)} {tail : Bytes} (exchanged : Exchanged before given answered tail)
    {more : List Given} (adds : Adds before after more) :
    ∃ answered tail, Exchanged after (given ++ more) answered tail := by
  by_cases shut : .connShutdown ∈ before.calls
  · exact ⟨_, _, exchanged.silent shut adds⟩
  · rcases exchanged.complete shut with ⟨empty, all, opens⟩
    have requests : (given ++ more).map Prod.fst = after.dispatched := by
      rw [adds.dispatched, List.map_append, exchanged.requests]
    have stream := exchanged.stream
    rw [empty, List.append_nil] at stream
    have ended : ∀ {text}, Refusal text → after.calls = before.calls ++ [.connSend text, .connShutdown] →
        Exchanged after (given ++ more) answered text := by
      intro text refusal calls
      have sent : sentBy [.connSend text, .connShutdown] = [text] := rfl
      refine ⟨requests, ?_, exchanged.inOrder.trans (List.prefix_append _ _), exchanged.open_, Or.inr refusal, ?_⟩
      · rw [calls, sentBy_open shut, sent, List.flatten_append, stream]
        simp
      · intro never
        rw [calls] at never
        exact absurd (List.mem_append_right _ (by simp)) never
    cases adds with
    | nothing calls dispatched =>
      refine ⟨answered, tail, requests, ?_, ?_, exchanged.open_, exchanged.refusal, ?_⟩
      · rw [calls]
        exact exchanged.stream
      · rw [List.append_nil]
        exact exchanged.inOrder
      · rw [calls, List.append_nil]
        exact exchanged.complete
    | refused refusal calls dispatched => exact ⟨_, _, ended refusal calls⟩
    | threw refusal calls dispatched => exact ⟨_, _, ended refusal calls⟩
    | @answered req response calls dispatched =>
      have sent : sentBy (answerCalls response) = [response.appendToBuffer] := by
        unfold answerCalls
        cases response.closeConnection <;> rfl
      have whole : (answered ++ [(req, response)]).map (fun entry => (entry.1, some entry.2)) =
          given ++ [(req, some response)] := by
        rw [List.map_append, all]
        rfl
      refine ⟨answered ++ [(req, response)], [], requests, ?_, ?_, ?_, Or.inl rfl, ?_⟩
      · rw [calls, sentBy_open shut, sent, List.flatten_append, stream]
        simp
      · rw [whole]
      · rw [List.dropLast_concat]
        exact opens
      · intro never
        have stays : response.closeConnection = false := by
          cases closes : response.closeConnection with
          | false => rfl
          | true =>
            rw [calls] at never
            exact absurd (List.mem_append_right _ (by simp [answerCalls, closes])) never
        refine ⟨rfl, whole, ?_⟩
        intro entry member
        rcases List.mem_append.mp member with earlier | here
        · exact opens entry earlier
        · cases List.mem_singleton.mp here
          exact stays

theorem Exchanged.read {conn : Connection Engine} {given : List Given}
    {answered : List (HttpRequest × HttpResponse)} {tail : Bytes}
    (noSsl : conn.sslConn = none) (exchanged : Exchanged conn given answered tail)
    (framed : ∀ entry ∈ answered, Framed entry.2) :
    readMany Message.read answered.length conn.wire.flatten =
      some (answered.map fun entry => entry.2.message, tail) := by
  have calls : conn.allCalls = conn.calls := by
    unfold allCalls
    rw [noSsl]
  unfold wire
  rw [calls, exchanged.stream]
  exact readMany_written (fun entry member more => Message.read_response (framed entry member) more) tail

end Connection

namespace HttpServer

open Connection

variable {Engine : Type} [OpenSSL Engine]

section

omit [OpenSSL Engine]

variable {server : HttpServer} {conn : Connection Engine}

theorem calls_record (noSsl : conn.sslConn = none) (call : Call) :
    (conn.record call).calls = conn.calls ++ [call] := by
  unfold record
  rw [noSsl]

end

variable {server : HttpServer} {conn next : Connection Engine} {Made : HttpRequest → HttpResponse → Prop}

theorem calls_sendToClient (plain : server.useSSL = false) (noSsl : conn.sslConn = none) {data : Bytes}
    (filled : data ≠ []) : (server.sendToClient conn data).calls = conn.calls ++ [.connSend data] := by
  unfold sendToClient
  rw [if_neg filled, if_neg (by simp [plain])]
  exact calls_record noSsl _

theorem calls_refused (plain : server.useSSL = false) (noSsl : conn.sslConn = none) {text : Bytes}
    (refusal : Refusal text) :
    (server.sendToClient conn text).shutdown.calls = conn.calls ++ [.connSend text, .connShutdown] := by
  have filled : text ≠ [] := by
    rcases refusal with rfl | rfl <;> decide
  unfold shutdown
  rw [calls_record (plain_sendToClient plain noSsl text).1, calls_sendToClient plain noSsl filled, List.append_assoc]
  rfl

theorem calls_onRequest (plain : server.useSSL = false) (noSsl : conn.sslConn = none) (response : HttpResponse) :
    (server.onRequest conn response).calls = conn.calls ++ answerCalls response := by
  have sent := calls_sendToClient plain noSsl response.appendToBuffer_ne_nil
  unfold onRequest answerCalls
  dsimp only
  split
  · unfold shutdown
    rw [calls_record (plain_sendToClient plain noSsl _).1, sent, List.append_assoc]
    rfl
  · exact sent

theorem answerError_refused (plain : server.useSSL = false) (noSsl : conn.sslConn = none) :
    ∃ text, Refusal text ∧ (server.answerError conn).calls = conn.calls ++ [.connSend text, .connShutdown] := by
  unfold answerError
  split
  · exact ⟨kHttp413, Or.inr rfl, calls_refused plain noSsl (Or.inr rfl)⟩
  · exact ⟨kHttp400, Or.inl rfl, calls_refused plain noSsl (Or.inl rfl)⟩

theorem dispatch_adds (plain : server.useSSL = false) (noSsl : conn.sslConn = none) {delivery : Delivery}
    (dispatched : server.dispatch conn delivery = .ok next) :
    next.sslConn = none ∧ ∃ given, Adds conn next [given] ∧ delivery.Gives given := by
  let noted : Connection Engine := { conn with dispatched := conn.dispatched ++ [conn.context.request] }
  have notedNoSsl : noted.sslConn = none := noSsl
  have left := (dispatch_left dispatched).1
  unfold dispatch at dispatched
  dsimp only at dispatched
  split at dispatched
  · rename_i response answer
    have calls := @calls_onRequest Engine _ server noted plain notedNoSsl response
    have sent := (plain_sendToClient plain notedNoSsl response.appendToBuffer).1
    have keeps : (server.onRequest noted response).sslConn = none := by
      unfold onRequest
      dsimp only
      split
      · exact (plain_record sent _).1
      · exact sent
    cases dispatched
    exact ⟨keeps, _, .answered calls left, answer⟩
  · rename_i what answer
    have calls := @calls_refused Engine _ server noted plain notedNoSsl kHttp400 (Or.inl rfl)
    have keeps := (plain_record (plain_sendToClient plain notedNoSsl kHttp400).1 .connShutdown).1
    cases dispatched
    exact ⟨keeps, _, .threw (Or.inl rfl) calls left, what, answer⟩
  · cases dispatched

/-- What an event adds on a connection without TLS: one request at most, as the callback of this event answers it. -/
theorem message_adds (plain : server.useSSL = false) (noSsl : conn.sslConn = none) {delivery : Delivery}
    (message : server.onMessage conn delivery = .ok next) :
    next.sslConn = none ∧ ∃ more, Adds conn next more ∧ more.length ≤ 1 ∧ ∀ given ∈ more, delivery.Gives given := by
  have arrived : (server.receive conn delivery.data).1 = { conn with buf := conn.buf ++ delivery.data } := by
    unfold receive
    dsimp only
    rw [if_neg (by simp [plain])]
  have taken := onMessage_taken message
  rw [arrived] at taken
  have ready : ∀ left context, (({ conn with buf := conn.buf ++ delivery.data }.setInput left).setContext context :
      Connection Engine) = { conn with buf := left, context := context } := by
    intro left context
    unfold setInput setContext
    dsimp only
    rw [noSsl]
  cases taken with
  | unparsed => exact ⟨noSsl, [], .nothing rfl rfl, by simp, by simp⟩
  | @failed context left call =>
    rw [ready]
    let read : Connection Engine := { conn with buf := left, context := context }
    have readNoSsl : read.sslConn = none := noSsl
    rcases @answerError_refused Engine _ server read plain readNoSsl with ⟨text, refusal, calls⟩
    have kept := (follows_answerError server read).1.dispatched
    exact ⟨(plain_answerError plain readNoSsl).1, [], .refused refusal calls kept, by simp, by simp⟩
  | @waiting context left call open_ =>
    rw [ready]
    exact ⟨noSsl, [], .nothing rfl rfl, by simp, by simp⟩
  | @complete context left _ call gotAll dispatched =>
    rw [ready] at dispatched
    let read : Connection Engine := { conn with buf := left, context := context }
    have readNoSsl : read.sslConn = none := noSsl
    rcases dispatch_adds plain readNoSsl dispatched with ⟨keeps, given, adds, gives⟩
    refine ⟨keeps, [given], ?_, Nat.le_refl 1, by simpa using gives⟩
    cases adds with
    | answered calls dispatched => exact .answered calls dispatched
    | threw refusal calls dispatched => exact .threw refusal calls dispatched

theorem writeComplete_adds (noSsl : conn.sslConn = none) :
    (onWriteComplete conn).sslConn = none ∧ Adds conn (onWriteComplete conn) [] := by
  refine ⟨?_, .nothing rfl rfl⟩
  unfold onWriteComplete
  rw [noSsl]
  rfl

/-- A connection without TLS, with what the callbacks of such deliveries gave on it. -/
structure Told (Delivered : Delivery → Prop) (conn : Connection Engine) : Prop where
  noSsl : conn.sslConn = none
  exchanged : ∃ given answered tail, Exchanged conn given answered tail ∧
    ∀ entry ∈ given, ∃ delivery, Delivered delivery ∧ delivery.Gives entry

theorem told_step {Delivered : Delivery → Prop} (plain : server.useSSL = false) {event : Event}
    (delivered : ∀ delivery, event = .message delivery → Delivered delivery)
    (step : server.events.step conn event = some next) (told : Told Delivered conn) : Told Delivered next := by
  have noSsl := told.noSsl
  rcases told.exchanged with ⟨given, answered, tail, exchanged, made⟩
  cases event with
  | writeComplete =>
    cases step
    rcases writeComplete_adds noSsl with ⟨keeps, adds⟩
    rcases exchanged.adds adds with ⟨answered, tail, exchanged⟩
    rw [List.append_nil] at exchanged
    exact ⟨keeps, given, answered, tail, exchanged, made⟩
  | message delivery =>
    rcases message_adds plain noSsl (message_of_step step) with ⟨keeps, more, adds, _, gives⟩
    rcases exchanged.adds adds with ⟨answered, tail, exchanged⟩
    refine ⟨keeps, given ++ more, answered, tail, exchanged, ?_⟩
    intro entry member
    rcases List.mem_append.mp member with earlier | here
    · exact made entry earlier
    · exact ⟨delivery, delivered delivery rfl, gives entry here⟩

theorem onConnection_exchanged (plain : server.useSSL = false) (ssl : Option Engine) :
    (server.onConnection ssl).sslConn = none ∧ Exchanged (server.onConnection ssl) [] [] [] := by
  unfold onConnection
  dsimp only
  rw [if_neg (by simp [plain])]
  exact ⟨rfl, rfl, rfl, List.nil_prefix, by simp, Or.inl rfl, fun _ => ⟨rfl, rfl, by simp⟩⟩

/-- What a client reads from a connection without TLS, by the lengths that the responses give: one message for each
    request that was answered, in the order of the requests, each as the callback made it for that very request. After
    them there is nothing, or the text of a refusal, and a connection that was not shut down has answered all that
    it dispatched. -/
theorem client_reads (server : HttpServer) (plain : server.useSSL = false) (ssl : Option Engine) {events : List Event}
    {final : Connection Engine} (run : server.events.run (server.onConnection ssl) events = some final)
    (framed : ∀ req ∈ final.dispatched, ∀ delivery, .message delivery ∈ events → ∀ response,
      delivery.httpCallback req { closeConnection := wantsClose req } = .ok response → Framed response) :
    ∃ (answered : List (HttpRequest × HttpResponse)) (tail : Bytes),
      readMany Message.read answered.length final.wire.flatten =
        some (answered.map fun entry => entry.2.message, tail) ∧
      answered.map Prod.fst <+: final.dispatched ∧
      (∀ entry ∈ answered, ∃ delivery, .message delivery ∈ events ∧
        delivery.httpCallback entry.1 { closeConnection := wantsClose entry.1 } = .ok entry.2) ∧
      (∀ entry ∈ answered.dropLast, entry.2.closeConnection = false) ∧ (tail = [] ∨ Refusal tail) ∧
      (.connShutdown ∉ final.allCalls → tail = [] ∧ answered.map Prod.fst = final.dispatched) := by
  let Delivered (delivery : Delivery) : Prop := .message delivery ∈ events
  rcases @onConnection_exchanged Engine _ server plain ssl with ⟨startNoSsl, started⟩
  have start : Told Delivered (server.onConnection ssl) := ⟨startNoSsl, [], [], [], started, by simp⟩
  have steps : server.events.Everywhere (fun _ event => event ∈ events) (server.onConnection ssl) events :=
    System.everywhere_of_mem fun _ member _ => member
  have always : server.events.Always (Told Delivered) (server.onConnection ssl) events := by
    refine System.always_of_everywhere ?_ start steps
    intro conn event next step told member
    refine told_step plain ?_ step told
    rintro delivery rfl
    exact member
  rcases always events [] final (List.append_nil _).symm run with ⟨noSsl, given, answered, tail, exchanged, made⟩
  have inOrder : answered.map Prod.fst <+: final.dispatched := by
    rcases exchanged.inOrder with ⟨later, whole⟩
    rw [← exchanged.requests, ← whole, List.map_append, List.map_map]
    exact List.prefix_append _ _
  have answers : ∀ entry ∈ answered, ∃ delivery, .message delivery ∈ events ∧
      delivery.httpCallback entry.1 { closeConnection := wantsClose entry.1 } = .ok entry.2 :=
    fun entry member => made _ (exchanged.inOrder.subset (List.mem_map_of_mem member))
  have calls : final.allCalls = final.calls := by
    unfold allCalls
    rw [noSsl]
  refine ⟨answered, tail, exchanged.read noSsl ?_, inOrder, answers, exchanged.open_, exchanged.refusal, ?_⟩
  · intro entry member
    rcases answers entry member with ⟨delivery, event, answer⟩
    exact framed _ (inOrder.subset (List.mem_map_of_mem member)) delivery event _ answer
  · intro never
    rw [calls] at never
    rcases exchanged.complete never with ⟨empty, all, _⟩
    refine ⟨empty, ?_⟩
    rw [← exchanged.requests, ← all, List.map_map]
    rfl

/-- A request and the start of a second one, the rest of it, and a line that is no request line. -/
def greeted : List Event :=
  [bytes "GET /a HTTP/1.1\r\n\r\nGET /b HT", bytes "TP/1.1\r\n\r\n", bytes "HELO\r\n"].filterMap fun text =>
    if arrives : text = [] then none
    else some (.message ⟨text, arrives, 0, fun _ response =>
      .ok { helloResponse with closeConnection := response.closeConnection }⟩)

theorem greeted_read :
    ∃ final : Connection (List Bool), (events {}).run (onConnection {} none) greeted = some final ∧
      final.dispatched.length = 2 ∧ ∃ (answered : List (HttpRequest × HttpResponse)) (tail : Bytes),
        readMany Message.read answered.length final.wire.flatten =
          some (answered.map fun entry => entry.2.message, tail) ∧ answered.map Prod.fst <+: final.dispatched := by
  have served : (((events {}).run (onConnection {} none : Connection (List Bool)) greeted).map
      fun final => final.dispatched.length) = some 2 := by decide
  rcases Option.map_eq_some_iff.mp served with ⟨final, run, count⟩
  have framed : ∀ close, Framed { helloResponse with closeConnection := close } := by
    intro close
    cases close <;> constructor <;> decide +kernel
  obtain ⟨answered, tail, reads, inOrder, _⟩ := client_reads {} rfl none run (by
    intro req _ delivery event response answer
    rcases List.mem_filterMap.mp event with ⟨text, _, made⟩
    split at made
    · cases made
    · cases made
      cases answer
      exact framed _)
  exact ⟨final, run, count, answered, tail, reads, inOrder⟩

end HttpServer

end Http
