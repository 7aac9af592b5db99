import HttpServerApps.Http.Grammar
import HttpServerApps.Http.KeepAlive

namespace Http

open Common MuduoBuffer Middlewares Ssl

/-! What every request that is given to the callback is like. -/

/-- No white space at either end. -/
def Trimmed (value : Bytes) : Prop :=
  value.head?.all (!isspace ·) = true ∧ value.getLast?.all (!isspace ·) = true

/-- Each field has a name in lower case without a colon, and a trimmed value. -/
def TidyFields (headers : Dict Bytes Bytes) : Prop :=
  ∀ name value, headers.find name = some value →
    58 ∉ name ∧ toLowerAsciiInPlace name = name ∧ Trimmed value

/-- What the request line and the fields leave. -/
structure WellHeaded (req : HttpRequest) : Prop where
  method : req.method ∈ [Method.kGet, .kPost, .kPut, .kDelete, .kOptions]
  version : req.version = bytes "HTTP/1.1" ∨ req.version = bytes "HTTP/1.0"
  path : space ∉ req.path ∧ 63 ∉ req.path
  fields : TidyFields req.headers

/-- The length that a POST or PUT announces is the number that its field denotes, and within the limit. -/
structure Announced (maxBodyBytes : UInt64) (req : HttpRequest) : Prop where
  takes : HttpContext.takesBody req.method = true
  within : req.contentLength ≤ maxBodyBytes
  digits : (req.getHeader (bytes "Content-Length")).all isdigit = true
  filled : req.getHeader (bytes "Content-Length") ≠ []
  denotes : decimalValue (req.getHeader (bytes "Content-Length")) = req.contentLength.toNat

/-- Of a POST or PUT the body has the length announced; no other request has one. -/
structure WellFormed (maxBodyBytes : UInt64) (req : HttpRequest) : Prop extends WellHeaded req where
  body : (Announced maxBodyBytes req ∧ req.content.length = req.contentLength.toNat) ∨
    (HttpContext.takesBody req.method = false ∧ req.content = [] ∧ req.contentLength = 0)

namespace HttpContext

/-- What has been read of a request so far. -/
structure Sound (context : HttpContext) : Prop where
  fields : TidyFields context.request.headers
  head : context.state ≠ .kExpectRequestLine → WellHeaded context.request
  empty : context.state ≠ .kGotAll → context.request.content = []
  unannounced : context.state = .kExpectRequestLine ∨ context.state = .kExpectHeaders →
    context.request.contentLength = 0
  announced : context.state = .kExpectBody → Announced context.maxBodyBytes context.request
  complete : context.state = .kGotAll → WellFormed context.maxBodyBytes context.request

theorem sound_fresh (maxBodyBytes : UInt64) : Sound { maxBodyBytes := maxBodyBytes } where
  fields := nofun
  head start := absurd rfl start
  empty _ := rfl
  unannounced _ := rfl
  announced := nofun
  complete := nofun

theorem tolower_facts (c : UInt8) : tolower (tolower c) = tolower c ∧ (tolower c = 58 → c = 58) := by
  have every : ∀ n : Fin 256, tolower (tolower (UInt8.ofFin n)) = tolower (UInt8.ofFin n) ∧
      (tolower (UInt8.ofFin n) = 58 → UInt8.ofFin n = 58) := by decide +kernel
  exact every c.toFin

theorem trimmed_value (rest : Bytes) :
    Trimmed ((rest.dropWhile isspace).reverse.dropWhile isspace).reverse := by
  have first : ∀ text : Bytes, (text.dropWhile isspace).head?.all (!isspace ·) = true := by
    intro text
    cases dropped : text.dropWhile isspace with
    | nil => rfl
    | cons c more =>
      have stops := List.head_dropWhile_not isspace (by rw [dropped]; exact List.cons_ne_nil c more)
      simp only [dropped, List.head_cons] at stops
      simp [stops]
  constructor
  · -- the end is cut off a text that has no white space at its start
    cases cut : (rest.dropWhile isspace).reverse.dropWhile isspace with
    | nil => rfl
    | cons c more =>
      have suffix := @List.dropWhile_suffix _ (rest.dropWhile isspace).reverse isspace
      rw [cut] at suffix
      have prefixed := List.reverse_prefix.mpr suffix
      rw [List.reverse_reverse] at prefixed
      rcases prefixed with ⟨tail, whole⟩
      have start := first rest
      rw [← whole] at start
      cases shape : (c :: more).reverse with
      | nil => exact absurd (List.reverse_eq_nil_iff.mp shape) (List.cons_ne_nil c more)
      | cons d front =>
        rw [shape] at start
        exact start
  · rw [List.getLast?_reverse]
    exact first _

theorem TidyFields.addHeader {req : HttpRequest} (tidy : TidyFields req.headers) {line key rest : Bytes}
    (cut : splitFirst 58 line = some (key, rest)) : TidyFields (req.addHeader key rest).headers := by
  intro name value found
  unfold HttpRequest.addHeader at found
  dsimp only at found
  rw [Dict.find_insert] at found
  split at found
  · rename_i same
    cases found
    subst same
    refine ⟨?_, ?_, trimmed_value rest⟩
    · intro colon
      rcases List.mem_map.mp colon with ⟨c, member, lower⟩
      exact (splitFirst_some cut).2 ((tolower_facts c).2 lower ▸ member)
    · unfold toLowerAsciiInPlace
      rw [List.map_map]
      exact List.map_congr_left fun c _ => (tolower_facts c).1
  · exact tidy name value found

theorem processVersion_frame {request after : HttpRequest} {version : Bytes}
    (processed : processVersion request version = (true, after)) :
    after.path = request.path ∧ after.content = request.content ∧ after.contentLength = request.contentLength := by
  unfold processVersion at processed
  split at processed
  · split at processed
    · cases processed
      exact ⟨rfl, rfl, rfl⟩
    · split at processed
      · cases processed
        exact ⟨rfl, rfl, rfl⟩
      · cases processed
  · cases processed

/-- An accepted request line gives a request with a head, and takes nothing from a body. -/
theorem wellHeaded_of_line {request after : HttpRequest} {line : Bytes}
    (processed : processRequestLine request line = .ok (true, after)) (tidy : TidyFields request.headers) :
    WellHeaded after ∧ after.content = request.content ∧ after.contentLength = request.contentLength := by
  rcases processRequestLine_parts processed with ⟨parts⟩
  have read := processRequestLine_read processed
  have targeted : space ∉ parts.targeted.path ∧ 63 ∉ parts.targeted.path ∧
      parts.targeted.content = request.content ∧ parts.targeted.contentLength = request.contentLength := by
    have spaceless := (splitFirst_some parts.second).2
    have run := parts.run
    generalize parts.targeted = targeted at run ⊢
    unfold setTarget at run
    cases query : splitFirst 63 parts.target with
    | none =>
      rw [query] at run
      cases run
      refine ⟨spaceless, ?_, rfl, rfl⟩
      intro member
      change 63 ∈ parts.target at member
      have there := splitFirst_isSome.mpr member
      rw [query] at there
      cases there
    | some cut =>
      rcases cut with ⟨path, arguments⟩
      rcases splitFirst_some query with ⟨whole, absent⟩
      simp only [query, setQueryParameters_eq] at run
      cases run
      refine ⟨fun member => spaceless ?_, absent, rfl, rfl⟩
      rw [whole]
      exact List.mem_append_left _ member
  have versioned := processVersion_frame parts.processed
  rcases versioned with ⟨path, content, length⟩
  refine ⟨⟨?_, read.version, ?_, ?_⟩, content.trans targeted.2.2.1, length.trans targeted.2.2.2⟩
  · rcases read.method with ⟨m, _, _, method⟩
    have known := read.known
    rw [method] at known ⊢
    unfold HttpRequest.methodOf at known ⊢
    repeat' split
    all_goals simp_all
  · rw [path]
    exact ⟨targeted.1, targeted.2.1⟩
  · rw [read.headers]
    exact tidy

variable {Buffer : Type} [MuduoBuffer Buffer]

omit [MuduoBuffer Buffer] in
/-- A request line, accepted or not, leaves alone what comes after it. -/
theorem processRequestLine_frame {request after : HttpRequest} {line : Bytes} {ok : Bool}
    (processed : processRequestLine request line = .ok (ok, after)) :
    after.headers = request.headers ∧ after.content = request.content ∧
      after.contentLength = request.contentLength := by
  have target : ∀ {before after : HttpRequest} {target : Bytes}, setTarget before target = .ok after →
      after.headers = before.headers ∧ after.content = before.content ∧
        after.contentLength = before.contentLength := by
    intro before after target run
    unfold setTarget at run
    cases query : splitFirst 63 target with
    | none =>
      rw [query] at run
      cases run
      exact ⟨rfl, rfl, rfl⟩
    | some cut =>
      simp only [query, setQueryParameters_eq] at run
      cases run
      exact ⟨rfl, rfl, rfl⟩
  have version : ∀ {before after : HttpRequest} {version : Bytes} {ok : Bool},
      processVersion before version = (ok, after) →
        after.headers = before.headers ∧ after.content = before.content ∧
          after.contentLength = before.contentLength := by
    intro before after version ok run
    unfold processVersion at run
    repeat' split at run
    all_goals
      cases run
      exact ⟨rfl, rfl, rfl⟩
  unfold processRequestLine at processed
  cases first : splitFirst space line with
  | none =>
    rw [first] at processed
    cases processed
    exact ⟨rfl, rfl, rfl⟩
  | some cut =>
    rcases cut with ⟨m, afterMethod⟩
    by_cases free : request.method = .kInvalid
    · simp only [first, HttpRequest.setMethod, free, if_true, Bind.bind, Except.bind] at processed
      cases known : (HttpRequest.methodOf m != .kInvalid) with
      | false =>
        simp only [known, Bool.false_eq_true, if_false] at processed
        cases processed
        exact ⟨rfl, rfl, rfl⟩
      | true =>
        simp only [known, if_true] at processed
        cases second : splitFirst space afterMethod with
        | none =>
          rw [second] at processed
          cases processed
          exact ⟨rfl, rfl, rfl⟩
        | some cut =>
          obtain ⟨targeted, run⟩ := setTarget_ok { request with method := HttpRequest.methodOf m } cut.1
          simp only [second, run, Pure.pure, Except.pure, Except.ok.injEq] at processed
          rcases version processed with ⟨headers, content, length⟩
          rcases target run with ⟨sameHeaders, sameContent, sameLength⟩
          exact ⟨headers.trans sameHeaders, content.trans sameContent, length.trans sameLength⟩
    · simp [first, HttpRequest.setMethod, free, Bind.bind, Except.bind] at processed

omit [MuduoBuffer Buffer] in
theorem announced_of_fromChars {maxBodyBytes : UInt64} {request : HttpRequest} (takes : takesBody request.method = true)
    (read : ¬ ((fromChars (request.getHeader (bytes "Content-Length"))).1 ≠ .ok ∨
      (fromChars (request.getHeader (bytes "Content-Length"))).2.2 ≠ []))
    (fits : ¬ (fromChars (request.getHeader (bytes "Content-Length"))).2.1 > maxBodyBytes) :
    Announced maxBodyBytes
      (request.setContentLength (fromChars (request.getHeader (bytes "Content-Length"))).2.1) := by
  have good : request.getHeader (bytes "Content-Length") ≠ [] ∧
      (request.getHeader (bytes "Content-Length")).all isdigit = true ∧
      decimalValue (request.getHeader (bytes "Content-Length")) < 2 ^ 64 := by
    by_contra bad
    exact read (fromChars_bad bad)
  rcases good with ⟨filled, digits, small⟩
  have value := fromChars_decimal filled digits small
  refine ⟨takes, UInt64.not_lt.mp fits, digits, filled, ?_⟩
  change decimalValue (request.getHeader (bytes "Content-Length")) =
    (fromChars (request.getHeader (bytes "Content-Length"))).2.1.toNat
  rw [value, UInt64.toNat_ofNat_of_lt' small]

omit [MuduoBuffer Buffer] in
/-- The end of the fields leaves a request without a body whole, and one with a body announced. -/
theorem sound_endOfHeaders {loop : ParseLoop Buffer} (sound : Sound loop.context)
    (state : loop.context.state = .kExpectHeaders) : Sound (endOfHeaders loop).context := by
  have head := sound.head (by simp [state])
  have content := sound.empty (by simp [state])
  have none_yet := sound.unannounced (Or.inr state)
  unfold endOfHeaders
  dsimp only
  split
  · rename_i takes
    have body : takesBody loop.context.request.method = true := by simpa [takesBody] using takes
    split
    · split
      · exact sound
      · rename_i read
        split
        · exact ⟨sound.fields, sound.head, sound.empty, sound.unannounced, sound.announced, sound.complete⟩
        · rename_i fits
          have announced := announced_of_fromChars body read fits
          have headed : WellHeaded (loop.context.request.setContentLength
              (fromChars (loop.context.request.getHeader (bytes "Content-Length"))).2.1) :=
            ⟨head.method, head.version, head.path, head.fields⟩
          split
          · refine ⟨sound.fields, fun _ => headed, fun _ => content, ?_, fun _ => announced, ?_⟩
            · rintro (later | later) <;> cases later
            · intro later
              cases later
          · rename_i positive
            refine ⟨sound.fields, fun _ => headed, ?_, ?_, ?_, fun _ => ⟨headed, Or.inl ⟨announced, ?_⟩⟩⟩
            · intro unfinished
              exact absurd rfl unfinished
            · rintro (later | later) <;> cases later
            · intro later
              cases later
            · have zero : (fromChars (loop.context.request.getHeader (bytes "Content-Length"))).2.1.toNat = 0 := by
                rw [gt_iff_lt, UInt64.lt_iff_toNat_lt] at positive
                exact Nat.eq_zero_of_not_pos positive
              change loop.context.request.content.length = _
              rw [content]
              exact zero.symm
    · exact sound
  · rename_i takes
    have bodiless : takesBody loop.context.request.method = false := by simpa [takesBody] using takes
    refine ⟨sound.fields, fun _ => head, ?_, ?_, ?_, fun _ => ⟨head, Or.inr ⟨bodiless, content, none_yet⟩⟩⟩
    · intro unfinished
      exact absurd rfl unfinished
    · rintro (later | later) <;> cases later
    · intro later
      cases later

omit [MuduoBuffer Buffer] in
theorem sound_headerLine {loop : ParseLoop Buffer} (sound : Sound loop.context)
    (state : loop.context.state = .kExpectHeaders) (line : Bytes) : Sound (headerLine loop line).context := by
  have head := sound.head (by rw [state]; nofun)
  unfold headerLine
  split
  · rename_i key rest cut
    have tidy := TidyFields.addHeader sound.fields cut
    refine ⟨tidy, fun _ => ⟨head.method, head.version, head.path, tidy⟩, sound.empty, sound.unannounced, ?_, ?_⟩
    · intro later
      cases state.symm.trans later
    · intro later
      cases state.symm.trans later
  · split
    · exact sound_endOfHeaders sound state
    · exact sound

theorem sound_iteration {receiveTime : Timestamp} {loop next : ParseLoop Buffer}
    (run : iteration receiveTime loop = .ok next) (sound : Sound loop.context) : Sound next.context := by
  unfold iteration at run
  cases state : loop.context.state with
  | kExpectRequestLine =>
    have content := sound.empty (by rw [state]; nofun)
    have none_yet := sound.unannounced (Or.inl state)
    simp only [state] at run
    cases found : findCRLF loop.buf with
    | none =>
      rw [found] at run
      cases run
      exact sound
    | some crlf =>
      simp only [found, Bind.bind, Except.bind] at run
      cases processed : processRequestLine loop.context.request ((readable loop.buf).take crlf) with
      | error fault =>
        rw [processed] at run
        cases run
      | ok result =>
        rcases result with ⟨accepted, after⟩
        rw [processed] at run
        rcases processRequestLine_frame processed with ⟨headers, sameContent, sameLength⟩
        have tidy : TidyFields after.headers := by
          rw [headers]
          exact sound.fields
        cases accepted with
        | false =>
          cases run
          exact ⟨tidy, fun later => absurd rfl later, fun _ => sameContent.trans content,
            fun _ => sameLength.trans none_yet, nofun, nofun⟩
        | true =>
          cases run
          rcases wellHeaded_of_line processed sound.fields with ⟨head, _, _⟩
          exact ⟨tidy, fun _ => ⟨head.method, head.version, head.path, tidy⟩, fun _ => sameContent.trans content,
            fun _ => sameLength.trans none_yet, nofun, nofun⟩
  | kExpectHeaders =>
    simp only [state] at run
    cases found : findCRLF loop.buf with
    | none =>
      rw [found] at run
      cases run
      exact sound
    | some crlf =>
      rw [found] at run
      cases run
      exact sound_headerLine sound state _
  | kExpectBody =>
    have head := sound.head (by rw [state]; nofun)
    have announced := sound.announced state
    simp only [state] at run
    split at run
    · cases run
      exact sound
    · rename_i enough
      cases run
      have whole : ((readable loop.buf).take loop.context.request.contentLength.toNat).length =
          loop.context.request.contentLength.toNat := by
        rw [List.length_take]
        exact Nat.min_eq_left (Nat.le_of_not_lt enough)
      refine ⟨sound.fields, fun _ => ⟨head.method, head.version, head.path, head.fields⟩, nofun, ?_, nofun,
        fun _ => ⟨⟨head.method, head.version, head.path, head.fields⟩, Or.inl ⟨?_, whole⟩⟩⟩
      · rintro (later | later) <;> cases later
      · exact ⟨announced.takes, announced.within, announced.digits, announced.filled, announced.denotes⟩
  | kGotAll =>
    simp only [state] at run
    cases run
    exact sound

theorem sound_parseRequest {context next : HttpContext} {buf left : Buffer} {receiveTime : Timestamp} {ok : Bool}
    (call : parseRequest context buf receiveTime = .ok (ok, next, left)) (sound : Sound context) : Sound next :=
  parseRequest_preserves (fun _ _ run kept => sound_iteration run kept) call
    ⟨sound.fields, sound.head, sound.empty, sound.unannounced, sound.announced, sound.complete⟩

end HttpContext

namespace HttpServer

open Connection

variable {Engine : Type} [OpenSSL Engine]

/-- The ways in which a delivery can be taken: there is nothing to parse, the parse fails, it wants more, or a request
    is there and is dispatched. -/
inductive Taken (server : HttpServer) (delivery : Delivery) (ready : Connection Engine) : Connection Engine → Prop where
  | unparsed : Taken server delivery ready ready
  | failed {context left}
      (call : ready.context.parseRequest ready.input delivery.receiveTime = .ok (false, context, left)) :
      Taken server delivery ready (server.answerError ((ready.setInput left).setContext context))
  | waiting {context left}
      (call : ready.context.parseRequest ready.input delivery.receiveTime = .ok (true, context, left))
      (open_ : context.gotAll = false) : Taken server delivery ready ((ready.setInput left).setContext context)
  | complete {context left next}
      (call : ready.context.parseRequest ready.input delivery.receiveTime = .ok (true, context, left))
      (gotAll : context.gotAll = true)
      (dispatched : server.dispatch ((ready.setInput left).setContext context) delivery = .ok next) :
      Taken server delivery ready next

theorem message_of_step {server : HttpServer} {conn next : Connection Engine} {delivery : Delivery}
    (step : server.events.step conn (.message delivery) = some next) : server.onMessage conn delivery = .ok next := by
  change (server.onMessage conn delivery).toOption = some next at step
  cases message : server.onMessage conn delivery with
  | error fault =>
    rw [message] at step
    cases step
  | ok other =>
    rw [message] at step
    cases step
    rfl

theorem onMessage_taken {server : HttpServer} {conn next : Connection Engine} {delivery : Delivery}
    (message : server.onMessage conn delivery = .ok next) :
    Taken server delivery (server.receive conn delivery.data).1 next := by
  unfold onMessage at message
  split at message
  · rename_i ready arrived
    rw [arrived]
    cases message
    exact .unparsed
  · rename_i ready arrived
    rw [arrived]
    cases call : ready.context.parseRequest ready.input delivery.receiveTime with
    | error fault =>
      rw [call] at message
      cases message
    | ok result =>
      rcases result with ⟨ok, context, left⟩
      simp only [call, Bind.bind, Except.bind] at message
      cases ok with
      | false =>
        cases message
        exact .failed call
      | true =>
        cases gotAll : context.gotAll with
        | false =>
          simp only [gotAll] at message
          cases message
          exact .waiting call gotAll
        | true =>
          simp only [gotAll] at message
          exact .complete call gotAll message

omit [OpenSSL Engine] in
theorem setInput_kept (conn : Connection Engine) (left : Bytes) (context : HttpContext) :
    ((conn.setInput left).setContext context).context = context ∧
      ((conn.setInput left).setContext context).dispatched = conn.dispatched := by
  unfold setInput setContext
  cases conn.sslConn <;> exact ⟨rfl, rfl⟩

/-- What a dispatched request leaves: a fresh context, or, where the callback threw, the one it was parsed in. -/
theorem dispatch_left {server : HttpServer} {conn next : Connection Engine} {delivery : Delivery}
    (dispatched : server.dispatch conn delivery = .ok next) :
    next.dispatched = conn.dispatched ++ [conn.context.request] ∧
      (next.context = conn.context.reset ∨ next.context = conn.context) := by
  unfold dispatch at dispatched
  dsimp only at dispatched
  split at dispatched
  · cases dispatched
    refine ⟨?_, Or.inl rfl⟩
    unfold setContext onRequest
    dsimp only
    split
    · exact ((follows_sendToClient server _ _).trans (follows_record _ .connShutdown)).dispatched
    · exact (follows_sendToClient server _ _).dispatched
  · cases dispatched
    have answered := (follows_sendToClient server
      { conn with dispatched := conn.dispatched ++ [conn.context.request] } kHttp400).trans
        (follows_record _ .connShutdown)
    exact ⟨answered.dispatched, Or.inr answered.context⟩
  · cases dispatched

/-- What has been read is sound, and what has been dispatched was well formed. -/
structure SoundConnection (maxBodyBytes : UInt64) (conn : Connection Engine) : Prop where
  sound : HttpContext.Sound conn.context
  limit : conn.context.maxBodyBytes = maxBodyBytes
  dispatched : ∀ req ∈ conn.dispatched, WellFormed maxBodyBytes req

omit [OpenSSL Engine] in
theorem SoundConnection.follows {maxBodyBytes : UInt64} {before after : Connection Engine}
    (sound : SoundConnection maxBodyBytes before) (follows : Follows before after) :
    SoundConnection maxBodyBytes after := by
  refine ⟨?_, ?_, ?_⟩
  · rw [follows.context]
    exact sound.sound
  · rw [follows.context]
    exact sound.limit
  · rw [follows.dispatched]
    exact sound.dispatched

theorem sound_step (server : HttpServer) {maxBodyBytes : UInt64} (conn : Connection Engine) (event : Event)
    (next : Connection Engine) (step : server.events.step conn event = some next)
    (sound : SoundConnection maxBodyBytes conn) : SoundConnection maxBodyBytes next := by
  cases event with
  | writeComplete =>
    cases step
    exact sound.follows (follows_onWriteComplete conn)
  | message delivery =>
    have taken := onMessage_taken (message_of_step step)
    have ready := sound.follows (follows_receive server conn delivery.data)
    have parsed : ∀ {ok context left},
        (server.receive conn delivery.data).1.context.parseRequest (server.receive conn delivery.data).1.input
          delivery.receiveTime = .ok (ok, context, left) →
        SoundConnection maxBodyBytes
          (((server.receive conn delivery.data).1.setInput left).setContext context) := by
      intro ok context left call
      rcases setInput_kept (server.receive conn delivery.data).1 left context with ⟨same, kept⟩
      refine ⟨?_, ?_, ?_⟩
      · rw [same]
        exact HttpContext.sound_parseRequest call ready.sound
      · rw [same]
        exact (HttpContext.parseRequest_maxBodyBytes call).trans ready.limit
      · rw [kept]
        exact ready.dispatched
    cases taken with
    | unparsed => exact ready
    | failed call => exact (parsed call).follows (follows_answerError server _).1
    | waiting call => exact parsed call
    | complete call gotAll dispatched =>
      have before := parsed call
      rcases dispatch_left dispatched with ⟨noted, context⟩
      have whole := before.sound.complete (by
        rw [(setInput_kept _ _ _).1]
        exact of_decide_eq_true gotAll)
      rw [before.limit] at whole
      have all : ∀ req ∈ next.dispatched, WellFormed maxBodyBytes req := by
        intro req member
        rw [noted] at member
        rcases List.mem_append.mp member with old | new
        · exact before.dispatched req old
        · cases List.mem_singleton.mp new
          exact whole
      rcases context with fresh | kept
      · refine ⟨?_, ?_, all⟩
        · rw [fresh]
          exact HttpContext.sound_fresh _
        · rw [fresh]
          exact before.limit
      · refine ⟨?_, ?_, all⟩
        · rw [kept]
          exact before.sound
        · rw [kept]
          exact before.limit

/-- Whatever arrives on a connection, with TLS or without, after errors and exceptions too: each request that is
    given to the callback is well formed. -/
theorem dispatched_well_formed (server : HttpServer) (ssl : Option Engine) {events : List Event}
    {final : Connection Engine} (run : server.events.run (server.onConnection ssl) events = some final)
    {req : HttpRequest} (dispatched : req ∈ final.dispatched) : WellFormed server.maxRequestBodyBytes req := by
  have start : SoundConnection server.maxRequestBodyBytes (server.onConnection ssl) := by
    have fresh : SoundConnection server.maxRequestBodyBytes
        ({ context := { maxBodyBytes := server.maxRequestBodyBytes } } : Connection Engine) :=
      ⟨HttpContext.sound_fresh _, rfl, nofun⟩
    unfold onConnection
    dsimp only
    split
    · split
      · exact ⟨HttpContext.sound_fresh _, rfl, nofun⟩
      · exact fresh.follows (follows_record _ .connShutdown)
    · exact fresh
  exact (System.run_preserves (sound_step server) start run).dispatched req dispatched

/-- A POST cut in its field and in its body is dispatched with the body it announced. -/
theorem post_well_formed :
    ∃ final : Connection (List Bool),
      (events {}).run (onConnection {} none) (postDeliveries.map .message) = some final ∧
      ∃ req ∈ final.dispatched, WellFormed ({} : HttpServer).maxRequestBodyBytes req := by
  have served : (((events {}).run (onConnection {} none : Connection (List Bool)) (postDeliveries.map .message)).map
      fun final => final.dispatched.length) = some 1 := by decide
  rcases Option.map_eq_some_iff.mp served with ⟨final, run, one⟩
  rcases List.length_eq_one_iff.mp one with ⟨req, shape⟩
  have member : req ∈ final.dispatched := by
    rw [shape]
    exact List.mem_singleton.mpr rfl
  exact ⟨final, run, req, member, dispatched_well_formed {} none run member⟩

end HttpServer

end Http
