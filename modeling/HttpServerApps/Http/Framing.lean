import HttpServerApps.Http.ContextChunks
import HttpServerApps.Http.ParseErrors

namespace Http

open Common MuduoBuffer

/-- A text that the parser cuts off as one line: the first CRLF is the one that ends it. -/
def IsLine (line : Bytes) : Prop := crlfOffset (line ++ [CR, LF]) = some line.length

instance (line : Bytes) : Decidable (IsLine line) := inferInstanceAs (Decidable (_ = _))

/-- The name and the value of a header line as `addHeader` stores them. -/
def headerField (line : Bytes) : Option (Bytes × Bytes) :=
  (splitFirst 58 line).map fun (key, rest) =>
    (toLowerAsciiInPlace key, ((rest.dropWhile isspace).reverse.dropWhile isspace).reverse)

/-- A request line and header lines that the parser accepts. -/
structure Head where
  requestLine : Bytes
  headers : List Bytes
  requestLine_cut : IsLine requestLine
  requestLine_accepted : HttpContext.acceptsRequestLine requestLine = true
  headers_cut : ∀ line ∈ headers, IsLine line
  headers_accepted : ∀ line ∈ headers, (headerField line).isSome = true

namespace Head

def text (head : Head) : Bytes :=
  head.requestLine ++ [CR, LF] ++ head.headers.flatMap (· ++ [CR, LF]) ++ [CR, LF]

def method (head : Head) : Method :=
  match splitFirst space head.requestLine with
  | some (m, _) => HttpRequest.methodOf m
  | none => .kInvalid

/-- The values of the header lines with this name, in lower case. -/
def values (name : Bytes) (headers : List Bytes) : List Bytes :=
  (headers.filterMap headerField).filterMap fun (key, value) => if key = name then some value else none

def contentLengths (head : Head) : List Bytes := values (bytes "content-length") head.headers

end Head

/-- A request with one Content-Length header and a body of just that many bytes. -/
structure LengthedRequest (maxBodyBytes : UInt64) extends Head where
  value : Bytes
  one_length : toHead.contentLengths = [value]
  decimal : value ≠ [] ∧ value.all isdigit = true
  body : Bytes
  body_whole : body.length = decimalValue value
  body_fits : body.length ≤ maxBodyBytes.toNat

namespace HttpContext

theorem crlfOffset_line {line : Bytes} (cut : IsLine line) (more : Bytes) :
    crlfOffset (line ++ [CR, LF] ++ more) = some line.length := crlfOffset_append cut more

theorem take_line (line more : Bytes) : (line ++ [CR, LF] ++ more).take line.length = line := by
  rw [List.append_assoc, List.take_left]

theorem drop_line (line more : Bytes) : (line ++ [CR, LF] ++ more).drop (line.length + 2) = more := by
  have length : (line ++ [CR, LF]).length = line.length + 2 := by simp
  rw [← length, List.drop_left]

/-! The request line. -/

/-- What an accepted request line leaves in the request it is read into. -/
structure LineRead (line : Bytes) (before after : HttpRequest) : Prop where
  method : ∃ m rest, splitFirst space line = some (m, rest) ∧ after.method = HttpRequest.methodOf m
  known : after.method ≠ .kInvalid
  version : after.version = bytes "HTTP/1.1" ∨ after.version = bytes "HTTP/1.0"
  headers : after.headers = before.headers

theorem processVersion_read {request after : HttpRequest} {version : Bytes}
    (processed : processVersion request version = (true, after)) :
    (after.version = bytes "HTTP/1.1" ∨ after.version = bytes "HTTP/1.0") ∧
      after.method = request.method ∧ after.headers = request.headers := by
  unfold processVersion at processed
  split at processed
  · split at processed
    · cases processed
      exact ⟨Or.inl rfl, rfl, rfl⟩
    · split at processed
      · cases processed
        exact ⟨Or.inr rfl, rfl, rfl⟩
      · cases processed
  · cases processed

theorem setTarget_read {request after : HttpRequest} {target : Bytes}
    (processed : setTarget request target = .ok after) :
    after.method = request.method ∧ after.headers = request.headers := by
  unfold setTarget at processed
  cases query : splitFirst 63 target with
  | none =>
    simp only [query] at processed
    cases processed
    exact ⟨rfl, rfl⟩
  | some parts =>
    simp only [query, setQueryParameters_eq] at processed
    cases processed
    exact ⟨rfl, rfl⟩

/-- The steps of an accepted request line, with what each of them gave. -/
structure LineParts (request : HttpRequest) (line : Bytes) (after : HttpRequest) where
  method : Bytes
  afterMethod : Bytes
  target : Bytes
  version : Bytes
  targeted : HttpRequest
  first : splitFirst space line = some (method, afterMethod)
  known : HttpRequest.methodOf method ≠ .kInvalid
  second : splitFirst space afterMethod = some (target, version)
  run : setTarget { request with method := HttpRequest.methodOf method } target = .ok targeted
  processed : processVersion targeted version = (true, after)

theorem processRequestLine_parts {request after : HttpRequest} {line : Bytes}
    (processed : processRequestLine request line = .ok (true, after)) : Nonempty (LineParts request line after) := by
  unfold processRequestLine at processed
  cases first : splitFirst space line with
  | none =>
    rw [first] at processed
    cases processed
  | some parts =>
    rcases parts with ⟨m, afterMethod⟩
    by_cases free : request.method = .kInvalid
    · simp only [first, HttpRequest.setMethod, free, if_true, Bind.bind, Except.bind] at processed
      cases known : (HttpRequest.methodOf m != .kInvalid) with
      | false =>
        simp only [known, Bool.false_eq_true, if_false] at processed
        cases processed
      | true =>
        simp only [known, if_true] at processed
        cases second : splitFirst space afterMethod with
        | none =>
          rw [second] at processed
          cases processed
        | some parts =>
          rcases parts with ⟨target, version⟩
          obtain ⟨targeted, run⟩ := setTarget_ok { request with method := HttpRequest.methodOf m } target
          simp only [second, run, Pure.pure, Except.pure, Except.ok.injEq] at processed
          exact ⟨⟨m, afterMethod, target, version, targeted, first, bne_iff_ne.mp known, second, run, processed⟩⟩
    · simp [first, HttpRequest.setMethod, free, Bind.bind, Except.bind] at processed

theorem processRequestLine_read {request after : HttpRequest} {line : Bytes}
    (processed : processRequestLine request line = .ok (true, after)) : LineRead line request after := by
  rcases processRequestLine_parts processed with ⟨parts⟩
  rcases setTarget_read parts.run with ⟨targetedMethod, targetedHeaders⟩
  rcases processVersion_read parts.processed with ⟨versions, sameMethod, sameHeaders⟩
  have method : after.method = HttpRequest.methodOf parts.method := sameMethod.trans targetedMethod
  refine ⟨⟨parts.method, parts.afterMethod, parts.first, method⟩, ?_, versions, sameHeaders.trans targetedHeaders⟩
  rw [method]
  exact parts.known

theorem processRequestLine_accepted {line : Bytes} (accepted : acceptsRequestLine line = true)
    {request : HttpRequest} (free : request.method = .kInvalid) :
    ∃ after, processRequestLine request line = .ok (true, after) := by
  rcases processRequestLine_total request line free with ⟨⟨ok, after⟩, run⟩
  have verdict := processRequestLine_verdict run
  rw [accepted] at verdict
  subst verdict
  exact ⟨after, run⟩

theorem step_accepted {context : HttpContext} {input : Bytes} {offset : Nat} {request : HttpRequest}
    (state : context.state = .kExpectRequestLine) (found : crlfOffset input = some offset)
    (line : processRequestLine context.request (input.take offset) = .ok (true, request)) :
    parser.step context input = .advance
      { context with request := request.setReceiveTime 0, state := .kExpectHeaders } (offset + 2) := by
  have bound := crlfOffset_bound found
  have used : input.length - (input.drop (offset + 2)).length = offset + 2 := by
    rw [List.length_drop]
    omega
  have crlf : findCRLF input = some offset := found
  have read : processRequestLine context.request ((readable input).take offset) = .ok (true, request) := line
  simp only [parser, parserStep, waits, state, found, iteration, crlf, read, Bind.bind, Except.bind]
  show (Step.advance { context with request := request.setReceiveTime 0, state := .kExpectHeaders }
    (input.length - (input.drop (offset + 2)).length) : Step HttpContext Answer) = _
  rw [used]

/-! The header lines. -/

def addHeaderLine (request : HttpRequest) (line : Bytes) : HttpRequest :=
  match splitFirst 58 line with
  | some (key, rest) => request.addHeader key rest
  | none => request

theorem find_addHeaderLine (request : HttpRequest) (line name : Bytes) :
    (addHeaderLine request line).headers.find name =
      ((Head.values name [line]).getLast?).or (request.headers.find name) := by
  cases parts : splitFirst 58 line with
  | none => simp [addHeaderLine, Head.values, headerField, parts]
  | some pair =>
    rcases pair with ⟨key, rest⟩
    simp only [addHeaderLine, parts, HttpRequest.addHeader, Dict.find_insert]
    by_cases same : toLowerAsciiInPlace key = name
    · simp [Head.values, headerField, parts, same]
    · have other : ¬ name = toLowerAsciiInPlace key := fun equal => same equal.symm
      simp [Head.values, headerField, parts, same, other]

theorem find_addHeaderLines (headers : List Bytes) (request : HttpRequest) (name : Bytes) :
    (headers.foldl addHeaderLine request).headers.find name =
      ((Head.values name headers).getLast?).or (request.headers.find name) := by
  induction headers generalizing request with
  | nil => rfl
  | cons line headers ih =>
    have split : Head.values name (line :: headers) = Head.values name [line] ++ Head.values name headers := by
      unfold Head.values
      rw [← List.filterMap_append, ← List.filterMap_append]
      rfl
    rw [List.foldl_cons, ih, find_addHeaderLine, split, List.getLast?_append, Option.or_assoc]

theorem method_addHeaderLine (request : HttpRequest) (line : Bytes) :
    (addHeaderLine request line).method = request.method := by
  unfold addHeaderLine
  split <;> rfl

theorem method_addHeaderLines (headers : List Bytes) (request : HttpRequest) :
    (headers.foldl addHeaderLine request).method = request.method := by
  induction headers generalizing request with
  | nil => rfl
  | cons line headers ih => rw [List.foldl_cons, ih, method_addHeaderLine]

theorem headerLine_field {loop : ParseLoop Bytes} {line : Bytes} (field : (headerField line).isSome = true) :
    headerLine loop line =
      { loop with context := { loop.context with request := addHeaderLine loop.context.request line } } := by
  unfold headerField at field
  unfold headerLine addHeaderLine
  cases parts : splitFirst 58 line with
  | none =>
    rw [parts] at field
    cases field
  | some pair => rfl

theorem runs_headers {context : HttpContext} {headers : List Bytes} {input left : Bytes}
    {verdict : Verdict HttpContext Answer} (state : context.state = .kExpectHeaders)
    (cut : ∀ line ∈ headers, IsLine line) (fields : ∀ line ∈ headers, (headerField line).isSome = true)
    (later : parser.Runs { context with request := headers.foldl addHeaderLine context.request } input
      verdict left) :
    parser.Runs context (headers.flatMap (· ++ [CR, LF]) ++ input) verdict left := by
  induction headers generalizing context with
  | nil => exact later
  | cons line headers ih =>
    rw [List.flatMap_cons, List.append_assoc]
    have found := crlfOffset_line (cut line (List.mem_cons_self ..))
      (headers.flatMap (· ++ [CR, LF]) ++ input)
    have moves := step_header state found
      (headerLine_field (by rw [take_line]; exact fields line (List.mem_cons_self ..)))
    rw [take_line] at moves
    refine .advance moves ?_
    rw [drop_line]
    exact ih state (fun other member => cut other (List.mem_cons_of_mem _ member))
      (fun other member => fields other (List.mem_cons_of_mem _ member)) later

/-! The end of the headers, and the body. -/

theorem fromChars_decimal {text : Bytes} (nonempty : text ≠ []) (digits : text.all isdigit = true)
    (bound : decimalValue text < 2 ^ 64) : fromChars text = (.ok, UInt64.ofNat (decimalValue text), []) := by
  have all : ∀ c ∈ text, isdigit c = true := List.all_eq_true.mp digits
  unfold fromChars
  rw [List.takeWhile_eq_self_iff.mpr all, List.dropWhile_eq_nil_iff.mpr all]
  simp only [nonempty, bound, ↓reduceIte]

/-- Whether the parser reads a body after the headers. -/
def takesBody (method : Method) : Bool := method = .kPost || method = .kPut

theorem endOfHeaders_bodiless {loop : ParseLoop Bytes} (bodiless : takesBody loop.context.request.method = false) :
    endOfHeaders loop = { loop with context := { loop.context with state := .kGotAll }, hasMore := false } := by
  unfold endOfHeaders
  rw [if_neg (by simpa [takesBody] using bodiless)]

theorem endOfHeaders_length {loop : ParseLoop Bytes} {value : Bytes}
    (takes : takesBody loop.context.request.method = true)
    (header : loop.context.request.getHeader (bytes "Content-Length") = value)
    (nonempty : value ≠ []) (digits : value.all isdigit = true)
    (fits : decimalValue value ≤ loop.context.maxBodyBytes.toNat) :
    endOfHeaders loop =
      if decimalValue value = 0 then
        { loop with
          context := { loop.context with
            request := loop.context.request.setContentLength 0, state := .kGotAll }
          hasMore := false }
      else
        { loop with
          context := { loop.context with
            request := loop.context.request.setContentLength (UInt64.ofNat (decimalValue value))
            state := .kExpectBody } } := by
  have bound : decimalValue value < 2 ^ 64 := Nat.lt_of_le_of_lt fits loop.context.maxBodyBytes.toNat_lt
  have small : ¬ UInt64.ofNat (decimalValue value) > loop.context.maxBodyBytes := by
    rw [gt_iff_lt, UInt64.lt_iff_toNat_lt, UInt64.toNat_ofNat_of_lt' bound]
    omega
  unfold endOfHeaders
  rw [if_pos (by simpa [takesBody] using takes)]
  dsimp only
  rw [header, fromChars_decimal nonempty digits bound, if_pos nonempty]
  simp only [ne_eq, not_true_eq_false, or_self, ↓reduceIte, small, HttpRequest.setContentLength]
  by_cases zero : decimalValue value = 0
  · simp [zero]
  · have positive : UInt64.ofNat (decimalValue value) > 0 := by
      rw [gt_iff_lt, UInt64.lt_iff_toNat_lt, UInt64.toNat_ofNat_of_lt' bound]
      exact Nat.pos_of_ne_zero zero
    simp [zero, positive]

theorem step_endOfHeaders {context : HttpContext} (state : context.state = .kExpectHeaders) (more : Bytes)
    {after : ParseLoop Bytes}
    (ends : endOfHeaders { context := context, buf := [CR, LF] ++ more } = after) :
    parser.step context ([CR, LF] ++ more) =
      if after.hasMore then .advance after.context 2 else .halt (.ok (after.ok, after.context)) 2 := by
  have cut : IsLine [] := by decide
  exact step_header state (crlfOffset_line cut more) ends

theorem step_wholeBody {context : HttpContext} {body : Bytes} (state : context.state = .kExpectBody)
    (whole : context.request.contentLength.toNat = body.length) (rest : Bytes) :
    parser.step context (body ++ rest) =
      .halt (.ok (true, { context with request := context.request.setBody body, state := .kGotAll }))
        body.length := by
  have enough : ¬ (body ++ rest).length < body.length := by simp
  have enoughReadable : ¬ readableBytes (body ++ rest) < body.length := enough
  have taken : (readable (body ++ rest)).take body.length = body := List.take_left
  have used : (body ++ rest).length - ((body ++ rest).drop body.length).length = body.length := by simp
  simp only [parser, parserStep, waits, state, whole, enough, iteration, enoughReadable, taken]
  show (Step.halt (.ok (true, _)) ((body ++ rest).length - ((body ++ rest).drop body.length).length) :
    Step HttpContext Answer) = _
  rw [used]

/-- The header section ends here: what follows is the body or the next request. -/
theorem runs_endOfHeaders {context : HttpContext} {value body rest : Bytes}
    (state : context.state = .kExpectHeaders)
    (header : context.request.getHeader (bytes "Content-Length") = value)
    (decimal : value ≠ [] ∧ value.all isdigit = true) (whole : body.length = decimalValue value)
    (fits : body.length ≤ context.maxBodyBytes.toNat) :
    ∃ done, parser.Runs context ([CR, LF] ++ (body ++ rest)) (.halted (.ok (true, done)))
        (if takesBody context.request.method then rest else body ++ rest) ∧
      done.state = .kGotAll ∧ done.maxBodyBytes = context.maxBodyBytes ∧
      done.request.method = context.request.method := by
  cases takes : takesBody context.request.method with
  | false =>
    have halts := step_endOfHeaders state (body ++ rest) (endOfHeaders_bodiless takes)
    exact ⟨{ context with state := .kGotAll }, .halt halts, rfl, rfl, rfl⟩
  | true =>
    have ends := @endOfHeaders_length { context := context, buf := [CR, LF] ++ (body ++ rest) } value takes header
      decimal.1 decimal.2 (whole ▸ fits)
    have step := step_endOfHeaders state (body ++ rest) ends
    by_cases zero : decimalValue value = 0
    · rw [if_pos zero] at step
      rw [zero] at whole
      obtain rfl := List.length_eq_zero_iff.mp whole
      let ended : HttpContext :=
        { context with request := context.request.setContentLength 0, state := .kGotAll }
      exact ⟨ended, .halt step, rfl, rfl, rfl⟩
    · rw [if_neg zero] at step
      have bound : decimalValue value < 2 ^ 64 :=
        Nat.lt_of_le_of_lt (whole ▸ fits) context.maxBodyBytes.toNat_lt
      let reading : HttpContext := { context with
        request := context.request.setContentLength (UInt64.ofNat (decimalValue value)), state := .kExpectBody }
      have length : reading.request.contentLength.toNat = body.length := by
        show (UInt64.ofNat (decimalValue value)).toNat = _
        rw [UInt64.toNat_ofNat_of_lt' bound, whole]
      have taken := @step_wholeBody reading body rfl length rest
      have later := Resumable.Runs.halt taken
      rw [List.drop_left] at later
      exact ⟨{ reading with request := reading.request.setBody body, state := .kGotAll },
        .advance step later, rfl, rfl, rfl⟩

/-- A call on a fresh context goes through the head to its empty line. -/
theorem runs_head {context : HttpContext} (head : Head) (state : context.state = .kExpectRequestLine)
    (free : context.request.method = .kInvalid) (unset : context.request.headers = .empty) :
    ∃ request : HttpRequest, request.method = head.method ∧
      (∀ name, request.headers.find name = (Head.values name head.headers).getLast?) ∧
      ∀ input left verdict,
        parser.Runs { context with request := request, state := .kExpectHeaders } ([CR, LF] ++ input) verdict left →
        parser.Runs context (head.text ++ input) verdict left := by
  rcases processRequestLine_accepted head.requestLine_accepted free with ⟨after, line⟩
  have read := processRequestLine_read line
  rcases read.method with ⟨m, rest, parts, method⟩
  refine ⟨head.headers.foldl addHeaderLine (after.setReceiveTime 0), ?_, ?_, ?_⟩
  · rw [method_addHeaderLines]
    show after.method = head.method
    unfold Head.method
    rw [method, parts]
  · intro name
    rw [find_addHeaderLines]
    have empty : (after.setReceiveTime 0).headers = .empty := read.headers.trans unset
    rw [empty, Dict.find_empty, Option.or_none]
  · intro input left verdict later
    let lines := head.headers.flatMap (· ++ [CR, LF])
    have shape : head.text ++ input = head.requestLine ++ [CR, LF] ++ (lines ++ ([CR, LF] ++ input)) := by
      simp [Head.text, lines]
    have found := crlfOffset_line head.requestLine_cut (lines ++ ([CR, LF] ++ input))
    have moves := step_accepted state found (by rw [take_line]; exact line)
    rw [shape]
    refine .advance moves ?_
    rw [drop_line]
    exact runs_headers rfl head.headers_cut head.headers_accepted later

theorem callVerdict_seen {ok complete : Bool} {next seen : HttpContext}
    (verdict : callVerdict ok next = .halted (.ok (complete, seen))) : next.untimed = seen := by
  unfold callVerdict at verdict
  split at verdict
  · cases verdict
  · cases verdict
    rfl

variable {Buffer : Type} [MuduoBuffer Buffer]

/-! What every iteration keeps, a call of `parseRequest` keeps. -/

theorem whileLoop_preserves {Kept : HttpContext → Prop} {receiveTime : Timestamp}
    (preserves : ∀ loop next : ParseLoop Buffer, iteration receiveTime loop = .ok next →
      Kept loop.context → Kept next.context) {fuel : Nat} {loop final : ParseLoop Buffer}
    (run : whileLoop receiveTime fuel loop = .ok final) (kept : Kept loop.context) : Kept final.context := by
  induction fuel generalizing loop with
  | zero =>
    unfold whileLoop at run
    split at run
    · cases run
    · cases run
      exact kept
  | succ fuel ih =>
    unfold whileLoop at run
    split at run
    · cases step : iteration receiveTime loop with
      | error fault =>
        rw [step] at run
        cases run
      | ok next =>
        rw [step] at run
        exact ih run (preserves loop next step kept)
    · cases run
      exact kept

theorem parseRequest_preserves {Kept : HttpContext → Prop} {receiveTime : Timestamp}
    (preserves : ∀ loop next : ParseLoop Buffer, iteration receiveTime loop = .ok next →
      Kept loop.context → Kept next.context) {context next : HttpContext} {buf left : Buffer} {ok : Bool}
    (call : parseRequest context buf receiveTime = .ok (ok, next, left))
    (kept : Kept { context with parseErrorStatus := 400 }) : Kept next := by
  unfold parseRequest at call
  cases run : whileLoop receiveTime (readableBytes buf + 2)
      { context := { context with parseErrorStatus := 400 }, buf := buf } with
  | error fault =>
    rw [run] at call
    cases call
  | ok last =>
    rw [run] at call
    cases call
    exact whileLoop_preserves preserves run kept

/-- What an iteration can do to the context, and to the request in it. -/
theorem iteration_context {receiveTime : Timestamp} {loop next : ParseLoop Buffer}
    (run : iteration receiveTime loop = .ok next) :
    next.context.maxBodyBytes = loop.context.maxBodyBytes ∧
      (next.context.state ≠ .kExpectRequestLine →
        (loop.context.state = .kExpectRequestLine ∧ ∃ line, ∃ after : HttpRequest,
          processRequestLine loop.context.request line = .ok (true, after) ∧
          next.context.request = after.setReceiveTime receiveTime) ∨
        (loop.context.state ≠ .kExpectRequestLine ∧
          next.context.request.version = loop.context.request.version)) := by
  unfold iteration at run
  cases state : loop.context.state with
  | kExpectRequestLine =>
    simp only [state] at run
    cases found : findCRLF loop.buf with
    | none =>
      rw [found] at run
      cases run
      exact ⟨rfl, fun later => absurd state later⟩
    | some crlf =>
      simp only [found, Bind.bind, Except.bind] at run
      cases line : processRequestLine loop.context.request ((readable loop.buf).take crlf) with
      | error fault =>
        rw [line] at run
        cases run
      | ok result =>
        rcases result with ⟨accepted, after⟩
        rw [line] at run
        cases accepted with
        | false =>
          cases run
          exact ⟨rfl, fun later => absurd rfl later⟩
        | true =>
          cases run
          exact ⟨rfl, fun _ => Or.inl ⟨rfl, _, after, line, rfl⟩⟩
  | kExpectHeaders =>
    simp only [state] at run
    cases found : findCRLF loop.buf with
    | none =>
      rw [found] at run
      cases run
      exact ⟨rfl, fun _ => Or.inr ⟨nofun, rfl⟩⟩
    | some crlf =>
      rw [found] at run
      cases run
      have kept : ∀ line, (headerLine loop line).context.maxBodyBytes = loop.context.maxBodyBytes ∧
          (headerLine loop line).context.request.version = loop.context.request.version := by
        intro line
        unfold headerLine endOfHeaders
        dsimp only
        repeat' split
        all_goals exact ⟨rfl, rfl⟩
      exact ⟨(kept _).1, fun _ => Or.inr ⟨nofun, (kept _).2⟩⟩
  | kExpectBody =>
    simp only [state] at run
    split at run
    · cases run
      exact ⟨rfl, fun _ => Or.inr ⟨nofun, rfl⟩⟩
    · cases run
      exact ⟨rfl, fun _ => Or.inr ⟨nofun, rfl⟩⟩
  | kGotAll =>
    simp only [state] at run
    cases run
    exact ⟨rfl, fun _ => Or.inr ⟨nofun, rfl⟩⟩

theorem parseRequest_maxBodyBytes {context next : HttpContext} {buf left : Buffer} {receiveTime : Timestamp}
    {ok : Bool} (call : parseRequest context buf receiveTime = .ok (ok, next, left)) :
    next.maxBodyBytes = context.maxBodyBytes :=
  @parseRequest_preserves _ _ (·.maxBodyBytes = context.maxBodyBytes) _
    (fun _ _ run kept => (iteration_context run).1.trans kept) _ _ _ _ _ call rfl

/-- Past the request line, the version is one of the two the parser knows. -/
def Versioned (context : HttpContext) : Prop :=
  context.state ≠ .kExpectRequestLine →
    context.request.version = bytes "HTTP/1.1" ∨ context.request.version = bytes "HTTP/1.0"

theorem parseRequest_versioned {context next : HttpContext} {buf left : Buffer} {receiveTime : Timestamp}
    {ok : Bool} (call : parseRequest context buf receiveTime = .ok (ok, next, left))
    (versioned : Versioned context) : Versioned next := by
  refine parseRequest_preserves ?_ call versioned
  intro loop after run kept later
  rcases (iteration_context run).2 later with ⟨_, line, request, processed, same⟩ | ⟨past, same⟩
  · rw [same]
    exact (processRequestLine_read processed).version
  · rw [same]
    exact kept past

/-- A POST or PUT takes its head and its body from the buffer, every other request its head only; the
    context is then reset to a fresh one. -/
theorem parse_consumes (maxBodyBytes : UInt64) (request : LengthedRequest maxBodyBytes) (rest : Bytes)
    (receiveTime : Timestamp) :
    ∃ context left,
      parseRequest { maxBodyBytes := maxBodyBytes }
        (append (empty : Buffer) (request.text ++ request.body ++ rest)) receiveTime = .ok (true, context, left) ∧
      context.gotAll = true ∧ context.request.method = request.method ∧
      context.reset = { maxBodyBytes := maxBodyBytes } ∧
      readable left =
        if request.method = .kPost ∨ request.method = .kPut then rest else request.body ++ rest := by
  let fresh : HttpContext := { maxBodyBytes := maxBodyBytes }
  rcases @runs_head fresh request.toHead rfl rfl rfl with ⟨head, method, headers, runs⟩
  have value : head.getHeader (bytes "Content-Length") = request.value := by
    have lower : toLowerAsciiInPlace (bytes "Content-Length") = bytes "content-length" := by decide
    have one := request.one_length
    unfold Head.contentLengths at one
    unfold HttpRequest.getHeader
    rw [lower, headers, one]
    rfl
  obtain ⟨done, ends, gotAll, sameMax, sameMethod⟩ := @runs_endOfHeaders
    { fresh with request := head, state := .kExpectHeaders } _ _ rest rfl value request.decimal
    request.body_whole request.body_fits
  have whole := runs _ _ _ ends
  obtain ⟨ok, context, left, call, run, _⟩ := parseRequest_total fresh
    (append (empty : Buffer) (request.text ++ request.body ++ rest)) receiveTime (fresh_clean maxBodyBytes)
  rw [readable_append, readable_empty, List.nil_append, List.append_assoc] at run
  rcases run.deterministic whole with ⟨verdict, sameLeft⟩
  rcases callVerdict_complete verdict with ⟨rfl, complete⟩
  have seen := callVerdict_seen verdict
  subst seen
  refine ⟨context, left, call, complete, sameMethod.trans method, ?_, ?_⟩
  · have keeps : context.maxBodyBytes = maxBodyBytes := sameMax
    unfold reset
    rw [keeps]
    rfl
  · rw [sameLeft, method]
    simp [takesBody]

def lengthedGet : LengthedRequest 8 where
  requestLine := bytes "GET / HTTP/1.1"
  headers := [bytes "Content-Length: 3"]
  requestLine_cut := by decide
  requestLine_accepted := by decide
  headers_cut := by decide
  headers_accepted := by decide
  value := bytes "3"
  one_length := by decide
  decimal := by decide
  body := bytes "abc"
  body_whole := by decide
  body_fits := by decide

/-- The three body bytes of a GET are where the next request is looked for. -/
theorem get_body_unread :
    ¬ ∀ (maxBodyBytes : UInt64) (request : LengthedRequest maxBodyBytes) (rest : Bytes) (receiveTime : Timestamp),
      ∃ context left,
        parseRequest { maxBodyBytes := maxBodyBytes } (request.text ++ request.body ++ rest) receiveTime =
          .ok (true, context, left) ∧ context.gotAll = true ∧ left = rest := by
  intro claimed
  rcases claimed 8 lengthedGet [] 0 with ⟨context, left, call, _, same⟩
  subst same
  have unread : (parseRequest { maxBodyBytes := 8 } (lengthedGet.text ++ lengthedGet.body ++ []) 0).map
      (fun result => result.2.2) = .ok (bytes "abc") := by decide
  rw [call] at unread
  cases unread

end HttpContext

end Http
