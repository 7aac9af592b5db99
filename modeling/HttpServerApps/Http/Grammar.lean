import HttpServerApps.Common.Search
import HttpServerApps.Http.Framing

namespace Http

open Common MuduoBuffer

/-! The requests the parser is for, as texts: a request line, header lines, a blank line and a body. -/

/-- A method, a target without spaces and a version. -/
structure RequestLine where
  method : Bytes
  target : Bytes
  version : Bytes
  method_known : method ∈ [bytes "GET", bytes "POST", bytes "PUT", bytes "DELETE", bytes "OPTIONS"]
  target_plain : space ∉ target
  version_known : version = bytes "HTTP/1.0" ∨ version = bytes "HTTP/1.1"

def RequestLine.text (line : RequestLine) : Bytes :=
  line.method ++ space :: (line.target ++ space :: line.version)

def RequestLine.path (line : RequestLine) : Bytes := line.target.takeWhile (· ≠ 63)

/-- A request line and header lines, each of them one line and each header with a colon. -/
structure Opening where
  line : RequestLine
  headers : List Bytes
  line_cut : IsLine line.text
  headers_cut : ∀ header ∈ headers, IsLine header
  headers_colon : ∀ header ∈ headers, header ≠ [] ∧ 58 ∈ header

namespace Opening

def text (opening : Opening) : Bytes :=
  opening.line.text ++ [CR, LF] ++ opening.headers.flatMap (· ++ [CR, LF])

/-- The value of the last header line with this name, in lower case. -/
def value (opening : Opening) (name : Bytes) : Option Bytes := (Head.values name opening.headers).getLast?

def hasBody (opening : Opening) : Bool := opening.line.method = bytes "POST" || opening.line.method = bytes "PUT"

/-- The Content-Length of the headers is this number, and the limit allows it. -/
def Announces (opening : Opening) (maxBodyBytes : UInt64) (length : Nat) : Prop :=
  ∃ value, opening.value (bytes "content-length") = some value ∧ value ≠ [] ∧ value.all isdigit = true ∧
    decimalValue value = length ∧ length ≤ maxBodyBytes.toNat ∧ length < 2 ^ 64

/-- What the headers may say of a body of this length. -/
def Allows (opening : Opening) (maxBodyBytes : UInt64) (length : Nat) : Prop :=
  if opening.hasBody then opening.Announces maxBodyBytes length else length = 0

/-- The Content-Length of the headers is this number, and it is beyond the limit. -/
def Exceeds (opening : Opening) (maxBodyBytes : UInt64) (length : Nat) : Prop :=
  opening.hasBody = true ∧
    ∃ value, opening.value (bytes "content-length") = some value ∧ value ≠ [] ∧ value.all isdigit = true ∧
      decimalValue value = length ∧ maxBodyBytes.toNat < length

end Opening

/-- The text is a request with a body of this length; what is behind the blank line is given. -/
structure IsRequest (maxBodyBytes : UInt64) (text : Bytes) (opening : Opening) (length : Nat) (behind : Bytes) :
    Prop where
  shape : text = opening.text ++ [CR, LF] ++ behind
  allowed : opening.Allows maxBodyBytes length
  whole : length ≤ behind.length

/-- A whole line, or the end of the headers, breaks the rules. -/
inductive Broken (maxBodyBytes : UInt64) : Bytes → Prop where
  | requestLine {line behind : Bytes} (cut : IsLine line) (wrong : ∀ good : RequestLine, good.text ≠ line) :
      Broken maxBodyBytes (line ++ [CR, LF] ++ behind)
  | header {opening : Opening} {line behind : Bytes} (cut : IsLine line) (filled : line ≠ []) (wrong : 58 ∉ line) :
      Broken maxBodyBytes (opening.text ++ line ++ [CR, LF] ++ behind)
  | length {opening : Opening} {behind : Bytes} (wrong : ∀ length, ¬ opening.Allows maxBodyBytes length) :
      Broken maxBodyBytes (opening.text ++ [CR, LF] ++ behind)

/-- Nothing is wrong so far, and the text is not yet a request. -/
inductive Unfinished (maxBodyBytes : UInt64) : Bytes → Prop where
  | requestLine {text : Bytes} (open_ : crlfOffset text = none) : Unfinished maxBodyBytes text
  | headers {opening : Opening} {behind : Bytes} (open_ : crlfOffset behind = none) :
      Unfinished maxBodyBytes (opening.text ++ behind)
  | body {opening : Opening} {behind : Bytes} {length : Nat} (allowed : opening.Allows maxBodyBytes length)
      (short : behind.length < length) : Unfinished maxBodyBytes (opening.text ++ [CR, LF] ++ behind)

/-- What a request leaves in the context and in the buffer. -/
structure Extracted (opening : Opening) (length : Nat) (behind : Bytes) (context : HttpContext) (left : Bytes) :
    Prop where
  method : context.request.method = HttpRequest.methodOf opening.line.method
  path : context.request.path = opening.line.path
  version : context.request.version = opening.line.version
  headers : ∀ name, context.request.headers.find name = opening.value name
  getHeader : ∀ field, context.request.getHeader field = (opening.value (toLowerAsciiInPlace field)).getD []
  body : context.request.content = behind.take length
  left : left = behind.drop length

namespace HttpContext

/-! The request line. -/

theorem methodOf_known {m : Bytes} : HttpRequest.methodOf m ≠ .kInvalid ↔
    m ∈ [bytes "GET", bytes "POST", bytes "PUT", bytes "DELETE", bytes "OPTIONS"] := by
  simp only [List.mem_cons, List.not_mem_nil, or_false]
  unfold HttpRequest.methodOf
  repeat' split
  all_goals simp_all

theorem setTarget_path (request : HttpRequest) (target : Bytes) :
    ∃ after, setTarget request target = .ok after ∧ after.path = target.takeWhile (· ≠ 63) ∧
      after.method = request.method ∧ after.headers = request.headers ∧ after.content = request.content := by
  unfold setTarget
  cases query : splitFirst 63 target with
  | none =>
    have absent : 63 ∉ target := by
      intro member
      have isSome := splitFirst_isSome.mpr member
      rw [query] at isSome
      cases isSome
    have all : target.takeWhile (· ≠ 63) = target := by
      apply List.takeWhile_eq_self_iff.mpr
      intro c member
      simp only [ne_eq, decide_not, Bool.not_eq_true', decide_eq_false_iff_not]
      rintro rfl
      exact absent member
    exact ⟨_, rfl, all.symm, rfl, rfl, rfl⟩
  | some parts =>
    rcases parts with ⟨path, arguments⟩
    rcases splitFirst_some query with ⟨shape, absent⟩
    have run := setQueryParameters_eq (request.setPath path) arguments
    have before : ∀ c ∈ path, (decide (c ≠ 63)) = true := by
      intro c member
      simp only [ne_eq, decide_not, Bool.not_eq_true', decide_eq_false_iff_not]
      rintro rfl
      exact absent member
    have first : target.takeWhile (· ≠ 63) = path := by
      rw [shape, List.takeWhile_append_of_pos before]
      simp
    exact ⟨_, run, first.symm, rfl, rfl, rfl⟩

theorem processVersion_known {version : Bytes} (known : version = bytes "HTTP/1.0" ∨ version = bytes "HTTP/1.1")
    (request : HttpRequest) : processVersion request version = (true, request.setVersion version) := by
  rcases known with rfl | rfl
  · have one : (bytes "HTTP/1.0").getLast? ≠ some 49 ∧ (bytes "HTTP/1.0").getLast? = some 48 ∧
        (bytes "HTTP/1.0").length = 8 ∧ (bytes "HTTP/1.0").take 7 = bytes "HTTP/1." := by decide
    simp [processVersion, one]
  · have one : (bytes "HTTP/1.1").getLast? = some 49 ∧ (bytes "HTTP/1.1").length = 8 ∧
        (bytes "HTTP/1.1").take 7 = bytes "HTTP/1." := by decide
    simp [processVersion, one]

theorem known_of_processVersion {request after : HttpRequest} {version : Bytes}
    (processed : processVersion request version = (true, after)) :
    version = bytes "HTTP/1.0" ∨ version = bytes "HTTP/1.1" := by
  have known : ∀ digit : UInt8, version.length = 8 → version.take 7 = bytes "HTTP/1." →
      version.getLast? = some digit → version = bytes "HTTP/1." ++ [digit] := by
    intro digit length start last
    rcases List.getLast?_eq_some_iff.mp last with ⟨front, rfl⟩
    have seven : front.length = 7 := by
      rw [List.length_append] at length
      exact Nat.succ.inj length
    rw [← start, ← seven, List.take_left]
  unfold processVersion at processed
  split at processed
  · rename_i shape
    split at processed
    · rename_i last
      right
      rw [known 49 shape.1 shape.2 last]
      decide
    · split at processed
      · rename_i last
        left
        rw [known 48 shape.1 shape.2 last]
        decide
      · cases processed
  · cases processed

/-- What a request line of the grammar leaves in the request it is read into. -/
structure LineStored (line : RequestLine) (before after : HttpRequest) : Prop where
  method : after.method = HttpRequest.methodOf line.method
  path : after.path = line.path
  version : after.version = line.version
  headers : after.headers = before.headers
  content : after.content = before.content

theorem processRequestLine_good (line : RequestLine) {request : HttpRequest} (free : request.method = .kInvalid) :
    ∃ after, processRequestLine request line.text = .ok (true, after) ∧ LineStored line request after := by
  have noSpace : space ∉ line.method := by
    have all : ∀ m ∈ [bytes "GET", bytes "POST", bytes "PUT", bytes "DELETE", bytes "OPTIONS"], space ∉ m := by
      decide
    exact all _ line.method_known
  have known : (HttpRequest.methodOf line.method != .kInvalid) = true :=
    bne_iff_ne.mpr (methodOf_known.mpr line.method_known)
  rcases setTarget_path { request with method := HttpRequest.methodOf line.method } line.target with
    ⟨after, run, path, method, headers, content⟩
  refine ⟨after.setVersion line.version, ?_, ⟨method, path, rfl, headers, content⟩⟩
  unfold processRequestLine RequestLine.text
  simp only [splitFirst_append noSpace, HttpRequest.setMethod, free, if_true, Bind.bind, Except.bind, known,
    splitFirst_append line.target_plain, run, processVersion_known line.version_known, Pure.pure, Except.pure]

theorem good_of_processRequestLine {request after : HttpRequest} {line : Bytes}
    (processed : processRequestLine request line = .ok (true, after)) : ∃ good : RequestLine, good.text = line := by
  rcases processRequestLine_parts processed with ⟨parts⟩
  rcases splitFirst_some parts.first with ⟨shape, _⟩
  rcases splitFirst_some parts.second with ⟨rest, plain⟩
  have text : line = parts.method ++ space :: (parts.target ++ space :: parts.version) := rest ▸ shape
  exact ⟨⟨parts.method, parts.target, parts.version, methodOf_known.mp parts.known, plain,
    known_of_processVersion parts.processed⟩, text.symm⟩

theorem processRequestLine_wrong {line : Bytes} (wrong : ∀ good : RequestLine, good.text ≠ line)
    {request : HttpRequest} (free : request.method = .kInvalid) :
    ∃ after, processRequestLine request line = .ok (false, after) := by
  rcases processRequestLine_total request line free with ⟨⟨ok, after⟩, run⟩
  cases ok with
  | false => exact ⟨after, run⟩
  | true =>
    rcases good_of_processRequestLine run with ⟨good, same⟩
    exact absurd same (wrong good)

/-! The header lines. -/

theorem headerField_isSome {line : Bytes} : (headerField line).isSome = true ↔ 58 ∈ line := by
  unfold headerField
  rw [Option.isSome_map, splitFirst_isSome]

theorem addHeaderLines_frame (headers : List Bytes) (request : HttpRequest) :
    headers.foldl addHeaderLine request =
      { request with headers := (headers.foldl addHeaderLine request).headers } := by
  induction headers generalizing request with
  | nil => rfl
  | cons line headers ih =>
    have first : addHeaderLine request line = { request with headers := (addHeaderLine request line).headers } := by
      unfold addHeaderLine
      split <;> rfl
    rw [List.foldl_cons, ih, first]

/-- The request as the parser has it at the end of an opening. -/
structure HeadStored (opening : Opening) (request : HttpRequest) : Prop where
  method : request.method = HttpRequest.methodOf opening.line.method
  path : request.path = opening.line.path
  version : request.version = opening.line.version
  headers : ∀ name, request.headers.find name = opening.value name
  content : request.content = []

theorem HeadStored.getHeader {opening : Opening} {request : HttpRequest} (stored : HeadStored opening request)
    (field : Bytes) : request.getHeader field = (opening.value (toLowerAsciiInPlace field)).getD [] := by
  rw [HttpRequest.getHeader, stored.headers]

theorem runs_opening (maxBodyBytes : UInt64) (opening : Opening) :
    ∃ request, HeadStored opening request ∧ ∀ input verdict left,
      parser.Runs { maxBodyBytes := maxBodyBytes, request := request, state := .kExpectHeaders } input verdict left →
      parser.Runs { maxBodyBytes := maxBodyBytes } (opening.text ++ input) verdict left := by
  rcases @processRequestLine_good opening.line {} rfl with ⟨after, line, stored⟩
  have frame := addHeaderLines_frame opening.headers (after.setReceiveTime 0)
  refine ⟨opening.headers.foldl addHeaderLine (after.setReceiveTime 0), ?_, ?_⟩
  · refine ⟨?_, ?_, ?_, ?_, ?_⟩
    · rw [frame]
      exact stored.method
    · rw [frame]
      exact stored.path
    · rw [frame]
      exact stored.version
    · intro name
      have empty : (after.setReceiveTime 0).headers = .empty := stored.headers
      rw [find_addHeaderLines, empty, Dict.find_empty, Option.or_none]
      rfl
    · rw [frame]
      exact stored.content
  · intro input verdict left later
    let lines := opening.headers.flatMap (· ++ [CR, LF])
    have shape : opening.text ++ input = opening.line.text ++ [CR, LF] ++ (lines ++ input) := by
      simp [Opening.text, lines]
    have found := crlfOffset_line opening.line_cut (lines ++ input)
    have moves := @step_accepted { maxBodyBytes := maxBodyBytes } _ _ after rfl found (by rw [take_line]; exact line)
    rw [shape]
    apply Resumable.Runs.advance moves
    rw [drop_line]
    exact runs_headers rfl opening.headers_cut
      (fun header member => headerField_isSome.mpr (opening.headers_colon header member).2) later

/-! The end of the headers. -/

theorem takesBody_method {opening : Opening} {request : HttpRequest} (stored : HeadStored opening request) :
    takesBody request.method = opening.hasBody := by
  have all : ∀ m ∈ [bytes "GET", bytes "POST", bytes "PUT", bytes "DELETE", bytes "OPTIONS"],
      takesBody (HttpRequest.methodOf m) = (decide (m = bytes "POST") || decide (m = bytes "PUT")) := by
    decide
  rw [stored.method]
  exact all _ opening.line.method_known

theorem fromChars_bad {text : Bytes} (bad : ¬ (text ≠ [] ∧ text.all isdigit = true ∧ decimalValue text < 2 ^ 64)) :
    (fromChars text).1 ≠ .ok ∨ (fromChars text).2.2 ≠ [] := by
  by_cases digits : text.all isdigit = true
  · have all : ∀ c ∈ text, isdigit c = true := List.all_eq_true.mp digits
    left
    unfold fromChars
    rw [List.takeWhile_eq_self_iff.mpr all]
    by_cases empty : text = []
    · simp [empty]
    · have large : ¬ decimalValue text < 2 ^ 64 := fun small => bad ⟨empty, digits, small⟩
      dsimp only
      rw [if_neg empty, if_neg large]
      nofun
  · have rest : text.dropWhile isdigit ≠ [] := by
      intro nothing
      exact digits (List.all_eq_true.mpr (List.dropWhile_eq_nil_iff.mp nothing))
    unfold fromChars
    dsimp only
    split
    · left
      nofun
    · split
      · exact Or.inr rest
      · left
        nofun

theorem endOfHeaders_malformed {loop : ParseLoop Bytes} {value : Bytes}
    (takes : takesBody loop.context.request.method = true)
    (header : loop.context.request.getHeader (bytes "Content-Length") = value)
    (bad : ¬ (value ≠ [] ∧ value.all isdigit = true ∧ decimalValue value < 2 ^ 64)) :
    endOfHeaders loop = { loop with ok := false, hasMore := false } := by
  unfold endOfHeaders
  rw [if_pos (by simpa [takesBody] using takes)]
  dsimp only
  rw [header]
  by_cases empty : value = []
  · rw [if_neg (not_not_intro empty)]
  · rw [if_pos empty]
    have failed := fromChars_bad bad
    rcases read : fromChars value with ⟨ec, len, rest⟩
    rw [read] at failed
    exact if_pos failed

theorem endOfHeaders_tooLarge {loop : ParseLoop Bytes} {value : Bytes}
    (takes : takesBody loop.context.request.method = true)
    (header : loop.context.request.getHeader (bytes "Content-Length") = value)
    (nonempty : value ≠ []) (digits : value.all isdigit = true) (bound : decimalValue value < 2 ^ 64)
    (large : loop.context.maxBodyBytes.toNat < decimalValue value) :
    endOfHeaders loop =
      { loop with context := { loop.context with parseErrorStatus := 413 }, ok := false, hasMore := false } := by
  have beyond : UInt64.ofNat (decimalValue value) > loop.context.maxBodyBytes := by
    rw [gt_iff_lt, UInt64.lt_iff_toNat_lt, UInt64.toNat_ofNat_of_lt' bound]
    exact large
  unfold endOfHeaders
  rw [if_pos (by simpa [takesBody] using takes)]
  dsimp only
  rw [header, fromChars_decimal nonempty digits bound, if_pos nonempty]
  simp only [ne_eq, not_true_eq_false, or_self, ↓reduceIte, beyond]

theorem HeadStored.contentLength {opening : Opening} {request : HttpRequest} (stored : HeadStored opening request) :
    request.getHeader (bytes "Content-Length") = (opening.value (bytes "content-length")).getD [] := by
  have lower : toLowerAsciiInPlace (bytes "Content-Length") = bytes "content-length" := by decide
  rw [stored.getHeader, lower]

theorem HeadStored.extracted {opening : Opening} {request : HttpRequest} (stored : HeadStored opening request)
    {length : Nat} {behind : Bytes} {done : HttpContext} (method : done.request.method = request.method)
    (path : done.request.path = request.path) (version : done.request.version = request.version)
    (headers : done.request.headers = request.headers) (body : done.request.content = behind.take length) :
    Extracted opening length behind done (behind.drop length) := by
  have same : ∀ field, done.request.getHeader field = request.getHeader field := by
    intro field
    rw [HttpRequest.getHeader, headers]
    rfl
  refine ⟨method.trans stored.method, path.trans stored.path, version.trans stored.version, ?_, ?_, body, rfl⟩
  · intro name
    rw [headers, stored.headers]
  · intro field
    rw [same, stored.getHeader]

/-- Where the parser stands after the headers have announced this many bytes, all of them or too few being there. -/
def AfterHeaders (opening : Opening) (length : Nat) (behind : Bytes) (context : HttpContext) (input : Bytes) : Prop :=
  (length ≤ behind.length → ∃ done, parser.Runs context input (.halted (.ok (true, done))) (behind.drop length) ∧
    done.state = .kGotAll ∧ Extracted opening length behind done (behind.drop length)) ∧
  (behind.length < length → ∃ next, next.state = .kExpectBody ∧ parser.Runs context input (.suspended next) behind)

theorem runs_wholeBody {opening : Opening} {context : HttpContext} {request : HttpRequest} {length : Nat}
    {behind : Bytes} (stored : HeadStored opening request) (state : context.state = .kExpectBody)
    (read : context.request = { request with contentLength := UInt64.ofNat length }) (bound : length < 2 ^ 64) :
    AfterHeaders opening length behind context behind := by
  have announced : context.request.contentLength.toNat = length := by
    rw [read]
    exact UInt64.toNat_ofNat_of_lt' bound
  apply And.intro
  · intro whole
    have size : (behind.take length).length = length := List.length_take_of_le whole
    have step := @step_wholeBody context (behind.take length) state (announced.trans size.symm) (behind.drop length)
    rw [List.take_append_drop] at step
    have run := Resumable.Runs.halt step
    rw [size] at run
    refine ⟨_, run, rfl, ?_⟩
    exact stored.extracted (by rw [read]; rfl) (by rw [read]; rfl) (by rw [read]; rfl) (by rw [read]; rfl) rfl
  · intro short
    have waiting : waits context behind = true := by
      simp only [waits, state, announced]
      exact decide_eq_true short
    exact ⟨context, state, .wait (step_waits waiting)⟩

theorem runs_allowed {opening : Opening} {maxBodyBytes : UInt64} {request : HttpRequest} {length : Nat} {behind : Bytes}
    (stored : HeadStored opening request) (allowed : opening.Allows maxBodyBytes length) :
    AfterHeaders opening length behind
      { maxBodyBytes := maxBodyBytes, request := request, state := .kExpectHeaders } ([CR, LF] ++ behind) := by
  let context : HttpContext := { maxBodyBytes := maxBodyBytes, request := request, state := .kExpectHeaders }
  have takes := takesBody_method stored
  have none_ : behind.take 0 = request.content := stored.content.symm
  unfold Opening.Allows at allowed
  cases body : opening.hasBody with
  | false =>
    rw [body] at allowed takes
    obtain rfl : length = 0 := allowed
    have halts := @step_endOfHeaders context rfl behind _ (endOfHeaders_bodiless takes)
    refine ⟨fun _ => ⟨_, .halt halts, rfl, ?_⟩, fun short => absurd short (Nat.not_lt_zero _)⟩
    exact stored.extracted rfl rfl rfl rfl none_.symm
  | true =>
    rw [body] at allowed takes
    rcases allowed with ⟨value, found, nonempty, digits, same, fits, bound⟩
    have header : request.getHeader (bytes "Content-Length") = value := by
      rw [stored.contentLength, found]
      rfl
    have ends := @endOfHeaders_length { context := context, buf := [CR, LF] ++ behind } value takes header nonempty
      digits (same ▸ fits)
    have step := @step_endOfHeaders context rfl behind _ ends
    rw [same] at step
    by_cases zero : length = 0
    · rw [if_pos zero] at step
      subst zero
      refine ⟨fun _ => ⟨_, .halt step, rfl, ?_⟩, fun short => absurd short (Nat.not_lt_zero _)⟩
      exact stored.extracted rfl rfl rfl rfl none_.symm
    · rw [if_neg zero] at step
      let reading : HttpContext := { context with
        request := request.setContentLength (UInt64.ofNat length), state := .kExpectBody }
      have later : AfterHeaders opening length behind reading behind := runs_wholeBody stored rfl rfl bound
      apply And.intro
      · intro whole
        rcases later.1 whole with ⟨done, run, gotAll, extracted⟩
        exact ⟨done, .advance step run, gotAll, extracted⟩
      · intro short
        rcases later.2 short with ⟨next, state, run⟩
        exact ⟨next, state, .advance step run⟩

/-- The end of the headers, where they allow no length: the status tells a number beyond the limit, if it is one of
    64 bits, from everything else. -/
theorem runs_refused {opening : Opening} {maxBodyBytes : UInt64} {request : HttpRequest}
    (stored : HeadStored opening request) (wrong : ∀ length, ¬ opening.Allows maxBodyBytes length) (behind : Bytes) :
    ∃ done : HttpContext,
      parser.Runs { maxBodyBytes := maxBodyBytes, request := request, state := .kExpectHeaders } ([CR, LF] ++ behind)
        (.halted (.ok (false, done))) behind ∧ done.state = .kExpectHeaders ∧
      (done.parseErrorStatus = 413 ∧ (∃ length, opening.Exceeds maxBodyBytes length ∧ length < 2 ^ 64) ∨
        done.parseErrorStatus = 400 ∧ ∀ length, opening.Exceeds maxBodyBytes length → 2 ^ 64 ≤ length) := by
  let context : HttpContext := { maxBodyBytes := maxBodyBytes, request := request, state := .kExpectHeaders }
  have takes := takesBody_method stored
  cases body : opening.hasBody with
  | false =>
    have allowed : opening.Allows maxBodyBytes 0 := by
      unfold Opening.Allows
      rw [body]
      rfl
    exact absurd allowed (wrong 0)
  | true =>
    rw [body] at takes
    have header := stored.contentLength
    by_cases number : (opening.value (bytes "content-length")).getD [] ≠ [] ∧
        ((opening.value (bytes "content-length")).getD []).all isdigit = true ∧
        decimalValue ((opening.value (bytes "content-length")).getD []) < 2 ^ 64
    · rcases number with ⟨nonempty, digits, bound⟩
      have found : ∃ value, opening.value (bytes "content-length") = some value := by
        cases shape : opening.value (bytes "content-length") with
        | none => simp [shape] at nonempty
        | some value => exact ⟨value, rfl⟩
      rcases found with ⟨value, found⟩
      rw [found] at header nonempty digits bound
      have large : maxBodyBytes.toNat < decimalValue value := by
        apply Nat.lt_of_not_le
        intro fits
        apply wrong (decimalValue value)
        unfold Opening.Allows
        rw [body]
        exact ⟨value, found, nonempty, digits, rfl, fits, bound⟩
      have ends := @endOfHeaders_tooLarge { context := context, buf := [CR, LF] ++ behind } value takes header nonempty
        digits bound large
      have step := @step_endOfHeaders context rfl behind _ ends
      refine ⟨_, .halt step, rfl, Or.inl ⟨rfl, decimalValue value, ?_, bound⟩⟩
      exact ⟨body, value, found, nonempty, digits, rfl, large⟩
    · have ends := @endOfHeaders_malformed { context := context, buf := [CR, LF] ++ behind } _ takes header number
      have step := @step_endOfHeaders context rfl behind _ ends
      refine ⟨_, .halt step, rfl, Or.inr ⟨rfl, ?_⟩⟩
      rintro length ⟨_, value, found, nonempty, digits, rfl, _⟩
      apply Nat.le_of_not_lt
      intro bound
      apply number
      rw [found]
      exact ⟨nonempty, digits, bound⟩

/-! A call on a fresh context, by what its input is. -/

theorem runs_request {maxBodyBytes : UInt64} {text : Bytes} {opening : Opening} {length : Nat} {behind : Bytes}
    (request : IsRequest maxBodyBytes text opening length behind) :
    ∃ done, parser.Runs { maxBodyBytes := maxBodyBytes } text (.halted (.ok (true, done))) (behind.drop length) ∧
      done.state = .kGotAll ∧ Extracted opening length behind done (behind.drop length) := by
  rcases runs_opening maxBodyBytes opening with ⟨stored, isStored, runs⟩
  rcases (runs_allowed isStored request.allowed).1 request.whole with ⟨done, run, gotAll, extracted⟩
  rw [request.shape, List.append_assoc]
  exact ⟨done, runs _ _ _ run, gotAll, extracted⟩

theorem step_badHeader {context : HttpContext} {line : Bytes} (state : context.state = .kExpectHeaders)
    (cut : IsLine line) (filled : line ≠ []) (wrong : 58 ∉ line) (behind : Bytes) :
    parser.step context (line ++ [CR, LF] ++ behind) = .halt (.ok (false, context)) (line.length + 2) := by
  have refused : headerLine { context := context, buf := line ++ [CR, LF] ++ behind } line =
      { context := context, buf := line ++ [CR, LF] ++ behind, ok := false, hasMore := false } := by
    unfold headerLine
    rw [splitFirst_none wrong]
    exact if_neg filled
  have step := step_header state (crlfOffset_line cut behind) rfl
  rw [take_line, refused] at step
  exact step

theorem step_badRequestLine {context : HttpContext} {line : Bytes} {after : HttpRequest}
    (state : context.state = .kExpectRequestLine) (cut : IsLine line)
    (refused : processRequestLine context.request line = .ok (false, after)) (behind : Bytes) :
    parser.step context (line ++ [CR, LF] ++ behind) =
      .halt (.ok (false, { context with request := after })) 0 := by
  have found := crlfOffset_line cut behind
  have crlf : findCRLF (line ++ [CR, LF] ++ behind) = some line.length := found
  have read : processRequestLine context.request ((readable (line ++ [CR, LF] ++ behind)).take line.length) =
      .ok (false, after) := by
    show processRequestLine context.request ((line ++ [CR, LF] ++ behind).take line.length) = _
    rw [take_line]
    exact refused
  simp only [parser, parserStep, waits, state, found, iteration, crlf, read, Bind.bind, Except.bind]
  simp [Pure.pure, Except.pure]

/-- The text has headers that announce this length, beyond the limit. -/
def IsOversized (maxBodyBytes : UInt64) (text : Bytes) (length : Nat) : Prop :=
  ∃ (opening : Opening) (behind : Bytes), text = opening.text ++ [CR, LF] ++ behind ∧
    opening.Exceeds maxBodyBytes length

theorem runs_broken {maxBodyBytes : UInt64} {text : Bytes} (broken : Broken maxBodyBytes text) :
    ∃ (done : HttpContext) (left : Bytes),
      parser.Runs { maxBodyBytes := maxBodyBytes } text (.halted (.ok (false, done))) left ∧ done.state ≠ .kGotAll ∧
      (done.parseErrorStatus = 400 ∨
        done.parseErrorStatus = 413 ∧ ∃ length, IsOversized maxBodyBytes text length ∧ length < 2 ^ 64) := by
  cases broken with
  | @requestLine line behind cut wrong =>
    rcases @processRequestLine_wrong line wrong {} rfl with ⟨after, refused⟩
    have halts := @step_badRequestLine { maxBodyBytes := maxBodyBytes } line after rfl cut refused behind
    exact ⟨_, _, .halt halts, nofun, Or.inl rfl⟩
  | @header opening line behind cut filled wrong =>
    rcases runs_opening maxBodyBytes opening with ⟨stored, _, runs⟩
    have halts := @step_badHeader { maxBodyBytes := maxBodyBytes, request := stored, state := .kExpectHeaders } line rfl
      cut filled wrong behind
    have shape : opening.text ++ line ++ [CR, LF] ++ behind = opening.text ++ (line ++ [CR, LF] ++ behind) := by simp
    rw [shape]
    exact ⟨_, _, runs _ _ _ (.halt halts), nofun, Or.inl rfl⟩
  | @length opening behind wrong =>
    rcases runs_opening maxBodyBytes opening with ⟨stored, isStored, runs⟩
    rcases runs_refused isStored wrong behind with ⟨done, run, state, status⟩
    have whole := runs _ _ _ run
    rw [← List.append_assoc] at whole
    refine ⟨done, behind, whole, by rw [state]; nofun, ?_⟩
    rcases status with ⟨large, length, exceeds, bound⟩ | ⟨other, _⟩
    · exact Or.inr ⟨large, length, ⟨opening, behind, rfl, exceeds⟩, bound⟩
    · exact Or.inl other

theorem runs_unfinished {maxBodyBytes : UInt64} {text : Bytes} (unfinished : Unfinished maxBodyBytes text) :
    ∃ (next : HttpContext) (left : Bytes),
      parser.Runs { maxBodyBytes := maxBodyBytes } text (.suspended next) left := by
  cases unfinished with
  | requestLine open_ =>
    have waiting : waits { maxBodyBytes := maxBodyBytes } text = true := decide_eq_true open_
    exact ⟨_, _, .wait (step_waits waiting)⟩
  | @headers opening behind open_ =>
    rcases runs_opening maxBodyBytes opening with ⟨stored, _, runs⟩
    have waiting : waits { maxBodyBytes := maxBodyBytes, request := stored, state := .kExpectHeaders } behind = true :=
      decide_eq_true open_
    exact ⟨_, _, runs _ _ _ (.wait (step_waits waiting))⟩
  | @body opening behind length allowed short =>
    rcases runs_opening maxBodyBytes opening with ⟨stored, isStored, runs⟩
    rcases (runs_allowed isStored allowed).2 short with ⟨next, _, run⟩
    rw [List.append_assoc]
    exact ⟨_, _, runs _ _ _ run⟩

/-! Every text is a request, broken or unfinished. -/

theorem isLine_take {text : Bytes} {offset : Nat} (found : crlfOffset text = some offset) :
    IsLine (text.take offset) := by
  apply crlfOffset_closed
  cases inner : crlfOffset (text.take offset) with
  | none => rfl
  | some earlier =>
    have bound := crlfOffset_bound inner
    have same := crlfOffset_append inner (text.drop offset)
    rw [List.take_append_drop, found] at same
    cases same
    have length := List.length_take_le offset text
    omega

/-- By induction on the length of what follows the request line. -/
theorem headers_cut_out (text : Bytes) :
    ∃ (headers : List Bytes) (behind : Bytes), text = headers.flatMap (· ++ [CR, LF]) ++ behind ∧
      (∀ header ∈ headers, IsLine header) ∧ (∀ header ∈ headers, header ≠ [] ∧ 58 ∈ header) ∧
      (crlfOffset behind = none ∨
        ∃ line rest, behind = line ++ [CR, LF] ++ rest ∧ IsLine line ∧ 58 ∉ line) := by
  induction size : text.length using Nat.strong_induction_on generalizing text with
  | _ n ih =>
    cases found : crlfOffset text with
    | none => exact ⟨[], text, rfl, nofun, nofun, Or.inl found⟩
    | some offset =>
      have cut := isLine_take found
      have shape := crlfOffset_cut found
      by_cases colon : 58 ∈ text.take offset
      · have bound := crlfOffset_bound found
        have shorter : (text.drop (offset + 2)).length < n := by
          rw [List.length_drop]
          omega
        rcases ih _ shorter _ rfl with ⟨headers, behind, rest, cuts, colons, stop⟩
        refine ⟨text.take offset :: headers, behind, ?_, ?_, ?_, stop⟩
        · rw [List.flatMap_cons, List.append_assoc, ← rest]
          exact shape
        · exact List.forall_mem_cons.mpr ⟨cut, cuts⟩
        · exact List.forall_mem_cons.mpr ⟨⟨List.ne_nil_of_mem colon, colon⟩, colons⟩
      · exact ⟨[], text, rfl, nofun, nofun, Or.inr ⟨_, _, shape, cut, colon⟩⟩

theorem text_cases (maxBodyBytes : UInt64) (text : Bytes) :
    (∃ opening length behind, IsRequest maxBodyBytes text opening length behind) ∨ Broken maxBodyBytes text ∨
      Unfinished maxBodyBytes text := by
  cases found : crlfOffset text with
  | none => exact Or.inr (Or.inr (.requestLine found))
  | some offset =>
    have cut := isLine_take found
    have shape := crlfOffset_cut found
    by_cases accepted : ∃ good : RequestLine, good.text = text.take offset
    · rcases accepted with ⟨good, same⟩
      rcases headers_cut_out (text.drop (offset + 2)) with ⟨headers, behind, rest, cuts, colons, stop⟩
      let opening : Opening := ⟨good, headers, by rw [same]; exact cut, cuts, colons⟩
      have whole : text = opening.text ++ behind := by
        rw [rest, ← same, ← List.append_assoc] at shape
        exact shape
      rw [whole]
      rcases stop with open_ | ⟨line, more, rfl, lineCut, noColon⟩
      · exact Or.inr (Or.inr (.headers open_))
      · by_cases empty : line = []
        · subst empty
          rw [List.nil_append, ← List.append_assoc]
          by_cases allowed : ∃ length, opening.Allows maxBodyBytes length
          · rcases allowed with ⟨length, allowed⟩
            rcases Nat.lt_or_ge more.length length with short | enough
            · exact Or.inr (Or.inr (.body allowed short))
            · exact Or.inl ⟨opening, length, more, rfl, allowed, enough⟩
          · exact Or.inr (Or.inl (.length fun length allows => allowed ⟨length, allows⟩))
        · rw [← List.append_assoc, ← List.append_assoc]
          exact Or.inr (Or.inl (.header lineCut empty noColon))
    · rw [shape]
      exact Or.inr (Or.inl (.requestLine cut fun good same => accepted ⟨good, same⟩))

variable {Buffer : Type} [MuduoBuffer Buffer]

/-- One call on a fresh context tells requests, broken texts and unfinished ones apart, and reads a request right. -/
theorem parse_grammar (maxBodyBytes : UInt64) (text : Bytes) (receiveTime : Timestamp) :
    ∃ ok context left,
      parseRequest { maxBodyBytes := maxBodyBytes } (append (empty : Buffer) text) receiveTime =
        .ok (ok, context, left) ∧
      (context.gotAll = true ↔ ∃ opening length behind, IsRequest maxBodyBytes text opening length behind) ∧
      (∀ opening length behind, IsRequest maxBodyBytes text opening length behind →
        ok = true ∧ Extracted opening length behind context (readable left)) ∧
      (ok = false ↔ Broken maxBodyBytes text) ∧
      (ok = true ∧ context.gotAll = false ↔ Unfinished maxBodyBytes text) := by
  rcases parseRequest_total { maxBodyBytes := maxBodyBytes } (append (empty : Buffer) text) receiveTime
    (fresh_clean maxBodyBytes) with ⟨ok, context, left, call, run, _⟩
  rw [readable_append, readable_empty, List.nil_append] at run
  have request : ∀ opening length behind, IsRequest maxBodyBytes text opening length behind →
      (ok = true ∧ context.gotAll = true) ∧ Extracted opening length behind context (readable left) := by
    intro opening length behind isRequest
    rcases runs_request isRequest with ⟨done, whole, _, extracted⟩
    rcases run.deterministic whole with ⟨verdict, sameLeft⟩
    have seen := callVerdict_seen verdict
    rw [← seen, ← sameLeft] at extracted
    exact ⟨callVerdict_complete verdict, extracted.method, extracted.path, extracted.version, extracted.headers,
      extracted.getHeader, extracted.body, extracted.left⟩
  have broken : Broken maxBodyBytes text → ok = false ∧ context.gotAll = false := by
    intro isBroken
    rcases runs_broken isBroken with ⟨done, rest, whole, state, _⟩
    rcases run.deterministic whole with ⟨verdict, _⟩
    rcases callVerdict_failed verdict with ⟨failed, seen⟩
    have same : context.state = done.state := by rw [← seen, untimed_state]
    exact ⟨failed, decide_eq_false (by rw [same]; exact state)⟩
  have unfinished : Unfinished maxBodyBytes text → ok = true ∧ context.gotAll = false := by
    intro isUnfinished
    rcases runs_unfinished isUnfinished with ⟨next, rest, whole⟩
    rcases callVerdict_waiting (run.deterministic whole).1 with ⟨fine, notAll, _⟩
    exact ⟨fine, notAll⟩
  refine ⟨ok, context, left, call, ?_, ?_, ?_, ?_⟩
  · apply Iff.intro
    · intro gotAll
      rcases text_cases maxBodyBytes text with isRequest | isBroken | isUnfinished
      · exact isRequest
      · rw [(broken isBroken).2] at gotAll
        cases gotAll
      · rw [(unfinished isUnfinished).2] at gotAll
        cases gotAll
    · rintro ⟨opening, length, behind, isRequest⟩
      exact (request _ _ _ isRequest).1.2
  · intro opening length behind isRequest
    rcases request _ _ _ isRequest with ⟨⟨fine, _⟩, extracted⟩
    exact ⟨fine, extracted⟩
  · apply Iff.intro
    · intro failed
      rcases text_cases maxBodyBytes text with ⟨opening, length, behind, isRequest⟩ | isBroken | isUnfinished
      · rw [(request _ _ _ isRequest).1.1] at failed
        cases failed
      · exact isBroken
      · rw [(unfinished isUnfinished).1] at failed
        cases failed
    · exact fun isBroken => (broken isBroken).1
  · apply Iff.intro
    · rintro ⟨fine, notAll⟩
      rcases text_cases maxBodyBytes text with ⟨opening, length, behind, isRequest⟩ | isBroken | isUnfinished
      · rw [(request _ _ _ isRequest).1.2] at notAll
        cases notAll
      · rw [(broken isBroken).1] at fine
        cases fine
      · exact isUnfinished
    · exact unfinished

end HttpContext

end Http
