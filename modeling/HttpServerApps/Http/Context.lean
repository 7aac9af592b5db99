import HttpServerApps.Common.Decimal
import HttpServerApps.Http.Buffer
import HttpServerApps.Http.Request

namespace Http

open Common MuduoBuffer

inductive ParseState where
  | kExpectRequestLine
  | kExpectHeaders
  | kExpectBody
  | kGotAll
  deriving DecidableEq

structure HttpContext where
  state : ParseState := .kExpectRequestLine
  request : HttpRequest := {}
  maxBodyBytes : UInt64
  parseErrorStatus : Nat := 400

inductive Errc where
  | ok
  | invalidArgument
  | resultOutOfRange
  deriving DecidableEq

/-- `std::from_chars` to a `std::uint64_t`: the error code, the value and the text not read. -/
def fromChars (text : Bytes) : Errc × UInt64 × Bytes :=
  let digits := text.takeWhile isdigit
  let rest := text.dropWhile isdigit
  if digits = [] then (.invalidArgument, 0, text)
  else if decimalValue digits < 2 ^ 64 then (.ok, UInt64.ofNat (decimalValue digits), rest)
  else (.resultOutOfRange, 0, rest)

namespace HttpContext

def gotAll (context : HttpContext) : Bool := context.state = .kGotAll

def reset (context : HttpContext) : HttpContext :=
  { context with
    state := .kExpectRequestLine
    parseErrorStatus := 400
    request := (context.request.swap {}).1 }

/-- The request target, up to its first `?` the path and after it the query. -/
def setTarget (request : HttpRequest) (target : Bytes) : Except Fault HttpRequest :=
  match splitFirst 63 target with
  | some (path, query) => (request.setPath path).setQueryParameters query
  | none => .ok (request.setPath target)

def processVersion (request : HttpRequest) (version : Bytes) : Bool × HttpRequest :=
  if version.length = 8 ∧ version.take 7 = bytes "HTTP/1." then
    if version.getLast? = some 49 then (true, request.setVersion (bytes "HTTP/1.1"))
    else if version.getLast? = some 48 then (true, request.setVersion (bytes "HTTP/1.0"))
    else (false, request)
  else (false, request)

def processRequestLine (request : HttpRequest) (line : Bytes) : Except Fault (Bool × HttpRequest) :=
  match splitFirst space line with
  | none => .ok (false, request)
  | some (m, afterMethod) => do
    let (known, request) ← request.setMethod m
    if known then
      match splitFirst space afterMethod with
      | none => return (false, request)
      | some (target, version) => do
        let request ← setTarget request target
        return processVersion request version
    else return (false, request)

structure ParseLoop (Buffer : Type) where
  context : HttpContext
  buf : Buffer
  ok : Bool := true
  hasMore : Bool := true

def endOfHeaders {Buffer : Type} (loop : ParseLoop Buffer) : ParseLoop Buffer :=
  let context := loop.context
  if context.request.method = .kPost ∨ context.request.method = .kPut then
    let contentLength := context.request.getHeader (bytes "Content-Length")
    if contentLength ≠ [] then
      let (ec, len, rest) := fromChars contentLength
      if ec ≠ .ok ∨ rest ≠ [] then
        { loop with ok := false, hasMore := false }
      else if len > context.maxBodyBytes then
        { loop with context := { context with parseErrorStatus := 413 }, ok := false, hasMore := false }
      else
        let request := context.request.setContentLength len
        if request.contentLength > 0 then
          { loop with context := { context with request := request, state := .kExpectBody } }
        else
          { loop with context := { context with request := request, state := .kGotAll }
                      hasMore := false }
    else { loop with ok := false, hasMore := false }
  else { loop with context := { context with state := .kGotAll }, hasMore := false }

/-- A line of the header section, given without its CRLF. -/
def headerLine {Buffer : Type} (loop : ParseLoop Buffer) (line : Bytes) : ParseLoop Buffer :=
  match splitFirst 58 line with
  | some (key, rest) =>
    { loop with
      context := { loop.context with request := loop.context.request.addHeader key rest } }
  | none =>
    if line = [] then endOfHeaders loop
    else { loop with ok := false, hasMore := false }

variable {Buffer : Type} [MuduoBuffer Buffer]

def iteration (receiveTime : Timestamp) (loop : ParseLoop Buffer) :
    Except Fault (ParseLoop Buffer) :=
  match loop.context.state with
  | .kExpectRequestLine =>
    match findCRLF loop.buf with
    | some crlf => do
      let (ok, request) ← processRequestLine loop.context.request ((readable loop.buf).take crlf)
      if ok then
        return { loop with
          context := { loop.context with
            request := request.setReceiveTime receiveTime, state := .kExpectHeaders }
          buf := retrieveUntil loop.buf (crlf + 2) }
      else
        return { loop with
          context := { loop.context with request := request }, ok := false, hasMore := false }
    | none => .ok { loop with hasMore := false }
  | .kExpectHeaders =>
    match findCRLF loop.buf with
    | some crlf =>
      let loop' := headerLine loop ((readable loop.buf).take crlf)
      .ok { loop' with buf := retrieveUntil loop.buf (crlf + 2) }
    | none => .ok { loop with hasMore := false }
  | .kExpectBody =>
    let length := loop.context.request.contentLength.toNat
    if readableBytes loop.buf < length then .ok { loop with ok := true, hasMore := false }
    else
      let body := (readable loop.buf).take length
      .ok { loop with
        context := { loop.context with
          request := loop.context.request.setBody body, state := .kGotAll }
        buf := retrieve loop.buf length
        hasMore := false }
  | .kGotAll => .ok loop

def whileLoop (receiveTime : Timestamp) : Nat → ParseLoop Buffer → Except Fault (ParseLoop Buffer)
  | 0, loop => if loop.hasMore then .error .spin else .ok loop
  | fuel + 1, loop =>
    if loop.hasMore then do
      let loop ← iteration receiveTime loop
      whileLoop receiveTime fuel loop
    else .ok loop

/-- Each iteration that goes on takes at least a CRLF from the buffer, so a loop that is still
    running after this many iterations never ends. -/
def parseRequest (context : HttpContext) (buf : Buffer) (receiveTime : Timestamp) :
    Except Fault (Bool × HttpContext × Buffer) := do
  let loop ← whileLoop receiveTime (readableBytes buf + 2)
    { context := { context with parseErrorStatus := 400 }, buf := buf }
  return (loop.ok, loop.context, loop.buf)

end HttpContext

end Http
