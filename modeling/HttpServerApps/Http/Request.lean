import HttpServerApps.Common.Bytes
import HttpServerApps.Common.Dict
import HttpServerApps.Common.Search

namespace Http

open Common

/-- `muduo::Timestamp`, in microseconds since the epoch. -/
abbrev Timestamp := Int

inductive Method where
  | kInvalid
  | kGet
  | kPost
  | kHead
  | kPut
  | kDelete
  | kOptions
  deriving DecidableEq

/-- How a call can end other than by returning: a failed `assert`, a `std::out_of_range` from
    `substr`, a loop that does not end, or a throw that nothing catches. -/
inductive Fault where
  | assertion
  | outOfRange
  | spin
  | uncaught
  deriving DecidableEq

structure HttpRequest where
  method : Method := .kInvalid
  version : Bytes := bytes "Unknown"
  path : Bytes := []
  pathParameters : Dict Bytes Bytes := .empty
  queryParameters : Dict Bytes Bytes := .empty
  receiveTime : Timestamp := 0
  headers : Dict Bytes Bytes := .empty
  content : Bytes := []
  contentLength : UInt64 := 0

/-- `std::string::find(c, from)`. -/
def findFrom (text : Bytes) (c : UInt8) (start : Nat) : Option Nat :=
  ((text.drop start).findIdx? (· == c)).map (· + start)

/-- `std::string::substr(pos, count)`. -/
def substr (text : Bytes) (pos count : Nat) : Except Fault Bytes :=
  if pos ≤ text.length then .ok ((text.drop pos).take count) else .error .outOfRange

/-- `std::string::substr(pos)`. -/
def substrFrom (text : Bytes) (pos : Nat) : Except Fault Bytes :=
  if pos ≤ text.length then .ok (text.drop pos) else .error .outOfRange

def toLowerAsciiInPlace (s : Bytes) : Bytes := s.map tolower

namespace HttpRequest

def setReceiveTime (request : HttpRequest) (t : Timestamp) : HttpRequest :=
  { request with receiveTime := t }

def methodOf (m : Bytes) : Method :=
  if m = bytes "GET" then .kGet
  else if m = bytes "POST" then .kPost
  else if m = bytes "PUT" then .kPut
  else if m = bytes "DELETE" then .kDelete
  else if m = bytes "OPTIONS" then .kOptions
  else .kInvalid

def setMethod (request : HttpRequest) (m : Bytes) : Except Fault (Bool × HttpRequest) :=
  if request.method = .kInvalid then
    .ok (methodOf m != .kInvalid, { request with method := methodOf m })
  else .error .assertion

def setPath (request : HttpRequest) (path : Bytes) : HttpRequest := { request with path := path }

def setPathParameters (request : HttpRequest) (key value : Bytes) : HttpRequest :=
  { request with pathParameters := request.pathParameters.insert key value }

def getPathParameters (request : HttpRequest) (key : Bytes) : Bytes :=
  (request.pathParameters.find key).getD []

def getQueryParameters (request : HttpRequest) (key : Bytes) : Bytes :=
  (request.queryParameters.find key).getD []

/-- One `key=value` piece of the query; a piece without `=` is skipped. -/
def addQueryPair (parameters : Dict Bytes Bytes) (pair : Bytes) :
    Except Fault (Dict Bytes Bytes) :=
  match findFrom pair 61 0 with
  | some equalPos => do
    let key ← substr pair 0 equalPos
    let value ← substrFrom pair (equalPos + 1)
    return parameters.insert key value
  | none => .ok parameters

/-- The loop over the `&` of the query, with the piece after the last `&`. -/
def queryLoop (argumentStr : Bytes) : Nat → Nat → Dict Bytes Bytes → Except Fault (Dict Bytes Bytes)
  | 0, _, _ => .error .spin
  | fuel + 1, prev, parameters =>
    match findFrom argumentStr 38 prev with
    | some pos => do
      let pair ← substr argumentStr prev (pos - prev)
      let parameters ← addQueryPair parameters pair
      queryLoop argumentStr fuel (pos + 1) parameters
    | none => do
      let lastPair ← substrFrom argumentStr prev
      addQueryPair parameters lastPair

def setQueryParameters (request : HttpRequest) (argumentStr : Bytes) : Except Fault HttpRequest := do
  let parameters ← queryLoop argumentStr (argumentStr.length + 1) 0 request.queryParameters
  return { request with queryParameters := parameters }

def setVersion (request : HttpRequest) (v : Bytes) : HttpRequest := { request with version := v }

/-- `key` is the text before the colon and `rest` the text after it. -/
def addHeader (request : HttpRequest) (key rest : Bytes) : HttpRequest :=
  let value := ((rest.dropWhile isspace).reverse.dropWhile isspace).reverse
  { request with headers := request.headers.insert (toLowerAsciiInPlace key) value }

def getHeader (request : HttpRequest) (field : Bytes) : Bytes :=
  (request.headers.find (toLowerAsciiInPlace field)).getD []

def setBody (request : HttpRequest) (body : Bytes) : HttpRequest := { request with content := body }

def setContentLength (request : HttpRequest) (length : UInt64) : HttpRequest :=
  { request with contentLength := length }

def swap (this that : HttpRequest) : HttpRequest × HttpRequest :=
  ({ method := that.method, path := that.path, pathParameters := that.pathParameters,
     queryParameters := that.queryParameters, version := that.version, headers := that.headers,
     receiveTime := that.receiveTime, content := that.content,
     contentLength := that.contentLength },
   { method := this.method, path := this.path, pathParameters := this.pathParameters,
     queryParameters := this.queryParameters, version := this.version, headers := this.headers,
     receiveTime := this.receiveTime, content := this.content,
     contentLength := this.contentLength })

end HttpRequest

/-! What a search by position finds, and what `substr` takes there. -/

/-- A search by position finds the place where the text is cut. -/
theorem findFrom_eq (text : Bytes) (c : UInt8) (start : Nat) :
    findFrom text c start = (splitFirst c (text.drop start)).map fun cut => start + cut.1.length := by
  have index : ∀ rest : Bytes, rest.findIdx? (· == c) = (splitFirst c rest).map fun cut => cut.1.length := by
    intro rest
    induction rest with
    | nil => rfl
    | cons b rest ih =>
      rw [List.findIdx?_cons, splitFirst, ih]
      by_cases here : b = c
      · simp [here]
      · simp only [here, beq_iff_eq, ↓reduceIte, Option.map_map]
        rfl
  unfold findFrom
  rw [index, Option.map_map]
  congr 1
  funext cut
  exact Nat.add_comm _ _

/-- What `substr` gives around a place that the search has found. -/
theorem cut_drop {text before after : Bytes} {c : UInt8} {start : Nat}
    (cut : splitFirst c (text.drop start) = some (before, after)) :
    (text.drop start).take before.length = before ∧ text.drop (start + before.length + 1) = after ∧
      start + before.length < text.length := by
  have shape := (splitFirst_some cut).1
  have long := congrArg List.length shape
  rw [List.length_drop, List.length_append, List.length_cons] at long
  refine ⟨?_, ?_, by omega⟩
  · rw [shape, List.take_left]
  · rw [Nat.add_assoc, ← List.drop_drop, shape, List.drop_append]
    simp

theorem substr_ok {text : Bytes} {pos count : Nat} (bound : pos ≤ text.length) :
    substr text pos count = .ok ((text.drop pos).take count) := by simp [substr, bound]

theorem substrFrom_ok {text : Bytes} {pos : Nat} (bound : pos ≤ text.length) :
    substrFrom text pos = .ok (text.drop pos) := by simp [substrFrom, bound]

end Http
