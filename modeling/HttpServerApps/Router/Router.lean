import Mathlib.Data.List.Sort
import HttpServerApps.Common.Decimal
import HttpServerApps.Common.SequenceRegex
import HttpServerApps.Http.Request

namespace Http.Routing

open Common SequenceRegex

def slash : UInt8 := 47

def routeStaticPrefixFromPattern (pathPattern : Bytes) : Bytes :=
  match findText (bytes "/:") pathPattern with
  | none => []
  | some pos => pathPattern.take (pos + 1)

/-- `std::unique`: of equal neighbours the first stays. -/
def unique : List Bytes → List Bytes
  | [] => []
  | [key] => [key]
  | first :: second :: keys =>
    if first = second then unique (second :: keys) else first :: unique (second :: keys)

def pathPrefixesForLookup (path : Bytes) : List Bytes :=
  if path = [] ∨ path.head? ≠ some slash then [[]]
  else
    let inner := (List.range path.length).filterMap fun i =>
      if 1 ≤ i ∧ path[i]? = some slash then some (path.take (i + 1)) else none
    unique (([] :: inner ++ [path]).insertionSort fun a b => a.length ≥ b.length)

/-- A name follows the `/` of `/:name`. -/
def paramFollows (rest : Bytes) : Bool :=
  rest.head? = some 58 && (rest[1]?.any (· != slash))

/-- `std::regex_replace` of `/:([^/]+)` by `/([^/]+)`; `inName` while the text of a match is
    passed over. -/
def replaceParams : Bool → Bytes → Bytes
  | _, [] => []
  | inName, b :: rest =>
    if inName ∧ b ≠ slash then replaceParams true rest
    else if b = slash ∧ paramFollows rest then bytes "/([^/]+)" ++ replaceParams true rest
    else b :: replaceParams false rest

/-- The characters with a meaning of their own in an ECMAScript regular expression. -/
def isMetacharacter (c : UInt8) : Bool := (bytes "^$\\.*+?()[]\x7b\x7d|").contains c

def notSlash (c : UInt8) : Bool := c != slash

/-- The regular expressions the router builds: literal characters and the group `([^/]+)`. -/
def compilePieces : Bytes → Option (List (Piece UInt8))
  | [] => some []
  | 40 :: 91 :: 94 :: 47 :: 93 :: 43 :: 41 :: rest => (compilePieces rest).map (.group notSlash :: ·)
  | c :: rest => if isMetacharacter c then none else (compilePieces rest).map (.lit c :: ·)

/-- The anchors are those of the whole match that `std::regex_match` makes anyway. -/
def compile : Bytes → Option (List (Piece UInt8))
  | 94 :: text => if text.getLast? = some 36 then compilePieces text.dropLast else none
  | _ => none

/-- `none` where the expression is not of the form above. -/
def convertToRegex (pathPattern : Bytes) : Option (List (Piece UInt8)) :=
  compile (bytes "^" ++ replaceParams false pathPattern ++ bytes "$")

/-- `RouteHandlerObj` and `RouteCallbackObj`. -/
structure RouteObj (Target : Type) where
  method : Method
  pathRegex : List (Piece UInt8)
  target : Target

abbrev Buckets (Target : Type) := Dict (Method × Bytes) (List (RouteObj Target))

structure Router (Handler Callback : Type) where
  handlers : Dict (Method × Bytes) Handler := .empty
  callbacks : Dict (Method × Bytes) Callback := .empty
  regexHandlersByPrefix : Buckets Handler := .empty
  regexCallbacksByPrefix : Buckets Callback := .empty

inductive Target (Handler Callback : Type) where
  | handler (target : Handler)
  | callback (target : Callback)

def addToBucket {Target : Type} (buckets : Buckets Target) (method : Method) (path : Bytes)
    (pathRegex : List (Piece UInt8)) (target : Target) : Buckets Target :=
  let pkey := (method, routeStaticPrefixFromPattern path)
  buckets.insert pkey ((buckets.find pkey).getD [] ++ [⟨method, pathRegex, target⟩])

def extractPathParameters (captures : List Bytes) (request : HttpRequest) : HttpRequest :=
  (captures.zipIdx 1).foldl
    (fun request capture => request.setPathParameters (bytes "param" ++ natText capture.2) capture.1)
    request

def searchBuckets {Target : Type} (buckets : Buckets Target) (req : HttpRequest) :
    Option (Target × HttpRequest) :=
  (pathPrefixesForLookup req.path).findSome? fun key =>
    ((buckets.find (req.method, key)).getD []).findSome? fun obj =>
      if obj.method = req.method then
        (regexMatch obj.pathRegex req.path).map fun captures =>
          (obj.target, extractPathParameters captures req)
      else none

namespace Router

variable {Handler Callback : Type}

def registerHandler (router : Router Handler Callback) (method : Method) (path : Bytes)
    (handler : Handler) : Router Handler Callback :=
  { router with handlers := router.handlers.insert (method, path) handler }

def registerCallback (router : Router Handler Callback) (method : Method) (path : Bytes)
    (callback : Callback) : Router Handler Callback :=
  { router with callbacks := router.callbacks.insert (method, path) callback }

def addRegexHandler (router : Router Handler Callback) (method : Method) (path : Bytes)
    (handler : Handler) : Option (Router Handler Callback) :=
  (convertToRegex path).map fun pathRegex =>
    { router with
      regexHandlersByPrefix := addToBucket router.regexHandlersByPrefix method path pathRegex handler }

def addRegexCallback (router : Router Handler Callback) (method : Method) (path : Bytes)
    (callback : Callback) : Option (Router Handler Callback) :=
  (convertToRegex path).map fun pathRegex =>
    { router with
      regexCallbacksByPrefix :=
        addToBucket router.regexCallbacksByPrefix method path pathRegex callback }

/-- The handler or callback that `route` runs, with the request it is given; `none` when `route`
    returns false. -/
def route (router : Router Handler Callback) (req : HttpRequest) :
    Option (Target Handler Callback × HttpRequest) :=
  match router.handlers.find (req.method, req.path) with
  | some handler => some (.handler handler, req)
  | none =>
    match router.callbacks.find (req.method, req.path) with
    | some callback => some (.callback callback, req)
    | none =>
      match searchBuckets router.regexHandlersByPrefix req with
      | some (handler, newReq) => some (.handler handler, newReq)
      | none =>
        (searchBuckets router.regexCallbacksByPrefix req).map fun found =>
          (.callback found.1, found.2)

end Router

end Http.Routing
