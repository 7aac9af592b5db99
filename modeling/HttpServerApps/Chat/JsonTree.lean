import HttpServerApps.Common.Decimal

namespace Chat

open Common

/-- A value of nlohmann::json; the fields of an object are in the order of their keys. -/
inductive Json where
  | null
  | boolean (value : Bool)
  | integer (value : Int)
  | float (literal : Bytes)
  | string (text : Bytes)
  | array (items : List Json)
  | object (fields : List (Bytes × Json))

/-- How code ends other than by returning: a `std::exception` with its text, or with an access that the
    library leaves undefined. -/
inductive Failure where
  | exception (what : Bytes)
  | undefined
  deriving DecidableEq

/-- The parser and the two printers of the library. -/
structure JsonCodec where
  parse : Bytes → Except Bytes Json
  dump : Json → Except Bytes Bytes
  /-- `dump(4)` -/
  dump4 : Json → Except Bytes Bytes

/-- A library call, which only throws exceptions. -/
def throwing {Value : Type} (outcome : Except Bytes Value) : Except Failure Value :=
  outcome.mapError .exception

namespace Json

def typeName : Json → Bytes
  | .null => bytes "null"
  | .boolean _ => bytes "boolean"
  | .integer _ | .float _ => bytes "number"
  | .string _ => bytes "string"
  | .array _ => bytes "array"
  | .object _ => bytes "object"

def empty : Json → Bool
  | .null => true
  | .array items => items = []
  | .object fields => fields = []
  | _ => false

def field (value : Json) (key : Bytes) : Option Json :=
  match value with
  | .object fields => (fields.find? fun entry => entry.1 = key).map Prod.snd
  | _ => none

def contains (value : Json) (key : Bytes) : Bool := (value.field key).isSome

/-- `operator[]` of a const value with a key. -/
def atKey (value : Json) (key : Bytes) : Except Failure Json :=
  match value with
  | .object _ =>
    match value.field key with
    | some found => .ok found
    | none => .error .undefined
  | other => .error (.exception
      (bytes "[json.exception.type_error.305] cannot use operator[] with a string argument with " ++ other.typeName))

/-- `operator[]` of a const value with an index. -/
def atIndex (value : Json) (index : Nat) : Except Failure Json :=
  match value with
  | .array items =>
    match items[index]? with
    | some found => .ok found
    | none => .error .undefined
  | other => .error (.exception
      (bytes "[json.exception.type_error.305] cannot use operator[] with a numeric argument with " ++ other.typeName))

/-- `get<std::string>()` -/
def getString : Json → Except Failure Bytes
  | .string text => .ok text
  | other => .error (.exception
      (bytes "[json.exception.type_error.302] type must be string, but is " ++ other.typeName))

/-! A printer for values whose texts need no escapes, compact or indented from a level on. -/

def lineBreak : Option Nat → Bytes
  | none => []
  | some level => bytes "\n" ++ List.replicate (4 * level) space

mutual

def write (level : Option Nat) : Json → Bytes
  | .null => bytes "null"
  | .boolean true => bytes "true"
  | .boolean false => bytes "false"
  | .integer value => intText value
  | .float literal => literal
  | .string text => bytes "\"" ++ text ++ bytes "\""
  | .array [] => bytes "[]"
  | .array (item :: items) =>
    bytes "[" ++ lineBreak (level.map (· + 1)) ++ write (level.map (· + 1)) item ++
      writeItems (level.map (· + 1)) items ++ lineBreak level ++ bytes "]"
  | .object [] => bytes "\x7b\x7d"
  | .object ((key, value) :: fields) =>
    bytes "\x7b" ++ lineBreak (level.map (· + 1)) ++ bytes "\"" ++ key ++
      (if level.isSome then bytes "\": " else bytes "\":") ++ write (level.map (· + 1)) value ++
      writeFields (level.map (· + 1)) fields ++ lineBreak level ++ bytes "\x7d"

def writeItems (level : Option Nat) : List Json → Bytes
  | [] => []
  | item :: items => bytes "," ++ lineBreak level ++ write level item ++ writeItems level items

def writeFields (level : Option Nat) : List (Bytes × Json) → Bytes
  | [] => []
  | (key, value) :: fields =>
    bytes "," ++ lineBreak level ++ bytes "\"" ++ key ++
      (if level.isSome then bytes "\": " else bytes "\":") ++ write level value ++ writeFields level fields

end

end Json

/-- A library that knows a few texts. -/
def knownTexts (texts : List (Bytes × Json)) : JsonCodec where
  parse text :=
    match texts.find? fun known => known.1 = text with
    | some (_, value) => .ok value
    | none => .error (bytes "parse error")
  dump value := .ok (value.write none)
  dump4 value := .ok (value.write (some 0))

end Chat
