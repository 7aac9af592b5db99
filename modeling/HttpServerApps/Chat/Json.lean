import HttpServerApps.Common.Decimal

namespace Chat

open Common

inductive Scalar where
  | bool (value : Bool)
  | int (value : Int32)
  | string (value : Bytes)

def isAscii (text : Bytes) : Bool := text.all (· < 128)

/-- No text of the object has a byte outside ASCII. -/
def asciiFields (fields : List (Bytes × Scalar)) : Bool :=
  fields.all fun (name, value) => isAscii name &&
    match value with
    | .string text => isAscii text
    | _ => true

/-- What the handlers use of nlohmann::json. `dump` throws only on a text that is not UTF-8. -/
structure JsonLibrary where
  Value : Type
  parse : Bytes → Except Bytes Value
  /-- `std::string text = value[key]` -/
  stringAt : Value → Bytes → Except Bytes Bytes
  /-- `dump(4)` of an object built of these fields. -/
  dump : List (Bytes × Scalar) → Except Bytes Bytes
  dump_ascii : ∀ fields, asciiFields fields = true → ∃ text, dump fields = .ok text

def Scalar.text : Scalar → Bytes
  | .bool true => bytes "true"
  | .bool false => bytes "false"
  | .int value => intText value.toInt
  | .string value => bytes "\"" ++ value ++ bytes "\""

/-- A library for one request body, an object of texts; its objects are in the order given. -/
def bodyJson (body : Bytes) (fields : List (Bytes × Bytes)) : JsonLibrary where
  Value := List (Bytes × Bytes)
  parse text := if text = body then .ok fields else .error (bytes "parse error")
  stringAt value key :=
    match value.find? fun field => field.1 = key with
    | some (_, text) => .ok text
    | none => .error (bytes "type error")
  dump object := .ok (bytes "\x7b\n" ++ (bytes ",\n").intercalate
    (object.map fun (name, value) => bytes "    \"" ++ name ++ bytes "\": " ++ value.text) ++ bytes "\n\x7d")
  dump_ascii _ _ := ⟨_, rfl⟩

end Chat
