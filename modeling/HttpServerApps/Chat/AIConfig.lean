import HttpServerApps.Chat.JsonTree

namespace Chat

open Common

/-! `std::regex_replace` for an expression that is one literal text. -/

/-- A format string for one match; a `$` that stands for nothing else is copied. -/
def expandFormat (before matched after : Bytes) : Bytes → Bytes
  | [] => []
  | [c] => [c]
  | c :: d :: rest =>
    if c ≠ 36 then c :: expandFormat before matched after (d :: rest)
    else if d = 36 then 36 :: expandFormat before matched after rest
    else if d = 38 then matched ++ expandFormat before matched after rest
    else if d = 96 then before ++ expandFormat before matched after rest
    else if d = 39 then after ++ expandFormat before matched after rest
    else if isdigit d then
      match rest with
      | [] => if d = 48 then matched else []
      | e :: others =>
        -- two digits are one number; no group but the whole match exists
        if isdigit e then
          (if d = 48 ∧ e = 48 then matched else []) ++ expandFormat before matched after others
        else (if d = 48 then matched else []) ++ expandFormat before matched after (e :: others)
    else 36 :: expandFormat before matched after (d :: rest)

/-- At most `matches` replacements, from the left. -/
def replaceMatches (pattern format : Bytes) : (matches_ : Nat) → Bytes → Bytes
  | 0, text => text
  | matches_ + 1, text =>
    match findText pattern text with
    | none => text
    | some pos =>
      let rest := text.drop (pos + pattern.length)
      text.take pos ++ expandFormat (text.take pos) pattern rest format ++
        replaceMatches pattern format matches_ rest

/-- Every match of a text that is not empty takes a character. -/
def regexReplace (text pattern format : Bytes) : Bytes := replaceMatches pattern format text.length text

/-! `AIConfig` -/

structure AITool where
  name : Bytes
  params : List (Bytes × Bytes)
  desc : Bytes

structure AIToolCall where
  toolName : Bytes := []
  args : Json := .null
  isToolCall : Bool := false

structure AIConfig where
  promptTemplate : Bytes := []
  tools : List AITool := []

/-- `value.value(key, "")` -/
def stringOrEmpty (value : Json) (key : Bytes) : Except Failure Bytes :=
  match value with
  | .object _ =>
    match value.field key with
    | some found => found.getString
    | none => .ok []
  | other => .error (.exception
      (bytes "[json.exception.type_error.306] cannot use value() with " ++ other.typeName))

/-- The parameters in the order in which the `unordered_map` lists them. -/
abbrev ParamOrder := List (Bytes × Bytes) → List (Bytes × Bytes)

def readTool (order : ParamOrder) (tool : Json) : Except Failure AITool := do
  let name ← stringOrEmpty tool (bytes "name")
  let desc ← stringOrEmpty tool (bytes "desc")
  let params ← match tool.field (bytes "params") with
    | some (.object fields) => fields.mapM fun (key, value) => do
      let text ← value.getString
      return (key, text)
    | _ => .ok []
  return ⟨name, order params, desc⟩

namespace AIConfig

/-- `file` is the text of the file, if it can be opened; a file of another shape leaves its part empty. -/
def loadFromFile (json : JsonCodec) (order : ParamOrder) (file : Option Bytes) : Except Failure AIConfig :=
  match file with
  | none => .ok {}
  | some text => do
    let j ← throwing (json.parse text)
    match j.field (bytes "prompt_template") with
    | some (.string template) =>
      match j.field (bytes "tools") with
      | some (.array items) =>
        let tools ← items.mapM (readTool order)
        return { promptTemplate := template, tools := tools }
      | _ => return { promptTemplate := template }
    | _ => return {}

def buildToolList (config : AIConfig) : Bytes :=
  config.tools.flatMap fun t =>
    t.name ++ bytes "(" ++ (bytes ", ").intercalate (t.params.map Prod.fst) ++ bytes ") ¡ú " ++ t.desc ++ bytes "\n"

def buildPrompt (config : AIConfig) (userInput : Bytes) : Bytes :=
  let result := regexReplace config.promptTemplate (bytes "\x7buser_input\x7d") userInput
  regexReplace result (bytes "\x7btool_list\x7d") config.buildToolList

def parseAIResponse (json : JsonCodec) (response : Bytes) : AIToolCall :=
  match json.parse response with
  | .error _ => {}
  | .ok j =>
    match j.field (bytes "tool") with
    | some (.string toolName) =>
      match j.field (bytes "args") with
      | some (.object fields) => { toolName := toolName, args := .object fields, isToolCall := true }
      | _ => { toolName := toolName, isToolCall := true }
    | _ => {}

def buildToolResultPrompt (json : JsonCodec) (userInput toolName : Bytes) (toolArgs toolResult : Json) :
    Except Failure Bytes := do
  let argsText ← throwing (json.dump toolArgs)
  let resultText ← throwing (json.dump4 toolResult)
  return bytes "下面是用户说的话：" ++ userInput ++ bytes "\n" ++
    bytes "我刚才调用了工具 [" ++ toolName ++ bytes "] ，参数为：" ++ argsText ++ bytes "\n" ++
    bytes "工具返回的结果如下：\n" ++ resultText ++ bytes "\n" ++ bytes "请根据以上信息，用自然语言回答用户。"

end AIConfig

/-! `AIToolRegistry` -/

/-- How the request of the weather tool ends. -/
inductive WeatherFetch where
  | escapeFailed
  | noHandle
  | requestFailed
  | response (text : Bytes)

/-- What the tools meet outside the program. -/
structure ToolWorld where
  weather : WeatherFetch
  localTime : Bytes

namespace AIToolRegistry

def errorJson (text : Bytes) : Json := .object [(bytes "error", .string text)]

def getWeather (world : ToolWorld) (args : Json) : Except Failure Json :=
  match args.field (bytes "city") with
  | none => .ok (errorJson (bytes "Missing parameter: city"))
  | some value => do
    let city ← value.getString
    match world.weather with
    | .escapeFailed => return errorJson (bytes "URL encode failed")
    | .noHandle => return errorJson (bytes "Failed to init CURL")
    | .requestFailed => return errorJson (bytes "CURL request failed")
    | .response text => return .object [(bytes "city", .string city), (bytes "weather", .string text)]

def getTime (world : ToolWorld) (_args : Json) : Except Failure Json :=
  .ok (.object [(bytes "time", .string world.localTime)])

def invoke (world : ToolWorld) (name : Bytes) (args : Json) : Except Failure Json :=
  if name = bytes "get_weather" then getWeather world args
  else if name = bytes "get_time" then getTime world args
  else .error (.exception (bytes "Tool not found: " ++ name))

end AIToolRegistry

end Chat
