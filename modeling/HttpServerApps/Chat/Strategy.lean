import HttpServerApps.Chat.JsonTree

namespace Chat

open Common

/-- How an entry came into `messages`; the program does not keep it. -/
inductive Origin where
  | prompt
  | added (is_user : Bool)
  deriving DecidableEq

structure Message where
  content : Bytes
  ts : Int64
  origin : Origin
  deriving DecidableEq

/-- `std::getenv` -/
abbrev Getenv := Bytes → Option Bytes

/-! The requests that the strategies build. -/

/-- Whether the message at an index is sent, and shown, as the user's. -/
def isUserAt (i : Nat) : Bool := i % 2 = 0

def roleAt (i : Nat) : Bytes := if isUserAt i then bytes "user" else bytes "assistant"

def messageArray (messages : List Message) : Json :=
  .array (messages.mapIdx fun i message =>
    .object [(bytes "content", .string message.content), (bytes "role", .string (roleAt i))])

def chatPayload (model : Bytes) (messages : List Message) : Json :=
  .object [(bytes "messages", messageArray messages), (bytes "model", .string model)]

/-- `response["choices"][0]["message"]["content"]`, where there are choices. -/
def firstChoice (response : Json) : Except Failure Bytes :=
  match response.field (bytes "choices") with
  | some choices =>
    if choices.empty then .ok []
    else do
      let choice ← choices.atIndex 0
      let message ← choice.atKey (bytes "message")
      let content ← message.atKey (bytes "content")
      content.getString
  | none => .ok []

/-- A response with one choice. -/
def choiceOf (text : Bytes) : Json :=
  .object [(bytes "choices", .array [.object [(bytes "message", .object [(bytes "content", .string text)])]])]

inductive StrategyClass where
  | AliyunStrategy
  | DouBaoStrategy
  | AliyunRAGStrategy
  | AliyunMcpStrategy
  deriving DecidableEq

structure AIStrategy where
  kind : StrategyClass
  apiKey : Bytes
  deriving DecidableEq

namespace AliyunStrategy

def getApiUrl : Bytes := bytes "https://dashscope.aliyuncs.com/compatible-mode/v1/chat/completions"
def getModel : Bytes := bytes "qwen-plus"
def buildRequest (messages : List Message) : Json := chatPayload getModel messages
def parseResponse (response : Json) : Except Failure Bytes := firstChoice response

end AliyunStrategy

namespace DouBaoStrategy

def getApiUrl : Bytes := bytes "https://ark.cn-beijing.volces.com/api/v3/chat/completions"

def getModel (getenv : Getenv) : Bytes :=
  (getenv (bytes "DOUBAO_MODEL_ID")).getD (bytes "doubao-seed-1-6-thinking-250715")

def buildRequest (getenv : Getenv) (messages : List Message) : Json := chatPayload (getModel getenv) messages

def partText (json : JsonCodec) (part : Json) : Except Failure Bytes :=
  match part.field (bytes "text") with
  | some (.string text) => .ok text
  | _ => throwing (json.dump part)

def contentText (json : JsonCodec) : Json → Except Failure Bytes
  | .string text => .ok text
  | .array parts => do
    let texts ← parts.mapM (partText json)
    return texts.flatten
  | .null => .ok []
  | content => throwing (json.dump content)

def reasoningText (json : JsonCodec) : Json → Except Failure Bytes
  | .string text => .ok text
  | .null => .ok []
  | reasoning => throwing (json.dump reasoning)

def extractFromMessage (json : JsonCodec) (msg : Json) : Except Failure Bytes := do
  let out ← match msg.field (bytes "content") with
    | some content => contentText json content
    | none => .ok []
  match msg.field (bytes "reasoning_content") with
  | some reasoning => if out = [] then reasoningText json reasoning else return out
  | none => return out

def parseResponse (json : JsonCodec) (response : Json) : Except Failure Bytes :=
  match response.field (bytes "error") with
  | some e => do
    let msg ← match e.field (bytes "message") with
      | some (.string text) => .ok text
      | _ => throwing (json.dump e)
    return bytes "[API错误] " ++ msg
  | none =>
    match response.field (bytes "choices") with
    | some choices =>
      if choices.empty then .ok []
      else do
        let choice0 ← choices.atIndex 0
        match choice0.field (bytes "message") with
        | some message =>
          let text ← extractFromMessage json message
          if text ≠ [] then return text
          else
            match choice0.field (bytes "text") with
            | some (.string text) => return text
            | _ => return []
        | none => return []
    | none => .ok []

end DouBaoStrategy

namespace AliyunRAGStrategy

def getApiUrl (getenv : Getenv) : Except Failure Bytes :=
  match getenv (bytes "Knowledge_Base_ID") with
  | some id => .ok (bytes "https://dashscope.aliyuncs.com/api/v1/apps/" ++ id ++ bytes "/completion")
  | none => .error (.exception (bytes "Knowledge_Base_ID not found!"))

def getModel : Bytes := []

def buildRequest (messages : List Message) : Json :=
  .object [(bytes "input", .object [(bytes "messages", messageArray messages)]), (bytes "parameters", .object [])]

def parseResponse (response : Json) : Except Failure Bytes :=
  match (response.field (bytes "output")).bind (·.field (bytes "text")) with
  | some text => text.getString
  | none => .ok []

end AliyunRAGStrategy

namespace AliyunMcpStrategy

def getApiUrl : Bytes := bytes "https://dashscope.aliyuncs.com/compatible-mode/v1/chat/completions"
def getModel : Bytes := bytes "qwen-plus"
def buildRequest (messages : List Message) : Json := chatPayload getModel messages
def parseResponse (response : Json) : Except Failure Bytes := firstChoice response

end AliyunMcpStrategy

namespace AIStrategy

def isMCPModel (strategy : AIStrategy) : Bool := strategy.kind = .AliyunMcpStrategy

def getApiUrl (getenv : Getenv) (strategy : AIStrategy) : Except Failure Bytes :=
  match strategy.kind with
  | .AliyunStrategy => .ok AliyunStrategy.getApiUrl
  | .DouBaoStrategy => .ok DouBaoStrategy.getApiUrl
  | .AliyunRAGStrategy => AliyunRAGStrategy.getApiUrl getenv
  | .AliyunMcpStrategy => .ok AliyunMcpStrategy.getApiUrl

def getApiKey (strategy : AIStrategy) : Bytes := strategy.apiKey

def getModel (getenv : Getenv) (strategy : AIStrategy) : Bytes :=
  match strategy.kind with
  | .AliyunStrategy => AliyunStrategy.getModel
  | .DouBaoStrategy => DouBaoStrategy.getModel getenv
  | .AliyunRAGStrategy => AliyunRAGStrategy.getModel
  | .AliyunMcpStrategy => AliyunMcpStrategy.getModel

def buildRequest (getenv : Getenv) (strategy : AIStrategy) (messages : List Message) : Json :=
  match strategy.kind with
  | .AliyunStrategy => AliyunStrategy.buildRequest messages
  | .DouBaoStrategy => DouBaoStrategy.buildRequest getenv messages
  | .AliyunRAGStrategy => AliyunRAGStrategy.buildRequest messages
  | .AliyunMcpStrategy => AliyunMcpStrategy.buildRequest messages

def parseResponse (json : JsonCodec) (strategy : AIStrategy) (response : Json) : Except Failure Bytes :=
  match strategy.kind with
  | .AliyunStrategy => AliyunStrategy.parseResponse response
  | .DouBaoStrategy => DouBaoStrategy.parseResponse json response
  | .AliyunRAGStrategy => AliyunRAGStrategy.parseResponse response
  | .AliyunMcpStrategy => AliyunMcpStrategy.parseResponse response

end AIStrategy

/-! `StrategyFactory` -/

def registered (name : Bytes) : Option StrategyClass :=
  if name = bytes "1" then some .AliyunStrategy
  else if name = bytes "2" then some .DouBaoStrategy
  else if name = bytes "3" then some .AliyunRAGStrategy
  else if name = bytes "4" then some .AliyunMcpStrategy
  else none

/-- The environment variable that a constructor reads, and its complaint. -/
def keyVariable : StrategyClass → Bytes × Bytes
  | .DouBaoStrategy => (bytes "DOUBAO_API_KEY", bytes "DOUBAO API Key not found!")
  | _ => (bytes "DASHSCOPE_API_KEY", bytes "Aliyun API Key not found!")

def StrategyFactory.create (getenv : Getenv) (name : Bytes) : Except Failure AIStrategy :=
  match registered name with
  | some kind =>
    match getenv (keyVariable kind).1 with
    | some key => .ok ⟨kind, key⟩
    | none => .error (.exception (keyVariable kind).2)
  | none => .error (.exception (bytes "Unknown strategy: " ++ name))

/-! The messages of a request. -/

/-- The array under `messages`, where the strategy puts it. -/
def requestMessages (kind : StrategyClass) (request : Json) : Option Json :=
  match kind with
  | .AliyunRAGStrategy => (request.field (bytes "input")).bind (·.field (bytes "messages"))
  | _ => request.field (bytes "messages")

theorem buildRequest_messages (getenv : Getenv) (strategy : AIStrategy) (messages : List Message) :
    requestMessages strategy.kind (strategy.buildRequest getenv messages) = some (messageArray messages) := by
  unfold AIStrategy.buildRequest
  cases strategy.kind <;> rfl

end Chat
