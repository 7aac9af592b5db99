import HttpServerApps.Chat.Closing

namespace Chat

open Common Http

/-- A handle of curl: what comes back for a URL and the data sent to it, if the transfer succeeds. -/
abbrev CurlHandle := Bytes → Bytes → Option Bytes

/-- The handles that `curl_easy_init` gives for the token, the task and each query of it. -/
structure SpeechService where
  token : Option CurlHandle
  create : Option CurlHandle
  query : Nat → Option CurlHandle

namespace AISpeechProcessor

variable (json : JsonCodec) (service : SpeechService)

def getAccessToken (clientId clientSecret : Bytes) : Bytes :=
  let data := bytes "grant_type=client_credentials&client_id=" ++ clientId ++ bytes "&client_secret=" ++ clientSecret
  match service.token.bind fun curl => curl (bytes "https://aip.baidubce.com/oauth/2.0/token") data with
  | none => []
  | some result =>
    match json.parse result with
    | .error _ => []
    | .ok j =>
      match j.field (bytes "access_token") with
      | some (.string token) => token
      | _ => []

def taskBody (text format lang : Bytes) (speed pitch volume : Int) : Json :=
  .object [(bytes "enable_subtitle", .integer 0), (bytes "format", .string format), (bytes "lang", .string lang),
    (bytes "pitch", .integer pitch), (bytes "speed", .integer speed), (bytes "text", .string text),
    (bytes "volume", .integer volume)]

/-- Empty where the answer names no task. -/
def taskId (result_json : Json) : Bytes :=
  match result_json.field (bytes "task_id") with
  | some (.string task_id) => task_id
  | _ =>
    match result_json.field (bytes "tasks_info") with
    | some (.array (first :: _)) =>
      match first.field (bytes "task_id") with
      | some (.string task_id) => task_id
      | _ => []
    | _ => []

/-- How a query ends the loop, if it does. -/
inductive Polled where
  | again
  | failed
  | found (speech_url : Bytes)

def polled (queryResult : Json) : Polled :=
  match queryResult.field (bytes "tasks_info") with
  | some (.array (task :: _)) =>
    match task.field (bytes "task_status") with
    | some (.string status) =>
      if status = bytes "Success" then
        match (task.field (bytes "task_result")).bind (·.field (bytes "speech_url")) with
        | some (.string speech_url) => .found speech_url
        | some _ => .failed
        | none => .again
      else .again
    | _ => .again
  | _ => .again

/-- The loop with `left` queries to go, after `loops` of them. -/
def poll (token task_id : Bytes) : (left loops : Nat) → Except Bytes Bytes
  | 0, _ => .ok []
  | left + 1, loops =>
    match service.query loops with
    | none => .ok []
    | some curl => do
      let data ← json.dump (.object [(bytes "task_ids", .array [.string task_id])])
      match curl (bytes "https://aip.baidubce.com/rpc/2.0/tts/v1/query?access_token=" ++ token) data with
      | none => return []
      | some response =>
        match json.parse response with
        | .error _ => return []
        | .ok queryResult =>
          match polled queryResult with
          | .again => poll token task_id left (loops + 1)
          | .failed => return []
          | .found speech_url => return speech_url

def max_loops : Nat := 60

def synthesize (token text format lang : Bytes) (speed pitch volume : Int) : Except Bytes Bytes :=
  match service.create with
  | none => .ok []
  | some curl => do
    let data ← json.dump (taskBody text format lang speed pitch volume)
    match curl (bytes "https://aip.baidubce.com/rpc/2.0/tts/v1/create?access_token=" ++ token) data with
    | none => return []
    | some response =>
      match json.parse response with
      | .error _ => return []
      | .ok result_json =>
        let task_id := taskId result_json
        if task_id = [] then return [] else poll json service token task_id max_loops 0

end AISpeechProcessor

namespace ChatSpeechHandler

variable (json : JsonCodec) (getenv : Getenv) (service : SpeechService)

def readText (body : Bytes) : Except Failure Bytes :=
  if body = [] then .ok []
  else do
    let j ← throwing (json.parse body)
    stringField j (bytes "text")

def speechUrl (text : Bytes) : Except Bytes Bytes :=
  match getenv (bytes "BAIDU_CLIENT_SECRET"), getenv (bytes "BAIDU_CLIENT_ID") with
  | none, _ => .error (bytes "BAIDU_CLIENT_SECRET not found!")
  | some _, none => .error (bytes "BAIDU_CLIENT_ID not found!")
  | some clientSecret, some clientId =>
    AISpeechProcessor.synthesize json service (AISpeechProcessor.getAccessToken json service clientId clientSecret)
      text (bytes "mp3-16k") (bytes "zh") 5 5 5

def reply (url : Bytes) : Json := .object [(bytes "success", .boolean true), (bytes "url", .string url)]

def handle (incoming : Incoming) : Visiting Unit :=
  authorized json incoming fun _ => do
    let text ← Throwing.call (readText json incoming.req.content)
    let url ← Throwing.call (throwing (speechUrl json getenv service text))
    answerWith json incoming.req.version .k200Ok (bytes "OK") false (reply url)

/-- The two keys are in the environment, and the task can be printed. -/
def Answers (json : JsonCodec) (getenv : Getenv) (service : SpeechService) (incoming : Incoming) : Prop :=
  ∃ text, readText json incoming.req.content = .ok text ∧ ∃ url, speechUrl json getenv service text = .ok url ∧
    Prints json (reply url)

variable {json getenv service} {incoming : Incoming} {visit : Visit}

theorem handle_open_iff (closing : WithClose Visit.resp true visit) :
    WithClose Visit.resp false ((handle json getenv service incoming).run visit).1 ↔
      ∃ userId, incoming.user = some userId ∧ Answers json getenv service incoming := by
  unfold handle Answers
  rw [authorized_open_iff _ closing]
  · simp only [Throwing.ok_call_bind, throwing_ok_iff, answerWith_ok_iff]
  · intro userId
    apply Throwing.Triple.bind (Throwing.triple_call _)
    intro text
    exact (Throwing.triple_call _).bind fun _ => answerWith_close ..

end ChatSpeechHandler

end Chat
