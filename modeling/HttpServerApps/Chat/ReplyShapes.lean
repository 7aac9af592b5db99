import HttpServerApps.Chat.Strategy

namespace Chat

open Common

namespace Json

def isObject : Json → Bool
  | .object _ => true
  | _ => false

def isString : Json → Bool
  | .string _ => true
  | _ => false

def isNull : Json → Bool
  | .null => true
  | _ => false

/-- What a range `for` over an array goes through; `none` for what is no array. -/
def items? : Json → Option (List Json)
  | .array items => some items
  | _ => none

end Json

/-! `parseResponse` with every `contains` and every `operator[]` it makes, in their order. -/

namespace Accesses

def AliyunStrategy.parseResponse (response : Json) : Except Failure Bytes := do
  if response.contains (bytes "choices") then
    let choices ← response.atKey (bytes "choices")
    if !choices.empty then
      let choices ← response.atKey (bytes "choices")
      let choice ← choices.atIndex 0
      let message ← choice.atKey (bytes "message")
      let content ← message.atKey (bytes "content")
      return ← content.getString
  return []

namespace DouBaoStrategy

/-- `object.contains(key) && object[key].is_string()` -/
def holdsString (object : Json) (key : Bytes) : Except Failure Bool := do
  if object.contains key then
    let value ← object.atKey key
    return value.isString
  else return false

/-- `value.is_object() && value.contains(key) && value[key].is_string()` -/
def isObjectWithString (value : Json) (key : Bytes) : Except Failure Bool :=
  if value.isObject then holdsString value key else .ok false

/-- One round of the loop over `content`. -/
def appendPart (json : JsonCodec) (out : Bytes) (part : Json) : Except Failure Bytes := do
  if ← isObjectWithString part (bytes "text") then
    let text ← part.atKey (bytes "text")
    return out ++ (← text.getString)
  else return out ++ (← throwing (json.dump part))

def contentText (json : JsonCodec) (content : Json) : Except Failure Bytes :=
  if content.isString then content.getString
  else
    match content.items? with
    | some parts => parts.foldlM (appendPart json) []
    | none => if !content.isNull then throwing (json.dump content) else .ok []

def readContent (json : JsonCodec) (msg : Json) : Except Failure Bytes :=
  if msg.contains (bytes "content") then do
    let content ← msg.atKey (bytes "content")
    contentText json content
  else .ok []

def reasoningText (json : JsonCodec) (out : Bytes) (r : Json) : Except Failure Bytes :=
  if r.isString then r.getString
  else if !r.isNull then throwing (json.dump r)
  else .ok out

def extractFromMessage (json : JsonCodec) (msg : Json) : Except Failure Bytes := do
  let out ← readContent json msg
  if out = [] ∧ msg.contains (bytes "reasoning_content") then
    let r ← msg.atKey (bytes "reasoning_content")
    reasoningText json out r
  else return out

def errorText (json : JsonCodec) (e : Json) : Except Failure Bytes := do
  if ← isObjectWithString e (bytes "message") then
    let message ← e.atKey (bytes "message")
    message.getString
  else throwing (json.dump e)

def parseResponse (json : JsonCodec) (response : Json) : Except Failure Bytes := do
  if response.contains (bytes "error") then
    let e ← response.atKey (bytes "error")
    let msg ← errorText json e
    return bytes "[API错误] " ++ msg
  if !response.contains (bytes "choices") then return []
  let choices ← response.atKey (bytes "choices")
  if choices.empty then return []
  let choices ← response.atKey (bytes "choices")
  let choice0 ← choices.atIndex 0
  if !choice0.contains (bytes "message") then return []
  let message ← choice0.atKey (bytes "message")
  let text ← extractFromMessage json message
  if text ≠ [] then return text
  if ← holdsString choice0 (bytes "text") then
    let text ← choice0.atKey (bytes "text")
    return ← text.getString
  return []

end DouBaoStrategy

def AliyunRAGStrategy.parseResponse (response : Json) : Except Failure Bytes := do
  if response.contains (bytes "output") then
    let output ← response.atKey (bytes "output")
    if output.contains (bytes "text") then
      let output ← response.atKey (bytes "output")
      let text ← output.atKey (bytes "text")
      return ← text.getString
  return []

def AliyunMcpStrategy.parseResponse (response : Json) : Except Failure Bytes :=
  AliyunStrategy.parseResponse response

def parseResponse (json : JsonCodec) (strategy : AIStrategy) (response : Json) : Except Failure Bytes :=
  match strategy.kind with
  | .AliyunStrategy => AliyunStrategy.parseResponse response
  | .DouBaoStrategy => DouBaoStrategy.parseResponse json response
  | .AliyunRAGStrategy => AliyunRAGStrategy.parseResponse response
  | .AliyunMcpStrategy => AliyunMcpStrategy.parseResponse response

end Accesses

/-! An access behind its `contains` finds what it asks for. -/

theorem Json.atKey_field {value found : Json} {key : Bytes} (there : value.field key = some found) :
    value.atKey key = .ok found := by
  cases value with
  | object fields =>
    unfold Json.atKey
    rw [there]
  | _ => cases there

theorem Json.contains_field {value found : Json} {key : Bytes} (there : value.field key = some found) :
    value.contains key = true := by
  unfold Json.contains
  rw [there]
  rfl

theorem Json.contains_absent {value : Json} {key : Bytes} (absent : value.field key = none) :
    value.contains key = false := by
  unfold Json.contains
  rw [absent]
  rfl

namespace Accesses

variable {Value Result : Type}

theorem ok_bind (value : Value) (next : Value → Except Failure Result) : (Except.ok value >>= next) = next value := rfl

theorem aliyun_eq (response : Json) : AliyunStrategy.parseResponse response = firstChoice response := by
  unfold AliyunStrategy.parseResponse firstChoice
  cases there : response.field (bytes "choices") with
  | none =>
    rw [Json.contains_absent there]
    rfl
  | some choices =>
    rw [Json.contains_field there, Json.atKey_field there]
    cases filled : choices.empty with
    | true => simp only [ok_bind, filled]; rfl
    | false => simp only [ok_bind, filled]; rfl

theorem holdsString_eq (object : Json) (key : Bytes) :
    DouBaoStrategy.holdsString object key = .ok ((object.field key).elim false Json.isString) := by
  unfold DouBaoStrategy.holdsString
  cases there : object.field key with
  | none =>
    rw [Json.contains_absent there]
    rfl
  | some value =>
    rw [Json.contains_field there, Json.atKey_field there]
    rfl

/-- Only an object has fields, so that `is_object` decides nothing more. -/
theorem isObjectWithString_eq (value : Json) (key : Bytes) :
    DouBaoStrategy.isObjectWithString value key = .ok ((value.field key).elim false Json.isString) := by
  cases value with
  | object fields => exact holdsString_eq _ key
  | _ => rfl

theorem appendPart_eq (json : JsonCodec) (out : Bytes) (part : Json) :
    DouBaoStrategy.appendPart json out part = (Chat.DouBaoStrategy.partText json part).map (out ++ ·) := by
  unfold DouBaoStrategy.appendPart Chat.DouBaoStrategy.partText
  rw [isObjectWithString_eq, ok_bind]
  cases there : part.field (bytes "text") with
  | none => rfl
  | some text =>
    rw [Json.atKey_field there]
    cases text <;> rfl

theorem appendParts_eq (json : JsonCodec) (out : Bytes) (parts : List Json) :
    parts.foldlM (DouBaoStrategy.appendPart json) out =
      (parts.mapM (Chat.DouBaoStrategy.partText json)).map fun texts => out ++ texts.flatten := by
  induction parts generalizing out with
  | nil => simp [Except.map, pure, Except.pure]
  | cons part parts ih =>
    rw [List.foldlM_cons, List.mapM_cons, appendPart_eq]
    cases Chat.DouBaoStrategy.partText json part with
    | error failure => rfl
    | ok text =>
      change parts.foldlM (DouBaoStrategy.appendPart json) (out ++ text) = _
      rw [ih]
      change _ = Except.map (fun texts => out ++ texts.flatten)
        (do let texts ← parts.mapM (Chat.DouBaoStrategy.partText json); return text :: texts)
      cases parts.mapM (Chat.DouBaoStrategy.partText json) with
      | error failure => rfl
      | ok texts =>
        change Except.ok (out ++ text ++ texts.flatten) = Except.ok (out ++ (text :: texts).flatten)
        rw [List.flatten_cons, List.append_assoc]

theorem contentText_eq (json : JsonCodec) (content : Json) :
    DouBaoStrategy.contentText json content = Chat.DouBaoStrategy.contentText json content := by
  cases content with
  | array parts =>
    refine (appendParts_eq json [] parts).trans ?_
    change _ = (do let texts ← parts.mapM (Chat.DouBaoStrategy.partText json); return texts.flatten)
    cases parts.mapM (Chat.DouBaoStrategy.partText json) <;> rfl
  | _ => rfl

theorem reasoningText_eq (json : JsonCodec) (r : Json) :
    DouBaoStrategy.reasoningText json [] r = Chat.DouBaoStrategy.reasoningText json r := by
  cases r <;> rfl

theorem readContent_eq (json : JsonCodec) (msg : Json) :
    DouBaoStrategy.readContent json msg =
      (msg.field (bytes "content")).elim (.ok []) (Chat.DouBaoStrategy.contentText json) := by
  unfold DouBaoStrategy.readContent
  cases there : msg.field (bytes "content") with
  | none =>
    rw [Json.contains_absent there]
    rfl
  | some content =>
    rw [Json.contains_field there, Json.atKey_field there]
    exact contentText_eq json content

/-- What becomes of a content that may be empty. -/
def orReasoning (json : JsonCodec) (msg : Json) (out : Bytes) : Except Failure Bytes :=
  (msg.field (bytes "reasoning_content")).elim (.ok out) fun reasoning =>
    if out = [] then Chat.DouBaoStrategy.reasoningText json reasoning else .ok out

theorem extractFromMessage_parts (json : JsonCodec) (msg : Json) :
    Chat.DouBaoStrategy.extractFromMessage json msg =
      (msg.field (bytes "content")).elim (.ok []) (Chat.DouBaoStrategy.contentText json) >>= orReasoning json msg := by
  unfold Chat.DouBaoStrategy.extractFromMessage orReasoning
  cases msg.field (bytes "content") with
  | none => cases msg.field (bytes "reasoning_content") <;> rfl
  | some content => cases msg.field (bytes "reasoning_content") <;> rfl

theorem extractFromMessage_eq (json : JsonCodec) (msg : Json) :
    DouBaoStrategy.extractFromMessage json msg = Chat.DouBaoStrategy.extractFromMessage json msg := by
  rw [extractFromMessage_parts]
  unfold DouBaoStrategy.extractFromMessage
  rw [readContent_eq]
  congr 1
  funext out
  unfold orReasoning
  cases there : msg.field (bytes "reasoning_content") with
  | none => simp [Json.contains_absent there, pure, Except.pure]
  | some r =>
    rw [Json.contains_field there, Json.atKey_field there]
    by_cases empty : out = []
    · simp only [empty, and_self, if_true, ok_bind]
      exact reasoningText_eq json r
    · simp [empty, pure, Except.pure]

theorem errorText_eq (json : JsonCodec) (e : Json) :
    DouBaoStrategy.errorText json e =
      match e.field (bytes "message") with
      | some (.string text) => .ok text
      | _ => throwing (json.dump e) := by
  unfold DouBaoStrategy.errorText
  rw [isObjectWithString_eq, ok_bind]
  cases there : e.field (bytes "message") with
  | none => rfl
  | some message =>
    rw [Json.atKey_field there]
    cases message <;> rfl

theorem doubao_eq (json : JsonCodec) (response : Json) :
    DouBaoStrategy.parseResponse json response = Chat.DouBaoStrategy.parseResponse json response := by
  unfold DouBaoStrategy.parseResponse Chat.DouBaoStrategy.parseResponse
  cases failed : response.field (bytes "error") with
  | some e =>
    rw [Json.contains_field failed, Json.atKey_field failed, if_pos rfl, ok_bind, errorText_eq]
    dsimp only
    cases e.field (bytes "message") with
    | none => rfl
    | some message => cases message <;> rfl
  | none =>
    rw [Json.contains_absent failed, if_neg (by decide)]
    cases there : response.field (bytes "choices") with
    | none =>
      rw [Json.contains_absent there]
      rfl
    | some choices =>
      rw [Json.contains_field there, Json.atKey_field there]
      cases filled : choices.empty with
      | true => simp only [ok_bind, filled]; rfl
      | false =>
        simp only [ok_bind, filled, Bool.not_true, Bool.false_eq_true, if_false]
        congr 1
        funext choice0
        cases spoken : choice0.field (bytes "message") with
        | none =>
          rw [Json.contains_absent spoken]
          rfl
        | some message =>
          rw [Json.contains_field spoken, Json.atKey_field spoken]
          simp only [ok_bind, Bool.not_true, Bool.false_eq_true, if_false, extractFromMessage_eq]
          congr 1
          funext text
          by_cases said : text ≠ []
          · simp [said]
          · rw [if_neg said, if_neg said, holdsString_eq, ok_bind]
            cases other : choice0.field (bytes "text") with
            | none => rfl
            | some text =>
              rw [Json.atKey_field other]
              cases text <;> rfl

theorem rag_eq (response : Json) :
    AliyunRAGStrategy.parseResponse response = Chat.AliyunRAGStrategy.parseResponse response := by
  unfold AliyunRAGStrategy.parseResponse Chat.AliyunRAGStrategy.parseResponse
  cases there : response.field (bytes "output") with
  | none =>
    rw [Json.contains_absent there]
    rfl
  | some output =>
    rw [Json.contains_field there, Json.atKey_field there, Option.bind_some]
    cases inside : output.field (bytes "text") with
    | none =>
      simp only [ok_bind, Json.contains_absent inside]
      rfl
    | some text =>
      simp only [ok_bind, Json.contains_field inside, Json.atKey_field inside]
      rfl

/-- The shorter forms of the other modules make the same accesses. -/
theorem parseResponse_eq (json : JsonCodec) (strategy : AIStrategy) (response : Json) :
    parseResponse json strategy response = strategy.parseResponse json response := by
  unfold parseResponse AIStrategy.parseResponse
  cases strategy.kind with
  | AliyunStrategy => exact aliyun_eq response
  | DouBaoStrategy => exact doubao_eq json response
  | AliyunRAGStrategy => exact rag_eq response
  | AliyunMcpStrategy => exact aliyun_eq response

/-! Which accesses the library leaves undefined. -/

def Lacks (value : Json) (key : Bytes) : Prop := value.isObject = true ∧ value.field key = none

/-- The reply ends as the callers expect. -/
def Handled (outcome : Except Failure Bytes) : Prop :=
  (∃ text, outcome = .ok text) ∨ ∃ what, outcome = .error (.exception what)

theorem handled_iff (outcome : Except Failure Bytes) : Handled outcome ↔ outcome ≠ .error .undefined := by
  unfold Handled
  rcases outcome with (_ | _) | _ <;> simp

theorem bind_undefined {call : Except Failure Value} {next : Value → Except Failure Result} :
    (call >>= next) = .error .undefined ↔
      call = .error .undefined ∨ ∃ value, call = .ok value ∧ next value = .error .undefined := by
  cases call with
  | error failure =>
    change Except.error failure = _ ↔ _
    simp
  | ok value =>
    rw [ok_bind]
    simp

theorem atKey_undefined {value : Json} {key : Bytes} : value.atKey key = .error .undefined ↔ Lacks value key := by
  unfold Json.atKey Lacks
  cases value with
  | object fields =>
    cases (Json.object fields).field key <;> simp [Json.isObject]
  | _ => simp [Json.isObject]

theorem atKey_ok {value found : Json} {key : Bytes} : value.atKey key = .ok found ↔ value.field key = some found := by
  unfold Json.atKey
  cases value with
  | object fields =>
    cases (Json.object fields).field key <;> simp
  | _ => simp [Json.field]

theorem atIndex_undefined {value : Json} (filled : value.empty = false) : value.atIndex 0 ≠ .error .undefined := by
  unfold Json.atIndex
  cases value with
  | array items =>
    cases items with
    | nil => cases filled
    | cons item items => simp
  | _ => simp

theorem atIndex_ok {value found : Json} : value.atIndex 0 = .ok found ↔ ∃ rest, value = .array (found :: rest) := by
  unfold Json.atIndex
  cases value with
  | array items =>
    cases items with
    | nil => simp
    | cons item items => simp
  | _ => simp

theorem getString_defined (value : Json) : value.getString ≠ .error .undefined := by
  cases value <;> simp [Json.getString]

theorem throwing_defined (outcome : Except Bytes Value) : throwing outcome ≠ .error .undefined := by
  cases outcome <;> simp [throwing, Except.mapError]

/-- The first choice is an object without a message, or its message an object without content. -/
def NoContent (response : Json) : Prop :=
  ∃ choice rest, response.field (bytes "choices") = some (.array (choice :: rest)) ∧
    (Lacks choice (bytes "message") ∨
      ∃ message, choice.field (bytes "message") = some message ∧ Lacks message (bytes "content"))

theorem firstChoice_undefined (response : Json) :
    firstChoice response = .error .undefined ↔ NoContent response := by
  unfold firstChoice NoContent
  cases response.field (bytes "choices") with
  | none => simp
  | some choices =>
    dsimp only
    cases filled : choices.empty with
    | true =>
      apply iff_of_false
      · simp
      · rintro ⟨choice, rest, same, _⟩
        cases same
        simp [Json.empty] at filled
    | false =>
      rw [if_neg (by decide)]
      simp only [bind_undefined, atIndex_undefined filled, atIndex_ok, atKey_undefined, atKey_ok,
        getString_defined, false_or, and_false, exists_false, or_false]
      apply Iff.intro
      · rintro ⟨choice, ⟨rest, rfl⟩, lacks⟩
        exact ⟨choice, rest, rfl, lacks⟩
      · rintro ⟨choice, rest, same, lacks⟩
        exact ⟨choice, ⟨rest, Option.some.inj same⟩, lacks⟩

theorem partText_defined (json : JsonCodec) (part : Json) :
    Chat.DouBaoStrategy.partText json part ≠ .error .undefined := by
  unfold Chat.DouBaoStrategy.partText
  split
  · simp
  · exact throwing_defined _

theorem partTexts_defined (json : JsonCodec) (parts : List Json) :
    parts.mapM (Chat.DouBaoStrategy.partText json) ≠ .error .undefined := by
  induction parts with
  | nil => simp [pure, Except.pure]
  | cons part parts ih =>
    rw [List.mapM_cons]
    simp only [ne_eq, bind_undefined, partText_defined, ih, false_or]
    simp [pure, Except.pure]

theorem contentText_defined (json : JsonCodec) (content : Json) :
    Chat.DouBaoStrategy.contentText json content ≠ .error .undefined := by
  cases content with
  | array parts =>
    rw [Chat.DouBaoStrategy.contentText]
    simp only [ne_eq, bind_undefined, partTexts_defined, false_or]
    simp [pure, Except.pure]
  | string text => simp [Chat.DouBaoStrategy.contentText]
  | null => simp [Chat.DouBaoStrategy.contentText]
  | _ => exact throwing_defined _

theorem reasoningText_defined (json : JsonCodec) (r : Json) :
    Chat.DouBaoStrategy.reasoningText json r ≠ .error .undefined := by
  cases r with
  | string text => simp [Chat.DouBaoStrategy.reasoningText]
  | null => simp [Chat.DouBaoStrategy.reasoningText]
  | _ => exact throwing_defined _

theorem extractFromMessage_defined (json : JsonCodec) (msg : Json) :
    Chat.DouBaoStrategy.extractFromMessage json msg ≠ .error .undefined := by
  have later : ∀ out, orReasoning json msg out ≠ .error .undefined := by
    intro out
    unfold orReasoning
    cases msg.field (bytes "reasoning_content") with
    | none => simp
    | some reasoning =>
      by_cases empty : out = []
      · simp only [Option.elim_some, empty, if_true]
        exact reasoningText_defined json reasoning
      · simp [empty]
  rw [extractFromMessage_parts]
  cases msg.field (bytes "content") with
  | none => exact later []
  | some content =>
    simp only [Option.elim_some, ne_eq, bind_undefined, contentText_defined, later, and_false, exists_false, or_self,
      not_false_eq_true]

theorem doubao_defined (json : JsonCodec) (response : Json) :
    Chat.DouBaoStrategy.parseResponse json response ≠ .error .undefined := by
  unfold Chat.DouBaoStrategy.parseResponse
  cases response.field (bytes "error") with
  | some e =>
    dsimp only
    cases e.field (bytes "message") with
    | none => simp [bind_undefined, throwing_defined, pure, Except.pure]
    | some message =>
      cases message <;> simp [bind_undefined, throwing_defined, pure, Except.pure]
  | none =>
    cases response.field (bytes "choices") with
    | none => simp
    | some choices =>
      dsimp only
      cases filled : choices.empty with
      | true => simp
      | false =>
        rw [if_neg (by decide)]
        simp only [ne_eq, bind_undefined, atIndex_undefined filled, false_or]
        rintro ⟨choice0, _, undefined⟩
        cases spoken : choice0.field (bytes "message") with
        | none =>
          rw [spoken] at undefined
          cases undefined
        | some message =>
          simp only [spoken, bind_undefined, extractFromMessage_defined, false_or] at undefined
          rcases undefined with ⟨text, _, undefined⟩
          by_cases said : text ≠ []
          · rw [if_pos said] at undefined
            cases undefined
          · rw [if_neg said] at undefined
            split at undefined <;> cases undefined

theorem rag_defined (response : Json) : Chat.AliyunRAGStrategy.parseResponse response ≠ .error .undefined := by
  unfold Chat.AliyunRAGStrategy.parseResponse
  split
  · exact getString_defined _
  · simp

/-- Exactly a first choice without content leaves the two strategies that do not look for one undefined. -/
theorem replies_handled_iff (json : JsonCodec) (strategy : AIStrategy) (response : Json) :
    Handled (parseResponse json strategy response) ↔
      ¬ ((strategy.kind = .AliyunStrategy ∨ strategy.kind = .AliyunMcpStrategy) ∧ NoContent response) := by
  rw [handled_iff, parseResponse_eq]
  unfold AIStrategy.parseResponse
  cases kind : strategy.kind with
  | AliyunStrategy =>
    have undefined := firstChoice_undefined response
    simp [Chat.AliyunStrategy.parseResponse, undefined]
  | DouBaoStrategy => simp [doubao_defined]
  | AliyunRAGStrategy => simp [rag_defined]
  | AliyunMcpStrategy =>
    have undefined := firstChoice_undefined response
    simp [Chat.AliyunMcpStrategy.parseResponse, undefined]

/-- A choice that is an empty object. -/
theorem messageless_choice :
    ¬ Handled (parseResponse (knownTexts []) ⟨.AliyunStrategy, []⟩
      (.object [(bytes "choices", .array [.object []])])) := by
  rw [handled_iff, not_not]
  rfl

end Accesses

end Chat
