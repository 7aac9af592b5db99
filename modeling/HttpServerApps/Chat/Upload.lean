import HttpServerApps.Chat.Closing

namespace Chat

open Common Http

/-! The decoder of the images. -/

def posOfChar (chr : UInt8) : Except Bytes Nat :=
  if 65 ≤ chr ∧ chr ≤ 90 then .ok (chr.toNat - 65)
  else if 97 ≤ chr ∧ chr ≤ 122 then .ok (chr.toNat - 97 + 26)
  else if 48 ≤ chr ∧ chr ≤ 57 then .ok (chr.toNat - 48 + 52)
  else if chr = 43 ∨ chr = 45 then .ok 62
  else if chr = 47 ∨ chr = 95 then .ok 63
  else .error (bytes "Input is not valid base64-encoded data.")

/-- What `at(n)` throws on a text of `size` bytes. -/
def outOfRange (n size : Nat) : Bytes :=
  bytes "basic_string::at: __n (which is " ++ natText n ++ bytes ") >= this->size() (which is " ++ natText size ++
    bytes ")"

/-- A `=` and a `.` end the data. -/
def isPadding (c : UInt8) : Bool := c = 61 || c = 46

/-- The bytes of one chunk, whose third and fourth character may be missing. -/
def decodeChunk (c0 c1 : UInt8) (c2 c3 : Option UInt8) : Except Bytes Bytes := do
  let pos1 ← posOfChar c1
  let pos0 ← posOfChar c0
  let first := UInt8.ofNat ((pos0 <<< 2) + ((pos1 &&& 0x30) >>> 4))
  match c2.filter (!isPadding ·) with
  | none => return [first]
  | some c2 =>
    let pos2 ← posOfChar c2
    let second := UInt8.ofNat (((pos1 &&& 0x0f) <<< 4) + ((pos2 &&& 0x3c) >>> 2))
    match c3.filter (!isPadding ·) with
    | none => return [first, second]
    | some c3 =>
      let pos3 ← posOfChar c3
      return [first, second, UInt8.ofNat (((pos2 &&& 0x03) <<< 6) + pos3)]

/-- The loop of `decode` from `pos` on, in a text of `size` bytes. -/
def decodeFrom (size pos : Nat) : Bytes → Except Bytes Bytes
  | [] => .ok []
  | [_] => .error (outOfRange (pos + 1) size)
  | [c0, c1] => decodeChunk c0 c1 none none
  | [c0, c1, c2] => decodeChunk c0 c1 (some c2) none
  | c0 :: c1 :: c2 :: c3 :: rest => do
    let chunk ← decodeChunk c0 c1 (some c2) (some c3)
    let ret ← decodeFrom size (pos + 4) rest
    return chunk ++ ret

def base64Decode (encoded : Bytes) : Except Bytes Bytes := decodeFrom encoded.length 0 encoded

example : base64Decode (bytes "aW1hZ2U=") = .ok (bytes "image") := by decide

/-! The handler. -/

/-- A loaded model with its labels. -/
structure ImageRecognizer where
  predictFromBuffer : Bytes → Except Bytes Bytes

/-- A visit with the recognizers of the users. -/
structure Upload where
  imageRecognizerMap : Dict Int32 ImageRecognizer
  visit : Visit

abbrev Uploading (Value : Type) := Throwing Upload Failure Value

def onVisit {Value : Type} (call : Visiting Value) : Uploading Value :=
  call.within Upload.visit fun visit upload => { upload with visit }

namespace AIUploadSendHandler

/-- The recognizer of the user; the first upload loads it. -/
def recognizerOf (loaded : Except Bytes ImageRecognizer) (userId : Int32) : Uploading ImageRecognizer := do
  match ← Throwing.read fun upload => upload.imageRecognizerMap.find userId with
  | some recognizer => return recognizer
  | none =>
    let recognizer ← Throwing.call (throwing loaded)
    Throwing.modify fun upload =>
      { upload with imageRecognizerMap := upload.imageRecognizerMap.insert userId recognizer }
    return recognizer

structure Fields where
  filename : Bytes := []
  imageBase64 : Bytes := []

variable (json : JsonCodec)

def readFields (body : Bytes) : Except Failure Fields :=
  if body = [] then .ok {}
  else do
    let j ← throwing (json.parse body)
    let filename ← stringField j (bytes "filename")
    let imageBase64 ← stringField j (bytes "image")
    return ⟨filename, imageBase64⟩

def imageOf (fields : Fields) : Except Bytes Bytes :=
  if fields.imageBase64 = [] then .error (bytes "No image data provided") else base64Decode fields.imageBase64

def reply (filename className : Bytes) : Json :=
  .object [(bytes "class_name", .string className), (bytes "confidence", .float (bytes "0.95")),
    (bytes "filename", .string filename), (bytes "success", .string (bytes "ok"))]

def work (loaded : Except Bytes ImageRecognizer) (incoming : Incoming) (userId : Int32) : Uploading Unit := do
  let recognizer ← recognizerOf loaded userId
  let fields ← Throwing.call (readFields json incoming.req.content)
  let imgData ← Throwing.call (throwing (imageOf fields))
  let className ← Throwing.call (throwing (recognizer.predictFromBuffer imgData))
  onVisit (answerWith json incoming.req.version .k200Ok (bytes "OK") false (reply fields.filename className))

def handle (loaded : Except Bytes ImageRecognizer) (incoming : Incoming) : Uploading Unit :=
  Throwing.attempt
    (if incoming.isLoggedIn ≠ bytes "true" then
      onVisit (answerWith json incoming.req.version .k401Unauthorized (bytes "Unauthorized") true
        (errorBody (bytes "Unauthorized")))
    else do
      let userId ← Throwing.call (throwing (stoi incoming.userId))
      work json loaded incoming userId)
    fun
    | .exception what =>
      onVisit (answerWith json incoming.req.version .k400BadRequest (bytes "Bad Request") true (errorBody what))
    | .undefined => Throwing.throw .undefined

/-- The recognizer of the user, where there is one, or else the one that can be loaded. -/
def recognizerFor (imageRecognizerMap : Dict Int32 ImageRecognizer) (loaded : Except Bytes ImageRecognizer)
    (userId : Int32) : Except Bytes ImageRecognizer :=
  match imageRecognizerMap.find userId with
  | some recognizer => .ok recognizer
  | none => loaded

theorem recognizerOf_run (loaded : Except Bytes ImageRecognizer) (userId : Int32) (upload : Upload) :
    ∃ imageRecognizerMap, (recognizerOf loaded userId).run upload =
      (⟨imageRecognizerMap, upload.visit⟩, throwing (recognizerFor upload.imageRecognizerMap loaded userId)) := by
  unfold recognizerOf recognizerFor
  rw [Throwing.run_read_bind]
  cases upload.imageRecognizerMap.find userId with
  | some recognizer => exact ⟨_, rfl⟩
  | none =>
    dsimp only
    rw [Throwing.run_call_bind]
    cases loaded with
    | ok recognizer => exact ⟨_, rfl⟩
    | error what => exact ⟨_, rfl⟩

/-- There is a recognizer, the body has an image, and the image is recognized. -/
def Answers (json : JsonCodec) (loaded : Except Bytes ImageRecognizer) (incoming : Incoming)
    (imageRecognizerMap : Dict Int32 ImageRecognizer) (userId : Int32) : Prop :=
  ∃ recognizer, recognizerFor imageRecognizerMap loaded userId = .ok recognizer ∧
    ∃ fields, readFields json incoming.req.content = .ok fields ∧ ∃ imgData, imageOf fields = .ok imgData ∧
      ∃ className, recognizer.predictFromBuffer imgData = .ok className ∧ Prints json (reply fields.filename className)

def respOf (upload : Upload) : HttpResponse := upload.visit.resp

variable {json} {loaded : Except Bytes ImageRecognizer} {incoming : Incoming} {upload : Upload}

theorem answerWith_close (version : Bytes) (statusCode : HttpStatusCode) (statusMessage : Bytes) (close : Bool)
    (body : Json) :
    Throwing.Triple (WithClose respOf true) (onVisit (answerWith json version statusCode statusMessage close body))
      (fun _ => WithClose respOf close) fun _ => WithClose respOf true :=
  Throwing.Triple.within (fun _ _ => rfl) (Chat.answerWith_close ..)

theorem work_keeps (userId : Int32) : KeepsOpen respOf (work json loaded incoming userId) := by
  have recognizer : Throwing.Triple (WithClose respOf true) (recognizerOf loaded userId)
      (fun _ => WithClose respOf true) fun _ => WithClose respOf true := by
    apply Throwing.Triple.mk
    intro upload closing
    rcases recognizerOf_run loaded userId upload with ⟨imageRecognizerMap, ran⟩
    rw [ran]
    cases throwing (recognizerFor upload.imageRecognizerMap loaded userId) <;> exact closing
  apply Throwing.Triple.bind recognizer
  intro recognizer
  apply Throwing.Triple.bind (Throwing.triple_call _)
  intro fields
  apply Throwing.Triple.bind (Throwing.triple_call _)
  intro imgData
  exact (Throwing.triple_call _).bind fun className => answerWith_close ..

theorem work_ok_iff {userId : Int32} :
    ((work json loaded incoming userId).run upload).2 = .ok () ↔
      Answers json loaded incoming upload.imageRecognizerMap userId := by
  rcases recognizerOf_run loaded userId upload with ⟨imageRecognizerMap, ran⟩
  have printed : ∀ (filename className : Bytes) (upload : Upload),
      ((onVisit (answerWith json incoming.req.version .k200Ok (bytes "OK") false (reply filename className))).run
        upload).2 = .ok () ↔ Prints json (reply filename className) := fun _ _ _ => answerWith_ok_iff
  unfold work Answers
  rw [Throwing.ok_bind, ran]
  simp only [Throwing.ok_call_bind, throwing_ok_iff, printed]

theorem handle_open_iff (closing : WithClose respOf true upload) :
    WithClose respOf false ((handle json loaded incoming).run upload).1 ↔
      ∃ userId, incoming.user = some userId ∧ Answers json loaded incoming upload.imageRecognizerMap userId := by
  rw [← exists_congr fun userId => and_congr_right fun _ => work_ok_iff]
  exact framed_open_iff (answerWith_close ..) work_keeps (fun _ => answerWith_close ..) closing

end AIUploadSendHandler

end Chat
