import HttpServerApps.Chat.Closing

namespace Chat

open Common Http

/-- The files that can be opened, with what they hold. -/
abbrev Files := Bytes → Option Bytes

/-- `file_`: its content where it is open. -/
structure FileUtil where
  file : Option Bytes

namespace FileUtil

def make (files : Files) (filePath : Bytes) : FileUtil := ⟨files filePath⟩

def isValid (fileOperater : FileUtil) : Bool := fileOperater.file.isSome

def defaultFile : Bytes := bytes "../AIApps/ChatServer/resource/NotFound.html"

def resetDefaultFile (files : Files) : FileUtil := ⟨files defaultFile⟩

/-- A buffer of `size()` bytes, and `readFile` into it. Of a file that is not open the size is that of
    `tellg() == -1`, which no vector has. -/
def readFile (fileOperater : FileUtil) : Except Bytes Bytes :=
  match fileOperater.file with
  | some content => .ok content
  | none => .error (bytes "cannot create std::vector larger than max_size()")

end FileUtil

def pageContent (files : Files) (reqFile : Bytes) : Except Bytes Bytes :=
  let fileOperater := FileUtil.make files reqFile
  let fileOperater := if fileOperater.isValid then fileOperater else FileUtil.resetDefaultFile files
  fileOperater.readFile

theorem pageContent_ok_iff (files : Files) (reqFile : Bytes) :
    (∃ content, pageContent files reqFile = .ok content) ↔
      (files reqFile).isSome = true ∨ (files FileUtil.defaultFile).isSome = true := by
  unfold pageContent FileUtil.make FileUtil.isValid FileUtil.resetDefaultFile FileUtil.readFile
  cases files reqFile <;> cases files FileUtil.defaultFile <;> simp

def htmlResponse (resp : HttpResponse) (version content : Bytes) : HttpResponse :=
  ((((resp.setStatusLine version .k200Ok (bytes "OK")).setCloseConnection false).setContentType
    (bytes "text/html")).setContentLength content.length).setBody content

namespace ChatEntryHandler

def reqFile : Bytes := bytes "../AIApps/ChatServer/resource/entry.html"

def handle (files : Files) (req : HttpRequest) : Throwing HttpResponse Bytes Unit := do
  let bufStr ← Throwing.call (pageContent files reqFile)
  Throwing.modify (htmlResponse · req.version bufStr)

end ChatEntryHandler

/-- The script goes before the end of the head, where the page has one. -/
def insertUserId (htmlContent : Bytes) (userId : Int32) : Bytes :=
  match findText (bytes "</head>") htmlContent with
  | some headEnd =>
    htmlContent.take headEnd ++ bytes "<script>const userId = '" ++ intText userId.toInt ++ bytes "';</script>" ++
      htmlContent.drop headEnd
  | none => htmlContent

/-- The handler of a page for users; the three differ in their file. -/
def servePage (reqFile : Bytes) (json : JsonCodec) (files : Files) (incoming : Incoming) : Visiting Unit :=
  authorized json incoming fun userId => do
    let htmlContent ← Throwing.call (throwing (pageContent files reqFile))
    Throwing.modify fun visit =>
      { visit with resp := htmlResponse visit.resp incoming.req.version (insertUserId htmlContent userId) }

namespace ChatHandler

def reqFile : Bytes := bytes "../AIApps/ChatServer/resource/AI.html"

def handle (json : JsonCodec) (files : Files) (incoming : Incoming) : Visiting Unit :=
  servePage reqFile json files incoming

end ChatHandler

namespace AIMenuHandler

def reqFile : Bytes := bytes "../AIApps/ChatServer/resource/menu.html"

def handle (json : JsonCodec) (files : Files) (incoming : Incoming) : Visiting Unit :=
  servePage reqFile json files incoming

end AIMenuHandler

namespace AIUploadHandler

def reqFile : Bytes := bytes "../AIApps/ChatServer/resource/upload.html"

def handle (json : JsonCodec) (files : Files) (incoming : Incoming) : Visiting Unit :=
  servePage reqFile json files incoming

end AIUploadHandler

/-! Where a page can be read, it is answered with and the connection is kept. -/

theorem ChatEntryHandler.handle_open_iff {files : Files} {req : HttpRequest} {resp : HttpResponse}
    (closing : resp.closeConnection = true) :
    ((ChatEntryHandler.handle files req).run resp).1.closeConnection = false ↔
      (files ChatEntryHandler.reqFile).isSome = true ∨ (files FileUtil.defaultFile).isSome = true := by
  rw [← pageContent_ok_iff]
  unfold ChatEntryHandler.handle
  rw [Throwing.run_call_bind]
  cases pageContent files ChatEntryHandler.reqFile with
  | ok content => exact iff_of_true rfl ⟨content, rfl⟩
  | error what => simp [closing]

theorem servePage_open_iff {json : JsonCodec} {incoming : Incoming} {visit : Visit} {reqFile : Bytes} {files : Files}
    (closing : WithClose Visit.resp true visit) :
    WithClose Visit.resp false ((servePage reqFile json files incoming).run visit).1 ↔
      ∃ userId, incoming.user = some userId ∧
        ((files reqFile).isSome = true ∨ (files FileUtil.defaultFile).isSome = true) := by
  unfold servePage
  rw [authorized_open_iff _ closing]
  · apply exists_congr
    intro userId
    rw [Throwing.ok_call_bind, ← pageContent_ok_iff]
    simp only [throwing_ok_iff]
    exact and_congr_right fun _ => exists_congr fun content => and_iff_left rfl
  · intro userId
    exact (Throwing.triple_call _).bind fun _ => Throwing.triple_modify fun _ _ => rfl

end Chat
