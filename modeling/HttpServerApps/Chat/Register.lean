import HttpServerApps.Chat.Closing
import HttpServerApps.Chat.Login

namespace Chat.ChatRegisterHandler

open Common Http

/-- What a registration meets: the users table and the random salt. -/
structure Surroundings where
  crypto : Crypto
  /-- Whether `SELECT id FROM users WHERE username = ?` has a row. -/
  selectUser : Bytes → Except Bytes Bool
  /-- `INSERT INTO users (username, password) VALUES (?, ?)` -/
  insert : Bytes → Bytes → Except Bytes Unit
  /-- The id that the `SELECT` gives after the `INSERT`. -/
  selectInserted : Bytes → Except Bytes (Option Int32)

def isUserExist (env : Surroundings) (username : Bytes) : Except Bytes Bool := env.selectUser username

def insertUser (env : Surroundings) (username password : Bytes) : Except Bytes Int32 := do
  if ← isUserExist env username then return -1
  else
    let passwordHash ← hashPassword env.crypto password
    env.insert username passwordHash
    match ← env.selectInserted username with
    | some userId => return userId
    | none => return -1

/-- There is no `try`: what is thrown leaves the handler. -/
def handle (json : JsonLibrary) (env : Surroundings) (req : HttpRequest) : Handling Unit := do
  let (username, password) ← Throwing.call (ChatLoginHandler.credentials json req.content)
  let userId ← Throwing.call (insertUser env username password)
  if userId ≠ -1 then
    let successBody ← Throwing.call (json.dump [(bytes "status", .string (bytes "success")),
      (bytes "message", .string (bytes "Register successful")), (bytes "userId", .int userId)])
    respond req.version .k200Ok (bytes "OK") false successBody
  else
    let failureBody ← Throwing.call (json.dump [(bytes "status", .string (bytes "error")),
      (bytes "message", .string (bytes "username already exists"))])
    respond req.version .k409Conflict (bytes "Conflict") false failureBody

/-- The two fields are read, and none of the queries throws. -/
def Answers (json : JsonLibrary) (env : Surroundings) (req : HttpRequest) : Prop :=
  ∃ username password userId, ChatLoginHandler.credentials json req.content = .ok (username, password) ∧
    insertUser env username password = .ok userId

theorem handle_open_iff {json : JsonLibrary} {env : Surroundings} {req : HttpRequest} {exchange : Exchange}
    (closing : WithClose Exchange.resp true exchange) :
    WithClose Exchange.resp false ((handle json env req).run exchange).1 ↔ Answers json env req := by
  have keeps : KeepsOpen Exchange.resp (handle json env req) := by
    apply Throwing.Triple.bind (Throwing.triple_call _)
    intro given
    apply Throwing.Triple.bind (Throwing.triple_call _)
    intro userId
    split
    · exact (Throwing.triple_call _).bind fun _ => respond_close ..
    · exact (Throwing.triple_call _).bind fun _ => respond_close ..
  rw [keeps.run_iff closing]
  unfold handle Answers
  simp only [Throwing.ok_call_bind]
  apply Iff.intro
  · rintro ⟨⟨username, password⟩, read, userId, inserted, _⟩
    exact ⟨username, password, userId, read, inserted⟩
  · rintro ⟨username, password, userId, read, inserted⟩
    refine ⟨(username, password), read, userId, inserted, ?_⟩
    split
    · rcases json.dump_ascii [(bytes "status", .string (bytes "success")),
        (bytes "message", .string (bytes "Register successful")), (bytes "userId", .int userId)] (by rfl) with
        ⟨successBody, dumped⟩
      exact Throwing.ok_call_bind.mpr ⟨successBody, dumped, rfl⟩
    · rcases json.dump_ascii [(bytes "status", .string (bytes "error")),
        (bytes "message", .string (bytes "username already exists"))] (by decide) with ⟨failureBody, dumped⟩
      exact Throwing.ok_call_bind.mpr ⟨failureBody, dumped, rfl⟩

end Chat.ChatRegisterHandler
