import HttpServerApps.Chat.CloseHonoured
import HttpServerApps.Chat.PasswordRecords
import HttpServerApps.Chat.Users
import HttpServerApps.Common.Program

namespace Chat.ChatRegisterHandler

open Common Http Middlewares

/-! How a registration is answered, by the way `insertUser` ends. -/

def statusOf : Except Bytes Int32 → HttpStatusCode
  | .ok userId => if userId ≠ -1 then .k200Ok else .k409Conflict
  | .error _ => .k500InternalServerError

inductive Answered (json : JsonLibrary) (response : HttpResponse) : Except Bytes Int32 → Prop where
  | registered {userId : Int32} (known : userId ≠ -1) (status : response.statusCode = .k200Ok)
      (body : json.dump [(bytes "status", .string (bytes "success")),
        (bytes "message", .string (bytes "Register successful")), (bytes "userId", .int userId)] = .ok response.body) :
      Answered json response (.ok userId)
  | taken (status : response.statusCode = .k409Conflict)
      (body : json.dump [(bytes "status", .string (bytes "error")),
        (bytes "message", .string (bytes "username already exists"))] = .ok response.body) :
      Answered json response (.ok (-1))
  | failed {what : Bytes} (status : response.statusCode = .k500InternalServerError)
      (body : response.body = bytes "Internal Server Error") : Answered json response (.error what)

variable {json : JsonLibrary}

theorem Answered.statusCode {response : HttpResponse} {outcome : Except Bytes Int32}
    (answered : Answered json response outcome) : response.statusCode = statusOf outcome := by
  cases answered with
  | registered known status => exact status.trans (if_pos known).symm
  | taken status => exact status
  | failed status => exact status

theorem Answered.decorated {response : HttpResponse} {outcome : Except Bytes Int32}
    (answered : Answered json response outcome) (config : CorsConfig) (requestOrigin : Bytes) :
    Answered json (config.decorate requestOrigin response) outcome := by
  have status := @decorate_frame _ HttpResponse.statusCode (fun _ _ _ => rfl) config requestOrigin response
  have body := @decorate_frame _ HttpResponse.body (fun _ _ _ => rfl) config requestOrigin response
  cases answered with
  | registered known isOk dumped => exact .registered known (status.trans isOk) (by rw [body]; exact dumped)
  | taken isConflict dumped => exact .taken (status.trans isConflict) (by rw [body]; exact dumped)
  | failed isError same => exact .failed (status.trans isError) (body.trans same)

theorem handle_run {env : Surroundings} {req : HttpRequest} {username password : Bytes}
    (read : ChatLoginHandler.credentials json req.content = .ok (username, password)) (exchange : Exchange) :
    (∃ what, insertUser env username password = .error what ∧
      (handle json env req).run exchange = (exchange, .error what)) ∨
    ∃ userId resp, insertUser env username password = .ok userId ∧ Answered json resp (.ok userId) ∧
      (handle json env req).run exchange = (⟨exchange.server, resp⟩, .ok ()) := by
  unfold handle
  rw [read]
  simp only [Throwing.run_call_bind]
  cases inserted : insertUser env username password with
  | error what => exact Or.inl ⟨what, rfl, rfl⟩
  | ok userId =>
    right
    by_cases known : userId ≠ -1
    · rcases json.dump_ascii [(bytes "status", .string (bytes "success")),
        (bytes "message", .string (bytes "Register successful")), (bytes "userId", .int userId)] (by rfl) with
        ⟨successBody, dumped⟩
      dsimp only
      rw [if_pos known, dumped]
      exact ⟨userId, _, rfl, .registered known rfl dumped, rfl⟩
    · rcases json.dump_ascii [(bytes "status", .string (bytes "error")),
        (bytes "message", .string (bytes "username already exists"))] (by decide) with ⟨failureBody, dumped⟩
      dsimp only
      rw [if_neg known, dumped]
      rw [not_not.mp known]
      exact ⟨-1, _, rfl, .taken rfl dumped, rfl⟩

/-- A POST to `/register` whose two fields are read is answered by the way `insertUser` ends; what it throws reaches
    `handleRequest`. -/
theorem register_answered {env : Environment} {app : Application} {req : HttpRequest} {resp : HttpResponse}
    (post : req.method = .kPost) (path : req.path = bytes "/register") {username password : Bytes}
    (read : ChatLoginHandler.credentials env.json req.content = .ok (username, password)) :
    Answered env.json (responseTo env app req resp) (insertUser env.register username password) := by
  have ordinary : req.method ≠ .kOptions := by rw [post]; nofun
  have routed : handlerAt req.method req.path = some .chatRegister := by
    rw [post, path]
    decide
  rcases @handle_run env.json env.register req username password read ⟨app.server, resp⟩ with
    ⟨what, inserted, ran⟩ | ⟨userId, answer, inserted, answered, ran⟩
  · have thrown : (Handler.chatRegister.handle env req).run (entered app req, resp) =
        ((entered app req, resp), .error (.exception what)) := by
      simp only [Handler.handle, exchanging, Throwing.rethrow, Throwing.within, entered, ran]
      rfl
    rw [responseTo_thrown ordinary routed thrown, inserted]
    exact .failed rfl rfl
  · have returned : (Handler.chatRegister.handle env req).run (entered app req, resp) =
        ((entered app req, answer), .ok ()) := by
      simp only [Handler.handle, exchanging, Throwing.rethrow, Throwing.within, entered, ran]
      rfl
    rw [responseTo_returned ordinary routed returned, inserted]
    exact answered.decorated _ _

/-! `insertUser` by its queries, each on a connection of its own. -/

inductive UserQuery where
  | isUserExist (username : Bytes)
  | insert (username passwordHash : Bytes)
  /-- The `SELECT` after the `INSERT`. -/
  | selectId (username : Bytes)

@[reducible] def UserQuery.Reply : UserQuery → Type
  | .isUserExist _ => Bool
  | .insert .. => Except Bytes Unit
  | .selectId _ => Option Int32

abbrev Inserting := Program UserQuery UserQuery.Reply Bytes Int32

def insertUserOn (crypto : Crypto) (username password : Bytes) : Inserting := do
  if ← Program.op (UserQuery.isUserExist username) then return -1
  else
    let passwordHash ← Program.give (hashPassword crypto password)
    let inserted ← Program.op (UserQuery.insert username passwordHash)
    Program.give inserted
    match ← Program.op (UserQuery.selectId username) with
    | some userId => return userId
    | none => return -1

/-- What the queries of one `insertUser` are answered. -/
structure Replies where
  exist : Bool
  inserted : Except Bytes Unit
  found : Option Int32

def Replies.perform (replies : Replies) : Unit → (query : UserQuery) → Unit × query.Reply
  | _, .isUserExist _ => ((), replies.exist)
  | _, .insert .. => ((), replies.inserted)
  | _, .selectId _ => ((), replies.found)

def Replies.surroundings (replies : Replies) (crypto : Crypto) : Surroundings where
  crypto := crypto
  selectUser _ := .ok replies.exist
  insert _ _ := replies.inserted
  selectInserted _ := .ok replies.found

theorem insertUserOn_insertUser (replies : Replies) (crypto : Crypto) (username password : Bytes) :
    (((insertUserOn crypto username password).interpret replies.perform).run ()).2 =
      insertUser (replies.surroundings crypto) username password := by
  rcases replies with ⟨exist, inserted, found⟩
  unfold insertUserOn insertUser isUserExist Replies.surroundings
  cases exist with
  | true => rfl
  | false =>
    cases hashPassword crypto password with
    | error what => rfl
    | ok passwordHash =>
      cases inserted with
      | error what => rfl
      | ok _ => cases found <;> rfl

/-! The registrations of one name. -/

variable {weight : Bytes → Bytes}

/-- A registration, where nothing fails but an INSERT of a name that is taken. -/
structure Registration (start : Users weight) where
  crypto : Crypto
  password : Bytes
  passwordHash : Bytes
  hashed : hashPassword crypto password = .ok passwordHash
  /-- The AUTO_INCREMENT id that its row would get. -/
  id : Int32
  positive : 0 < id
  fresh : ∀ row ∈ start.rows, row.id ≠ id

def duplicateEntry (username : Bytes) : Bytes :=
  bytes "Duplicate entry '" ++ username ++ bytes "' for key 'username'"

def perform {start : Users weight} (registration : Registration start) (users : Users weight) :
    (query : UserQuery) → Users weight × query.Reply
  | .isUserExist username => (users, (users.select username).isSome)
  | .insert username passwordHash =>
    match users.insert registration.id username passwordHash with
    | some after => (after, .ok ())
    | none => (users, .error (duplicateEntry username))
  | .selectId username => (users, (users.select username).map UserRow.id)

section perform

variable {start users after : Users weight} (registration : Registration start) {username passwordHash : Bytes}

theorem perform_inserted (inserted : users.insert registration.id username passwordHash = some after) :
    perform registration users (.insert username passwordHash) = (after, .ok ()) := by
  simp only [perform, inserted]

theorem perform_taken (refused : users.insert registration.id username passwordHash = none) :
    perform registration users (.insert username passwordHash) = (users, .error (duplicateEntry username)) := by
  simp only [perform, refused]

theorem perform_selectId {row : UserRow} (selected : users.select username = some row) :
    perform registration users (.selectId username) = (users, some row.id) := by
  simp only [perform, selected, Option.map_some]

end perform

/-- What leaves the handler ends its request only. -/
def registrations (start : Users weight) (username : Bytes) :
    Calls (Registration start) (Users weight) UserQuery UserQuery.Reply Bytes Int32 where
  program registration := insertUserOn registration.crypto username registration.password
  perform := perform
  fatal _ := false

abbrev Registering {weight : Bytes → Bytes} (start : Users weight) :=
  Pool (Registration start) (Users weight) UserQuery UserQuery.Reply Bytes Int32

abbrev Registrant {weight : Bytes → Bytes} (start : Users weight) :=
  Caller (Registration start) UserQuery UserQuery.Reply Bytes Int32

def Complete {start : Users weight} (pool : Registering start) : Prop :=
  ∀ caller ∈ pool.callers, ∃ outcome, caller.program = .done outcome

/-- One request is answered 200, with the id of the new user, and every other 409. -/
def OneWinner {start : Users weight} (username : Bytes) (pool : Registering start) : Prop :=
  ∃ winner caller row, pool.callers[winner]? = some caller ∧ caller.program = .done (.ok row.id) ∧
    statusOf (.ok row.id) = .k200Ok ∧ pool.shared.select username = some row ∧
    ∀ (i : Nat) (other : Registrant start), pool.callers[i]? = some other → i ≠ winner →
      ∃ outcome, other.program = .done outcome ∧ statusOf outcome = .k409Conflict

/-- An INSERT is made while there is no such user still. -/
def InsertsFree {start : Users weight} (username : Bytes) (pool : Registering start)
    (move : Move (Registration start)) : Prop :=
  pool.AtStep move fun _ query _ => ∀ passwordHash, query = .insert username passwordHash →
    pool.shared.select username = none

/-! How far a request has come. -/

def selecting (username : Bytes) : Inserting :=
  .call (.selectId username) fun found => .done (.ok (found.getD (-1)))

def inserting (username passwordHash : Bytes) : Inserting :=
  .call (.insert username passwordHash) fun
    | .ok _ => selecting username
    | .error what => .done (.error what)

theorem insertUserOn_hashed {crypto : Crypto} {password passwordHash : Bytes}
    (hashed : hashPassword crypto password = .ok passwordHash) (username : Bytes) :
    insertUserOn crypto username password = .call (.isUserExist username) fun exist =>
      if exist then .done (.ok (-1)) else inserting username passwordHash := by
  unfold insertUserOn
  rw [Program.op_bind]
  congr 1
  funext exist
  cases exist with
  | true => rfl
  | false =>
    rw [hashed]
    change Program.call (.insert username passwordHash) _ = inserting username passwordHash
    unfold inserting
    congr 1
    funext inserted
    cases inserted with
    | error what => rfl
    | ok _ =>
      change Program.call (.selectId username) _ = selecting username
      unfold selecting
      congr 1
      funext found
      cases found <;> rfl

/-- A request and the table: who has come past the INSERT finds the user. -/
inductive Fits {start : Users weight} (username : Bytes) (users : Users weight) (caller : Registrant start) : Prop where
  | asking (shape : caller.program = insertUserOn caller.input.crypto username caller.input.password)
  | inserting (shape : caller.program = ChatRegisterHandler.inserting username caller.input.passwordHash)
  | selecting (shape : caller.program = ChatRegisterHandler.selecting username)
      (taken : (users.select username).isSome = true)
  | refused (shape : caller.program = .done (.ok (-1))) (taken : (users.select username).isSome = true)
  | registered {row : UserRow} (shape : caller.program = .done (.ok row.id)) (there : users.select username = some row)
  | failed {what : Bytes} (shape : caller.program = .done (.error what)) (taken : (users.select username).isSome = true)

/-- Whether the row is the request's. -/
def holds {start : Users weight} (caller : Registrant start) : Bool :=
  match caller.program with
  | .call (.selectId _) _ => true
  | .done (.ok userId) => userId ≠ -1
  | _ => false

structure Racing {start : Users weight} (username : Bytes) (pool : Registering start) : Prop where
  fits : ∀ caller ∈ pool.callers, Fits username pool.shared caller
  unchanged : pool.shared.select username = none → pool.shared = start
  known : ∀ row, pool.shared.select username = some row → row.id ≠ -1
  one : pool.callers.countP holds = if (pool.shared.select username).isSome then 1 else 0

def NoneFailed {start : Users weight} (pool : Registering start) : Prop :=
  ∀ caller ∈ pool.callers, ∀ what, caller.program ≠ .done (.error what)

variable {start : Users weight} {username : Bytes} {pool : Registering start} {i : Nat} {caller new : Registrant start}

theorem Racing.set (racing : Racing username pool) (there : pool.callers[i]? = some caller)
    (fits : Fits username pool.shared new) (same : holds new = holds caller) :
    Racing username ⟨pool.shared, pool.callers.set i new⟩ := by
  refine ⟨?_, racing.unchanged, racing.known, ?_⟩
  · intro other member
    rcases List.mem_or_eq_of_mem_set member with old | isNew
    · exact racing.fits other old
    · rw [isNew]
      exact fits
  · have counted := @Calls.countP_set_of_getElem? _ _ _ _ new holds there
    rw [same] at counted
    have before := racing.one
    dsimp only
    omega

theorem noneFailed_set {users : Users weight} (there : pool.callers[i]? = some caller)
    (going : ∀ what, caller.program ≠ .done (.error what)) :
    NoneFailed ⟨users, pool.callers.set i new⟩ ↔ NoneFailed pool ∧ ∀ what, new.program ≠ .done (.error what) :=
  Calls.forall_mem_set there going

theorem asking_not_held {registration : Registration start} {past : List (Event UserQuery UserQuery.Reply)} :
    holds ⟨registration, past, insertUserOn registration.crypto username registration.password⟩ = false := by
  unfold holds
  dsimp only
  rw [insertUserOn_hashed registration.hashed]

theorem race_enter (racing : Racing username pool) (registration : Registration start) :
    Racing username { pool with
      callers := pool.callers ++
        [{ input := registration, program := (registrations start username).program registration }] } ∧
    (NoneFailed { pool with
      callers := pool.callers ++
        [{ input := registration, program := (registrations start username).program registration }] } ↔
        NoneFailed pool) := by
  apply And.intro
  · refine ⟨?_, racing.unchanged, racing.known, ?_⟩
    · intro other member
      rcases List.mem_append.mp member with old | isNew
      · exact racing.fits other old
      · rw [List.mem_singleton.mp isNew]
        exact .asking rfl
    · have notHeld := @asking_not_held _ start username registration []
      rw [List.countP_append, List.countP_singleton]
      change _ + (if holds ⟨registration, [], insertUserOn registration.crypto username registration.password⟩ = true
        then 1 else 0) = _
      rw [notHeld]
      exact racing.one
  · apply Iff.intro
    · exact fun none_ other member => none_ other (List.mem_append_left _ member)
    · intro none_ other member
      rcases List.mem_append.mp member with old | isNew
      · exact none_ other old
      · rw [List.mem_singleton.mp isNew]
        intro what
        change insertUserOn registration.crypto username registration.password ≠ _
        rw [insertUserOn_hashed registration.hashed]
        nofun

/-- While the name is free nobody has come past the INSERT. -/
theorem fits_after (racing : Racing username pool) (free : pool.shared.select username = none)
    {other : Registrant start} (member : other ∈ pool.callers) (users : Users weight) : Fits username users other := by
  have nobody : ¬ (pool.shared.select username).isSome = true := by rw [free]; nofun
  cases racing.fits other member with
  | asking shape => exact .asking shape
  | inserting shape => exact .inserting shape
  | selecting shape taken => exact absurd taken nobody
  | refused shape taken => exact absurd taken nobody
  | registered shape there =>
    rw [free] at there
    cases there
  | failed shape taken => exact absurd taken nobody

/-! What a step does, by the query that it makes. -/

structure Stepped (username : Bytes) (pool next : Registering start) (query : UserQuery) : Prop where
  racing : Racing username next
  noneFailed : NoneFailed next ↔
    NoneFailed pool ∧ ∀ passwordHash, query = .insert username passwordHash → pool.shared.select username = none

theorem Racing.asked (racing : Racing username pool) (there : pool.callers[i]? = some caller)
    (going : ∀ what, caller.program ≠ .done (.error what)) {query : UserQuery}
    (other : ∀ passwordHash, query ≠ .insert username passwordHash) (fits : Fits username pool.shared new)
    (same : holds new = holds caller) (goesOn : ∀ what, new.program ≠ .done (.error what)) :
    Stepped username pool ⟨pool.shared, pool.callers.set i new⟩ query := by
  apply Stepped.mk
  · exact racing.set there fits same
  · rw [noneFailed_set there going]
    have noInsert : ∀ passwordHash, query = .insert username passwordHash → pool.shared.select username = none :=
      fun passwordHash isInsert => absurd isInsert (other passwordHash)
    rw [and_iff_left goesOn, and_iff_left noInsert]

theorem Racing.inserted (racing : Racing username pool) (there : pool.callers[i]? = some caller)
    (going : ∀ what, caller.program ≠ .done (.error what)) (notHeld : holds caller = false)
    (free : pool.shared.select username = none) {after : Users weight} {row : UserRow}
    (selected : after.select username = some row) (known : row.id ≠ -1)
    (shape : new.program = ChatRegisterHandler.selecting username) (query : UserQuery) :
    Stepped username pool ⟨after, pool.callers.set i new⟩ query := by
  have taken : (after.select username).isSome = true := by rw [selected]; rfl
  apply Stepped.mk
  · apply Racing.mk
    · intro other member
      rcases List.mem_or_eq_of_mem_set member with old | isNew
      · exact fits_after racing free old after
      · rw [isNew]
        exact .selecting shape taken
    · intro gone
      rw [selected] at gone
      cases gone
    · intro other again
      rw [selected] at again
      cases again
      exact known
    · have counted := @Calls.countP_set_of_getElem? _ _ _ _ new holds there
      have held : holds new = true := by
        unfold holds
        rw [shape]
        rfl
      have before := racing.one
      have nobody : ¬ (pool.shared.select username).isSome = true := by rw [free]; nofun
      rw [if_neg nobody] at before
      rw [notHeld, held, before] at counted
      dsimp only
      rw [if_pos taken]
      simpa using counted
  · have goesOn : ∀ what, new.program ≠ .done (.error what) := by
      rw [shape]
      nofun
    have isFree : ∀ passwordHash, query = .insert username passwordHash → pool.shared.select username = none :=
      fun _ _ => free
    rw [noneFailed_set there going, and_iff_left goesOn, and_iff_left isFree]

theorem Racing.duplicate (racing : Racing username pool) (there : pool.callers[i]? = some caller)
    (going : ∀ what, caller.program ≠ .done (.error what)) (notHeld : holds caller = false) {row : UserRow}
    (selected : pool.shared.select username = some row) {what : Bytes} (shape : new.program = .done (.error what))
    (passwordHash : Bytes) :
    Stepped username pool ⟨pool.shared, pool.callers.set i new⟩ (.insert username passwordHash) := by
  have taken : (pool.shared.select username).isSome = true := by rw [selected]; rfl
  have lost : holds new = false := by
    unfold holds
    rw [shape]
  apply Stepped.mk
  · exact racing.set there (.failed shape taken) (lost.trans notHeld.symm)
  · rw [noneFailed_set there going]
    apply and_congr_right
    intro _
    apply iff_of_false
    · exact fun goesOn => goesOn what shape
    · intro isFree
      have free := isFree passwordHash rfl
      rw [selected] at free
      cases free

theorem Registration.id_known (registration : Registration start) : registration.id ≠ -1 := by
  intro same
  have positive := registration.positive
  rw [same] at positive
  revert positive
  decide

/-- The step lemma: only an INSERT of a name that is taken fails. -/
theorem race_step (move : Move (Registration start)) (next : Registering start)
    (step : (registrations start username).pool.step pool move = some next) (racing : Racing username pool) :
    Racing username next ∧ (NoneFailed next ↔ NoneFailed pool ∧ InsertsFree username pool move) := by
  rcases Calls.pool_cases step with ⟨registration, rfl, rfl⟩ | ⟨i, caller, query, rest, rfl, there, shape, rfl⟩
  · rcases race_enter racing registration with ⟨after, same⟩
    have noStep : InsertsFree username pool (.enter registration) := Calls.atStep_enter registration
    rw [and_iff_left noStep]
    exact ⟨after, same⟩
  · have going : ∀ what, caller.program ≠ .done (.error what) := by
      rw [shape]
      nofun
    have isFree : InsertsFree username pool (.step i) ↔
        ∀ passwordHash, query = .insert username passwordHash → pool.shared.select username = none :=
      Calls.atStep_iff there shape
    rw [isFree]
    suffices stepped : Stepped username pool
        ⟨((registrations start username).perform caller.input pool.shared query).1, pool.callers.set i
          (caller.after query rest ((registrations start username).perform caller.input pool.shared query).2)⟩
        query from ⟨stepped.racing, stepped.noneFailed⟩
    cases racing.fits caller (List.mem_of_getElem? there) with
    | asking program =>
      rw [insertUserOn_hashed caller.input.hashed, shape] at program
      cases program
      have notHeld : holds caller = false := by
        unfold holds
        rw [shape]
      have performed : (registrations start username).perform caller.input pool.shared (.isUserExist username) =
          (pool.shared, (pool.shared.select username).isSome) := rfl
      rw [performed]
      cases exist : (pool.shared.select username).isSome with
      | true => exact racing.asked there going nofun (.refused rfl exist) notHeld.symm nofun
      | false => exact racing.asked there going nofun (.inserting rfl) notHeld.symm nofun
    | inserting program =>
      have isInsert := program
      unfold inserting at isInsert
      rw [shape] at isInsert
      cases isInsert
      have notHeld : holds caller = false := by
        unfold holds
        rw [shape]
      cases selected : pool.shared.select username with
      | none =>
        have fresh : ∀ row ∈ pool.shared.rows, row.id ≠ caller.input.id := by
          rw [racing.unchanged selected]
          exact caller.input.fresh
        rcases Users.insert_absent fresh selected caller.input.passwordHash with ⟨after, inserted, nowThere⟩
        have performed : (registrations start username).perform caller.input pool.shared
            (.insert username caller.input.passwordHash) = (after, .ok ()) :=
          perform_inserted caller.input inserted
        rw [performed]
        exact racing.inserted there going notHeld selected nowThere caller.input.id_known rfl _
      | some row =>
        have performed : (registrations start username).perform caller.input pool.shared
            (.insert username caller.input.passwordHash) = (pool.shared, .error (duplicateEntry username)) :=
          perform_taken caller.input (Users.insert_taken selected _ _)
        rw [performed]
        exact racing.duplicate there going notHeld selected rfl _
    | selecting program taken =>
      have isSelect := program
      unfold selecting at isSelect
      rw [shape] at isSelect
      cases isSelect
      have held : holds caller = true := by
        unfold holds
        rw [shape]
      rcases Option.isSome_iff_exists.mp taken with ⟨row, selected⟩
      have performed : (registrations start username).perform caller.input pool.shared (.selectId username) =
          (pool.shared, some row.id) := perform_selectId caller.input selected
      rw [performed]
      have same : holds (caller.after (.selectId username) (fun found => .done (.ok (found.getD (-1)))) (some row.id)) =
          holds caller := by
        rw [held]
        exact decide_eq_true (racing.known row selected)
      exact racing.asked there going nofun (.registered rfl selected) same nofun
    | refused program => cases shape.symm.trans program
    | registered program => cases shape.symm.trans program
    | failed program => cases shape.symm.trans program

theorem oneWinner_of_complete (racing : Racing username pool) (complete : Complete pool) (some_ : pool.callers ≠ [])
    (none_ : NoneFailed pool) : OneWinner username pool := by
  have taken : (pool.shared.select username).isSome = true := by
    rcases List.exists_mem_of_ne_nil _ some_ with ⟨caller, member⟩
    rcases complete caller member with ⟨outcome, done⟩
    cases racing.fits caller member with
    | asking shape =>
      rw [insertUserOn_hashed caller.input.hashed, done] at shape
      cases shape
    | inserting shape => cases done.symm.trans shape
    | selecting shape taken => exact taken
    | refused shape taken => exact taken
    | registered shape there => rw [there]; rfl
    | failed shape taken => exact taken
  rcases Option.isSome_iff_exists.mp taken with ⟨row, selected⟩
  have one := racing.one
  rw [if_pos taken] at one
  rcases place_of_countP_one one with ⟨winner, caller, there, held, others⟩
  have known := racing.known row selected
  have ends : ∀ other ∈ pool.callers, other.program = .done (.ok (-1)) ∨ other.program = .done (.ok row.id) := by
    intro other member
    rcases complete other member with ⟨outcome, done⟩
    cases racing.fits other member with
    | asking shape =>
      rw [insertUserOn_hashed other.input.hashed, done] at shape
      cases shape
    | inserting shape => cases done.symm.trans shape
    | selecting shape => cases done.symm.trans shape
    | refused shape => exact Or.inl shape
    | registered shape found =>
      rw [selected] at found
      cases found
      exact Or.inr shape
    | failed shape => exact absurd shape (none_ other member _)
  have won : caller.program = .done (.ok row.id) := by
    rcases ends caller (List.mem_of_getElem? there) with refused | registered
    · have lost : holds caller = false := by
        unfold holds
        rw [refused]
        rfl
      rw [lost] at held
      cases held
    · exact registered
  refine ⟨winner, caller, row, there, won, if_pos known, selected, ?_⟩
  intro i other otherThere elsewhere
  have lost := others i other otherThere elsewhere
  rcases ends other (List.mem_of_getElem? otherThere) with refused | registered
  · exact ⟨.ok (-1), refused, rfl⟩
  · have wins : holds other = true := by
      unfold holds
      rw [registered]
      exact decide_eq_true known
    rw [wins] at lost
    cases lost

theorem noneFailed_of_oneWinner (one : OneWinner username pool) : NoneFailed pool := by
  rcases one with ⟨winner, caller, row, there, won, _, _, others⟩
  intro other member what failed
  rcases List.mem_iff_getElem?.mp member with ⟨i, found⟩
  by_cases same : i = winner
  · subst same
    rw [there] at found
    cases found
    cases won.symm.trans failed
  · rcases others i other found same with ⟨outcome, done, status⟩
    cases done.symm.trans failed
    cases status

/-- Of the registrations of a new name, all answered, one wins and the others are answered 409 if and only if every
    INSERT was made while there was no such user still. -/
theorem one_winner_iff {start : Users weight} {username : Bytes} {moves : List (Move (Registration start))}
    {final : Registering start} (absent : start.select username = none)
    (run : (registrations start username).pool.run ⟨start, []⟩ moves = some final) (complete : Complete final)
    (some_ : final.callers ≠ []) : OneWinner username final ↔
      (registrations start username).pool.Everywhere (InsertsFree username) ⟨start, []⟩ moves := by
  have begins : Racing username (⟨start, []⟩ : Registering start) := by
    refine ⟨nofun, fun _ => rfl, ?_, ?_⟩
    · intro row selected
      rw [absent] at selected
      cases selected
    · rw [absent]
      rfl
  have racing : Racing username final :=
    System.run_preserves (fun state move next step holds => (race_step move next step holds).1) begins run
  have exact_ := @System.final_iff_everywhere _ _ (registrations start username).pool (Racing username) NoneFailed
    (InsertsFree username) (fun state move next step holds => (race_step move next step holds).1)
    (fun state move next step holds => (race_step move next step holds).2) _ _ _ begins nofun run
  rw [← exact_]
  exact ⟨noneFailed_of_oneWinner, oneWinner_of_complete racing complete some_⟩

/-! Two registrations of `ada` with nobody in the table. -/

def saltedCrypto : Crypto := { ChatLoginHandler.secretCrypto with randBytes := some ChatLoginHandler.secretSalt }

def adaRegistration : Registration ({} : Users id) where
  crypto := saltedCrypto
  password := bytes "secret"
  passwordHash := pbkdf2Record ChatLoginHandler.secretSalt ChatLoginHandler.secretKey
  hashed := hashPassword_record rfl (by decide)
  id := 7
  positive := by decide
  fresh := nofun

def Registering.statuses (pool : Registering ({} : Users id)) : List (Option HttpStatusCode) :=
  pool.callers.map fun caller => caller.program.outcome.map statusOf

theorem complete_of_statuses {pool : Registering ({} : Users id)}
    (answered : ∀ status ∈ Registering.statuses pool, status.isSome = true) : Complete pool := by
  intro caller member
  have known := answered _ (List.mem_map_of_mem member)
  cases program : caller.program with
  | done outcome => exact ⟨outcome, rfl⟩
  | call query rest =>
    rw [program] at known
    cases known

/-- The second request asks when the first has inserted. -/
def askedLater : List (Move (Registration ({} : Users id))) :=
  [.enter adaRegistration, .enter adaRegistration, .step 0, .step 0, .step 1, .step 0]

theorem asked_later_wins : ∃ final, (registrations _ (bytes "ada")).pool.run ⟨{}, []⟩ askedLater = some final ∧
    Registering.statuses final = [some .k200Ok, some .k409Conflict] ∧ (OneWinner (bytes "ada") final ↔
      (registrations _ (bytes "ada")).pool.Everywhere (InsertsFree (bytes "ada")) ⟨{}, []⟩ askedLater) := by
  have seen : ((registrations _ (bytes "ada")).pool.run ⟨{}, []⟩ askedLater).map Registering.statuses =
      some [some .k200Ok, some .k409Conflict] := by decide
  rcases Option.map_eq_some_iff.mp seen with ⟨final, ran, statuses⟩
  refine ⟨final, ran, statuses, one_winner_iff rfl ran (complete_of_statuses ?_) ?_⟩
  · rw [statuses]
    decide
  · intro none_
    rw [Registering.statuses, none_] at statuses
    cases statuses

/-- Both requests ask before either inserts. -/
def bothAsked : List (Move (Registration ({} : Users id))) :=
  [.enter adaRegistration, .enter adaRegistration, .step 0, .step 1, .step 0, .step 1, .step 0]

theorem loser_fails : ¬ ∀ (weight : Bytes → Bytes) (start : Users weight) (username : Bytes)
    (moves : List (Move (Registration start))) (final : Registering start), start.select username = none →
      (registrations start username).pool.run ⟨start, []⟩ moves = some final → Complete final → final.callers ≠ [] →
      OneWinner username final := by
  intro every
  have seen : ((registrations _ (bytes "ada")).pool.run ⟨{}, []⟩ bothAsked).map Registering.statuses =
      some [some .k200Ok, some .k500InternalServerError] := by decide
  rcases Option.map_eq_some_iff.mp seen with ⟨final, ran, statuses⟩
  have complete : Complete final := by
    apply complete_of_statuses
    rw [statuses]
    decide
  have some_ : final.callers ≠ [] := by
    intro none_
    rw [Registering.statuses, none_] at statuses
    cases statuses
  have wins := every id {} (bytes "ada") bothAsked final rfl ran complete some_
  rcases List.map_eq_cons_iff.mp statuses with ⟨first, others, callers, _, later⟩
  rcases List.map_eq_cons_iff.mp later with ⟨second, none_, rfl, failed, _⟩
  have member : second ∈ final.callers := by
    rw [callers]
    exact List.mem_cons_of_mem _ List.mem_cons_self
  rcases complete second member with ⟨outcome, done⟩
  rw [done] at failed
  cases outcome with
  | error what => exact noneFailed_of_oneWinner wins second member what done
  | ok userId =>
    change some (if userId ≠ -1 then _ else _) = some _ at failed
    split at failed <;> cases failed

end Chat.ChatRegisterHandler
