import HttpServerApps.Chat.Migration
import HttpServerApps.Chat.Register
import HttpServerApps.Common.Linearization

namespace Chat

open Common

/-! `insertUser` and `queryUserId` by their queries, any of which may throw. -/

inductive AccountQuery where
  | isUserExist (username : Bytes)
  | insert (username passwordHash : Bytes)
  /-- The `SELECT` after the `INSERT`. -/
  | selectId (username : Bytes)
  | selectUser (username : Bytes)
  | updatePassword (upgraded : Bytes) (userId : Int32)

@[reducible] def AccountQuery.Reply : AccountQuery → Type
  | .isUserExist _ => Except Bytes Bool
  | .insert .. => Except Bytes Unit
  | .selectId _ => Except Bytes (Option Int32)
  | .selectUser _ => Except Bytes (Option (Bytes × Int32))
  | .updatePassword .. => Except Bytes Unit

abbrev Accounting := Program AccountQuery AccountQuery.Reply Bytes Int32

def ChatRegisterHandler.insertingUser (crypto : Crypto) (username password : Bytes) : Accounting := do
  let exist ← Program.op (AccountQuery.isUserExist username)
  if ← Program.give exist then return -1
  else
    let passwordHash ← Program.give (hashPassword crypto password)
    let inserted ← Program.op (AccountQuery.insert username passwordHash)
    Program.give inserted
    let selected ← Program.op (AccountQuery.selectId username)
    match ← Program.give selected with
    | some userId => return userId
    | none => return -1

def ChatLoginHandler.queryingUserId (crypto : Crypto) (username password : Bytes) : Accounting := do
  let selected ← Program.op (AccountQuery.selectUser username)
  match ← Program.give selected with
  | some (storedPassword, userId) =>
    let (accepted, upgraded) ← Program.give (verifyPassword crypto password storedPassword)
    if accepted then
      if upgraded ≠ [] then
        let updated ← Program.op (AccountQuery.updatePassword upgraded userId)
        Program.give updated
      return userId
    else return -1
  | none => return -1

namespace ChatRegisterHandler

end ChatRegisterHandler

namespace ChatLoginHandler

end ChatLoginHandler

/-- What the queries of one request are answered. -/
def accountReplies (register : ChatRegisterHandler.Surroundings) (login : ChatLoginHandler.Surroundings) :
    Unit → (query : AccountQuery) → Unit × query.Reply
  | _, .isUserExist username => ((), register.selectUser username)
  | _, .insert username passwordHash => ((), register.insert username passwordHash)
  | _, .selectId username => ((), register.selectInserted username)
  | _, .selectUser username => ((), login.selectUser username)
  | _, .updatePassword upgraded userId => ((), login.updatePassword upgraded userId)

theorem insertingUser_insertUser (register : ChatRegisterHandler.Surroundings) (login : ChatLoginHandler.Surroundings)
    (username password : Bytes) :
    (((ChatRegisterHandler.insertingUser register.crypto username password).interpret
      (accountReplies register login)).run ()).2 = ChatRegisterHandler.insertUser register username password := by
  unfold ChatRegisterHandler.insertingUser ChatRegisterHandler.insertUser ChatRegisterHandler.isUserExist
  simp only [Program.op_bind, Program.interpret, Program.run_give_bind, accountReplies]
  congr 1
  funext exist
  cases exist with
  | true => rfl
  | false =>
    simp only [Bool.false_eq_true, if_false, Program.run_give_bind, Program.interpret, accountReplies]
    congr 1
    funext passwordHash
    congr 1
    funext _
    congr 1
    funext found
    cases found <;> rfl

theorem queryingUserId_queryUserId (register : ChatRegisterHandler.Surroundings) (login : ChatLoginHandler.Surroundings)
    (username password : Bytes) :
    (((ChatLoginHandler.queryingUserId login.crypto username password).interpret
      (accountReplies register login)).run ()).2 = ChatLoginHandler.queryUserId login username password := by
  unfold ChatLoginHandler.queryingUserId ChatLoginHandler.queryUserId
  simp only [Program.op_bind, Program.interpret, Program.run_give_bind, accountReplies]
  congr 1
  funext found
  cases found with
  | none => rfl
  | some row =>
    simp only [Program.run_give_bind]
    congr 1
    funext verdict
    rcases verdict with ⟨accepted, upgraded⟩
    cases accepted with
    | false => rfl
    | true =>
      by_cases same : upgraded = []
      · subst same
        rfl
      · simp only [ne_eq, same, not_false_eq_true, if_true, Program.interpret, accountReplies]
        rw [Program.run_give_bind]
        rfl

/-! The requests on the table. -/

variable {weight : Bytes → Bytes}

inductive AccountAction where
  | register
  | login
  deriving DecidableEq

/-- A request, with what the database and the random source have for it. -/
structure AccountRequest where
  action : AccountAction
  username : Bytes
  password : Bytes
  /-- The salt that `RAND_bytes` draws, if it does. -/
  salt : Option (Fin kSaltBytes → UInt8)
  /-- The AUTO_INCREMENT id that its row would get. -/
  id : Int32
  positive : 0 < id
  /-- What the first `SELECT` throws, if it does. -/
  unread : Option Bytes
  /-- How the `INSERT` or the `UPDATE` ends. -/
  write : UpdateAnswer Bytes
  /-- What an `INSERT` is told whose key is taken. -/
  duplicate : Bytes
  /-- What the `SELECT` after the `INSERT` throws, if it does. -/
  unreadAgain : Option Bytes

def orThrow {Value : Type} (thrown : Option Bytes) (value : Value) : Except Bytes Value :=
  thrown.elim (.ok value) .error

namespace AccountRequest

variable (request : AccountRequest)

def library (crypto : Crypto) : Crypto := { crypto with randBytes := request.salt.map List.ofFn }

def program (crypto : Crypto) : Accounting :=
  match request.action with
  | .register => ChatRegisterHandler.insertingUser (request.library crypto) request.username request.password
  | .login => ChatLoginHandler.queryingUserId (request.library crypto) request.username request.password

def perform (users : Users weight) : (query : AccountQuery) → Users weight × query.Reply
  | .isUserExist username => (users, orThrow request.unread (users.select username).isSome)
  | .insert username passwordHash =>
    match users.insert request.id username passwordHash with
    | some after => (if request.write.writes then after else users, request.write.outcome)
    | none => (users, .error request.duplicate)
  | .selectId username => (users, orThrow request.unreadAgain ((users.select username).map UserRow.id))
  | .selectUser username =>
    (users, orThrow request.unread ((users.select username).map fun row => (row.password, row.id)))
  | .updatePassword upgraded userId =>
    (if request.write.writes then users.setPassword upgraded userId else users, request.write.outcome)

variable {users after : Users weight} {username passwordHash : Bytes}

theorem perform_inserted (inserted : users.insert request.id username passwordHash = some after) :
    request.perform users (.insert username passwordHash) =
      (if request.write.writes then after else users, request.write.outcome) := by
  simp only [perform, inserted]

theorem perform_taken (taken : users.insert request.id username passwordHash = none) :
    request.perform users (.insert username passwordHash) = (users, .error request.duplicate) := by
  simp only [perform, taken]

end AccountRequest

structure Account where
  id : Int32
  password : Bytes

/-- The accounts by the weights of their names. -/
abbrev Book := Bytes → Option Account

def Book.open (book : Book) (key : Bytes) (account : Account) : Book := Function.update book key (some account)

/-- The request comes to write: its name is free, or its password right. -/
def AccountRequest.Writes (weight : Bytes → Bytes) (request : AccountRequest) (book : Book) : Prop :=
  match request.action with
  | .register => book (weight request.username) = none
  | .login => ∃ account, book (weight request.username) = some account ∧ request.password = account.password

/-- What the request throws that leaves the book: what one of its queries threw, or that there is no salt. -/
inductive AccountRequest.Throws (weight : Bytes → Bytes) (request : AccountRequest) (book : Book) : Bytes → Prop where
  | unread {what : Bytes} (thrown : request.unread = some what) : Throws weight request book what
  | unsalted (writes : request.Writes weight book) (undrawn : request.salt = none) :
      Throws weight request book (bytes "Failed to generate password salt")
  | refused {what : Bytes} (writes : request.Writes weight book) (thrown : request.write = .refused what) :
      Throws weight request book what
  | lost {what : Bytes} (login : request.action = .login) (writes : request.Writes weight book)
      (thrown : request.write = .lost what) : Throws weight request book what
  /-- The `INSERT` meets a row of this name, or of the id that it would give. -/
  | duplicate (register : request.action = .register) {key : Bytes} {account : Account}
      (there : book key = some account) (same : key = weight request.username ∨ account.id = request.id) :
      Throws weight request book request.duplicate

/-- A request that happens at once. -/
inductive Happens (weight : Bytes → Bytes) (request : AccountRequest) (book : Book) : Except Bytes Int32 → Book → Prop
  where
  | registered {id : Int32} (register : request.action = .register) (free : book (weight request.username) = none)
      (positive : 0 < id) (fresh : ∀ key account, book key = some account → account.id ≠ id)
      {outcome : Except Bytes Int32} (told : outcome = .ok id ∨ ∃ what, outcome = .error what ∧
        (request.write = .lost what ∨ request.write = .done ∧ request.unreadAgain = some what)) :
      Happens weight request book outcome (book.open (weight request.username) ⟨id, request.password⟩)
  | taken (register : request.action = .register) {account : Account}
      (there : book (weight request.username) = some account) : Happens weight request book (.ok (-1)) book
  | accepted (login : request.action = .login) {account : Account}
      (there : book (weight request.username) = some account) (right : request.password = account.password) :
      Happens weight request book (.ok account.id) book
  | refused (login : request.action = .login) (wrong : ∀ account, book (weight request.username) = some account →
      request.password ≠ account.password) : Happens weight request book (.ok (-1)) book
  | failed {what : Bytes} (throws : request.Throws weight book what) : Happens weight request book (.error what) book

inductive Records (crypto : Crypto) (password : Bytes) : Bytes → Prop where
  | legacy {salt : Bytes} (whole : dollar ∉ salt) : Records crypto password (legacyRecord crypto salt password)
  | pbkdf2 {salt key : Bytes} (salted : salt ≠ []) (length : key.length = kDerivedKeyBytes)
      (derived : crypto.pbkdf2 password salt kPbkdf2Iterations = some key) :
      Records crypto password (pbkdf2Record salt key)

inductive AccountEntry (crypto : Crypto) (tried : Bytes → Prop) : Option UserRow → Option Account → Prop where
  | none : AccountEntry crypto tried none none
  | some {row : UserRow} {account : Account} (same : row.id = account.id) (own : tried account.password)
      (record : Records crypto account.password row.password) : AccountEntry crypto tried (some row) (some account)

namespace Users

/-- The row of the names of this weight. -/
def rowOf (users : Users weight) (key : Bytes) : Option UserRow :=
  users.rows.find? fun row => weight row.username = key

theorem rowOf_some {users : Users weight} {key : Bytes} {row : UserRow} (found : users.rowOf key = some row) :
    row ∈ users.rows ∧ weight row.username = key :=
  ⟨List.mem_of_find?_eq_some found, by simpa using List.find?_some found⟩

theorem rowOf_setPassword (users : Users weight) (password : Bytes) (id : Int32) (key : Bytes) :
    (users.setPassword password id).rowOf key =
      (users.rowOf key).map fun row => if row.id = id then { row with password } else row := by
  unfold rowOf setPassword
  rw [List.find?_map]
  congr 2
  funext row
  simp only [Function.comp_apply]
  split <;> rfl

theorem insert_some {users after : Users weight} {id : Int32} {username password : Bytes}
    (inserted : users.insert id username password = some after) :
    (∀ row ∈ users.rows, row.id ≠ id) ∧ users.select username = none ∧
      after.rows = users.rows ++ [⟨id, username, password⟩] := by
  unfold insert at inserted
  split at inserted
  case isTrue free =>
    cases inserted
    exact ⟨free.1, select_none.mpr free.2, rfl⟩
  case isFalse => cases inserted

theorem rowOf_insert {users after : Users weight} {id : Int32} {username password : Bytes}
    (inserted : users.insert id username password = some after) (key : Bytes) :
    after.rowOf key = if key = weight username then some ⟨id, username, password⟩ else users.rowOf key := by
  rcases insert_some inserted with ⟨_, absent, rows⟩
  unfold rowOf
  rw [rows, List.find?_append]
  split
  case isTrue same =>
    subst same
    change (users.select username).or _ = _
    rw [absent]
    simp
  case isFalse other =>
    have differs : ¬ weight username = key := fun same => other same.symm
    simp [differs]

end Users

def Represents (crypto : Crypto) (tried : Bytes → Prop) (users : Users weight) (book : Book) : Prop :=
  ∀ key, AccountEntry crypto tried (users.rowOf key) (book key)

section Represents

variable {crypto : Crypto} {tried : Bytes → Prop} {users : Users weight} {book : Book}

theorem Represents.of_row (represents : Represents crypto tried users book) {key : Bytes} {row : UserRow}
    (found : users.rowOf key = some row) : ∃ account, book key = some account ∧ row.id = account.id ∧
      tried account.password ∧ Records crypto account.password row.password := by
  have entry := represents key
  rw [found] at entry
  cases shape : book key with
  | none =>
    rw [shape] at entry
    cases entry
  | some account =>
    rw [shape] at entry
    cases entry with
    | some same own record => exact ⟨account, rfl, same, own, record⟩

theorem Represents.of_account (represents : Represents crypto tried users book) {key : Bytes} {account : Account}
    (there : book key = some account) : ∃ row, users.rowOf key = some row ∧ row.id = account.id ∧
      tried account.password ∧ Records crypto account.password row.password := by
  have entry := represents key
  cases found : users.rowOf key with
  | none =>
    rw [there, found] at entry
    cases entry
  | some row =>
    rcases represents.of_row found with ⟨other, otherThere, same, own, record⟩
    cases there.symm.trans otherThere
    exact ⟨row, rfl, same, own, record⟩

theorem Represents.free_iff (represents : Represents crypto tried users book) (key : Bytes) :
    users.rowOf key = none ↔ book key = none := by
  apply Iff.intro
  · intro absent
    cases there : book key with
    | none => rfl
    | some account =>
      rcases represents.of_account there with ⟨row, found, _⟩
      rw [absent] at found
      cases found
  · intro free
    cases found : users.rowOf key with
    | none => rfl
    | some row =>
      rcases represents.of_row found with ⟨account, there, _⟩
      rw [free] at there
      cases there

theorem Represents.insert (represents : Represents crypto tried users book) {after : Users weight} {id : Int32}
    {username password passwordHash : Bytes} (inserted : users.insert id username passwordHash = some after)
    (own : tried password) (record : Records crypto password passwordHash) :
    Represents crypto tried after (book.open (weight username) ⟨id, password⟩) := by
  intro key
  rw [Users.rowOf_insert inserted]
  by_cases same : key = weight username
  · rw [if_pos same, same]
    unfold Book.open
    rw [Function.update_self]
    exact .some rfl own record
  · rw [if_neg same]
    unfold Book.open
    rw [Function.update_of_ne same]
    exact represents key

theorem Represents.setPassword (represents : Represents crypto tried users book) {key upgraded : Bytes}
    {account : Account} (there : book key = some account) (record : Records crypto account.password upgraded) :
    Represents crypto tried (users.setPassword upgraded account.id) book := by
  rcases represents.of_account there with ⟨row, found, same, _, _⟩
  intro other
  rw [Users.rowOf_setPassword]
  cases otherFound : users.rowOf other with
  | none =>
    rw [(represents.free_iff other).mp otherFound]
    exact .none
  | some otherRow =>
    rcases represents.of_row otherFound with ⟨otherAccount, otherThere, otherSame, own, otherRecord⟩
    rw [otherThere, Option.map_some]
    apply AccountEntry.some
    · split <;> exact otherSame
    · exact own
    · split
      case isTrue target =>
        -- The id is the row's alone, so both keys are its weight.
        have one := Users.row_unique (Users.rowOf_some otherFound).1 (Users.rowOf_some found).1 (target.trans same.symm)
        subst one
        have keys := (Users.rowOf_some otherFound).2.symm.trans (Users.rowOf_some found).2
        subst keys
        cases there.symm.trans otherThere
        exact record
      case isFalse => exact otherRecord

theorem Represents.fresh (represents : Represents crypto tried users book) {id : Int32}
    (free : ∀ row ∈ users.rows, row.id ≠ id) (key : Bytes) (account : Account) (there : book key = some account) :
    account.id ≠ id := by
  rcases represents.of_account there with ⟨row, found, same, _, _⟩
  rw [← same]
  exact free row (Users.rowOf_some found).1

end Represents

/-! What the password code makes of the records. -/

section

variable {crypto : Crypto} {tried : Bytes → Prop} (request : AccountRequest)

end

/-! A request and the book: how far it can have come. -/

section

variable {crypto : Crypto} {tried : Bytes → Prop} {request : AccountRequest} {book : Book}

theorem Happens.there {outcome : Except Bytes Int32} {later : Book}
    (happens : Happens weight request book outcome later) {key : Bytes} {account : Account}
    (there : book key = some account) : later key = some account := by
  cases happens with
  | registered _ free =>
    by_cases same : key = weight request.username
    · rw [same, free] at there
      cases there
    · unfold Book.open
      rw [Function.update_of_ne same]
      exact there
  | taken | accepted | refused | failed => exact there

end

/-! Two register the same name, and a user with a legacy record logs in meanwhile. -/


end Chat
