import HttpServerApps.Chat.Login
import HttpServerApps.Chat.PasswordRecords
import HttpServerApps.Chat.Users
import HttpServerApps.Common.Runs

namespace Chat

open Common Http Sessions

/-- The hashes tell the passwords tried apart, and PBKDF2 derives a key from each. -/
structure Crypto.Ideal (crypto : Crypto) (tried : Bytes → Prop) : Prop where
  sha256 : ∀ salt first second, tried first → tried second →
    crypto.sha256 (salt ++ first) = crypto.sha256 (salt ++ second) → first = second
  pbkdf2 : ∀ salt iterations key first second, tried first → tried second →
    crypto.pbkdf2 first salt iterations = some key → crypto.pbkdf2 second salt iterations = some key → first = second
  derives : ∀ password salt, tried password →
    ∃ key, key.length = kDerivedKeyBytes ∧ crypto.pbkdf2 password salt kPbkdf2Iterations = some key

/-- The library with the salt that `RAND_bytes` draws. -/
def Crypto.drawing (crypto : Crypto) (salt : Fin kSaltBytes → UInt8) : Crypto :=
  { crypto with randBytes := some (List.ofFn salt) }

/-- An attempt to log in, with the salt drawn for it and the answer an UPDATE would get. -/
structure Attempt where
  username : Bytes
  password : Bytes
  salt : Fin kSaltBytes → UInt8
  update : UpdateAnswer Bytes

namespace ChatLoginHandler

variable {weight : Bytes → Bytes}

def executeUpdate (answer : UpdateAnswer Bytes) (upgraded : Bytes) (userId : Int32) : Throwing (Users weight) Bytes Unit :=
  ⟨fun users => (if answer.writes then users.setPassword upgraded userId else users, answer.outcome)⟩

/-- `queryUserId` on the table. -/
def queryUserIdOn (crypto : Crypto) (attempt : Attempt) : Throwing (Users weight) Bytes Int32 := do
  match ← Throwing.read fun users => users.select attempt.username with
  | some row =>
    let (accepted, upgraded) ←
      Throwing.call (verifyPassword (crypto.drawing attempt.salt) attempt.password row.password)
    if accepted then
      if upgraded ≠ [] then executeUpdate attempt.update upgraded row.id
      return row.id
    else return -1
  | none => return -1

/-- What a request meets whose database holds the table. -/
def Surroundings.holding (env : Surroundings) (crypto : Crypto) (users : Users weight) (attempt : Attempt) :
    Surroundings :=
  { env with
    crypto := crypto.drawing attempt.salt
    selectUser := fun username => .ok ((users.select username).map fun row => (row.password, row.id))
    updatePassword := fun _ _ => attempt.update.outcome }

theorem queryUserIdOn_outcome (env : Surroundings) (crypto : Crypto) (attempt : Attempt) (users : Users weight) :
    ((queryUserIdOn crypto attempt).run users).2 =
      queryUserId (env.holding crypto users attempt) attempt.username attempt.password := by
  unfold queryUserIdOn queryUserId Surroundings.holding
  rw [Throwing.run_read_bind]
  dsimp only [Bind.bind, Except.bind]
  cases users.select attempt.username with
  | none => rfl
  | some row =>
    dsimp only [Option.map_some]
    have ran := fun next : Bool × Bytes → Throwing (Users weight) Bytes Int32 => Throwing.run_call_bind
      (verifyPassword (crypto.drawing attempt.salt) attempt.password row.password) next users
    simp only [Bind.bind] at ran
    rw [ran]
    cases verifyPassword (crypto.drawing attempt.salt) attempt.password row.password with
    | error what => rfl
    | ok verdict =>
      rcases verdict with ⟨accepted, upgraded⟩
      cases accepted with
      | false => rfl
      | true =>
        by_cases same : upgraded = []
        · subst same
          rfl
        · simp only [ne_eq, same, not_false_eq_true, if_true]
          cases attempt.update <;> rfl

/-- What an attempt asks the database to write, and for which user. -/
def requested (crypto : Crypto) (users : Users weight) (attempt : Attempt) : Option (Bytes × Int32) :=
  (users.select attempt.username).bind fun row =>
    match verifyPassword (crypto.drawing attempt.salt) attempt.password row.password with
    | .ok (true, upgraded) => if upgraded ≠ [] then some (upgraded, row.id) else none
    | _ => none

/-- Whether `verifyPassword` returns true in an attempt. -/
def Verified (crypto : Crypto) (users : Users weight) (attempt : Attempt) : Prop :=
  ∃ row upgraded, users.select attempt.username = some row ∧
    verifyPassword (crypto.drawing attempt.salt) attempt.password row.password = .ok (true, upgraded)

/-- The table after an attempt. -/
def attempted (crypto : Crypto) (users : Users weight) (attempt : Attempt) : Users weight :=
  ((queryUserIdOn crypto attempt).run users).1

theorem attempted_requested (crypto : Crypto) (users : Users weight) (attempt : Attempt) :
    attempted crypto users attempt =
      match requested crypto users attempt with
      | some (upgraded, userId) => if attempt.update.writes then users.setPassword upgraded userId else users
      | none => users := by
  unfold attempted queryUserIdOn requested
  rw [Throwing.run_read_bind]
  cases users.select attempt.username with
  | none => rfl
  | some row =>
    dsimp only [Option.bind_some]
    rw [Throwing.run_call_bind]
    cases verifyPassword (crypto.drawing attempt.salt) attempt.password row.password with
    | error what => rfl
    | ok verdict =>
      rcases verdict with ⟨accepted, upgraded⟩
      cases accepted with
      | false => rfl
      | true =>
        by_cases same : upgraded = []
        · subst same
          rfl
        · simp only [ne_eq, same, not_false_eq_true, if_true]
          cases attempt.update <;> rfl

def passwordLogins (crypto : Crypto) : System (Users weight) Attempt :=
  ⟨fun users attempt => some (attempted crypto users attempt)⟩

/-! What is asked of each attempt, of a row that holds a legacy record of `password`. -/

def Changes (crypto : Crypto) (row : UserRow) (users : Users weight) (attempt : Attempt) : Prop :=
  (attempted crypto users attempt).stored row.id ≠ users.stored row.id

structure Kept (crypto : Crypto) (row : UserRow) (password : Bytes) (users : Users weight) (attempt : Attempt) :
    Prop where
  verified : weight attempt.username = weight row.username →
    (Verified crypto users attempt ↔ attempt.password = password)
  changed : Changes crypto row users attempt → weight attempt.username = weight row.username ∧
    Verified crypto users attempt ∧ attempt.password = password ∧
    ∃ salt key, (attempted crypto users attempt).stored row.id = some (pbkdf2Record salt key)

/-- What is asked once the row has changed. -/
structure Settled (crypto : Crypto) (row : UserRow) (users : Users weight) (attempt : Attempt) : Prop where
  unchanged : ¬ Changes crypto row users attempt
  unrequested : weight attempt.username = weight row.username → requested crypto users attempt = none

/-- The row holds a generated record of `password`. -/
def Migrated (crypto : Crypto) (row : UserRow) (password : Bytes) (users : Users weight) : Prop :=
  ∃ salt key, salt ≠ [] ∧ key.length = kDerivedKeyBytes ∧
    crypto.pbkdf2 password salt kPbkdf2Iterations = some key ∧
    { row with password := pbkdf2Record salt key } ∈ users.rows

variable {crypto : Crypto} {tried : Bytes → Prop} {users : Users weight} {row : UserRow} {attempt : Attempt}

theorem not_changes_of_kept (there : row ∈ users.rows) (kept : row ∈ (attempted crypto users attempt).rows) :
    ¬ Changes crypto row users attempt := by
  intro changes
  apply changes
  rw [Users.stored_eq kept, Users.stored_eq there]

theorem attempted_unrequested (none_ : requested crypto users attempt = none) :
    attempted crypto users attempt = users := by
  rw [attempted_requested, none_]

theorem kept_of_other (there : row ∈ users.rows) (other : weight attempt.username ≠ weight row.username) :
    row ∈ (attempted crypto users attempt).rows := by
  rw [attempted_requested]
  cases asked : requested crypto users attempt with
  | none => exact there
  | some update =>
    rcases update with ⟨upgraded, userId⟩
    rcases Option.bind_eq_some_iff.mp asked with ⟨found, selected, verdict⟩
    rcases Users.select_some selected with ⟨member, name⟩
    have different : row.id ≠ found.id := by
      intro same
      have one := Users.row_unique there member same
      subst one
      exact other name.symm
    have target : userId = found.id := by
      split at verdict
      · split at verdict
        · exact (congrArg Prod.snd (Option.some.inj verdict)).symm
        · cases verdict
      · cases verdict
    dsimp only
    split
    · rw [target]
      exact Users.mem_setPassword_other there different upgraded
    · exact there

theorem verified_iff (there : row ∈ users.rows) (named : weight attempt.username = weight row.username) :
    Verified crypto users attempt ↔ ∃ upgraded,
      verifyPassword (crypto.drawing attempt.salt) attempt.password row.password = .ok (true, upgraded) := by
  have selected := Users.select_eq there named.symm
  apply Iff.intro
  · rintro ⟨other, upgraded, found, verdict⟩
    rw [selected] at found
    cases found
    exact ⟨upgraded, verdict⟩
  · rintro ⟨upgraded, verdict⟩
    exact ⟨row, upgraded, selected, verdict⟩

/-! The row still holds the legacy record. -/

section

variable {salt password : Bytes}

theorem verifyPassword_own (ideal : crypto.Ideal tried) (own : tried password) (whole : dollar ∉ salt)
    (drawn : Fin kSaltBytes → UInt8) : ∃ key, key.length = kDerivedKeyBytes ∧
      crypto.pbkdf2 password (List.ofFn drawn) kPbkdf2Iterations = some key ∧
      verifyPassword (crypto.drawing drawn) password (legacyRecord crypto salt password) =
        .ok (true, pbkdf2Record (List.ofFn drawn) key) := by
  rcases ideal.derives password (List.ofFn drawn) own with ⟨key, length, derived⟩
  refine ⟨key, length, derived, ?_⟩
  have hashed : hashPassword (crypto.drawing drawn) password = .ok (pbkdf2Record (List.ofFn drawn) key) :=
    hashPassword_record rfl derived
  have verdict := @verifyPassword_legacy (crypto.drawing drawn) salt password whole password
  rw [if_pos rfl, hashed] at verdict
  exact verdict

theorem verifyPassword_wrong (ideal : crypto.Ideal tried) (own : tried password) (whole : dollar ∉ salt) {plain : Bytes}
    (trial : tried plain) (wrong : plain ≠ password) (drawn : Fin kSaltBytes → UInt8) :
    verifyPassword (crypto.drawing drawn) plain (legacyRecord crypto salt password) = .ok (false, []) := by
  have differs : ¬ (crypto.drawing drawn).sha256 (salt ++ plain) = (crypto.drawing drawn).sha256 (salt ++ password) :=
    fun same => wrong (ideal.sha256 salt plain password trial own same)
  have verdict := @verifyPassword_legacy (crypto.drawing drawn) salt password whole plain
  rw [if_neg differs] at verdict
  exact verdict

/-- The step lemma before the row has changed. -/
theorem legacy_step (ideal : crypto.Ideal tried) (own : tried password) (trial : tried attempt.password)
    (whole : dollar ∉ salt) (legacy : row.password = legacyRecord crypto salt password) (there : row ∈ users.rows) :
    Kept crypto row password users attempt ∧
      (row ∈ (attempted crypto users attempt).rows ∨
        Migrated crypto row password (attempted crypto users attempt)) := by
  by_cases named : weight attempt.username = weight row.username
  · have selected := Users.select_eq there named.symm
    have verified := @verified_iff _ crypto _ _ _ there named
    by_cases correct : attempt.password = password
    · rcases verifyPassword_own ideal own whole attempt.salt with ⟨key, length, derived, verdict⟩
      rw [← legacy, ← correct] at verdict
      have accepted := verified.mpr ⟨_, verdict⟩
      have asked : requested crypto users attempt = some (pbkdf2Record (List.ofFn attempt.salt) key, row.id) := by
        unfold requested
        rw [selected, Option.bind_some, verdict]
        exact if_pos (pbkdf2Record_ne_nil _ _)
      have after := attempted_requested crypto users attempt
      rw [asked] at after
      dsimp only at after
      by_cases writes : attempt.update.writes = true
      · rw [if_pos writes] at after
        have new : { row with password := pbkdf2Record (List.ofFn attempt.salt) key } ∈
            (attempted crypto users attempt).rows := by
          rw [after]
          exact Users.mem_setPassword there _
        have salted : List.ofFn attempt.salt ≠ [] := by
          intro empty
          have none_ := congrArg List.length empty
          rw [List.length_ofFn] at none_
          cases none_
        apply And.intro
        · exact ⟨fun _ => iff_of_true accepted correct, fun _ =>
            ⟨named, accepted, correct, List.ofFn attempt.salt, key, Users.stored_eq new⟩⟩
        · exact Or.inr ⟨List.ofFn attempt.salt, key, salted, length, derived, new⟩
      · rw [if_neg writes] at after
        have kept : row ∈ (attempted crypto users attempt).rows := by
          rw [after]
          exact there
        exact ⟨⟨fun _ => iff_of_true accepted correct, fun changes =>
          absurd changes (not_changes_of_kept there kept)⟩, Or.inl kept⟩
    · have verdict := verifyPassword_wrong ideal own whole trial correct attempt.salt
      rw [← legacy] at verdict
      have refused : ¬ Verified crypto users attempt := by
        intro accepted
        rcases verified.mp accepted with ⟨upgraded, other⟩
        rw [verdict] at other
        cases other
      have asked : requested crypto users attempt = none := by
        unfold requested
        rw [selected, Option.bind_some, verdict]
      have kept : row ∈ (attempted crypto users attempt).rows := by
        rw [attempted_unrequested asked]
        exact there
      exact ⟨⟨fun _ => iff_of_false refused correct, fun changes =>
        absurd changes (not_changes_of_kept there kept)⟩, Or.inl kept⟩
  · have kept := @kept_of_other _ crypto _ _ _ there named
    exact ⟨⟨fun same => absurd same named, fun changes => absurd changes (not_changes_of_kept there kept)⟩, Or.inl kept⟩

/-- The step lemma after it. -/
theorem migrated_step (ideal : crypto.Ideal tried) (own : tried password) (trial : tried attempt.password)
    (migrated : Migrated crypto row password users) :
    Kept crypto row password users attempt ∧ Settled crypto row users attempt ∧
      Migrated crypto row password (attempted crypto users attempt) := by
  rcases migrated with ⟨drawn, key, salted, length, derived, there⟩
  by_cases named : weight attempt.username = weight row.username
  · have selected := Users.select_eq there (Eq.symm named)
    have verified := @verified_iff _ crypto _ _ attempt there named
    have verdict := @verifyPassword_pbkdf2 (crypto.drawing attempt.salt) drawn key salted length attempt.password
    have asked : requested crypto users attempt = none := by
      unfold requested
      rw [selected, Option.bind_some, verdict]
      cases decide ((crypto.drawing attempt.salt).pbkdf2 attempt.password drawn kPbkdf2Iterations = some key) <;> rfl
    have same := attempted_unrequested asked
    have still : ¬ Changes crypto row users attempt := by
      intro changes
      apply changes
      rw [same]
    refine ⟨⟨fun _ => ?_, fun changes => absurd changes still⟩, ⟨still, fun _ => asked⟩, ?_⟩
    · rw [verified, verdict]
      apply Iff.intro
      · rintro ⟨upgraded, accepted⟩
        have derives : crypto.pbkdf2 attempt.password drawn kPbkdf2Iterations = some key :=
          of_decide_eq_true (congrArg Prod.fst (Except.ok.inj accepted))
        exact ideal.pbkdf2 drawn kPbkdf2Iterations key _ _ trial own derives derived
      · intro correct
        have derives : (crypto.drawing attempt.salt).pbkdf2 attempt.password drawn kPbkdf2Iterations = some key := by
          rw [correct]
          exact derived
        exact ⟨[], by rw [decide_eq_true derives]⟩
    · rw [same]
      exact ⟨drawn, key, salted, length, derived, there⟩
  · have kept := @kept_of_other _ crypto _ _ attempt there named
    have still : ¬ Changes crypto row users attempt := fun changes => not_changes_of_kept there kept changes
    exact ⟨⟨fun same => absurd same named, fun changes => absurd changes still⟩,
      ⟨still, fun same => absurd same named⟩, drawn, key, salted, length, derived, kept⟩

/-- In a run of attempts the right password is accepted and no other, and the row changes once at most. -/
theorem login_migration (ideal : crypto.Ideal tried) (own : tried password) {attempts : List Attempt}
    (trials : ∀ attempt ∈ attempts, tried attempt.password) (whole : dollar ∉ salt)
    (legacy : row.password = legacyRecord crypto salt password) (there : row ∈ users.rows) :
    (passwordLogins crypto).Everywhere (Kept crypto row password) users attempts ∧
      ∀ before attempt rest state, attempts = before ++ attempt :: rest →
        (passwordLogins crypto).run users before = some state → Changes crypto row state attempt →
        (passwordLogins crypto).Everywhere (Settled crypto row) (attempted crypto state attempt) rest := by
  have everyTrial : (passwordLogins crypto).Everywhere (fun _ attempt => tried attempt.password) users attempts :=
    System.everywhere_of_mem fun attempt member _ => trials attempt member
  have always :
      (passwordLogins crypto).Always (fun users => row ∈ users.rows ∨ Migrated crypto row password users) users
        attempts := by
    refine System.always_of_everywhere ?_ (Or.inl there) everyTrial
    intro state attempt next step holds trial
    cases step
    rcases holds with unchanged | migrated
    · exact (legacy_step ideal own trial whole legacy unchanged).2
    · exact Or.inr (migrated_step ideal own trial migrated).2.2
  apply And.intro
  · intro before attempt rest state shape run
    have trial := everyTrial before attempt rest state shape run
    rcases always before (attempt :: rest) state shape run with unchanged | migrated
    · exact (legacy_step ideal own trial whole legacy unchanged).1
    · exact (migrated_step ideal own trial migrated).1
  · intro before attempt rest state shape run changes
    have trial := everyTrial before attempt rest state shape run
    have migrated : Migrated crypto row password (attempted crypto state attempt) := by
      rcases always before (attempt :: rest) state shape run with unchanged | migrated
      · rcases (legacy_step ideal own trial whole legacy unchanged).2 with kept | new
        · exact absurd changes (not_changes_of_kept unchanged kept)
        · exact new
      · exact absurd changes (migrated_step ideal own trial migrated).2.1.unchanged
    have later : (passwordLogins crypto).Everywhere (fun _ attempt => tried attempt.password)
        (attempted crypto state attempt) rest := by
      apply System.everywhere_of_mem
      intro other member _
      apply trials other
      rw [shape]
      exact List.mem_append_right _ (List.mem_cons_of_mem _ member)
    have stays :
        (passwordLogins crypto).Always (Migrated crypto row password) (attempted crypto state attempt) rest := by
      refine System.always_of_everywhere ?_ migrated later
      intro state attempt next step holds trial
      cases step
      exact (migrated_step ideal own trial holds).2.2
    intro first other last middle inRest reached
    have holds := stays first (other :: last) middle inRest reached
    exact (migrated_step ideal own (later first other last middle inRest reached) holds).2.1

end

/-! A legacy record of `secret` with the salt `5f3a`, and the values that SHA-256 and PBKDF2 give for it. -/

def secretDigest : Bytes :=
  [32, 42, 59, 89, 46, 215, 190, 91, 76, 74, 223, 14, 240, 254, 234, 66,
   98, 114, 56, 234, 21, 232, 112, 182, 121, 173, 196, 86, 172, 181, 101, 252]

def wrongDigest : Bytes :=
  [115, 253, 132, 85, 71, 247, 62, 39, 253, 85, 229, 189, 250, 175, 150, 52,
   194, 7, 124, 25, 230, 59, 46, 124, 46, 175, 67, 119, 173, 117, 36, 217]

def wrongKey : Bytes :=
  [144, 74, 55, 11, 176, 238, 153, 248, 63, 230, 161, 139, 124, 85, 177, 126,
   185, 11, 175, 76, 40, 111, 225, 194, 54, 164, 164, 136, 22, 116, 248, 12]

def twoPasswords : Crypto where
  sha256 input := if input.getLast? = (bytes "secret").getLast? then secretDigest else wrongDigest
  pbkdf2 password _ _ := some (if password = bytes "secret" then secretKey else wrongKey)
  randBytes := none

def SecretOrWrong (password : Bytes) : Prop := password = bytes "secret" ∨ password = bytes "wrong"

theorem twoPasswords_ideal : twoPasswords.Ideal SecretOrWrong := by
  have secretLast : ∀ salt : Bytes, (salt ++ bytes "secret").getLast? = (bytes "secret").getLast? := by
    intro salt
    rw [List.getLast?_append_of_ne_nil _ (by decide)]
  have wrongLast : ∀ salt : Bytes, ¬ (salt ++ bytes "wrong").getLast? = (bytes "secret").getLast? := by
    intro salt
    rw [List.getLast?_append_of_ne_nil _ (by decide)]
    decide
  have digests : secretDigest ≠ wrongDigest := by decide
  have keys : secretKey ≠ wrongKey := by decide
  have differ : ¬ bytes "wrong" = bytes "secret" := by decide
  apply Crypto.Ideal.mk
  · rintro salt _ _ (rfl | rfl) (rfl | rfl) same
    · rfl
    · simp only [twoPasswords, secretLast, wrongLast, if_true, if_false] at same
      exact absurd same digests
    · simp only [twoPasswords, secretLast, wrongLast, if_true, if_false] at same
      exact absurd same.symm digests
    · rfl
  · rintro salt iterations key _ _ (rfl | rfl) (rfl | rfl) first second
    · rfl
    · simp only [twoPasswords, differ, if_true, if_false, Option.some.injEq] at first second
      exact absurd (first.trans second.symm) keys
    · simp only [twoPasswords, differ, if_true, if_false, Option.some.injEq] at first second
      exact absurd (second.trans first.symm) keys
    · rfl
  · intro password salt _
    refine ⟨_, ?_, rfl⟩
    split <;> rfl

def legacyAda : UserRow := ⟨7, bytes "ada", legacyRecord twoPasswords (bytes "5f3a") (bytes "secret")⟩

def legacyUsers : Users id where
  rows := [⟨3, bytes "bob", []⟩, legacyAda]
  ids := by decide
  names := by decide

def adaAttempt (password : Bytes) (update : UpdateAnswer Bytes) : Attempt where
  username := bytes "ada"
  password := password
  salt := fun i => UInt8.ofNat i
  update := update

/-- The wrong password, the right one with a refused UPDATE and again with the UPDATE done, and both once more. -/
def adaAttempts : List Attempt :=
  [adaAttempt (bytes "wrong") .done, adaAttempt (bytes "secret") (.refused (bytes "gone away")),
    adaAttempt (bytes "secret") .done, adaAttempt (bytes "wrong") .done, adaAttempt (bytes "secret") .done]

theorem adaAttempts_migrate :
    ((passwordLogins twoPasswords).run legacyUsers adaAttempts).map (·.stored 7) =
        some (some (pbkdf2Record secretSalt secretKey)) ∧
      (passwordLogins twoPasswords).Everywhere (Kept twoPasswords legacyAda (bytes "secret")) legacyUsers adaAttempts ∧
      ∀ before attempt rest state, adaAttempts = before ++ attempt :: rest →
        (passwordLogins twoPasswords).run legacyUsers before = some state →
        Changes twoPasswords legacyAda state attempt →
        (passwordLogins twoPasswords).Everywhere (Settled twoPasswords legacyAda)
          (attempted twoPasswords state attempt) rest := by
  have tried : ∀ attempt ∈ adaAttempts, SecretOrWrong attempt.password := by
    unfold adaAttempts SecretOrWrong
    simp [adaAttempt]
  apply And.intro
  · decide
  · exact login_migration twoPasswords_ideal (Or.inl rfl) tried (by decide) rfl
      (List.mem_cons_of_mem _ List.mem_cons_self)

end ChatLoginHandler

end Chat
