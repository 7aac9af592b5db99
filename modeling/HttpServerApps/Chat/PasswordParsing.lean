import HttpServerApps.Chat.PasswordRecords
import HttpServerApps.Http.Request

namespace Chat.ByPosition

open Common
open Http (findFrom findFrom_eq cut_drop)

/-! The password code with its positions into the stored text and its exceptions. -/

inductive Thrown where
  /-- `std::out_of_range` of `substr`. -/
  | outOfRange
  /-- `std::invalid_argument` or `std::out_of_range` of `stoi`. -/
  | stoi
  | runtimeError (what : Bytes)
  deriving DecidableEq

def substr (text : Bytes) (pos count : Nat) : Except Thrown Bytes :=
  (Http.substr text pos count).mapError fun _ => .outOfRange

def substrFrom (text : Bytes) (pos : Nat) : Except Thrown Bytes :=
  (Http.substrFrom text pos).mapError fun _ => .outOfRange

/-- `found + 1` for what `find` returns; `npos + 1` is 0. -/
def behind : Option Nat → Nat
  | none => 0
  | some pos => pos + 1

def verifyLegacySha256 (crypto : Crypto) (plain stored : Bytes) : Except Thrown Bool :=
  let kPrefix := bytes "sha256$"
  if kPrefix.isPrefixOf stored then
    let first := findFrom stored dollar 0
    match findFrom stored dollar (behind first) with
    | none => .ok false
    | some second => do
      let saltHex ← substr stored (behind first) (second - behind first)
      let hashHex ← substrFrom stored (second + 1)
      return sha256Hex crypto (saltHex ++ plain) = hashHex
  else .ok false

/-- The body of the `try` around `stoi`. -/
def readIterations (stored : Bytes) (afterPrefix d1 : Nat) : Except Thrown Int32 := do
  let text ← substr stored afterPrefix (d1 - afterPrefix)
  (Common.stoi text).mapError fun _ => .stoi

def verifyPbkdf2 (crypto : Crypto) (plain stored : Bytes) : Except Thrown Bool :=
  let kPrefix := bytes "pbkdf2_sha256$"
  if kPrefix.isPrefixOf stored then
    let afterPrefix := kPrefix.length
    match findFrom stored dollar afterPrefix with
    | none => .ok false
    | some d1 =>
      match readIterations stored afterPrefix d1 with
      | .error _ => .ok false
      | .ok iterations =>
        if iterations < 100000 then .ok false
        else
          match findFrom stored dollar (d1 + 1) with
          | none => .ok false
          | some d2 => do
            let saltHex ← substr stored (d1 + 1) (d2 - d1 - 1)
            let dkHex ← substrFrom stored (d2 + 1)
            match hexToBytes saltHex, hexToBytes dkHex with
            | some salt, some expected =>
              if expected.length ≠ kDerivedKeyBytes ∨ salt = [] then return false
              else
                match crypto.pbkdf2 plain salt iterations with
                | some dk => return dk = expected
                | none => return false
            | _, _ => return false
  else .ok false

def hashPassword (crypto : Crypto) (password : Bytes) : Except Thrown Bytes :=
  (Chat.hashPassword crypto password).mapError .runtimeError

/-- The verdict and what is written to `upgraded_out`, when the caller gave one. -/
def verifyPassword (crypto : Crypto) (plain stored : Bytes) (upgradedOut : Bool) :
    Except Thrown (Bool × Option Bytes) := do
  if ← verifyPbkdf2 crypto plain stored then return (true, none)
  if ← verifyLegacySha256 crypto plain stored then
    if upgradedOut then
      let upgraded ← hashPassword crypto plain
      return (true, some upgraded)
    else return (true, none)
  else return (false, none)

/-! No `substr` is out of range, and `stoi` only throws where it is caught. -/

section Cut

variable {stored before after : Bytes} {start : Nat} (cut : splitFirst dollar (stored.drop start) = some (before, after))

include cut

theorem findFrom_cut : findFrom stored dollar start = some (start + before.length) := by
  rw [findFrom_eq, cut]
  rfl

theorem substr_cut : substr stored start before.length = .ok before := by
  rcases cut_drop cut with ⟨taken, _, bound⟩
  have inside : start ≤ stored.length := by omega
  unfold substr
  rw [Http.substr_ok inside, taken]
  rfl

theorem substrFrom_cut : substrFrom stored (start + before.length + 1) = .ok after := by
  rcases cut_drop cut with ⟨_, dropped, bound⟩
  unfold substrFrom
  rw [Http.substrFrom_ok (by omega), dropped]
  rfl

theorem drop_cut : stored.drop (start + before.length + 1) = after := (cut_drop cut).2.1

end Cut

theorem findFrom_uncut {stored : Bytes} {start : Nat} (uncut : splitFirst dollar (stored.drop start) = none) :
    findFrom stored dollar start = none := by
  rw [findFrom_eq, uncut]
  rfl

theorem verifyLegacySha256_eq (crypto : Crypto) (plain stored : Bytes) :
    verifyLegacySha256 crypto plain stored = .ok (Chat.verifyLegacySha256 crypto plain stored) := by
  unfold verifyLegacySha256 Chat.verifyLegacySha256
  by_cases starts : (bytes "sha256$").isPrefixOf stored = true
  · simp only [if_pos starts]
    rcases List.isPrefixOf_iff_prefix.mp starts with ⟨rest, shape⟩
    have first : splitFirst dollar stored = some (bytes "sha256", rest) := by
      rw [← shape, sha256_marker, List.append_assoc]
      exact splitFirst_append (by decide) rest
    have firstDropped : splitFirst dollar (stored.drop 0) = some (bytes "sha256", rest) := first
    have found := findFrom_cut firstDropped
    have dropped := drop_cut firstDropped
    rw [found, first]
    dsimp only [behind]
    cases second : splitFirst dollar rest with
    | none =>
      rw [← dropped] at second
      rw [findFrom_uncut second]
    | some cut =>
      rcases cut with ⟨saltHex, hashHex⟩
      rw [← dropped] at second
      rw [findFrom_cut second]
      dsimp only
      rw [Nat.add_sub_cancel_left, substr_cut second, substrFrom_cut second]
      rfl
  · simp only [if_neg starts]

theorem verifyPbkdf2_eq (crypto : Crypto) (plain stored : Bytes) :
    verifyPbkdf2 crypto plain stored = .ok (Chat.verifyPbkdf2 crypto plain stored) := by
  unfold verifyPbkdf2 Chat.verifyPbkdf2
  by_cases starts : (bytes "pbkdf2_sha256$").isPrefixOf stored = true
  · simp only [if_pos starts]
    generalize (bytes "pbkdf2_sha256$").length = afterPrefix
    cases first : splitFirst dollar (stored.drop afterPrefix) with
    | none => rw [findFrom_uncut first]
    | some cut =>
      rcases cut with ⟨iterationsText, afterIterations⟩
      have reads : readIterations stored afterPrefix (afterPrefix + iterationsText.length) =
          (Common.stoi iterationsText).mapError fun _ => .stoi := by
        unfold readIterations
        rw [Nat.add_sub_cancel_left, substr_cut first]
        rfl
      rw [findFrom_cut first]
      dsimp only
      rw [reads]
      cases Common.stoi iterationsText with
      | error _ => rfl
      | ok iterations =>
        dsimp only [Except.mapError]
        by_cases few : iterations < 100000
        · rw [if_pos few, if_pos few]
        · rw [if_neg few, if_neg few]
          have dropped := drop_cut first
          generalize afterPrefix + iterationsText.length = d1 at dropped
          cases second : splitFirst dollar afterIterations with
          | none =>
            rw [← dropped] at second
            rw [findFrom_uncut second]
          | some cut =>
            rcases cut with ⟨saltHex, dkHex⟩
            rw [← dropped] at second
            rw [findFrom_cut second]
            dsimp only
            have count : d1 + 1 + saltHex.length - d1 - 1 = saltHex.length := by omega
            rw [count, substr_cut second, substrFrom_cut second]
            change (match hexToBytes saltHex, hexToBytes dkHex with
              | some salt, some expected => _
              | _, _ => _) = _
            cases hexToBytes saltHex with
            | none => rfl
            | some salt =>
              cases hexToBytes dkHex with
              | none => rfl
              | some expected =>
                dsimp only
                by_cases sized : expected.length ≠ kDerivedKeyBytes ∨ salt = []
                · rw [if_pos sized, if_pos sized]
                  rfl
                · rw [if_neg sized, if_neg sized]
                  cases crypto.pbkdf2 plain salt iterations with
                  | none => rfl
                  | some dk => rfl
  · simp only [if_neg starts]

/-- The verdict follows the two parsers; only an upgrade that fails throws. -/
theorem verifyPassword_eq (crypto : Crypto) (plain stored : Bytes) (upgradedOut : Bool) :
    verifyPassword crypto plain stored upgradedOut =
      if Chat.verifyPbkdf2 crypto plain stored then .ok (true, none)
      else if Chat.verifyLegacySha256 crypto plain stored then
        if upgradedOut then (hashPassword crypto plain).map fun upgraded => (true, some upgraded)
        else .ok (true, none)
      else .ok (false, none) := by
  unfold verifyPassword
  rw [verifyPbkdf2_eq, verifyLegacySha256_eq]
  cases Chat.verifyPbkdf2 crypto plain stored with
  | true => rfl
  | false =>
    cases Chat.verifyLegacySha256 crypto plain stored with
    | false => rfl
    | true =>
      cases upgradedOut with
      | false => rfl
      | true => cases hashPassword crypto plain <;> rfl

/-! The fields of a record that is accepted. -/

def hexDigits : Bytes := bytes "0123456789abcdefABCDEF"

def IsHex (text : Bytes) : Prop := ∀ c ∈ text, c ∈ hexDigits

/-- The text is read as a decimal number that is at least `least`. -/
def Counts (text : Bytes) (least : Nat) : Prop :=
  ∃ blanks sign digits rest, text = blanks ++ (sign ++ (digits ++ rest)) ∧ (∀ c ∈ blanks, isspace c = true) ∧
    (sign = [] ∨ sign = [43]) ∧ (∀ c ∈ digits, isdigit c = true) ∧ least ≤ decimalValue digits

structure Pbkdf2Fields (stored iterations saltHex dkHex : Bytes) : Prop where
  text : stored = bytes "pbkdf2_sha256$" ++ (iterations ++ dollar :: (saltHex ++ dollar :: dkHex))
  whole : dollar ∉ iterations ∧ dollar ∉ saltHex ∧ dollar ∉ dkHex
  count : Counts iterations 100000
  salt : saltHex ≠ [] ∧ saltHex.length % 2 = 0 ∧ IsHex saltHex
  key : dkHex.length = 64 ∧ IsHex dkHex

structure LegacyFields (crypto : Crypto) (plain stored salt hashHex : Bytes) : Prop where
  text : stored = bytes "sha256$" ++ (salt ++ dollar :: hashHex)
  whole : dollar ∉ salt
  hash : hashHex = sha256Hex crypto (salt ++ plain)

theorem hexNibble_isSome : ∀ n < 256, (hexNibble (UInt8.ofNat n)).isSome = true → UInt8.ofNat n ∈ hexDigits := by
  decide +kernel

theorem hexNibble_some {c hi : UInt8} (read : hexNibble c = some hi) : c ∈ hexDigits := by
  have known := hexNibble_isSome c.toNat c.toNat_lt
  rw [UInt8.ofNat_toNat] at known
  apply known
  rw [read]
  rfl

theorem dollar_not_hex : dollar ∉ hexDigits := by decide

theorem IsHex.no_dollar {text : Bytes} (hex : IsHex text) : dollar ∉ text := by
  intro member
  exact dollar_not_hex (hex dollar member)

/-- By the recursion of the reader, two characters at a time. -/
theorem hexToBytes_some {hex out : Bytes} (read : hexToBytes hex = some out) :
    hex.length = 2 * out.length ∧ IsHex hex := by
  induction hex using hexToBytes.induct generalizing out with
  | case1 =>
    cases read
    exact ⟨rfl, nofun⟩
  | case2 c => cases read
  | case3 high low rest ih =>
    rw [hexToBytes] at read
    rcases Option.bind_eq_some_iff.mp read with ⟨hi, highRead, read⟩
    rcases Option.bind_eq_some_iff.mp read with ⟨lo, lowRead, read⟩
    rcases Option.bind_eq_some_iff.mp read with ⟨later, restRead, read⟩
    cases read
    rcases ih restRead with ⟨length, digits⟩
    apply And.intro
    · simp only [List.length_cons]
      omega
    · intro c member
      rcases List.mem_cons.mp member with rfl | member
      · exact hexNibble_some highRead
      rcases List.mem_cons.mp member with rfl | member
      · exact hexNibble_some lowRead
      · exact digits c member

theorem stoi_counts {text : Bytes} {iterations : Int32} (read : Common.stoi text = .ok iterations)
    (enough : ¬ iterations < 100000) : Counts text 100000 := by
  have least : (100000 : Int32) ≤ iterations := Int32.not_lt.mp enough
  have above : 100000 ≤ iterations.toInt := Int32.le_iff_toInt_le.mp least
  have positive : 0 < iterations := Int32.lt_iff_toInt_lt.mpr (show 0 < iterations.toInt by omega)
  rcases stoi_positive read positive with ⟨blanks, sign, digits, rest, shape, blank, signs, decimal, value⟩
  exact ⟨blanks, sign, digits, rest, shape, blank, signs, decimal, by omega⟩

theorem verifyPbkdf2_fields {crypto : Crypto} {plain stored : Bytes}
    (accepted : Chat.verifyPbkdf2 crypto plain stored = true) :
    ∃ iterations saltHex dkHex, Pbkdf2Fields stored iterations saltHex dkHex := by
  unfold Chat.verifyPbkdf2 at accepted
  dsimp only at accepted
  split at accepted
  swap
  · cases accepted
  rename_i starts
  split at accepted
  · cases accepted
  rename_i iterations afterIterations first
  split at accepted
  · cases accepted
  rename_i number read
  split at accepted
  · cases accepted
  rename_i enough
  split at accepted
  · cases accepted
  rename_i saltHex dkHex second
  split at accepted
  swap
  · cases accepted
  rename_i salt expected saltRead keyRead
  split at accepted
  · cases accepted
  rename_i sized
  have filled : expected.length = kDerivedKeyBytes := by
    by_contra other
    exact sized (Or.inl other)
  have salted : salt ≠ [] := fun empty => sized (Or.inr empty)
  rcases List.isPrefixOf_iff_prefix.mp starts with ⟨behindPrefix, shape⟩
  rw [← shape, List.drop_left] at first
  rcases splitFirst_some first with ⟨firstShape, noDollar⟩
  rcases splitFirst_some second with ⟨secondShape, noDollarToo⟩
  rcases hexToBytes_some saltRead with ⟨saltLength, saltHexDigits⟩
  rcases hexToBytes_some keyRead with ⟨keyLength, keyHexDigits⟩
  refine ⟨iterations, saltHex, dkHex, ?_⟩
  exact
    { text := by rw [← shape, firstShape, secondShape]
      whole := ⟨noDollar, noDollarToo, keyHexDigits.no_dollar⟩
      count := stoi_counts read enough
      salt := by
        refine ⟨?_, by omega, saltHexDigits⟩
        intro empty
        rw [empty] at saltLength
        exact salted (List.length_eq_zero_iff.mp (by simpa using saltLength.symm))
      key := by
        unfold kDerivedKeyBytes at filled
        exact ⟨by omega, keyHexDigits⟩ }

theorem verifyLegacySha256_fields {crypto : Crypto} {plain stored : Bytes}
    (accepted : Chat.verifyLegacySha256 crypto plain stored = true) :
    ∃ salt hashHex, LegacyFields crypto plain stored salt hashHex := by
  unfold Chat.verifyLegacySha256 at accepted
  split at accepted
  swap
  · cases accepted
  rename_i starts
  split at accepted
  · cases accepted
  rename_i marker afterFirst first
  split at accepted
  · cases accepted
  rename_i salt hashHex second
  rcases List.isPrefixOf_iff_prefix.mp starts with ⟨rest, shape⟩
  have marked : splitFirst dollar stored = some (bytes "sha256", rest) := by
    rw [← shape, sha256_marker, List.append_assoc]
    exact splitFirst_append (by decide) rest
  rw [marked] at first
  cases first
  rcases splitFirst_some second with ⟨secondShape, noDollar⟩
  refine ⟨salt, hashHex, ?_⟩
  exact
    { text := by rw [← shape, secondShape]
      whole := noDollar
      hash := (of_decide_eq_true accepted).symm }

/-! PBKDF2 as a total function. -/

abbrev KeyDerivation := (password salt : Bytes) → (iterations : Int32) → {key : Bytes // key.length = kDerivedKeyBytes}

/-- A library whose PBKDF2 always succeeds and whose next random bytes are `salt`. -/
def library (sha256 : Bytes → Bytes) (kdf : KeyDerivation) (salt : {salt : Bytes // salt.length = kSaltBytes}) :
    Crypto where
  sha256 := sha256
  pbkdf2 password salt iterations := some (kdf password salt iterations).val
  randBytes := some salt.val

theorem hashPassword_library (sha256 : Bytes → Bytes) (kdf : KeyDerivation)
    (salt : {salt : Bytes // salt.length = kSaltBytes}) (password : Bytes) :
    hashPassword (library sha256 kdf salt) password =
      .ok (pbkdf2Record salt.val (kdf password salt.val kPbkdf2Iterations).val) := by
  have record := @hashPassword_record (library sha256 kdf salt) salt.val
    (kdf password salt.val kPbkdf2Iterations).val password rfl rfl
  unfold hashPassword
  rw [record]
  rfl

theorem verifyPassword_record {crypto : Crypto} {salt key : Bytes} (salted : salt ≠ [])
    (length : key.length = kDerivedKeyBytes) (plain : Bytes) (upgradedOut : Bool) :
    verifyPassword crypto plain (pbkdf2Record salt key) upgradedOut =
      .ok (decide (crypto.pbkdf2 plain salt kPbkdf2Iterations = some key), none) := by
  rw [verifyPassword_eq, verifyPbkdf2_record salted length, verifyLegacySha256_pbkdf2]
  cases decide (crypto.pbkdf2 plain salt kPbkdf2Iterations = some key) <;> rfl

theorem verifyPassword_throws {crypto : Crypto} {plain stored : Bytes} {upgradedOut : Bool} {thrown : Thrown}
    (throws : verifyPassword crypto plain stored upgradedOut = .error thrown) :
    ∃ what, thrown = .runtimeError what := by
  rw [verifyPassword_eq] at throws
  split at throws
  · cases throws
  split at throws
  swap
  · cases throws
  split at throws
  swap
  · cases throws
  unfold hashPassword at throws
  cases hashed : Chat.hashPassword crypto plain with
  | ok upgraded =>
    rw [hashed] at throws
    cases throws
  | error what =>
    rw [hashed] at throws
    cases throws
    exact ⟨what, rfl⟩

theorem verifyPassword_accepts {crypto : Crypto} {plain stored : Bytes} {upgradedOut : Bool}
    {upgraded : Option Bytes} (accepted : verifyPassword crypto plain stored upgradedOut = .ok (true, upgraded)) :
    (∃ iterations saltHex dkHex, Pbkdf2Fields stored iterations saltHex dkHex) ∨
      ∃ salt hashHex, LegacyFields crypto plain stored salt hashHex := by
  rw [verifyPassword_eq] at accepted
  by_cases modern : Chat.verifyPbkdf2 crypto plain stored = true
  · exact Or.inl (verifyPbkdf2_fields modern)
  rw [if_neg modern] at accepted
  by_cases legacy : Chat.verifyLegacySha256 crypto plain stored = true
  · exact Or.inr (verifyLegacySha256_fields legacy)
  · rw [if_neg legacy] at accepted
    cases accepted

/-- Exactly the passwords with the same derived key match a generated record, and no stored text
    makes the parsers throw or accept without the fields of a record. -/
theorem passwords_consistent :
    (∀ (sha256 : Bytes → Bytes) (kdf : KeyDerivation) (salt : {salt : Bytes // salt.length = kSaltBytes})
      (password : Bytes), ∃ stored, hashPassword (library sha256 kdf salt) password = .ok stored ∧
        ∀ (drawn : {salt : Bytes // salt.length = kSaltBytes}) (plain : Bytes) (upgradedOut : Bool),
          verifyPassword (library sha256 kdf drawn) plain stored upgradedOut =
            .ok (decide (kdf plain salt.val kPbkdf2Iterations = kdf password salt.val kPbkdf2Iterations), none)) ∧
    ∀ (crypto : Crypto) (plain stored : Bytes) (upgradedOut : Bool),
      (∀ thrown, verifyPassword crypto plain stored upgradedOut = .error thrown →
        ∃ what, thrown = .runtimeError what) ∧
      ∀ upgraded, verifyPassword crypto plain stored upgradedOut = .ok (true, upgraded) →
        (∃ iterations saltHex dkHex, Pbkdf2Fields stored iterations saltHex dkHex) ∨
          ∃ salt hashHex, LegacyFields crypto plain stored salt hashHex := by
  apply And.intro
  · intro sha256 kdf salt password
    have salted : salt.val ≠ [] := by
      intro empty
      have length := salt.property
      rw [empty] at length
      cases length
    refine ⟨_, hashPassword_library sha256 kdf salt password, ?_⟩
    intro drawn plain upgradedOut
    have same : (library sha256 kdf drawn).pbkdf2 plain salt.val kPbkdf2Iterations =
          some (kdf password salt.val kPbkdf2Iterations).val ↔
        kdf plain salt.val kPbkdf2Iterations = kdf password salt.val kPbkdf2Iterations := by
      apply Iff.intro
      · exact fun read => Subtype.ext (Option.some.inj read)
      · intro same
        show some (kdf plain salt.val kPbkdf2Iterations).val = _
        rw [same]
    rw [verifyPassword_record salted (kdf password salt.val kPbkdf2Iterations).property]
    congr 2
    exact decide_eq_decide.mpr same
  · intro crypto plain stored upgradedOut
    exact ⟨fun _ => verifyPassword_throws, fun _ => verifyPassword_accepts⟩

end Chat.ByPosition
