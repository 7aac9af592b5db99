import HttpServerApps.Chat.PasswordHash
import HttpServerApps.Common.Lines

namespace Chat

open Common

/-! Hexadecimal text is read back. -/

theorem hexNibble_digit : ∀ n < 16, hexNibble (hexNibbleByte n) = some (UInt8.ofNat n) := by decide

theorem hexNibbleByte_ne_dollar : ∀ n < 16, hexNibbleByte n ≠ dollar := by decide

theorem joined_nibbles : ∀ n < 256, UInt8.ofNat (n / 16) <<< 4 ||| UInt8.ofNat (n % 16) = UInt8.ofNat n := by
  decide +kernel

theorem hexToBytes_toHex (data : Bytes) : hexToBytes (toHex data) = some data := by
  induction data with
  | nil => rfl
  | cons c data ih =>
    have bound : c.toNat < 256 := c.toNat_lt
    have high := hexNibble_digit (c.toNat / 16) (by omega)
    have low := hexNibble_digit (c.toNat % 16) (by omega)
    have joined := joined_nibbles c.toNat bound
    rw [UInt8.ofNat_toNat] at joined
    change hexToBytes (hexNibbleByte (c.toNat / 16) :: hexNibbleByte (c.toNat % 16) :: toHex data) = _
    simp only [hexToBytes, high, low, ih]
    exact congrArg (fun c => some (c :: data)) joined

theorem toHex_injective : Function.Injective toHex := by
  intro first second same
  have read := hexToBytes_toHex first
  rw [same, hexToBytes_toHex] at read
  exact (Option.some.inj read).symm

theorem dollar_not_mem_toHex (data : Bytes) : dollar ∉ toHex data := by
  intro member
  rcases List.mem_flatMap.mp member with ⟨c, _, digit⟩
  have bound : c.toNat < 256 := c.toNat_lt
  rcases List.mem_cons.mp digit with high | low
  · exact hexNibbleByte_ne_dollar (c.toNat / 16) (by omega) high.symm
  · exact hexNibbleByte_ne_dollar (c.toNat % 16) (by omega) (List.mem_singleton.mp low).symm

/-! The two forms of a stored password. -/

def legacyRecord (crypto : Crypto) (salt password : Bytes) : Bytes :=
  bytes "sha256$" ++ (salt ++ dollar :: sha256Hex crypto (salt ++ password))

def pbkdf2Record (salt key : Bytes) : Bytes :=
  bytes "pbkdf2_sha256$" ++ (bytes "310000" ++ dollar :: (toHex salt ++ dollar :: toHex key))

theorem sha256_marker : bytes "sha256$" = bytes "sha256" ++ [dollar] := by decide

theorem verifyLegacySha256_legacy {crypto : Crypto} {salt : Bytes} (whole : dollar ∉ salt) (plain password : Bytes) :
    verifyLegacySha256 crypto plain (legacyRecord crypto salt password) = true ↔
      crypto.sha256 (salt ++ plain) = crypto.sha256 (salt ++ password) := by
  have starts : (bytes "sha256$").isPrefixOf (legacyRecord crypto salt password) = true :=
    List.isPrefixOf_iff_prefix.mpr (List.prefix_append _ _)
  have first : splitFirst dollar (legacyRecord crypto salt password) =
      some (bytes "sha256", salt ++ dollar :: sha256Hex crypto (salt ++ password)) := by
    unfold legacyRecord
    rw [sha256_marker, List.append_assoc]
    exact splitFirst_append (by decide) _
  have second := splitFirst_append whole (sha256Hex crypto (salt ++ password))
  unfold verifyLegacySha256
  rw [if_pos starts, first]
  dsimp only
  rw [second]
  dsimp only
  rw [decide_eq_true_iff]
  apply Iff.intro
  · exact fun same => toHex_injective same
  · exact fun same => congrArg toHex same

theorem verifyPbkdf2_legacy (crypto : Crypto) (plain salt password : Bytes) :
    verifyPbkdf2 crypto plain (legacyRecord crypto salt password) = false := by
  have differs : (bytes "pbkdf2_sha256$").isPrefixOf (legacyRecord crypto salt password) = false := by
    have left : bytes "pbkdf2_sha256$" = 112 :: (bytes "bkdf2_sha256$") := by decide
    have right : bytes "sha256$" = 115 :: bytes "ha256$" := by decide
    unfold legacyRecord
    rw [left, right]
    rfl
  unfold verifyPbkdf2
  dsimp only
  rw [differs]
  rfl

theorem verifyLegacySha256_pbkdf2 (crypto : Crypto) (plain salt key : Bytes) :
    verifyLegacySha256 crypto plain (pbkdf2Record salt key) = false := by
  have differs : (bytes "sha256$").isPrefixOf (pbkdf2Record salt key) = false := by
    have left : bytes "pbkdf2_sha256$" = 112 :: (bytes "bkdf2_sha256$") := by decide
    have right : bytes "sha256$" = 115 :: bytes "ha256$" := by decide
    unfold pbkdf2Record
    rw [left, right]
    rfl
  unfold verifyLegacySha256
  rw [differs]
  rfl

/-- A generated record is parsed back into the salt, the key and the iterations it was made with. -/
theorem verifyPbkdf2_pbkdf2 {crypto : Crypto} {salt key : Bytes} (salted : salt ≠ [])
    (length : key.length = kDerivedKeyBytes) (plain : Bytes) :
    verifyPbkdf2 crypto plain (pbkdf2Record salt key) = true ↔
      crypto.pbkdf2 plain salt kPbkdf2Iterations = some key := by
  have starts : (bytes "pbkdf2_sha256$").isPrefixOf (pbkdf2Record salt key) = true :=
    List.isPrefixOf_iff_prefix.mpr (List.prefix_append _ _)
  have behind : (pbkdf2Record salt key).drop (bytes "pbkdf2_sha256$").length =
      bytes "310000" ++ dollar :: (toHex salt ++ dollar :: toHex key) := List.drop_left
  have first := @splitFirst_append dollar (bytes "310000") (by decide) (toHex salt ++ dollar :: toHex key)
  have second := splitFirst_append (dollar_not_mem_toHex salt) (toHex key)
  have number : stoi (bytes "310000") = .ok kPbkdf2Iterations := by decide
  have enough : ¬ kPbkdf2Iterations < 100000 := by decide
  have sized : ¬ (key.length ≠ kDerivedKeyBytes ∨ salt = []) := by
    rintro (other | empty)
    · exact other length
    · exact salted empty
  unfold verifyPbkdf2
  dsimp only
  rw [if_pos starts, behind, first]
  dsimp only
  rw [number]
  dsimp only
  rw [if_neg enough, second]
  dsimp only
  rw [hexToBytes_toHex, hexToBytes_toHex]
  dsimp only
  rw [if_neg sized]
  cases crypto.pbkdf2 plain salt kPbkdf2Iterations with
  | none => simp
  | some dk => simp

theorem hashPassword_record {crypto : Crypto} {salt key password : Bytes} (drawn : crypto.randBytes = some salt)
    (derived : crypto.pbkdf2 password salt kPbkdf2Iterations = some key) :
    hashPassword crypto password = .ok (pbkdf2Record salt key) := by
  have number : intText kPbkdf2Iterations.toInt = bytes "310000" := by decide
  have sign : bytes "$" = [dollar] := by decide
  unfold hashPassword pbkdf2Record
  rw [drawn]
  dsimp only
  rw [derived, number, sign]
  simp only [List.append_assoc, List.cons_append, List.nil_append]

theorem pbkdf2Record_ne_nil (salt key : Bytes) : pbkdf2Record salt key ≠ [] := by
  have left : bytes "pbkdf2_sha256$" = 112 :: (bytes "bkdf2_sha256$") := by decide
  unfold pbkdf2Record
  rw [left]
  nofun

/-! `verifyPassword` on either form. -/

theorem verifyPassword_legacy {crypto : Crypto} {salt password : Bytes} (whole : dollar ∉ salt) (plain : Bytes) :
    verifyPassword crypto plain (legacyRecord crypto salt password) =
      if crypto.sha256 (salt ++ plain) = crypto.sha256 (salt ++ password) then
        (hashPassword crypto plain).map fun upgraded => (true, upgraded)
      else .ok (false, []) := by
  unfold verifyPassword
  rw [verifyPbkdf2_legacy]
  by_cases same : crypto.sha256 (salt ++ plain) = crypto.sha256 (salt ++ password)
  · rw [if_pos same, if_pos ((verifyLegacySha256_legacy whole plain password).mpr same)]
    rfl
  · have refused := mt (verifyLegacySha256_legacy whole plain password).mp same
    rw [if_neg same, if_neg refused]
    rfl

theorem verifyPbkdf2_record {crypto : Crypto} {salt key : Bytes} (salted : salt ≠ [])
    (length : key.length = kDerivedKeyBytes) (plain : Bytes) :
    verifyPbkdf2 crypto plain (pbkdf2Record salt key) =
      decide (crypto.pbkdf2 plain salt kPbkdf2Iterations = some key) := by
  rw [Bool.eq_iff_iff, decide_eq_true_iff]
  exact verifyPbkdf2_pbkdf2 salted length plain

theorem verifyPassword_pbkdf2 {crypto : Crypto} {salt key : Bytes} (salted : salt ≠ [])
    (length : key.length = kDerivedKeyBytes) (plain : Bytes) :
    verifyPassword crypto plain (pbkdf2Record salt key) =
      .ok (decide (crypto.pbkdf2 plain salt kPbkdf2Iterations = some key), []) := by
  unfold verifyPassword
  rw [verifyPbkdf2_record salted length, verifyLegacySha256_pbkdf2]
  cases decide (crypto.pbkdf2 plain salt kPbkdf2Iterations = some key) <;> rfl

end Chat
