import HttpServerApps.Common.Decimal

namespace Chat

open Common

/-- The functions of libcrypto that the password code calls; `none` where one reports failure. -/
structure Crypto where
  sha256 : Bytes → Bytes
  pbkdf2 : (password salt : Bytes) → (iterations : Int32) → Option Bytes
  randBytes : Option Bytes

def kPbkdf2Iterations : Int32 := 310000
def kSaltBytes : Nat := 16
def kDerivedKeyBytes : Nat := 32

def dollar : UInt8 := 36

def hexNibbleByte (n : Nat) : UInt8 := if n < 10 then digitByte n else UInt8.ofNat (87 + n)

def toHex (data : Bytes) : Bytes :=
  data.flatMap fun c => [hexNibbleByte (c.toNat / 16), hexNibbleByte (c.toNat % 16)]

def hexNibble (c : UInt8) : Option UInt8 :=
  if 48 ≤ c ∧ c ≤ 57 then some (c - 48)
  else if 97 ≤ c ∧ c ≤ 102 then some (c - 97 + 10)
  else if 65 ≤ c ∧ c ≤ 70 then some (c - 65 + 10)
  else none

/-- `none` for an odd length or a character that is no hex digit. -/
def hexToBytes : Bytes → Option Bytes
  | [] => some []
  | [_] => none
  | high :: low :: rest => do
    let hi ← hexNibble high
    let lo ← hexNibble low
    let out ← hexToBytes rest
    return (hi <<< 4 ||| lo) :: out

def sha256Hex (crypto : Crypto) (input : Bytes) : Bytes := toHex (crypto.sha256 input)

def verifyLegacySha256 (crypto : Crypto) (plain stored : Bytes) : Bool :=
  if (bytes "sha256$").isPrefixOf stored then
    match splitFirst dollar stored with
    | none => false
    | some (_, afterFirst) =>
      match splitFirst dollar afterFirst with
      | none => false
      | some (saltHex, hashHex) => sha256Hex crypto (saltHex ++ plain) = hashHex
  else false

def verifyPbkdf2 (crypto : Crypto) (plain stored : Bytes) : Bool :=
  let kPrefix := bytes "pbkdf2_sha256$"
  if kPrefix.isPrefixOf stored then
    match splitFirst dollar (stored.drop kPrefix.length) with
    | none => false
    | some (iterationsText, afterIterations) =>
      match stoi iterationsText with
      | .error _ => false
      | .ok iterations =>
        if iterations < 100000 then false
        else
          match splitFirst dollar afterIterations with
          | none => false
          | some (saltHex, dkHex) =>
            match hexToBytes saltHex, hexToBytes dkHex with
            | some salt, some expected =>
              if expected.length ≠ kDerivedKeyBytes ∨ salt = [] then false
              else
                match crypto.pbkdf2 plain salt iterations with
                | some dk => dk = expected
                | none => false
            | _, _ => false
  else false

def hashPassword (crypto : Crypto) (password : Bytes) : Except Bytes Bytes :=
  match crypto.randBytes with
  | none => .error (bytes "Failed to generate password salt")
  | some salt =>
    match crypto.pbkdf2 password salt kPbkdf2Iterations with
    | none => .error (bytes "PBKDF2 failed")
    | some dk =>
      .ok (bytes "pbkdf2_sha256$" ++ intText kPbkdf2Iterations.toInt ++ bytes "$" ++ toHex salt ++
        bytes "$" ++ toHex dk)

/-- The verdict and what is written to `upgraded_out`. -/
def verifyPassword (crypto : Crypto) (plain stored : Bytes) : Except Bytes (Bool × Bytes) :=
  if verifyPbkdf2 crypto plain stored then .ok (true, [])
  else if verifyLegacySha256 crypto plain stored then
    (hashPassword crypto plain).map fun upgraded => (true, upgraded)
  else .ok (false, [])

end Chat
