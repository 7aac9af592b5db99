import HttpServerApps.Common.Bytes

namespace Ssl

open Common

/-- What `SSL_get_error` answers. -/
inductive ErrorCode where
  | none
  | wantRead
  | wantWrite
  | zeroReturn
  | syscall
  | ssl
  | other
  deriving DecidableEq

inductive HandshakeResult where
  | done
  | failed (err : ErrorCode)

/-- `negative` tells the return values below 0 from 0. -/
inductive ReadResult where
  | data (bytes : Bytes)
  | failed (negative : Bool) (err : ErrorCode)

/-- A positive return value accepts that many of the bytes offered, from the front. -/
inductive WriteResult where
  | accepted (n : Nat)
  | failed (err : ErrorCode)

/-- An SSL object with its two memory BIOs, as the calls to libssl show it. -/
class OpenSSL (Engine : Type) where
  doHandshake : Engine → HandshakeResult × Engine
  sslRead : Engine → Nat → ReadResult × Engine
  sslWrite : Engine → Bytes → WriteResult × Engine
  /-- `BIO_write` to the read BIO. -/
  bioWrite : Engine → Bytes → Int × Engine
  /-- `BIO_pending` of the write BIO. -/
  bioPending : Engine → Nat
  /-- `BIO_read` from the write BIO. -/
  bioRead : Engine → Nat → Bytes × Engine
  /-- A bound on how often `SSL_read` can still return data. -/
  unread : Engine → Nat
  sslWrite_bound : ∀ ssl offered n, (sslWrite ssl offered).1 = .accepted n → 0 < n ∧ n ≤ offered.length
  sslRead_unread : ∀ ssl size data, 0 < size → (sslRead ssl size).1 = .data data →
    data ≠ [] ∧ unread (sslRead ssl size).2 < unread ssl
  bioRead_pending : ∀ ssl size,
    bioPending (bioRead ssl size).2 + (bioRead ssl size).1.length = bioPending ssl

/-! A server's engine whose peer is no TLS client. -/

def unexpectedMessageAlert : Bytes := [21, 3, 3, 0, 2, 2, 10]

/-- What the record layer makes of the first record: it refuses it, with the alert it writes, or wants
    more. It looks at nothing before the five bytes of the header; handshake records are not followed. -/
def firstRecord : Bytes → Option Bytes
  | contentType :: major :: _ :: high :: low :: payload =>
    -- plain HTTP comes here, and is refused without an alert
    if major ≠ 3 then some []
    else if payload.length < 256 * high.toNat + low.toNat then none
    else if contentType = 23 then some unexpectedMessageAlert
    else none
  | _ => none

structure Stranger where
  received : Bytes := []
  pending : Bytes := []
  refused : Bool := false

instance : OpenSSL Stranger where
  doHandshake ssl :=
    if ssl.refused then (.failed .ssl, ssl)
    else match firstRecord ssl.received with
      | some alert => (.failed .ssl, { ssl with pending := ssl.pending ++ alert, refused := true })
      | none => (.failed .wantRead, ssl)
  sslRead ssl _ := (.failed true .ssl, ssl)
  sslWrite ssl _ := (.failed .ssl, ssl)
  bioWrite ssl data := (data.length, { ssl with received := ssl.received ++ data })
  bioPending ssl := ssl.pending.length
  bioRead ssl size := (ssl.pending.take size, { ssl with pending := ssl.pending.drop size })
  unread _ := 0
  sslWrite_bound _ _ _ := nofun
  sslRead_unread _ _ _ _ := nofun
  bioRead_pending ssl size := by
    rw [Nat.add_comm, ← List.length_append, List.take_append_drop]

end Ssl
