import HttpServerApps.Ssl.Outbound
import HttpServerApps.Ssl.Pieces

namespace Ssl.SslConnection

open Common OpenSSL

variable {Engine : Type}

/-- What a later state of a connection has kept: the calls made and the bytes decrypted. -/
structure Extends (before after : SslConnection Engine) : Prop where
  calls : before.calls <+: after.calls
  decrypted : before.decryptedBuffer <+: after.decryptedBuffer

theorem Extends.refl (conn : SslConnection Engine) : Extends conn conn :=
  ⟨List.prefix_refl _, List.prefix_refl _⟩

theorem Extends.trans {first second third : SslConnection Engine} (h1 : Extends first second)
    (h2 : Extends second third) : Extends first third :=
  ⟨h1.calls.trans h2.calls, h1.decrypted.trans h2.decrypted⟩

theorem extends_record (conn : SslConnection Engine) (call : Call) : Extends conn (conn.record call) :=
  ⟨List.prefix_append _ _, List.prefix_refl _⟩

theorem extends_setState (conn : SslConnection Engine) (state : SSLState) :
    Extends conn (conn.setState state) := ⟨List.prefix_refl _, List.prefix_refl _⟩

theorem extends_setPending (conn : SslConnection Engine) (pendingPlain : Bytes) :
    Extends conn (conn.setPending pendingPlain) := ⟨List.prefix_refl _, List.prefix_refl _⟩

theorem extends_setSsl (conn : SslConnection Engine) (ssl : Engine) : Extends conn (conn.setSsl ssl) :=
  ⟨List.prefix_refl _, List.prefix_refl _⟩

variable [OpenSSL Engine]

theorem kept_extends : Kept (@Extends Engine) where
  refl := Extends.refl
  trans := Extends.trans
  doHandshake conn := extends_setSsl conn _
  sslRead conn _ := extends_setSsl conn _
  sslWrite conn _ := extends_setSsl conn _
  bioRead conn _ := extends_setSsl conn _
  record := extends_record
  setPending := extends_setPending
  append _ _ := ⟨List.prefix_refl _, List.prefix_append _ _⟩
  error conn := extends_setState conn .ERROR
  established conn _ := extends_setState conn .ESTABLISHED

theorem extends_send (conn : SslConnection Engine) (data : Bytes) : Extends conn (conn.send data) :=
  kept_extends.send conn data

theorem extends_onWriteComplete (conn : SslConnection Engine) : Extends conn conn.onWriteComplete :=
  kept_extends.onWriteComplete conn

theorem extends_onRead (conn : SslConnection Engine) (buf : Bytes) : Extends conn (conn.onRead buf).1 :=
  kept_extends.onRead (fun conn _ => extends_setSsl conn _) conn buf

end Ssl.SslConnection
