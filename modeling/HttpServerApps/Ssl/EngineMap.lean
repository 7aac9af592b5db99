import HttpServerApps.Ssl.Connection

namespace Ssl

open Common OpenSSL

/-- A map between engines that no call to libssl tells apart. -/
structure EngineMap (Engine Other : Type) [OpenSSL Engine] [OpenSSL Other] where
  map : Engine → Other
  doHandshake : ∀ ssl, OpenSSL.doHandshake (map ssl) = ((OpenSSL.doHandshake ssl).1, map (OpenSSL.doHandshake ssl).2)
  sslRead : ∀ ssl size,
    OpenSSL.sslRead (map ssl) size = ((OpenSSL.sslRead ssl size).1, map (OpenSSL.sslRead ssl size).2)
  sslWrite : ∀ ssl offered,
    OpenSSL.sslWrite (map ssl) offered = ((OpenSSL.sslWrite ssl offered).1, map (OpenSSL.sslWrite ssl offered).2)
  bioWrite : ∀ ssl data,
    OpenSSL.bioWrite (map ssl) data = ((OpenSSL.bioWrite ssl data).1, map (OpenSSL.bioWrite ssl data).2)
  bioPending : ∀ ssl, OpenSSL.bioPending (map ssl) = OpenSSL.bioPending ssl
  bioRead : ∀ ssl size,
    OpenSSL.bioRead (map ssl) size = ((OpenSSL.bioRead ssl size).1, map (OpenSSL.bioRead ssl size).2)
  unread : ∀ ssl, OpenSSL.unread (map ssl) = OpenSSL.unread ssl

namespace SslConnection

variable {Engine Other : Type}

def onEngine (map : Engine → Other) (conn : SslConnection Engine) : SslConnection Other :=
  { ssl := map conn.ssl, state := conn.state, decryptedBuffer := conn.decryptedBuffer
    pendingPlain := conn.pendingPlain, calls := conn.calls }

variable [OpenSSL Engine] [OpenSSL Other] (view : EngineMap Engine Other)

theorem onEngine_flush (conn : SslConnection Engine) :
    conn.flushWriteBio.onEngine view.map = (conn.onEngine view.map).flushWriteBio := by
  have loop : ∀ (fuel : Nat) (conn : SslConnection Engine),
      (flushLoop fuel conn).onEngine view.map = flushLoop fuel (conn.onEngine view.map) := by
    intro fuel
    induction fuel with
    | zero => exact fun _ => rfl
    | succ fuel ih =>
      intro conn
      have pending : bioPending (conn.onEngine view.map).ssl = bioPending conn.ssl := view.bioPending conn.ssl
      have read : bioRead (conn.onEngine view.map).ssl (min (bioPending conn.ssl) 4096) = _ := view.bioRead conn.ssl _
      simp only [flushLoop, pending, read]
      split
      · split
        · exact ih _
        · rfl
      · rfl
  have pending : bioPending (conn.onEngine view.map).ssl = bioPending conn.ssl := view.bioPending conn.ssl
  unfold flushWriteBio
  rw [pending]
  exact loop _ conn

theorem onEngine_feedLoop (fuel : Nat) (conn : SslConnection Engine) (data : Bytes) :
    feedLoop fuel (conn.onEngine view.map) data =
      ((feedLoop fuel conn data).1.onEngine view.map, (feedLoop fuel conn data).2) := by
  induction fuel generalizing conn data with
  | zero => rfl
  | succ fuel ih =>
    have written : bioWrite (conn.onEngine view.map).ssl (data.take INT_MAX) = _ := view.bioWrite conn.ssl _
    simp only [feedLoop, written]
    split
    · rfl
    · split
      · have fatal := onEngine_flush view ((conn.setSsl (bioWrite conn.ssl (data.take INT_MAX)).2).setState .ERROR)
        exact congrArg (fun conn : SslConnection Other => (conn.record .connShutdown, false)) fatal.symm
      · exact ih (conn.setSsl (bioWrite conn.ssl (data.take INT_MAX)).2) _

theorem onEngine_handshake (conn : SslConnection Engine) :
    conn.handleHandshake.onEngine view.map = (conn.onEngine view.map).handleHandshake := by
  have called : doHandshake (conn.onEngine view.map).ssl = _ := view.doHandshake conn.ssl
  simp only [handleHandshake, called]
  split
  all_goals exact onEngine_flush view _

theorem onEngine_write (conn : SslConnection Engine) (offered : Bytes) :
    (conn.onEngine view.map).write offered = ((conn.write offered).1, (conn.write offered).2.onEngine view.map) := by
  have called : sslWrite (conn.onEngine view.map).ssl offered = _ := view.sslWrite conn.ssl offered
  simp only [write, called]
  rfl

theorem onEngine_drainFailed (conn : SslConnection Engine) (err : ErrorCode) :
    (conn.drainFailed err).onEngine view.map = (conn.onEngine view.map).drainFailed err := by
  unfold drainFailed
  split
  · exact onEngine_flush view conn
  · exact onEngine_flush view conn
  · exact onEngine_flush view (conn.setPending [])
  · have fatal := onEngine_flush view ((conn.setPending []).setState .ERROR)
    exact congrArg (·.record .connShutdown) fatal

theorem onEngine_drainLoop (spins : Nat) (conn : SslConnection Engine) :
    (drainLoop spins conn).onEngine view.map = drainLoop spins (conn.onEngine view.map) := by
  induction spins generalizing conn with
  | zero =>
    have same : (conn.onEngine view.map).pendingPlain = conn.pendingPlain := rfl
    unfold drainLoop
    rw [same]
    split
    · rfl
    · exact onEngine_flush view conn
  | succ spins ih =>
    have same : (conn.onEngine view.map).pendingPlain = conn.pendingPlain := rfl
    unfold drainLoop
    rw [same, onEngine_write]
    split
    · exact onEngine_flush view conn
    · rcases conn.write (conn.pendingPlain.take INT_MAX) with ⟨result, next⟩
      cases result with
      | accepted n =>
        have flushed := onEngine_flush view (next.setPending (next.pendingPlain.drop n))
        exact (ih _).trans (congrArg (drainLoop spins) flushed)
      | failed err => exact onEngine_drainFailed view next err

theorem onEngine_drain (conn : SslConnection Engine) :
    conn.drainPendingPlain.onEngine view.map = (conn.onEngine view.map).drainPendingPlain := by
  have same : (conn.onEngine view.map).state = conn.state := rfl
  unfold drainPendingPlain
  rw [same]
  split
  · rfl
  · exact onEngine_drainLoop view kMaxSpins conn

theorem onEngine_sendFailed (conn : SslConnection Engine) (err : ErrorCode) (data : Bytes) :
    (conn.sendFailed err data).onEngine view.map = (conn.onEngine view.map).sendFailed err data := by
  have suspended : ((conn.flushWriteBio.setPending (conn.pendingPlain ++ data)).drainPendingPlain).onEngine view.map =
      ((conn.onEngine view.map).flushWriteBio.setPending (conn.pendingPlain ++ data)).drainPendingPlain := by
    rw [onEngine_drain]
    have flushed := onEngine_flush view conn
    exact congrArg (fun after : SslConnection Other =>
      (after.setPending (conn.pendingPlain ++ data)).drainPendingPlain) flushed
  unfold sendFailed
  split
  · exact suspended
  · exact suspended
  · exact onEngine_flush view conn
  · have fatal := onEngine_flush view ((conn.setPending []).setState .ERROR)
    exact congrArg (·.record .connShutdown) fatal

theorem onEngine_sendLoop (fuel : Nat) (conn : SslConnection Engine) (data : Bytes) :
    (sendLoop fuel conn data).onEngine view.map = sendLoop fuel (conn.onEngine view.map) data := by
  induction fuel generalizing conn data with
  | zero => exact onEngine_flush view conn
  | succ fuel ih =>
    unfold sendLoop
    rw [onEngine_write]
    split
    · exact onEngine_flush view conn
    · rcases conn.write (data.take INT_MAX) with ⟨result, next⟩
      cases result with
      | accepted n =>
        have flushed := onEngine_flush view next
        exact (ih _ _).trans (congrArg (fun after => sendLoop fuel after (data.drop n)) flushed)
      | failed err => exact onEngine_sendFailed view next err data

theorem onEngine_send (conn : SslConnection Engine) (data : Bytes) :
    (conn.send data).onEngine view.map = (conn.onEngine view.map).send data := by
  have same : (conn.onEngine view.map).state = conn.state := rfl
  unfold send
  rw [same]
  split
  · rfl
  · split
    · rfl
    · exact onEngine_sendLoop view data.length conn data

theorem onEngine_onWriteComplete (conn : SslConnection Engine) :
    conn.onWriteComplete.onEngine view.map = (conn.onEngine view.map).onWriteComplete := by
  have flushed := onEngine_flush view conn
  have same : (conn.onEngine view.map).flushWriteBio.state = conn.flushWriteBio.state := by
    rw [← flushed]
    rfl
  simp only [onWriteComplete]
  rw [same]
  split
  · rw [onEngine_handshake, flushed]
  · split
    · rw [onEngine_flush, onEngine_drain, flushed]
    · exact flushed

theorem onEngine_readLoop (fuel : Nat) (conn : SslConnection Engine) :
    readLoop fuel (conn.onEngine view.map) =
      ((readLoop fuel conn).1.onEngine view.map, (readLoop fuel conn).2) := by
  induction fuel generalizing conn with
  | zero => rfl
  | succ fuel ih =>
    have called : sslRead (conn.onEngine view.map).ssl 4096 = _ := view.sslRead conn.ssl 4096
    simp only [readLoop, called]
    cases (sslRead conn.ssl 4096).1 with
    | data bytes =>
      exact ih { ((conn.setSsl (sslRead conn.ssl 4096).2).record (.sslRead (.data bytes))) with
        decryptedBuffer := conn.decryptedBuffer ++ bytes }
    | failed negative err => rfl

theorem onEngine_onRead (conn : SslConnection Engine) (buf : Bytes) :
    (conn.onEngine view.map).onRead buf = ((conn.onRead buf).1.onEngine view.map, (conn.onRead buf).2) := by
  have same : (conn.onEngine view.map).state = conn.state := rfl
  have settle : ∀ conn : SslConnection Engine,
      (conn.onEngine view.map).flushWriteBio.drainPendingPlain =
        conn.flushWriteBio.drainPendingPlain.onEngine view.map := by
    intro conn
    rw [onEngine_drain, onEngine_flush]
  unfold onRead feedReadBio
  rw [same, onEngine_feedLoop]
  split
  · rcases feedLoop buf.length conn buf with ⟨next, _ | _⟩
    · rfl
    · exact Prod.ext (onEngine_handshake view next).symm rfl
  · split
    · split
      · rfl
      · rcases feedLoop buf.length conn buf with ⟨next, _ | _⟩
        · rfl
        · have sameUnread : unread (next.onEngine view.map).ssl = unread next.ssl := view.unread next.ssl
          dsimp only
          rw [sameUnread, onEngine_readLoop]
          rcases readLoop (unread next.ssl + 1) next with ⟨last, _ | ⟨_ | _, err⟩⟩
          · exact Prod.ext (settle last) rfl
          · exact Prod.ext (settle last) rfl
          · dsimp only
            split
            · have handled : (last.handleError (getLastError err)).onEngine view.map =
                  (last.onEngine view.map).handleError (getLastError err) := by
                unfold handleError
                split <;> rfl
              rw [← handled]
              exact Prod.ext (settle _) rfl
            · exact Prod.ext (settle last) rfl
    · rfl

end SslConnection

end Ssl
