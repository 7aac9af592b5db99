import HttpServerApps.Ssl.Connection

namespace Ssl.SslConnection

open Common OpenSSL

variable {Engine : Type} [OpenSSL Engine]

/-- A relation of a connection to what becomes of it that each single effect has, but for a `BIO_write`. The functions
    are put together from the effects. -/
structure Kept (Rel : SslConnection Engine → SslConnection Engine → Prop) : Prop where
  refl : ∀ conn, Rel conn conn
  trans : ∀ {first second third}, Rel first second → Rel second third → Rel first third
  doHandshake : ∀ conn, Rel conn (conn.setSsl (OpenSSL.doHandshake conn.ssl).2)
  sslRead : ∀ conn size, Rel conn (conn.setSsl (OpenSSL.sslRead conn.ssl size).2)
  sslWrite : ∀ conn offered, Rel conn (conn.setSsl (OpenSSL.sslWrite conn.ssl offered).2)
  bioRead : ∀ conn size, Rel conn (conn.setSsl (OpenSSL.bioRead conn.ssl size).2)
  record : ∀ conn call, Rel conn (conn.record call)
  setPending : ∀ conn pendingPlain, Rel conn (conn.setPending pendingPlain)
  append : ∀ conn data, Rel conn { conn with decryptedBuffer := conn.decryptedBuffer ++ data }
  error : ∀ conn, Rel conn (conn.setState .ERROR)
  established : ∀ conn, conn.state = .HANDSHAKE → Rel conn (conn.setState .ESTABLISHED)

variable {Rel : SslConnection Engine → SslConnection Engine → Prop}

theorem Kept.flush (kept : Kept Rel) (conn : SslConnection Engine) : Rel conn conn.flushWriteBio := by
  have loop : ∀ (fuel : Nat) (conn : SslConnection Engine), Rel conn (flushLoop fuel conn) := by
    intro fuel
    induction fuel with
    | zero => exact kept.refl
    | succ fuel ih =>
      intro conn
      have read := kept.bioRead conn (min (bioPending conn.ssl) 4096)
      simp only [flushLoop]
      split
      · split
        · exact kept.trans (kept.trans read (kept.record _ _)) (ih _)
        · exact read
      · exact kept.refl conn
  exact loop _ conn

theorem Kept.write (kept : Kept Rel) (conn : SslConnection Engine) (offered : Bytes) :
    Rel conn (conn.write offered).2 := kept.trans (kept.sslWrite conn offered) (kept.record _ _)

theorem Kept.fatal (kept : Kept Rel) (conn : SslConnection Engine) :
    Rel conn (((conn.setState .ERROR).flushWriteBio).record .connShutdown) :=
  kept.trans (kept.trans (kept.error conn) (kept.flush _)) (kept.record _ _)

theorem Kept.drainFailed (kept : Kept Rel) (conn : SslConnection Engine) (err : ErrorCode) :
    Rel conn (conn.drainFailed err) := by
  have emptied := kept.setPending conn []
  unfold SslConnection.drainFailed
  split
  · exact kept.flush conn
  · exact kept.flush conn
  · exact kept.trans emptied (kept.flush _)
  · exact kept.trans emptied (kept.fatal _)

theorem Kept.drainLoop (kept : Kept Rel) (spins : Nat) (conn : SslConnection Engine) :
    Rel conn (drainLoop spins conn) := by
  induction spins generalizing conn with
  | zero =>
    unfold SslConnection.drainLoop
    split
    · exact kept.trans (kept.trans (kept.setPending conn []) (kept.error _)) (kept.record _ _)
    · exact kept.flush conn
  | succ spins ih =>
    have written := kept.write conn (conn.pendingPlain.take INT_MAX)
    unfold SslConnection.drainLoop
    split
    · exact kept.flush conn
    split
    · next n next result =>
      rw [result] at written
      have flushed := kept.trans (kept.setPending next (next.pendingPlain.drop n)) (kept.flush _)
      exact kept.trans (kept.trans written flushed) (ih _)
    · next err next result =>
      rw [result] at written
      exact kept.trans written (kept.drainFailed next err)

theorem Kept.drain (kept : Kept Rel) (conn : SslConnection Engine) : Rel conn conn.drainPendingPlain := by
  unfold drainPendingPlain
  split
  · exact kept.refl conn
  · exact kept.drainLoop kMaxSpins conn

theorem Kept.settle (kept : Kept Rel) (conn : SslConnection Engine) :
    Rel conn conn.flushWriteBio.drainPendingPlain := kept.trans (kept.flush conn) (kept.drain _)

theorem Kept.sendFailed (kept : Kept Rel) (conn : SslConnection Engine) (err : ErrorCode) (data : Bytes) :
    Rel conn (conn.sendFailed err data) := by
  have suspended := kept.trans (kept.trans (kept.flush conn) (kept.setPending _ (conn.pendingPlain ++ data)))
    (kept.drain _)
  unfold SslConnection.sendFailed
  split
  · exact suspended
  · exact suspended
  · exact kept.flush conn
  · exact kept.trans (kept.setPending conn []) (kept.fatal _)

theorem Kept.sendLoop (kept : Kept Rel) (fuel : Nat) (conn : SslConnection Engine) (data : Bytes) :
    Rel conn (sendLoop fuel conn data) := by
  induction fuel generalizing conn data with
  | zero => exact kept.flush conn
  | succ fuel ih =>
    have written := kept.write conn (data.take INT_MAX)
    unfold SslConnection.sendLoop
    split
    · exact kept.flush conn
    split
    · next n next result =>
      rw [result] at written
      exact kept.trans (kept.trans written (kept.flush next)) (ih _ _)
    · next err next result =>
      rw [result] at written
      exact kept.trans written (kept.sendFailed next err data)

theorem Kept.send (kept : Kept Rel) (conn : SslConnection Engine) (data : Bytes) : Rel conn (conn.send data) := by
  unfold SslConnection.send
  split
  · exact kept.refl conn
  split
  · exact kept.refl conn
  · exact kept.sendLoop data.length conn data

theorem Kept.handshake (kept : Kept Rel) {conn : SslConnection Engine} (shaking : conn.state = .HANDSHAKE) :
    Rel conn conn.handleHandshake := by
  have after := kept.doHandshake conn
  simp only [handleHandshake]
  split
  · exact kept.trans (kept.trans after (kept.established _ shaking)) (kept.flush _)
  · exact kept.trans after (kept.flush _)
  · exact kept.trans after (kept.flush _)
  · exact kept.trans (kept.trans after (kept.record _ _)) (kept.flush _)

theorem Kept.onWriteComplete (kept : Kept Rel) (conn : SslConnection Engine) : Rel conn conn.onWriteComplete := by
  have flushed := kept.flush conn
  simp only [SslConnection.onWriteComplete]
  split
  · next shaking => exact kept.trans flushed (kept.handshake shaking)
  split
  · exact kept.trans (kept.trans flushed (kept.drain _)) (kept.flush _)
  · exact flushed

theorem Kept.readLoop (kept : Kept Rel) (fuel : Nat) (conn : SslConnection Engine) :
    Rel conn (readLoop fuel conn).1 := by
  induction fuel generalizing conn with
  | zero => exact kept.refl conn
  | succ fuel ih =>
    have read := kept.trans (kept.sslRead conn 4096) (kept.record _ (.sslRead (OpenSSL.sslRead conn.ssl 4096).1))
    simp only [SslConnection.readLoop]
    split
    · next data _ => exact kept.trans (kept.trans read (kept.append _ data)) (ih _)
    · exact read

theorem Kept.handleError (kept : Kept Rel) (conn : SslConnection Engine) (error : SSLError) :
    Rel conn (conn.handleError error) := by
  unfold SslConnection.handleError
  split
  all_goals first
    | exact kept.trans (kept.error conn) (kept.record _ _)
    | exact kept.refl conn

/-! `onRead` feeds and then goes on without another `BIO_write`. -/

theorem state_feedLoop (fuel : Nat) (conn : SslConnection Engine) (data : Bytes)
    (whole : (feedLoop fuel conn data).2 = true) : (feedLoop fuel conn data).1.state = conn.state := by
  induction fuel generalizing conn data with
  | zero => rfl
  | succ fuel ih =>
    simp only [feedLoop] at whole ⊢
    split
    · rfl
    · rename_i some_
      rw [if_neg some_] at whole
      split
      · rename_i short
        rw [if_pos short] at whole
        cases whole
      · rename_i full
        rw [if_neg full] at whole
        exact ih _ _ whole

/-- Whether `onRead` gives the bytes to the read BIO. -/
def Feeds (conn : SslConnection Engine) (buf : Bytes) : Prop :=
  conn.state = .HANDSHAKE ∨ conn.state = .ESTABLISHED ∧ buf ≠ []

/-- What `onRead` does: nothing, or a feed that fails, or one that ends and what follows it. -/
inductive Reads (Rel : SslConnection Engine → SslConnection Engine → Prop) (conn : SslConnection Engine) (buf : Bytes) :
    SslConnection Engine × Bytes → Prop where
  | passed (idle : ¬ Feeds conn buf) : Reads Rel conn buf (conn, buf)
  | failed (feeds : Feeds conn buf) (short : (conn.feedReadBio buf).2 = false) :
      Reads Rel conn buf ((conn.feedReadBio buf).1, buf)
  | taken {after} (feeds : Feeds conn buf) (whole : (conn.feedReadBio buf).2 = true)
      (later : Rel (conn.feedReadBio buf).1 after) : Reads Rel conn buf (after, [])

theorem Kept.reads (kept : Kept Rel) (conn : SslConnection Engine) (buf : Bytes) :
    Reads Rel conn buf (conn.onRead buf) := by
  have failed := @Reads.failed _ _ Rel conn buf
  have taken := @Reads.taken _ _ Rel conn buf
  have stays := state_feedLoop buf.length conn buf
  change (conn.feedReadBio buf).2 = true → (conn.feedReadBio buf).1.state = conn.state at stays
  unfold onRead
  by_cases shaking : conn.state = .HANDSHAKE
  · rw [if_pos shaking]
    rcases fed : conn.feedReadBio buf with ⟨next, _ | _⟩
    · rw [fed] at failed
      exact failed (Or.inl shaking) rfl
    · rw [fed] at taken stays
      exact taken (Or.inl shaking) rfl (kept.handshake ((stays rfl).trans shaking))
  · rw [if_neg shaking]
    by_cases established : conn.state = .ESTABLISHED
    · rw [if_pos established]
      by_cases empty : buf = []
      · rw [if_pos empty]
        apply Reads.passed
        intro feeds
        rcases feeds with early | ⟨_, some_⟩
        · exact shaking early
        · exact some_ empty
      · rw [if_neg empty]
        rcases fed : conn.feedReadBio buf with ⟨next, _ | _⟩
        · rw [fed] at failed
          exact failed (Or.inr ⟨established, empty⟩) rfl
        · rw [fed] at taken
          have read := kept.readLoop (unread next.ssl + 1) next
          dsimp only
          split
          · next last err ended =>
            rw [ended] at read
            apply taken (Or.inr ⟨established, empty⟩) rfl
            split
            · exact kept.trans (kept.trans read (kept.handleError last _)) (kept.settle _)
            · exact kept.trans read (kept.settle last)
          · next last _ _ ended =>
            rw [ended] at read
            exact taken (Or.inr ⟨established, empty⟩) rfl (kept.trans read (kept.settle last))
    · rw [if_neg established]
      apply Reads.passed
      intro feeds
      rcases feeds with early | ⟨late, _⟩
      · exact shaking early
      · exact established late

/-! Where a `BIO_write` has the relation too. -/

theorem Kept.feedLoop (kept : Kept Rel)
    (bioWrite : ∀ conn data, Rel conn (conn.setSsl (OpenSSL.bioWrite conn.ssl data).2)) (fuel : Nat)
    (conn : SslConnection Engine) (data : Bytes) : Rel conn (feedLoop fuel conn data).1 := by
  induction fuel generalizing conn data with
  | zero => exact kept.refl conn
  | succ fuel ih =>
    have fed := bioWrite conn (data.take INT_MAX)
    simp only [SslConnection.feedLoop]
    split
    · exact kept.refl conn
    split
    · exact kept.trans fed (kept.fatal _)
    · exact kept.trans fed (ih _ _)

theorem Kept.onRead (kept : Kept Rel)
    (bioWrite : ∀ conn data, Rel conn (conn.setSsl (OpenSSL.bioWrite conn.ssl data).2))
    (conn : SslConnection Engine) (buf : Bytes) : Rel conn (conn.onRead buf).1 := by
  have fed := kept.feedLoop bioWrite buf.length conn buf
  have reads := kept.reads conn buf
  generalize conn.onRead buf = answer at reads ⊢
  cases reads with
  | passed idle => exact kept.refl conn
  | failed feeds short => exact fed
  | taken feeds whole later => exact kept.trans fed later

end Ssl.SslConnection
