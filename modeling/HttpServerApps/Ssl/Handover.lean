import HttpServerApps.Ssl.FinalErrors

namespace Ssl

open Common OpenSSL

/-- A write BIO in memory: reading from it succeeds while it holds bytes. -/
class MemoryOpenSSL (Engine : Type) extends OpenSSL Engine where
  bioRead_memory : ∀ ssl size, 0 < size → 0 < bioPending ssl → (bioRead ssl size).1 ≠ []

namespace SslConnection

variable {Engine : Type} [OpenSSL Engine]

/-! The connection at the call of `shutdown()`, for each function that comes to one. -/

def feedShutdown : Nat → SslConnection Engine → Bytes → Option (SslConnection Engine)
  | 0, _, _ => none
  | fuel + 1, conn, data =>
    if data = [] then none
    else
      let chunk := data.take INT_MAX
      let (w, ssl) := bioWrite conn.ssl chunk
      let conn := conn.setSsl ssl
      if w ≠ chunk.length then some (conn.setState .ERROR).flushWriteBio
      else feedShutdown fuel conn (data.drop INT_MAX)

/-- The end of `drainPendingPlain` and of `send` for a failed write that is fatal. -/
def writeShutdown (conn : SslConnection Engine) : ErrorCode → Option (SslConnection Engine)
  | .wantRead | .wantWrite | .zeroReturn => none
  | _ => some ((conn.setPending []).setState .ERROR).flushWriteBio

def drainLoopShutdown : Nat → SslConnection Engine → Option (SslConnection Engine)
  | 0, conn => if conn.pendingPlain ≠ [] then some ((conn.setPending []).setState .ERROR) else none
  | spins + 1, conn =>
    if conn.pendingPlain = [] then none
    else
      match conn.write (conn.pendingPlain.take INT_MAX) with
      | (.accepted n, conn) => drainLoopShutdown spins (conn.setPending (conn.pendingPlain.drop n)).flushWriteBio
      | (.failed err, conn) => conn.writeShutdown err

def drainShutdown (conn : SslConnection Engine) : Option (SslConnection Engine) :=
  if conn.state ≠ .ESTABLISHED then none else drainLoopShutdown kMaxSpins conn

def sendFailedShutdown (conn : SslConnection Engine) (err : ErrorCode) (data : Bytes) :
    Option (SslConnection Engine) :=
  match err with
  | .wantRead | .wantWrite => (conn.flushWriteBio.setPending (conn.pendingPlain ++ data)).drainShutdown
  | err => conn.writeShutdown err

def sendLoopShutdown : Nat → SslConnection Engine → Bytes → Option (SslConnection Engine)
  | 0, _, _ => none
  | fuel + 1, conn, data =>
    if data = [] then none
    else
      match conn.write (data.take INT_MAX) with
      | (.accepted n, conn) => sendLoopShutdown fuel conn.flushWriteBio (data.drop n)
      | (.failed err, conn) => conn.sendFailedShutdown err data

def sendShutdown (conn : SslConnection Engine) (data : Bytes) : Option (SslConnection Engine) :=
  if conn.state ≠ .ESTABLISHED then none
  else if data = [] then none
  else sendLoopShutdown data.length conn data

def handshakeShutdown (conn : SslConnection Engine) : Option (SslConnection Engine) :=
  match (doHandshake conn.ssl).1 with
  | .done | .failed .wantRead | .failed .wantWrite => none
  | .failed _ => some (conn.setSsl (doHandshake conn.ssl).2)

def errorShutdown (conn : SslConnection Engine) : SSLError → Option (SslConnection Engine)
  | .SSL | .SYSCALL | .UNKNOWN => some (conn.setState .ERROR)
  | _ => none

def readShutdown (conn : SslConnection Engine) : Option (SslConnection Engine) :=
  match readLoop (unread conn.ssl + 1) conn with
  | (last, some (true, err)) => (last.errorShutdown (getLastError err)).or last.flushWriteBio.drainShutdown
  | (last, _) => last.flushWriteBio.drainShutdown

def shutdownAt (conn : SslConnection Engine) : TlsCall → Option (SslConnection Engine)
  | .startHandshake => conn.handshakeShutdown
  | .onRead buf =>
    if conn.state = .HANDSHAKE then
      if (conn.feedReadBio buf).2 then (conn.feedReadBio buf).1.handshakeShutdown
      else feedShutdown buf.length conn buf
    else if conn.state = .ESTABLISHED ∧ buf ≠ [] then
      if (conn.feedReadBio buf).2 then (conn.feedReadBio buf).1.readShutdown
      else feedShutdown buf.length conn buf
    else none
  | .onWriteComplete =>
    if conn.state = .HANDSHAKE then conn.flushWriteBio.handshakeShutdown
    else if conn.state = .ESTABLISHED then conn.flushWriteBio.drainShutdown
    else none
  | .send data => conn.sendShutdown data
  | .retrieve _ => none

/-! Nothing is shut down on the way there. -/

def Silent (before after : SslConnection Engine) : Prop :=
  ∃ new, after.calls = before.calls ++ new ∧ .connShutdown ∉ new

omit [OpenSSL Engine] in
theorem silent_of_calls {before after : SslConnection Engine} (same : after.calls = before.calls) :
    Silent before after := ⟨[], same.trans (List.append_nil _).symm, List.not_mem_nil⟩

omit [OpenSSL Engine] in
theorem Silent.trans {first second third : SslConnection Engine} (left : Silent first second)
    (right : Silent second third) : Silent first third := by
  rcases left with ⟨old, before, quiet⟩
  rcases right with ⟨new, after, still⟩
  refine ⟨old ++ new, by rw [after, before, List.append_assoc], ?_⟩
  intro member
  rcases List.mem_append.mp member with inside | beyond
  · exact quiet inside
  · exact still beyond

omit [OpenSSL Engine] in
theorem silent_record (conn : SslConnection Engine) {call : Call} (other : call ≠ .connShutdown) :
    Silent conn (conn.record call) := by
  refine ⟨[call], rfl, ?_⟩
  intro member
  exact other (List.mem_singleton.mp member).symm

theorem silent_flush (conn : SslConnection Engine) : Silent conn conn.flushWriteBio := by
  rcases flushLoop_frame (bioPending conn.ssl) conn with ⟨sent, calls, _⟩
  refine ⟨sent.map .connSend, calls, ?_⟩
  intro member
  rcases List.mem_map.mp member with ⟨_, _, same⟩
  cases same

theorem silent_write (conn : SslConnection Engine) (offered : Bytes) : Silent conn (conn.write offered).2 := by
  have written := @silent_record _ (conn.setSsl (sslWrite conn.ssl offered).2)
    (.sslWrite offered (sslWrite conn.ssl offered).1) (by intro same; cases same)
  exact written

theorem silent_readLoop (fuel : Nat) (conn : SslConnection Engine) : Silent conn (readLoop fuel conn).1 := by
  induction fuel generalizing conn with
  | zero => exact silent_of_calls rfl
  | succ fuel ih =>
    have read := @silent_record _ (conn.setSsl (sslRead conn.ssl 4096).2) (.sslRead (sslRead conn.ssl 4096).1)
      (by intro same; cases same)
    change Silent conn _ at read
    simp only [readLoop]
    split
    · exact read.trans (ih _)
    · exact read

end SslConnection

/-! Memory BIOs. -/

open MemoryOpenSSL

namespace SslConnection

variable {Engine : Type} [MemoryOpenSSL Engine]

theorem pending_flush (conn : SslConnection Engine) : bioPending conn.flushWriteBio.ssl = 0 := by
  have loop : ∀ (fuel : Nat) (conn : SslConnection Engine), bioPending conn.ssl ≤ fuel →
      bioPending (flushLoop fuel conn).ssl = 0 := by
    intro fuel
    induction fuel with
    | zero => exact fun conn enough => Nat.le_zero.mp enough
    | succ fuel ih =>
      intro conn enough
      simp only [flushLoop]
      split
      · next positive =>
        have read := bioRead_memory conn.ssl (min (bioPending conn.ssl) 4096) (by omega) positive
        have taken := bioRead_pending conn.ssl (min (bioPending conn.ssl) 4096)
        have some_ := List.length_pos_iff.mpr read
        rw [if_pos read]
        apply ih
        change bioPending (bioRead conn.ssl (min (bioPending conn.ssl) 4096)).2 ≤ fuel
        omega
      · omega
  exact loop _ conn (Nat.le_refl _)

theorem flush_nothing {conn : SslConnection Engine} (nothing : bioPending conn.ssl = 0) :
    conn.flushWriteBio = conn := by
  unfold flushWriteBio
  rw [nothing]
  rfl

/-- What a function has done that ends with `shutdown()`, if it comes to one, with nothing left to send. -/
def HandsOver (before after : SslConnection Engine) : Option (SslConnection Engine) → Prop
  | none => Silent before after
  | some at_ => Silent before at_ ∧ after = at_.record .connShutdown ∧ bioPending at_.ssl = 0

theorem HandsOver.before {first second after : SslConnection Engine} {at_ : Option (SslConnection Engine)}
    (silent : Silent first second) (later : HandsOver second after at_) : HandsOver first after at_ := by
  cases at_ with
  | none => exact silent.trans later
  | some at_ => exact ⟨silent.trans later.1, later.2⟩

theorem handsOver_flushed {before conn : SslConnection Engine} (silent : Silent before conn) :
    HandsOver before (conn.flushWriteBio.record .connShutdown) (some conn.flushWriteBio) :=
  ⟨silent.trans (silent_flush conn), rfl, pending_flush conn⟩

theorem handsOver_feedLoop (fuel : Nat) (conn : SslConnection Engine) (data : Bytes) :
    HandsOver conn (feedLoop fuel conn data).1 (feedShutdown fuel conn data) ∧
      ((feedLoop fuel conn data).2 = true → feedShutdown fuel conn data = none) := by
  induction fuel generalizing conn data with
  | zero => exact ⟨silent_of_calls rfl, fun _ => rfl⟩
  | succ fuel ih =>
    simp only [feedLoop, feedShutdown]
    split
    · exact ⟨silent_of_calls rfl, fun _ => rfl⟩
    split
    · exact ⟨handsOver_flushed (silent_of_calls rfl), fun whole => by cases whole⟩
    · rcases ih (conn.setSsl (bioWrite conn.ssl (data.take INT_MAX)).2) (data.drop INT_MAX) with ⟨later, none_⟩
      exact ⟨HandsOver.before (silent_of_calls rfl) later, none_⟩

theorem handsOver_drainFailed (conn : SslConnection Engine) (err : ErrorCode) :
    HandsOver conn (conn.drainFailed err) (conn.writeShutdown err) := by
  have fatal := @handsOver_flushed _ _ conn ((conn.setPending []).setState .ERROR) (silent_of_calls rfl)
  cases err with
  | wantRead => exact silent_flush conn
  | wantWrite => exact silent_flush conn
  | zeroReturn => exact silent_flush (conn.setPending [])
  | none => exact fatal
  | syscall => exact fatal
  | ssl => exact fatal
  | other => exact fatal

theorem handsOver_drainLoop (spins : Nat) {conn : SslConnection Engine}
    (flushed : 0 < spins ∨ bioPending conn.ssl = 0) :
    HandsOver conn (drainLoop spins conn) (drainLoopShutdown spins conn) := by
  induction spins generalizing conn with
  | zero =>
    have nothing : bioPending conn.ssl = 0 := flushed.resolve_left (Nat.lt_irrefl 0)
    unfold drainLoop drainLoopShutdown
    split
    · exact ⟨silent_of_calls rfl, rfl, nothing⟩
    · exact silent_flush conn
  | succ spins ih =>
    have written := silent_write conn (conn.pendingPlain.take INT_MAX)
    unfold drainLoop drainLoopShutdown
    split
    · exact silent_flush conn
    · generalize conn.write (conn.pendingPlain.take INT_MAX) = answer at written ⊢
      rcases answer with ⟨result, next⟩
      cases result with
      | accepted n =>
        have sent := silent_flush (next.setPending (next.pendingPlain.drop n))
        exact HandsOver.before (written.trans sent) (ih (Or.inr (pending_flush _)))
      | failed err => exact HandsOver.before written (handsOver_drainFailed next err)

theorem handsOver_drain (conn : SslConnection Engine) : HandsOver conn conn.drainPendingPlain conn.drainShutdown := by
  unfold drainPendingPlain drainShutdown
  split
  · exact silent_of_calls rfl
  · exact handsOver_drainLoop kMaxSpins (Or.inl (by decide))

theorem handsOver_sendFailed (conn : SslConnection Engine) (err : ErrorCode) (data : Bytes) :
    HandsOver conn (conn.sendFailed err data) (conn.sendFailedShutdown err data) := by
  have waits : Silent conn (conn.flushWriteBio.setPending (conn.pendingPlain ++ data)) := silent_flush conn
  have suspended := HandsOver.before waits (handsOver_drain _)
  have fatal := @handsOver_flushed _ _ conn ((conn.setPending []).setState .ERROR) (silent_of_calls rfl)
  cases err with
  | wantRead => exact suspended
  | wantWrite => exact suspended
  | zeroReturn => exact silent_flush conn
  | none => exact fatal
  | syscall => exact fatal
  | ssl => exact fatal
  | other => exact fatal

theorem handsOver_sendLoop (fuel : Nat) (conn : SslConnection Engine) (data : Bytes) :
    HandsOver conn (sendLoop fuel conn data) (sendLoopShutdown fuel conn data) := by
  induction fuel generalizing conn data with
  | zero => exact silent_flush conn
  | succ fuel ih =>
    have written := silent_write conn (data.take INT_MAX)
    unfold sendLoop sendLoopShutdown
    split
    · exact silent_flush conn
    · generalize conn.write (data.take INT_MAX) = answer at written ⊢
      rcases answer with ⟨result, next⟩
      cases result with
      | accepted n => exact HandsOver.before (written.trans (silent_flush next)) (ih _ _)
      | failed err => exact HandsOver.before written (handsOver_sendFailed next err data)

theorem handsOver_send (conn : SslConnection Engine) (data : Bytes) :
    HandsOver conn (conn.send data) (conn.sendShutdown data) := by
  unfold send sendShutdown
  split
  · exact silent_of_calls rfl
  split
  · exact silent_of_calls rfl
  · exact handsOver_sendLoop data.length conn data

/-! A whole call. -/

/-- What a call leaves, which may flush once more after `shutdown()`. -/
def Ends (before after : SslConnection Engine) : Option (SslConnection Engine) → Prop
  | none => Silent before after
  | some at_ => Silent before at_ ∧
      (after = at_.record .connShutdown ∨ after = (at_.record .connShutdown).flushWriteBio)

theorem HandsOver.ends {before after : SslConnection Engine} {at_ : Option (SslConnection Engine)}
    (hands : HandsOver before after at_) : Ends before after at_ := by
  cases at_ with
  | none => exact hands
  | some at_ => exact ⟨hands.1, Or.inl hands.2.1⟩

theorem HandsOver.flushed {before after : SslConnection Engine} {at_ : Option (SslConnection Engine)}
    (hands : HandsOver before after at_) : Ends before after.flushWriteBio at_ := by
  cases at_ with
  | none => exact hands.trans (silent_flush after)
  | some at_ => exact ⟨hands.1, Or.inr (congrArg flushWriteBio hands.2.1)⟩

theorem Ends.before {first second after : SslConnection Engine} {at_ : Option (SslConnection Engine)}
    (silent : Silent first second) (later : Ends second after at_) : Ends first after at_ := by
  cases at_ with
  | none => exact silent.trans later
  | some at_ => exact ⟨silent.trans later.1, later.2⟩

theorem ends_handshake (conn : SslConnection Engine) : Ends conn conn.handleHandshake conn.handshakeShutdown := by
  have quiet : ∀ ssl state, Silent conn (((conn.setSsl ssl).setState state).flushWriteBio) :=
    fun ssl state => silent_flush ((conn.setSsl ssl).setState state)
  have fatal : ∀ ssl, Ends conn (((conn.setSsl ssl).record .connShutdown).flushWriteBio) (some (conn.setSsl ssl)) :=
    fun ssl => ⟨silent_of_calls rfl, Or.inr rfl⟩
  unfold handleHandshake handshakeShutdown
  rcases doHandshake conn.ssl with ⟨_ | err, ssl⟩
  · exact quiet ssl .ESTABLISHED
  · cases err with
    | wantRead => exact quiet ssl conn.state
    | wantWrite => exact quiet ssl conn.state
    | none => exact fatal ssl
    | zeroReturn => exact fatal ssl
    | syscall => exact fatal ssl
    | ssl => exact fatal ssl
    | other => exact fatal ssl

def afterRead (conn : SslConnection Engine) : SslConnection Engine :=
  match readLoop (unread conn.ssl + 1) conn with
  | (conn, some (true, err)) =>
    let error := getLastError err
    let conn := if error ≠ .WANT_READ ∧ error ≠ .WANT_WRITE then conn.handleError error else conn
    conn.flushWriteBio.drainPendingPlain
  | (conn, _) => conn.flushWriteBio.drainPendingPlain

theorem ends_afterRead (conn : SslConnection Engine) : Ends conn conn.afterRead conn.readShutdown := by
  have read := silent_readLoop (unread conn.ssl + 1) conn
  unfold afterRead readShutdown
  generalize readLoop (unread conn.ssl + 1) conn = answer at read ⊢
  rcases answer with ⟨last, ended⟩
  have settled : Ends conn last.flushWriteBio.drainPendingPlain last.flushWriteBio.drainShutdown :=
    Ends.before (read.trans (silent_flush last)) (handsOver_drain _).ends
  have failed : Ends conn ((last.setState .ERROR).record .connShutdown).flushWriteBio.drainPendingPlain
      (some (last.setState .ERROR)) := by
    have dead : ((last.setState .ERROR).record .connShutdown).state = .ERROR := rfl
    rw [settle_dead dead]
    exact ⟨read.trans (silent_of_calls rfl), Or.inr rfl⟩
  rcases ended with _ | ⟨_ | _, err⟩
  · exact settled
  · exact settled
  · cases err with
    | none => exact settled
    | wantRead => exact settled
    | wantWrite => exact settled
    | zeroReturn => exact failed
    | syscall => exact failed
    | ssl => exact failed
    | other => exact failed

theorem onRead_shape (conn : SslConnection Engine) (buf : Bytes) :
    (conn.onRead buf).1 =
      if conn.state = .HANDSHAKE then
        if (conn.feedReadBio buf).2 then (conn.feedReadBio buf).1.handleHandshake else (conn.feedReadBio buf).1
      else if conn.state = .ESTABLISHED ∧ buf ≠ [] then
        if (conn.feedReadBio buf).2 then (conn.feedReadBio buf).1.afterRead else (conn.feedReadBio buf).1
      else conn := by
  unfold onRead afterRead
  rcases conn.feedReadBio buf with ⟨next, _ | _⟩
  · by_cases shaking : conn.state = .HANDSHAKE
    · rw [if_pos shaking, if_pos shaking]
      rfl
    · rw [if_neg shaking, if_neg shaking]
      by_cases established : conn.state = .ESTABLISHED
      · by_cases empty : buf = []
        · simp [established, empty]
        · simp [established, empty]
      · simp [established]
  · by_cases shaking : conn.state = .HANDSHAKE
    · rw [if_pos shaking, if_pos shaking]
      rfl
    · rw [if_neg shaking, if_neg shaking]
      by_cases established : conn.state = .ESTABLISHED
      · by_cases empty : buf = []
        · simp [established, empty]
        · simp only [established, empty, if_true, if_false, ne_eq, not_false_eq_true, and_self]
          rcases readLoop (unread next.ssl + 1) next with ⟨last, _ | ⟨_ | _, err⟩⟩ <;> rfl
      · simp [established]

/-- Where `shutdownAt` says so a call shuts the connection down, and there only. -/
theorem ends_tlsStep (conn : SslConnection Engine) (call : TlsCall) :
    Ends conn (conn.tlsStep call) (conn.shutdownAt call) := by
  cases call with
  | startHandshake => exact ends_handshake conn
  | onRead buf =>
    rcases handsOver_feedLoop buf.length conn buf with ⟨fed, none_⟩
    change HandsOver conn (conn.feedReadBio buf).1 _ at fed
    change (conn.feedReadBio buf).2 = true → _ at none_
    have silent : (conn.feedReadBio buf).2 = true → Silent conn (conn.feedReadBio buf).1 := by
      intro whole
      rw [none_ whole] at fed
      exact fed
    unfold tlsStep shutdownAt
    dsimp only
    rw [onRead_shape]
    split
    · split
      · rename_i whole
        exact Ends.before (silent whole) (ends_handshake _)
      · exact fed.ends
    · split
      · split
        · rename_i whole
          exact Ends.before (silent whole) (ends_afterRead _)
        · exact fed.ends
      · exact silent_of_calls rfl
  | onWriteComplete =>
    have flushed := silent_flush conn
    simp only [tlsStep, onWriteComplete, shutdownAt, state_flush]
    split
    · exact Ends.before flushed (ends_handshake _)
    · split
      · exact Ends.before flushed (handsOver_drain _).flushed
      · exact flushed
  | send data => exact (handsOver_send conn data).ends
  | retrieve n => exact silent_of_calls rfl

/-! The property, and the two exits that miss it. -/

/-- At `shutdown()` no ciphertext is pending, and none is sent after it. -/
structure HandedOver (conn : SslConnection Engine) (call : TlsCall) : Prop where
  pending : ∀ at_, conn.shutdownAt call = some at_ → bioPending at_.ssl = 0
  silent : ∀ before rest, (conn.tlsStep call).calls = conn.calls ++ before ++ .connShutdown :: rest →
    ∀ data, .connSend data ∉ rest

/-- The connection for which a call runs the handshake. -/
def handshakeAt (conn : SslConnection Engine) : TlsCall → Option (SslConnection Engine)
  | .startHandshake => some conn
  | .onRead buf =>
    if conn.state = .HANDSHAKE ∧ (conn.feedReadBio buf).2 = true then some (conn.feedReadBio buf).1 else none
  | .onWriteComplete => if conn.state = .HANDSHAKE then some conn.flushWriteBio else none
  | .send _ | .retrieve _ => none

/-- The connection after an `SSL_read` with a negative return value, and the error. -/
def failedReadAt (conn : SslConnection Engine) : TlsCall → Option (SslConnection Engine × ErrorCode)
  | .onRead buf =>
    if conn.state = .ESTABLISHED ∧ buf ≠ [] ∧ (conn.feedReadBio buf).2 = true then
      match readLoop (unread (conn.feedReadBio buf).1.ssl + 1) (conn.feedReadBio buf).1 with
      | (last, some (true, err)) => some (last, err)
      | _ => none
    else none
  | _ => none

/-- A handshake or an `SSL_read` that fails for good leaves no alert behind. -/
structure NoAlert (conn : SslConnection Engine) (call : TlsCall) : Prop where
  handshake : ∀ next err, conn.handshakeAt call = some next → (doHandshake next.ssl).1 = .failed err →
    err ≠ .wantRead → err ≠ .wantWrite → bioPending (doHandshake next.ssl).2 = 0
  read : ∀ last err, conn.failedReadAt call = some (last, err) →
    err ≠ .none → err ≠ .wantRead → err ≠ .wantWrite → bioPending last.ssl = 0

theorem not_sent {before rest new : List Call} (quiet : .connShutdown ∉ new)
    (shape : new ++ [Call.connShutdown] = before ++ .connShutdown :: rest) : rest = [] := by
  rcases append_placed shape with ⟨part, inside, _⟩ | ⟨part, _, beyond⟩
  · apply absurd _ quiet
    rw [inside]
    exact List.mem_append_right _ List.mem_cons_self
  · cases part with
    | nil =>
      cases beyond
      rfl
    | cons head part =>
      have length := congrArg List.length beyond
      simp at length

/-- Where nothing is pending at `shutdown()` a flush after it does nothing. -/
theorem handedOver_iff (conn : SslConnection Engine) (call : TlsCall) :
    HandedOver conn call ↔ ∀ at_, conn.shutdownAt call = some at_ → bioPending at_.ssl = 0 := by
  apply Iff.intro
  · exact HandedOver.pending
  · intro pending
    apply HandedOver.mk pending
    intro before rest shape data member
    have ends := ends_tlsStep conn call
    cases at_ : conn.shutdownAt call with
    | none =>
      rw [at_] at ends
      rcases ends with ⟨new, calls, quiet⟩
      rw [calls, List.append_assoc] at shape
      apply quiet
      rw [List.append_cancel_left shape]
      exact List.mem_append_right _ List.mem_cons_self
    | some here =>
      rw [at_] at ends
      rcases ends with ⟨⟨new, calls, quiet⟩, left⟩
      have nothing : bioPending (here.record .connShutdown).ssl = 0 := pending here at_
      have same : conn.tlsStep call = here.record .connShutdown := by
        rcases left with same | flushed
        · exact same
        · exact flushed.trans (flush_nothing nothing)
      have recorded : (conn.tlsStep call).calls = conn.calls ++ (new ++ [.connShutdown]) := by
        rw [same, ← List.append_assoc, ← calls]
        rfl
      rw [recorded, List.append_assoc] at shape
      rw [not_sent quiet (List.append_cancel_left shape)] at member
      exact absurd member List.not_mem_nil

theorem handshake_pending_iff (conn : SslConnection Engine) :
    (∀ at_, conn.handshakeShutdown = some at_ → bioPending at_.ssl = 0) ↔
      ∀ err, (doHandshake conn.ssl).1 = .failed err → err ≠ .wantRead → err ≠ .wantWrite →
        bioPending (doHandshake conn.ssl).2 = 0 := by
  unfold handshakeShutdown
  generalize doHandshake conn.ssl = answer
  rcases answer with ⟨_ | err, ssl⟩
  · simp
  · cases err <;> simp [setSsl]

theorem read_pending_iff (conn : SslConnection Engine) :
    (∀ at_, conn.readShutdown = some at_ → bioPending at_.ssl = 0) ↔
      ∀ last err, readLoop (unread conn.ssl + 1) conn = (last, some (true, err)) →
        err ≠ .none → err ≠ .wantRead → err ≠ .wantWrite → bioPending last.ssl = 0 := by
  have drained : ∀ (last at_ : SslConnection Engine), last.flushWriteBio.drainShutdown = some at_ →
      bioPending at_.ssl = 0 := by
    intro last at_ found
    have hands := handsOver_drain last.flushWriteBio
    rw [found] at hands
    exact hands.2.2
  unfold readShutdown
  generalize readLoop (unread conn.ssl + 1) conn = answer
  rcases answer with ⟨last, _ | ⟨_ | _, err⟩⟩
  · exact iff_of_true (drained last) (by simp)
  · exact iff_of_true (drained last) (by simp)
  · cases err with
    | none => exact iff_of_true (drained last) (by simp)
    | wantRead => exact iff_of_true (drained last) (by simp)
    | wantWrite => exact iff_of_true (drained last) (by simp)
    | zeroReturn => simp [errorShutdown, getLastError, setState]
    | syscall => simp [errorShutdown, getLastError, setState]
    | ssl => simp [errorShutdown, getLastError, setState]
    | other => simp [errorShutdown, getLastError, setState]

/-! What a call comes to. -/

theorem noAlert_of_none {conn : SslConnection Engine} {call : TlsCall} (noHandshake : conn.handshakeAt call = none)
    (noRead : conn.failedReadAt call = none) : NoAlert conn call := by
  constructor
  · intro next err comes
    cases noHandshake.symm.trans comes
  · intro last err comes
    cases noRead.symm.trans comes

theorem noAlert_handshake_iff {conn next : SslConnection Engine} {call : TlsCall}
    (comes : conn.handshakeAt call = some next) (noRead : conn.failedReadAt call = none) :
    NoAlert conn call ↔ ∀ at_, next.handshakeShutdown = some at_ → bioPending at_.ssl = 0 := by
  rw [handshake_pending_iff]
  apply Iff.intro
  · exact fun noAlert err => noAlert.handshake next err comes
  · intro nothing
    constructor
    · intro other err again
      cases comes.symm.trans again
      exact nothing err
    · intro last err found
      cases noRead.symm.trans found

theorem failedReadAt_onRead {conn : SslConnection Engine} {buf : Bytes}
    (feeds : conn.state = .ESTABLISHED ∧ buf ≠ []) (whole : (conn.feedReadBio buf).2 = true)
    (last : SslConnection Engine) (err : ErrorCode) : conn.failedReadAt (.onRead buf) = some (last, err) ↔
      readLoop (unread (conn.feedReadBio buf).1.ssl + 1) (conn.feedReadBio buf).1 = (last, some (true, err)) := by
  unfold failedReadAt
  dsimp only
  rw [if_pos ⟨feeds.1, feeds.2, whole⟩]
  generalize readLoop (unread (conn.feedReadBio buf).1.ssl + 1) (conn.feedReadBio buf).1 = answer
  rcases answer with ⟨other, _ | ⟨_ | _, code⟩⟩
  · simp
  · simp
  · simp

theorem noAlert_read_iff {conn : SslConnection Engine} {buf : Bytes} (feeds : conn.state = .ESTABLISHED ∧ buf ≠ [])
    (whole : (conn.feedReadBio buf).2 = true) (noHandshake : conn.handshakeAt (.onRead buf) = none) :
    NoAlert conn (.onRead buf) ↔
      ∀ at_, (conn.feedReadBio buf).1.readShutdown = some at_ → bioPending at_.ssl = 0 := by
  have comes := failedReadAt_onRead feeds whole
  rw [read_pending_iff]
  apply Iff.intro
  · exact fun noAlert last err run => noAlert.read last err ((comes last err).mpr run)
  · intro nothing
    constructor
    · intro next err found
      cases noHandshake.symm.trans found
    · exact fun last err found => nothing last err ((comes last err).mp found)

theorem onRead_pending_iff (conn : SslConnection Engine) (buf : Bytes) :
    (∀ at_, conn.shutdownAt (.onRead buf) = some at_ → bioPending at_.ssl = 0) ↔ NoAlert conn (.onRead buf) := by
  have fed : ∀ at_, feedShutdown buf.length conn buf = some at_ → bioPending at_.ssl = 0 := by
    intro at_ found
    have hands := (handsOver_feedLoop buf.length conn buf).1
    rw [found] at hands
    exact hands.2.2
  unfold shutdownAt
  dsimp only
  by_cases shaking : conn.state = .HANDSHAKE
  · have noRead : conn.failedReadAt (.onRead buf) = none := by simp [failedReadAt, shaking]
    rw [if_pos shaking]
    cases whole : (conn.feedReadBio buf).2 with
    | false => exact iff_of_true fed (noAlert_of_none (by simp [handshakeAt, whole]) noRead)
    | true => exact (noAlert_handshake_iff (by simp [handshakeAt, shaking, whole]) noRead).symm
  · have noHandshake : conn.handshakeAt (.onRead buf) = none := by simp [handshakeAt, shaking]
    rw [if_neg shaking]
    by_cases feeds : conn.state = .ESTABLISHED ∧ buf ≠ []
    · rw [if_pos feeds]
      cases whole : (conn.feedReadBio buf).2 with
      | false => exact iff_of_true fed (noAlert_of_none noHandshake (by simp [failedReadAt, whole]))
      | true => exact (noAlert_read_iff feeds whole noHandshake).symm
    · have noRead : conn.failedReadAt (.onRead buf) = none := by
        unfold failedReadAt
        exact if_neg fun all => feeds ⟨all.1, all.2.1⟩
      rw [if_neg feeds]
      apply iff_of_true _ (noAlert_of_none noHandshake noRead)
      intro at_ found
      cases found

theorem onWriteComplete_pending_iff (conn : SslConnection Engine) :
    (∀ at_, conn.shutdownAt .onWriteComplete = some at_ → bioPending at_.ssl = 0) ↔
      NoAlert conn .onWriteComplete := by
  unfold shutdownAt
  dsimp only
  by_cases shaking : conn.state = .HANDSHAKE
  · rw [if_pos shaking]
    exact (noAlert_handshake_iff (by simp [handshakeAt, shaking]) rfl).symm
  · rw [if_neg shaking]
    apply iff_of_true _ (noAlert_of_none (by simp [handshakeAt, shaking]) rfl)
    intro at_ found
    split at found
    · have hands := handsOver_drain conn.flushWriteBio
      rw [found] at hands
      exact hands.2.2
    · cases found

/-- Exactly the calls in which no handshake and no `SSL_read` fails for good with an alert pending. -/
theorem handed_over_iff (conn : SslConnection Engine) (call : TlsCall) : HandedOver conn call ↔ NoAlert conn call := by
  rw [handedOver_iff]
  cases call with
  | startHandshake => exact (@noAlert_handshake_iff _ _ conn conn .startHandshake rfl rfl).symm
  | onRead buf => exact onRead_pending_iff conn buf
  | onWriteComplete => exact onWriteComplete_pending_iff conn
  | send data =>
    apply iff_of_true _ (noAlert_of_none rfl rfl)
    intro at_ found
    have hands := handsOver_send conn data
    change conn.sendShutdown data = some at_ at found
    rw [found] at hands
    exact hands.2.2
  | retrieve n =>
    apply iff_of_true _ (noAlert_of_none rfl rfl)
    intro at_ found
    cases found

end SslConnection

instance : MemoryOpenSSL Stranger where
  bioRead_memory ssl size positive some_ := by
    intro nothing
    rcases List.take_eq_nil_iff.mp nothing with none_ | empty
    · exact absurd none_ (Nat.ne_of_gt positive)
    · change 0 < ssl.pending.length at some_
      rw [empty] at some_
      exact absurd some_ (Nat.lt_irrefl 0)

namespace SslConnection

/-- A record of application data before any handshake; the alert is sent after `shutdown()`. -/
theorem alert_sent_late :
    ¬ ∀ (conn : SslConnection Stranger) (call : TlsCall), HandedOver conn call := by
  intro claimed
  have late := (claimed { ssl := {} } (.onRead ([23, 3, 3, 0, 5] ++ bytes "hello"))).silent []
    [.connSend unexpectedMessageAlert] rfl unexpectedMessageAlert
  exact late List.mem_cons_self

end SslConnection

end Ssl
