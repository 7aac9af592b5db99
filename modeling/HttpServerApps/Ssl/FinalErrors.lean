import HttpServerApps.Common.Places
import HttpServerApps.Ssl.Watched

namespace Ssl.SslConnection

open Common OpenSSL

variable {Engine : Type} [OpenSSL Engine]

/-- A call on a connection; `retrieve` takes bytes from the buffer that `getDecryptedBuffer` gives out. -/
inductive TlsCall where
  | startHandshake
  | onRead (buf : Bytes)
  | onWriteComplete
  | send (data : Bytes)
  | retrieve (n : Nat)

def tlsStep (conn : SslConnection Engine) : TlsCall → SslConnection Engine
  | .startHandshake => conn.startHandshake
  | .onRead buf => (conn.onRead buf).1
  | .onWriteComplete => conn.onWriteComplete
  | .send data => conn.send data
  | .retrieve n => { conn with decryptedBuffer := conn.decryptedBuffer.drop n }

def tlsCalls : System (SslConnection Engine) TlsCall := ⟨fun conn call => some (conn.tlsStep call)⟩

def isHandshakeCompleted (conn : SslConnection Engine) : Bool := conn.state = .ESTABLISHED

theorem unwatched_step (conn : SslConnection (Watched Engine)) (call : TlsCall) :
    (conn.tlsStep call).unwatched = conn.unwatched.tlsStep call := by
  cases call with
  | startHandshake => exact unwatched_handshake conn
  | onRead buf => exact (congrArg Prod.fst (unwatched_onRead conn buf)).symm
  | onWriteComplete => exact unwatched_onWriteComplete conn
  | send data => exact unwatched_send conn data
  | retrieve n => rfl

/-- A fatal report is the last that moves anything, and leaves the connection in the state ERROR. -/
def Last (new : List Report) (state : SSLState) : Prop :=
  ∀ first report rest, new = first ++ report :: rest → report.fatal = true →
    state = .ERROR ∧ ∀ later ∈ rest, later.moves = false

/-- The reports of a piece of a call: what was read is appended, a fatal report is final, and a connection in the state
    ERROR stays there and moves nothing. -/
structure Traced (before after : SslConnection (Watched Engine)) (new : List Report) : Prop where
  reports : after.reports = before.reports ++ new
  decrypted : after.decryptedBuffer = before.decryptedBuffer ++ new.flatMap Report.data
  last : Last new after.state
  respects : before.state = .ERROR → after.state = .ERROR ∧ ∀ report ∈ new, report.moves = false

def Obeys (before after : SslConnection (Watched Engine)) : Prop := ∃ new, Traced before after new

omit [OpenSSL Engine] in
theorem Obeys.trans {first second third : SslConnection (Watched Engine)} (left : Obeys first second)
    (right : Obeys second third) : Obeys first third := by
  rcases left with ⟨old, before⟩
  rcases right with ⟨new, after⟩
  refine ⟨old ++ new, ?_, ?_, ?_, ?_⟩
  · rw [after.reports, before.reports, List.append_assoc]
  · rw [after.decrypted, before.decrypted, List.flatMap_append, List.append_assoc]
  · intro front report rest shape fatal
    rcases append_placed shape with ⟨part, inOld, rfl⟩ | ⟨part, rfl, inNew⟩
    · rcases before.last front report part inOld fatal with ⟨state, still⟩
      rcases after.respects state with ⟨stays, more⟩
      apply And.intro stays
      intro later member
      rcases List.mem_append.mp member with inside | beyond
      · exact still later inside
      · exact more later beyond
    · exact after.last part report rest inNew fatal
  · intro state
    rcases before.respects state with ⟨middle, still⟩
    rcases after.respects middle with ⟨stays, more⟩
    apply And.intro stays
    intro report member
    rcases List.mem_append.mp member with inside | beyond
    · exact still report inside
    · exact more report beyond

omit [OpenSSL Engine] in
theorem obeys_quiet {before after : SslConnection (Watched Engine)} (reports : after.reports = before.reports)
    (decrypted : after.decryptedBuffer = before.decryptedBuffer)
    (state : before.state = .ERROR → after.state = .ERROR) : Obeys before after := by
  refine ⟨[], by rw [reports, List.append_nil], by rw [decrypted]; simp, ?_, ?_⟩
  · intro first report rest shape
    cases first <;> cases shape
  · exact fun error => ⟨state error, nofun⟩

omit [OpenSSL Engine] in
theorem Obeys.refl (conn : SslConnection (Watched Engine)) : Obeys conn conn := obeys_quiet rfl rfl id

omit [OpenSSL Engine] in
theorem last_single {report : Report} {state : SSLState} (final : report.fatal = true → state = .ERROR) :
    Last [report] state := by
  intro first other rest shape fatal
  cases first with
  | nil =>
    cases shape
    exact ⟨final fatal, nofun⟩
  | cons head first =>
    have length := congrArg List.length shape
    simp at length

omit [OpenSSL Engine] in
theorem obeys_one {before after : SslConnection (Watched Engine)} {report : Report} (open_ : before.state ≠ .ERROR)
    (reports : after.reports = before.reports ++ [report])
    (decrypted : after.decryptedBuffer = before.decryptedBuffer ++ report.data)
    (final : report.fatal = true → after.state = .ERROR) : Obeys before after := by
  refine ⟨[report], reports, ?_, last_single final, fun error => absurd error open_⟩
  rw [decrypted]
  simp

/-! Each piece of a call. -/

theorem reports_flush (conn : SslConnection (Watched Engine)) : conn.flushWriteBio.reports = conn.reports := by
  have loop : ∀ (fuel : Nat) (conn : SslConnection (Watched Engine)), (flushLoop fuel conn).reports = conn.reports := by
    intro fuel
    induction fuel with
    | zero => exact fun _ => rfl
    | succ fuel ih =>
      intro conn
      simp only [flushLoop]
      split
      · split
        · exact ih _
        · rfl
      · rfl
  exact loop _ conn

theorem decrypted_flush (conn : SslConnection (Watched Engine)) :
    conn.flushWriteBio.decryptedBuffer = conn.decryptedBuffer := (flushLoop_frame _ conn).choose_spec.2.2.2

theorem obeys_flush (conn : SslConnection (Watched Engine)) : Obeys conn conn.flushWriteBio :=
  obeys_quiet (reports_flush conn) (decrypted_flush conn) fun error => (state_flush conn).trans error

theorem obeys_fatal {before conn : SslConnection (Watched Engine)} {report : Report} (open_ : before.state ≠ .ERROR)
    (reports : conn.reports = before.reports ++ [report])
    (decrypted : conn.decryptedBuffer = before.decryptedBuffer ++ report.data) :
    Obeys before (((conn.setState .ERROR).flushWriteBio).record .connShutdown) := by
  apply @obeys_one _ before _ report open_
  · exact (reports_flush _).trans reports
  · exact (decrypted_flush _).trans decrypted
  · exact fun _ => state_flush _

/-! A failed write, with what `drainPendingPlain` and `send` do about it. -/

theorem reports_write {conn : SslConnection (Watched Engine)} {offered : Bytes} {result : WriteResult}
    (shape : (conn.write offered).1 = result) :
    (conn.write offered).2.reports = conn.reports ++ [.write result] := by
  rw [← shape]
  rfl

theorem obeys_survived {conn after : SslConnection (Watched Engine)} {offered : Bytes} {err : ErrorCode}
    (open_ : conn.state ≠ .ERROR) (failed : (conn.write offered).1 = .failed err) (mild : err.fatal = false)
    (reports : after.reports = (conn.write offered).2.reports)
    (decrypted : after.decryptedBuffer = conn.decryptedBuffer) : Obeys conn after := by
  apply @obeys_one _ conn after _ open_ (reports.trans (reports_write failed))
  · exact decrypted.trans (List.append_nil _).symm
  · intro fatal
    change err.fatal = true at fatal
    rw [mild] at fatal
    cases fatal

theorem obeys_dead {conn : SslConnection (Watched Engine)} {offered : Bytes} {err : ErrorCode}
    (open_ : conn.state ≠ .ERROR) (failed : (conn.write offered).1 = .failed err) :
    Obeys conn (((((conn.write offered).2.setPending []).setState .ERROR).flushWriteBio).record .connShutdown) :=
  @obeys_fatal _ _ conn ((conn.write offered).2.setPending []) _ open_ (reports_write failed) (List.append_nil _).symm

theorem obeys_drainFailed {conn : SslConnection (Watched Engine)} {offered : Bytes} {err : ErrorCode}
    (open_ : conn.state ≠ .ERROR) (failed : (conn.write offered).1 = .failed err) :
    Obeys conn ((conn.write offered).2.drainFailed err) := by
  cases err with
  | wantRead => exact obeys_survived open_ failed rfl (reports_flush _) (decrypted_flush _)
  | wantWrite => exact obeys_survived open_ failed rfl (reports_flush _) (decrypted_flush _)
  | zeroReturn => exact obeys_survived open_ failed rfl (reports_flush _) (decrypted_flush _)
  | none => exact obeys_dead open_ failed
  | syscall => exact obeys_dead open_ failed
  | ssl => exact obeys_dead open_ failed
  | other => exact obeys_dead open_ failed

theorem obeys_accepted {conn : SslConnection (Watched Engine)} {offered : Bytes} {n : Nat} (open_ : conn.state ≠ .ERROR)
    (took : (conn.write offered).1 = .accepted n) (pendingPlain : Bytes) :
    Obeys conn ((conn.write offered).2.setPending pendingPlain).flushWriteBio := by
  apply @obeys_one _ conn _ (.write (conn.write offered).1) open_
  · exact reports_flush _
  · exact (decrypted_flush _).trans (List.append_nil _).symm
  · intro fatal
    rw [took] at fatal
    cases fatal

theorem obeys_drainLoop (spins : Nat) {conn : SslConnection (Watched Engine)} (open_ : conn.state ≠ .ERROR) :
    Obeys conn (drainLoop spins conn) := by
  induction spins generalizing conn with
  | zero =>
    unfold drainLoop
    split
    · exact obeys_quiet rfl rfl fun _ => rfl
    · exact obeys_flush conn
  | succ spins ih =>
    unfold drainLoop
    split
    · exact obeys_flush conn
    · have accepted := @obeys_accepted _ _ conn (conn.pendingPlain.take INT_MAX)
      have failed := @obeys_drainFailed _ _ conn (conn.pendingPlain.take INT_MAX)
      have state : (conn.write (conn.pendingPlain.take INT_MAX)).2.state = conn.state := rfl
      rcases shape : conn.write (conn.pendingPlain.take INT_MAX) with ⟨result, next⟩
      rw [shape] at accepted failed state
      cases result with
      | accepted n =>
        have still : ((next.setPending (next.pendingPlain.drop n)).flushWriteBio).state ≠ .ERROR := by
          rw [state_flush]
          exact fun error => open_ (state.symm.trans error)
        exact (accepted open_ rfl (next.pendingPlain.drop n)).trans (ih still)
      | failed err => exact failed open_ rfl

theorem obeys_drain (conn : SslConnection (Watched Engine)) : Obeys conn conn.drainPendingPlain := by
  unfold drainPendingPlain
  split
  · exact Obeys.refl conn
  · next established =>
    have open_ : conn.state ≠ .ERROR := fun error => established (by rw [error]; nofun)
    exact obeys_drainLoop kMaxSpins open_

theorem obeys_sendFailed {conn : SslConnection (Watched Engine)} {offered : Bytes} {err : ErrorCode}
    (open_ : conn.state ≠ .ERROR) (failed : (conn.write offered).1 = .failed err) (data : Bytes) :
    Obeys conn ((conn.write offered).2.sendFailed err data) := by
  have suspended : err.fatal = false → Obeys conn
      ((conn.write offered).2.flushWriteBio.setPending
        ((conn.write offered).2.pendingPlain ++ data)).drainPendingPlain := by
    intro mild
    have waits : Obeys conn
        ((conn.write offered).2.flushWriteBio.setPending ((conn.write offered).2.pendingPlain ++ data)) :=
      obeys_survived open_ failed mild (reports_flush (conn.write offered).2) (decrypted_flush (conn.write offered).2)
    exact waits.trans (obeys_drain _)
  cases err with
  | wantRead => exact suspended rfl
  | wantWrite => exact suspended rfl
  | zeroReturn => exact obeys_survived open_ failed rfl (reports_flush _) (decrypted_flush _)
  | none => exact obeys_dead open_ failed
  | syscall => exact obeys_dead open_ failed
  | ssl => exact obeys_dead open_ failed
  | other => exact obeys_dead open_ failed

theorem obeys_sendLoop (fuel : Nat) {conn : SslConnection (Watched Engine)} (open_ : conn.state ≠ .ERROR)
    (data : Bytes) : Obeys conn (sendLoop fuel conn data) := by
  induction fuel generalizing conn data with
  | zero => exact obeys_flush conn
  | succ fuel ih =>
    unfold sendLoop
    split
    · exact obeys_flush conn
    · have accepted := @obeys_accepted _ _ conn (data.take INT_MAX)
      have failed := @obeys_sendFailed _ _ conn (data.take INT_MAX)
      have state : (conn.write (data.take INT_MAX)).2.state = conn.state := rfl
      rcases shape : conn.write (data.take INT_MAX) with ⟨result, next⟩
      rw [shape] at accepted failed state
      cases result with
      | accepted n =>
        have still : next.flushWriteBio.state ≠ .ERROR := by
          rw [state_flush]
          exact fun error => open_ (state.symm.trans error)
        exact (accepted open_ rfl next.pendingPlain).trans (ih still (data.drop n))
      | failed err => exact failed open_ rfl data

theorem obeys_send (conn : SslConnection (Watched Engine)) (data : Bytes) : Obeys conn (conn.send data) := by
  unfold send
  split
  · exact Obeys.refl conn
  · next established =>
    split
    · exact Obeys.refl conn
    · have open_ : conn.state ≠ .ERROR := fun error => established (by rw [error]; nofun)
      exact obeys_sendLoop data.length open_ data

theorem obeys_feedLoop (fuel : Nat) {conn : SslConnection (Watched Engine)} (open_ : conn.state ≠ .ERROR)
    (data : Bytes) : Obeys conn (feedLoop fuel conn data).1 := by
  induction fuel generalizing conn data with
  | zero => exact Obeys.refl conn
  | succ fuel ih =>
    simp only [feedLoop]
    split
    · exact Obeys.refl conn
    · split
      · exact @obeys_fatal _ _ conn _ (.fed _) open_ rfl (List.append_nil _).symm
      · next whole =>
        have took : (bioWrite conn.ssl (data.take INT_MAX)).1 = (data.take INT_MAX).length := not_not.mp whole
        have fed : Obeys conn (conn.setSsl (bioWrite conn.ssl (data.take INT_MAX)).2) := by
          apply @obeys_one _ conn (conn.setSsl (bioWrite conn.ssl (data.take INT_MAX)).2) (.fed _) open_ rfl
            (List.append_nil _).symm
          intro fatal
          have same : (bioWrite conn.ssl.engine (data.take INT_MAX)).1 = (data.take INT_MAX).length := took
          simp [Report.fatal, same] at fatal
        exact fed.trans (@ih (conn.setSsl (bioWrite conn.ssl (data.take INT_MAX)).2) open_ (data.drop INT_MAX))

/-! The handshake. -/

def afterHandshake (state : SSLState) : HandshakeResult → SSLState
  | .done => .ESTABLISHED
  | .failed _ => state

theorem handshake_fields (conn : SslConnection (Watched Engine)) :
    conn.handleHandshake.reports = conn.reports ++ [.handshake (doHandshake conn.ssl).1] ∧
      conn.handleHandshake.decryptedBuffer = conn.decryptedBuffer ∧
      conn.handleHandshake.state = afterHandshake conn.state (doHandshake conn.ssl).1 := by
  have called : (conn.setSsl (doHandshake conn.ssl).2).reports =
      conn.reports ++ [.handshake (doHandshake conn.ssl).1] := rfl
  simp only [handleHandshake]
  split
  · next result =>
    rw [result]
    exact ⟨(reports_flush _).trans (result ▸ called), decrypted_flush _, state_flush _⟩
  · next result =>
    rw [result]
    exact ⟨(reports_flush _).trans (result ▸ called), decrypted_flush _, state_flush _⟩
  · next result =>
    rw [result]
    exact ⟨(reports_flush _).trans (result ▸ called), decrypted_flush _, state_flush _⟩
  · next err _ _ result =>
    rw [result]
    exact ⟨(reports_flush _).trans (result ▸ called), decrypted_flush _, state_flush _⟩

/-! Reading ends with a failed `SSL_read`, the one report of the loop that can be fatal. -/

theorem obeys_readLoop (fuel : Nat) {conn : SslConnection (Watched Engine)} (open_ : conn.state ≠ .ERROR)
    (enough : unread conn.ssl < fuel) : ∃ middle last negative err,
      readLoop fuel conn = (last, some (negative, err)) ∧ Obeys conn middle ∧ middle.state = conn.state ∧
        last.reports = middle.reports ++ [.read (.failed negative err)] ∧
        last.decryptedBuffer = middle.decryptedBuffer ∧ last.state = middle.state := by
  induction fuel generalizing conn with
  | zero => omega
  | succ fuel ih =>
    simp only [readLoop]
    cases result : (sslRead conn.ssl 4096).1 with
    | failed negative err =>
      refine ⟨conn, _, negative, err, rfl, Obeys.refl conn, rfl, ?_, rfl, rfl⟩
      rw [← result]
      rfl
    | data bytes =>
      have less := (sslRead_unread conn.ssl 4096 bytes (by omega) result).2
      have one : Obeys conn { (conn.setSsl (sslRead conn.ssl 4096).2).record (.sslRead (.data bytes)) with
          decryptedBuffer := conn.decryptedBuffer ++ bytes } := by
        apply @obeys_one _ conn _ (.read (.data bytes)) open_
        · rw [← result]
          rfl
        · rfl
        · intro fatal
          cases fatal
      rcases @ih { (conn.setSsl (sslRead conn.ssl 4096).2).record (.sslRead (.data bytes)) with
          decryptedBuffer := conn.decryptedBuffer ++ bytes } open_ (Nat.lt_of_lt_of_le less (Nat.lt_succ_iff.mp enough))
        with ⟨middle, last, negative, err, run, obeys, fields⟩
      exact ⟨middle, last, negative, err, run, one.trans obeys, fields⟩

theorem drain_writes {conn : SslConnection (Watched Engine)} (established : conn.state = .ESTABLISHED)
    (waiting : conn.pendingPlain ≠ []) : ∃ result rest,
      conn.drainPendingPlain.reports = conn.reports ++ .write result :: rest := by
  unfold drainPendingPlain kMaxSpins
  rw [if_neg (not_not.mpr established)]
  unfold drainLoop
  rw [if_neg waiting]
  have written := @reports_write _ _ conn (conn.pendingPlain.take INT_MAX) _ rfl
  have state : (conn.write (conn.pendingPlain.take INT_MAX)).2.state = .ESTABLISHED := established
  rcases shape : conn.write (conn.pendingPlain.take INT_MAX) with ⟨result, next⟩
  rw [shape] at written state
  cases result with
  | accepted n =>
    have open_ : ((next.setPending (next.pendingPlain.drop n)).flushWriteBio).state ≠ .ERROR := by
      rw [state_flush]
      exact ne_of_eq_of_ne state (by decide)
    rcases obeys_drainLoop 65535 open_ with ⟨new, traced⟩
    refine ⟨.accepted n, new, ?_⟩
    have flushed := reports_flush (next.setPending (next.pendingPlain.drop n))
    calc _ = (next.setPending (next.pendingPlain.drop n)).flushWriteBio.reports ++ new := traced.reports
      _ = next.reports ++ new := by
        rw [flushed]
        rfl
      _ = _ := by rw [written, List.append_assoc, List.singleton_append]
  | failed err =>
    refine ⟨.failed err, [], ?_⟩
    have same : (next.drainFailed err).reports = next.reports := by
      cases err <;> exact reports_flush _
    exact same.trans written

/-! The property. -/

/-- What is asked once `first` and then a fatal failure have been reported, and since then `rest`. -/
structure Final (conn : SslConnection (Watched Engine)) (first rest : List Report) : Prop where
  state : conn.state = .ERROR
  incomplete : conn.isHandshakeCompleted = false
  still : ∀ later ∈ rest, later.moves = false
  kept : conn.decryptedBuffer <:+ first.flatMap Report.data

structure ErrorsFinal (conn : SslConnection (Watched Engine)) : Prop where
  decrypted : conn.decryptedBuffer <:+ conn.reports.flatMap Report.data
  final : ∀ first report rest, conn.reports = first ++ report :: rest → report.fatal = true → conn.Final first rest

omit [OpenSSL Engine] in
theorem flatMap_still {rest : List Report} (still : ∀ later ∈ rest, later.moves = false) :
    rest.flatMap Report.data = [] :=
  List.flatMap_eq_nil_iff.mpr fun later member => Report.data_of_still (still later member)

omit [OpenSSL Engine] in
theorem final_of {conn : SslConnection (Watched Engine)} {first rest : List Report} (state : conn.state = .ERROR)
    (still : ∀ later ∈ rest, later.moves = false) (kept : conn.decryptedBuffer <:+ first.flatMap Report.data) :
    conn.Final first rest := by
  refine ⟨state, ?_, still, kept⟩
  unfold isHandshakeCompleted
  rw [state]
  rfl

omit [OpenSSL Engine] in
theorem ErrorsFinal.obeys {before after : SslConnection (Watched Engine)} (good : ErrorsFinal before)
    (obeys : Obeys before after) : ErrorsFinal after := by
  rcases obeys with ⟨new, traced⟩
  have grown : ∀ {old : List Report} {more : List Report}, before.decryptedBuffer <:+ old.flatMap Report.data →
      before.decryptedBuffer ++ more.flatMap Report.data <:+ (old ++ more).flatMap Report.data := by
    intro old more suffix
    rcases suffix with ⟨taken, shape⟩
    exact ⟨taken, by rw [List.flatMap_append, ← shape, List.append_assoc]⟩
  apply ErrorsFinal.mk
  · rw [traced.decrypted, traced.reports]
    exact grown good.decrypted
  · intro first report rest shape fatal
    rw [traced.reports] at shape
    rcases append_placed shape with ⟨part, inOld, rfl⟩ | ⟨part, rfl, inNew⟩
    · have old := good.final first report part inOld fatal
      rcases traced.respects old.state with ⟨state, still⟩
      apply final_of state
      · intro later member
        rcases List.mem_append.mp member with inside | beyond
        · exact old.still later inside
        · exact still later beyond
      · rw [traced.decrypted, flatMap_still still, List.append_nil]
        exact old.kept
    · rcases traced.last part report rest inNew fatal with ⟨state, still⟩
      apply final_of state still
      have nothing : (report :: rest).flatMap Report.data = [] := by
        rw [List.flatMap_cons, Report.data_of_fatal fatal, flatMap_still still]
        rfl
      rw [traced.decrypted, inNew, List.flatMap_append, nothing, List.append_nil]
      exact grown good.decrypted

/-! The steps that keep it. -/

/-- What `SSL_do_handshake` may answer: a fatal failure only where the state is ERROR already, and success there
    only before any fatal failure. -/
def HandshakeOk (conn : SslConnection (Watched Engine)) (result : HandshakeResult) : Prop :=
  (result.fatal = true → conn.state = .ERROR) ∧
    (result = .done → conn.state = .ERROR → ∀ report ∈ conn.reports, report.fatal = false)

theorem handshake_iff {conn : SslConnection (Watched Engine)} (good : ErrorsFinal conn) :
    ErrorsFinal conn.handleHandshake ↔ HandshakeOk conn (doHandshake conn.ssl).1 := by
  rcases handshake_fields conn with ⟨reports, decrypted, state⟩
  apply Iff.intro
  · intro next
    apply And.intro
    · intro fatal
      have ends := (next.final conn.reports _ [] reports fatal).state
      rw [state] at ends
      cases result : (doHandshake conn.ssl).1 with
      | done =>
        rw [result] at fatal
        cases fatal
      | failed err =>
        rw [result] at ends
        exact ends
    · intro done error report member
      by_contra fatal
      rcases List.append_of_mem member with ⟨first, rest, shape⟩
      have whole :
          conn.handleHandshake.reports = first ++ report :: (rest ++ [.handshake (doHandshake conn.ssl).1]) := by
        rw [reports, shape, List.append_assoc, List.cons_append]
      have ends := (next.final first report _ whole (Bool.not_eq_false _ ▸ fatal)).state
      rw [state, done] at ends
      cases ends
  · rintro ⟨refused, accepted⟩
    cases result : (doHandshake conn.ssl).1 with
    | failed err =>
      rw [result] at reports state refused
      apply good.obeys
      refine ⟨[.handshake (.failed err)], reports, ?_, ?_, ?_⟩
      · rw [decrypted]
        exact (List.append_nil _).symm
      · exact last_single fun fatal => state.trans (refused fatal)
      · intro error
        exact ⟨state.trans error, fun report member => by rw [List.mem_singleton.mp member]; rfl⟩
    | done =>
      rw [result] at reports
      -- No call has failed so far: a failure would have put the connection in the state ERROR.
      have mild : ∀ report ∈ conn.reports, report.fatal = false := by
        by_cases error : conn.state = .ERROR
        · exact accepted result error
        · intro report member
          by_contra fatal
          rcases List.append_of_mem member with ⟨first, rest, shape⟩
          exact error (good.final first report rest shape (Bool.not_eq_false _ ▸ fatal)).state
      apply ErrorsFinal.mk
      · rw [decrypted, reports, List.flatMap_append]
        simpa [Report.data] using good.decrypted
      · intro first report rest shape fatal
        have member : report ∈ conn.handleHandshake.reports := by
          rw [shape]
          exact List.mem_append_right _ List.mem_cons_self
        rw [reports] at member
        rcases List.mem_append.mp member with old | new
        · rw [mild report old] at fatal
          cases fatal
        · rw [List.mem_singleton.mp new] at fatal
          cases fatal

theorem obeys_settle (conn : SslConnection (Watched Engine)) : Obeys conn conn.flushWriteBio.drainPendingPlain :=
  (obeys_flush conn).trans (obeys_drain _)

omit [OpenSSL Engine] in
theorem handleError_fields (conn : SslConnection (Watched Engine)) (error : SSLError) :
    (conn.handleError error).reports = conn.reports ∧
      (conn.handleError error).decryptedBuffer = conn.decryptedBuffer := by
  unfold handleError
  split
  all_goals exact ⟨rfl, rfl⟩

omit [OpenSSL Engine] in
theorem obeys_negative {middle last : SslConnection (Watched Engine)} {err : ErrorCode}
    (open_ : middle.state ≠ .ERROR) (reports : last.reports = middle.reports ++ [.read (.failed true err)])
    (decrypted : last.decryptedBuffer = middle.decryptedBuffer) :
    Obeys middle (if getLastError err ≠ .WANT_READ ∧ getLastError err ≠ .WANT_WRITE then
      last.handleError (getLastError err) else last) := by
  rcases handleError_fields last (getLastError err) with ⟨sameReports, sameDecrypted⟩
  have nothing : middle.decryptedBuffer = middle.decryptedBuffer ++ [] := (List.append_nil _).symm
  split
  · apply obeys_one open_ (sameReports.trans reports) ((sameDecrypted.trans decrypted).trans nothing)
    intro fatal
    cases err with
    | ssl => rfl
    | syscall => rfl
    | _ => cases fatal
  · next expected =>
    apply obeys_one open_ reports (decrypted.trans nothing)
    intro fatal
    cases err with
    | ssl => exact absurd ⟨nofun, nofun⟩ expected
    | syscall => exact absurd ⟨nofun, nofun⟩ expected
    | _ => cases fatal

/-- A fatal failure that `SSL_read` reports with the return value 0 is passed over, and more is written or the
    connection stays established. -/
theorem zero_passed_over {middle last : SslConnection (Watched Engine)} {err : ErrorCode}
    (established : last.state = .ESTABLISHED)
    (reports : last.reports = middle.reports ++ [.read (.failed false err)]) (fatal : err.fatal = true) :
    ¬ ErrorsFinal last.flushWriteBio.drainPendingPlain := by
  intro good
  have flushed := reports_flush last
  by_cases waiting : last.pendingPlain = []
  · have idle : last.flushWriteBio.drainPendingPlain.state = .ESTABLISHED ∧
        last.flushWriteBio.drainPendingPlain.reports = last.reports := by
      unfold drainPendingPlain kMaxSpins drainLoop
      rw [if_neg (not_not.mpr ((state_flush last).trans established)), if_pos ((pendingPlain_flush last).trans waiting)]
      exact ⟨(state_flush _).trans ((state_flush last).trans established), (reports_flush _).trans flushed⟩
    have ends := (good.final middle.reports (.read (.failed false err)) [] (idle.2.trans reports) fatal).state
    rw [idle.1] at ends
    cases ends
  · have pending : last.flushWriteBio.pendingPlain ≠ [] := by
      rw [pendingPlain_flush]
      exact waiting
    rcases drain_writes ((state_flush last).trans established) pending with ⟨result, rest, shape⟩
    rw [flushed, reports, List.append_assoc, List.singleton_append] at shape
    have still := (good.final middle.reports _ _ shape fatal).still _ List.mem_cons_self
    cases still

/-- The answer of `SSL_do_handshake` in a call that comes to it. -/
def handshakeOf (conn : SslConnection (Watched Engine)) : TlsCall → Option HandshakeResult
  | .startHandshake => some (doHandshake conn.ssl).1
  | .onRead buf =>
    if conn.state = .HANDSHAKE ∧ (conn.feedReadBio buf).2 = true then
      some (doHandshake (conn.feedReadBio buf).1.ssl).1
    else none
  | .onWriteComplete => if conn.state = .HANDSHAKE then some (doHandshake conn.flushWriteBio.ssl).1 else none
  | .send _ | .retrieve _ => none

/-- The answer that ends the `SSL_read` loop in a call that comes to it: whether the return value is negative, and the
    error code. -/
def readEnd (conn : SslConnection (Watched Engine)) : TlsCall → Option (Bool × ErrorCode)
  | .onRead buf =>
    if conn.state = .ESTABLISHED ∧ buf ≠ [] ∧ (conn.feedReadBio buf).2 = true then
      (readLoop (unread (conn.feedReadBio buf).1.ssl + 1) (conn.feedReadBio buf).1).2
    else none
  | _ => none

/-- `SSL_do_handshake` fails fatally only in the state ERROR and succeeds there only before any fatal failure, and
    `SSL_read` reports no fatal failure with the return value 0. -/
def AnswersOk (conn : SslConnection (Watched Engine)) (call : TlsCall) : Prop :=
  (∀ result, conn.handshakeOf call = some result → HandshakeOk conn result) ∧
    ∀ err, conn.readEnd call = some (false, err) → err.fatal = false

omit [OpenSSL Engine] in
theorem handshakeOk_open {conn : SslConnection (Watched Engine)} (open_ : conn.state ≠ .ERROR)
    (result : HandshakeResult) : HandshakeOk conn result ↔ result.fatal = false := by
  apply Iff.intro
  · intro ok
    by_contra fatal
    exact open_ (ok.1 (Bool.not_eq_false _ ▸ fatal))
  · intro mild
    apply And.intro
    · intro fatal
      rw [mild] at fatal
      cases fatal
    · exact fun _ error => absurd error open_

/-- The handshake a call comes to with the state of before the call, HANDSHAKE. -/
theorem handshake_reached_iff {conn next : SslConnection (Watched Engine)} (shaking : conn.state = .HANDSHAKE)
    (same : next.state = conn.state) (good : ErrorsFinal next) :
    ErrorsFinal next.handleHandshake ↔ HandshakeOk conn (doHandshake next.ssl).1 := by
  have open_ : conn.state ≠ .ERROR := by rw [shaking]; nofun
  have nextOpen : next.state ≠ .ERROR := by rw [same]; exact open_
  exact (handshake_iff good).trans ((handshakeOk_open nextOpen _).trans (handshakeOk_open open_ _).symm)

theorem onRead_handshake_iff {conn : SslConnection (Watched Engine)} (good : ErrorsFinal conn) (buf : Bytes)
    (shaking : conn.state = .HANDSHAKE) : ErrorsFinal (conn.onRead buf).1 ↔ AnswersOk conn (.onRead buf) := by
  have open_ : conn.state ≠ .ERROR := by rw [shaking]; nofun
  have notYet : ¬ conn.state = .ESTABLISHED := by rw [shaking]; nofun
  have fed : Obeys conn (conn.feedReadBio buf).1 := obeys_feedLoop buf.length open_ buf
  have kept : (conn.feedReadBio buf).2 = true → (conn.feedReadBio buf).1.state = conn.state :=
    state_feedLoop buf.length conn buf
  unfold AnswersOk handshakeOf readEnd onRead
  rw [if_pos shaking]
  dsimp only
  generalize conn.feedReadBio buf = answer at fed kept ⊢
  rcases answer with ⟨next, whole⟩
  cases whole with
  | false => simpa [shaking] using good.obeys fed
  | true => simpa [shaking] using handshake_reached_iff shaking (kept rfl) (good.obeys fed)

theorem onRead_established_iff {conn : SslConnection (Watched Engine)} (good : ErrorsFinal conn) (buf : Bytes)
    (established : conn.state = .ESTABLISHED) : ErrorsFinal (conn.onRead buf).1 ↔ AnswersOk conn (.onRead buf) := by
  have open_ : conn.state ≠ .ERROR := by rw [established]; nofun
  have later : ¬ conn.state = .HANDSHAKE := by rw [established]; nofun
  have fed : Obeys conn (conn.feedReadBio buf).1 := obeys_feedLoop buf.length open_ buf
  have kept : (conn.feedReadBio buf).2 = true → (conn.feedReadBio buf).1.state = conn.state :=
    state_feedLoop buf.length conn buf
  unfold AnswersOk handshakeOf readEnd onRead
  rw [if_neg later, if_pos established]
  dsimp only
  by_cases empty : buf = []
  · simpa [later, empty] using good
  · rw [if_neg empty]
    generalize conn.feedReadBio buf = answer at fed kept ⊢
    rcases answer with ⟨next, whole⟩
    cases whole with
    | false => simpa [later] using good.obeys fed
    | true =>
      have nextState : next.state = .ESTABLISHED := (kept rfl).trans established
      have nextOpen : next.state ≠ .ERROR := by rw [nextState]; nofun
      rcases obeys_readLoop (unread next.ssl + 1) nextOpen (Nat.lt_succ_self _) with
        ⟨middle, last, negative, err, run, read, same, reports, decrypted, state⟩
      have middleOpen : middle.state ≠ .ERROR := by rw [same]; exact nextOpen
      have middleGood := (good.obeys fed).obeys read
      cases negative with
      | true =>
        have handled := (obeys_negative middleOpen reports decrypted).trans (obeys_settle _)
        simpa [later, run] using middleGood.obeys handled
      | false =>
        by_cases fatal : err.fatal = true
        · have passed := zero_passed_over (state.trans (same.trans nextState)) reports fatal
          simpa [later, run, established, empty, fatal] using passed
        · have plain : Obeys middle last := by
            apply obeys_one middleOpen reports (decrypted.trans (List.append_nil _).symm)
            exact fun isFatal => absurd isFatal fatal
          simpa [later, run, established, empty, fatal] using middleGood.obeys (plain.trans (obeys_settle last))

theorem onRead_iff {conn : SslConnection (Watched Engine)} (good : ErrorsFinal conn) (buf : Bytes) :
    ErrorsFinal (conn.onRead buf).1 ↔ AnswersOk conn (.onRead buf) := by
  by_cases shaking : conn.state = .HANDSHAKE
  · exact onRead_handshake_iff good buf shaking
  · by_cases established : conn.state = .ESTABLISHED
    · exact onRead_established_iff good buf established
    · unfold AnswersOk handshakeOf readEnd onRead
      rw [if_neg shaking, if_neg established]
      simpa [shaking, established] using good

theorem onWriteComplete_iff {conn : SslConnection (Watched Engine)} (good : ErrorsFinal conn) :
    ErrorsFinal conn.onWriteComplete ↔ AnswersOk conn .onWriteComplete := by
  have flushed := good.obeys (obeys_flush conn)
  unfold AnswersOk handshakeOf readEnd onWriteComplete
  dsimp only
  rw [state_flush]
  by_cases shaking : conn.state = .HANDSHAKE
  · simpa [shaking] using handshake_reached_iff shaking (state_flush conn) flushed
  · by_cases established : conn.state = .ESTABLISHED
    · have drained := flushed.obeys ((obeys_drain _).trans (obeys_flush _))
      simpa [established] using drained
    · simpa [shaking, established] using flushed

/-- The step lemma: a call keeps the property exactly where OpenSSL answers so. -/
theorem tlsStep_iff {conn : SslConnection (Watched Engine)} (good : ErrorsFinal conn) (call : TlsCall) :
    ErrorsFinal (conn.tlsStep call) ↔ AnswersOk conn call := by
  cases call with
  | startHandshake => simpa [tlsStep, startHandshake, AnswersOk, handshakeOf, readEnd] using handshake_iff good
  | onRead buf => exact onRead_iff good buf
  | onWriteComplete => exact onWriteComplete_iff good
  | send data => simpa [tlsStep, AnswersOk, handshakeOf, readEnd] using good.obeys (obeys_send conn data)
  | retrieve n =>
    have retrieved : ErrorsFinal (conn.tlsStep (.retrieve n)) := by
      have fewer : (conn.tlsStep (.retrieve n)).decryptedBuffer <:+ conn.decryptedBuffer := List.drop_suffix _ _
      apply ErrorsFinal.mk (fewer.trans good.decrypted)
      intro first report rest shape fatal
      have old := good.final first report rest shape fatal
      exact final_of old.state old.still (fewer.trans old.kept)
    simpa [AnswersOk, handshakeOf, readEnd] using retrieved

/-- A new connection, with the calls to libssl watched. -/
def watch (engine : Engine) : SslConnection (Watched Engine) := { ssl := { engine := engine } }

/-- What is proved of the watched connection is proved of the connection: its runs are the same. -/
theorem unwatched_run {conn final : SslConnection (Watched Engine)} {calls : List TlsCall}
    (run : tlsCalls.run conn calls = some final) : tlsCalls.run conn.unwatched calls = some final.unwatched := by
  induction calls generalizing conn with
  | nil =>
    cases run
    rfl
  | cons call calls ih =>
    have later := @ih (conn.tlsStep call) run
    rw [unwatched_step] at later
    exact later

theorem run_total (conn : SslConnection Engine) (calls : List TlsCall) :
    ∃ final, tlsCalls.run conn calls = some final := by
  induction calls generalizing conn with
  | nil => exact ⟨conn, rfl⟩
  | cons call calls ih => exact ih (conn.tlsStep call)

/-- In a run of calls errors are final throughout if and only if OpenSSL answers every call so. -/
theorem errors_final_iff (engine : Engine) (calls : List TlsCall) :
    tlsCalls.Always ErrorsFinal (watch engine) calls ↔ tlsCalls.Everywhere AnswersOk (watch engine) calls := by
  rcases run_total (watch engine) calls with ⟨final, run⟩
  have start : ErrorsFinal (watch engine) := by
    apply ErrorsFinal.mk (List.nil_suffix)
    intro first report rest shape
    cases first <;> cases shape
  refine @System.always_iff_everywhere _ _ _ (fun _ => True) _ _ (fun _ _ _ _ _ => trivial) ?_ _ _ _ trivial start run
  intro conn call next step _ good
  cases step
  exact tlsStep_iff good call

/-- A client that speaks plain HTTP to the TLS port. The handshake fails once the five bytes of a record
    header are there, the connection is left in the state HANDSHAKE and the next bytes are fed as well. -/
theorem plainClient_kept :
    ¬ ∀ (ssl : Stranger) (calls : List TlsCall), tlsCalls.Always ErrorsFinal (watch ssl) calls := by
  intro claimed
  let request : List TlsCall := [.onRead (bytes "GET"), .onRead (bytes " /"), .onRead (bytes " HTTP/1.1")]
  have reports : (tlsStep (tlsStep (tlsStep (watch ({} : Stranger)) (.onRead (bytes "GET")))
      (.onRead (bytes " /"))) (.onRead (bytes " HTTP/1.1"))).reports =
      [.fed true, .handshake (.failed .wantRead), .fed true] ++
        .handshake (.failed .ssl) :: [.fed true, .handshake (.failed .ssl)] := by rfl
  have good := claimed {} request _ [] _ (List.append_nil _).symm rfl
  have still := (good.final _ _ _ reports rfl).still (.fed true) List.mem_cons_self
  cases still

end Ssl.SslConnection
