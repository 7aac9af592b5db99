import HttpServerApps.Common.Runs
import HttpServerApps.Ssl.Connection

namespace Ssl

open Common OpenSSL

def accepted (calls : List Call) : Bytes :=
  calls.flatMap fun
    | .sslWrite offered (.accepted n) => offered.take n
    | _ => []

/-- A fatal error and the spin limit shut the connection; a write can also find it closed. -/
def isTrouble : Call → Bool
  | .connShutdown => true
  | .sslWrite _ (.failed .zeroReturn) => true
  | _ => false

def Untroubled (calls : List Call) : Prop := ∀ call ∈ calls, isTrouble call = false

theorem accepted_append (first second : List Call) :
    accepted (first ++ second) = accepted first ++ accepted second := List.flatMap_append

theorem untroubled_append {first second : List Call} :
    Untroubled (first ++ second) ↔ Untroubled first ∧ Untroubled second := by
  unfold Untroubled
  simp only [List.mem_append, or_imp, forall_and]

namespace SslConnection

variable {Engine : Type}

def outbound (conn : SslConnection Engine) : Bytes := accepted conn.calls ++ conn.pendingPlain

/-- Without trouble the plaintext stays in order and the connection open. -/
def Flow (before after : SslConnection Engine) : Prop :=
  Untroubled after.calls → Untroubled before.calls ∧ after.outbound = before.outbound ∧
    (before.state = .ESTABLISHED → after.state = .ESTABLISHED)

theorem Flow.refl (conn : SslConnection Engine) : Flow conn conn :=
  fun untroubled => ⟨untroubled, rfl, id⟩

theorem Flow.trans {first second third : SslConnection Engine} (left : Flow first second)
    (right : Flow second third) : Flow first third := by
  intro untroubled
  obtain ⟨middle, same, stays⟩ := right untroubled
  obtain ⟨start, same', stays'⟩ := left middle
  exact ⟨start, same.trans same', stays ∘ stays'⟩

theorem flow_record (conn : SslConnection Engine) (call : Call) (silent : accepted [call] = []) :
    Flow conn (conn.record call) := by
  intro untroubled
  refine ⟨(untroubled_append.mp untroubled).1, ?_, id⟩
  unfold outbound record
  rw [accepted_append, silent, List.append_nil]

theorem flow_setSsl (conn : SslConnection Engine) (ssl : Engine) : Flow conn (conn.setSsl ssl) :=
  fun untroubled => ⟨untroubled, rfl, id⟩

theorem flow_shutdown (before conn : SslConnection Engine) : Flow before (conn.record .connShutdown) := by
  intro untroubled
  have trouble := untroubled .connShutdown (by simp [record])
  cases trouble

variable [OpenSSL Engine]

/-! `flushWriteBio` only sends. -/

theorem flushLoop_frame (fuel : Nat) (conn : SslConnection Engine) :
    ∃ sent : List Bytes, (flushLoop fuel conn).calls = conn.calls ++ sent.map .connSend ∧
      (flushLoop fuel conn).state = conn.state ∧
      (flushLoop fuel conn).pendingPlain = conn.pendingPlain ∧
      (flushLoop fuel conn).decryptedBuffer = conn.decryptedBuffer := by
  induction fuel generalizing conn with
  | zero => exact ⟨[], by simp [flushLoop], rfl, rfl, rfl⟩
  | succ fuel ih =>
    simp only [flushLoop]
    split
    · split
      · obtain ⟨sent, calls, state, pending, decrypted⟩ :=
          ih ((conn.setSsl (bioRead conn.ssl (min (bioPending conn.ssl) 4096)).2).record
            (.connSend (bioRead conn.ssl (min (bioPending conn.ssl) 4096)).1))
        refine ⟨(bioRead conn.ssl (min (bioPending conn.ssl) 4096)).1 :: sent, ?_, state, pending, decrypted⟩
        rw [calls]
        simp [record, setSsl]
      · exact ⟨[], by simp [setSsl], rfl, rfl, rfl⟩
    · exact ⟨[], by simp, rfl, rfl, rfl⟩

/-- The fuel is enough: after the loop nothing is pending, or a read gave nothing. -/
theorem flushLoop_stable (fuel extra : Nat) (conn : SslConnection Engine)
    (enough : bioPending conn.ssl ≤ fuel) : flushLoop (fuel + extra) conn = flushLoop fuel conn := by
  induction fuel generalizing conn with
  | zero =>
    cases extra with
    | zero => rfl
    | succ extra =>
      have none_ : bioPending conn.ssl = 0 := by omega
      simp [flushLoop, none_]
  | succ fuel ih =>
    rw [Nat.succ_add]
    simp only [flushLoop]
    split
    · split
      · rename_i some_
        apply ih
        have taken := bioRead_pending conn.ssl (min (bioPending conn.ssl) 4096)
        have positive := List.length_pos_iff.mpr some_
        show bioPending (bioRead conn.ssl (min (bioPending conn.ssl) 4096)).2 ≤ fuel
        omega
      · rfl
    · rfl

theorem flow_flush (conn : SslConnection Engine) : Flow conn conn.flushWriteBio := by
  obtain ⟨sent, calls, state, pending, _⟩ := flushLoop_frame (bioPending conn.ssl) conn
  have silent : accepted (sent.map .connSend) = [] := by
    unfold accepted
    simp [List.flatMap_map]
  intro untroubled
  unfold flushWriteBio at untroubled ⊢
  rw [calls] at untroubled
  refine ⟨(untroubled_append.mp untroubled).1, ?_, fun established => state.trans established⟩
  unfold outbound
  rw [calls, pending, accepted_append, silent, List.append_nil]

@[simp] theorem state_flush (conn : SslConnection Engine) : conn.flushWriteBio.state = conn.state :=
  (flushLoop_frame _ conn).choose_spec.2.1

/-- A connection in the state ERROR is only flushed. -/
theorem settle_dead {conn : SslConnection Engine} (dead : conn.state = .ERROR) :
    conn.flushWriteBio.drainPendingPlain = conn.flushWriteBio := by
  have flushed : conn.flushWriteBio.state = .ERROR := (state_flush conn).trans dead
  unfold drainPendingPlain
  rw [if_pos (ne_of_eq_of_ne flushed (by decide))]

@[simp] theorem pendingPlain_flush (conn : SslConnection Engine) :
    conn.flushWriteBio.pendingPlain = conn.pendingPlain :=
  (flushLoop_frame _ conn).choose_spec.2.2.1

/-! Writing. -/

theorem write_fields (conn : SslConnection Engine) (offered : Bytes) :
    (conn.write offered).2.state = conn.state ∧
      (conn.write offered).2.pendingPlain = conn.pendingPlain ∧
      (conn.write offered).2.calls = conn.calls ++ [.sslWrite offered (conn.write offered).1] :=
  ⟨rfl, rfl, rfl⟩

theorem flow_write_failed {conn : SslConnection Engine} {offered : Bytes} {err : ErrorCode}
    (failed : (conn.write offered).1 = .failed err) : Flow conn (conn.write offered).2 := by
  apply Flow.trans (flow_setSsl conn (sslWrite conn.ssl offered).2)
  apply flow_record
  show accepted [.sslWrite offered (conn.write offered).1] = []
  rw [failed]
  rfl

theorem write_accepted {conn : SslConnection Engine} {data : Bytes} {n : Nat}
    (took : (conn.write (data.take INT_MAX)).1 = .accepted n) :
    0 < n ∧ accepted (conn.write (data.take INT_MAX)).2.calls = accepted conn.calls ++ data.take n := by
  obtain ⟨positive, bound⟩ := sslWrite_bound conn.ssl (data.take INT_MAX) n took
  refine ⟨positive, ?_⟩
  rw [(write_fields conn _).2.2, accepted_append, took]
  congr 1
  rw [List.length_take] at bound
  simp only [accepted, List.flatMap_cons, List.flatMap_nil, List.append_nil, List.take_take]
  congr 1
  omega

theorem untroubled_write {conn : SslConnection Engine} {offered : Bytes}
    (untroubled : Untroubled (conn.write offered).2.calls) : Untroubled conn.calls := by
  rw [(write_fields conn offered).2.2] at untroubled
  exact (untroubled_append.mp untroubled).1

theorem flow_write_pending {conn : SslConnection Engine} {n : Nat}
    (took : (conn.write (conn.pendingPlain.take INT_MAX)).1 = .accepted n) :
    Flow conn ((conn.write (conn.pendingPlain.take INT_MAX)).2.setPending (conn.pendingPlain.drop n)) := by
  intro untroubled
  refine ⟨untroubled_write untroubled, ?_, id⟩
  show accepted (conn.write (conn.pendingPlain.take INT_MAX)).2.calls ++ conn.pendingPlain.drop n = _
  rw [(write_accepted took).2, List.append_assoc, List.take_append_drop]
  rfl

theorem flow_write_closed {conn : SslConnection Engine} {offered : Bytes} (before : SslConnection Engine)
    (closed : (conn.write offered).1 = .failed .zeroReturn) (pendingPlain : Bytes) :
    Flow before ((conn.write offered).2.setPending pendingPlain) := by
  intro untroubled
  change Untroubled (conn.write offered).2.calls at untroubled
  rw [(write_fields conn offered).2.2, closed] at untroubled
  have trouble := untroubled _ (List.mem_append_right _ (List.mem_singleton_self _))
  cases trouble

theorem flow_drainFailed {conn : SslConnection Engine} {offered : Bytes} {err : ErrorCode}
    (failed : (conn.write offered).1 = .failed err) : Flow conn ((conn.write offered).2.drainFailed err) := by
  have refused := flow_write_failed failed
  cases err with
  | wantRead => exact refused.trans (flow_flush _)
  | wantWrite => exact refused.trans (flow_flush _)
  | zeroReturn => exact (flow_write_closed conn failed []).trans (flow_flush _)
  | none => exact flow_shutdown _ _
  | syscall => exact flow_shutdown _ _
  | ssl => exact flow_shutdown _ _
  | other => exact flow_shutdown _ _

theorem flow_drainLoop (spins : Nat) (conn : SslConnection Engine) : Flow conn (drainLoop spins conn) := by
  induction spins generalizing conn with
  | zero =>
    unfold drainLoop
    split
    · exact flow_shutdown _ _
    · exact flow_flush conn
  | succ spins ih =>
    unfold drainLoop
    split
    · exact flow_flush conn
    · cases result : conn.write (conn.pendingPlain.take INT_MAX) with
      | mk outcome next =>
        have first : (conn.write (conn.pendingPlain.take INT_MAX)).1 = outcome := by rw [result]
        have second : (conn.write (conn.pendingPlain.take INT_MAX)).2 = next := by rw [result]
        have pending : next.pendingPlain = conn.pendingPlain := by rw [← second]; rfl
        cases outcome with
        | accepted n =>
          have written := flow_write_pending first
          rw [second] at written
          dsimp only
          rw [pending]
          exact written.trans ((flow_flush _).trans (ih _))
        | failed err =>
          have failed := flow_drainFailed first
          rw [second] at failed
          exact failed

theorem flow_drain (conn : SslConnection Engine) : Flow conn conn.drainPendingPlain := by
  unfold drainPendingPlain
  split
  · exact Flow.refl conn
  · exact flow_drainLoop kMaxSpins conn

theorem flow_handshake (conn : SslConnection Engine) : Flow conn conn.handleHandshake := by
  unfold handleHandshake
  cases doHandshake conn.ssl with
  | mk result ssl =>
    have moved := flow_setSsl conn ssl
    cases result with
    | done =>
      have established : Flow conn ((conn.setSsl ssl).setState .ESTABLISHED) :=
        fun untroubled => ⟨untroubled, rfl, fun _ => rfl⟩
      exact established.trans (flow_flush _)
    | failed err =>
      cases err with
      | wantRead => exact moved.trans (flow_flush _)
      | wantWrite => exact moved.trans (flow_flush _)
      | none => exact (flow_shutdown conn _).trans (flow_flush _)
      | zeroReturn => exact (flow_shutdown conn _).trans (flow_flush _)
      | syscall => exact (flow_shutdown conn _).trans (flow_flush _)
      | ssl => exact (flow_shutdown conn _).trans (flow_flush _)
      | other => exact (flow_shutdown conn _).trans (flow_flush _)

theorem flow_feedLoop (fuel : Nat) (conn : SslConnection Engine) (data : Bytes) :
    Flow conn (feedLoop fuel conn data).1 := by
  induction fuel generalizing conn data with
  | zero => exact Flow.refl conn
  | succ fuel ih =>
    simp only [feedLoop]
    split
    · exact Flow.refl conn
    · split
      · exact flow_shutdown _ _
      · exact (flow_setSsl conn _).trans (ih _ _)

theorem flow_readLoop (fuel : Nat) (conn : SslConnection Engine) : Flow conn (readLoop fuel conn).1 := by
  induction fuel generalizing conn with
  | zero => exact Flow.refl conn
  | succ fuel ih =>
    simp only [readLoop]
    have called : Flow conn ((conn.setSsl (sslRead conn.ssl 4096).2).record
        (.sslRead (sslRead conn.ssl 4096).1)) := (flow_setSsl conn _).trans (flow_record _ _ rfl)
    split
    · apply called.trans
      exact Flow.trans (fun untroubled => ⟨untroubled, rfl, id⟩) (ih _)
    · exact called

omit [OpenSSL Engine] in
theorem flow_handleError (conn : SslConnection Engine) (error : SSLError) :
    Flow conn (conn.handleError error) := by
  unfold handleError
  cases error with
  | SSL => exact flow_shutdown _ _
  | SYSCALL => exact flow_shutdown _ _
  | UNKNOWN => exact flow_shutdown _ _
  | NONE => exact Flow.refl conn
  | WANT_READ => exact Flow.refl conn
  | WANT_WRITE => exact Flow.refl conn

theorem flow_onRead (conn : SslConnection Engine) (buf : Bytes) : Flow conn (conn.onRead buf).1 := by
  have fed := flow_feedLoop buf.length conn buf
  unfold onRead feedReadBio
  split
  · cases result : feedLoop buf.length conn buf with
    | mk next ok =>
      rw [result] at fed
      cases ok with
      | false => exact fed
      | true => exact fed.trans (flow_handshake next)
  · split
    · split
      · exact Flow.refl conn
      · cases result : feedLoop buf.length conn buf with
        | mk next ok =>
          rw [result] at fed
          cases ok with
          | false => exact fed
          | true =>
            have finish : ∀ conn : SslConnection Engine, Flow conn conn.flushWriteBio.drainPendingPlain :=
              fun conn => (flow_flush conn).trans (flow_drain _)
            have read := flow_readLoop (unread next.ssl + 1) next
            dsimp only
            split
            · rename_i last err ended
              rw [ended] at read
              have handled : Flow last (if getLastError err ≠ .WANT_READ ∧ getLastError err ≠ .WANT_WRITE then
                  last.handleError (getLastError err) else last) := by
                split
                · exact flow_handleError _ _
                · exact Flow.refl _
              exact fed.trans (read.trans (handled.trans (finish _)))
            · rename_i last _ _ ended
              rw [ended] at read
              exact fed.trans (read.trans (finish _))
    · exact Flow.refl conn

theorem flow_onWriteComplete (conn : SslConnection Engine) : Flow conn conn.onWriteComplete := by
  unfold onWriteComplete
  dsimp only
  split
  · exact (flow_flush conn).trans (flow_handshake _)
  · split
    · exact (flow_flush conn).trans ((flow_drain _).trans (flow_flush _))
    · exact flow_flush conn

/-! `send`. -/

def Sends (data : Bytes) (before after : SslConnection Engine) : Prop :=
  Untroubled after.calls → Untroubled before.calls ∧ after.outbound = before.outbound ++ data ∧
    (before.state = .ESTABLISHED → after.state = .ESTABLISHED)

omit [OpenSSL Engine] in
theorem Sends.flow {data : Bytes} {before middle after : SslConnection Engine}
    (sends : Sends data before middle) (flow : Flow middle after) : Sends data before after := by
  intro untroubled
  obtain ⟨first, same, stays⟩ := flow untroubled
  obtain ⟨start, behind, stays'⟩ := sends first
  exact ⟨start, same.trans behind, stays ∘ stays'⟩

omit [OpenSSL Engine] in
theorem Flow.sends {before after : SslConnection Engine} (flow : Flow before after) :
    Sends [] before after := by
  intro untroubled
  obtain ⟨start, same, stays⟩ := flow untroubled
  exact ⟨start, by rw [same, List.append_nil], stays⟩

theorem sends_failed {conn : SslConnection Engine} {offered : Bytes} {err : ErrorCode} (data : Bytes)
    (failed : (conn.write offered).1 = .failed err) :
    Sends data conn ((conn.write offered).2.sendFailed err data) := by
  have nothing : ∀ after : SslConnection Engine, ¬ Untroubled after.calls → Sends data conn after :=
    fun after troubled untroubled => absurd untroubled troubled
  have shut : ∀ after : SslConnection Engine, ¬ Untroubled (after.record .connShutdown).calls := by
    intro after untroubled
    cases untroubled .connShutdown (by simp [record])
  have queued : Sends data conn (((conn.write offered).2.flushWriteBio.setPending
      ((conn.write offered).2.pendingPlain ++ data)).drainPendingPlain) := by
    apply Sends.flow _ (flow_drain _)
    intro untroubled
    obtain ⟨start, same, stays⟩ := ((flow_write_failed failed).trans (flow_flush _)) untroubled
    refine ⟨start, ?_, stays⟩
    rw [← same]
    unfold outbound
    rw [pendingPlain_flush, List.append_assoc]
    rfl
  cases err with
  | wantRead => exact queued
  | wantWrite => exact queued
  | zeroReturn =>
    apply nothing
    intro untroubled
    obtain ⟨written, _, _⟩ := flow_flush _ untroubled
    rw [(write_fields conn offered).2.2, failed] at written
    cases written _ (List.mem_append_right _ (List.mem_singleton_self _))
  | none => exact nothing _ (shut _)
  | syscall => exact nothing _ (shut _)
  | ssl => exact nothing _ (shut _)
  | other => exact nothing _ (shut _)

/-- With nothing waiting, the payload is accepted from the front and the rest waits. -/
theorem sends_sendLoop (fuel : Nat) (conn : SslConnection Engine) (data : Bytes)
    (empty : conn.pendingPlain = []) (enough : data.length ≤ fuel) :
    Sends data conn (sendLoop fuel conn data) := by
  induction fuel generalizing conn data with
  | zero =>
    have none_ : data = [] := List.eq_nil_of_length_eq_zero (Nat.le_zero.mp enough)
    subst none_
    exact (flow_flush conn).sends
  | succ fuel ih =>
    unfold sendLoop
    split
    · rename_i none_
      subst none_
      exact (flow_flush conn).sends
    · cases result : conn.write (data.take INT_MAX) with
      | mk outcome next =>
        have first : (conn.write (data.take INT_MAX)).1 = outcome := by rw [result]
        have second : (conn.write (data.take INT_MAX)).2 = next := by rw [result]
        cases outcome with
        | failed err =>
          have failed := sends_failed data first
          rw [second] at failed
          exact failed
        | accepted n =>
          obtain ⟨positive, took⟩ := write_accepted first
          have pending : next.pendingPlain = [] := by
            rw [← second]
            exact empty
          have later := ih next.flushWriteBio (data.drop n) (by rw [pendingPlain_flush, pending])
            (by rw [List.length_drop]; omega)
          intro untroubled
          obtain ⟨flushed, behind, stays⟩ := later untroubled
          obtain ⟨written, same, stays'⟩ := flow_flush next flushed
          rw [second] at took
          refine ⟨?_, ?_, ?_⟩
          · rw [← second] at written
            exact untroubled_write written
          · rw [behind, same]
            unfold outbound
            rw [took, pending, empty, List.append_nil, List.append_nil, List.append_assoc,
              List.take_append_drop]
          · intro established
            apply stays
            apply stays'
            rw [← second]
            exact established

def Ready (conn : SslConnection Engine) (data : Bytes) : Prop :=
  conn.state ≠ .ESTABLISHED ∨ data = [] ∨ conn.pendingPlain = [] ∨
    ∃ err, (sslWrite conn.ssl (data.take INT_MAX)).1 = .failed err

theorem sends_send (conn : SslConnection Engine) (data : Bytes) (ready : conn.Ready data)
    (established : conn.state = .ESTABLISHED) : Sends data conn (conn.send data) := by
  unfold send
  rw [if_neg (not_not_intro established)]
  split
  · rename_i empty
    subst empty
    exact (Flow.refl conn).sends
  · rename_i some_
    rcases ready with closed | empty | nothing | ⟨err, failed⟩
    · exact absurd established closed
    · exact absurd empty some_
    · exact sends_sendLoop data.length conn data nothing (Nat.le_refl _)
    · obtain ⟨fuel, more⟩ := Nat.exists_eq_succ_of_ne_zero (Nat.ne_of_gt (List.length_pos_iff.mpr some_))
      rw [more]
      unfold sendLoop
      rw [if_neg some_]
      have first : (conn.write (data.take INT_MAX)).1 = .failed err := failed
      have refused := sends_failed data first
      cases result : conn.write (data.take INT_MAX) with
      | mk outcome next =>
        rw [result] at first refused
        cases first
        exact refused

/-! Runs. -/

inductive PlainStep where
  | send (data : Bytes)
  | writeComplete
  | read (buf : Bytes)

structure Outgoing (Engine : Type) where
  conn : SslConnection Engine
  submitted : Bytes := []

def plainStep (state : Outgoing Engine) : PlainStep → Option (Outgoing Engine)
  | .send data => some ⟨state.conn.send data, state.submitted ++ data⟩
  | .writeComplete => some { state with conn := state.conn.onWriteComplete }
  | .read buf => some { state with conn := (state.conn.onRead buf).1 }

def outgoing : System (Outgoing Engine) PlainStep := ⟨plainStep⟩

omit [OpenSSL Engine] in
/-- Nothing submitted is lost or out of order, and the connection is open, until there is trouble. -/
def InOrder (state : Outgoing Engine) : Prop :=
  Untroubled state.conn.calls →
    state.conn.outbound = state.submitted ∧ state.conn.state = .ESTABLISHED

def OvertakesNothing (state : Outgoing Engine) : PlainStep → Prop
  | .send data => state.conn.Ready data
  | _ => True

theorem inOrder_step (state : Outgoing Engine) (step : PlainStep) (next : Outgoing Engine)
    (taken : outgoing.step state step = some next) (holds : InOrder state)
    (ok : OvertakesNothing state step) : InOrder next := by
  have flowing : ∀ conn, Flow state.conn conn → InOrder { state with conn := conn } := by
    intro conn flow untroubled
    obtain ⟨before, same, stays⟩ := flow untroubled
    obtain ⟨ordered, established⟩ := holds before
    exact ⟨same.trans ordered, stays established⟩
  change plainStep state step = some next at taken
  cases step with
  | writeComplete =>
    cases taken
    exact flowing _ (flow_onWriteComplete state.conn)
  | read buf =>
    cases taken
    exact flowing _ (flow_onRead state.conn buf)
  | send data =>
    cases taken
    by_cases established : state.conn.state = .ESTABLISHED
    · intro untroubled
      obtain ⟨before, behind, stays⟩ := sends_send state.conn data ok established untroubled
      obtain ⟨ordered, _⟩ := holds before
      exact ⟨by rw [behind, ordered], stays established⟩
    · intro untroubled
      dsimp only [send] at untroubled
      rw [if_pos established] at untroubled
      exact absurd (holds untroubled).2 established

omit [OpenSSL Engine] in
/-- The bytes accepted and those waiting are the payloads in call order, until there is trouble. -/
def Delivered (state : Outgoing Engine) : Prop :=
  Untroubled state.conn.calls →
    accepted state.conn.calls ++ state.conn.pendingPlain = state.submitted

def opened (ssl : Engine) : Outgoing Engine := ⟨{ ssl := ssl, state := .ESTABLISHED }, []⟩

/-- No payload is lost or out of order in the runs in which `send` never writes past bytes that
    wait: it has no look at `pendingPlain_` before its first write. -/
theorem outbound_delivered (ssl : Engine) (steps : List PlainStep)
    (ok : outgoing.Everywhere OvertakesNothing (opened ssl) steps) :
    outgoing.Always Delivered (opened ssl) steps := by
  have start : InOrder (opened ssl) := fun _ => ⟨rfl, rfl⟩
  have always := System.always_of_everywhere inOrder_step start ok
  intro before after state shape run untroubled
  exact (always before after state shape run untroubled).1

/-! An engine that accepts a payload whole or not at all, as its script says. -/

def scriptedWrite : List Bool → Bytes → WriteResult × List Bool
  | true :: rest, b :: offered => (.accepted (b :: offered).length, rest)
  | _ :: rest, _ => (.failed .wantWrite, rest)
  | [], _ => (.failed .wantWrite, [])

instance : OpenSSL (List Bool) where
  doHandshake ssl := (.done, ssl)
  sslRead ssl _ := (.failed true .wantRead, ssl)
  sslWrite := scriptedWrite
  bioWrite ssl data := (data.length, ssl)
  bioPending _ := 0
  bioRead ssl _ := ([], ssl)
  unread _ := 0
  sslWrite_bound := by
    intro ssl offered n took
    unfold scriptedWrite at took
    split at took
    · cases took
      exact ⟨Nat.succ_pos _, Nat.le_refl _⟩
    · cases took
    · cases took
  sslRead_unread := by
    intro ssl size data _ read
    cases read
  bioRead_pending _ _ := rfl

def twoSends : List PlainStep := [.send (bytes "AB"), .send (bytes "CD")]

theorem second_send_overtakes :
    ¬ ∀ (ssl : List Bool) (steps : List PlainStep), outgoing.Always Delivered (opened ssl) steps := by
  intro claimed
  have delivered := claimed [false, false, true] twoSends twoSends [] _ (List.append_nil _).symm rfl
  have order := delivered (by
    intro call member
    revert call
    decide)
  revert order
  decide

theorem accepting_delivers :
    outgoing.Everywhere OvertakesNothing (opened [true, true]) twoSends ∧
      outgoing.Always Delivered (opened [true, true]) twoSends := by
  have ok : outgoing.Everywhere OvertakesNothing (opened [true, true]) twoSends := by
    have first : OvertakesNothing (opened [true, true]) (.send (bytes "AB")) := Or.inr (Or.inr (Or.inl rfl))
    apply System.everywhere_cons first
    intro next step
    cases step
    have second : OvertakesNothing
        (⟨(opened [true, true]).conn.send (bytes "AB"), bytes "AB"⟩ : Outgoing (List Bool))
        (.send (bytes "CD")) := by
      refine Or.inr (Or.inr (Or.inl ?_))
      decide
    exact System.everywhere_cons second fun final _ => System.everywhere_nil final
  exact ⟨ok, outbound_delivered _ _ ok⟩

end SslConnection

end Ssl
