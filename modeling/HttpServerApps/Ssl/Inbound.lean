import HttpServerApps.Ssl.Outbound

namespace Ssl

open Common OpenSSL

/-- An engine whose handshake and decrypted output depend only on the bytes written to its read BIO,
    all of them together: `fed`. `given` is what `SSL_read` has returned of it. -/
class StreamOpenSSL (Engine : Type) extends OpenSSL Engine where
  fed : Engine → Bytes
  given : Engine → Bytes
  finished : Bytes → Bool
  /-- The application bytes in the stream. -/
  plain : Bytes → Bytes
  bioWrite_stream : ∀ ssl data, (bioWrite ssl data).1 = data.length →
    fed (bioWrite ssl data).2 = fed ssl ++ data ∧ given (bioWrite ssl data).2 = given ssl
  bioRead_stream : ∀ ssl size,
    fed (bioRead ssl size).2 = fed ssl ∧ given (bioRead ssl size).2 = given ssl
  doHandshake_stream : ∀ ssl,
    fed (doHandshake ssl).2 = fed ssl ∧ given (doHandshake ssl).2 = given ssl
  sslRead_stream : ∀ ssl size, fed (sslRead ssl size).2 = fed ssl
  doHandshake_done : ∀ ssl, (doHandshake ssl).1 = .done ↔ finished (fed ssl) = true
  /-- `SSL_read` returns the application bytes one after the other, and fails where none are left. -/
  sslRead_data : ∀ ssl size data, finished (fed ssl) = true → (sslRead ssl size).1 = .data data →
    given (sslRead ssl size).2 = given ssl ++ data
  sslRead_failed : ∀ ssl size negative err, 0 < size → finished (fed ssl) = true →
    (sslRead ssl size).1 = .failed negative err →
      given (sslRead ssl size).2 = given ssl ∧ given ssl = plain (fed ssl)
  finished_append : ∀ stream more, finished stream = true → finished (stream ++ more) = true

open StreamOpenSSL

namespace SslConnection

variable {Engine : Type} [StreamOpenSSL Engine]

/-- The bytes fed to the engine, all that was decrypted of them being in `decryptedBuffer_`. -/
structure Fed (conn : SslConnection Engine) (stream : Bytes) : Prop where
  written : fed conn.ssl = stream
  read : given conn.ssl = conn.decryptedBuffer
  idle : conn.pendingPlain = []

theorem fed_flushLoop (fuel : Nat) (conn : SslConnection Engine) :
    fed (flushLoop fuel conn).ssl = fed conn.ssl ∧ given (flushLoop fuel conn).ssl = given conn.ssl := by
  induction fuel generalizing conn with
  | zero => exact ⟨rfl, rfl⟩
  | succ fuel ih =>
    have read := bioRead_stream conn.ssl (min (bioPending conn.ssl) 4096)
    simp only [flushLoop]
    split
    · split
      · obtain ⟨sameFed, sameGiven⟩ := ih ((conn.setSsl (bioRead conn.ssl (min (bioPending conn.ssl) 4096)).2).record
          (.connSend (bioRead conn.ssl (min (bioPending conn.ssl) 4096)).1))
        exact ⟨sameFed.trans read.1, sameGiven.trans read.2⟩
      · exact read
    · exact ⟨rfl, rfl⟩

theorem Fed.flush {conn : SslConnection Engine} {stream : Bytes} (holds : conn.Fed stream) :
    conn.flushWriteBio.Fed stream ∧ conn.flushWriteBio.decryptedBuffer = conn.decryptedBuffer := by
  obtain ⟨sameFed, sameGiven⟩ := fed_flushLoop (bioPending conn.ssl) conn
  obtain ⟨_, _, _, pending, decrypted⟩ := flushLoop_frame (bioPending conn.ssl) conn
  refine ⟨⟨sameFed.trans holds.written, ?_, pending.trans holds.idle⟩, decrypted⟩
  exact (sameGiven.trans holds.read).trans decrypted.symm

theorem drain_idle {conn : SslConnection Engine} (idle : conn.pendingPlain = []) :
    conn.drainPendingPlain = conn ∨ conn.drainPendingPlain = conn.flushWriteBio := by
  unfold drainPendingPlain
  split
  · exact Or.inl rfl
  · right
    unfold kMaxSpins drainLoop
    rw [if_pos idle]

theorem Fed.settle {conn : SslConnection Engine} {stream : Bytes} (holds : conn.Fed stream) :
    conn.flushWriteBio.drainPendingPlain.Fed stream ∧
      conn.flushWriteBio.drainPendingPlain.decryptedBuffer = conn.decryptedBuffer ∧
      conn.flushWriteBio.drainPendingPlain.state = conn.state := by
  obtain ⟨flushed, decrypted⟩ := holds.flush
  rcases drain_idle flushed.idle with same | same
  · rw [same]
    exact ⟨flushed, decrypted, state_flush conn⟩
  · obtain ⟨again, decryptedAgain⟩ := flushed.flush
    rw [same]
    exact ⟨again, decryptedAgain.trans decrypted, by rw [state_flush, state_flush]⟩

theorem Fed.feedLoop {conn : SslConnection Engine} {stream : Bytes} (holds : conn.Fed stream) (fuel : Nat)
    (data : Bytes) (enough : data.length ≤ fuel) :
    (∃ next, feedLoop fuel conn data = (next, true) ∧ next.Fed (stream ++ data) ∧
      next.decryptedBuffer = conn.decryptedBuffer ∧ next.state = conn.state) ∨
    ∃ next, SslConnection.feedLoop fuel conn data = (next, false) ∧ next.state = .ERROR := by
  induction fuel generalizing conn stream data with
  | zero =>
    have none_ : data = [] := List.eq_nil_of_length_eq_zero (Nat.le_zero.mp enough)
    subst none_
    exact Or.inl ⟨conn, rfl, by rwa [List.append_nil], rfl, rfl⟩
  | succ fuel ih =>
    simp only [SslConnection.feedLoop]
    split
    · rename_i none_
      subst none_
      exact Or.inl ⟨conn, rfl, by rwa [List.append_nil], rfl, rfl⟩
    · rename_i some_
      split
      · right
        refine ⟨_, rfl, ?_⟩
        show (((conn.setSsl (bioWrite conn.ssl (data.take INT_MAX)).2).setState
          .ERROR).flushWriteBio).state = .ERROR
        rw [state_flush]
        rfl
      · rename_i whole
        obtain ⟨written, same⟩ := bioWrite_stream conn.ssl (data.take INT_MAX) (not_not.mp whole)
        have next : (conn.setSsl (bioWrite conn.ssl (data.take INT_MAX)).2).Fed
            (stream ++ data.take INT_MAX) :=
          ⟨by rw [← holds.written]; exact written, same.trans holds.read, holds.idle⟩
        have positive := List.length_pos_iff.mpr some_
        have shorter : (data.drop INT_MAX).length ≤ fuel := by
          rw [List.length_drop]
          unfold INT_MAX
          omega
        have rest := ih next (data.drop INT_MAX) shorter
        rw [List.append_assoc, List.take_append_drop] at rest
        exact rest

theorem Fed.readLoop {conn : SslConnection Engine} {stream : Bytes} (holds : conn.Fed stream)
    (complete : finished Engine stream = true) (fuel : Nat) (enough : unread conn.ssl < fuel) :
    ∃ next ended, SslConnection.readLoop fuel conn = (next, some ended) ∧ next.Fed stream ∧
      next.decryptedBuffer = plain Engine stream ∧ next.state = conn.state := by
  induction fuel generalizing conn with
  | zero => exact absurd enough (Nat.not_lt_zero _)
  | succ fuel ih =>
    have known : finished Engine (fed conn.ssl) = true := by rw [holds.written, complete]
    have sameFed := sslRead_stream conn.ssl 4096
    simp only [SslConnection.readLoop]
    cases result : (sslRead conn.ssl 4096).1 with
    | data decryptedData =>
      obtain ⟨_, fewer⟩ := sslRead_unread conn.ssl 4096 decryptedData (by decide) result
      have given' := sslRead_data conn.ssl 4096 decryptedData known result
      have next : Fed ({ ((conn.setSsl (sslRead conn.ssl 4096).2).record
          (.sslRead (.data decryptedData))) with
            decryptedBuffer := conn.decryptedBuffer ++ decryptedData } : SslConnection Engine) stream :=
        ⟨sameFed.trans holds.written, given'.trans (by rw [holds.read]), holds.idle⟩
      exact ih next
        (Nat.lt_of_lt_of_le fewer (Nat.le_of_lt_succ enough))
    | failed negative err =>
      obtain ⟨sameGiven, all⟩ := sslRead_failed conn.ssl 4096 negative err (by decide) known result
      rw [holds.written] at all
      exact ⟨_, _, rfl, ⟨sameFed.trans holds.written, sameGiven.trans holds.read, holds.idle⟩,
        holds.read.symm.trans all, rfl⟩

theorem Fed.handshake {conn : SslConnection Engine} {stream : Bytes} (holds : conn.Fed stream)
    (unready : conn.state = .HANDSHAKE) :
    conn.handleHandshake.Fed stream ∧ conn.handleHandshake.decryptedBuffer = conn.decryptedBuffer ∧
      conn.handleHandshake.state =
        if finished Engine stream = true then .ESTABLISHED else .HANDSHAKE := by
  obtain ⟨sameFed, sameGiven⟩ := doHandshake_stream conn.ssl
  have complete := doHandshake_done conn.ssl
  rw [holds.written] at complete
  unfold handleHandshake
  cases pair : doHandshake conn.ssl with
  | mk result ssl =>
    rw [pair] at sameFed sameGiven complete
    have flushed : ∀ state calls,
        let after : SslConnection Engine := ⟨ssl, state, conn.decryptedBuffer, conn.pendingPlain, calls⟩
        after.flushWriteBio.Fed stream ∧ after.flushWriteBio.decryptedBuffer = conn.decryptedBuffer ∧
          after.flushWriteBio.state = state := by
      intro state calls after
      have moved : after.Fed stream :=
        ⟨sameFed.trans holds.written, sameGiven.trans holds.read, holds.idle⟩
      exact ⟨moved.flush.1, moved.flush.2, state_flush after⟩
    cases result with
    | done =>
      rw [if_pos (complete.mp rfl)]
      exact flushed .ESTABLISHED conn.calls
    | failed err =>
      have incomplete : ¬ finished Engine stream = true := by
        intro finishes
        cases complete.mpr finishes
      rw [if_neg incomplete, ← unready]
      cases err with
      | wantRead => exact flushed conn.state conn.calls
      | wantWrite => exact flushed conn.state conn.calls
      | none => exact flushed conn.state (conn.calls ++ [.connShutdown])
      | zeroReturn => exact flushed conn.state (conn.calls ++ [.connShutdown])
      | syscall => exact flushed conn.state (conn.calls ++ [.connShutdown])
      | ssl => exact flushed conn.state (conn.calls ++ [.connShutdown])
      | other => exact flushed conn.state (conn.calls ++ [.connShutdown])

/-! One delivery. -/

theorem onRead_handshake {conn : SslConnection Engine} {stream : Bytes} (holds : conn.Fed stream)
    (unready : conn.state = .HANDSHAKE) (buf : Bytes) :
    ((conn.onRead buf).2 = [] ∧ (conn.onRead buf).1.Fed (stream ++ buf) ∧
      (conn.onRead buf).1.decryptedBuffer = conn.decryptedBuffer ∧
      (conn.onRead buf).1.state =
        if finished Engine (stream ++ buf) = true then .ESTABLISHED else .HANDSHAKE) ∨
    (conn.onRead buf).1.state = .ERROR := by
  unfold onRead feedReadBio
  rw [if_pos unready]
  rcases holds.feedLoop buf.length buf (Nat.le_refl _) with
    ⟨next, run, fedNext, decrypted, state⟩ | ⟨next, run, state⟩
  · rw [run]
    obtain ⟨after, same, established⟩ := fedNext.handshake (state.trans unready)
    exact Or.inl ⟨rfl, after, same.trans decrypted, established⟩
  · rw [run]
    exact Or.inr state

omit [StreamOpenSSL Engine] in
theorem handleError_cases (conn : SslConnection Engine) (error : SSLError) :
    conn.handleError error = conn ∨ (conn.handleError error).state = .ERROR := by
  unfold handleError
  cases error with
  | SSL => exact Or.inr rfl
  | SYSCALL => exact Or.inr rfl
  | UNKNOWN => exact Or.inr rfl
  | NONE => exact Or.inl rfl
  | WANT_READ => exact Or.inl rfl
  | WANT_WRITE => exact Or.inl rfl

theorem settle_error {conn : SslConnection Engine} (failed : conn.state = .ERROR) :
    conn.flushWriteBio.drainPendingPlain.state = .ERROR := by
  rw [settle_dead failed]
  exact (state_flush conn).trans failed

theorem onRead_established {conn : SslConnection Engine} {stream : Bytes} (holds : conn.Fed stream)
    (complete : finished Engine stream = true) (established : conn.state = .ESTABLISHED) (buf : Bytes) :
    ((conn.onRead buf).2 = [] ∧ (conn.onRead buf).1.Fed (stream ++ buf) ∧
      (conn.onRead buf).1.decryptedBuffer =
        (if buf = [] then conn.decryptedBuffer else plain Engine (stream ++ buf)) ∧
      (conn.onRead buf).1.state = .ESTABLISHED) ∨
    (conn.onRead buf).1.state = .ERROR := by
  unfold onRead feedReadBio
  have later : ¬ conn.state = .HANDSHAKE := by rw [established]; nofun
  rw [if_neg later, if_pos established]
  by_cases empty : buf = []
  · subst empty
    left
    simp only [↓reduceIte, List.append_nil]
    exact ⟨trivial, holds, trivial, established⟩
  · rw [if_neg empty, if_neg empty]
    rcases holds.feedLoop buf.length buf (Nat.le_refl _) with
      ⟨next, run, fedNext, decrypted, state⟩ | ⟨next, run, state⟩
    · have whole := finished_append stream buf complete
      obtain ⟨last, ended, read, fedLast, all, stateLast⟩ :=
        fedNext.readLoop whole (unread next.ssl + 1) (Nat.lt_succ_self _)
      obtain ⟨negative, err⟩ := ended
      obtain ⟨settled, same, stays⟩ := fedLast.settle
      have open_ : last.state = .ESTABLISHED := stateLast.trans (state.trans established)
      rw [run]
      dsimp only
      rw [read]
      cases negative with
      | false => exact Or.inl ⟨rfl, settled, same.trans all, stays.trans open_⟩
      | true =>
        dsimp only
        split
        · rcases handleError_cases last (getLastError err) with unchanged | failed
          · rw [unchanged]
            exact Or.inl ⟨rfl, settled, same.trans all, stays.trans open_⟩
          · exact Or.inr (settle_error failed)
        · exact Or.inl ⟨rfl, settled, same.trans all, stays.trans open_⟩
    · rw [run]
      exact Or.inr state

/-! Deliveries. -/

/-- What has arrived is appended to the Muduo buffer, which `onRead` is then given. -/
def deliver (at_ : SslConnection Engine × Bytes) (chunk : Bytes) : SslConnection Engine × Bytes :=
  at_.1.onRead (at_.2 ++ chunk)

def deliverAll (at_ : SslConnection Engine × Bytes) (chunks : List Bytes) : SslConnection Engine × Bytes :=
  chunks.foldl deliver at_

/-- A connection as `onConnection` leaves it. -/
def accept (ssl : Engine) : SslConnection Engine × Bytes :=
  (({ ssl := ssl } : SslConnection Engine).startHandshake, [])

variable (Engine) in
/-- Bytes arrived after the delivery that completed the handshake. -/
def Later (chunks : List Bytes) : Prop :=
  ∃ before after, chunks = before ++ after ∧ finished Engine before.flatten = true ∧ after.flatten ≠ []

theorem later_append (chunks : List Bytes) (chunk : Bytes) :
    Later Engine (chunks ++ [chunk]) ↔
      Later Engine chunks ∨ finished Engine chunks.flatten = true ∧ chunk ≠ [] := by
  apply Iff.intro
  · intro given
    obtain ⟨before, after, shape, complete, more⟩ := given
    rcases List.eq_nil_or_concat after with empty | ⟨init, last, rfl⟩
    · subst empty
      exact absurd rfl more
    · rw [List.concat_eq_append, ← List.append_assoc] at shape
      obtain ⟨rfl, same⟩ := List.append_inj' shape rfl
      obtain rfl := List.singleton_inj.mp same
      rw [List.concat_eq_append] at more
      by_cases nothing : init.flatten = []
      · refine Or.inr ⟨?_, ?_⟩
        · rw [List.flatten_append]
          exact finished_append _ _ complete
        · intro empty
          simp [nothing, empty] at more
      · exact Or.inl ⟨before, init, rfl, complete, nothing⟩
  · intro given
    rcases given with ⟨before, after, rfl, complete, more⟩ | ⟨complete, more⟩
    · refine ⟨before, after ++ [chunk], by rw [List.append_assoc], complete, ?_⟩
      simp only [List.flatten_append, ne_eq, List.append_eq_nil_iff, not_and]
      intro nothing
      exact absurd nothing more
    · exact ⟨chunks, [chunk], rfl, complete, by simpa using more⟩

def Stands (at_ : SslConnection Engine × Bytes) (chunks : List Bytes) : Prop :=
  at_.1.state = .ERROR ∨
    at_.2 = [] ∧ at_.1.Fed chunks.flatten ∧
      (at_.1.state = .HANDSHAKE ∧ finished Engine chunks.flatten = false ∧ at_.1.decryptedBuffer = [] ∨
        at_.1.state = .ESTABLISHED ∧ finished Engine chunks.flatten = true ∧
          (Later Engine chunks → at_.1.decryptedBuffer = plain Engine chunks.flatten) ∧
          (¬ Later Engine chunks → at_.1.decryptedBuffer = []))

theorem stands_deliver {at_ : SslConnection Engine × Bytes} {chunks : List Bytes}
    (stands : Stands at_ chunks) (chunk : Bytes) : Stands (deliver at_ chunk) (chunks ++ [chunk]) := by
  obtain ⟨conn, buf⟩ := at_
  have whole : (chunks ++ [chunk]).flatten = chunks.flatten ++ chunk := by simp
  unfold Stands deliver
  rw [whole, later_append]
  rcases stands with failed | ⟨empty, fed, ⟨unready, incomplete, nothing⟩ | ⟨established, complete, some_, none_⟩⟩
  · left
    show (conn.onRead (buf ++ chunk)).1.state = .ERROR
    have state : conn.state = .ERROR := failed
    unfold onRead
    rw [if_neg (by rw [state]; nofun), if_neg (by rw [state]; nofun)]
    exact state
  · change buf = [] at empty
    subst empty
    rw [List.nil_append]
    rcases onRead_handshake fed unready chunk with ⟨taken, fedNext, same, state⟩ | failed
    · right
      refine ⟨taken, fedNext, ?_⟩
      have early : ¬ Later Engine chunks := by
        intro given
        obtain ⟨before, after, rfl, complete, _⟩ := given
        rw [List.flatten_append, finished_append _ _ complete] at incomplete
        cases incomplete
      cases finishes : finished Engine (chunks.flatten ++ chunk) with
      | false =>
        rw [finishes] at state
        exact Or.inl ⟨state, rfl, same.trans nothing⟩
      | true =>
        rw [finishes] at state
        refine Or.inr ⟨state, rfl, ?_, fun _ => same.trans nothing⟩
        intro given
        rcases given with later | ⟨complete, _⟩
        · exact absurd later early
        · rw [incomplete] at complete
          cases complete
    · exact Or.inl failed
  · change buf = [] at empty
    subst empty
    rw [List.nil_append]
    rcases onRead_established fed complete established chunk with ⟨taken, fedNext, read, state⟩ | failed
    · right
      refine ⟨taken, fedNext, Or.inr ⟨state, finished_append _ _ complete, ?_, ?_⟩⟩
      · intro later
        by_cases empty : chunk = []
        · rw [if_pos empty] at read
          rcases later with earlier | ⟨_, more⟩
          · rw [read, some_ earlier, empty, List.append_nil]
          · exact absurd empty more
        · rw [if_neg empty] at read
          exact read
      · intro early
        have empty : chunk = [] := by
          by_contra more
          exact early (Or.inr ⟨complete, more⟩)
        rw [if_pos empty] at read
        exact read.trans (none_ fun later => early (Or.inl later))
    · exact Or.inl failed

theorem stands_deliverAll {at_ : SslConnection Engine × Bytes} {before : List Bytes}
    (stands : Stands at_ before) (chunks : List Bytes) :
    Stands (deliverAll at_ chunks) (before ++ chunks) := by
  induction chunks generalizing at_ before with
  | nil =>
    rw [List.append_nil]
    exact stands
  | cons chunk chunks ih =>
    have next := ih (stands_deliver stands chunk)
    rw [List.append_assoc] at next
    exact next

theorem stands_accept (ssl : Engine) (fresh : fed ssl = []) (unread : given ssl = []) :
    Stands (accept ssl) [] := by
  have start : ({ ssl := ssl } : SslConnection Engine).Fed [] := ⟨fresh, unread, rfl⟩
  obtain ⟨fedNext, same, state⟩ := start.handshake rfl
  refine Or.inr ⟨rfl, fedNext, ?_⟩
  cases finishes : finished Engine [] with
  | false =>
    rw [finishes] at state
    exact Or.inl ⟨state, finishes, same⟩
  | true =>
    rw [finishes] at state
    refine Or.inr ⟨state, finishes, ?_, fun _ => same⟩
    intro given
    obtain ⟨before, after, shape, _, more⟩ := given
    obtain ⟨rfl, rfl⟩ := List.append_eq_nil_iff.mp shape.symm
    exact absurd rfl more

/-- All that the stream holds is decrypted if and only if bytes arrived after the delivery that
    completed the handshake, or it holds nothing. -/
theorem decrypted_iff (ssl : Engine) (fresh : fed ssl = []) (unread : given ssl = [])
    (chunks : List Bytes) (established : (deliverAll (accept ssl) chunks).1.state = .ESTABLISHED) :
    (deliverAll (accept ssl) chunks).1.decryptedBuffer = plain Engine chunks.flatten ↔
      Later Engine chunks ∨ plain Engine chunks.flatten = [] := by
  have stands := stands_deliverAll (stands_accept ssl fresh unread) chunks
  rw [List.nil_append] at stands
  rcases stands with failed | ⟨_, _, ⟨unready, _⟩ | ⟨_, _, some_, none_⟩⟩
  · rw [failed] at established
    cases established
  · rw [unready] at established
    cases established
  · by_cases later : Later Engine chunks
    · exact iff_of_true (some_ later) (Or.inl later)
    · rw [none_ later]
      apply Iff.intro
      · exact fun same => Or.inr same.symm
      · intro given
        rcases given with now | nothing
        · exact absurd now later
        · exact nothing.symm

end SslConnection

/-! An engine whose client says `HS` for its handshake, and then sends application bytes as they are. -/

def samplePlain (stream : Bytes) : Bytes :=
  if (bytes "HS").isPrefixOf stream then stream.drop 2 else []

theorem samplePlain_append (stream more : Bytes) : samplePlain stream <+: samplePlain (stream ++ more) := by
  unfold samplePlain
  by_cases complete : (bytes "HS").isPrefixOf stream = true
  · obtain ⟨rest, rfl⟩ := List.isPrefixOf_iff_prefix.mp complete
    have longer : (bytes "HS").isPrefixOf (bytes "HS" ++ rest ++ more) = true :=
      List.isPrefixOf_iff_prefix.mpr ⟨rest ++ more, by rw [List.append_assoc]⟩
    rw [if_pos complete, if_pos longer]
    exact ⟨more, rfl⟩
  · rw [if_neg complete]
    exact List.nil_prefix

structure SampleEngine where
  fed : Bytes := []
  given : Bytes := []
  within : given <+: samplePlain fed := by exact List.nil_prefix

namespace SampleEngine

def rest (ssl : SampleEngine) : Bytes := (samplePlain ssl.fed).drop ssl.given.length

theorem given_rest (ssl : SampleEngine) : ssl.given ++ ssl.rest = samplePlain ssl.fed := by
  obtain ⟨more, same⟩ := ssl.within
  unfold rest
  rw [← same, List.drop_left]

def write (ssl : SampleEngine) (data : Bytes) : SampleEngine :=
  ⟨ssl.fed ++ data, ssl.given, ssl.within.trans (samplePlain_append ssl.fed data)⟩

def read (ssl : SampleEngine) (size : Nat) : SampleEngine :=
  ⟨ssl.fed, ssl.given ++ ssl.rest.take size, by
    rw [← ssl.given_rest]
    exact List.prefix_append_right_inj _ |>.mpr (List.take_prefix size ssl.rest)⟩

theorem rest_read (ssl : SampleEngine) (size : Nat) : (ssl.read size).rest = ssl.rest.drop size := by
  have whole := (ssl.read size).given_rest
  have same : (ssl.read size).given = ssl.given ++ ssl.rest.take size := rfl
  have split : ssl.given ++ (ssl.rest.take size ++ ssl.rest.drop size) = samplePlain ssl.fed := by
    rw [List.take_append_drop, given_rest]
  rw [same, List.append_assoc] at whole
  exact List.append_cancel_left (List.append_cancel_left (whole.trans split.symm))

def sslRead (ssl : SampleEngine) (size : Nat) : ReadResult × SampleEngine :=
  if ssl.rest.take size = [] then (.failed true .wantRead, ssl) else (.data (ssl.rest.take size), ssl.read size)

theorem sslRead_some {ssl : SampleEngine} {size : Nat} {data : Bytes} (result : (ssl.sslRead size).1 = .data data) :
    data = ssl.rest.take size ∧ data ≠ [] ∧ (ssl.sslRead size).2 = ssl.read size := by
  unfold sslRead at result ⊢
  split at result
  · cases result
  · next more =>
    cases result
    rw [if_neg more]
    exact ⟨rfl, more, rfl⟩

theorem sslRead_none {ssl : SampleEngine} {size : Nat} {negative : Bool} {err : ErrorCode}
    (result : (ssl.sslRead size).1 = .failed negative err) :
    ssl.rest.take size = [] ∧ (ssl.sslRead size).2 = ssl := by
  unfold sslRead at result ⊢
  split at result
  · next none_ =>
    rw [if_pos none_]
    exact ⟨none_, rfl⟩
  · cases result

instance : StreamOpenSSL SampleEngine where
  doHandshake ssl :=
    (if (bytes "HS").isPrefixOf ssl.fed then .done else .failed .wantRead, ssl)
  sslRead := sslRead
  sslWrite ssl offered := (if offered = [] then .failed .none else .accepted offered.length, ssl)
  bioWrite ssl data := (data.length, ssl.write data)
  bioPending _ := 0
  bioRead ssl _ := ([], ssl)
  unread ssl := ssl.rest.length
  fed := fed
  given := given
  finished stream := (bytes "HS").isPrefixOf stream
  plain := samplePlain
  sslWrite_bound := by
    intro ssl offered n took
    change (if offered = [] then _ else _) = _ at took
    split at took
    · cases took
    · next more =>
      cases took
      exact ⟨List.length_pos_iff.mpr more, Nat.le_refl _⟩
  sslRead_unread := by
    intro ssl size data positive result
    obtain ⟨shape, more, next⟩ := sslRead_some result
    refine ⟨more, ?_⟩
    rw [next, rest_read, List.length_drop]
    have some_ : ssl.rest ≠ [] := by
      intro empty
      rw [empty, List.take_nil] at shape
      exact more shape
    have := List.length_pos_iff.mpr some_
    omega
  bioRead_pending _ _ := rfl
  bioWrite_stream _ _ _ := ⟨rfl, rfl⟩
  bioRead_stream _ _ := ⟨rfl, rfl⟩
  doHandshake_stream _ := ⟨rfl, rfl⟩
  sslRead_stream ssl size := by
    cases result : (ssl.sslRead size).1 with
    | data data =>
      rw [(sslRead_some result).2.2]
      rfl
    | failed negative err => rw [(sslRead_none result).2]
  doHandshake_done ssl := by
    by_cases complete : (bytes "HS").isPrefixOf ssl.fed = true
    · simp [complete]
    · simp [complete]
  sslRead_data ssl size data complete result := by
    obtain ⟨shape, _, next⟩ := sslRead_some result
    rw [next, shape]
    rfl
  sslRead_failed ssl size negative err positive complete result := by
    obtain ⟨none_, same⟩ := sslRead_none result
    have empty : ssl.rest = [] := (List.take_eq_nil_iff.mp none_).resolve_left (by omega)
    refine ⟨by rw [same], ?_⟩
    rw [← ssl.given_rest, empty, List.append_nil]
  finished_append stream more complete := by
    obtain ⟨rest, rfl⟩ := List.isPrefixOf_iff_prefix.mp complete
    exact List.isPrefixOf_iff_prefix.mpr ⟨rest ++ more, (List.append_assoc _ _ _).symm⟩

end SampleEngine

namespace SslConnection

/-- Application bytes in the delivery that ends the handshake stay in the engine. -/
theorem joined_delivery_waits :
    ¬ ∀ (ssl : SampleEngine) (chunks : List Bytes), fed ssl = [] → given ssl = [] →
      (deliverAll (accept ssl) chunks).1.state = .ESTABLISHED →
        (deliverAll (accept ssl) chunks).1.decryptedBuffer = plain SampleEngine chunks.flatten := by
  intro claimed
  have same := claimed {} [bytes "HSGET"] rfl rfl (by decide)
  revert same
  decide

theorem separate_delivery_read :
    Later SampleEngine [bytes "HS", bytes "GET"] ∧
      ((deliverAll (accept ({} : SampleEngine)) [bytes "HS", bytes "GET"]).1.decryptedBuffer =
          plain SampleEngine [bytes "HS", bytes "GET"].flatten ↔
        Later SampleEngine [bytes "HS", bytes "GET"] ∨
          plain SampleEngine [bytes "HS", bytes "GET"].flatten = []) := by
  have later : Later SampleEngine [bytes "HS", bytes "GET"] :=
    ⟨[bytes "HS"], [bytes "GET"], rfl, by decide, by decide⟩
  exact ⟨later, decrypted_iff ({} : SampleEngine) rfl rfl [bytes "HS", bytes "GET"] (by decide)⟩

end SslConnection

end Ssl
