import HttpServerApps.Common.Places
import HttpServerApps.Common.Runs
import HttpServerApps.Ssl.EngineMap
import HttpServerApps.Ssl.Outbound
import HttpServerApps.Ssl.Pieces

namespace Ssl

open Common OpenSSL

/-- A `BIO_write` to the read BIO, with what it returned. -/
structure Feed where
  chunk : Bytes
  result : Int
  deriving DecidableEq

def Feed.whole (feed : Feed) : Bool := feed.result = feed.chunk.length

def fullyAccepted (feeds : List Feed) : Bytes := (feeds.filter Feed.whole).flatMap Feed.chunk

theorem fullyAccepted_append (first second : List Feed) :
    fullyAccepted (first ++ second) = fullyAccepted first ++ fullyAccepted second := by
  unfold fullyAccepted
  rw [List.filter_append, List.flatMap_append]

theorem fullyAccepted_short {feed : Feed} (short : feed.whole = false) : fullyAccepted [feed] = [] := by
  unfold fullyAccepted
  rw [List.filter_cons_of_neg (ne_true_of_eq_false short)]
  rfl

theorem fullyAccepted_whole {feed : Feed} (whole : feed.whole = true) : fullyAccepted [feed] = feed.chunk := by
  unfold fullyAccepted
  rw [List.filter_cons_of_pos whole]
  exact List.append_nil _

/-- An engine that lists the writes to its read BIO, and is otherwise the engine it has. -/
structure Logged (Engine : Type) where
  engine : Engine
  feeds : List Feed := []

instance {Engine : Type} [OpenSSL Engine] : OpenSSL (Logged Engine) where
  doHandshake ssl := ((doHandshake ssl.engine).1, ⟨(doHandshake ssl.engine).2, ssl.feeds⟩)
  sslRead ssl size := ((sslRead ssl.engine size).1, ⟨(sslRead ssl.engine size).2, ssl.feeds⟩)
  sslWrite ssl offered := ((sslWrite ssl.engine offered).1, ⟨(sslWrite ssl.engine offered).2, ssl.feeds⟩)
  bioWrite ssl data :=
    ((bioWrite ssl.engine data).1,
      ⟨(bioWrite ssl.engine data).2, ssl.feeds ++ [⟨data, (bioWrite ssl.engine data).1⟩]⟩)
  bioPending ssl := bioPending ssl.engine
  bioRead ssl size := ((bioRead ssl.engine size).1, ⟨(bioRead ssl.engine size).2, ssl.feeds⟩)
  unread ssl := unread ssl.engine
  sslWrite_bound ssl offered n took := sslWrite_bound ssl.engine offered n took
  sslRead_unread ssl size data positive read := sslRead_unread ssl.engine size data positive read
  bioRead_pending ssl size := bioRead_pending ssl.engine size

def loggedEngine {Engine : Type} [OpenSSL Engine] : EngineMap (Logged Engine) Engine where
  map := Logged.engine
  doHandshake _ := rfl
  sslRead _ _ := rfl
  sslWrite _ _ := rfl
  bioWrite _ _ := rfl
  bioPending _ := rfl
  bioRead _ _ := rfl
  unread _ := rfl

namespace SslConnection

variable {Engine : Type}

def feeds (conn : SslConnection (Logged Engine)) : List Feed := conn.ssl.feeds

variable [OpenSSL Engine]

/-! All but a `BIO_write` leave the list alone, and the state ERROR is final. -/

structure Quiet (before after : SslConnection (Logged Engine)) : Prop where
  feeds : after.feeds = before.feeds
  error : before.state = .ERROR → after.state = .ERROR

omit [OpenSSL Engine] in
theorem quiet_of_state {before after : SslConnection (Logged Engine)} (feeds : after.feeds = before.feeds)
    (state : after.state = before.state) : Quiet before after := ⟨feeds, state.trans⟩

theorem kept_quiet : Kept (@Quiet Engine) where
  refl _ := quiet_of_state rfl rfl
  trans first second := ⟨second.feeds.trans first.feeds, fun error => second.error (first.error error)⟩
  doHandshake _ := quiet_of_state rfl rfl
  sslRead _ _ := quiet_of_state rfl rfl
  sslWrite _ _ := quiet_of_state rfl rfl
  bioRead _ _ := quiet_of_state rfl rfl
  record _ _ := quiet_of_state rfl rfl
  setPending _ _ := quiet_of_state rfl rfl
  append _ _ := quiet_of_state rfl rfl
  error _ := ⟨rfl, fun _ => rfl⟩
  established conn shaking := ⟨rfl, fun error => by cases shaking.symm.trans error⟩

/-! A feed. -/

/-- What a feed of `data` has written, if it came to its end. -/
structure Whole (data : Bytes) (new : List Feed) : Prop where
  all : ∀ feed ∈ new, feed.whole = true
  chunks : fullyAccepted new = data

/-- What a feed of `data` has written, if it came to a short write. -/
structure Cut (data : Bytes) (new : List Feed) : Prop where
  last : ∃ first short, new = first ++ [short] ∧ short.whole = false ∧ ∀ feed ∈ first, feed.whole = true
  chunks : ∃ rest, rest ≠ [] ∧ fullyAccepted new ++ rest = data

theorem Whole.cons {feed : Feed} {data : Bytes} {new : List Feed} (full : feed.whole = true) (whole : Whole data new) :
    Whole (feed.chunk ++ data) (feed :: new) := by
  apply Whole.mk
  · intro other member
    rcases List.mem_cons.mp member with same | later
    · rw [same]
      exact full
    · exact whole.all other later
  · rw [← List.singleton_append, fullyAccepted_append, fullyAccepted_whole full, whole.chunks]

theorem Cut.cons {feed : Feed} {data : Bytes} {new : List Feed} (full : feed.whole = true) (cut : Cut data new) :
    Cut (feed.chunk ++ data) (feed :: new) := by
  rcases cut.last with ⟨first, short, rfl, partial_, all⟩
  rcases cut.chunks with ⟨rest, more, shape⟩
  apply Cut.mk
  · refine ⟨feed :: first, short, rfl, partial_, ?_⟩
    intro other member
    rcases List.mem_cons.mp member with same | later
    · rw [same]
      exact full
    · exact all other later
  · refine ⟨rest, more, ?_⟩
    rw [← List.singleton_append, fullyAccepted_append, fullyAccepted_whole full, List.append_assoc, shape]

theorem feedLoop_feeds (fuel : Nat) (conn : SslConnection (Logged Engine)) (data : Bytes)
    (enough : data.length ≤ fuel) : ∃ new, (feedLoop fuel conn data).1.feeds = conn.feeds ++ new ∧
      ((feedLoop fuel conn data).2 = true ∧ Whole data new ∨
        (feedLoop fuel conn data).2 = false ∧ Cut data new ∧ (feedLoop fuel conn data).1.state = .ERROR) := by
  induction fuel generalizing conn data with
  | zero =>
    have empty : data = [] := List.eq_nil_of_length_eq_zero (Nat.le_zero.mp enough)
    subst empty
    exact ⟨[], (List.append_nil _).symm, Or.inl ⟨rfl, by simp, rfl⟩⟩
  | succ fuel ih =>
    simp only [feedLoop]
    split
    · next empty =>
      subst empty
      exact ⟨[], (List.append_nil _).symm, Or.inl ⟨rfl, by simp, rfl⟩⟩
    · next some_ =>
      have positive := List.length_pos_iff.mpr some_
      split
      · next short =>
        have part : (Feed.mk (data.take INT_MAX) (bioWrite conn.ssl (data.take INT_MAX)).1).whole = false :=
          decide_eq_false short
        refine ⟨[⟨data.take INT_MAX, (bioWrite conn.ssl (data.take INT_MAX)).1⟩], ?_, Or.inr ⟨rfl, ?_, state_flush _⟩⟩
        · exact (kept_quiet.fatal _).feeds
        · refine ⟨⟨[], _, rfl, part, by simp⟩, data, some_, ?_⟩
          rw [fullyAccepted_short part]
          rfl
      · next full =>
        have whole : (Feed.mk (data.take INT_MAX) (bioWrite conn.ssl (data.take INT_MAX)).1).whole = true :=
          decide_eq_true (not_not.mp full)
        have shorter : (data.drop INT_MAX).length ≤ fuel := by
          rw [List.length_drop]
          unfold INT_MAX
          omega
        rcases ih (conn.setSsl (bioWrite conn.ssl (data.take INT_MAX)).2) (data.drop INT_MAX) shorter with
          ⟨new, feeds, ended⟩
        refine ⟨⟨data.take INT_MAX, (bioWrite conn.ssl (data.take INT_MAX)).1⟩ :: new, ?_, ?_⟩
        · rw [feeds, List.append_cons]
          rfl
        · rcases ended with ⟨run, complete⟩ | ⟨run, cut, error⟩
          · have all := complete.cons whole
            rw [List.take_append_drop] at all
            exact Or.inl ⟨run, all⟩
          · have all := cut.cons whole
            rw [List.take_append_drop] at all
            exact Or.inr ⟨run, all, error⟩

end SslConnection

/-! A connection, its Muduo buffer and all that has arrived over TCP. -/

structure Wire (Engine : Type) where
  conn : SslConnection (Logged Engine)
  buffer : Bytes := []
  stream : Bytes := []

/-- What happens to a connection after `startHandshake`; `retrieve` takes decrypted bytes. -/
inductive WireStep where
  | arrive (data : Bytes)
  | onWriteComplete
  | send (data : Bytes)
  | retrieve (n : Nat)

namespace Wire

variable {Engine : Type} [OpenSSL Engine]

def step (wire : Wire Engine) : WireStep → Wire Engine
  | .arrive data =>
    let (conn, buffer) := wire.conn.onRead (wire.buffer ++ data)
    ⟨conn, buffer, wire.stream ++ data⟩
  | .onWriteComplete => { wire with conn := wire.conn.onWriteComplete }
  | .send data => { wire with conn := wire.conn.send data }
  | .retrieve n => { wire with conn.decryptedBuffer := wire.conn.decryptedBuffer.drop n }

def steps : System (Wire Engine) WireStep := ⟨fun wire action => some (wire.step action)⟩

/-- A connection as `onConnection` leaves it. -/
def accept (ssl : Engine) : Wire Engine :=
  { conn := ({ ssl := { engine := ssl } } : SslConnection (Logged Engine)).startHandshake }

def offered (wire : Wire Engine) : WireStep → Bytes
  | .arrive data => wire.buffer ++ data
  | _ => wire.buffer

def Short (wire : Wire Engine) : Prop := ∃ feed ∈ wire.conn.feeds, feed.whole = false

/-- What a step feeds and retrieves: all bytes are retrieved if all of them were accepted, and none otherwise; after
    a short write nothing is fed or retrieved. -/
structure Takes (wire : Wire Engine) (action : WireStep) (new : List Feed) : Prop where
  feeds : (wire.step action).conn.feeds = wire.conn.feeds ++ new
  retrieved : (wire.step action).buffer = [] ∧ fullyAccepted new = wire.offered action ∨
    (wire.step action).buffer = wire.offered action ∧ fullyAccepted new ≠ wire.offered action
  stopped : wire.Short → new = [] ∧ (wire.step action).buffer = wire.offered action

structure FedOnce (wire : Wire Engine) : Prop where
  /-- At every write to the read BIO so far. -/
  inOrder : ∀ first, first <+: wire.conn.feeds → fullyAccepted first <+: wire.stream
  shortLast : ∀ first feed rest, wire.conn.feeds = first ++ feed :: rest → feed.whole = false → rest = []
  takes : ∀ action, ∃ new, wire.Takes action new
  /-- Without a short write no byte is lost or doubled. -/
  together : ¬ wire.Short → wire.stream = fullyAccepted wire.conn.feeds ++ wire.buffer
  /-- A connection that reads takes all that is there, or meets a short write. -/
  emptied : ∀ data, wire.conn.state = .HANDSHAKE ∨ wire.conn.state = .ESTABLISHED →
    (wire.step (.arrive data)).buffer = [] ∨ (wire.step (.arrive data)).Short

/-! The invariant: nothing is lost between the read BIO and the buffer, or a short write has been the last. -/

inductive Intake (wire : Wire Engine) : Prop where
  | open (all : ∀ feed ∈ wire.conn.feeds, feed.whole = true)
      (stream : wire.stream = fullyAccepted wire.conn.feeds ++ wire.buffer) : Intake wire
  | cut {first short} (feeds : wire.conn.feeds = first ++ [short]) (part : short.whole = false)
      (all : ∀ feed ∈ first, feed.whole = true) (stream : fullyAccepted first <+: wire.stream)
      (error : wire.conn.state = .ERROR) : Intake wire

variable {wire next : Wire Engine}

omit [OpenSSL Engine] in
theorem retrieved_none {buffer offered : Bytes} (same : buffer = offered) :
    buffer = [] ∧ fullyAccepted [] = offered ∨ buffer = offered ∧ fullyAccepted [] ≠ offered := by
  by_cases empty : offered = []
  · exact Or.inl ⟨same.trans empty, empty.symm⟩
  · exact Or.inr ⟨same, fun nothing => empty nothing.symm⟩

omit [OpenSSL Engine] in
theorem intake_idle (intake : Intake wire) (quiet : SslConnection.Quiet wire.conn next.conn) {arrived : Bytes}
    (buffer : next.buffer = wire.buffer ++ arrived) (stream : next.stream = wire.stream ++ arrived) : Intake next := by
  cases intake with
  | «open» all whole =>
    apply Intake.open
    · rw [quiet.feeds]
      exact all
    · rw [quiet.feeds, buffer, stream, whole, List.append_assoc]
  | cut feeds part all before error =>
    apply Intake.cut (quiet.feeds.trans feeds) part all _ (quiet.error error)
    rw [stream]
    exact before.trans (List.prefix_append _ _)

omit [OpenSSL Engine] in
theorem not_short {wire : Wire Engine} (all : ∀ feed ∈ wire.conn.feeds, feed.whole = true) : ¬ wire.Short := by
  rintro ⟨feed, member, part⟩
  cases (all feed member).symm.trans part

/-- A step without arriving bytes leaves the buffer and the list of writes alone. -/
theorem quiet_step (intake : Intake wire) {action : WireStep}
    (quiet : SslConnection.Quiet wire.conn (wire.step action).conn) (offered : wire.offered action = wire.buffer)
    (buffer : (wire.step action).buffer = wire.buffer) (stream : (wire.step action).stream = wire.stream) :
    ∃ new, wire.Takes action new ∧ Intake (wire.step action) := by
  have same := buffer.trans offered.symm
  refine ⟨[], ⟨quiet.feeds.trans (List.append_nil _).symm, retrieved_none same, fun _ => ⟨rfl, same⟩⟩, ?_⟩
  exact @intake_idle _ wire (wire.step action) intake quiet [] (buffer.trans (List.append_nil _).symm)
    (stream.trans (List.append_nil _).symm)

omit [OpenSSL Engine] in
theorem Intake.calm (intake : Intake wire) {offered : Bytes} (fed : SslConnection.Feeds wire.conn offered) :
    (∀ feed ∈ wire.conn.feeds, feed.whole = true) ∧ wire.stream = fullyAccepted wire.conn.feeds ++ wire.buffer := by
  cases intake with
  | «open» all stream => exact ⟨all, stream⟩
  | cut _ _ _ _ error =>
    rcases fed with early | ⟨late, _⟩
    · cases error.symm.trans early
    · cases error.symm.trans late

/-- What `onRead` makes of the bytes that were there and have arrived. -/
theorem reads_intake (intake : Intake wire) {data : Bytes} {conn : SslConnection (Logged Engine)} {buffer : Bytes}
    (reads : SslConnection.Reads SslConnection.Quiet wire.conn (wire.buffer ++ data) (conn, buffer)) :
    ∃ new, conn.feeds = wire.conn.feeds ++ new ∧
      (buffer = [] ∧ fullyAccepted new = wire.buffer ++ data ∨
        buffer = wire.buffer ++ data ∧ fullyAccepted new ≠ wire.buffer ++ data) ∧
      (wire.Short → new = [] ∧ buffer = wire.buffer ++ data) ∧ Intake ⟨conn, buffer, wire.stream ++ data⟩ := by
  rcases SslConnection.feedLoop_feeds (wire.buffer ++ data).length wire.conn (wire.buffer ++ data) (Nat.le_refl _) with
    ⟨new, feeds, ended⟩
  change (wire.conn.feedReadBio (wire.buffer ++ data)).1.feeds = wire.conn.feeds ++ new at feeds
  change (wire.conn.feedReadBio (wire.buffer ++ data)).2 = true ∧ _ ∨
    (wire.conn.feedReadBio (wire.buffer ++ data)).2 = false ∧ _ ∧
      (wire.conn.feedReadBio (wire.buffer ++ data)).1.state = .ERROR at ended
  cases reads with
  | passed notFed =>
    have same := SslConnection.kept_quiet.refl wire.conn
    exact ⟨[], (List.append_nil _).symm, retrieved_none rfl, fun _ => ⟨rfl, rfl⟩, intake_idle intake same rfl rfl⟩
  | failed fed short =>
    rcases ended with ⟨whole, _⟩ | ⟨_, cut, error⟩
    · cases short.symm.trans whole
    · rcases intake.calm fed with ⟨all, stream⟩
      rcases cut.chunks with ⟨rest, more, shape⟩
      rcases cut.last with ⟨first, last, rfl, part, before⟩
      refine ⟨first ++ [last], feeds, Or.inr ⟨rfl, ?_⟩, fun stopped => absurd stopped (not_short all), ?_⟩
      · intro same
        have length := congrArg List.length (shape.trans same.symm)
        rw [List.length_append] at length
        have positive := List.length_pos_iff.mpr more
        omega
      · rw [← List.append_assoc] at feeds
        apply Intake.cut feeds part _ _ error
        · intro feed member
          rcases List.mem_append.mp member with old | fresh
          · exact all feed old
          · exact before feed fresh
        · rw [fullyAccepted_append, fullyAccepted_short part, List.append_nil] at shape
          rw [fullyAccepted_append, stream, List.append_assoc, ← shape, ← List.append_assoc]
          exact List.prefix_append _ _
  | taken fed whole later =>
    rcases ended with ⟨_, complete⟩ | ⟨short, _⟩
    · rcases intake.calm fed with ⟨all, stream⟩
      have listed := later.feeds.trans feeds
      refine ⟨new, listed, Or.inl ⟨rfl, complete.chunks⟩, fun stopped => absurd stopped (not_short all), ?_⟩
      apply Intake.open
      · intro feed member
        rw [listed] at member
        rcases List.mem_append.mp member with old | fresh
        · exact all feed old
        · exact complete.all feed fresh
      · rw [listed, fullyAccepted_append, complete.chunks, stream, List.append_assoc]
        exact (List.append_nil _).symm
    · cases whole.symm.trans short

theorem intake_step (intake : Intake wire) (action : WireStep) :
    ∃ new, wire.Takes action new ∧ Intake (wire.step action) := by
  cases action with
  | arrive data =>
    rcases reads_intake intake (SslConnection.kept_quiet.reads wire.conn (wire.buffer ++ data)) with
      ⟨new, feeds, retrieved, stopped, next⟩
    exact ⟨new, ⟨feeds, retrieved, stopped⟩, next⟩
  | onWriteComplete =>
    exact @quiet_step _ _ wire intake .onWriteComplete (SslConnection.kept_quiet.onWriteComplete wire.conn) rfl rfl rfl
  | send data =>
    exact @quiet_step _ _ wire intake (.send data) (SslConnection.kept_quiet.send wire.conn data) rfl rfl rfl
  | retrieve n =>
    exact @quiet_step _ _ wire intake (.retrieve n) (SslConnection.quiet_of_state rfl rfl) rfl rfl rfl

omit [OpenSSL Engine] in
theorem fullyAccepted_mono {first feeds : List Feed} (earlier : first <+: feeds) :
    fullyAccepted first <+: fullyAccepted feeds := by
  rcases earlier with ⟨rest, rfl⟩
  rw [fullyAccepted_append]
  exact List.prefix_append _ _

theorem arrive_emptied (wire : Wire Engine) (data : Bytes)
    (reading : wire.conn.state = .HANDSHAKE ∨ wire.conn.state = .ESTABLISHED) :
    (wire.step (.arrive data)).buffer = [] ∨ (wire.step (.arrive data)).Short := by
  have reads := SslConnection.kept_quiet.reads wire.conn (wire.buffer ++ data)
  change (wire.conn.onRead (wire.buffer ++ data)).2 = [] ∨
    ∃ feed ∈ (wire.conn.onRead (wire.buffer ++ data)).1.feeds, feed.whole = false
  generalize wire.conn.onRead (wire.buffer ++ data) = after at reads ⊢
  cases reads with
  | passed idle =>
    left
    rcases reading with shaking | established
    · exact absurd (Or.inl shaking) idle
    · by_contra some_
      exact idle (Or.inr ⟨established, some_⟩)
  | failed _ short =>
    right
    rcases SslConnection.feedLoop_feeds (wire.buffer ++ data).length wire.conn (wire.buffer ++ data)
      (Nat.le_refl _) with ⟨new, feeds, ⟨whole, _⟩ | ⟨_, cut, _⟩⟩
    · cases short.symm.trans whole
    · rcases cut.last with ⟨first, last, rfl, part, _⟩
      refine ⟨last, ?_, part⟩
      change last ∈ (SslConnection.feedLoop (wire.buffer ++ data).length wire.conn (wire.buffer ++ data)).1.feeds
      rw [feeds]
      exact List.mem_append_right _ (List.mem_append_right _ List.mem_cons_self)
  | taken _ _ _ => exact Or.inl rfl

theorem Intake.fedOnce (intake : Intake wire) : wire.FedOnce := by
  have takes : ∀ action, ∃ new, wire.Takes action new := by
    intro action
    rcases intake_step intake action with ⟨new, taken, _⟩
    exact ⟨new, taken⟩
  cases intake with
  | «open» all stream =>
    refine ⟨?_, ?_, takes, fun _ => stream, arrive_emptied wire⟩
    · intro first earlier
      rw [stream]
      exact (fullyAccepted_mono earlier).trans (List.prefix_append _ _)
    · intro first feed rest shape part
      have member : feed ∈ wire.conn.feeds := by
        rw [shape]
        exact List.mem_append_right _ List.mem_cons_self
      cases (all feed member).symm.trans part
  | cut feeds part all stream error =>
    have short_ : wire.Short := ⟨_, by rw [feeds]; exact List.mem_append_right _ List.mem_cons_self, part⟩
    refine ⟨?_, ?_, takes, fun never => absurd short_ never, arrive_emptied wire⟩
    · intro first earlier
      rw [feeds] at earlier
      have accepted := fullyAccepted_mono earlier
      rw [fullyAccepted_append, fullyAccepted_short part, List.append_nil] at accepted
      exact accepted.trans stream
    · intro first feed rest shape short
      rw [feeds] at shape
      rcases append_placed shape with ⟨between, inside, _⟩ | ⟨between, _, beyond⟩
      · have member := all feed (by rw [inside]; exact List.mem_append_right _ List.mem_cons_self)
        cases member.symm.trans short
      · cases between with
        | nil =>
          cases beyond
          rfl
        | cons head between =>
          have length := congrArg List.length beyond
          simp at length

theorem fed_once_in_order (ssl : Engine) (actions : List WireStep) :
    steps.Always FedOnce (accept ssl) actions := by
  have start : Intake (accept ssl) := by
    have shaken := SslConnection.kept_quiet.handshake (rfl :
      ({ ssl := { engine := ssl } } : SslConnection (Logged Engine)).state = .HANDSHAKE)
    have none_ : (accept ssl).conn.feeds = [] := shaken.feeds
    apply Intake.open
    · rw [none_]
      simp
    · rw [none_]
      rfl
  have run : steps.Always Intake (accept ssl) actions := by
    intro before after wire _ reached
    apply System.run_preserves _ start reached
    intro earlier action later taken intake
    cases taken
    rcases intake_step intake action with ⟨_, _, next⟩
    exact next
  exact fun before after wire shape reached => (run before after wire shape reached).fedOnce

/-! The list of writes is only kept: the runs are those of the engine itself. -/

def unlogged (wire : Wire Engine) : SslConnection Engine × Bytes := (wire.conn.onEngine Logged.engine, wire.buffer)

def plainStep (at_ : SslConnection Engine × Bytes) : WireStep → SslConnection Engine × Bytes
  | .arrive data => at_.1.onRead (at_.2 ++ data)
  | .onWriteComplete => (at_.1.onWriteComplete, at_.2)
  | .send data => (at_.1.send data, at_.2)
  | .retrieve n => ({ at_.1 with decryptedBuffer := at_.1.decryptedBuffer.drop n }, at_.2)

theorem unlogged_step (wire : Wire Engine) (action : WireStep) :
    (wire.step action).unlogged = plainStep wire.unlogged action := by
  cases action with
  | arrive data => exact (SslConnection.onEngine_onRead loggedEngine wire.conn (wire.buffer ++ data)).symm
  | onWriteComplete =>
    exact congrArg (·, wire.buffer) (SslConnection.onEngine_onWriteComplete loggedEngine wire.conn)
  | send data => exact congrArg (·, wire.buffer) (SslConnection.onEngine_send loggedEngine wire.conn data)
  | retrieve n => rfl

theorem unlogged_run {final : Wire Engine} {actions : List WireStep} (run : steps.run wire actions = some final) :
    final.unlogged = actions.foldl plainStep wire.unlogged := by
  induction actions generalizing wire with
  | nil =>
    cases run
    rfl
  | cons action actions ih =>
    have later := @ih (wire.step action) run
    rw [unlogged_step] at later
    exact later

theorem unlogged_accept (ssl : Engine) :
    (accept ssl).unlogged = (({ ssl := ssl } : SslConnection Engine).startHandshake, []) :=
  congrArg (·, []) (SslConnection.onEngine_handshake loggedEngine { ssl := { engine := ssl } })

end Wire

end Ssl
