import HttpServerApps.Amqp.Deliveries

namespace AmqpClient

open Common ChannelImpl

/-! What has arrived. -/

def Arrival.content : Arrival → List Frame
  | .frame seen _ => if seen.isContent then [seen] else []
  | _ => []

def contentOf (arrivals : List Arrival) : List Frame := arrivals.flatMap Arrival.content

/-- Anything but a response and the end of a channel or of the connection. -/
def Arrival.ordinary : Arrival → Bool
  | .frame seen _ => if seen.channel = 0 then seen.payload = .heartbeat else seen.isContent
  | .quiet => true
  | .failed _ => false

/-- The time of a call is up then. -/
def Arrival.endsWait : Arrival → Bool
  | .frame _ late => late
  | .quiet => true
  | .failed _ => false

/-- Frames of other channels at most. -/
def Foreign (channel : ChannelId) (arrivals : List Arrival) : Prop :=
  ∀ arrival ∈ arrivals, ∀ frame late, arrival = .frame frame late → frame.channel ≠ channel

/-- The time of a call is up before a frame of the channel comes. -/
def TimesOut (channel : ChannelId) (incoming : List Arrival) : Prop :=
  ∃ passed last rest, incoming = passed ++ last :: rest ∧ last.endsWait = true ∧ Foreign channel (passed ++ [last])

theorem Foreign.append {channel : ChannelId} {first second : List Arrival} (early : Foreign channel first)
    (late : Foreign channel second) : Foreign channel (first ++ second) := by
  intro arrival member
  rcases List.mem_append.mp member with there | there
  · exact early arrival there
  · exact late arrival there

theorem TimesOut.after {channel : ChannelId} {passed incoming : List Arrival} (none_ : Foreign channel passed)
    (timesOut : TimesOut channel incoming) : TimesOut channel (passed ++ incoming) := by
  rcases timesOut with ⟨later, last, rest, rfl, ends, foreign⟩
  refine ⟨passed ++ later, last, rest, (List.append_assoc ..).symm, ends, ?_⟩
  rw [List.append_assoc]
  exact none_.append foreign

/-- Frames of the channel may be anything. -/
def Arrival.Lawful (channel : ChannelId) (arrival : Arrival) : Prop :=
  arrival.ordinary = true ∨ ∃ frame late, arrival = .frame frame late ∧ frame.channel = channel

theorem contentOf_append (first second : List Arrival) :
    contentOf (first ++ second) = contentOf first ++ contentOf second := List.flatMap_append

theorem contentOf_quiet {quiets : List Arrival} (silent : ∀ arrival ∈ quiets, arrival = .quiet) :
    contentOf quiets = [] := by
  apply List.flatMap_eq_nil_iff.mpr
  intro arrival member
  rw [silent arrival member]
  rfl

theorem contentOf_frame {frame : Frame} (content : frame.isContent = true) (late : Bool) :
    contentOf [.frame frame late] = [frame] := by simp [contentOf, Arrival.content, content]

theorem contentOf_length (arrivals : List Arrival) : (contentOf arrivals).length ≤ arrivals.length := by
  induction arrivals with
  | nil => exact Nat.le_refl 0
  | cons arrival arrivals ih =>
    have one : arrival.content.length ≤ 1 := by
      unfold Arrival.content
      split
      · split <;> simp
      · simp
    rw [contentOf, List.flatMap_cons, List.length_append, List.length_cons]
    unfold contentOf at ih
    omega

namespace ChannelImpl

/-- The frames of a channel that are there to be taken, in the queue and in the socket. -/
def stock (impl : ChannelImpl) (channel : ChannelId) : List Frame :=
  framesOn channel (impl.frameQueue ++ contentOf impl.incoming)

theorem stock_eq (impl : ChannelImpl) (channel : ChannelId) :
    impl.stock channel = framesOn channel impl.frameQueue ++ framesOn channel (contentOf impl.incoming) :=
  framesOn_append ..

/-- All but the frames and the messages. -/
def standing (impl : ChannelImpl) : ChannelImpl :=
  { impl with incoming := [], frameQueue := [], deliveredMessages := [] }

def deliveredOn (impl : ChannelImpl) (channel : ChannelId) : List Envelope :=
  impl.deliveredMessages.filter fun envelope => envelope.deliveryChannel = channel

end ChannelImpl

/-- The books of a channel: the messages that its consumer is sent, the frames of them that come later, and what has
    been handed out. -/
structure Account where
  sent : List Delivery
  later : List Frame
  handed : List Envelope

structure Books where
  account : ChannelId → Account
  standing : ChannelImpl

/-- So many messages are done with, and so many frames remain. -/
structure Account.Stands (account : Account) (channel : ChannelId) (impl : ChannelImpl) (done : List Delivery)
    (frames : List Frame) : Prop where
  handed : account.handed ++ impl.deliveredOn channel = done.map (Delivery.envelope channel)
  remaining : impl.stock channel ++ account.later = frames

/-- The channel is between two messages. -/
def Account.Balanced (account : Account) (channel : ChannelId) (impl : ChannelImpl) : Prop :=
  ∃ done rest, account.sent = done ++ rest ∧ account.Stands channel impl done (rest.flatMap (Delivery.frames channel))

theorem Account.Stands.same {account : Account} {channel : ChannelId} {before after : ChannelImpl}
    {done : List Delivery} {frames : List Frame} (stands : account.Stands channel before done frames)
    (stock : after.stock channel = before.stock channel) (delivered : after.deliveredOn channel = before.deliveredOn channel) :
    account.Stands channel after done frames where
  handed := by rw [delivered]; exact stands.handed
  remaining := by rw [stock]; exact stands.remaining

theorem Account.Balanced.same {account : Account} {channel : ChannelId} {before after : ChannelImpl}
    (balanced : account.Balanced channel before) (stock : after.stock channel = before.stock channel)
    (delivered : after.deliveredOn channel = before.deliveredOn channel) : account.Balanced channel after := by
  rcases balanced with ⟨done, rest, sent, stands⟩
  exact ⟨done, rest, sent, stands.same stock delivered⟩

/-- In the middle of a call for one channel: the books of the others are balanced. -/
structure Orderly (books : Books) (channel : ChannelId) (impl : ChannelImpl) : Prop where
  content : ∀ frame ∈ impl.frameQueue, frame.isContent = true
  lawful : ∀ arrival ∈ impl.incoming, arrival.Lawful channel
  standing : impl.standing = books.standing
  others : ∀ other, other ≠ channel → (books.account other).Balanced other impl

/-- What a call has done that looked for frames of a channel: what was taken stood behind what was passed over. -/
structure Passes (books : Books) (channel : ChannelId) (before : ChannelImpl) (taken : List Arrival)
    (after : ChannelImpl) : Prop where
  orderly : Orderly books channel after
  queue : framesOn channel after.frameQueue = framesOn channel before.frameQueue
  delivered : after.deliveredOn channel = before.deliveredOn channel
  incoming : ∃ passed, before.incoming = passed ++ (taken ++ after.incoming) ∧ Foreign channel passed

section

variable {books : Books} {channel : ChannelId} {before after : ChannelImpl}

theorem framesOn_passed {passed : List Arrival} (none_ : Foreign channel passed) :
    framesOn channel (contentOf passed) = [] := by
  apply framesOn_none
  intro frame member
  rcases List.mem_flatMap.mp member with ⟨arrival, inside, content⟩
  unfold Arrival.content at content
  split at content
  · rename_i seen late
    split at content
    · cases List.mem_singleton.mp content
      exact none_ _ inside _ _ rfl
    · cases content
  · cases content

theorem Passes.stock {taken : List Arrival} (passes : Passes books channel before taken after) :
    before.stock channel =
      framesOn channel before.frameQueue ++ framesOn channel (contentOf taken) ++
        framesOn channel (contentOf after.incoming) := by
  rcases passes.incoming with ⟨passed, shape, none_⟩
  rw [stock_eq, shape, contentOf_append, contentOf_append, framesOn_append, framesOn_append, framesOn_passed none_,
    List.nil_append, List.append_assoc]

theorem Passes.stock_none (passes : Passes books channel before [] after) :
    after.stock channel = before.stock channel := by
  rw [passes.stock, stock_eq, passes.queue]
  simp [contentOf, framesOn]

end

/-! One frame after the other. -/

namespace ChannelImpl

variable {books : Books} {consume : ChannelId → Calling (Option Envelope)} {channel : ChannelId}
  {impl : ChannelImpl} {timed : Bool}

theorem waitFrame_cases {incoming : List Arrival} (lawful : ∀ arrival ∈ incoming, arrival.Lawful channel) :
    (waitFrame timed incoming).2 = .error .waiting ∧ contentOf incoming = [] ∨
      (timed = true ∧ ∃ rest, incoming = .quiet :: rest ∧ waitFrame timed incoming = (rest, .ok none)) ∨
      ∃ quiets frame late rest, incoming = quiets ++ .frame frame late :: rest ∧
        (∀ arrival ∈ quiets, arrival = .quiet) ∧ waitFrame timed incoming = (rest, .ok (some (frame, late))) := by
  induction incoming with
  | nil => exact Or.inl ⟨rfl, rfl⟩
  | cons arrival incoming ih =>
    cases arrival with
    | frame frame late => exact Or.inr (Or.inr ⟨[], frame, late, incoming, rfl, by simp, rfl⟩)
    | failed status =>
      rcases lawful _ (List.mem_cons_self ..) with ordinary | ⟨frame, late, other, _⟩
      · cases ordinary
      · cases other
    | quiet =>
      cases timed with
      | true => exact Or.inr (Or.inl ⟨rfl, incoming, rfl, rfl⟩)
      | false =>
        have on : waitFrame false (.quiet :: incoming) = waitFrame false incoming := rfl
        rw [on]
        rcases ih fun other member => lawful other (List.mem_cons_of_mem _ member) with
          waits | ⟨impossible, _⟩ | ⟨quiets, frame, late, rest, shape, silent, run⟩
        · exact Or.inl waits
        · cases impossible
        · refine Or.inr (Or.inr ⟨.quiet :: quiets, frame, late, rest, by rw [shape]; rfl, ?_, run⟩)
          intro other member
          rcases List.mem_cons.mp member with rfl | inside
          · rfl
          · exact silent other inside

theorem addToFrameQueue_part {frame : Frame}
    (part : checkForQueuedMessageOnChannel (impl.frameQueue ++ [frame]) frame.channel = .ok false) :
    (addToFrameQueue consume frame).run impl = ({ impl with frameQueue := impl.frameQueue ++ [frame] }, .ok ()) := by
  unfold addToFrameQueue
  rw [Throwing.run_modify_bind, Throwing.run_read_bind, part]
  rfl

theorem addToFrameQueue_whole {frame : Frame} {after : ChannelImpl} {envelope : Envelope}
    (whole : checkForQueuedMessageOnChannel (impl.frameQueue ++ [frame]) frame.channel = .ok true)
    (taken : (consume frame.channel).run { impl with frameQueue := impl.frameQueue ++ [frame] } =
      (after, .ok (some envelope))) :
    (addToFrameQueue consume frame).run impl =
      ({ after with deliveredMessages := after.deliveredMessages ++ [envelope] }, .ok ()) := by
  unfold addToFrameQueue
  rw [Throwing.run_modify_bind, Throwing.run_read_bind, whole, Throwing.run_call_bind]
  dsimp only
  rw [if_pos rfl, Throwing.run_bind_ok taken]
  rfl

/-- A frame that is put by leaves the books of all channels but the wanted one balanced: a message that it completes
    goes over to the delivered ones. -/
theorem addToFrameQueue_orderly (takes : Takes consume) {frame : Frame} (different : frame.channel ≠ channel)
    (orderly : Orderly books channel { impl with frameQueue := impl.frameQueue ++ [frame] }) :
    ∃ after, (addToFrameQueue consume frame).run impl = (after, .ok ()) ∧ Orderly books channel after ∧
      framesOn channel after.frameQueue = framesOn channel impl.frameQueue ∧
      after.deliveredOn channel = impl.deliveredOn channel ∧ after.incoming = impl.incoming := by
  let added : ChannelImpl := { impl with frameQueue := impl.frameQueue ++ [frame] }
  have kept : framesOn channel added.frameQueue = framesOn channel impl.frameQueue := by
    rw [framesOn_append, @framesOn_none channel [frame] (by simpa using different), List.append_nil]
  rcases orderly.others frame.channel different with ⟨done, rest, sent, stands⟩
  have stream := stands.remaining
  rw [stock_eq, List.append_assoc] at stream
  rcases check_stream stream with part | ⟨delivery, later, queued, rfl, whole, found⟩
  · rw [check_framesOn] at part
    exact ⟨added, addToFrameQueue_part part, orderly, kept, rfl, rfl⟩
  · rw [check_framesOn] at found
    rcases takes added frame.channel delivery queued whole with ⟨queue, taken, leaves⟩
    let after : ChannelImpl :=
      { added with
        frameQueue := queue, deliveredMessages := added.deliveredMessages ++ [delivery.envelope frame.channel] }
    have elsewhere : ∀ other, other ≠ frame.channel →
        after.stock other = added.stock other ∧ after.deliveredOn other = added.deliveredOn other := by
      intro other apart
      apply And.intro
      · rw [stock_eq, stock_eq, leaves.others other apart]
      · have foreign : ¬ (delivery.envelope frame.channel).deliveryChannel = other := fun same => apart same.symm
        unfold ChannelImpl.deliveredOn
        simp [after, foreign]
    refine ⟨after, addToFrameQueue_whole found taken, ⟨?_, orderly.lawful, orderly.standing, ?_⟩, ?_,
      (elsewhere channel different.symm).2, rfl⟩
    · exact fun other member => orderly.content other (leaves.members other member)
    · intro other apart
      by_cases same : other = frame.channel
      · rw [same]
        refine ⟨done ++ [delivery], later, by rw [sent, List.append_assoc]; rfl, ?_, ?_⟩
        · have own : (delivery.envelope frame.channel).deliveryChannel = frame.channel := rfl
          have before := stands.handed
          unfold ChannelImpl.deliveredOn at before ⊢
          rw [List.map_append, ← before]
          simp [after, added, own]
        · rw [stock_eq, leaves.own]
          rw [whole, List.flatMap_cons, List.append_assoc] at stream
          rw [List.append_assoc]
          exact List.append_cancel_left stream
      · exact (orderly.others other apart).same (elsewhere other same).1 (elsewhere other same).2
    · exact (leaves.others channel different.symm).trans kept

theorem putBy_orderly (takes : Takes consume) {quiets rest : List Arrival} {frame : Frame} {late : Bool}
    (different : frame.channel ≠ channel) (orderly : Orderly books channel impl)
    (shape : impl.incoming = quiets ++ .frame frame late :: rest) (silent : ∀ arrival ∈ quiets, arrival = .quiet) :
    ∃ after, (putBy consume frame).run { impl with incoming := rest } = (after, .ok ()) ∧
      Orderly books channel after ∧ framesOn channel after.frameQueue = framesOn channel impl.frameQueue ∧
      after.deliveredOn channel = impl.deliveredOn channel ∧ after.incoming = rest := by
  have lawful : ∀ arrival ∈ rest, arrival.Lawful channel := by
    intro arrival member
    apply orderly.lawful
    rw [shape]
    exact List.mem_append_right _ (List.mem_cons_of_mem _ member)
  have ordinary : (Arrival.frame frame late).ordinary = true := by
    have member : .frame frame late ∈ impl.incoming := by
      rw [shape]
      exact List.mem_append_right _ (List.mem_cons_self ..)
    rcases orderly.lawful _ member with ordinary | ⟨other, _, same, own⟩
    · exact ordinary
    · cases same
      exact absurd own different
  have content : contentOf impl.incoming = (Arrival.frame frame late).content ++ contentOf rest := by
    rw [shape, contentOf_append, contentOf_quiet silent, List.nil_append]
    rfl
  unfold Arrival.ordinary at ordinary
  unfold putBy
  dsimp only at ordinary
  by_cases own : frame.channel = 0
  · rw [if_pos own, decide_eq_true_eq] at ordinary
    have none_ : (Arrival.frame frame late).content = [] := by simp [Arrival.content, Frame.isContent, ordinary]
    refine ⟨{ impl with incoming := rest }, ?_, ⟨orderly.content, lawful, orderly.standing, ?_⟩, rfl, rfl, rfl⟩
    · rw [if_pos own, ordinary]
      rfl
    · intro other apart
      refine (orderly.others other apart).same ?_ rfl
      unfold ChannelImpl.stock
      rw [content, none_, List.nil_append]
  · rw [if_neg own] at ordinary
    have some_ : (Arrival.frame frame late).content = [frame] := by simp [Arrival.content, ordinary]
    rw [if_neg own]
    apply addToFrameQueue_orderly takes different
    refine ⟨?_, lawful, orderly.standing, ?_⟩
    · intro other member
      rcases List.mem_append.mp member with queued | here
      · exact orderly.content other queued
      · cases List.mem_singleton.mp here
        exact ordinary
    · intro other apart
      refine (orderly.others other apart).same ?_ rfl
      unfold ChannelImpl.stock
      rw [content, some_, List.append_assoc]

def Looked (books : Books) (channel : ChannelId) (timed : Bool) (before : ChannelImpl)
    (found : Option (Frame × Bool)) (after : ChannelImpl) : Prop :=
  match found with
  | none => (timed = true ∧ TimesOut channel before.incoming) ∧ Passes books channel before [] after
  | some (frame, late) => frame.channel = channel ∧ Passes books channel before [.frame frame late] after

theorem Looked.after {before middle after : ChannelImpl} {found : Option (Frame × Bool)} {passed : List Arrival}
    (looked : Looked books channel timed middle found after)
    (queue : framesOn channel middle.frameQueue = framesOn channel before.frameQueue)
    (delivered : middle.deliveredOn channel = before.deliveredOn channel)
    (incoming : before.incoming = passed ++ middle.incoming) (none_ : Foreign channel passed) :
    Looked books channel timed before found after := by
  have further : ∀ {taken}, Passes books channel middle taken after → Passes books channel before taken after := by
    intro taken passes
    rcases passes.incoming with ⟨later, shape, laterNone⟩
    refine ⟨passes.orderly, passes.queue.trans queue, passes.delivered.trans delivered, passed ++ later, ?_,
      none_.append laterNone⟩
    rw [incoming, shape, List.append_assoc]
  unfold Looked at looked ⊢
  split at looked
  · rw [incoming]
    exact ⟨⟨looked.1.1, looked.1.2.after none_⟩, further looked.2⟩
  · exact ⟨looked.1, further looked.2⟩

/-- By induction on the fuel, which the socket outlasts by no frame. -/
theorem brokerLoop_looked (takes : Takes consume) {fuel : Nat} (orderly : Orderly books channel impl)
    (enough : impl.incoming.length < fuel) :
    Throwing.Ends (Looked books channel timed impl)
      (fun problem _ => problem = .waiting ∧ framesOn channel (contentOf impl.incoming) = [])
      ((brokerLoop consume [channel] timed fuel).run impl) := by
  induction fuel generalizing impl with
  | zero => exact absurd enough (Nat.not_lt_zero _)
  | succ fuel ih =>
    have next : (getNextFrameFromBroker timed).run impl =
        ({ impl with incoming := (waitFrame timed impl.incoming).1 }, (waitFrame timed impl.incoming).2) := rfl
    rw [brokerLoop]
    rcases @waitFrame_cases channel timed impl.incoming orderly.lawful with
      waits | ⟨rfl, rest, shape, run⟩ | ⟨quiets, frame, late, rest, shape, silent, run⟩
    · rw [waits.1] at next
      rw [Throwing.run_bind_error next, waits.2]
      exact ⟨rfl, rfl⟩
    · rw [run] at next
      rw [Throwing.run_bind_ok next]
      have silent : Foreign channel [.quiet] := by simp [Foreign]
      refine ⟨⟨rfl, [], .quiet, rest, shape, rfl, silent⟩, ⟨orderly.content, ?_, orderly.standing, ?_⟩, rfl, rfl,
        [.quiet], shape, silent⟩
      · intro arrival member
        apply orderly.lawful
        rw [shape]
        exact List.mem_cons_of_mem _ member
      · intro other apart
        refine (orderly.others other apart).same ?_ rfl
        unfold ChannelImpl.stock
        rw [shape]
        rfl
    · rw [run] at next
      rw [Throwing.run_bind_ok next]
      dsimp only
      have quietly : Foreign channel quiets := by
        intro arrival member frame late same
        rw [silent arrival member] at same
        cases same
      by_cases own : frame.channel = channel
      · rw [if_pos (by simp [own])]
        refine ⟨own, ⟨orderly.content, ?_, orderly.standing, ?_⟩, rfl, rfl, quiets, shape, quietly⟩
        · intro arrival member
          apply orderly.lawful
          rw [shape]
          exact List.mem_append_right _ (List.mem_cons_of_mem _ member)
        · intro other apart
          refine (orderly.others other apart).same ?_ rfl
          have foreign : framesOn other (Arrival.frame frame late).content = [] := by
            apply framesOn_none
            intro seen member
            unfold Arrival.content at member
            dsimp only at member
            split at member
            · cases List.mem_singleton.mp member
              exact fun same => apart (same.symm.trans own)
            · cases member
          rw [stock_eq, stock_eq, shape, contentOf_append, contentOf_quiet silent, List.nil_append,
            show contentOf (.frame frame late :: rest) = (Arrival.frame frame late).content ++ contentOf rest from rfl,
            framesOn_append, foreign, List.nil_append]
      · rw [if_neg (by simpa using own)]
        rcases putBy_orderly takes own orderly shape silent with ⟨middle, put, still, queue, delivered, left⟩
        have incoming : impl.incoming = (quiets ++ [.frame frame late]) ++ middle.incoming := by
          rw [shape, left, List.append_assoc]
          rfl
        have none_ : Foreign channel (quiets ++ [.frame frame late]) := by
          apply quietly.append
          intro arrival here seen seenLate same
          rw [List.mem_singleton.mp here] at same
          cases same
          exact own
        rw [Throwing.run_bind_ok put]
        split
        · rename_i up
          rw [Bool.and_eq_true] at up
          exact ⟨⟨up.1, quiets, .frame frame late, rest, shape, up.2, none_⟩, still, queue, delivered, _, incoming, none_⟩
        · have shorter : middle.incoming.length < fuel := by
            rw [incoming] at enough
            simp only [List.length_append, List.length_cons, List.length_nil] at enough
            omega
          apply (ih still shorter).imp fun _ _ looked => looked.after queue delivered incoming none_
          rintro problem _ ⟨waits, nothing⟩
          refine ⟨waits, ?_⟩
          rw [incoming, contentOf_append, framesOn_append, framesOn_passed none_, nothing, List.nil_append]

theorem getNextFrameFromBrokerOnChannel_looked (takes : Takes consume) (orderly : Orderly books channel impl) :
    Throwing.Ends (Looked books channel timed impl)
      (fun problem _ => problem = .waiting ∧ framesOn channel (contentOf impl.incoming) = [])
      ((getNextFrameFromBrokerOnChannel consume [channel] timed).run impl) :=
  brokerLoop_looked takes orderly (Nat.lt_succ_self _)

end ChannelImpl

/-! A call that takes a message from a channel. -/

/-- All that comes is ordinary, and of the channel so many messages are done with and so many frames remain. -/
structure Ready (books : Books) (channel : ChannelId) (done : List Delivery) (frames : List Frame)
    (impl : ChannelImpl) : Prop where
  orderly : Orderly books channel impl
  plain : ∀ arrival ∈ impl.incoming, arrival.ordinary = true
  stands : (books.account channel).Stands channel impl done frames

/-- The call waits, as more frames are to come than those behind the wanted ones. -/
def Short (books : Books) (channel : ChannelId) (behind : List Frame) (problem : Thrown) (_ : ChannelImpl) : Prop :=
  problem = .waiting ∧ behind.length < (books.account channel).later.length

section

variable {books : Books} {channel : ChannelId} {done : List Delivery} {frames : List Frame}
  {before after : ChannelImpl}

theorem Ready.later (ready : Ready books channel done frames before) (queue : framesOn channel before.frameQueue = [])
    (incoming : framesOn channel (contentOf before.incoming) = []) : (books.account channel).later = frames := by
  have remaining := ready.stands.remaining
  rwa [stock_eq, queue, incoming] at remaining

theorem Passes.plain {taken : List Arrival} (passes : Passes books channel before taken after)
    (plain : ∀ arrival ∈ before.incoming, arrival.ordinary = true) :
    ∀ arrival ∈ taken ++ after.incoming, arrival.ordinary = true := by
  intro arrival member
  rcases passes.incoming with ⟨passed, shape, _⟩
  apply plain
  rw [shape]
  exact List.mem_append_right _ member

theorem Passes.ready_none (passes : Passes books channel before [] after)
    (ready : Ready books channel done frames before) : Ready books channel done frames after :=
  ⟨passes.orderly, passes.plain ready.plain, ready.stands.same passes.stock_none passes.delivered⟩

/-- Where none of its frames is queued, the channel gets the first that remains. -/
theorem Passes.ready_some (numbered : channel ≠ 0) (empty : framesOn channel before.frameQueue = []) {frame : Frame}
    {late : Bool} (own : frame.channel = channel) (passes : Passes books channel before [.frame frame late] after)
    (ready : Ready books channel done frames before) :
    ∃ rest, frames = frame :: rest ∧ Ready books channel done rest after := by
  have content : frame.isContent = true := by
    have ordinary := passes.plain ready.plain _ (List.mem_append_left _ (List.mem_cons_self ..))
    unfold Arrival.ordinary at ordinary
    dsimp only at ordinary
    rwa [own, if_neg numbered] at ordinary
  have here : framesOn channel (contentOf [.frame frame late]) = [frame] := by
    rw [contentOf_frame content, framesOn_own (by simpa using own)]
  have left : after.stock channel = framesOn channel (contentOf after.incoming) := by
    rw [stock_eq, passes.queue, empty, List.nil_append]
  refine ⟨after.stock channel ++ (books.account channel).later, ?_, passes.orderly, ?_, ?_, rfl⟩
  · rw [← ready.stands.remaining, passes.stock, empty, here, left]
    rfl
  · exact fun arrival member => passes.plain ready.plain arrival (List.mem_append_right _ member)
  · rw [passes.delivered]
    exact ready.stands.handed

/-- The frame of the channel that is queued first is the first that remains. -/
theorem Ready.queued {frame : Frame} {queued : List Frame} (ready : Ready books channel done frames before)
    (own : framesOn channel before.frameQueue = frame :: queued) :
    ∃ rest, frames = frame :: rest ∧ Ready books channel done rest
      { before with frameQueue := before.frameQueue.eraseP (Frame.isOnChannel channel) } := by
  have leaves := leaves_first own
  have stock : before.stock channel = frame :: (queued ++ framesOn channel (contentOf before.incoming)) := by
    rw [stock_eq, own]
    rfl
  refine ⟨queued ++ framesOn channel (contentOf before.incoming) ++ (books.account channel).later, ?_,
    ⟨?_, ready.orderly.lawful, ready.orderly.standing, ?_⟩, ready.plain, ready.stands.handed, ?_⟩
  · rw [← ready.stands.remaining, stock]
    rfl
  · exact fun other member => ready.orderly.content other (leaves.members other member)
  · intro other apart
    refine (ready.orderly.others other apart).same ?_ rfl
    rw [stock_eq, stock_eq, leaves.others other apart]
  · rw [stock_eq, leaves.own]

end

namespace ChannelImpl

variable {books : Books} {consume : ChannelId → Calling (Option Envelope)} {channel : ChannelId}
  {impl : ChannelImpl} {done : List Delivery} {frames : List Frame}

theorem getNextFrameOnChannel_ready (takes : Takes consume) (numbered : channel ≠ 0) {frame : Frame}
    (content : frame.isContent = true) (ready : Ready books channel done (frame :: frames) impl) {behind : List Frame}
    (fewer : behind.length ≤ frames.length) :
    Throwing.Ends (fun found after => found = some frame ∧ Ready books channel done frames after)
      (Short books channel behind) ((getNextFrameOnChannel consume channel).run impl) := by
  cases own : framesOn channel impl.frameQueue with
  | cons first queued =>
    rcases ready.queued own with ⟨rest, same, next⟩
    cases same
    rw [getNextFrameOnChannel_queued own content]
    exact ⟨rfl, next⟩
  | nil =>
    have unqueued : impl.frameQueue.find? (Frame.isOnChannel channel) = none := find?_none_own own
    unfold getNextFrameOnChannel
    rw [Throwing.run_read_bind, unqueued]
    have looks : Throwing.Ends (Looked books channel false impl) (Short books channel behind)
        ((getNextFrameFromBrokerOnChannel consume [channel] false).run impl) := by
      apply (getNextFrameFromBrokerOnChannel_looked takes ready.orderly).imp fun _ _ looked => looked
      rintro problem _ ⟨waits, nothing⟩
      refine ⟨waits, ?_⟩
      rw [ready.later own nothing]
      exact Nat.lt_succ_of_le fewer
    apply looks.bind
    intro found after looked
    cases found with
    | none => cases looked.1.1
    | some seen =>
      rcases looked.2.ready_some numbered own looked.1 ready with ⟨rest, same, next⟩
      cases same
      exact ⟨rfl, next⟩

/-- By induction on the fuel: every round takes one of the channel's frames. -/
theorem bodyLoop_ready (takes : Takes consume) (numbered : channel ≠ 0) {fragments : List Bytes} {fuel : Nat}
    {body : Bytes} (filled : ∀ fragment ∈ fragments, fragment ≠ [])
    (ready : Ready books channel done ((fragments.map fun fragment => ⟨channel, .body fragment⟩) ++ frames) impl)
    (enough : (impl.stock channel).length < fuel) :
    Throwing.Ends
      (fun read after => read = body ++ fragments.flatten ∧ Ready books channel done frames after)
      (Short books channel frames)
      ((bodyLoop consume channel (body.length + fragments.flatten.length) fuel body).run impl) := by
  induction fuel generalizing impl fragments body with
  | zero => exact absurd enough (Nat.not_lt_zero _)
  | succ fuel ih =>
    cases fragments with
    | nil =>
      simp only [bodyLoop, List.flatten_nil, List.length_nil, Nat.add_zero, Nat.le_refl, ↓reduceIte, List.append_nil]
      exact ⟨rfl, ready⟩
    | cons fragment fragments =>
      have some_ : 0 < fragment.length := List.length_pos_iff.mpr (filled fragment (List.mem_cons_self ..))
      have more : ¬ body.length + (fragment :: fragments).flatten.length ≤ body.length := by
        rw [List.flatten_cons, List.length_append]
        omega
      have size : body.length + (fragment :: fragments).flatten.length =
          (body ++ fragment).length + fragments.flatten.length := by
        simp [Nat.add_assoc]
      rw [bodyLoop, if_neg more]
      apply (getNextFrameOnChannel_ready takes numbered rfl ready (List.sublist_append_right _ _).length_le).bind
      rintro _ after ⟨rfl, left⟩
      have next : Ready books channel done ((fragments.map fun fragment => ⟨channel, .body fragment⟩) ++ frames)
        after := left
      have taken : (after.stock channel).length + 1 = (impl.stock channel).length := by
        have had := congrArg List.length ready.stands.remaining
        have has := congrArg List.length next.stands.remaining
        simp only [List.length_append, List.length_map, List.length_cons] at had has
        omega
      dsimp only
      rw [size, List.flatten_cons, ← List.append_assoc]
      exact ih (fun other member => filled other (List.mem_cons_of_mem _ member)) next (by omega)

theorem readContent_ready (takes : Takes consume) (numbered : channel ≠ 0) {delivery : Delivery}
    (ready : Ready books channel done (delivery.content channel ++ frames) impl) :
    Throwing.Ends (fun body after => body = delivery.body ∧ Ready books channel done frames after)
      (Short books channel frames) ((readContent consume channel).run impl) := by
  unfold readContent
  apply (getNextFrameOnChannel_ready takes numbered rfl ready (List.sublist_append_right _ _).length_le).bind
  rintro _ after ⟨rfl, next⟩
  have enough : (after.stock channel).length < after.frameQueue.length + after.incoming.length + 1 := by
    have inside := List.length_filter_le (Frame.isOnChannel channel) (after.frameQueue ++ contentOf after.incoming)
    have small := contentOf_length after.incoming
    rw [List.length_append] at inside
    unfold ChannelImpl.stock framesOn
    omega
  have bodies := @bodyLoop_ready books consume channel after done frames takes numbered delivery.fragments _ []
    delivery.filled next enough
  rw [List.length_nil, Nat.zero_add, List.nil_append] at bodies
  exact bodies

/-- The call waits, as the first of the messages that remain has not wholly arrived. -/
def Awaits (books : Books) (channel : ChannelId) (rest : List Delivery) (problem : Thrown) (after : ChannelImpl) : Prop :=
  problem = .waiting ∧ ∀ delivery later, rest = delivery :: later →
    Short books channel (later.flatMap (Delivery.frames channel)) problem after

/-- A call with a timeout, with no frame of the channel before its time is up. -/
structure Unserved (channel : ChannelId) (timed : Bool) (before : ChannelImpl) : Prop where
  timed : timed = true
  queue : framesOn channel before.frameQueue = []
  timesOut : TimesOut channel before.incoming

def MethodFound (books : Books) (channel : ChannelId) (timed : Bool) (done rest : List Delivery) (before : ChannelImpl)
    (found : Option Frame) (after : ChannelImpl) : Prop :=
  match found with
  | none => Unserved channel timed before ∧ Ready books channel done (rest.flatMap (Delivery.frames channel)) after
  | some frame => ∃ delivery later, rest = delivery :: later ∧
      frame = ⟨channel, .method (.basicDeliver delivery.deliver)⟩ ∧
      Ready books channel done (delivery.content channel ++ later.flatMap (Delivery.frames channel)) after

theorem frames_of_stream {frame : Frame} {left : List Frame} {rest : List Delivery}
    (stream : rest.flatMap (Delivery.frames channel) = frame :: left) :
    ∃ delivery later, rest = delivery :: later ∧ frame = ⟨channel, .method (.basicDeliver delivery.deliver)⟩ ∧
      left = delivery.content channel ++ later.flatMap (Delivery.frames channel) := by
  cases rest with
  | nil => cases stream
  | cons delivery later =>
    rw [List.flatMap_cons] at stream
    rcases List.cons.inj stream with ⟨first, others⟩
    exact ⟨delivery, later, rfl, first.symm, others.symm⟩

theorem getMethodOnChannel_found (takes : Takes consume) (numbered : channel ≠ 0) {timed : Bool}
    {rest : List Delivery} (ready : Ready books channel done (rest.flatMap (Delivery.frames channel)) impl) :
    Throwing.Ends (MethodFound books channel timed done rest impl) (Awaits books channel rest)
      ((getMethodOnChannel consume [channel] deliverOrCancel timed).run impl) := by
  cases own : framesOn channel impl.frameQueue with
  | cons first queued =>
    rcases ready.queued own with ⟨left, stream, next⟩
    rcases frames_of_stream stream with ⟨delivery, later, rfl, rfl, rfl⟩
    rw [getMethodOnChannel_queued timed own rfl]
    exact ⟨delivery, later, rfl, rfl, next⟩
  | nil =>
    have unqueued : impl.frameQueue.find? (Frame.isExpectedMethodOnChannel [channel] deliverOrCancel) = none := by
      apply List.find?_eq_none.mpr
      intro frame member expected
      have on : frame ∈ framesOn channel impl.frameQueue := by
        apply List.mem_filter.mpr
        refine ⟨member, ?_⟩
        unfold Frame.isExpectedMethodOnChannel at expected
        split at expected
        · simp only [Bool.and_eq_true, List.contains_eq_mem, List.mem_singleton, decide_eq_true_eq] at expected
          exact decide_eq_true expected.1
        · cases expected
      rw [own] at on
      cases on
    unfold getMethodOnChannel
    rw [Throwing.run_read_bind, unqueued]
    dsimp only
    rw [Throwing.run_read_bind, methodLoop]
    have looks : Throwing.Ends (Looked books channel timed impl) (Awaits books channel rest)
        ((getNextFrameFromBrokerOnChannel consume [channel] timed).run impl) := by
      apply (getNextFrameFromBrokerOnChannel_looked takes ready.orderly).imp fun _ _ looked => looked
      rintro problem _ ⟨waits, nothing⟩
      refine ⟨waits, ?_⟩
      rintro delivery later rfl
      refine ⟨waits, ?_⟩
      rw [ready.later own nothing, List.flatMap_cons, List.length_append, Delivery.frames, List.length_cons]
      omega
    apply looks.bind
    intro found after looked
    cases found with
    | none =>
      exact ⟨⟨looked.1.1, own, looked.1.2⟩, looked.2.ready_none ready⟩
    | some seen =>
      rcases looked.2.ready_some numbered own looked.1 ready with ⟨left, stream, next⟩
      rcases frames_of_stream stream with ⟨delivery, later, rfl, first, rfl⟩
      have expected : seen.1.isExpectedMethodOnChannel [channel] deliverOrCancel = true := by
        rw [first]
        simp [Frame.isExpectedMethodOnChannel, deliverOrCancel]
      dsimp only
      rw [if_pos expected]
      exact ⟨delivery, later, rfl, first, next⟩

/-- What a consumer gets: the next message, or none where none of its frames has been read. -/
def Consumed (books : Books) (channel : ChannelId) (timed : Bool) (done rest : List Delivery) (before : ChannelImpl)
    (got : Option Envelope) (after : ChannelImpl) : Prop :=
  match got with
  | none => Unserved channel timed before ∧ Ready books channel done (rest.flatMap (Delivery.frames channel)) after
  | some envelope => ∃ delivery later, rest = delivery :: later ∧ envelope = delivery.envelope channel ∧
      Ready books channel done (later.flatMap (Delivery.frames channel)) after

theorem consumeMessageOnChannelInner_consumed (numbered : channel ≠ 0) {timed : Bool} {rest : List Delivery}
    (depth : Nat) (ready : Ready books channel done (rest.flatMap (Delivery.frames channel)) impl) :
    Throwing.Ends (Consumed books channel timed done rest impl) (Awaits books channel rest)
      ((consumeMessageOnChannelInner (depth + 2) [channel] timed).run impl) := by
  simp only [consumeMessageOnChannelInner.eq_2]
  apply (getMethodOnChannel_found (takes_inner depth) numbered ready).bind
  intro found after method
  cases found with
  | none => exact method
  | some frame =>
    rcases method with ⟨delivery, later, rfl, rfl, next⟩
    dsimp only
    have content : Throwing.Ends
        (fun body after => body = delivery.body ∧
          Ready books channel done (later.flatMap (Delivery.frames channel)) after)
        (Awaits books channel (delivery :: later))
        ((readContent (fun channel => consumeMessageOnChannelInner (depth + 1) [channel] false) channel).run after) := by
      apply (readContent_ready (takes_inner depth) numbered next).imp fun _ _ read => read
      intro problem _ short
      refine ⟨short.1, ?_⟩
      rintro _ _ same
      cases same
      exact short
    apply content.bind
    rintro _ left ⟨rfl, still⟩
    exact ⟨delivery, later, rfl, rfl, still⟩

end ChannelImpl

end AmqpClient
