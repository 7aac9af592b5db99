import HttpServerApps.Amqp.Channel
import HttpServerApps.Common.SharedQueue

namespace AmqpClient

open Common ChannelImpl

/-! What a broker sends to the consumer of a channel. -/

/-- A message, with its body in fragments of which none is empty. -/
structure Delivery where
  deliver : Deliver
  fragments : List Bytes
  filled : ∀ fragment ∈ fragments, fragment ≠ []

namespace Delivery

def body (delivery : Delivery) : Bytes := delivery.fragments.flatten

def content (channel : ChannelId) (delivery : Delivery) : List Frame :=
  ⟨channel, .header delivery.body.length⟩ :: delivery.fragments.map fun fragment => ⟨channel, .body fragment⟩

def frames (channel : ChannelId) (delivery : Delivery) : List Frame :=
  ⟨channel, .method (.basicDeliver delivery.deliver)⟩ :: delivery.content channel

def envelope (channel : ChannelId) (delivery : Delivery) : Envelope where
  body := delivery.body
  consumerTag := delivery.deliver.consumerTag
  deliveryTag := delivery.deliver.deliveryTag
  exchange := delivery.deliver.exchange
  redelivered := delivery.deliver.redelivered
  routingKey := delivery.deliver.routingKey
  deliveryChannel := channel

end Delivery

def Frame.isContent (frame : Frame) : Bool :=
  match frame.payload with
  | .method (.basicDeliver _) | .header _ | .body _ => true
  | _ => false

def framesOn (channel : ChannelId) (frames : List Frame) : List Frame := frames.filter (Frame.isOnChannel channel)

theorem framesOn_append (channel : ChannelId) (first second : List Frame) :
    framesOn channel (first ++ second) = framesOn channel first ++ framesOn channel second :=
  List.filter_append ..

theorem framesOn_own {channel : ChannelId} {frames : List Frame} (own : ∀ frame ∈ frames, frame.channel = channel) :
    framesOn channel frames = frames := by
  apply List.filter_eq_self.mpr
  intro frame member
  exact decide_eq_true (own frame member)

theorem framesOn_none {channel : ChannelId} {frames : List Frame} (others : ∀ frame ∈ frames, frame.channel ≠ channel) :
    framesOn channel frames = [] := by
  apply List.filter_eq_nil_iff.mpr
  intro frame member own
  exact others frame member (of_decide_eq_true own)

/-! Whether a whole message is in the queue. -/

theorem findFrame_framesOn {channel : ChannelId} {test : Frame → Bool}
    (narrow : ∀ frame, test frame = true → frame.isOnChannel channel = true) (frames : List Frame) :
    findFrame test (framesOn channel frames) =
      (findFrame test frames).map fun found => (found.1, framesOn channel found.2) := by
  induction frames with
  | nil => rfl
  | cons frame frames ih =>
    unfold framesOn at ih ⊢
    cases on : frame.isOnChannel channel with
    | true =>
      rw [List.filter_cons_of_pos on]
      unfold findFrame
      cases test frame with
      | true => rfl
      | false => exact ih
    | false =>
      have skipped : test frame = false := by
        cases met : test frame with
        | true => exact absurd (narrow frame met) (by simp [on])
        | false => rfl
      rw [List.filter_cons_of_neg (by simp [on])]
      simpa [findFrame, skipped] using ih

theorem bodyQueued_framesOn (channel : ChannelId) (bodyLength : Nat) (frames : List Frame) (bodyReceived : Nat) :
    bodyQueued channel bodyLength bodyReceived (framesOn channel frames) =
      bodyQueued channel bodyLength bodyReceived frames := by
  induction frames generalizing bodyReceived with
  | nil => rfl
  | cons frame frames ih =>
    unfold framesOn at ih ⊢
    by_cases received : bodyLength ≤ bodyReceived
    · have done : ∀ frames, bodyQueued channel bodyLength bodyReceived frames = .ok true := by
        intro frames
        cases frames <;> simp [bodyQueued, received]
      rw [done, done]
    · cases on : frame.isOnChannel channel with
      | true =>
        rw [List.filter_cons_of_pos on]
        simp only [bodyQueued, received, ↓reduceIte, on]
        split
        · exact ih _
        · rfl
      | false =>
        rw [List.filter_cons_of_neg (by simp [on])]
        simpa [bodyQueued, received, on] using ih bodyReceived

theorem check_framesOn (channel : ChannelId) (frames : List Frame) :
    checkForQueuedMessageOnChannel (framesOn channel frames) channel =
      checkForQueuedMessageOnChannel frames channel := by
  have narrow : ∀ frame, Frame.isDeliverOnChannel channel frame = true → frame.isOnChannel channel = true := by
    intro frame met
    unfold Frame.isDeliverOnChannel at met
    split at met
    · exact met
    · cases met
  unfold checkForQueuedMessageOnChannel
  rw [findFrame_framesOn narrow]
  cases findFrame (Frame.isDeliverOnChannel channel) frames with
  | none => rfl
  | some found =>
    simp only [Option.map_some]
    rw [findFrame_framesOn fun _ met => met]
    cases findFrame (Frame.isOnChannel channel) found.2 with
    | none => rfl
    | some header =>
      simp only [Option.map_some]
      split
      · exact bodyQueued_framesOn ..
      · rfl

/-- By induction on the fragments: none is empty, so the loop needs them all. -/
theorem bodyQueued_whole {channel : ChannelId} {fragments : List Bytes} (filled : ∀ fragment ∈ fragments, fragment ≠ [])
    (rest : List Frame) (bodyReceived : Nat) :
    bodyQueued channel (bodyReceived + fragments.flatten.length) bodyReceived
      ((fragments.map fun fragment => ⟨channel, .body fragment⟩) ++ rest) = .ok true := by
  induction fragments generalizing bodyReceived with
  | nil => cases rest <;> simp [bodyQueued]
  | cons fragment fragments ih =>
    have some_ : 0 < fragment.length := List.length_pos_iff.mpr (filled fragment (List.mem_cons_self ..))
    have later := ih (fun other member => filled other (List.mem_cons_of_mem _ member)) (bodyReceived + fragment.length)
    have more : ¬ fragment.length + fragments.flatten.length = 0 := by omega
    rw [Nat.add_assoc] at later
    simpa [bodyQueued, Frame.isOnChannel, more, some_.ne'] using later

theorem bodyQueued_part {channel : ChannelId} {fragments : List Bytes} {bodyLength bodyReceived : Nat}
    (short : bodyReceived + fragments.flatten.length < bodyLength) :
    bodyQueued channel bodyLength bodyReceived (fragments.map fun fragment => ⟨channel, .body fragment⟩) =
      .ok false := by
  induction fragments generalizing bodyReceived with
  | nil => simpa [bodyQueued] using short
  | cons fragment fragments ih =>
    rw [List.flatten_cons, List.length_append] at short
    have later := ih (show bodyReceived + fragment.length + fragments.flatten.length < bodyLength by omega)
    have more : ¬ bodyLength ≤ bodyReceived := by omega
    simpa [bodyQueued, Frame.isOnChannel, more] using later

theorem check_whole (channel : ChannelId) (delivery : Delivery) (rest : List Frame) :
    checkForQueuedMessageOnChannel (delivery.frames channel ++ rest) channel = .ok true := by
  have bodies := @bodyQueued_whole channel _ delivery.filled rest 0
  rw [Nat.zero_add] at bodies
  simpa [checkForQueuedMessageOnChannel, Delivery.frames, Delivery.content, findFrame, Frame.isDeliverOnChannel,
    Frame.isOnChannel, Delivery.body] using bodies

/-- A part of a message that lacks its end. -/
theorem check_part {channel : ChannelId} {delivery : Delivery} {part rest : List Frame}
    (cut : delivery.frames channel = part ++ rest) (lacks : rest ≠ []) :
    checkForQueuedMessageOnChannel part channel = .ok false := by
  cases part with
  | nil => rfl
  | cons first part =>
    rcases List.cons.inj cut with ⟨rfl, content⟩
    cases part with
    | nil => simp [checkForQueuedMessageOnChannel, findFrame, Frame.isDeliverOnChannel]
    | cons header part =>
      rcases List.cons.inj content with ⟨rfl, bodies⟩
      rcases List.map_eq_append_iff.mp bodies with ⟨came, missing, parts, rfl, rfl⟩
      have some_ : missing ≠ [] := by
        rintro rfl
        exact lacks rfl
      have short : 0 + came.flatten.length < delivery.body.length := by
        rcases List.exists_cons_of_ne_nil some_ with ⟨next, more, rfl⟩
        have filled := delivery.filled next (by rw [parts]; simp)
        have long := List.length_pos_iff.mpr filled
        unfold Delivery.body
        rw [parts]
        simp only [List.flatten_append, List.flatten_cons, List.length_append]
        omega
      simpa [checkForQueuedMessageOnChannel, findFrame, Frame.isDeliverOnChannel, Frame.isOnChannel] using
        @bodyQueued_part channel _ _ _ short

theorem frames_own (channel : ChannelId) (delivery : Delivery) :
    ∀ frame ∈ delivery.frames channel, frame.channel = channel ∧ frame.isContent = true := by
  intro frame member
  unfold Delivery.frames Delivery.content at member
  simp only [List.mem_cons, List.mem_map] at member
  rcases member with rfl | rfl | ⟨fragment, _, rfl⟩ <;> exact ⟨rfl, rfl⟩

/-- In a queue that a stream of messages fills, the check finds whether the first of them is whole. -/
theorem check_stream {channel : ChannelId} {queued more : List Frame} {deliveries : List Delivery}
    (stream : queued ++ more = deliveries.flatMap (Delivery.frames channel)) :
    checkForQueuedMessageOnChannel queued channel = .ok false ∨
      ∃ delivery later rest, deliveries = delivery :: later ∧ queued = delivery.frames channel ++ rest ∧
        checkForQueuedMessageOnChannel queued channel = .ok true := by
  cases deliveries with
  | nil =>
    rw [List.flatMap_nil] at stream
    rw [(List.append_eq_nil_iff.mp stream).1]
    exact Or.inl rfl
  | cons delivery later =>
    rw [List.flatMap_cons] at stream
    rcases List.append_eq_append_iff.mp stream with ⟨rest, cut, _⟩ | ⟨rest, whole, _⟩
    · by_cases lacks : rest = []
      · rw [lacks, List.append_nil] at cut
        refine Or.inr ⟨delivery, later, [], rfl, by rw [List.append_nil, cut], ?_⟩
        have found := check_whole channel delivery []
        rwa [List.append_nil, cut] at found
      · exact Or.inl (check_part cut lacks)
    · exact Or.inr ⟨delivery, later, rest, rfl, whole, by rw [whole]; exact check_whole ..⟩

/-! Taking frames of one channel from the queue. -/

/-- The queue without some frames of a channel, of which it still has those that are left. -/
structure Leaves (channel : ChannelId) (left before after : List Frame) : Prop where
  own : framesOn channel after = left
  others : ∀ other, other ≠ channel → framesOn other after = framesOn other before
  members : ∀ frame ∈ after, frame ∈ before

section

variable {channel : ChannelId} {queue : List Frame}

theorem Leaves.trans {left further middle after : List Frame} (first : Leaves channel left queue middle)
    (second : Leaves channel further middle after) : Leaves channel further queue after where
  own := second.own
  others other different := (second.others other different).trans (first.others other different)
  members frame member := first.members frame (second.members frame member)

theorem leaves_first {frame : Frame} {rest : List Frame} (own : framesOn channel queue = frame :: rest) :
    Leaves channel rest queue (queue.eraseP (Frame.isOnChannel channel)) where
  own := by
    unfold framesOn at own ⊢
    rw [filter_eraseP_own, own]
    rfl
  others other different := by
    apply filter_eraseP_others
    intro frame there
    rw [Frame.isOnChannel, decide_eq_true_eq] at there
    exact decide_eq_false fun same => different (there.symm.trans same)
  members frame member := List.eraseP_subset member

end

namespace ChannelImpl

variable {consume : ChannelId → Calling (Option Envelope)} {impl : ChannelImpl} {channel : ChannelId}

theorem getNextFrameOnChannel_queued {frame : Frame} {rest : List Frame}
    (own : framesOn channel impl.frameQueue = frame :: rest) (content : frame.isContent = true) :
    (getNextFrameOnChannel consume channel).run impl =
      ({ impl with frameQueue := impl.frameQueue.eraseP (Frame.isOnChannel channel) }, .ok (some frame)) := by
  have stays : ∀ close, frame.payload ≠ .method (.channelClose close) := by
    intro close closes
    unfold Frame.isContent at content
    rw [closes] at content
    cases content
  unfold getNextFrameOnChannel
  rw [Throwing.run_read_bind, find?_own own]
  dsimp only
  rw [Throwing.run_modify_bind]
  split
  · rename_i close closes
    exact absurd closes (stays close)
  · rfl

theorem bodyLoop_queued {fragments : List Bytes} {rest : List Frame} {fuel : Nat} {body : Bytes}
    (filled : ∀ fragment ∈ fragments, fragment ≠ [])
    (own : framesOn channel impl.frameQueue = (fragments.map fun fragment => ⟨channel, .body fragment⟩) ++ rest)
    (enough : fragments.length < fuel) :
    ∃ queue, (bodyLoop consume channel (body.length + fragments.flatten.length) fuel body).run impl =
        ({ impl with frameQueue := queue }, .ok (body ++ fragments.flatten)) ∧
      Leaves channel rest impl.frameQueue queue := by
  induction fragments generalizing impl fuel body with
  | nil =>
    rcases Nat.exists_eq_add_one_of_ne_zero (Nat.ne_of_gt enough) with ⟨fuel, rfl⟩
    refine ⟨impl.frameQueue, ?_, own, fun _ _ => rfl, fun _ member => member⟩
    simp only [bodyLoop, List.flatten_nil, List.length_nil, Nat.add_zero, Nat.le_refl, ↓reduceIte, List.append_nil]
    rfl
  | cons fragment fragments ih =>
    rcases Nat.exists_eq_add_one_of_ne_zero (Nat.ne_of_gt (Nat.zero_lt_of_lt enough)) with ⟨fuel, rfl⟩
    have some_ : 0 < fragment.length := List.length_pos_iff.mpr (filled fragment (List.mem_cons_self ..))
    have taken := @getNextFrameOnChannel_queued consume impl channel _ _ own rfl
    have left := leaves_first own
    have later := @ih { impl with frameQueue := impl.frameQueue.eraseP (Frame.isOnChannel channel) } fuel
      (body ++ fragment) (fun other member => filled other (List.mem_cons_of_mem _ member)) left.own
      (Nat.lt_of_succ_lt_succ enough)
    rcases later with ⟨queue, run, leaves⟩
    have more : ¬ body.length + (fragment :: fragments).flatten.length ≤ body.length := by
      rw [List.flatten_cons, List.length_append]
      omega
    have size : body.length + (fragment :: fragments).flatten.length =
        (body ++ fragment).length + fragments.flatten.length := by
      simp [Nat.add_assoc]
    refine ⟨queue, ?_, left.trans leaves⟩
    rw [bodyLoop, if_neg more, Throwing.run_bind_ok taken, size, List.flatten_cons, ← List.append_assoc]
    exact run

theorem readContent_queued {delivery : Delivery} {rest : List Frame}
    (own : framesOn channel impl.frameQueue = delivery.content channel ++ rest) :
    ∃ queue, (readContent consume channel).run impl = ({ impl with frameQueue := queue }, .ok delivery.body) ∧
      Leaves channel rest impl.frameQueue queue := by
  have taken := @getNextFrameOnChannel_queued consume impl channel _ _ own rfl
  have left : Leaves channel ((delivery.fragments.map fun fragment => ⟨channel, .body fragment⟩) ++ rest)
      impl.frameQueue (impl.frameQueue.eraseP (Frame.isOnChannel channel)) := leaves_first own
  have enough : delivery.fragments.length <
      (impl.frameQueue.eraseP (Frame.isOnChannel channel)).length + impl.incoming.length + 1 := by
    have inside := List.length_filter_le (Frame.isOnChannel channel) (impl.frameQueue.eraseP (Frame.isOnChannel channel))
    have shape := congrArg List.length left.own
    rw [List.length_append, List.length_map] at shape
    unfold framesOn at shape
    omega
  have bodies := @bodyLoop_queued consume { impl with frameQueue := impl.frameQueue.eraseP (Frame.isOnChannel channel) }
    channel _ _ _ [] delivery.filled left.own enough
  rw [List.length_nil, Nat.zero_add, List.nil_append] at bodies
  rcases bodies with ⟨queue, run, leaves⟩
  refine ⟨queue, ?_, left.trans leaves⟩
  unfold readContent
  rw [Throwing.run_bind_ok taken]
  exact run

/-- A message that is whole in the queue is taken from it. -/
def Takes (consume : ChannelId → Calling (Option Envelope)) : Prop :=
  ∀ impl channel (delivery : Delivery) rest, framesOn channel impl.frameQueue = delivery.frames channel ++ rest →
    ∃ queue, (consume channel).run impl =
        ({ impl with frameQueue := queue }, .ok (some (delivery.envelope channel))) ∧
      Leaves channel rest impl.frameQueue queue

theorem getMethodOnChannel_queued {expected : Method → Bool} {method : Method} {rest : List Frame} (timed : Bool)
    (own : framesOn channel impl.frameQueue = ⟨channel, .method method⟩ :: rest) (wanted : expected method = true) :
    (getMethodOnChannel consume [channel] expected timed).run impl =
      ({ impl with frameQueue := impl.frameQueue.eraseP (Frame.isOnChannel channel) },
        .ok (some ⟨channel, .method method⟩)) := by
  have narrow : ∀ frame, Frame.isExpectedMethodOnChannel [channel] expected frame = true →
      frame.isOnChannel channel = true := by
    intro frame met
    unfold Frame.isExpectedMethodOnChannel at met
    split at met
    · simp only [Bool.and_eq_true, List.contains_eq_mem, List.mem_singleton, decide_eq_true_eq] at met
      exact decide_eq_true met.1
    · cases met
  have wants : Frame.isExpectedMethodOnChannel [channel] expected ⟨channel, .method method⟩ = true := by
    simp [Frame.isExpectedMethodOnChannel, wanted]
  rcases find?_wanted own narrow wants with ⟨found, erased⟩
  unfold getMethodOnChannel
  rw [Throwing.run_read_bind, found]
  dsimp only
  rw [Throwing.run_modify_bind, erased]
  rfl

theorem takes_inner (depth : Nat) :
    Takes fun channel => consumeMessageOnChannelInner (depth + 1) [channel] false := by
  intro impl channel delivery rest own
  have left := leaves_first own
  have method := @getMethodOnChannel_queued (fun channel => consumeMessageOnChannelInner depth [channel] false) impl
    channel deliverOrCancel _ _ false own rfl
  rcases @readContent_queued (fun channel => consumeMessageOnChannelInner depth [channel] false)
    { impl with frameQueue := impl.frameQueue.eraseP (Frame.isOnChannel channel) } channel delivery rest left.own with
    ⟨queue, content, leaves⟩
  refine ⟨queue, ?_, left.trans leaves⟩
  simp only [consumeMessageOnChannelInner]
  rw [Throwing.run_bind_ok method]
  dsimp only
  rw [Throwing.run_bind_ok content]
  rfl

end ChannelImpl

end AmqpClient
