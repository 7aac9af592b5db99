import HttpServerApps.Amqp.Calls
import HttpServerApps.Common.Runs

namespace AmqpClient

open Common ChannelImpl

/-- The calls of a client; messages are published neither mandatory nor immediate, as by default. -/
inductive ClientCall where
  | declareQueue (queue : Bytes) (passive durable exclusive autoDelete : Bool)
  | basicPublish (exchange routingKey body : Bytes)
  | basicConsume (queue consumerTag : Bytes) (noLocal noAck exclusive : Bool) (prefetchCount : UInt16)
  | basicQos (consumerTag : Bytes) (prefetchCount : UInt16)
  | basicConsumeMessage (consumerTag : Bytes) (timeout : Int)
  | basicAck (message : Envelope)
  | basicCancel (consumerTag : Bytes)

/-- A call, with the message it returns. -/
def ClientCall.perform : ClientCall → Calling (Option Envelope)
  | .declareQueue queue passive durable exclusive autoDelete => do
    let _ ← Channel.declareQueue queue passive durable exclusive autoDelete
    return none
  | .basicPublish exchange routingKey body => do
    Channel.basicPublish exchange routingKey false false body
    return none
  | .basicConsume queue consumerTag noLocal noAck exclusive prefetchCount => do
    let _ ← Channel.basicConsume queue consumerTag noLocal noAck exclusive prefetchCount
    return none
  | .basicQos consumerTag prefetchCount => do
    Channel.basicQos consumerTag prefetchCount
    return none
  | .basicConsumeMessage consumerTag timeout => Channel.basicConsumeMessage consumerTag timeout
  | .basicAck message => do
    Channel.basicAck message
    return none
  | .basicCancel consumerTag => do
    Channel.basicCancel consumerTag
    return none

/-- What a call asks the broker, and on which channel. -/
def ClientCall.asks (impl : ChannelImpl) : ClientCall → ChannelId × List Request
  | .declareQueue queue passive durable exclusive autoDelete =>
    onNext [.queueDeclare queue passive durable exclusive autoDelete]
  | .basicPublish exchange routingKey body => onNext [.basicPublish exchange routingKey false false body]
  | .basicConsume queue consumerTag noLocal noAck exclusive prefetchCount =>
    onNext [.basicQos prefetchCount impl.brokerHasNewQosBehavior,
      .basicConsume queue consumerTag noLocal noAck exclusive]
  | .basicQos consumerTag prefetchCount =>
    onOwn consumerTag [.basicQos prefetchCount impl.brokerHasNewQosBehavior]
  | .basicCancel consumerTag => onOwn consumerTag [.basicCancel consumerTag]
  | .basicConsumeMessage .. | .basicAck _ => (0, [])
where
  onNext (requests : List Request) : ChannelId × List Request :=
    match nextChannel impl with
    | some (channel, opening) => (channel, opening ++ requests)
    | none => (0, [])
  onOwn (consumerTag : Bytes) (requests : List Request) : ChannelId × List Request :=
    match impl.consumerChannelMap.find consumerTag with
    | some channel => (channel, requests)
    | none => (0, [])

/-! Calls that return no message. -/

/-- A call returns or throws between two messages, or waits. -/
def Keeps (account : ChannelId → Account) {Value : Type} (call : Calling Value) (impl : ChannelImpl) : Prop :=
  Throwing.Ends (fun _ after => Settled account after) (fun problem after => problem = .waiting ∨ Settled account after)
    (call.run impl)

namespace Channel

variable {account : ChannelId → Account} {channel : ChannelId} {requests : List Request} {impl : ChannelImpl}

theorem checkIsConnected_run (sound : impl.Sound) : (checkIsConnected).run impl = (impl, .ok ()) := by
  unfold checkIsConnected
  rw [Throwing.run_read_bind, sound.connected]
  rfl

theorem getConsumerChannel_found {consumerTag : Bytes} (found : impl.consumerChannelMap.find consumerTag = some channel) :
    (getConsumerChannel consumerTag).run impl = (impl, .ok channel) := by
  unfold getConsumerChannel
  rw [Throwing.run_read_bind, found]
  rfl

theorem getConsumerChannel_none {consumerTag : Bytes} (none_ : impl.consumerChannelMap.find consumerTag = none) :
    (getConsumerChannel consumerTag).run impl = (impl, .error .consumerTagNotFound) := by
  unfold getConsumerChannel
  rw [Throwing.run_read_bind, none_]
  rfl

theorem keeps_throw {Value : Type} {call : Calling Value} {problem : Thrown} (settled : Settled account impl)
    (run : call.run impl = (impl, .error problem)) : Keeps account call impl := by
  unfold Keeps
  rw [run]
  exact Or.inr settled

/-- A call that is given a channel: it throws where none is left. -/
theorem keeps_onNext {Value : Type} {asked : List Request} {next : ChannelId → Calling Value}
    (begun : Underway account (ClientCall.asks.onNext impl asked).1 (ClientCall.asks.onNext impl asked).2 impl)
    (later : ∀ channel after, Given account channel asked impl channel after → Keeps account (next channel) after) :
    Keeps account (getChannel >>= next) impl := by
  unfold ClientCall.asks.onNext at begun
  cases found : nextChannel impl with
  | none =>
    rw [found] at begun
    exact keeps_throw begun (Throwing.run_bind_error (getChannel_none found) next)
  | some given =>
    rcases given with ⟨channel, opening⟩
    rw [found] at begun
    have first := (getChannel_given found begun).imp (fun _ _ given => given)
      fun problem after waits => (Or.inl waits : problem = .waiting ∨ Settled account after)
    apply first.bind
    intro given after gave
    cases gave.same
    exact later _ after gave

/-- A call for a consumer: it throws where the consumer is not known. -/
theorem keeps_onOwn {Value : Type} {consumerTag : Bytes} {asked : List Request} {next : ChannelId → Calling Value}
    (begun : Underway account (ClientCall.asks.onOwn impl consumerTag asked).1
      (ClientCall.asks.onOwn impl consumerTag asked).2 impl)
    (later : ∀ channel, impl.consumerChannelMap.find consumerTag = some channel → Underway account channel asked impl →
      Keeps account (next channel) impl) :
    Keeps account (getConsumerChannel consumerTag >>= next) impl := by
  unfold ClientCall.asks.onOwn at begun
  cases found : impl.consumerChannelMap.find consumerTag with
  | none =>
    rw [found] at begun
    exact keeps_throw begun (Throwing.run_bind_error (getConsumerChannel_none found) next)
  | some channel =>
    rw [found] at begun
    unfold Keeps
    rw [Throwing.run_bind_ok (getConsumerChannel_found found)]
    exact later channel found begun

theorem keeps_connected {Value : Type} {next : Unit → Calling Value} (sound : impl.Sound)
    (keeps : Keeps account (next ()) impl) : Keeps account (checkIsConnected >>= next) impl := by
  unfold Keeps
  rw [Throwing.run_bind_ok (checkIsConnected_run sound)]
  exact keeps

/-- A request in a call, and what the call does with the answer. -/
theorem keeps_rpc {Value : Type} {request : Request} {expected : Method → Bool} {next : Option Frame → Calling Value}
    (numbered : channel ≠ 0) (met : ∀ method, request.answers method = true → expected method = true)
    (none_ : ∀ deliver, expected (.basicDeliver deliver) = false)
    (underway : Underway account channel (request :: requests) impl)
    (later : ∀ method after, request.answers method = true →
      Answered account channel request requests impl (some ⟨channel, .method method⟩) after →
      Keeps account (next (some ⟨channel, .method method⟩)) after) :
    Keeps account (doRpcOnChannel channel request expected >>= next) impl := by
  have first := (doRpcOnChannel_answered numbered met none_ underway).imp (fun _ _ answered => answered)
    fun problem after waits => (Or.inl waits : problem = .waiting ∨ Settled account after)
  apply first.bind
  intro found after answered
  rcases answered.answer with ⟨method, rfl, answers⟩
  exact later method after answers answered

theorem keeps_pure {Value : Type} {value : Value} (settled : Settled account impl) :
    Keeps account (pure value) impl := settled

theorem keeps_return {Value : Type} {next : Unit → Calling Value} (numbered : channel ≠ 0)
    (there : channel < impl.channels.length) (underway : Underway account channel [] impl)
    (later : ∀ after, Settled account after → Keeps account (next ()) after) :
    Keeps account (returnChannel channel >>= next) impl := by
  rcases returnChannel_settled numbered there underway with ⟨after, run, settled⟩
  unfold Keeps
  rw [Throwing.run_bind_ok run]
  exact later after settled

theorem Keeps.bind {Value Result : Type} {call : Calling Value} {next : Value → Calling Result}
    (first : Keeps account call impl) (later : ∀ value after, Settled account after → Keeps account (next value) after) :
    Keeps account (call >>= next) impl :=
  Throwing.Ends.bind first later

theorem declareQueue_keeps {queue : Bytes} {passive durable exclusive autoDelete : Bool}
    (begun : Underway account
      (ClientCall.asks.onNext impl [.queueDeclare queue passive durable exclusive autoDelete]).1
      (ClientCall.asks.onNext impl [.queueDeclare queue passive durable exclusive autoDelete]).2 impl) :
    Keeps account (declareQueue queue passive durable exclusive autoDelete) impl := by
  unfold declareQueue
  apply keeps_connected begun.sound
  apply Keeps.bind
  · unfold doRpc
    apply keeps_onNext begun
    intro channel given gave
    apply keeps_rpc gave.numbered (fun _ answers => answers) (fun _ => rfl) gave.underway
    intro method after _ answered
    apply keeps_return gave.numbered _ answered.underway
    · exact fun _ settled => keeps_pure settled
    · rw [answered.channels]
      exact gave.there
  · intro found after settled
    split <;> exact keeps_pure settled

theorem basicPublish_keeps {exchange routingKey body : Bytes}
    (begun : Underway account
      (ClientCall.asks.onNext impl [.basicPublish exchange routingKey false false body]).1
      (ClientCall.asks.onNext impl [.basicPublish exchange routingKey false false body]).2 impl) :
    Keeps account (basicPublish exchange routingKey false false body) impl := by
  unfold basicPublish
  apply keeps_connected begun.sound
  apply keeps_onNext begun
  intro channel given gave
  have met : ∀ method, (Request.basicPublish exchange routingKey false false body).answers method = true →
      isPublishAck method = true := by
    intro method answers
    exact (Bool.and_eq_true_iff.mp answers).1
  unfold Keeps
  rw [← Throwing.run_bind_assoc]
  apply keeps_rpc gave.numbered met (fun _ => rfl) gave.underway
  intro method after answers answered
  have there : channel < after.channels.length := by
    rw [answered.channels]
    exact gave.there
  split
  · apply keeps_return gave.numbered there answered.underway
    exact fun left settled => keeps_throw settled rfl
  · rename_i returned same
    cases same
    cases answers
  · rcases returnChannel_settled gave.numbered there answered.underway with ⟨left, run, settled⟩
    unfold Keeps
    rw [run]
    exact settled

theorem addConsumer_settled {consumerTag : Bytes} (numbered : channel ≠ 0) (there : channel < impl.channels.length)
    (underway : Underway account channel [] impl) :
    ∃ after, (addConsumer consumerTag channel).run impl = (after, .ok ()) ∧ Settled account after := by
  cases known : (impl.consumerChannelMap.find consumerTag).isSome with
  | true =>
    refine ⟨impl, ?_, underway.settled⟩
    simp [addConsumer, Throwing.modify, known]
  | false =>
    refine ⟨{ impl with consumerChannelMap := impl.consumerChannelMap.insert consumerTag channel }, ?_, ?_⟩
    · simp [addConsumer, Throwing.modify, known]
    · have sound : { impl with consumerChannelMap := impl.consumerChannelMap.insert consumerTag channel }.Sound := by
        refine ⟨underway.sound.connected, underway.sound.reserved, ?_⟩
        intro other on found
        rw [Dict.find_insert] at found
        split at found
        · cases found
          exact ⟨numbered, there⟩
        · exact underway.sound.consumers other on found
      exact (underway.change sound rfl).settled

theorem basicConsume_keeps {queue consumerTag : Bytes} {noLocal noAck exclusive : Bool} {prefetchCount : UInt16}
    (begun : Underway account
      (ClientCall.asks impl (.basicConsume queue consumerTag noLocal noAck exclusive prefetchCount)).1
      (ClientCall.asks impl (.basicConsume queue consumerTag noLocal noAck exclusive prefetchCount)).2 impl) :
    Keeps account (basicConsume queue consumerTag noLocal noAck exclusive prefetchCount) impl := by
  unfold basicConsume
  apply keeps_connected begun.sound
  apply keeps_onNext begun
  intro channel given gave
  have same : given.brokerHasNewQosBehavior = impl.brokerHasNewQosBehavior := by
    unfold brokerHasNewQosBehavior
    rw [gave.version]
  unfold Keeps
  rw [Throwing.run_read_bind, same]
  apply keeps_rpc gave.numbered (fun _ answers => answers) (fun _ => rfl) gave.underway
  intro _ middle _ first
  apply keeps_rpc gave.numbered (fun _ answers => answers) (fun _ => rfl) first.underway
  intro method after _ answered
  have there : channel < after.channels.length := by
    rw [answered.channels, first.channels]
    exact gave.there
  split
  · rename_i tag _
    rcases @addConsumer_settled account channel after tag gave.numbered there answered.underway with
      ⟨left, run, settled⟩
    unfold Keeps
    rw [Throwing.run_bind_ok run]
    exact settled
  · exact keeps_pure answered.underway.settled

theorem basicQos_keeps {consumerTag : Bytes} {prefetchCount : UInt16}
    (begun : Underway account
      (ClientCall.asks impl (.basicQos consumerTag prefetchCount)).1
      (ClientCall.asks impl (.basicQos consumerTag prefetchCount)).2 impl) :
    Keeps account (basicQos consumerTag prefetchCount) impl := by
  unfold basicQos
  apply keeps_connected begun.sound
  apply keeps_onOwn begun
  intro channel found underway
  unfold Keeps
  rw [Throwing.run_read_bind]
  apply keeps_rpc (underway.sound.consumers _ _ found).1 (fun _ answers => answers) (fun _ => rfl) underway
  exact fun _ _ _ answered => keeps_pure answered.underway.settled

theorem basicCancel_keeps {consumerTag : Bytes}
    (begun : Underway account (ClientCall.asks impl (.basicCancel consumerTag)).1
      (ClientCall.asks impl (.basicCancel consumerTag)).2 impl) :
    Keeps account (basicCancel consumerTag) impl := by
  unfold basicCancel
  apply keeps_connected begun.sound
  apply keeps_onOwn begun
  intro channel found underway
  rcases underway.sound.consumers _ _ found with ⟨numbered, there⟩
  apply keeps_rpc numbered (fun _ answers => answers) (fun _ => rfl) underway
  intro _ after _ answered
  let removed : ChannelImpl := { after with consumerChannelMap := after.consumerChannelMap.erase consumerTag }
  have run : (removeConsumer consumerTag).run after = (removed, .ok channel) := by
    unfold removeConsumer
    rw [Throwing.run_bind_ok (getConsumerChannel_found (by rw [answered.consumers]; exact found))]
    rfl
  have sound : removed.Sound := by
    refine ⟨answered.underway.sound.connected, answered.underway.sound.reserved, ?_⟩
    intro other on known
    change (after.consumerChannelMap.erase consumerTag).find other = some on at known
    rw [Dict.find_erase] at known
    split at known
    · cases known
    · exact answered.underway.sound.consumers other on known
  have inside : channel < removed.channels.length := by
    change channel < after.channels.length
    rw [answered.channels]
    exact there
  unfold Keeps
  rw [Throwing.run_bind_ok run]
  rcases returnChannel_settled numbered inside (answered.underway.change sound rfl) with ⟨left, returned, settled⟩
  rw [returned]
  exact settled

theorem basicAck_keeps {message : Envelope} (settled : Settled account impl) :
    Keeps account (basicAck message) impl := by
  unfold basicAck
  apply keeps_connected settled.sound
  unfold Keeps
  rw [Throwing.run_read_bind]
  split
  · exact Or.inr settled
  · exact Or.inr settled
  · rw [sendMethod_run (replies_lawful settled.pending.replies)]
    have sound : { impl with
        requests := impl.requests ++ [(message.deliveryChannel, Request.basicAck message.deliveryTag)] }.Sound :=
      ⟨settled.sound.connected, settled.sound.reserved, settled.sound.consumers⟩
    exact (settled.change sound rfl).settled

end Channel

/-! The call that takes a message. -/

/-- The books once a message has been handed out. -/
def handOver (account : ChannelId → Account) : Option Envelope → ChannelId → Account
  | none => account
  | some envelope => fun channel =>
    if envelope.deliveryChannel = channel then
      { account channel with handed := (account channel).handed ++ [envelope] }
    else account channel

/-- The message that comes after those handed out has not wholly arrived, if there is one. -/
def Account.Lacks (account : Account) (channel : ChannelId) : Prop :=
  ∀ delivery later, account.sent.drop account.handed.length = delivery :: later →
    (later.flatMap (Delivery.frames channel)).length < account.later.length

structure Taken (account : ChannelId → Account) (channel : ChannelId) (timed : Bool) (before : ChannelImpl)
    (got : Option Envelope) (after : ChannelImpl) : Prop where
  unserved : got = none → before.deliveredOn channel = [] ∧ Unserved channel timed before
  own : ∀ envelope, got = some envelope → envelope.deliveryChannel = channel
  settled : Settled (handOver account got) after

section

variable {account : ChannelId → Account} {channel : ChannelId} {impl after : ChannelImpl}

theorem handOver_own {envelope : Envelope} (there : envelope.deliveryChannel = channel) :
    handOver account (some envelope) channel =
      { account channel with handed := (account channel).handed ++ [envelope] } := if_pos there

theorem handOver_other {envelope : Envelope} {other : ChannelId} (there : envelope.deliveryChannel = channel)
    (apart : other ≠ channel) : handOver account (some envelope) other = account other :=
  if_neg fun same => apart (same.symm.trans there)

theorem Ready.settled {books : ChannelId → Account} {done : List Delivery} {frames : List Frame} (sound : impl.Sound)
    (ready : Ready ⟨account, impl.standing⟩ channel done frames after)
    (elsewhere : ∀ other, other ≠ channel → books other = account other)
    (own : (books channel).Balanced channel after) : Settled books after := by
  refine ⟨⟨ready.orderly.content, replies_nil.mpr ready.plain, rfl, ?_⟩, sound.of_standing ready.orderly.standing⟩
  intro other
  by_cases same : other = channel
  · rw [same]
    exact own
  · change (books other).Balanced other after
    rw [elsewhere other same]
    exact ready.orderly.others other same

theorem consumeMessageOnChannel_taken (numbered : channel ≠ 0) (timed : Bool) (settled : Settled account impl) :
    Throwing.Ends (Taken account channel timed impl) (fun problem _ => problem = .waiting ∧ (account channel).Lacks channel)
      ((consumeMessageOnChannel [channel] timed).run impl) := by
  have wanted : (fun envelope : Envelope => [channel].contains envelope.deliveryChannel) =
      fun envelope => decide (envelope.deliveryChannel = channel) := by
    funext envelope
    simp
  unfold consumeMessageOnChannel
  rw [Throwing.run_read_bind, wanted]
  cases own : impl.deliveredOn channel with
  | cons envelope others =>
    have inside : envelope ∈ impl.deliveredOn channel := own ▸ List.mem_cons_self ..
    have there : envelope.deliveryChannel = channel := of_decide_eq_true (List.mem_filter.mp inside).2
    rw [find?_own own]
    refine ⟨fun none_ => (Option.some_ne_none _ none_).elim, fun _ same => Option.some.inj same ▸ there, ?_⟩
    refine ⟨⟨settled.pending.content, settled.pending.replies, rfl, ?_⟩,
      ⟨settled.sound.connected, settled.sound.reserved, settled.sound.consumers⟩⟩
    intro other
    by_cases same : other = channel
    · rw [same]
      change (handOver account (some envelope) channel).Balanced channel _
      rw [handOver_own there]
      rcases settled.pending.balanced channel with ⟨done, rest, sent, stands⟩
      refine ⟨done, rest, sent, ?_, stands.remaining⟩
      have handed := stands.handed
      rw [own] at handed
      unfold ChannelImpl.deliveredOn at own ⊢
      rw [← handed, filter_eraseP_own, own]
      exact List.append_assoc ..
    · change (handOver account (some envelope) other).Balanced other _
      rw [handOver_other there same]
      refine (settled.pending.balanced other).same rfl ?_
      unfold ChannelImpl.deliveredOn
      apply filter_eraseP_others
      intro item elsewhere
      exact decide_eq_false fun here => same ((of_decide_eq_true elsewhere).symm.trans here)
  | nil =>
    rw [find?_none_own own]
    dsimp only
    rw [Throwing.run_read_bind]
    rcases settled.pending.balanced channel with ⟨done, rest, sent, stands⟩
    have ready : Ready ⟨account, impl.standing⟩ channel done (rest.flatMap (Delivery.frames channel)) impl :=
      ⟨⟨settled.pending.content, fun arrival member => Or.inl (settled.plain arrival member), rfl,
        fun other _ => settled.pending.balanced other⟩, settled.plain, stands⟩
    have all : (account channel).handed = done.map (Delivery.envelope channel) := by
      have handed := stands.handed
      rwa [own, List.append_nil] at handed
    apply (consumeMessageOnChannelInner_consumed numbered impl.incoming.length ready).imp
    · intro got after consumed
      cases got with
      | none =>
        rcases consumed with ⟨unserved, next⟩
        exact ⟨fun _ => ⟨own, unserved⟩, fun _ same => (Option.some_ne_none _ same.symm).elim,
          next.settled settled.sound (fun _ _ => rfl) ⟨done, rest, sent, next.stands⟩⟩
      | some envelope =>
        rcases consumed with ⟨delivery, later, rfl, rfl, next⟩
        have there : (delivery.envelope channel).deliveryChannel = channel := rfl
        refine ⟨fun none_ => (Option.some_ne_none _ none_).elim, fun _ same => Option.some.inj same ▸ there, ?_⟩
        apply next.settled settled.sound fun _ apart => handOver_other there apart
        rw [handOver_own there]
        have left : after.deliveredOn channel = [] := by
          have handed := next.stands.handed
          rw [show ((⟨account, impl.standing⟩ : Books).account channel) = account channel from rfl, all] at handed
          exact List.append_right_eq_self.mp handed
        refine ⟨done ++ [delivery], later, by rw [sent, List.append_assoc]; rfl, ?_, next.stands.remaining⟩
        rw [left, List.append_nil, List.map_append, ← all]
        rfl
    · rintro problem after ⟨waits, lacks⟩
      refine ⟨waits, ?_⟩
      intro delivery later shape
      have count : (account channel).handed.length = done.length := by rw [all, List.length_map]
      rw [sent, count, List.drop_left] at shape
      exact (lacks delivery later shape).2

end

end AmqpClient
