import HttpServerApps.Amqp.Replies

namespace AmqpClient

open Common ChannelImpl

/-- Channel 0 is never given away, and every consumer has a channel of its own connection. -/
structure ChannelImpl.Sound (impl : ChannelImpl) : Prop where
  connected : impl.isConnected = true
  reserved : impl.channels[0]? = some .used
  consumers : ∀ consumerTag channel, impl.consumerChannelMap.find consumerTag = some channel →
    channel ≠ 0 ∧ channel < impl.channels.length

/-- In the middle of a call for a channel, of whose requests so many are still to be answered. -/
structure Underway (account : ChannelId → Account) (channel : ChannelId) (requests : List Request)
    (impl : ChannelImpl) : Prop where
  pending : Pending ⟨account, impl.standing⟩ channel requests impl
  sound : impl.Sound

/-- Between two calls. -/
def Settled (account : ChannelId → Account) (impl : ChannelImpl) : Prop := Underway account 0 [] impl

section

variable {account : ChannelId → Account} {channel : ChannelId} {request : Request} {requests : List Request}
  {impl after : ChannelImpl}

theorem ChannelImpl.Sound.of_standing (sound : impl.Sound) (same : after.standing = impl.standing) : after.Sound := by
  have connected : after.isConnected = impl.isConnected :=
    @congrArg _ _ after.standing impl.standing ChannelImpl.isConnected same
  have channels : after.channels = impl.channels :=
    @congrArg _ _ after.standing impl.standing ChannelImpl.channels same
  have consumers : after.consumerChannelMap = impl.consumerChannelMap :=
    @congrArg _ _ after.standing impl.standing ChannelImpl.consumerChannelMap same
  exact ⟨connected ▸ sound.connected, channels ▸ sound.reserved, channels ▸ consumers ▸ sound.consumers⟩

theorem ChannelImpl.Sound.set {state : ChannelState} (sound : impl.Sound) (numbered : channel ≠ 0) :
    { impl with channels := impl.channels.set channel state }.Sound where
  connected := sound.connected
  reserved := by
    rw [List.getElem?_set_ne numbered]
    exact sound.reserved
  consumers consumerTag on found := by
    rw [List.length_set]
    exact sound.consumers consumerTag on found

/-- A change of anything but the frames and the messages. -/
theorem Underway.change (underway : Underway account channel requests impl) (sound : after.Sound)
    (frames : (after.incoming, after.frameQueue, after.deliveredMessages) =
      (impl.incoming, impl.frameQueue, impl.deliveredMessages)) : Underway account channel requests after := by
  simp only [Prod.mk.injEq] at frames
  rcases frames with ⟨incoming, frameQueue, deliveredMessages⟩
  refine ⟨⟨?_, ?_, rfl, ?_⟩, sound⟩
  · rw [frameQueue]
    exact underway.pending.content
  · rw [incoming]
    exact underway.pending.replies
  · intro other
    refine (underway.pending.balanced other).same ?_ ?_
    · rw [stock_eq, stock_eq, incoming, frameQueue]
    · unfold ChannelImpl.deliveredOn
      rw [deliveredMessages]

theorem Underway.settled (underway : Underway account channel [] impl) : Settled account impl :=
  ⟨⟨underway.pending.content, replies_nil.mpr (replies_nil.mp underway.pending.replies), rfl, underway.pending.balanced⟩,
    underway.sound⟩

theorem Settled.plain (settled : Settled account impl) : ∀ arrival ∈ impl.incoming, arrival.ordinary = true :=
  replies_nil.mp settled.pending.replies

end

namespace ChannelImpl

variable {account : ChannelId → Account} {channel : ChannelId} {request : Request} {requests : List Request}
  {expected : Method → Bool} {impl : ChannelImpl}

theorem sendMethod_run (lawful : ∀ arrival ∈ impl.incoming, arrival.Lawful channel) (on : ChannelId) (request : Request) :
    (sendMethod on request).run impl = ({ impl with requests := impl.requests ++ [(on, request)] }, .ok ()) := by
  unfold sendMethod
  dsimp only
  split
  · rename_i status rest shape
    rcases lawful (.failed status) (by rw [shape]; exact List.mem_cons_self ..) with failed | ⟨_, _, other, _⟩
    · cases failed
    · cases other
  · rfl

/-- A request is written and answered; nothing else of the connection changes. -/
structure Answered (account : ChannelId → Account) (channel : ChannelId) (request : Request) (requests : List Request)
    (before : ChannelImpl) (found : Option Frame) (after : ChannelImpl) : Prop where
  answer : ∃ method, found = some ⟨channel, .method method⟩ ∧ request.answers method = true
  underway : Underway account channel requests after
  standing : after.standing = { before.standing with requests := before.requests ++ [(channel, request)] }

theorem Answered.channels {found : Option Frame} {after : ChannelImpl}
    (answered : Answered account channel request requests impl found after) : after.channels = impl.channels :=
  @congrArg _ _ after.standing { impl.standing with requests := impl.requests ++ [(channel, request)] }
    ChannelImpl.channels answered.standing

theorem Answered.consumers {found : Option Frame} {after : ChannelImpl}
    (answered : Answered account channel request requests impl found after) :
    after.consumerChannelMap = impl.consumerChannelMap :=
  @congrArg _ _ after.standing { impl.standing with requests := impl.requests ++ [(channel, request)] }
    ChannelImpl.consumerChannelMap answered.standing

theorem Answered.version {found : Option Frame} {after : ChannelImpl}
    (answered : Answered account channel request requests impl found after) : after.brokerVersion = impl.brokerVersion :=
  @congrArg _ _ after.standing { impl.standing with requests := impl.requests ++ [(channel, request)] }
    ChannelImpl.brokerVersion answered.standing

theorem doRpcOnChannel_answered (numbered : channel ≠ 0)
    (met : ∀ method, request.answers method = true → expected method = true)
    (none_ : ∀ deliver, expected (.basicDeliver deliver) = false)
    (underway : Underway account channel (request :: requests) impl) :
    Throwing.Ends (Answered account channel request requests impl) (fun problem _ => problem = .waiting)
      ((doRpcOnChannel channel request expected).run impl) := by
  have sent := sendMethod_run (replies_lawful underway.pending.replies) channel request
  have sound : { impl with requests := impl.requests ++ [(channel, request)] }.Sound :=
    ⟨underway.sound.connected, underway.sound.reserved, underway.sound.consumers⟩
  have wrote := underway.change sound rfl
  unfold doRpcOnChannel
  rw [Throwing.run_bind_ok sent]
  apply (awaitMethod_replied numbered met none_ wrote.pending).imp
  · rintro _ after ⟨method, rfl, answers, pending⟩
    have same : after.standing = { impl with requests := impl.requests ++ [(channel, request)] }.standing :=
      pending.standing
    exact ⟨⟨method, rfl, answers⟩,
      ⟨⟨pending.content, pending.replies, rfl, pending.balanced⟩, sound.of_standing same⟩, same⟩
  · exact fun _ _ waits => waits

theorem setChannel_run (there : channel < impl.channels.length) (state : ChannelState) :
    (setChannel channel state).run impl = ({ impl with channels := impl.channels.set channel state }, .ok ()) := by
  unfold setChannel
  rw [Throwing.run_read_bind, if_pos there]
  rfl

def nextChannelId (impl : ChannelImpl) : Option ChannelId :=
  match impl.channels.findIdx? (· = .closed) with
  | some channel => some channel
  | none =>
    if impl.maxChannels < impl.channels.length then none else some impl.channels.length

def opening : List Request := [.channelOpen, .confirmSelect]

/-- The channel that a call is given, and what is asked for on it to open it. -/
def nextChannel (impl : ChannelImpl) : Option (ChannelId × List Request) :=
  if impl.channels[impl.lastUsedChannel]? = some .opened then some (impl.lastUsedChannel, [])
  else
    match impl.channels.findIdx? (· = .opened) with
    | some channel => some (channel, [])
    | none => (nextChannelId impl).map fun channel => (channel, opening)

theorem Sound.unreserved {state : ChannelState} (sound : impl.Sound) (there : impl.channels[channel]? = some state)
    (free : state ≠ .used) : channel ≠ 0 := by
  rintro rfl
  rw [sound.reserved] at there
  exact free (Option.some.inj there).symm

theorem found_there {state : ChannelState} (found : impl.channels.findIdx? (· = state) = some channel) :
    impl.channels[channel]? = some state := by
  rcases List.findIdx?_eq_some_iff_getElem.mp found with ⟨there, same, _⟩
  rw [List.getElem?_eq_getElem there, of_decide_eq_true same]

theorem getNextChannelId_run (sound : impl.Sound) (next : nextChannelId impl = some channel) :
    ∃ channels, (getNextChannelId).run impl = ({ impl with channels }, .ok channel) ∧
      channels[0]? = some .used ∧ impl.channels.length ≤ channels.length ∧ channel ≠ 0 ∧ channel < channels.length := by
  unfold nextChannelId at next
  unfold getNextChannelId
  rw [Throwing.run_read_bind]
  cases found : impl.channels.findIdx? (· = .closed) with
  | some other =>
    rw [found] at next
    cases next
    have there := found_there found
    rcases List.getElem?_eq_some_iff.mp there with ⟨inside, _⟩
    exact ⟨impl.channels, rfl, sound.reserved, Nat.le_refl _, sound.unreserved there (by simp), inside⟩
  | none =>
    rw [found] at next
    dsimp only at next
    split at next
    · cases next
    · rename_i room
      cases next
      have some_ : 0 < impl.channels.length := (List.getElem?_eq_some_iff.mp sound.reserved).1
      refine ⟨impl.channels ++ [.closed], ?_, ?_, ?_, some_.ne', ?_⟩
      · dsimp only
        rw [Throwing.run_read_bind, if_neg room]
        rfl
      · rw [List.getElem?_append_left some_]
        exact sound.reserved
      · rw [List.length_append]
        exact Nat.le_add_right ..
      · rw [List.length_append]
        exact Nat.lt_succ_self _

structure Given (account : ChannelId → Account) (channel : ChannelId) (requests : List Request) (before : ChannelImpl)
    (given : ChannelId) (after : ChannelImpl) : Prop where
  same : given = channel
  underway : Underway account channel requests after
  numbered : channel ≠ 0
  there : channel < after.channels.length
  consumers : after.consumerChannelMap = before.consumerChannelMap
  version : after.brokerVersion = before.brokerVersion

theorem given_set {state : ChannelState} {before : ChannelImpl} (numbered : channel ≠ 0)
    (there : channel < impl.channels.length) (underway : Underway account channel requests impl)
    (consumers : impl.consumerChannelMap = before.consumerChannelMap)
    (version : impl.brokerVersion = before.brokerVersion) :
    Given account channel requests before channel { impl with channels := impl.channels.set channel state } :=
  ⟨rfl, underway.change (underway.sound.set numbered) rfl, numbered, by simpa using there, consumers,
    version⟩

theorem createNewChannel_given (next : nextChannelId impl = some channel)
    (underway : Underway account channel (opening ++ requests) impl) :
    Throwing.Ends (Given account channel requests impl) (fun problem _ => problem = .waiting)
      (createNewChannel.run impl) := by
  rcases getNextChannelId_run underway.sound next with ⟨channels, run, reserved, longer, numbered, there⟩
  have begun : Underway account channel (.channelOpen :: .confirmSelect :: requests) { impl with channels } := by
    refine underway.change ⟨underway.sound.connected, reserved, ?_⟩ rfl
    intro consumerTag on found
    rcases underway.sound.consumers consumerTag on found with ⟨apart, inside⟩
    exact ⟨apart, inside.trans_le longer⟩
  unfold createNewChannel
  rw [Throwing.run_bind_ok run]
  apply (doRpcOnChannel_answered numbered (fun _ answers => answers) (fun _ => rfl) begun).bind
  intro _ opened open_
  apply (doRpcOnChannel_answered numbered (fun _ answers => answers) (fun _ => rfl) open_.underway).bind
  intro _ confirmed confirms
  have inside : channel < confirmed.channels.length := by
    rw [confirms.channels, open_.channels]
    exact there
  rw [Throwing.run_bind_ok (setChannel_run inside .opened)]
  exact given_set numbered inside confirms.underway (confirms.consumers.trans open_.consumers)
    (confirms.version.trans open_.version)

theorem getChannel_given {asked : List Request} (next : nextChannel impl = some (channel, asked))
    (underway : Underway account channel (asked ++ requests) impl) :
    Throwing.Ends (Given account channel requests impl) (fun problem _ => problem = .waiting)
      (getChannel.run impl) := by
  unfold nextChannel at next
  unfold getChannel
  rw [Throwing.run_read_bind, Throwing.run_read_bind]
  split at next
  · rename_i last
    cases next
    rcases List.getElem?_eq_some_iff.mp last with ⟨inside, _⟩
    rw [if_pos last, Throwing.run_bind_ok (setChannel_run inside .used)]
    exact given_set (underway.sound.unreserved last (by simp)) inside underway rfl rfl
  · rename_i last
    rw [if_neg last]
    cases found : impl.channels.findIdx? (· = .opened) with
    | some other =>
      rw [found] at next
      cases next
      have there := found_there found
      rcases List.getElem?_eq_some_iff.mp there with ⟨inside, _⟩
      dsimp only
      rw [Throwing.run_bind_ok (setChannel_run inside .used)]
      exact given_set (underway.sound.unreserved there (by simp)) inside underway rfl rfl
    | none =>
      rw [found] at next
      rcases Option.map_eq_some_iff.mp next with ⟨other, free, same⟩
      cases same
      dsimp only
      apply (createNewChannel_given free underway).bind
      rintro _ after ⟨rfl, created, numbered, there, consumers, version⟩
      rw [Throwing.run_bind_ok (setChannel_run there .used)]
      exact given_set numbered there created consumers version

/-- Where no channel is left, nothing has happened. -/
theorem getChannel_none (next : nextChannel impl = none) :
    (getChannel).run impl = (impl, .error (.runtime (bytes "Too many channels open"))) := by
  unfold nextChannel at next
  split at next
  · cases next
  · rename_i last
    cases opened : impl.channels.findIdx? (· = .opened) with
    | some channel =>
      rw [opened] at next
      cases next
    | none =>
      rw [opened] at next
      have full := Option.map_eq_none_iff.mp next
      unfold nextChannelId at full
      cases closed : impl.channels.findIdx? (· = .closed) with
      | some channel =>
        rw [closed] at full
        cases full
      | none =>
        rw [closed] at full
        dsimp only at full
        split at full
        · rename_i beyond
          unfold getChannel
          rw [Throwing.run_read_bind, Throwing.run_read_bind, if_neg last, opened]
          dsimp only
          unfold createNewChannel getNextChannelId
          apply Throwing.run_bind_error
          apply Throwing.run_bind_error
          rw [Throwing.run_read_bind, closed]
          dsimp only
          rw [Throwing.run_read_bind, if_pos beyond]
          rfl
        · cases full

theorem returnChannel_settled (numbered : channel ≠ 0) (there : channel < impl.channels.length)
    (underway : Underway account channel [] impl) :
    ∃ after, (returnChannel channel).run impl = (after, .ok ()) ∧ Settled account after := by
  refine ⟨{ impl with channels := impl.channels.set channel .opened, lastUsedChannel := channel }, ?_, ?_⟩
  · unfold returnChannel
    rw [Throwing.run_bind_ok (setChannel_run there .opened)]
    rfl
  · have set : { impl with channels := impl.channels.set channel .opened }.Sound := underway.sound.set numbered
    have sound : { impl with channels := impl.channels.set channel .opened, lastUsedChannel := channel }.Sound :=
      ⟨set.connected, set.reserved, set.consumers⟩
    exact (underway.change sound rfl).settled

end ChannelImpl

end AmqpClient
