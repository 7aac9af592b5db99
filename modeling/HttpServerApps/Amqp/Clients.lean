import HttpServerApps.Amqp.Consumers

namespace AmqpClient

open Common ChannelImpl

/-- A client of a broker, with the messages it has taken and all that has arrived. -/
structure Client where
  impl : ChannelImpl
  handed : List Envelope := []
  arrived : List Arrival := []

namespace Client

def opened (channelMax : Nat) (brokerVersion : UInt32) : Client := { impl := { channelMax, brokerVersion } }

/-- The connection with what arrives during the next call. -/
def receive (client : Client) (arrivals : List Arrival) : ChannelImpl :=
  { client.impl with incoming := client.impl.incoming ++ arrivals }

/-- A call that waits has no end. -/
def step (client : Client) (action : ClientCall × List Arrival) : Option Client :=
  match action.1.perform.run (client.receive action.2) with
  | (_, .error .waiting) => none
  | (impl, .error _) => some { client with impl, arrived := client.arrived ++ action.2 }
  | (impl, .ok got) =>
    some { impl, handed := client.handed ++ got.toList, arrived := client.arrived ++ action.2 }

/-- What arrives during a call answers what it asks. -/
def Replied (client : Client) (action : ClientCall × List Arrival) : Prop :=
  replies (action.1.asks client.impl).1 (action.1.asks client.impl).2 action.2 = true

instance (client : Client) (action : ClientCall × List Arrival) : Decidable (client.Replied action) :=
  inferInstanceAs (Decidable (_ = true))

def handedOn (client : Client) (channel : ChannelId) : List Envelope :=
  client.handed.filter fun envelope => envelope.deliveryChannel = channel

def framesCome (client : Client) (arrivals : List Arrival) (channel : ChannelId) : List Frame :=
  framesOn channel (contentOf (client.arrived ++ arrivals))

/-- The books, with the frames that come after a point in the run. -/
def account (client : Client) (sent : ChannelId → List Delivery) (later : ChannelId → List Frame)
    (channel : ChannelId) : Account :=
  ⟨sent channel, later channel, client.handedOn channel⟩

end Client

/-- What the consumers of a connection get of the messages that are sent, with what arrives during the next call. -/
structure Client.Serves (client : Client) (sent : ChannelId → List Delivery) (arrivals : List Arrival) : Prop where
  /-- They have got the first of them, in order, with the bodies that were sent. -/
  handed : ∀ channel, client.handedOn channel <+: (sent channel).map (Delivery.envelope channel)
  /-- The next call gets the next one; it gets none only where its time is up before a frame of one is there, and waits
      only for one that lacks frames. -/
  next : ∀ consumerTag channel timeout, client.impl.consumerChannelMap.find consumerTag = some channel →
    Throwing.Ends
      (fun got _ =>
        match got with
        | some envelope =>
          ((sent channel).map (Delivery.envelope channel))[(client.handedOn channel).length]? = some envelope
        | none => 0 ≤ timeout ∧ client.impl.deliveredOn channel = [] ∧
          framesOn channel client.impl.frameQueue = [] ∧ TimesOut channel (client.receive arrivals).incoming)
      (fun problem _ => problem = .waiting ∧
        ((client.handedOn channel).length < (sent channel).length →
          ¬ ((sent channel).take ((client.handedOn channel).length + 1)).flatMap (Delivery.frames channel) <+:
            client.framesCome arrivals channel))
      ((Channel.basicConsumeMessage consumerTag timeout).run (client.receive arrivals))

def clients : System Client (ClientCall × List Arrival) := ⟨Client.step⟩

section

variable {account : ChannelId → Account} {impl : ChannelImpl} {call : ClientCall}

theorem Keeps.without {Value : Type} {made : Calling Value} (keeps : Keeps account made impl) :
    Throwing.Ends (fun got after => Settled (handOver account got) after)
      (fun problem after => problem = .waiting ∨ Settled account after)
      ((made >>= fun _ => (pure none : Calling (Option Envelope))).run impl) :=
  Throwing.Ends.bind keeps fun _ _ settled => settled

theorem Channel.basicConsumeMessage_taken {consumerTag : Bytes} {timeout : Int} {channel : ChannelId}
    (found : impl.consumerChannelMap.find consumerTag = some channel) (settled : Settled account impl) :
    Throwing.Ends (Taken account channel (0 ≤ timeout) impl)
      (fun problem _ => problem = .waiting ∧ (account channel).Lacks channel)
      ((Channel.basicConsumeMessage consumerTag timeout).run impl) := by
  unfold Channel.basicConsumeMessage
  rw [Throwing.run_bind_ok (Channel.checkIsConnected_run settled.sound),
    Throwing.run_bind_ok (Channel.getConsumerChannel_found found)]
  exact consumeMessageOnChannel_taken (settled.sound.consumers _ _ found).1 _ settled

theorem ClientCall.perform_ends (begun : Underway account (call.asks impl).1 (call.asks impl).2 impl) :
    Throwing.Ends (fun got after => Settled (handOver account got) after)
      (fun problem after => problem = .waiting ∨ Settled account after) (call.perform.run impl) := by
  cases call with
  | declareQueue queue passive durable exclusive autoDelete => exact (Channel.declareQueue_keeps begun).without
  | basicPublish exchange routingKey body => exact (Channel.basicPublish_keeps begun).without
  | basicConsume queue consumerTag noLocal noAck exclusive prefetchCount =>
    exact (Channel.basicConsume_keeps begun).without
  | basicQos consumerTag prefetchCount => exact (Channel.basicQos_keeps begun).without
  | basicAck message => exact (Channel.basicAck_keeps begun).without
  | basicCancel consumerTag => exact (Channel.basicCancel_keeps begun).without
  | basicConsumeMessage consumerTag timeout =>
    cases found : impl.consumerChannelMap.find consumerTag with
    | none =>
      unfold ClientCall.perform Channel.basicConsumeMessage
      rw [Throwing.run_bind_ok (Channel.checkIsConnected_run begun.sound),
        Throwing.run_bind_error (Channel.getConsumerChannel_none found)]
      exact Or.inr begun
    | some channel =>
      apply (Channel.basicConsumeMessage_taken found begun).imp
      · exact fun _ _ taken => taken.settled
      · exact fun _ _ waits => Or.inl waits.1

end

namespace Client

variable {sent : ChannelId → List Delivery} {client next : Client}

/-- Whatever comes later, so that all messages that are sent come whole and in order, the books are balanced. -/
def Kept (sent : ChannelId → List Delivery) (client : Client) : Prop :=
  ∀ later : ChannelId → List Frame,
    (∀ channel, client.framesCome [] channel ++ later channel = (sent channel).flatMap (Delivery.frames channel)) →
      Settled (client.account sent later) client.impl

theorem framesCome_append (arrivals : List Arrival) (channel : ChannelId) :
    client.framesCome arrivals channel = client.framesCome [] channel ++ framesOn channel (contentOf arrivals) := by
  unfold framesCome
  rw [List.append_nil, contentOf_append, framesOn_append]

/-- What has arrived by a call was to come before it. -/
theorem Kept.receive (kept : Kept sent client) {arrivals : List Arrival} {channel : ChannelId} {asked : List Request}
    (replied : replies channel asked arrivals = true) {later : ChannelId → List Frame}
    (whole : ∀ channel, client.framesCome arrivals channel ++ later channel =
      (sent channel).flatMap (Delivery.frames channel)) :
    Underway (client.account sent later) channel asked (client.receive arrivals) := by
  have settled := kept (fun channel => framesOn channel (contentOf arrivals) ++ later channel) fun channel => by
    rw [← List.append_assoc, ← framesCome_append]
    exact whole channel
  refine ⟨⟨settled.pending.content, ?_, rfl, ?_⟩,
    ⟨settled.sound.connected, settled.sound.reserved, settled.sound.consumers⟩⟩
  · change replies channel asked (client.impl.incoming ++ arrivals) = true
    rwa [replies_ordinary settled.plain]
  · intro other
    rcases settled.pending.balanced other with ⟨done, rest, shape, handed, remaining⟩
    refine ⟨done, rest, shape, handed, ?_⟩
    rw [← remaining]
    change framesOn other (client.impl.frameQueue ++ contentOf (client.impl.incoming ++ arrivals)) ++ later other =
      framesOn other (client.impl.frameQueue ++ contentOf client.impl.incoming) ++
        (framesOn other (contentOf arrivals) ++ later other)
    rw [contentOf_append, ← List.append_assoc, framesOn_append, List.append_assoc]

theorem step_some {action : ClientCall × List Arrival} (step : client.step action = some next) :
    next.arrived = client.arrived ++ action.2 ∧
      ((∃ problem, problem ≠ .waiting ∧ action.1.perform.run (client.receive action.2) = (next.impl, .error problem) ∧
          next.handed = client.handed) ∨
        ∃ got, action.1.perform.run (client.receive action.2) = (next.impl, .ok got) ∧
          next.handed = client.handed ++ got.toList) := by
  unfold Client.step at step
  split at step
  · cases step
  · rename_i impl problem other run
    cases step
    exact ⟨rfl, Or.inl ⟨problem, other, run, rfl⟩⟩
  · rename_i impl got run
    cases step
    exact ⟨rfl, Or.inr ⟨got, run, rfl⟩⟩

theorem account_handOver {got : Option Envelope} {later : ChannelId → List Frame}
    (handed : next.handed = client.handed ++ got.toList) :
    next.account sent later = handOver (client.account sent later) got := by
  funext channel
  unfold Client.account Client.handedOn
  rw [handed, List.filter_append]
  cases got with
  | none => simp [handOver]
  | some envelope =>
    by_cases own : envelope.deliveryChannel = channel
    · simp [handOver, own]
    · simp [handOver, own]

/-- The step lemma: an answered call keeps the books, or throws between two messages. -/
theorem step_kept {action : ClientCall × List Arrival} (step : client.step action = some next)
    (kept : Kept sent client) (replied : client.Replied action) : Kept sent next := by
  intro later whole
  rcases step_some step with ⟨arrived, outcome⟩
  have come : ∀ channel, client.framesCome action.2 channel ++ later channel =
      (sent channel).flatMap (Delivery.frames channel) := by
    intro channel
    have all := whole channel
    unfold framesCome at all ⊢
    rwa [arrived, List.append_nil] at all
  have same : action.1.asks (client.receive action.2) = action.1.asks client.impl := by
    cases action.1 <;> rfl
  have begun : Underway (client.account sent later) (action.1.asks (client.receive action.2)).1
      (action.1.asks (client.receive action.2)).2 (client.receive action.2) := by
    apply kept.receive _ come
    rw [same]
    exact replied
  have ends := ClientCall.perform_ends begun
  rcases outcome with ⟨problem, unforeseen, run, handed⟩ | ⟨got, run, handed⟩
  · rw [run] at ends
    rcases ends with waits | settled
    · exact absurd waits unforeseen
    · have books : next.account sent later = client.account sent later := by
        unfold Client.account Client.handedOn
        rw [handed]
      rwa [books]
  · rw [run] at ends
    rw [account_handOver handed]
    exact ends

theorem opened_kept (channelMax : Nat) (brokerVersion : UInt32) : Kept sent (opened channelMax brokerVersion) := by
  intro later whole
  refine ⟨⟨by simp [opened], rfl, rfl, fun other => ⟨[], sent other, rfl, rfl, whole other⟩⟩, rfl, rfl, ?_⟩
  intro consumerTag channel found
  cases found

end Client

/-- In every run of calls that are answered, on any channels, with any messages of other channels in between: what is
    handed out on a channel is what was sent on it, whole, in order and once. -/
theorem consumers_served {channelMax : Nat} {brokerVersion : UInt32} {actions : List (ClientCall × List Arrival)}
    {client : Client} (run : clients.run (.opened channelMax brokerVersion) actions = some client)
    (replied : clients.Everywhere Client.Replied (.opened channelMax brokerVersion) actions) {arrivals : List Arrival}
    (plain : ∀ arrival ∈ arrivals, arrival.ordinary = true) {sent : ChannelId → List Delivery}
    (comes : ∀ channel, client.framesCome arrivals channel <+: (sent channel).flatMap (Delivery.frames channel)) :
    client.Serves sent arrivals := by
  have always : clients.Always (Client.Kept sent) (.opened channelMax brokerVersion) actions :=
    System.always_of_everywhere (fun _ _ _ step kept replied => Client.step_kept step kept replied)
      (Client.opened_kept channelMax brokerVersion) replied
  have kept := always actions [] client (List.append_nil _).symm run
  choose later whole using comes
  have settled : Settled (client.account sent later) (client.receive arrivals) :=
    kept.receive (replies_nil.mpr plain) whole
  apply Client.Serves.mk
  · intro channel
    rcases settled.pending.balanced channel with ⟨done, rest, shape, handed, _⟩
    refine ⟨(client.receive arrivals).deliveredOn channel ++ rest.map (Delivery.envelope channel), ?_⟩
    have first : client.handedOn channel ++ (client.receive arrivals).deliveredOn channel =
        done.map (Delivery.envelope channel) := handed
    have all : sent channel = done ++ rest := shape
    rw [← List.append_assoc, first, all, List.map_append]
  · intro consumerTag channel timeout found
    have there : (client.receive arrivals).consumerChannelMap.find consumerTag = some channel := found
    apply (Channel.basicConsumeMessage_taken there settled).imp
    · intro got after taken
      cases got with
      | none =>
        rcases taken.unserved rfl with ⟨delivered, timed, queue, timesOut⟩
        exact ⟨of_decide_eq_true timed, delivered, queue, timesOut⟩
      | some envelope =>
        rcases taken.settled.pending.balanced channel with ⟨done, rest, shape, handed, _⟩
        rw [show (⟨handOver (client.account sent later) (some envelope), after.standing⟩ : Books).account channel =
          _ from handOver_own (taken.own envelope rfl)] at shape handed
        have first : client.handedOn channel ++ [envelope] ++ after.deliveredOn channel =
            done.map (Delivery.envelope channel) := handed
        have all : sent channel = done ++ rest := shape
        dsimp only
        rw [all, List.map_append, ← first, List.append_assoc, List.append_assoc,
          List.getElem?_append_right (Nat.le_refl _), Nat.sub_self]
        rfl
    · rintro problem _ ⟨waits, lacks⟩
      refine ⟨waits, ?_⟩
      intro more wholly
      have short := lacks _ _ (List.drop_eq_getElem_cons more)
      have came := wholly.length_le
      have total := congrArg List.length (whole channel)
      rw [← List.take_append_drop ((client.handedOn channel).length + 1) (sent channel), List.flatMap_append,
        List.length_append, List.length_append] at total
      change _ < (later channel).length at short
      omega

/-! A message in two fragments: the first comes before the answer to another call of its channel, the second during a
    call of another channel. -/

def letter : Delivery where
  deliver := ⟨[116], 1, false, [], [113]⟩
  fragments := [[72], [105]]
  filled := by decide

def methodComes (channel : ChannelId) (method : Method) : Arrival := .frame ⟨channel, .method method⟩ false

def letterActions : List (ClientCall × List Arrival) :=
  [(.basicConsume [113] [116] true false false 1,
      [methodComes 1 .channelOpenOk, methodComes 1 .confirmSelectOk, methodComes 1 .basicQosOk,
        methodComes 1 (.basicConsumeOk [116])]),
    (.basicQos [116] 1,
      [methodComes 1 (.basicDeliver letter.deliver), .frame ⟨1, .header 2⟩ false, .frame ⟨1, .body [72]⟩ false,
        methodComes 1 .basicQosOk]),
    (.basicPublish [] [113] [33],
      [methodComes 2 .channelOpenOk, methodComes 2 .confirmSelectOk, .frame ⟨1, .body [105]⟩ false,
        methodComes 2 .basicAck])]

theorem letter_served : ∃ client, clients.run (.opened 0 0) letterActions = some client ∧
    client.Serves (fun channel => if channel = 1 then [letter] else []) [] := by
  have ran : (clients.run (.opened 0 0) letterActions).map Client.arrived = some (letterActions.flatMap Prod.snd) := by
    decide +kernel
  rcases Option.map_eq_some_iff.mp ran with ⟨client, run, arrived⟩
  refine ⟨client, run, consumers_served run (System.everywhere_of_meets (by decide +kernel)) (by simp) ?_⟩
  intro channel
  have content : contentOf (client.arrived ++ []) = letter.frames 1 := by
    rw [arrived]
    decide
  unfold Client.framesCome
  rw [content]
  by_cases own : channel = 1
  · rw [own, framesOn_own fun frame member => (frames_own 1 letter frame member).1]
    exact List.prefix_refl _
  · rw [framesOn_none fun frame member same => own (same.symm.trans (frames_own 1 letter frame member).1)]
    exact List.nil_prefix

end AmqpClient
