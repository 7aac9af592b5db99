import HttpServerApps.Common.Decimal
import HttpServerApps.Common.Dict
import HttpServerApps.Common.Throwing

namespace AmqpClient

open Common

/-- `amqp_channel_t`; channel 0 is the connection's own. -/
abbrev ChannelId := Nat

structure Deliver where
  consumerTag : Bytes
  deliveryTag : UInt64
  redelivered : Bool
  exchange : Bytes
  routingKey : Bytes
  deriving DecidableEq

structure Close where
  replyCode : Nat
  replyText : Bytes
  classId : Nat
  methodId : Nat
  deriving DecidableEq

structure Return where
  replyCode : Nat
  replyText : Bytes
  exchange : Bytes
  routingKey : Bytes
  deriving DecidableEq

/-- The methods of a broker, with the fields that are read. -/
inductive Method where
  | channelOpenOk
  | channelClose (close : Close)
  | connectionClose (close : Close)
  | confirmSelectOk
  | queueDeclareOk (queue : Bytes)
  | basicQosOk
  | basicConsumeOk (consumerTag : Bytes)
  | basicCancelOk
  | basicCancel (consumerTag : Bytes)
  | basicDeliver (deliver : Deliver)
  | basicAck
  | basicNack (deliveryTag : UInt64)
  | basicReturn (returned : Return)
  deriving DecidableEq

inductive Payload where
  | method (method : Method)
  | header (bodySize : Nat)
  | body (fragment : Bytes)
  | heartbeat
  deriving DecidableEq

structure Frame where
  channel : ChannelId
  payload : Payload
  deriving DecidableEq

structure Envelope where
  body : Bytes
  consumerTag : Bytes
  deliveryTag : UInt64
  exchange : Bytes
  redelivered : Bool
  routingKey : Bytes
  deliveryChannel : ChannelId
  deriving DecidableEq

inductive Thrown where
  | amqp (close : Close)
  | library (status : Int)
  | runtime (what : Bytes)
  | logic (what : Bytes)
  | outOfRange
  | connectionClosed
  | consumerTagNotFound
  | consumerCancelled (consumerTag : Bytes)
  | messageRejected (deliveryTag : UInt64)
  | messageReturned (content : Bytes) (returned : Return)
  /-- Nothing is thrown: the call has not come back yet. -/
  | waiting
  deriving DecidableEq

/-- What the socket brings next: a frame, with whether the time of the call is up once the frame has been put by; no
    frame for as long as a call with a timeout waits; or an error, which stays. -/
inductive Arrival where
  | frame (frame : Frame) (late : Bool)
  | quiet
  | failed (status : Int)
  deriving DecidableEq

inductive Request where
  | channelOpen
  | channelCloseOk
  | connectionCloseOk
  | confirmSelect
  | queueDeclare (queue : Bytes) (passive durable exclusive autoDelete : Bool)
  | basicQos (prefetchCount : UInt16) (global : Bool)
  | basicConsume (queue consumerTag : Bytes) (noLocal noAck exclusive : Bool)
  | basicCancel (consumerTag : Bytes)
  | basicAck (deliveryTag : UInt64)
  | basicPublish (exchange routingKey : Bytes) (mandatory immediate : Bool) (body : Bytes)
  deriving DecidableEq

inductive ChannelState where
  | closed
  | opened
  | used
  deriving DecidableEq

/-- `incoming` is what the socket still brings, `requests` what has been written to it. -/
structure ChannelImpl where
  incoming : List Arrival := []
  requests : List (ChannelId × Request) := []
  frameQueue : List Frame := []
  deliveredMessages : List Envelope := []
  consumerChannelMap : Dict Bytes ChannelId := .empty
  channels : List ChannelState := [.used]
  channelMax : Nat := 0
  brokerVersion : UInt32 := 0
  lastUsedChannel : ChannelId := 0
  isConnected : Bool := true

abbrev Calling (Value : Type) := Throwing ChannelImpl Thrown Value

/-! `AmqpException::Throw` -/

def channelReplyCodes : List Nat := [311, 312, 313, 403, 404, 405, 406]

def connectionReplyCodes : List Nat := [320, 402, 501, 502, 503, 504, 505, 506, 530, 540, 541, 403]

def channelException (close : Close) : Thrown :=
  if close.replyCode ∈ channelReplyCodes then .amqp close
  else .logic (bytes "Programming error: unknown channel reply code: " ++ natText close.replyCode)

def connectionException (close : Close) : Thrown :=
  if close.replyCode ∈ connectionReplyCodes then .amqp close
  else .logic (bytes "Programming error: unknown connection reply code: " ++ natText close.replyCode)

namespace Frame

def isOnChannel (channel : ChannelId) (frame : Frame) : Bool := frame.channel = channel

def isDeliverOnChannel (channel : ChannelId) (frame : Frame) : Bool :=
  match frame.payload with
  | .method (.basicDeliver _) => frame.channel = channel
  | _ => false

def isExpectedMethodOnChannel (channels : List ChannelId) (expected : Method → Bool) (frame : Frame) : Bool :=
  match frame.payload with
  | .method method => channels.contains frame.channel && expected method
  | _ => false

end Frame

namespace ChannelImpl

/-! The connection and its channels -/

def sendMethod (channel : ChannelId) (request : Request) : Calling Unit := ⟨fun impl =>
  match impl.incoming with
  | .failed status :: _ => (impl, .error (.library status))
  | _ => ({ impl with requests := impl.requests ++ [(channel, request)] }, .ok ())⟩

def checkIsConnected : Calling Unit := do
  unless ← Throwing.read isConnected do Throwing.throw .connectionClosed

/-- `m_channels.at(channel) = state` -/
def setChannel (channel : ChannelId) (state : ChannelState) : Calling Unit := do
  let channels ← Throwing.read channels
  if channel < channels.length then
    Throwing.modify fun impl => { impl with channels := channels.set channel state }
  else Throwing.throw .outOfRange

def finishCloseChannel (channel : ChannelId) : Calling Unit := do
  setChannel channel .closed
  sendMethod channel .channelCloseOk

/-- What becomes of the last frame is not looked at. -/
def finishCloseConnection : Calling Unit :=
  Throwing.modify fun impl =>
    { impl with isConnected := false, requests := impl.requests ++ [(0, .connectionCloseOk)] }

def returnChannel (channel : ChannelId) : Calling Unit := do
  setChannel channel .opened
  Throwing.modify fun impl => { impl with lastUsedChannel := channel }

/-- 0 is no limit. -/
def maxChannels (impl : ChannelImpl) : Nat := if impl.channelMax = 0 then 65535 else impl.channelMax

def getNextChannelId : Calling ChannelId := do
  let channels ← Throwing.read channels
  match channels.findIdx? (· = .closed) with
  | some channel => return channel
  | none =>
    let maxChannels ← Throwing.read maxChannels
    if maxChannels < channels.length then Throwing.throw (.runtime (bytes "Too many channels open"))
    else do
      Throwing.modify fun impl => { impl with channels := channels ++ [.closed] }
      return channels.length

/-! The consumers -/

/-- `std::map::insert` keeps an entry that is there. -/
def addConsumer (consumerTag : Bytes) (channel : ChannelId) : Calling Unit :=
  Throwing.modify fun impl =>
    if (impl.consumerChannelMap.find consumerTag).isSome then impl
    else { impl with consumerChannelMap := impl.consumerChannelMap.insert consumerTag channel }

def getConsumerChannel (consumerTag : Bytes) : Calling ChannelId := do
  match ← Throwing.read fun impl => impl.consumerChannelMap.find consumerTag with
  | some channel => return channel
  | none => Throwing.throw .consumerTagNotFound

def removeConsumer (consumerTag : Bytes) : Calling ChannelId := do
  let channel ← getConsumerChannel consumerTag
  Throwing.modify fun impl => { impl with consumerChannelMap := impl.consumerChannelMap.erase consumerTag }
  return channel

/-! The frames -/

/-- The first frame that meets a test, and the frames after it. -/
def findFrame (test : Frame → Bool) : List Frame → Option (Frame × List Frame)
  | [] => none
  | frame :: rest => if test frame then some (frame, rest) else findFrame test rest

def protocolError : Thrown := .runtime (bytes "Protocol error")

/-- The loop over the body frames; those of other channels are passed over. -/
def bodyQueued (channel : ChannelId) (bodyLength : Nat) : Nat → List Frame → Except Thrown Bool
  | bodyReceived, [] => .ok (bodyLength ≤ bodyReceived)
  | bodyReceived, frame :: rest =>
    if bodyLength ≤ bodyReceived then .ok true
    else if frame.isOnChannel channel then
      match frame.payload with
      | .body fragment => bodyQueued channel bodyLength (bodyReceived + fragment.length) rest
      | _ => .error protocolError
    else bodyQueued channel bodyLength bodyReceived rest

def checkForQueuedMessageOnChannel (frameQueue : List Frame) (channel : ChannelId) : Except Thrown Bool :=
  match findFrame (Frame.isDeliverOnChannel channel) frameQueue with
  | none => .ok false
  | some (_, rest) =>
    match findFrame (Frame.isOnChannel channel) rest with
    | none => .ok false
    | some (frame, rest) =>
      match frame.payload with
      | .header bodyLength => bodyQueued channel bodyLength 0 rest
      | _ => .error protocolError

/-- `amqp_simple_wait_frame_noblock`, which without a timeout waits on. -/
def waitFrame (timed : Bool) : List Arrival → List Arrival × Except Thrown (Option (Frame × Bool))
  | [] => ([], .error .waiting)
  | .quiet :: rest => if timed then (rest, .ok none) else waitFrame timed rest
  | .failed status :: rest => (.failed status :: rest, .error (.library status))
  | .frame frame late :: rest => (rest, .ok (some (frame, late)))

def getNextFrameFromBroker (timed : Bool) : Calling (Option (Frame × Bool)) := ⟨fun impl =>
  let (incoming, outcome) := waitFrame timed impl.incoming
  ({ impl with incoming }, outcome)⟩

section

/- `ConsumeMessageOnChannelInner` on one channel without a timeout, which `AddToFrameQueue` calls. -/
variable (consume : ChannelId → Calling (Option Envelope))

def addToFrameQueue (frame : Frame) : Calling Unit := do
  Throwing.modify fun impl => { impl with frameQueue := impl.frameQueue ++ [frame] }
  let frameQueue ← Throwing.read frameQueue
  if ← Throwing.call (checkForQueuedMessageOnChannel frameQueue frame.channel) then
    match ← consume frame.channel with
    | some envelope =>
      Throwing.modify fun impl => { impl with deliveredMessages := impl.deliveredMessages ++ [envelope] }
    | none => Throwing.throw (.logic (bytes "ConsumeMessageOnChannelInner returned false unexpectedly"))

/-- A frame of none of the wanted channels. -/
def putBy (frame : Frame) : Calling Unit :=
  if frame.channel = 0 then
    match frame.payload with
    | .method (.connectionClose close) => do
      finishCloseConnection
      Throwing.throw (connectionException close)
    | _ => pure ()
  else addToFrameQueue consume frame

/-- Every round reads from the socket, so the fuel outlasts the loop. -/
def brokerLoop (channels : List ChannelId) (timed : Bool) : Nat → Calling (Option (Frame × Bool))
  | 0 => Throwing.throw .waiting
  | fuel + 1 => do
    match ← getNextFrameFromBroker timed with
    | none => return none
    | some (frame, late) =>
      if channels.contains frame.channel then return some (frame, late)
      else do
        putBy consume frame
        if timed && late then return none else brokerLoop channels timed fuel

def getNextFrameFromBrokerOnChannel (channels : List ChannelId) (timed : Bool) : Calling (Option (Frame × Bool)) := do
  let incoming ← Throwing.read incoming
  brokerLoop consume channels timed (incoming.length + 1)

/-- Without a timeout. -/
def getNextFrameOnChannel (channel : ChannelId) : Calling (Option Frame) := do
  let frameQueue ← Throwing.read frameQueue
  match frameQueue.find? (Frame.isOnChannel channel) with
  | some frame =>
    Throwing.modify fun impl => { impl with frameQueue := frameQueue.eraseP (Frame.isOnChannel channel) }
    match frame.payload with
    | .method (.channelClose close) => do
      finishCloseChannel channel
      Throwing.throw (channelException close)
    | _ => return some frame
  | none =>
    let next ← getNextFrameFromBrokerOnChannel consume [channel] false
    return next.map Prod.fst

def methodLoop (channels : List ChannelId) (expected : Method → Bool) (timed : Bool) : Nat → Calling (Option Frame)
  | 0 => Throwing.throw .waiting
  | fuel + 1 => do
    match ← getNextFrameFromBrokerOnChannel consume channels timed with
    | none => return none
    | some (frame, late) =>
      if frame.isExpectedMethodOnChannel channels expected then return some frame
      else
        match frame.payload with
        | .method (.channelClose close) => do
          finishCloseChannel frame.channel
          Throwing.throw (channelException close)
        | _ => do
          Throwing.modify fun impl => { impl with frameQueue := impl.frameQueue ++ [frame] }
          if timed && late then return none else methodLoop channels expected timed fuel

def getMethodOnChannel (channels : List ChannelId) (expected : Method → Bool) (timed : Bool) :
    Calling (Option Frame) := do
  let frameQueue ← Throwing.read frameQueue
  match frameQueue.find? (Frame.isExpectedMethodOnChannel channels expected) with
  | some frame =>
    Throwing.modify fun impl =>
      { impl with frameQueue := frameQueue.eraseP (Frame.isExpectedMethodOnChannel channels expected) }
    return some frame
  | none =>
    let incoming ← Throwing.read incoming
    methodLoop consume channels expected timed (incoming.length + 1)

def unexpectedFrame (expected : String) : Thrown :=
  .runtime (bytes "Channel::BasicConsumeMessage: received unexpected frame type (was " ++ bytes expected ++ bytes ")")

/-- Every round takes a frame of the channel, so the fuel outlasts the loop. -/
def bodyLoop (channel : ChannelId) (bodySize : Nat) : Nat → Bytes → Calling Bytes
  | 0, _ => Throwing.throw .waiting
  | fuel + 1, body =>
    if bodySize ≤ body.length then return body
    else do
      match ← getNextFrameOnChannel consume channel with
      | some { payload := .body fragment, .. } => bodyLoop channel bodySize fuel (body ++ fragment)
      | _ => Throwing.throw (unexpectedFrame "expecting AMQP_FRAME_BODY")

def readContent (channel : ChannelId) : Calling Bytes := do
  match ← getNextFrameOnChannel consume channel with
  | some { payload := .header bodySize, .. } =>
    let rounds ← Throwing.read fun impl => impl.frameQueue.length + impl.incoming.length
    bodyLoop consume channel bodySize (rounds + 1) []
  | _ => Throwing.throw (unexpectedFrame "expected AMQP_FRAME_HEADER")

end

def deliverOrCancel : Method → Bool
  | .basicDeliver _ | .basicCancel _ => true
  | _ => false

/-- A call that is made by another one comes after a frame that has been read, so the depth outlasts the calls. -/
def consumeMessageOnChannelInner : Nat → List ChannelId → Bool → Calling (Option Envelope)
  | 0, _, _ => Throwing.throw .waiting
  | depth + 1, channels, timed => do
    let consume := fun channel => consumeMessageOnChannelInner depth [channel] false
    match ← getMethodOnChannel consume channels deliverOrCancel timed with
    | none => return none
    | some frame =>
      match frame.payload with
      | .method (.basicCancel consumerTag) => do
        let _ ← removeConsumer consumerTag
        returnChannel frame.channel
        Throwing.throw (.consumerCancelled consumerTag)
      | .method (.basicDeliver deliver) => do
        let body ← readContent consume frame.channel
        return some ⟨body, deliver.consumerTag, deliver.deliveryTag, deliver.exchange, deliver.redelivered,
          deliver.routingKey, frame.channel⟩
      -- No other method is expected.
      | _ => return none

def consumeMessageOnChannel (channels : List ChannelId) (timed : Bool) : Calling (Option Envelope) := do
  let deliveredMessages ← Throwing.read deliveredMessages
  match deliveredMessages.find? fun envelope => channels.contains envelope.deliveryChannel with
  | some envelope =>
    Throwing.modify fun impl =>
      { impl with
        deliveredMessages := deliveredMessages.eraseP fun envelope => channels.contains envelope.deliveryChannel }
    return some envelope
  | none =>
    let incoming ← Throwing.read incoming
    consumeMessageOnChannelInner (incoming.length + 2) channels timed

/-! The calls that wait for a response -/

def awaitMethod (channel : ChannelId) (expected : Method → Bool) : Calling (Option Frame) := do
  let incoming ← Throwing.read incoming
  getMethodOnChannel (fun channel => consumeMessageOnChannelInner (incoming.length + 1) [channel] false) [channel]
    expected false

def doRpcOnChannel (channel : ChannelId) (request : Request) (expected : Method → Bool) : Calling (Option Frame) := do
  sendMethod channel request
  awaitMethod channel expected

def isOpenOk : Method → Bool
  | .channelOpenOk => true
  | _ => false

def isConfirmOk : Method → Bool
  | .confirmSelectOk => true
  | _ => false

def isDeclareOk : Method → Bool
  | .queueDeclareOk _ => true
  | _ => false

def isQosOk : Method → Bool
  | .basicQosOk => true
  | _ => false

def isConsumeOk : Method → Bool
  | .basicConsumeOk _ => true
  | _ => false

def isCancelOk : Method → Bool
  | .basicCancelOk => true
  | _ => false

def isPublishAck : Method → Bool
  | .basicAck | .basicReturn _ | .basicNack _ => true
  | _ => false

def isAck : Method → Bool
  | .basicAck => true
  | _ => false

def createNewChannel : Calling ChannelId := do
  let newChannel ← getNextChannelId
  let _ ← doRpcOnChannel newChannel .channelOpen isOpenOk
  let _ ← doRpcOnChannel newChannel .confirmSelect isConfirmOk
  setChannel newChannel .opened
  return newChannel

def getChannel : Calling ChannelId := do
  let channels ← Throwing.read channels
  let lastUsedChannel ← Throwing.read lastUsedChannel
  if channels[lastUsedChannel]? = some .opened then do
    setChannel lastUsedChannel .used
    return lastUsedChannel
  else
    match channels.findIdx? (· = .opened) with
    | some channel => do
      setChannel channel .used
      return channel
    | none => do
      let newChannel ← createNewChannel
      setChannel newChannel .used
      return newChannel

def doRpc (request : Request) (expected : Method → Bool) : Calling (Option Frame) := do
  let channel ← getChannel
  let response ← doRpcOnChannel channel request expected
  returnChannel channel
  return response

def createMessageReturnedException (returned : Return) (channel : ChannelId) : Calling Thrown := do
  let incoming ← Throwing.read incoming
  let content ← readContent (fun channel => consumeMessageOnChannelInner (incoming.length + 1) [channel] false) channel
  return .messageReturned content returned

def brokerHasNewQosBehavior (impl : ChannelImpl) : Bool := 0x030300 ≤ impl.brokerVersion

end ChannelImpl

/-! `Channel` -/

namespace Channel

open ChannelImpl

def declareQueue (queue : Bytes) (passive durable exclusive autoDelete : Bool) : Calling Bytes := do
  checkIsConnected
  match ← doRpc (.queueDeclare queue passive durable exclusive autoDelete) isDeclareOk with
  | some { payload := .method (.queueDeclareOk queue), .. } => return queue
  | _ => return []

def basicPublish (exchange routingKey : Bytes) (mandatory immediate : Bool) (body : Bytes) : Calling Unit := do
  checkIsConnected
  let channel ← getChannel
  sendMethod channel (.basicPublish exchange routingKey mandatory immediate body)
  match ← awaitMethod channel isPublishAck with
  | some { payload := .method (.basicNack deliveryTag), .. } => do
    returnChannel channel
    Throwing.throw (.messageRejected deliveryTag)
  | some { payload := .method (.basicReturn returned), .. } => do
    let messageReturned ← createMessageReturnedException returned channel
    let _ ← awaitMethod channel isAck
    returnChannel channel
    Throwing.throw messageReturned
  | _ => returnChannel channel

def basicConsume (queue consumerTag : Bytes) (noLocal noAck exclusive : Bool) (prefetchCount : UInt16) :
    Calling Bytes := do
  checkIsConnected
  let channel ← getChannel
  let newQosBehavior ← Throwing.read brokerHasNewQosBehavior
  let _ ← doRpcOnChannel channel (.basicQos prefetchCount newQosBehavior) isQosOk
  match ← doRpcOnChannel channel (.basicConsume queue consumerTag noLocal noAck exclusive) isConsumeOk with
  | some { payload := .method (.basicConsumeOk tag), .. } => do
    addConsumer tag channel
    return tag
  | _ => return []

def basicQos (consumerTag : Bytes) (prefetchCount : UInt16) : Calling Unit := do
  checkIsConnected
  let channel ← getConsumerChannel consumerTag
  let newQosBehavior ← Throwing.read brokerHasNewQosBehavior
  let _ ← doRpcOnChannel channel (.basicQos prefetchCount newQosBehavior) isQosOk

/-- A timeout below 0 is none. -/
def basicConsumeMessage (consumerTag : Bytes) (timeout : Int) : Calling (Option Envelope) := do
  checkIsConnected
  let channel ← getConsumerChannel consumerTag
  consumeMessageOnChannel [channel] (0 ≤ timeout)

def basicAck (message : Envelope) : Calling Unit := do
  checkIsConnected
  match (← Throwing.read ChannelImpl.channels)[message.deliveryChannel]? with
  | none => Throwing.throw .outOfRange
  | some .closed =>
    Throwing.throw (.runtime (bytes "The channel that the message was delivered on has been closed"))
  | some _ => sendMethod message.deliveryChannel (.basicAck message.deliveryTag)

def basicCancel (consumerTag : Bytes) : Calling Unit := do
  checkIsConnected
  let channel ← getConsumerChannel consumerTag
  let _ ← doRpcOnChannel channel (.basicCancel consumerTag) isCancelOk
  let _ ← removeConsumer consumerTag
  returnChannel channel

end Channel

end AmqpClient
