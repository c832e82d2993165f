import Mqtt5Client.Common

/-!
# Mqtt5Client — messages and `PropsHandler`

The decoded form of the packets the client sends and receives. Encoding and decoding belong to
the protocol library; what the client needs of it is the length of an encoded packet
(`Env.frameLength`). `PropsHandler` is the property collector every message handler runs.
-/

namespace Mqtt5

/-- One entry of a properties list. -/
inductive Property where
  | payloadFormatIndicator (value : Nat)
  | messageExpiryInterval (value : Nat)
  | contentType (value : Str)
  | responseTopic (value : Str)
  | correlationData (value : Bytes)
  | subscriptionId (value : Nat)
  | sessionExpiryInterval (value : Nat)
  | assignedClientId (value : Str)
  | serverKeepAlive (value : Nat)
  | authMethod (value : Str)
  | authData (value : Bytes)
  | requestProblemInfo (value : Bool)
  | willDelayInterval (value : Nat)
  | requestResponseInfo (value : Bool)
  | responseInfo (value : Str)
  | serverRef (value : Str)
  | reasonStr (value : Str)
  | receiveMax (value : Nat)
  | topicAliasMax (value : Nat)
  | topicAlias (value : Nat)
  | maxQos (value : Nat)
  | retainAvailable (value : Nat)
  | userProperty (key value : Str)
  | maxPacketSize (value : Nat)
  | wildcardSubAvail (value : Nat)
  | subIdAvail (value : Nat)
  | sharedSubAvail (value : Nat)
  deriving DecidableEq, Repr

abbrev PropsList := List Property

/-- `addProp` and `canAddProp`: append unless the list is at its capacity. -/
def addProp (limit : Nat) (props : PropsList) (p : Property) : Option PropsList :=
  if isFull limit props.length then none else some (props ++ [p])

/-! ## Outgoing messages -/

structure WillMsg where
  topic : Str
  payload : Bytes
  qos : Qos
  retain : Bool
  props : PropsList
  deriving DecidableEq, Repr

structure ConnectMsg where
  clientId : Str := []
  cleanStart : Bool := false
  keepAlive : Nat := 0
  userName : Option Str := none
  password : Option Bytes := none
  will : Option WillMsg := none
  props : PropsList := []
  deriving DecidableEq, Repr

/-- `PublishMsg` as built by `SendOp`. The packet id of a message that was not sent reads `0`. -/
structure PublishMsg where
  topic : Str := []
  qos : Qos := .atMostOnceDelivery
  dup : Bool := false
  retain : Bool := false
  packetId : Nat := 0
  props : PropsList := []
  payload : Bytes := []
  deriving DecidableEq, Repr

/-- PUBACK, PUBREC, PUBREL and PUBCOMP have one layout: the reason code and the properties are
optional fields. -/
structure AckMsg where
  packetId : Nat
  reasonCode : Option ReasonCode := none
  props : Option PropsList := none
  deriving DecidableEq, Repr

structure SubscribeTopic where
  topic : Str
  maxQos : Qos
  retainHandling : RetainHandling
  noLocal : Bool
  retainAsPublished : Bool
  deriving DecidableEq, Repr

structure SubscribeMsg where
  packetId : Nat := 0
  props : PropsList := []
  list : List SubscribeTopic := []
  deriving DecidableEq, Repr

structure UnsubscribeMsg where
  packetId : Nat := 0
  props : PropsList := []
  list : List Str := []
  deriving DecidableEq, Repr

/-- DISCONNECT and AUTH: an optional reason code followed by optional properties. -/
structure ReasonMsg where
  reasonCode : Option ReasonCode := none
  props : Option PropsList := none
  deriving DecidableEq, Repr

inductive OutMsg where
  | connect (msg : ConnectMsg)
  | publish (msg : PublishMsg)
  | puback (msg : AckMsg)
  | pubrec (msg : AckMsg)
  | pubrel (msg : AckMsg)
  | pubcomp (msg : AckMsg)
  | subscribe (msg : SubscribeMsg)
  | unsubscribe (msg : UnsubscribeMsg)
  | pingreq
  | disconnect (msg : ReasonMsg)
  | auth (msg : ReasonMsg)
  deriving DecidableEq, Repr

/-- What the client uses of the protocol library: the configuration it is built with and the
length of an encoded packet (`ProtFrame::length`). -/
structure Env where
  cfg : Config
  frameLength : OutMsg → Nat

/-! ### The lengths of the MQTT v5 encoding

The protocol library encodes packets as the protocol specification says; these are the lengths it
then reports. -/

/-- Bytes of a variable byte integer. -/
def varIntLength (n : Nat) : Nat :=
  if n < 128 then 1 else if n < 16384 then 2 else if n < 2097152 then 3 else 4

def strLength (s : Str) : Nat := 2 + (s.map Char.utf8Size).sum

def binLength (b : Bytes) : Nat := 2 + b.length

def Property.valueLength : Property → Nat
  | .payloadFormatIndicator _ | .requestProblemInfo _ | .requestResponseInfo _ | .maxQos _
  | .retainAvailable _ | .wildcardSubAvail _ | .subIdAvail _ | .sharedSubAvail _ => 1
  | .serverKeepAlive _ | .receiveMax _ | .topicAliasMax _ | .topicAlias _ => 2
  | .messageExpiryInterval _ | .sessionExpiryInterval _ | .willDelayInterval _
  | .maxPacketSize _ => 4
  | .contentType v | .responseTopic v | .assignedClientId v | .authMethod v | .responseInfo v
  | .serverRef v | .reasonStr v => strLength v
  | .correlationData v | .authData v => binLength v
  | .subscriptionId v => varIntLength v
  | .userProperty k v => strLength k + strLength v

def propsLength (props : PropsList) : Nat :=
  let len := (props.map (fun p => 1 + p.valueLength)).sum
  varIntLength len + len

/-- An optional field. -/
def optLength {α : Type} (f : α → Nat) : Option α → Nat
  | none => 0
  | some v => f v

def WillMsg.bodyLength (msg : WillMsg) : Nat :=
  propsLength msg.props + strLength msg.topic + binLength msg.payload

def AckMsg.bodyLength (msg : AckMsg) : Nat :=
  2 + optLength (fun _ => 1) msg.reasonCode + optLength propsLength msg.props

def ReasonMsg.bodyLength (msg : ReasonMsg) : Nat :=
  optLength (fun _ => 1) msg.reasonCode + optLength propsLength msg.props

/-- The `Remaining Length` of a packet. -/
def OutMsg.bodyLength : OutMsg → Nat
  | .connect m =>
    10 + propsLength m.props + strLength m.clientId + optLength WillMsg.bodyLength m.will
      + optLength strLength m.userName + optLength binLength m.password
  | .publish m =>
    strLength m.topic + (if m.qos = .atMostOnceDelivery then 0 else 2) + propsLength m.props
      + m.payload.length
  | .puback m | .pubrec m | .pubrel m | .pubcomp m => m.bodyLength
  | .subscribe m => 2 + propsLength m.props + (m.list.map (fun t => strLength t.topic + 1)).sum
  | .unsubscribe m => 2 + propsLength m.props + (m.list.map strLength).sum
  | .pingreq => 0
  | .disconnect m | .auth m => m.bodyLength

def OutMsg.encodedLength (msg : OutMsg) : Nat :=
  1 + varIntLength msg.bodyLength + msg.bodyLength

/-- The client with the protocol library of the MQTT v5 encoding. -/
def Env.mqtt (cfg : Config) : Env := ⟨cfg, OutMsg.encodedLength⟩

/-! ## Incoming messages -/

structure ConnackMsg where
  sessionPresent : Bool
  reasonCode : ReasonCode
  props : PropsList := []
  deriving DecidableEq, Repr

/-- An incoming PUBLISH. The reserved QoS value `3` is a missing `qos`. -/
structure RecvPublishMsg where
  topic : Str
  qos : Option Qos
  dup : Bool
  retain : Bool
  packetId : Option Nat
  props : PropsList
  payload : Bytes
  deriving DecidableEq, Repr

/-- SUBACK and UNSUBACK. -/
structure CodesMsg where
  packetId : Nat
  props : PropsList
  list : List ReasonCode
  deriving DecidableEq, Repr

structure UserProp where
  key : Str
  value : Str
  deriving DecidableEq, Repr

/-- `CC_Mqtt5AuthInfo`. The pointer and length pairs of the callback's output are kept apart:
a non-zero length with a null pointer is a value the code checks for. -/
structure AuthInfo where
  authData : Option Bytes := none
  authDataLen : Nat := 0
  reasonStr : Option Str := none
  userProps : Option (List (Option Str × Option Str)) := none
  userPropsCount : Nat := 0
  deriving DecidableEq, Repr

/-- The answer of the application's authentication callback. -/
inductive AuthReply where
  | disconnect
  | continue (out : AuthInfo)
  deriving DecidableEq, Repr

/-- The messages of `ClientInputMessages`. `valid` is `doValid()` (the reserved flags of the
fixed header); the answer the application gives when the AUTH handler asks it comes along. -/
inductive InMsg where
  | connack (msg : ConnackMsg)
  | publish (msg : RecvPublishMsg)
  | puback (msg : AckMsg)
  | pubrec (msg : AckMsg)
  | pubrel (msg : AckMsg) (valid : Bool)
  | pubcomp (msg : AckMsg)
  | suback (msg : CodesMsg)
  | unsuback (msg : CodesMsg)
  | pingresp
  | disconnect (msg : ReasonMsg) (valid : Bool)
  | auth (msg : ReasonMsg) (valid : Bool) (reply : AuthReply)
  deriving DecidableEq, Repr

/-! ## `PropsHandler` -/

structure PropsHandler where
  payloadFormatIndicator : Option Nat := none
  messageExpiryInterval : Option Nat := none
  contentType : Option Str := none
  responseTopic : Option Str := none
  correlationData : Option Bytes := none
  subscriptionIds : List Nat := []
  sessionExpiryInterval : Option Nat := none
  assignedClientId : Option Str := none
  serverKeepAlive : Option Nat := none
  authMethod : Option Str := none
  authData : Option Bytes := none
  requestProblemInfo : Option Bool := none
  willDelayInterval : Option Nat := none
  requestResponseInfo : Option Bool := none
  responseInfo : Option Str := none
  serverRef : Option Str := none
  reasonStr : Option Str := none
  receiveMax : Option Nat := none
  topicAliasMax : Option Nat := none
  topicAlias : Option Nat := none
  maxQos : Option Nat := none
  retainAvailable : Option Nat := none
  userProps : List UserProp := []
  maxPacketSize : Option Nat := none
  wildcardSubAvail : Option Nat := none
  subIdAvail : Option Nat := none
  sharedSubAvail : Option Nat := none
  protocolError : Bool := false
  deriving DecidableEq, Repr

namespace PropsHandler

/-- The part of `storeProp` that reports a repeated property. -/
def storeError {α : Type} (h : PropsHandler) (old : Option α) : Bool :=
  h.protocolError || old.isSome

/-- `valid()` of a boolean property. -/
def boolValid (v : Nat) : Bool := v ≤ 1

/-- `PropsHandler::operator()` on one property. -/
def handle (cfg : Config) (h : PropsHandler) : Property → PropsHandler
  | .payloadFormatIndicator v =>
    { h with payloadFormatIndicator := some v,
             protocolError := h.storeError h.payloadFormatIndicator }
  | .messageExpiryInterval v =>
    { h with messageExpiryInterval := some v,
             protocolError := h.storeError h.messageExpiryInterval }
  | .contentType v =>
    { h with contentType := some v, protocolError := h.storeError h.contentType }
  | .responseTopic v =>
    { h with responseTopic := some v, protocolError := h.storeError h.responseTopic }
  | .correlationData v =>
    { h with correlationData := some v, protocolError := h.storeError h.correlationData }
  | .subscriptionId v =>
    if cfg.hasSubIds && !isFull cfg.subIdsLimit h.subscriptionIds.length then
      { h with subscriptionIds := h.subscriptionIds ++ [v],
               protocolError := h.protocolError || v == 0 }
    else h
  | .sessionExpiryInterval v =>
    { h with sessionExpiryInterval := some v,
             protocolError := h.storeError h.sessionExpiryInterval }
  | .assignedClientId v =>
    { h with assignedClientId := some v, protocolError := h.storeError h.assignedClientId }
  | .serverKeepAlive v =>
    { h with serverKeepAlive := some v, protocolError := h.storeError h.serverKeepAlive }
  | .authMethod v =>
    { h with authMethod := some v, protocolError := h.storeError h.authMethod }
  | .authData v =>
    { h with authData := some v, protocolError := h.storeError h.authData }
  | .requestProblemInfo v =>
    { h with requestProblemInfo := some v, protocolError := h.storeError h.requestProblemInfo }
  | .willDelayInterval v =>
    { h with willDelayInterval := some v, protocolError := h.storeError h.willDelayInterval }
  | .requestResponseInfo v =>
    { h with requestResponseInfo := some v,
             protocolError := h.storeError h.requestResponseInfo }
  | .responseInfo v =>
    { h with responseInfo := some v, protocolError := h.storeError h.responseInfo }
  | .serverRef v =>
    { h with serverRef := some v, protocolError := h.storeError h.serverRef }
  | .reasonStr v =>
    { h with reasonStr := some v, protocolError := h.storeError h.reasonStr }
  | .receiveMax v =>
    { h with receiveMax := some v, protocolError := h.storeError h.receiveMax || v == 0 }
  | .topicAliasMax v =>
    { h with topicAliasMax := some v, protocolError := h.storeError h.topicAliasMax }
  | .topicAlias v =>
    { h with topicAlias := some v, protocolError := h.storeError h.topicAlias }
  | .maxQos v =>
    { h with maxQos := some v, protocolError := h.storeError h.maxQos || 2 ≤ v }
  | .retainAvailable v =>
    { h with retainAvailable := some v,
             protocolError := h.storeError h.retainAvailable || !boolValid v }
  | .userProperty k v =>
    if cfg.hasUserProps && !isFull cfg.userPropsLimit h.userProps.length then
      { h with userProps := h.userProps ++ [⟨k, v⟩] }
    else h
  | .maxPacketSize v =>
    { h with maxPacketSize := some v,
             protocolError := h.storeError h.maxPacketSize || v == 0 }
  | .wildcardSubAvail v =>
    { h with wildcardSubAvail := some v,
             protocolError := h.storeError h.wildcardSubAvail || !boolValid v }
  | .subIdAvail v =>
    { h with subIdAvail := some v, protocolError := h.storeError h.subIdAvail || !boolValid v }
  | .sharedSubAvail v =>
    { h with sharedSubAvail := some v,
             protocolError := h.storeError h.sharedSubAvail || !boolValid v }

/-- The loop every handler runs over a message's properties. -/
def ofProps (cfg : Config) (props : PropsList) : PropsHandler :=
  props.foldl (handle cfg) {}

end PropsHandler

end Mqtt5
