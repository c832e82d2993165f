import Mqtt5Client.Lib.ModifyFirst
import Mqtt5Client.Messages
import Mqtt5Client.TimerMgr

/-!
# Mqtt5Client — the state of `ClientImpl`

The operation objects, the four state records (`ConfigState`, `ClientState`, `SessionState`,
`ReuseState`) and `ClientImpl` itself. Every callback the library invokes is an entry of `log`.
Callbacks never call back into the library: the application acts between API calls. All that is shown of
runs is shown of applications that keep to this; one that reports the loss of the network from within the
callback that sends data is not among them.

The build modelled is the release one: a failing `COMMS_ASSERT` does not stop the execution.
`faults` records failed assertions and accesses to destroyed objects. An access to a destroyed object has
no further effect in the model, except for the `send` functions, which carry on with an operation that a
timer of their own API guard destroyed.
-/

namespace Mqtt5

/-- `Op::Type`. -/
inductive OpType where
  | connect
  | keepAlive
  | disconnect
  | subscribe
  | unsubscribe
  | recv
  | send
  | reauth
  deriving DecidableEq, Repr

/-- A pointer stored in `m_ops`. -/
structure OpRef where
  type : OpType
  id : OpId
  deriving DecidableEq, Repr

/-! ## Operations

A completion callback is represented by whether it is set; a timer is the index of its slot,
`none` when the timer could not be allocated. `sent` is bookkeeping: whether `send` was called. -/

/-- `SendOp`. The last field is bookkeeping too: the topic of the last successful `configBasic`. -/
structure SendOp where
  id : OpId
  responseTimer : Option Nat := none
  pubMsg : PublishMsg := {}
  cb : Bool := false
  totalSendAttempts : Nat := 2
  sendAttempts : Nat := 0
  reasonCode : ReasonCode := ReasonCode.success
  published : Bool := false
  acked : Bool := false
  registeredAlias : Bool := false
  topicConfigured : Bool := false
  paused : Bool := false
  sent : Bool := false
  configured : Option Str := none
  deriving DecidableEq, Repr

structure RecvOp where
  id : OpId
  responseTimer : Option Nat := none
  packetId : Nat := 0
  deriving DecidableEq, Repr

structure ConnectOp where
  id : OpId
  timer : Option Nat := none
  connectMsg : ConnectMsg := {}
  cb : Bool := false
  authCb : Bool := false
  authMethod : Str := []
  sessionExpiryInterval : Nat := 0
  maxRecvPacketSize : Nat := 0
  highQosRecvLimit : Nat := 0
  requestProblemInfo : Bool := false
  responseTimeoutMs : Nat
  sent : Bool := false
  deriving DecidableEq, Repr

structure KeepAliveOp where
  id : OpId
  pingTimer : Option Nat := none
  recvTimer : Option Nat := none
  respTimer : Option Nat := none
  deriving DecidableEq, Repr

/-- `DisconnectOp`: the message fields before `send` decides which of them exist. -/
structure DisconnectOp where
  id : OpId
  reasonCode : ReasonCode := ReasonCode.success
  props : PropsList := []
  propsExist : Bool := false
  sent : Bool := false
  deriving DecidableEq, Repr

structure SubscribeOp where
  id : OpId
  timer : Option Nat := none
  subMsg : SubscribeMsg := {}
  cb : Bool := false
  responseTimeoutMs : Nat
  sent : Bool := false
  deriving DecidableEq, Repr

structure UnsubscribeOp where
  id : OpId
  timer : Option Nat := none
  unsubMsg : UnsubscribeMsg := {}
  cb : Bool := false
  responseTimeoutMs : Nat
  sent : Bool := false
  deriving DecidableEq, Repr

structure ReauthOp where
  id : OpId
  timer : Option Nat := none
  authMsg : ReasonMsg := {}
  cb : Bool := false
  authCb : Bool := false
  responseTimeoutMs : Nat
  sent : Bool := false
  deriving DecidableEq, Repr

/-! ## State records -/

/-- `TopicAliasInfo`. -/
structure TopicAliasInfo where
  topic : Str
  aliasId : Nat
  lowQosRegRemCount : Nat
  deriving DecidableEq, Repr

structure ConfigState where
  responseTimeoutMs : Nat := 2000
  publishOrdering : PublishOrdering := .sameQos
  verifyOutgoingTopic : Bool := true
  verifyIncomingTopic : Bool := true
  verifySubFilter : Bool := true
  deriving DecidableEq, Repr

structure ClientState where
  sendTopicAliases : List TopicAliasInfo := []
  allocatedPacketIds : List Nat := []
  lastPacketId : Nat := 0
  inFlightSends : Nat := 0
  initialized : Bool := false
  firstConnect : Bool := true
  networkDisconnected : Bool := false
  deriving DecidableEq, Repr

structure SessionState where
  recvTopicAliases : List Str := []
  sendTopicFreeAliases : List Nat := []
  authMethod : Str := []
  sessionExpiryIntervalMs : Nat := 0
  connectSessionExpiryInterval : Nat := 0
  keepAliveMs : Nat := 0
  highQosSendLimit : Nat := 0
  highQosRecvLimit : Nat := 0
  maxRecvTopicAlias : Nat := 0
  maxSendTopicAlias : Nat := 0
  maxRecvPacketSize : Nat := 0
  maxSendPacketSize : Nat := 0
  pubMaxQos : Qos := .exactlyOnceDelivery
  problemInfoAllowed : Bool := false
  connected : Bool := false
  disconnecting : Bool := false
  wildcardSubAvailable : Bool := false
  subIdsAvailable : Bool := false
  retainAvailable : Bool := false
  sharedSubsAvailable : Bool := false
  deriving DecidableEq, Repr

structure ReuseState where
  subFilters : List Str := []
  deriving DecidableEq, Repr

/-! ## Callback data -/

structure PublishResponse where
  reasonCode : ReasonCode := ReasonCode.success
  reasonStr : Option Str := none
  userProps : List UserProp := []
  deriving DecidableEq, Repr

/-- `CC_Mqtt5SubscribeResponse` and `CC_Mqtt5UnsubscribeResponse`. -/
structure CodesResponse where
  reasonCodes : List ReasonCode := []
  reasonStr : Option Str := none
  userProps : List UserProp := []
  deriving DecidableEq, Repr

structure ConnectResponse where
  reasonCode : ReasonCode := ReasonCode.success
  assignedClientId : Option Str := none
  responseInfo : Option Str := none
  reasonStr : Option Str := none
  serverRef : Option Str := none
  authData : Option Bytes := none
  userProps : List UserProp := []
  sessionExpiryInterval : Nat := 0
  highQosSendLimit : Nat := 0
  maxPacketSize : Nat := 0
  topicAliasMax : Nat := 0
  maxQos : Qos := .exactlyOnceDelivery
  sessionPresent : Bool := false
  retainAvailable : Bool := false
  wildcardSubAvailable : Bool := false
  subIdsAvailable : Bool := false
  sharedSubsAvailable : Bool := false
  deriving DecidableEq, Repr

structure DisconnectInfo where
  reasonCode : ReasonCode := ReasonCode.success
  reasonStr : Option Str := none
  serverRef : Option Str := none
  userProps : List UserProp := []
  deriving DecidableEq, Repr

/-- `CC_Mqtt5AuthInfo` as passed to the application. -/
structure AuthReport where
  authData : Option Bytes := none
  reasonStr : Option Str := none
  userProps : List UserProp := []
  deriving DecidableEq, Repr

structure MessageInfo where
  topic : Str
  data : Bytes
  responseTopic : Option Str
  correlationData : Option Bytes
  userProps : List UserProp
  contentType : Option Str
  subIds : List Nat
  messageExpiryInterval : Nat
  qos : Qos
  format : Nat
  retained : Bool
  deriving DecidableEq, Repr

/-- The publish behind an output packet with the topic the application configured for it. -/
structure PublishSource where
  id : OpId
  configured : Option Str
  deriving DecidableEq, Repr

/-- What the library hands to the application: callbacks and the error codes its functions
return. The publish behind an output packet and the `publishSend`, `sendOpErased` and `connectivity`
entries are bookkeeping and carry no data of the source; the last one is a change of `m_connected`. -/
inductive Event where
  | output (msg : OutMsg) (source : Option PublishSource)
  | connectCb (status : AsyncOpStatus) (response : Option ConnectResponse)
  | subscribeCb (op : OpId) (status : AsyncOpStatus) (response : Option CodesResponse)
  | unsubscribeCb (op : OpId) (status : AsyncOpStatus) (response : Option CodesResponse)
  | publishCb (op : OpId) (status : AsyncOpStatus) (response : Option PublishResponse)
  | reauthCb (status : AsyncOpStatus) (response : Option AuthReport)
  | authCb (info : AuthReport)
  | brokerDisconnectReport (reason : BrokerDisconnectReason) (info : Option DisconnectInfo)
  | messageReceived (info : MessageInfo)
  | errorLog (msg : String)
  | nextTickProgram (ms : Nat)
  | cancelNextTickWait
  | apiReturn (ec : ErrorCode)
  | publishSend (op : OpId) (qos : Qos)
  | sendOpErased (op : OpId)
  | connectivity (up : Bool)
  deriving DecidableEq, Repr

/-- Where an assertion fails or a destroyed object is used. -/
inductive Site where
  | allocPubTopicAlias
  | allowNextPrepare
  | apiHandle
  | brokerConnected
  | configBasic
  | confirmRegisteredAlias
  | doSendInternal
  | eraseFromList
  | opComplete
  | opCompleteInternal
  | postReconnectionResend
  | processData
  | recvOp
  | releasePacketId
  | resendDupMsg
  | responseTimeout
  | send
  | sendAck
  | sessionExpiry
  | tick
  | timer
  deriving DecidableEq, Repr

inductive Fault where
  | assertFailed (site : Site)
  | useAfterFree (site : Site)
  | nullPointer
  deriving DecidableEq, Repr

/-- Which of the application's callbacks are registered. -/
structure Callbacks where
  nextTickProgram : Bool := true
  cancelNextTickWait : Bool := true
  sendOutputData : Bool := true
  brokerDisconnectReport : Bool := true
  messageReceivedReport : Bool := true
  deriving DecidableEq, Repr

/-- `ClientImpl`. The field `counts` is bookkeeping: the in-flight counter and the number of published
publishes at every callback, in the order of `log`. -/
structure Client where
  callbacks : Callbacks := {}
  configState : ConfigState := {}
  clientState : ClientState := {}
  sessionState : SessionState := {}
  reuseState : ReuseState := {}
  timerMgr : TimerMgr := {}
  apiEnterCount : Nat := 0
  connectOps : List ConnectOp := []
  keepAliveOps : List KeepAliveOp := []
  disconnectOps : List DisconnectOp := []
  subscribeOps : List SubscribeOp := []
  unsubscribeOps : List UnsubscribeOp := []
  recvOps : List RecvOp := []
  sendOps : List SendOp := []
  reauthOps : List ReauthOp := []
  ops : List (Option OpRef) := []
  sessionExpiryTimer : Option Nat := none
  opsDeleted : Bool := false
  preparationLocked : Bool := false
  log : List Event := []
  counts : List (Nat × Nat) := []
  faults : List Fault := []
  nextOpId : OpId := 0

namespace Client

/-- `ClientImpl::ClientImpl()`: the session expiry timer takes the first slot. -/
def init (cbs : Callbacks) (config : ConfigState) : Client :=
  { callbacks := cbs, configState := config,
    timerMgr := ⟨[{ allocated := true }], 1⟩, sessionExpiryTimer := some 0 }

/-! ## Elementary updates -/

/-- The number of publishes that were transmitted and wait for their acknowledgement. -/
def publishedCount (s : Client) : Nat := s.sendOps.countP (·.published)

def emit (e : Event) (s : Client) : Client :=
  { s with
    log := s.log ++ [e]
    counts := s.counts ++ [(s.clientState.inFlightSends, s.publishedCount)] }

def errorLog (msg : String) (s : Client) : Client := s.emit (.errorLog msg)

def fault (f : Fault) (s : Client) : Client := { s with faults := s.faults ++ [f] }

/-- `COMMS_ASSERT(cond)`. -/
def assert (site : Site) (cond : Bool) (s : Client) : Client :=
  if cond then s else s.fault (.assertFailed site)

def timerWait (timer : Option Nat) (ms : Nat) (cb : TimeoutCb) (s : Client) : Client :=
  { s with timerMgr := s.timerMgr.wait timer ms cb }

def timerCancel (timer : Option Nat) (s : Client) : Client :=
  { s with timerMgr := s.timerMgr.cancel timer }

def timerSetSuspended (timer : Option Nat) (suspended : Bool) (s : Client) : Client :=
  { s with timerMgr := s.timerMgr.setSuspended timer suspended }

/-- `~Timer`. -/
def timerFree (timer : Option Nat) (s : Client) : Client :=
  { s with timerMgr := s.timerMgr.freeTimer timer }

/-- `TimerMgr::allocTimer` in an operation's constructor. -/
def timerAlloc (env : Env) (s : Client) : Client × Option Nat :=
  let r := s.timerMgr.allocTimer env.cfg.timersLimit
  ({ s with timerMgr := r.1 }, r.2)

/-- The events the application saw since an earlier state of the same run. -/
def eventsSince (old new : Client) : List Event := new.log.drop old.log.length

end Client

end Mqtt5
