import Mqtt5Client.State

/-!
# Mqtt5Client — the services operations use

`ClientImpl::sendMessage` with the keep alive hook, packet identifiers (`Op::allocPacketId` /
`releasePacketId`), the `m_ops` bookkeeping of `ClientImpl::opComplete`, topic verification, and
the ordered look-up of the send alias table.
-/

namespace Mqtt5

namespace Client

/-! ## Output -/

/-- `KeepAliveOp::restartPingTimer`. -/
def restartPingTimer (op : KeepAliveOp) (s : Client) : Client :=
  if s.sessionState.keepAliveMs = 0 then s
  else s.timerWait op.pingTimer s.sessionState.keepAliveMs (.keepAlivePing op.id)

/-- `KeepAliveOp::restartRecvTimer`. -/
def restartRecvTimer (op : KeepAliveOp) (s : Client) : Client :=
  if s.sessionState.keepAliveMs = 0 then s
  else s.timerWait op.recvTimer s.sessionState.keepAliveMs (.keepAliveRecv op.id)

/-- `KeepAliveOp::messageSent` on every keep alive operation. -/
def keepAliveMessageSent (s : Client) : Client :=
  s.keepAliveOps.foldl (fun s op => s.restartPingTimer op) s

/-- `KeepAliveOp::handle(ProtMessage&)` on every keep alive operation. -/
def keepAliveMessageReceived (s : Client) : Client :=
  s.keepAliveOps.foldl (fun s op => s.restartRecvTimer op) s

/-- `ClientImpl::sendMessage`. Serialising a packet into a buffer of its own length succeeds. -/
def sendMessage (env : Env) (msg : OutMsg) (source : Option PublishSource) (s : Client) :
    Client × ErrorCode :=
  let len := env.frameLength msg
  if 0 < s.sessionState.maxSendPacketSize ∧ s.sessionState.maxSendPacketSize < len then
    (s.errorLog "The packet length exceeds limit set by the broker.", .badParam)
  else if 0 < env.cfg.maxOutputPacketSize ∧ env.cfg.maxOutputPacketSize < len then
    (s.errorLog "Output buffer overflow.", .bufferOverflow)
  else
    ((s.emit (.output msg source)).keepAliveMessageSent, .success)

/-- `sendMessage` where the caller ignores the result. -/
def post (env : Env) (msg : OutMsg) (s : Client) : Client := (s.sendMessage env msg none).1

/-- `ClientImpl::sendDisconnectMsg` and `Op::sendDisconnectWithReason`. -/
def sendDisconnectMsg (env : Env) (reason : ReasonCode) (s : Client) : Client :=
  s.post env (.disconnect { reasonCode := some reason, props := some [] })

/-! ## Packet identifiers -/

/-- The search loop of `Op::allocPacketId`: the identifier is a `std::uint16_t`. -/
def nextFreePacketId (ids : List Nat) : Nat → Nat → Nat
  | 0, next => next
  | fuel + 1, next =>
    if next ∈ ids then nextFreePacketId ids fuel ((next + 1) % 65536) else next

/-- Insert at the `std::lower_bound` position. -/
def insertSorted (ids : List Nat) (id : Nat) : List Nat :=
  ids.takeWhile (· < id) ++ id :: ids.dropWhile (· < id)

/-- `Op::allocPacketId`. -/
def allocPacketId (env : Env) (s : Client) : Client × Nat :=
  let ids := s.clientState.allocatedPacketIds
  if isFull env.cfg.packetIdsLimit ids.length || 65535 ≤ ids.length then
    (s.errorLog "No more available packet IDs for allocation", 0)
  else
    let first := (s.clientState.lastPacketId + 1) % 65536
    let next := nextFreePacketId ids 65536 (if first = 0 then 1 else first)
    ({ s with clientState := { s.clientState with
        allocatedPacketIds := insertSorted ids next, lastPacketId := next } }, next)

/-- `Op::releasePacketId`. -/
def releasePacketId (id : Nat) (s : Client) : Client :=
  if id = 0 then s
  else if id ∈ s.clientState.allocatedPacketIds then
    { s with clientState := { s.clientState with
        allocatedPacketIds := s.clientState.allocatedPacketIds.erase id } }
  else s.fault (.assertFailed .releasePacketId)

/-! ## The operation registry -/

/-- `m_ops.push_back`, with the identity of the new operation. The capacity of a build without dynamic
memory is a condition of the results that rest on it. -/
def registerOp (type : OpType) (s : Client) : Client :=
  { s with ops := s.ops ++ [some ⟨type, s.nextOpId⟩], nextOpId := s.nextOpId + 1 }

/-- Replace the first occurrence of a pointer by `nullptr`. -/
def nullify (ref : OpRef) : List (Option OpRef) → List (Option OpRef)
  | [] => []
  | p :: ps => if p = some ref then none :: ps else p :: nullify ref ps

/-- The first half of `ClientImpl::opComplete`: the pointer becomes null until the outermost API
exit. `none` when the operation is not registered. -/
def unregisterOp (ref : OpRef) (s : Client) : Option Client :=
  if some ref ∈ s.ops then
    some { s with ops := nullify ref s.ops, opsDeleted := true }
  else none

/-- `ClientImpl::cleanOps`. -/
def cleanOps (s : Client) : Client :=
  if s.opsDeleted then { s with ops := s.ops.filter (·.isSome), opsDeleted := false } else s

/-- `ClientImpl::allowNextPrepare`. -/
def allowNextPrepare (s : Client) : Client :=
  { s.assert .allowNextPrepare s.preparationLocked with preparationLocked := false }

/-! ## Completion of the operations that are not publishes

Erasing an operation destroys it: its timers are freed and a packet identifier is released. -/

/-- `ClientImpl::opComplete` followed by the type's `opComplete_…`, which erases the operation
from its list with `erase`. -/
def opCompleteWith (ref : OpRef) (erase : Client → Client) (s : Client) : Client :=
  match s.unregisterOp ref with
  | none => s.fault (.assertFailed .opComplete)
  | some s => erase s

/-- `opComplete_Connect`. -/
def eraseConnectOp (id : OpId) (s : Client) : Client :=
  match s.connectOps.find? (·.id == id) with
  | none => s.fault (.assertFailed .eraseFromList)
  | some op =>
    { s with connectOps := s.connectOps.eraseP (·.id == id) }.timerFree op.timer

/-- `opComplete_KeepAlive`. -/
def eraseKeepAliveOp (id : OpId) (s : Client) : Client :=
  match s.keepAliveOps.find? (·.id == id) with
  | none => s.fault (.assertFailed .eraseFromList)
  | some op =>
    (({ s with keepAliveOps := s.keepAliveOps.eraseP (·.id == id) }.timerFree
      op.respTimer).timerFree op.recvTimer).timerFree op.pingTimer

/-- `opComplete_Disconnect`. -/
def eraseDisconnectOp (id : OpId) (s : Client) : Client :=
  match s.disconnectOps.find? (·.id == id) with
  | none => s.fault (.assertFailed .eraseFromList)
  | some _ => { s with disconnectOps := s.disconnectOps.eraseP (·.id == id) }

/-- `opComplete_Subscribe`. -/
def eraseSubscribeOp (id : OpId) (s : Client) : Client :=
  match s.subscribeOps.find? (·.id == id) with
  | none => s.fault (.assertFailed .eraseFromList)
  | some op =>
    ({ s with subscribeOps := s.subscribeOps.eraseP (·.id == id) }.releasePacketId
      op.subMsg.packetId).timerFree op.timer

/-- `opComplete_Unsubscribe`. -/
def eraseUnsubscribeOp (id : OpId) (s : Client) : Client :=
  match s.unsubscribeOps.find? (·.id == id) with
  | none => s.fault (.assertFailed .eraseFromList)
  | some op =>
    ({ s with unsubscribeOps := s.unsubscribeOps.eraseP (·.id == id) }.releasePacketId
      op.unsubMsg.packetId).timerFree op.timer

/-- `opComplete_Recv`. -/
def eraseRecvOp (id : OpId) (s : Client) : Client :=
  match s.recvOps.find? (·.id == id) with
  | none => s.fault (.assertFailed .eraseFromList)
  | some op => { s with recvOps := s.recvOps.eraseP (·.id == id) }.timerFree op.responseTimer

/-- `opComplete_Reauth`. -/
def eraseReauthOp (id : OpId) (s : Client) : Client :=
  match s.reauthOps.find? (·.id == id) with
  | none => s.fault (.assertFailed .eraseFromList)
  | some op =>
    { s with reauthOps := s.reauthOps.eraseP (·.id == id) }.timerFree op.timer

def opCompleteConnect (id : OpId) : Client → Client :=
  opCompleteWith ⟨.connect, id⟩ (eraseConnectOp id)

def opCompleteKeepAlive (id : OpId) : Client → Client :=
  opCompleteWith ⟨.keepAlive, id⟩ (eraseKeepAliveOp id)

def opCompleteDisconnect (id : OpId) : Client → Client :=
  opCompleteWith ⟨.disconnect, id⟩ (eraseDisconnectOp id)

def opCompleteSubscribe (id : OpId) : Client → Client :=
  opCompleteWith ⟨.subscribe, id⟩ (eraseSubscribeOp id)

def opCompleteUnsubscribe (id : OpId) : Client → Client :=
  opCompleteWith ⟨.unsubscribe, id⟩ (eraseUnsubscribeOp id)

def opCompleteRecv (id : OpId) : Client → Client :=
  opCompleteWith ⟨.recv, id⟩ (eraseRecvOp id)

def opCompleteReauth (id : OpId) : Client → Client :=
  opCompleteWith ⟨.reauth, id⟩ (eraseReauthOp id)

/-! ## Topics -/

/-- `Op::verifyPubTopicInternal`. -/
def verifyPubTopic (env : Env) (topic : Str) (outgoing : Bool) (s : Client) : Client × Bool :=
  if !env.cfg.hasTopicFormatVerification then (s, true)
  else if outgoing && !s.configState.verifyOutgoingTopic then (s, true)
  else if !outgoing && !s.configState.verifyIncomingTopic then (s, true)
  else if topic = [] then (s, false)
  else if outgoing && topic.head? == some '$' then
    (s.errorLog "Cannot start topic with '$'.", false)
  else if topic.any (fun ch => ch == '#' || ch == '+') then
    (s.errorLog "Wildcards cannot be used in publish topic", false)
  else (s, true)

end Client

/-- `std::lower_bound` by topic on the send alias table. -/
def lowerBound (table : List TopicAliasInfo) (topic : Str) : Nat :=
  table.findIdx (fun info => !decide (info.topic < topic))

/-- The entry of a topic: the lower bound, when it holds that very topic. -/
def findTopicAlias (table : List TopicAliasInfo) (topic : Str) : Option TopicAliasInfo :=
  match table[lowerBound table topic]? with
  | some info => if info.topic = topic then some info else none
  | none => none

end Mqtt5
