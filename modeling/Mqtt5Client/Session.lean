import Mqtt5Client.SendOp

/-!
# Mqtt5Client — connecting and disconnecting

`brokerConnected`, `brokerDisconnected`, the session expiry timeout and the virtual calls they make
on the registered operations. The range based loops over `m_ops` and `m_sendOps` keep their end
from before the first round while the rounds complete (and erase) operations, so they are loops
over positions here: a position is looked up in the state of its own round.
-/

namespace Mqtt5

/-- The operations that outlive a disconnection. -/
def OpRef.isSendRecv (ref : OpRef) : Bool := ref.type == .send || ref.type == .recv

namespace Client

/-! ## Completion with a callback -/

/-- `ConnectOp::completeOpInternal`. -/
def connectComplete (op : ConnectOp) (status : AsyncOpStatus) (response : Option ConnectResponse)
    (s : Client) : Client :=
  let s := s.opCompleteConnect op.id
  if op.cb then s.emit (.connectCb status response) else s

/-- `SubscribeOp::completeOpInternal`. -/
def subscribeComplete (op : SubscribeOp) (status : AsyncOpStatus)
    (response : Option CodesResponse) (s : Client) : Client :=
  let s := s.opCompleteSubscribe op.id
  if op.cb then s.emit (.subscribeCb op.id status response) else s

/-- `UnsubscribeOp::completeOpInternal`. -/
def unsubscribeComplete (op : UnsubscribeOp) (status : AsyncOpStatus)
    (response : Option CodesResponse) (s : Client) : Client :=
  let s := s.opCompleteUnsubscribe op.id
  if op.cb then s.emit (.unsubscribeCb op.id status response) else s

/-- `ReauthOp::completeOpInternal`. -/
def reauthComplete (op : ReauthOp) (status : AsyncOpStatus) (response : Option AuthReport)
    (s : Client) : Client :=
  let s := s.opCompleteReauth op.id
  if op.cb then s.emit (.reauthCb status response) else s

/-! ## Looking an operation up

A pointer to an operation that no longer exists is a use after free. -/

def connectOp? (s : Client) (id : OpId) : Option ConnectOp := s.connectOps.find? (·.id == id)

def keepAliveOp? (s : Client) (id : OpId) : Option KeepAliveOp :=
  s.keepAliveOps.find? (·.id == id)

def disconnectOp? (s : Client) (id : OpId) : Option DisconnectOp :=
  s.disconnectOps.find? (·.id == id)

def subscribeOp? (s : Client) (id : OpId) : Option SubscribeOp :=
  s.subscribeOps.find? (·.id == id)

def unsubscribeOp? (s : Client) (id : OpId) : Option UnsubscribeOp :=
  s.unsubscribeOps.find? (·.id == id)

def recvOp? (s : Client) (id : OpId) : Option RecvOp := s.recvOps.find? (·.id == id)

def reauthOp? (s : Client) (id : OpId) : Option ReauthOp := s.reauthOps.find? (·.id == id)

/-- Use the object behind a pointer. -/
def withOp {α : Type} (op : Option α) (site : Site) (f : α → Client → Client) (s : Client) :
    Client :=
  match op with
  | none => s.fault (.useAfterFree site)
  | some op => f op s

variable (env : Env)

/-! ## Virtual calls -/

/-- `Op::terminateOp`. Receive, keep alive and disconnect operations have no callback. -/
def terminateOp (status : AsyncOpStatus) (ref : OpRef) (s : Client) : Client :=
  match ref.type with
  | .connect => s.withOp (s.connectOp? ref.id) .opComplete (connectComplete · status none)
  | .keepAlive => s.opCompleteKeepAlive ref.id
  | .disconnect => s.opCompleteDisconnect ref.id
  | .subscribe => s.withOp (s.subscribeOp? ref.id) .opComplete (subscribeComplete · status none)
  | .unsubscribe =>
    s.withOp (s.unsubscribeOp? ref.id) .opComplete (unsubscribeComplete · status none)
  | .recv => s.opCompleteRecv ref.id
  | .send => s.withOp (s.sendOp? ref.id) .opComplete (sendOpCompleteWithCb env · status none)
  | .reauth => s.withOp (s.reauthOp? ref.id) .opComplete (reauthComplete · status none)

/-- `RecvOp::connectivityChangedImpl`. -/
def recvOpConnectivityChanged (op : RecvOp) (s : Client) : Client :=
  s.timerSetSuspended op.responseTimer
    (!s.sessionState.connected || s.clientState.networkDisconnected)

/-- `ConnectOp::connectivityChangedImpl`. -/
def connectOpConnectivityChanged (op : ConnectOp) (s : Client) : Client :=
  if s.clientState.networkDisconnected then s.connectComplete op .brokerDisconnected none else s

/-- `Op::connectivityChanged`. -/
def connectivityChanged (ref : OpRef) (s : Client) : Client :=
  match ref.type with
  | .connect => s.withOp (s.connectOp? ref.id) .opComplete connectOpConnectivityChanged
  | .recv => s.withOp (s.recvOp? ref.id) .opComplete recvOpConnectivityChanged
  | .send => s.withOp (s.sendOp? ref.id) .opComplete sendOpConnectivityChanged
  | _ => s

/-! ## Loops over `m_ops` -/

/-- One round of a loop over `m_ops` that skips null pointers. -/
def visitOp (f : OpRef → Client → Client) (s : Client) (idx : Nat) : Client :=
  match s.ops[idx]? with
  | some (some ref) => f ref s
  | _ => s

/-- `for (auto* op : m_ops) { if (op == nullptr) continue; f(op); }` -/
def forEachOp (f : OpRef → Client → Client) (s : Client) : Client :=
  (List.range s.ops.length).foldl (visitOp f) s

/-- `ClientImpl::terminateOps`; `keep` is `TerminateMode_KeepSendRecvOps`. -/
def terminateOps (status : AsyncOpStatus) (keep : Bool) (s : Client) : Client :=
  s.forEachOp fun ref s =>
    if keep && ref.isSendRecv then s else s.terminateOp env status ref

/-- `ClientImpl::sessionExpiryTimeoutInternal`. -/
def sessionExpiryTimeout (s : Client) : Client :=
  (s.assert .sessionExpiry (!s.sessionState.connected)).forEachOp fun ref s =>
    if ref.isSendRecv then s.terminateOp env .brokerDisconnected ref else s

/-! ## Disconnection -/

/-- The `preserveSendRecv` decision of `brokerDisconnected`. -/
def preserveSendRecv (s : Client) : Bool :=
  decide (0 < s.sessionState.sessionExpiryIntervalMs) &&
    (!s.recvOps.isEmpty || !s.sendOps.isEmpty)

/-- The timer part of `brokerDisconnected`. -/
def startSessionExpiry (s : Client) : Client :=
  if s.sessionState.sessionExpiryIntervalMs ≠ sessionNeverExpires * 1000 then
    s.timerWait s.sessionExpiryTimer s.sessionState.sessionExpiryIntervalMs .sessionExpiry
  else s

/-- The bookkeeping of the end of a connection, when there is one. -/
def leaveConnection (s : Client) : Client :=
  if s.sessionState.connected then s.emit (.connectivity false) else s

/-- The flags `brokerDisconnected` changes before it terminates the operations. -/
def markDisconnecting (s : Client) : Client :=
  let s := s.leaveConnection
  { s with
    clientState := { s.clientState with initialized := false },
    sessionState := { s.sessionState with connected := false, disconnecting := true } }

/-- `ClientImpl::brokerDisconnected`; a missing reason is the `ValuesLimit` default. -/
def brokerDisconnected (reason : Option BrokerDisconnectReason)
    (status : AsyncOpStatus) (info : Option DisconnectInfo) (s : Client) : Client :=
  let keep := s.preserveSendRecv
  -- publishes and receptions outlive the connection with the session
  let s := s.markDisconnecting.terminateOps env status keep
  let s := if keep then (s.forEachOp connectivityChanged).startSessionExpiry else s
  match reason with
  | none => s
  | some reason => s.emit (.brokerDisconnectReport reason info)

/-- `Op::terminationWithReasonStatic`. -/
def terminationWithReason (reason : ReasonCode) (s : Client) : Client :=
  let report : BrokerDisconnectReason :=
    if reason = ReasonCode.implSpecificError then .internalError else .protocolError
  (s.sendDisconnectMsg env reason).brokerDisconnected env (some report) .brokerDisconnected none

/-- `Op::protocolErrorTermination`. -/
def protocolErrorTermination (s : Client) : Client :=
  s.terminationWithReason env ReasonCode.protocolError

/-! ## Connection -/

/-- `ClientImpl::createKeepAliveOpIfNeeded` with the `KeepAliveOp` constructor. -/
def createKeepAliveOpIfNeeded (s : Client) : Client :=
  if !s.keepAliveOps.isEmpty then s
  else if isFull env.cfg.singleOpLimit s.keepAliveOps.length then
    s.fault (.assertFailed .brokerConnected)
  else
    -- `m_ops` is not asked for room
    let ping := s.timerAlloc env
    let recv := ping.1.timerAlloc env
    let resp := recv.1.timerAlloc env
    let s := resp.1
    let s := s.assert .timer (ping.2.isSome && recv.2.isSome && resp.2.isSome)
    let op : KeepAliveOp :=
      { id := s.nextOpId, pingTimer := ping.2, recvTimer := recv.2, respTimer := resp.2 }
    { (s.restartPingTimer op).registerOp .keepAlive with keepAliveOps := s.keepAliveOps ++ [op] }

/-- One round of the resend loop of `brokerConnected`. -/
def resendAt (s : Client) (idx : Nat) : Client :=
  s.withOp s.sendOps[idx]? .brokerConnected (postReconnectionResend env)

/-- `RecvOp::postReconnectionResume`. -/
def postReconnectionResume (s : Client) (op : RecvOp) : Client :=
  (s.recvOpConnectivityChanged op).timerWait op.responseTimer s.configState.responseTimeoutMs
    (.recvTimeout op.id)

/-- The backward scan of `brokerConnected`: the first position of the postponed publishes that
end at `count`. -/
def resumeFrom (ops : List SendOp) : Nat → Nat
  | 0 => 0
  | count + 1 =>
    match ops[count]? with
    | some op => if op.paused then resumeFrom ops count else count + 1
    | none => count + 1

/-- The resumption part of `brokerConnected`. -/
def resumeAfterReconnect (s : Client) : Client :=
  let s := s.assert .brokerConnected (decide (0 < s.sessionState.highQosSendLimit))
  let untilIdx := min s.sessionState.highQosSendLimit s.sendOps.length
  let fromIdx := resumeFrom s.sendOps untilIdx
  if fromIdx < untilIdx then s.resumeSendOpsSince env fromIdx else s

/-- The session present branch of `brokerConnected`. -/
def resumeSession (s : Client) : Client :=
  let s := (List.range s.sendOps.length).foldl (resendAt env) s
  (s.recvOps.foldl postReconnectionResume s).resumeAfterReconnect env

/-- One round of the terminating loop of `brokerConnected`, which does not check for null
pointers. -/
def abortStoredAt (s : Client) (idx : Nat) : Client :=
  match s.ops[idx]? with
  | some (some ref) => if ref.isSendRecv then s.terminateOp env .aborted ref else s
  | _ => s.fault .nullPointer

/-- The other branch of `brokerConnected`: a stored session is dropped. -/
def abortStoredSession (s : Client) : Client :=
  (List.range s.ops.length).foldl (abortStoredAt env) s

/-- The state changes at the beginning of `brokerConnected`. -/
def markConnected (s : Client) : Client :=
  let s := s.timerCancel s.sessionExpiryTimer
  { s.emit (.connectivity true) with
    clientState := { s.clientState with firstConnect := false },
    sessionState := { s.sessionState with connected := true } }

def clearSendAliases (s : Client) : Client :=
  { s with clientState := { s.clientState with sendTopicAliases := [] } }

/-- `ClientImpl::brokerConnected`. -/
def brokerConnected (sessionPresent : Bool) (s : Client) : Client :=
  let s := s.markConnected
  let s := if sessionPresent then s.resumeSession env else s.abortStoredSession env
  s.clearSendAliases.createKeepAliveOpIfNeeded env

/-- The body of `ClientImpl::initInternal` behind the API guard. -/
def initInternal (s : Client) : Client × ErrorCode :=
  if !s.callbacks.sendOutputData || !s.callbacks.brokerDisconnectReport ||
      !s.callbacks.messageReceivedReport then
    s.fail "Hasn't set all must have callbacks" .notIntitialized
  else if s.callbacks.nextTickProgram != s.callbacks.cancelNextTickWait then
    s.fail "Hasn't set all timer management callbacks callbacks" .notIntitialized
  else
    -- those of a stored session are kept
    let s := s.terminateOps env .aborted true
    ({ s with sessionState := {}, clientState := { s.clientState with initialized := true } },
      .success)

end Client

end Mqtt5
