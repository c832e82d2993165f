import Mqtt5Client.SubscribeOp

/-!
# Mqtt5Client — `KeepAliveOp`, `DisconnectOp` and `ReauthOp`

The operations that live while the client is connected: pings and the handling of the broker's
DISCONNECT, the client's own DISCONNECT, and reauthentication.
-/

namespace Mqtt5

/-- `CC_Mqtt5DisconnectConfig`. -/
structure DisconnectConfig where
  reasonCode : ReasonCode := ReasonCode.success
  reasonStr : Option Str := none
  sessionExpiryInterval : Option Nat := none
  deriving DecidableEq, Repr

namespace Client

variable (env : Env)

/-! ## `KeepAliveOp` -/

/-- `KeepAliveOp::handle(PingrespMsg&)`. -/
def keepAliveHandlePingresp (op : KeepAliveOp) (s : Client) : Client :=
  (s.timerCancel op.respTimer).restartRecvTimer op

/-- `KeepAliveOp::handle(DisconnectMsg&)`. -/
def keepAliveHandleDisconnect (op : KeepAliveOp) (msg : ReasonMsg) (valid : Bool) (s : Client) :
    Client :=
  let s := ((s.timerCancel op.pingTimer).timerCancel op.recvTimer).timerCancel op.respTimer
  if !valid then
    (s.sendDisconnectMsg env ReasonCode.malformedPacket).brokerDisconnected env
      (some .protocolError) .brokerDisconnected none
  else
    s.brokerDisconnected env (some .disconnectMsg) .brokerDisconnected
      (some (disconnectInfo env msg))

/-- `KeepAliveOp::sendPing`. -/
def sendPing (op : KeepAliveOp) (s : Client) : Client :=
  -- PINGREQ is under way
  if s.timerMgr.isActive op.respTimer then s
  else
    (s.post env .pingreq).timerWait op.respTimer s.configState.responseTimeoutMs
      (.keepAliveResp op.id)

/-- `KeepAliveOp::pingTimeoutInternal`. -/
def pingTimeout (op : KeepAliveOp) (s : Client) : Client :=
  (((s.errorLog "The broker did not respond to PING").assert .tick
    (!s.timerMgr.isActive op.respTimer)).sendDisconnectMsg env ReasonCode.keepAliveTimeout)
    |>.brokerDisconnected env (some .noBrokerResponse) .brokerDisconnected none

/-! ## `DisconnectOp` -/

def setDisconnectOp (op : DisconnectOp) (s : Client) : Client :=
  { s with disconnectOps := modifyFirst (·.id == op.id) (fun _ => op) s.disconnectOps }

/-- `DisconnectOp::configBasic`. -/
def disconnectConfigBasic (op : DisconnectOp) (config : DisconnectConfig) (s : Client) :
    Client × ErrorCode :=
  -- kept even when a property is refused
  let op := { op with reasonCode := config.reasonCode }
  let full := "Cannot add disconnect property, reached available limit."
  let r : (Client × ErrorCode) × PropsList :=
    match config.sessionExpiryInterval with
    | none => ((s, .success), op.props)
    | some v =>
      if 0 < v ∧ s.sessionState.connectSessionExpiryInterval = 0 then
        (s.fail ("Non-zero expiry interval in DISCONNECT is not allowed when zero expiry " ++
          "interval used in CONNECT.") .badParam, op.props)
      else s.addPropTo env op.props (.sessionExpiryInterval v) full none
  let r := andThenConfig r fun props s =>
    match config.reasonStr with
    | none => ((s, .success), props)
    | some v =>
      s.addPropTo env props (.reasonStr v) full (tooLongMsg v "Reason string value is too long")
  (r.1.1.setDisconnectOp { op with props := r.2 }, r.1.2)

/-- `DisconnectOp::addUserProp`. -/
def disconnectAddUserProp (op : DisconnectOp) (key value : Option Str) (s : Client) :
    Client × ErrorCode :=
  let r := s.addUserPropToList env op.props key value
  (r.1.1.setDisconnectOp { op with props := r.2, propsExist := true }, r.1.2)

/-- The message of `DisconnectOp::send`. A list marked as existing by `addUserProp` whose reason code
does not exist is empty: the property could not be added. -/
def disconnectMsg (op : DisconnectOp) : ReasonMsg :=
  if op.reasonCode ≠ ReasonCode.success ∨ op.props ≠ [] then
    { reasonCode := some op.reasonCode, props := some op.props }
  else if op.propsExist then { props := some [] }
  else {}

/-- `DisconnectOp::send` behind the API guard. -/
def disconnectSend (op : DisconnectOp) (s : Client) : Client :=
  ((s.post env (.disconnect (disconnectMsg op))).opCompleteDisconnect op.id).brokerDisconnected env
    none .brokerDisconnected none

/-- `DisconnectOp::cancel`. -/
def disconnectCancel (op : DisconnectOp) (s : Client) : Client :=
  s.allowNextPrepare.opCompleteDisconnect op.id

/-! ## `ReauthOp` -/

def setReauthOp (op : ReauthOp) (s : Client) : Client :=
  { s with reauthOps := modifyFirst (·.id == op.id) (fun _ => op) s.reauthOps }

/-- `ReauthOp::configAuth`. -/
def reauthConfigAuth (op : ReauthOp) (config : AuthConfig) (s : Client) : Client × ErrorCode :=
  let full := "Cannot add connect auth property, reached available limit."
  let method := s.sessionState.authMethod
  if !config.authCb then s.fail "Reauth callback is not provided." .badParam
  else if config.authMethod.isSome && config.authMethod != some method then
    s.fail "Authentication method must match the one used during CONNECT." .badParam
  else
    let r := s.addPropTo env (op.authMsg.props.getD []) (.authMethod method) full none
    let r := andThenConfig r fun props s =>
      if config.authDataLen = 0 then ((s, .success), props)
      else
        match config.authData with
        | none => (s.fail "Bad authentication data parameter." .badParam, props)
        | some data =>
          s.addPropTo env props (.authData data) full
            (tooLongMsg data "Auth data value is too big.")
    (r.1.1.setReauthOp
      { op with authCb := true,
                authMsg := { reasonCode := some ReasonCode.reAuth, props := some r.2 } }, r.1.2)

/-- `ReauthOp::addUserProp`. -/
def reauthAddUserProp (op : ReauthOp) (key value : Option Str) (s : Client) : Client × ErrorCode :=
  let r := s.addUserPropToList env (op.authMsg.props.getD []) key value
  (r.1.1.setReauthOp { op with authMsg := { op.authMsg with props := some r.2 } }, r.1.2)

/-- `ReauthOp::restartTimer`. -/
def restartReauthTimer (op : ReauthOp) (s : Client) : Client :=
  s.timerWait op.timer op.responseTimeoutMs (.reauthTimeout op.id)

/-- `ReauthOp::send` up to the API guard. -/
def reauthSend (op : ReauthOp) (cb : Bool) (s : Client) : Client × ErrorCode × Bool :=
  let op := { op with sent := true }
  let s := s.allowNextPrepare.setReauthOp op
  let complete := opCompleteReauth op.id
  if !cb then s.abandon complete "Connect completion callback is not provided." .badParam
  else if op.timer.isNone then
    s.abandon complete "The library cannot allocate required number of timers." .internalError
  else if !op.authCb then
    s.abandon complete "Authentication hasn't been configred." .insufficientConfig
  else
    let r := (s.setReauthOp { op with cb := true }).sendMessage env (.auth op.authMsg) none
    if r.2 ≠ .success then (complete r.1, r.2, false) else (r.1, .success, true)

/-- `ReauthOp::cancel`. -/
def reauthCancel (op : ReauthOp) (s : Client) : Client :=
  (if op.cb then s else s.allowNextPrepare).opCompleteReauth op.id

/-- The checks of `ReauthOp::handle(AuthMsg&)` before the application is asked. -/
def reauthError (msg : ReasonMsg) (s : Client) : Option String :=
  let h := PropsHandler.ofProps env.cfg (msg.props.getD [])
  let rc := msg.reasonCode.getD ReasonCode.success
  if rc ≠ ReasonCode.continueAuth ∧ rc ≠ ReasonCode.success then
    some "Unexpected reason code in reauthentication AUTH"
  else if msg.props.isNone then none
  else if h.protocolError then some "Protocol error in AUTH properties"
  else if h.authMethod.isSome && h.authMethod != some s.sessionState.authMethod then
    some "Invalid authentication method in AUTH."
  else if h.authMethod.isNone then some "No authentication method in AUTH."
  else if h.reasonStr.isSome && !s.sessionState.problemInfoAllowed then
    some "Received reason string in AUTH when \"problem information\" was disabled in CONNECT."
  else if !h.userProps.isEmpty && !s.sessionState.problemInfoAllowed then
    some "Received user properties in AUTH when \"problem information\" was disabled in CONNECT."
  else none

/-- The scope guards of `ReauthOp::handle(AuthMsg&)`. -/
def reauthGiveUp (op : ReauthOp) (status : AsyncOpStatus) (reason : ReasonCode) (s : Client) :
    Client :=
  (s.reauthComplete op status none).terminationWithReason env reason

/-- `ReauthOp::handle(AuthMsg&)`. -/
def reauthHandleAuth (op : ReauthOp) (msg : ReasonMsg) (reply : AuthReply) (s : Client) : Client :=
  let s := s.timerCancel op.timer
  let info := authReport env (PropsHandler.ofProps env.cfg (msg.props.getD []))
  match s.reauthError env msg with
  | some text => (s.errorLog text).reauthGiveUp env op .protocolError ReasonCode.protocolError
  | none =>
    -- the broker is content
    if msg.reasonCode.getD ReasonCode.success = ReasonCode.success then
      s.reauthComplete op .complete (some info)
    else
      let s := s.emit (.authCb info)
      match reply with
      | .disconnect => s.reauthGiveUp env op .aborted ReasonCode.notAuthorized
      | .continue out =>
        let texts : AuthTexts :=
          { full := "Cannot add auth property, reached available limit.",
            reasonTooLong := "Auth reason string is too long",
            badUserProps := some "Bad user properties pointer in AUTH" }
        let r := s.authResponseProps env texts s.sessionState.authMethod out
        match r.1.2 with
        | some status => r.1.1.reauthGiveUp env op status ReasonCode.unspecifiedError
        | none =>
          let resp : ReasonMsg :=
            { reasonCode := some ReasonCode.continueAuth, props := some r.2 }
          let sent := r.1.1.sendMessage env (.auth resp) none
          if sent.2 ≠ .success then
            (sent.1.errorLog "Failed to send AUTH message in reauth").reauthGiveUp env op
              .outOfMemory ReasonCode.unspecifiedError
          else sent.1.restartReauthTimer op

end Client

end Mqtt5
