import Mqtt5Client.RecvOp

/-!
# Mqtt5Client — `ConnectOp`

Configuration and sending of CONNECT, and the handlers of CONNACK, DISCONNECT and AUTH while the
connection is being established. The CONNACK handler fills the session state and hands over to
`brokerConnected`.
-/

namespace Mqtt5

/-! ## Configuration records

A buffer is a pointer and a length; a missing pointer with a non-zero length is checked for. -/

/-- `CC_Mqtt5ConnectBasicConfig`. -/
structure ConnectBasicConfig where
  clientId : Option Str := none
  username : Option Str := none
  password : Option Bytes := none
  passwordLen : Nat := 0
  keepAlive : Nat := 60
  cleanStart : Bool := false
  deriving DecidableEq, Repr

/-- `CC_Mqtt5ConnectWillConfig`. -/
structure ConnectWillConfig where
  topic : Option Str := none
  data : Option Bytes := none
  dataLen : Nat := 0
  contentType : Option Str := none
  responseTopic : Option Str := none
  correlationData : Option Bytes := none
  correlationDataLen : Nat := 0
  delayInterval : Nat := 0
  messageExpiryInterval : Nat := 0
  qos : Qos := .atMostOnceDelivery
  format : Nat := 0
  retain : Bool := false
  deriving DecidableEq, Repr

/-- `CC_Mqtt5ConnectExtraConfig`. -/
structure ConnectExtraConfig where
  sessionExpiryInterval : Nat := 0
  receiveMaximum : Nat := 0
  maxPacketSize : Nat := 0
  topicAliasMaximum : Nat := 0
  requestResponseInfo : Bool := false
  requestProblemInfo : Bool := false
  deriving DecidableEq, Repr

/-- `cc_mqtt5_client_connect_init_config_extra`; `10` is `SessionState::DefaultTopicAliasMax`. -/
def connectInitConfigExtra (cfg : Config) : ConnectExtraConfig where
  receiveMaximum := cfg.receiveMaxLimit
  topicAliasMaximum :=
    if cfg.hasTopicAliases then
      if cfg.topicAliasesLimit = 0 then 10 else cfg.topicAliasesLimit
    else 0

/-- `CC_Mqtt5AuthConfig`. -/
structure AuthConfig where
  authCb : Bool := false
  authMethod : Option Str := none
  authData : Option Bytes := none
  authDataLen : Nat := 0
  deriving DecidableEq, Repr

namespace Client

variable (env : Env)

/-- Store the changed operation. -/
def setConnectOp (op : ConnectOp) (s : Client) : Client :=
  { s with connectOps := modifyFirst (·.id == op.id) (fun _ => op) s.connectOps }

/-- Store the operation a configuration function leaves behind. -/
def storeConnect (r : (Client × ErrorCode) × ConnectOp) : Client × ErrorCode :=
  (r.1.1.setConnectOp r.2, r.1.2)

/-- Add one property to a list: the error texts are those of a full list and of a value that does
not fit. -/
def addPropTo (props : PropsList) (p : Property) (full : String) (tooLong : Option String)
    (s : Client) : (Client × ErrorCode) × PropsList :=
  match addProp env.cfg.propsLimit props p with
  | none => (s.fail full .outOfMemory, props)
  | some props' =>
    match tooLong with
    | some msg => (s.fail msg .badParam, props)
    | none => ((s, .success), props')

/-! ## Configuration -/

/-- `ConnectOp::configBasic`. -/
def connectConfigBasic (op : ConnectOp) (config : ConnectBasicConfig) (s : Client) :
    Client × ErrorCode :=
  let msg := op.connectMsg
  -- the fields in front of the one that is refused stay changed
  let done (msg : ConnectMsg) (text : String) :=
    storeConnect (s.fail text .badParam, { op with connectMsg := msg })
  if 0 < config.passwordLen ∧ config.password = none then
    s.fail "Bad password parameter in connect configuration." .badParam
  else if !config.cleanStart && s.clientState.firstConnect && s.configState.verifySubFilter then
    s.fail "Clean start flag needs to be set on the first connection attempt" .badParam
  else
    let clientId := config.clientId.getD []
    let msg := { msg with clientId := clientId }
    if maxStringLen < clientId.length then
      done { msg with clientId := [] } "Client ID is too long"
    else if clientId = [] ∧ !config.cleanStart then
      done msg "Clean start flag needs to be set for empty client id"
    else
      let msg := { msg with userName := config.username }
      if maxStringLen < (config.username.getD []).length then
        done { msg with userName := some [] } "Username is too long"
      else
        let password := if 0 < config.passwordLen then config.password else none
        let msg := { msg with password := password }
        if maxStringLen < (password.getD []).length then
          done { msg with password := some [] } "Password is too long"
        else
          let msg := { msg with cleanStart := config.cleanStart }
          if 65535 < config.keepAlive then
            done msg "Keep alive value is too high in connect configuration."
          else
            (s.setConnectOp { op with connectMsg := { msg with keepAlive := config.keepAlive } },
              .success)

/-- The properties part of `ConnectOp::configWill`. -/
def connectWillProps (config : ConnectWillConfig) (props : PropsList) (s : Client) :
    (Client × ErrorCode) × PropsList :=
  let keep (props : PropsList) (s : Client) := ((s, ErrorCode.success), props)
  let full := "Cannot add will property, reached available limit."
  let r :=
    if config.format ≠ 0 then
      s.addPropTo env props (.payloadFormatIndicator config.format) full none
    else keep props s
  let r := andThenConfig r fun props s =>
    if 0 < config.delayInterval then
      s.addPropTo env props (.willDelayInterval config.delayInterval) full none
    else keep props s
  let r := andThenConfig r fun props s =>
    if 0 < config.messageExpiryInterval then
      s.addPropTo env props (.messageExpiryInterval config.messageExpiryInterval) full none
    else keep props s
  let r := andThenConfig r fun props s =>
    match config.contentType with
    | none => keep props s
    | some v =>
      s.addPropTo env props (.contentType v) full (tooLongMsg v "Content type value is too long")
  let r := andThenConfig r fun props s =>
    match config.responseTopic with
    | none => keep props s
    | some v =>
      let t := s.verifyPubTopic env v true
      if !t.2 then (t.1.fail "Bad will response topic format in CONNECT." .badParam, props)
      else
        s.addPropTo env props (.responseTopic v) full
          (tooLongMsg v "Will response topic value is too long")
  andThenConfig r fun props s =>
    match config.correlationData with
    | none =>
      if 0 < config.correlationDataLen then
        (s.fail "Bad correlation data parameter in will configuration." .badParam, props)
      else keep props s
    | some v =>
      s.addPropTo env props (.correlationData v) full
        (tooLongMsg v "Will correlation data value is too long")

/-- `ConnectOp::configWill`. A will is flagged in the message only once its topic and its data
are accepted. -/
def connectConfigWill (op : ConnectOp) (config : ConnectWillConfig) (s : Client) :
    Client × ErrorCode :=
  let old := op.connectMsg.will
  let put (will : Option WillMsg) := { op with connectMsg := { op.connectMsg with will := will } }
  if 0 < config.dataLen ∧ config.data = none then
    s.fail "Bad data parameter in will configuration." .badParam
  else
    match config.topic with
    | none => s.fail "Will topic is not provided." .badParam
    | some [] => s.fail "Will topic is not provided." .badParam
    | some topic =>
      -- a value that is too long leaves its field empty, and the will as it was flagged
      if maxStringLen < topic.length then
        storeConnect (s.fail "Will topic is too long." .badParam,
          put (old.map ({ · with topic := [] })))
      else
        let data :=
          if 0 < config.dataLen then config.data.getD []
          else (old.map (·.payload)).getD []
        if maxStringLen < data.length then
          storeConnect (s.fail "Will data is too long." .badParam,
            put (old.map ({ · with topic := topic, payload := [] })))
        else
          let r := s.connectWillProps env config ((old.map (·.props)).getD [])
          storeConnect (r.1, put (some
            { topic := topic, payload := data, qos := config.qos, retain := config.retain,
              props := r.2 }))

/-- One property of `ConnectOp::configExtra`, with the member it is remembered in. -/
def connectAddProp (op : ConnectOp) (p : Property) (remember : ConnectOp → ConnectOp)
    (s : Client) : (Client × ErrorCode) × ConnectOp :=
  let r := s.addPropTo env op.connectMsg.props p
    "Cannot add connect property, reached available limit." none
  if r.1.2 = .success then
    (r.1, remember { op with connectMsg := { op.connectMsg with props := r.2 } })
  else (r.1, op)

/-- The topic alias part of `ConnectOp::configExtra`: the limit goes to the session state. -/
def connectAliasMaximum (op : ConnectOp) (maximum : Nat) (s : Client) :
    (Client × ErrorCode) × ConnectOp :=
  if !env.cfg.hasTopicAliases then
    (s.fail "Cannot add topic alias maximum property, reature is not supported." .badParam, op)
  else if maxTopicAliasesLimit < maximum then
    (s.fail "Topic alias maximum value is too high." .badParam, op)
  else
    let r := s.connectAddProp env op (.topicAliasMax maximum) id
    -- unlike the other limits this one does not wait for CONNACK
    if r.1.2 = .success then
      (({ r.1.1 with sessionState := { r.1.1.sessionState with maxRecvTopicAlias := maximum } },
        .success), r.2)
    else r

/-- `ConnectOp::configExtra`. The field of the Receive Maximum has 16 bits. -/
def connectConfigExtra (op : ConnectOp) (config : ConnectExtraConfig) (s : Client) :
    Client × ErrorCode :=
  let keep (op : ConnectOp) (s : Client) := ((s, ErrorCode.success), op)
  let r :=
    if 0 < config.sessionExpiryInterval then
      s.connectAddProp env op (.sessionExpiryInterval config.sessionExpiryInterval)
        ({ · with sessionExpiryInterval := config.sessionExpiryInterval })
    else keep op s
  let r := andThenConfig r fun op s =>
    if 0 < config.receiveMaximum then
      s.connectAddProp env op (.receiveMax (config.receiveMaximum % 65536))
        ({ · with highQosRecvLimit := config.receiveMaximum })
    else keep op s
  let r := andThenConfig r fun op s =>
    if 0 < config.maxPacketSize then
      if config.maxPacketSize < 5 then
        (s.fail "The \"Max Packet Size\" configuration value is too small." .badParam, op)
      else
        s.connectAddProp env op (.maxPacketSize config.maxPacketSize)
          ({ · with maxRecvPacketSize := config.maxPacketSize })
    else keep op s
  let r := andThenConfig r fun op s =>
    if 0 < config.topicAliasMaximum then s.connectAliasMaximum env op config.topicAliasMaximum
    else keep op s
  let r := andThenConfig r fun op s =>
    if config.requestResponseInfo then s.connectAddProp env op (.requestResponseInfo true) id
    else keep op s
  let r := andThenConfig r fun op s =>
    if config.requestProblemInfo then
      s.connectAddProp env op (.requestProblemInfo true) ({ · with requestProblemInfo := true })
    else keep op s
  storeConnect r

/-- `ConnectOp::configAuth`. -/
def connectConfigAuth (op : ConnectOp) (config : AuthConfig) (s : Client) : Client × ErrorCode :=
  let full := "Cannot add connect auth property, reached available limit."
  let put (op : ConnectOp) (props : PropsList) :=
    { op with connectMsg := { op.connectMsg with props := props } }
  match config.authCb, config.authMethod with
  | true, some method =>
    let op := { op with authCb := true }
    let r := s.addPropTo env op.connectMsg.props (.authMethod method) full
      (tooLongMsg method "Auth method value is too big.")
    if r.1.2 ≠ .success then storeConnect (r.1, op)
    else
      let op := { put op r.2 with authMethod := method }
      if 0 < config.authDataLen then
        match config.authData with
        | none =>
          storeConnect (r.1.1.fail "Bad authentication data parameter." .badParam, op)
        | some data =>
          let r := r.1.1.addPropTo env r.2 (.authData data) full
            (tooLongMsg data "Auth data value is too big.")
          storeConnect (r.1, put op r.2)
      else storeConnect (r.1, op)
  | _, _ => s.fail "Required authentication configuration is not provided." .badParam

/-- `ConnectOp::addUserProp`. -/
def connectAddUserProp (op : ConnectOp) (key value : Option Str) (s : Client) :
    Client × ErrorCode :=
  let r := s.addUserPropToList env op.connectMsg.props key value
  storeConnect (r.1, { op with connectMsg := { op.connectMsg with props := r.2 } })

/-- `ConnectOp::addWillUserProp`. -/
def connectAddWillUserProp (op : ConnectOp) (key value : Option Str) (s : Client) :
    Client × ErrorCode :=
  match op.connectMsg.will with
  | none => s.fail "Cannot add will user property before will configuration" .badParam
  | some will =>
    let r := s.addUserPropToList env will.props key value
    storeConnect (r.1,
      { op with connectMsg := { op.connectMsg with will := some { will with props := r.2 } } })

/-! ## Sending -/

/-- `ConnectOp::restartTimer`. -/
def restartConnectTimer (op : ConnectOp) (s : Client) : Client :=
  s.timerWait op.timer op.responseTimeoutMs (.connectTimeout op.id)

/-- An early return of a `send` function: log, and let the scope guard complete the operation. -/
def abandon (complete : Client → Client) (msg : String) (ec : ErrorCode) (s : Client) :
    Client × ErrorCode × Bool :=
  (complete (s.errorLog msg), ec, false)

/-- `ConnectOp::send` up to the API guard; `true` when the response timer is to be started. -/
def connectSend (op : ConnectOp) (cb : Bool) (s : Client) : Client × ErrorCode × Bool :=
  let op := { op with sent := true }
  let s := s.allowNextPrepare.setConnectOp op
  let complete := opCompleteConnect op.id
  -- the scope guard completes the operation on every failure
  if !cb then s.abandon complete "Connect completion callback is not provided." .badParam
  else if op.timer.isNone then
    s.abandon complete "The library cannot allocate required number of timers." .internalError
  else if !op.connectMsg.cleanStart && s.clientState.firstConnect &&
      s.configState.verifySubFilter then
    s.abandon complete
      "Clean start flag needs to be set on the first connection attempt, perform configuration first."
      .insufficientConfig
  else
    let s := s.setConnectOp { op with cb := true }
    let r := s.sendMessage env (.connect op.connectMsg) none
    if r.2 ≠ .success then (complete r.1, r.2, false) else (r.1, .success, true)

/-- `ConnectOp::cancel`. -/
def connectCancel (op : ConnectOp) (s : Client) : Client :=
  (if op.cb then s else s.allowNextPrepare).opCompleteConnect op.id

/-! ## CONNACK -/

/-- `std::min` with a configured limit, where `0` is no limit. -/
def limited (limit value : Nat) : Nat := if limit = 0 then value else min value limit

/-- The first check that fails in `ConnectOp::handle(ConnackMsg&)`. -/
def connackError (op : ConnectOp) (msg : ConnackMsg) (h : PropsHandler) : Option String :=
  if msg.sessionPresent && op.connectMsg.cleanStart then
    some "Session present when clean session is requested"
  else if h.protocolError then some "Protocol error in CONNACK properties"
  else if h.authMethod.isSome && h.authMethod != some op.authMethod then
    some "Invalid authentication method in CONNACK."
  else if h.authMethod.isNone && !op.authMethod.isEmpty then
    some "No authentication method in CONNACK."
  -- an identifier is only missed when the connection is accepted
  else if h.assignedClientId.isNone && decide (msg.reasonCode < ReasonCode.unspecifiedError) &&
      op.connectMsg.clientId.isEmpty then
    some "Client ID hasn't been assigned by the broker"
  else none

/-- The response built by `ConnectOp::handle(ConnackMsg&)`. -/
def connackResponse (op : ConnectOp) (msg : ConnackMsg) (h : PropsHandler) : ConnectResponse :=
  let cfg := env.cfg
  { reasonCode := msg.reasonCode
    assignedClientId := h.assignedClientId
    responseInfo := h.responseInfo
    reasonStr := h.reasonStr
    serverRef := h.serverRef
    authData := h.authData.filter (!·.isEmpty)
    userProps := fillUserProps cfg h
    sessionExpiryInterval := h.sessionExpiryInterval.getD op.sessionExpiryInterval
    highQosSendLimit := limited cfg.sendMaxLimit (h.receiveMax.getD 65535)
    maxPacketSize :=
      match h.maxPacketSize with
      | none => cfg.maxOutputPacketSize
      | some v => limited cfg.maxOutputPacketSize v
    topicAliasMax :=
      if cfg.hasTopicAliases then
        match h.topicAliasMax with
        | none => 0
        | some v => limited cfg.topicAliasesLimit v
      else 0
    maxQos := Qos.ofValue (h.maxQos.getD 2)
    sessionPresent := msg.sessionPresent
    retainAvailable := h.retainAvailable.getD 1 == 1
    wildcardSubAvailable := h.wildcardSubAvail.getD 1 == 1
    subIdsAvailable := h.subIdAvail.getD 1 == 1
    sharedSubsAvailable := h.sharedSubAvail.getD 1 == 1 }

/-- The part of the handler that stores the broker's Topic Alias Maximum; without the property the
old value stays. -/
def storeAliasMax (h : PropsHandler) (response : ConnectResponse) (s : Client) : Client :=
  if env.cfg.hasTopicAliases && h.topicAliasMax.isSome then
    { s with sessionState := { s.sessionState with
        maxSendTopicAlias := response.topicAliasMax } }
  else s

/-- The state an accepting CONNACK leaves behind before `brokerConnected`. -/
def acceptConnack (op : ConnectOp) (h : PropsHandler) (response : ConnectResponse) (s : Client) :
    Client :=
  -- the aliases are cut to the new maximum here, and dropped by `brokerConnected`
  { s with
    reuseState := if response.sessionPresent then s.reuseState else {}
    clientState := { s.clientState with
      sendTopicAliases := s.clientState.sendTopicAliases.take response.topicAliasMax }
    sessionState := { s.sessionState with
      keepAliveMs := mulU32 (h.serverKeepAlive.getD op.connectMsg.keepAlive) 1000
      highQosSendLimit := limited env.cfg.sendMaxLimit response.highQosSendLimit
      highQosRecvLimit := op.highQosRecvLimit
      authMethod := op.authMethod
      sessionExpiryIntervalMs := mulU32 response.sessionExpiryInterval 1000
      connectSessionExpiryInterval := op.sessionExpiryInterval
      maxRecvPacketSize := op.maxRecvPacketSize
      maxSendPacketSize := response.maxPacketSize
      pubMaxQos := response.maxQos
      wildcardSubAvailable := response.wildcardSubAvailable
      subIdsAvailable := response.subIdsAvailable
      retainAvailable := response.retainAvailable
      sharedSubsAvailable := response.sharedSubsAvailable
      problemInfoAllowed := op.requestProblemInfo } }

/-- `ConnectOp::handle(ConnackMsg&)`. -/
def connectHandleConnack (op : ConnectOp) (msg : ConnackMsg) (s : Client) : Client :=
  let s := s.timerCancel op.timer
  let h := PropsHandler.ofProps env.cfg msg.props
  match connackError op msg h with
  | some text =>
    ((s.errorLog text).sendDisconnectMsg env ReasonCode.protocolError).connectComplete op
      .protocolError none
  | none =>
    let response := connackResponse env op msg h
    -- stored whatever the reason code is
    let s := s.storeAliasMax env h response
    -- a refusal resets the whole session state
    if response.reasonCode ≠ ReasonCode.success then
      { s with sessionState := {} }.connectComplete op .complete (some response)
    else
      ((s.acceptConnack env op h response).brokerConnected env response.sessionPresent)
        |>.connectComplete op .complete (some response)

/-! ## DISCONNECT -/

/-- The report built from a DISCONNECT message. -/
def disconnectInfo (msg : ReasonMsg) : DisconnectInfo :=
  let h := PropsHandler.ofProps env.cfg (msg.props.getD [])
  { reasonCode := msg.reasonCode.getD ReasonCode.success, reasonStr := h.reasonStr,
    serverRef := h.serverRef, userProps := fillUserProps env.cfg h }

/-- `ConnectOp::handle(DisconnectMsg&)`. -/
def connectHandleDisconnect (op : ConnectOp) (msg : ReasonMsg) (s : Client) : Client :=
  (s.connectComplete op .brokerDisconnected none).brokerDisconnected env (some .disconnectMsg)
    .brokerDisconnected (some (disconnectInfo env msg))

/-! ## AUTH -/

/-- `CC_Mqtt5AuthInfo` as reported to the application. -/
def authReport (h : PropsHandler) : AuthReport :=
  { authData := h.authData.filter (!·.isEmpty), reasonStr := h.reasonStr,
    userProps := fillUserProps env.cfg h }

/-- The texts in which the two AUTH handlers differ. -/
structure AuthTexts where
  full : String
  reasonTooLong : String
  badUserProps : Option String

/-- The status that a failing `addUserPropToList` is mapped to. -/
def userPropStatus : ErrorCode → AsyncOpStatus
  | .outOfMemory => .outOfMemory
  | _ => .badParam

/-- The loop over the user properties of the application's answer. -/
def authUserProps : List (Option Str × Option Str) → PropsList → Client →
    (Client × Option AsyncOpStatus) × PropsList
  | [], props, s => ((s, none), props)
  | (key, value) :: rest, props, s =>
    let r := s.addUserPropToList env props key value
    if r.1.2 = .success then authUserProps rest r.2 r.1.1
    else ((r.1.1, some (userPropStatus r.1.2)), props)

/-- The authentication data of the AUTH answer. A status is the one of an early return. -/
def authDataProp (texts : AuthTexts) (out : AuthInfo) (props : PropsList) (s : Client) :
    (Client × Option AsyncOpStatus) × PropsList :=
  if out.authDataLen = 0 then ((s, none), props)
  else
    match out.authData with
    | none => ((s, some .badParam), props)
    | some data =>
      match addProp env.cfg.propsLimit props (.authData data) with
      | none => ((s.errorLog texts.full, some .outOfMemory), props)
      | some props =>
        -- checked only when the property is in the list
        if maxStringLen < data.length then
          ((s.errorLog "Auth data value is too long", some .badParam), props)
        else ((s, none), props)

/-- The reason string of the AUTH answer. -/
def authReasonProp (texts : AuthTexts) (out : AuthInfo) (props : PropsList) (s : Client) :
    (Client × Option AsyncOpStatus) × PropsList :=
  match out.reasonStr with
  | none => ((s, none), props)
  | some text =>
    match addProp env.cfg.propsLimit props (.reasonStr text) with
    | none => ((s.errorLog texts.full, some .outOfMemory), props)
    | some props =>
      if maxStringLen < text.length then
        ((s.errorLog texts.reasonTooLong, some .badParam), props)
      else ((s, none), props)

/-- The user properties of the AUTH answer. -/
def authUserPropsPart (texts : AuthTexts) (out : AuthInfo) (props : PropsList) (s : Client) :
    (Client × Option AsyncOpStatus) × PropsList :=
  if out.userPropsCount = 0 then ((s, none), props)
  else
    match out.userProps with
    | none =>
      match texts.badUserProps with
      | none => ((s, some .badParam), props)
      | some text => ((s.errorLog text, some .badParam), props)
    | some userProps => s.authUserProps env (userProps.take out.userPropsCount) props

/-- The properties of the AUTH answer, built from what the application's callback returned. -/
def authResponseProps (texts : AuthTexts) (method : Str) (out : AuthInfo) (s : Client) :
    (Client × Option AsyncOpStatus) × PropsList :=
  match addProp env.cfg.propsLimit [] (.authMethod method) with
  | none => ((s.errorLog texts.full, some .outOfMemory), [])
  | some props =>
    let r := s.authDataProp env texts out props
    if r.1.2.isSome then r
    else
      let r := r.1.1.authReasonProp env texts out r.2
      if r.1.2.isSome then r else r.1.1.authUserPropsPart env texts out r.2

/-- The checks of `ConnectOp::handle(AuthMsg&)` before the application is asked: the error text (the
code logs none for some) and the reason code of the DISCONNECT. -/
def connectAuthError (op : ConnectOp) (msg : ReasonMsg) (valid : Bool) :
    Option (Option String × ReasonCode) :=
  let h := PropsHandler.ofProps env.cfg (msg.props.getD [])
  if !valid then some (some "Invalid flags received in AUTH message", ReasonCode.malformedPacket)
  else if op.authMethod = [] then
    some (some "The connect hasn't used extended authentication, invalid AUTH message received",
      ReasonCode.protocolError)
  else if msg.reasonCode ≠ some ReasonCode.continueAuth then
    some (some "Invalid reason code received received in AUTH message during connection",
      ReasonCode.protocolError)
  else if msg.props.isNone then none
  else if h.protocolError then some (none, ReasonCode.protocolError)
  else if h.authMethod ≠ some op.authMethod then some (none, ReasonCode.protocolError)
  else if h.reasonStr.isSome && !op.requestProblemInfo then
    some (some
      "Received reason string in AUTH when \"problem information\" was disabled in CONNECT.",
      ReasonCode.protocolError)
  else if !h.userProps.isEmpty && !op.requestProblemInfo then
    some (some
      "Received user properties in AUTH when \"problem information\" was disabled in CONNECT.",
      ReasonCode.protocolError)
  else none

/-- `ConnectOp::handle(AuthMsg&)`. The scope guard is released before the application is asked: none
of the later failures disconnects or completes the operation. -/
def connectHandleAuth (op : ConnectOp) (msg : ReasonMsg) (valid : Bool) (reply : AuthReply)
    (s : Client) : Client :=
  let s := s.timerCancel op.timer
  match connectAuthError env op msg valid with
  | some (text, reason) =>
    let s :=
      match text with
      | none => s
      | some text => s.errorLog text
    (s.sendDisconnectMsg env reason).connectComplete op .protocolError none
  | none =>
    let s := s.emit (.authCb (authReport env (PropsHandler.ofProps env.cfg (msg.props.getD []))))
    match reply with
    -- nothing is sent, and the timer of the operation does not run any more
    | .disconnect => s
    | .continue out =>
      let texts : AuthTexts :=
        { full := "Cannot add connect auth property, reached available limit.",
          reasonTooLong := "Reason string in CONNECT auth info too long", badUserProps := none }
      let r := s.authResponseProps env texts op.authMethod out
      if r.1.2.isSome then r.1.1
      else
        (r.1.1.restartConnectTimer op).post env
          (.auth { reasonCode := some ReasonCode.continueAuth, props := some r.2 })

end Client

end Mqtt5
