import Mqtt5Client.PublishAck

/-!
# Mqtt5Client — `RecvOp`

The reception of a PUBLISH and, for QoS 2, of the PUBREL that ends it. A reception is created for
every incoming PUBLISH and lives on only while it waits for PUBREL.
-/

namespace Mqtt5

/-! ## Topic matching -/

/-- `find_first_of("/")` as the parts around the separator. -/
def splitTopic (topic : Str) : Option (Str × Str) :=
  match topic.dropWhile (· != '/') with
  | [] => none
  | _ :: rest => some (topic.takeWhile (· != '/'), rest)

/-- `isTopicMatch` on string views. Each round drops a level of the filter, so the length of the
filter is enough fuel. -/
def isTopicMatchFrom : Nat → Str → Str → Bool
  | 0, _, _ => false
  | fuel + 1, filter, topic =>
    if filter = ['#'] then true
    else if topic = [] then filter = []
    else
      match splitTopic filter, splitTopic topic with
      | none, some _ => false
      | some (f, fs), some (t, ts) =>
        if f = ['+'] || f = t then isTopicMatchFrom fuel fs ts else false
      | some (f, fs), none =>
        -- the topic ends here; an empty level behind the separator is not looked at
        if fs = [] then false
        else if f = ['+'] || f = topic then isTopicMatchFrom fuel fs [] else false
      | none, none => filter = ['+'] || filter = topic

/-- `isTopicMatch`. -/
def isTopicMatch (filter topic : Str) : Bool := isTopicMatchFrom (filter.length + 1) filter topic

/-- The update of `m_recvTopicAliases` by a PUBLISH that has both a topic and an alias. The vector
grows as far as it has to: that it stays below the capacity of a build without dynamic memory is a
condition of the results that rest on it. -/
def storeRecvAlias (aliases : List Str) (aliasId : Nat) (topic : Str) : List Str :=
  (aliases ++ List.replicate (aliasId + 1 - aliases.length) []).set aliasId topic

namespace Client

variable (env : Env)

/-! ## `RecvOp` -/

def modifyRecvOp (id : OpId) (f : RecvOp → RecvOp) (s : Client) : Client :=
  { s with recvOps := s.recvOps.map (fun op => if op.id == id then f op else op) }

/-- `RecvOp::restartResponseTimer`. -/
def restartRecvOpTimer (op : RecvOp) (s : Client) : Client :=
  s.timerWait op.responseTimer s.configState.responseTimeoutMs (.recvTimeout op.id)

/-- The `completeNotAuthorized` function of `RecvOp::handle(PublishMsg&)`. -/
def completeNotAuthorized (op : RecvOp) (qos : Qos) (packetId : Nat) (s : Client) : Client :=
  let ack : AckMsg :=
    { packetId := packetId, reasonCode := some ReasonCode.notAuthorized, props := some [] }
  let s :=
    match qos with
    | .atMostOnceDelivery => s
    | .atLeastOnceDelivery => s.post env (.puback ack)
    | .exactlyOnceDelivery => s.post env (.pubrec ack)
  s.opCompleteRecv op.id

/-- The topic of an incoming PUBLISH once its alias is applied; a failure is the error text with
the reason code of the DISCONNECT. -/
def resolveRecvTopic (topic : Str) (aliasId : Option Nat) (s : Client) :
    Except (String × ReasonCode) (Str × Client) :=
  match aliasId with
  | none => .ok (topic, s)
  | some aliasId =>
    if aliasId = 0 ∨ s.sessionState.maxRecvTopicAlias < aliasId then
      .error ("Broker used invalid topic alias.", ReasonCode.topicAliasInvalid)
    else if topic ≠ [] then
      .ok (topic, { s with sessionState := { s.sessionState with
        recvTopicAliases := storeRecvAlias s.sessionState.recvTopicAliases aliasId topic } })
    else
      -- the topic is left to the alias
      match s.sessionState.recvTopicAliases[aliasId]? with
      | none => .error ("Broker used unknown topic alias.", ReasonCode.protocolError)
      | some [] => .error ("Broker used unknown topic alias.", ReasonCode.protocolError)
      | some stored => .ok (stored, s)

/-- The report built by `RecvOp::handle(PublishMsg&)`. -/
def messageInfo (topic : Str) (qos : Qos) (msg : RecvPublishMsg) (h : PropsHandler) :
    MessageInfo :=
  { topic := topic, data := msg.payload, responseTopic := h.responseTopic,
    correlationData := h.correlationData.filter (!·.isEmpty), userProps := fillUserProps env.cfg h,
    contentType := h.contentType.filter (!·.isEmpty), subIds := h.subscriptionIds,
    messageExpiryInterval := h.messageExpiryInterval.getD 0, qos := qos,
    format := h.payloadFormatIndicator.getD 0, retained := msg.retain }

/-- The end of `RecvOp::handle(PublishMsg&)`: report and acknowledge. -/
def reportRecvPublish (op : RecvOp) (qos : Qos) (msg : RecvPublishMsg) (info : MessageInfo)
    (s : Client) : Client :=
  match qos, msg.packetId with
  | .atMostOnceDelivery, _ => (s.emit (.messageReceived info)).opCompleteRecv op.id
  | _, none =>
    (s.assert .recvOp false).terminationWithReason env ReasonCode.unspecifiedError
  | .atLeastOnceDelivery, some pid =>
    ((s.emit (.messageReceived info)).post env (.puback { packetId := pid })).opCompleteRecv op.id
  | .exactlyOnceDelivery, some pid =>
    (((s.emit (.messageReceived info)).modifyRecvOp op.id ({ · with packetId := pid })).post env
      (.pubrec { packetId := pid })).restartRecvOpTimer op

/-- Whether `m_verifySubFilter` rejects a topic. -/
def isNotSubscribed (topic : Str) (s : Client) : Bool :=
  env.cfg.hasSubTopicVerification && s.configState.verifySubFilter &&
    !s.reuseState.subFilters.any (isTopicMatch · topic)

/-- `RecvOp::handle(PublishMsg&)` with a valid QoS, behind the check for a duplicate. -/
def recvPublish (op : RecvOp) (qos : Qos) (msg : RecvPublishMsg) (s : Client) : Client :=
  let h := PropsHandler.ofProps env.cfg msg.props
  let limit := s.sessionState.highQosRecvLimit
  -- the reception that was just created counts
  if qos ≠ .atMostOnceDelivery ∧ 0 < limit ∧ limit < s.recvOps.length then
    s.terminationWithReason env ReasonCode.receiveMaxExceeded
  else if !s.sessionState.connected then
    (s.errorLog "Received PUBLISH when not CONNECTED").completeNotAuthorized env op qos
      (msg.packetId.getD 0)
  else
    let v := if msg.topic = [] then (s, true) else s.verifyPubTopic env msg.topic false
    let s := v.1
    if !v.2 then
      (s.errorLog "Received PUBLISH with invalid topic format.").protocolErrorTermination env
    else if h.protocolError then
      (s.errorLog "Received PUBLISH with protocol error when parsing properties.")
        |>.protocolErrorTermination env
    else if msg.topic = [] ∧ h.topicAlias = none then
      (s.errorLog "Received PUBLISH without topic alias.").protocolErrorTermination env
    else
      match s.resolveRecvTopic msg.topic h.topicAlias with
      | .error e => (s.errorLog e.1).terminationWithReason env e.2
      | .ok (topic, s) =>
        if s.isNotSubscribed env topic then
          (s.errorLog "Received PUBLISH on non-subscribed topic").completeNotAuthorized env op qos
            (msg.packetId.getD 0)
        else s.reportRecvPublish env op qos msg (messageInfo env topic qos msg h)

/-- `RecvOp::handle(PublishMsg&)`. -/
def recvOpHandlePublish (op : RecvOp) (msg : RecvPublishMsg) (s : Client) : Client :=
  match msg.qos with
  | none => (s.errorLog "Received PUBLISH with unknown QoS value.").protocolErrorTermination env
  | some qos =>
    if qos = .exactlyOnceDelivery ∧ op.packetId ≠ 0 ∧ msg.packetId.isSome then
      -- the reception waits for PUBREL already
      if msg.packetId ≠ some op.packetId then s
      else
        (((s.assert .recvOp msg.dup).post env (.pubrec { packetId := op.packetId }))
          |>.restartRecvOpTimer op)
    else s.recvPublish env op qos msg

/-- `RecvOp::handle(PubrelMsg&)`. -/
def recvOpHandlePubrel (op : RecvOp) (msg : AckMsg) (valid : Bool) (s : Client) : Client :=
  let s := s.timerCancel op.responseTimer
  let h := PropsHandler.ofProps env.cfg (msg.props.getD [])
  if !valid then
    (s.errorLog "Received invalid flags in PUBREL message").terminationWithReason env
      ReasonCode.malformedPacket
  else if h.reasonStr.isSome && !s.sessionState.problemInfoAllowed then
    (s.errorLog
      "Received reason string in PUBREL when \"problem information\" was disabled in CONNECT.")
      |>.protocolErrorTermination env
  else
    let s :=
      match h.reasonStr with
      | none => s
      | some text => (s.errorLog "PUBREL reason info:").errorLog (String.ofList text)
    if !h.userProps.isEmpty && !s.sessionState.problemInfoAllowed then
      (s.errorLog
        "Received user properties in PUBREL when \"problem information\" was disabled in CONNECT.")
        |>.protocolErrorTermination env
    else if msg.reasonCode.getD ReasonCode.success ≠ ReasonCode.success then
      (s.errorLog "Publish reception terminated due to error reason code in PUBREL message.")
        |>.opCompleteRecv op.id
    else (s.post env (.pubcomp { packetId := op.packetId })).opCompleteRecv op.id

/-- `RecvOp::responseTimeoutInternal`. -/
def recvOpResponseTimeout (op : RecvOp) (s : Client) : Client :=
  ((s.assert .recvOp (!s.timerMgr.isActive op.responseTimer)).errorLog
    "Timeout on PUBREL reception from broker.").opCompleteRecv op.id

/-! ## `ClientImpl` -/

/-- The `createRecvOp` function of `ClientImpl::handle(PublishMsg&)`. -/
def createRecvOp (msg : RecvPublishMsg) (s : Client) : Client :=
  if isFull env.cfg.recvOpsLimit s.recvOps.length then
    ((s.errorLog "Failed to allocate handling op for the incoming PUBLISH message.")
      |>.sendDisconnectMsg env ReasonCode.receiveMaxExceeded)
      |>.brokerDisconnected env (some .protocolError) .brokerDisconnected none
  else
    let r := s.timerAlloc env
    let s := r.1.assert .timer r.2.isSome
    let op : RecvOp := { id := s.nextOpId, responseTimer := r.2 }
    { s.registerOp .recv with recvOps := s.recvOps ++ [op] }.recvOpHandlePublish env op msg

/-- `ClientImpl::handle(PublishMsg&)`. -/
def handlePublish (msg : RecvPublishMsg) (s : Client) : Client :=
  if s.sessionState.disconnecting then s
  else
    let s := s.keepAliveMessageReceived
    if msg.qos = some .atMostOnceDelivery ∨ msg.qos = some .atLeastOnceDelivery then
      s.createRecvOp env msg
    else
      -- QoS 2, or a value that is none
      let pid := msg.packetId.getD 0
      match s.recvOps.find? (·.packetId == pid) with
      | none => s.createRecvOp env msg
      | some op =>
        -- answered here, the reception is not asked
        if !msg.dup then
          s.post env (.pubrec { packetId := pid, reasonCode := some ReasonCode.packetIdInUse,
                                props := some [] })
        else (s.timerCancel op.responseTimer).post env (.pubrec { packetId := pid })

/-- `ClientImpl::handle(PubrelMsg&)`. -/
def handlePubrel (msg : AckMsg) (valid : Bool) (s : Client) : Client :=
  let s := s.keepAliveMessageReceived
  match s.recvOps.find? (·.packetId == msg.packetId) with
  | none =>
    (s.errorLog "PUBREL with unknown packet id").post env
      (.pubcomp { packetId := msg.packetId, reasonCode := some ReasonCode.packetIdNotFound,
                  props := some [] })
  | some op => s.recvOpHandlePubrel env op msg valid

end Client

end Mqtt5
