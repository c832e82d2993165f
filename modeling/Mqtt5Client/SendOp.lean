import Mqtt5Client.Base

/-!
# Mqtt5Client — `SendOp` and the send queue

A publish from configuration to completion. Completing a publish erases it from `m_sendOps` and
resumes postponed ones behind it, and resuming may complete a publish again: `resumeSendOpsSince`,
`SendOp::resume`, `doSendInternal`, `completeWithCb` and `opComplete_Send` call each other. The knot
is tied by `resumeLoop`: the functions inside it take the resuming function as an argument, and
every round of the loop takes one publish out of the postponed state, so their number is enough
fuel.
-/

namespace Mqtt5

namespace SendOp

def packetId (op : SendOp) : Nat := op.pubMsg.packetId

def qos (op : SendOp) : Qos := op.pubMsg.qos

def source (op : SendOp) : PublishSource := ⟨op.id, op.configured⟩

end SendOp

/-- `CC_Mqtt5PublishBasicConfig`. -/
structure PublishBasicConfig where
  topic : Option Str := none
  data : Bytes := []
  qos : Qos := .atMostOnceDelivery
  topicAliasPref : TopicAliasPreference := .useAliasIfAvailable
  retain : Bool := false
  deriving DecidableEq, Repr

/-- `CC_Mqtt5PublishExtraConfig`; a format of `0` is `Unspecified`. -/
structure PublishExtraConfig where
  contentType : Option Str := none
  responseTopic : Option Str := none
  correlationData : Option Bytes := none
  correlationDataLen : Nat := 0
  messageExpiryInterval : Nat := 0
  format : Nat := 0
  deriving DecidableEq, Repr

/-! ## The queue -/

/-- `ClientImpl::hasPausedSendsBefore`: only the immediate predecessor is looked at. -/
def hasPausedSendsBefore (ops : List SendOp) (id : OpId) : Bool :=
  match ops.findIdx? (·.id == id) with
  | some (idx + 1) =>
    match ops[idx]? with
    | some prev => prev.paused
    | none => false
  | _ => false

/-- `ClientImpl::hasHigherQosSendsBefore`. -/
def hasHigherQosSendsBefore (ops : List SendOp) (id : OpId) (qos : Qos) : Bool :=
  (ops.takeWhile (·.id != id)).any (fun op => decide (qos < op.qos))

namespace Client

def sendOp? (s : Client) (id : OpId) : Option SendOp := s.sendOps.find? (·.id == id)

def modifySendOp (id : OpId) (f : SendOp → SendOp) (s : Client) : Client :=
  { s with sendOps := s.sendOps.map (fun op => if op.id == id then f op else op) }

/-- `SendOp::canSend`. -/
def canSend (s : Client) (op : SendOp) : Bool :=
  if s.sessionState.highQosSendLimit ≤ s.clientState.inFlightSends then
    -- the limit is used up, only QoS 0 may overtake
    op.qos == .atMostOnceDelivery && s.configState.publishOrdering == .sameQos
  else if s.configState.publishOrdering == .sameQos then
    true
  else
    !(hasPausedSendsBefore s.sendOps op.id || hasHigherQosSendsBefore s.sendOps op.id op.qos)

/-- `SendOp::restartResponseTimer`. -/
def restartSendTimer (op : SendOp) (s : Client) : Client :=
  s.timerWait op.responseTimer s.configState.responseTimeoutMs (.sendTimeout op.id)

/-- Removal from `m_sendOps` with the destruction of the operation. -/
def eraseSendOp (op : SendOp) (s : Client) : Client :=
  ((({ s with sendOps := s.sendOps.eraseP (·.id == op.id) }.emit
    (.sendOpErased op.id)).releasePacketId op.packetId).timerFree op.responseTimer)

end Client

/-! ## Completion and resumption -/

section Resume

variable (env : Env) (wake : Nat → Client → Client)

/-- `ClientImpl::opComplete` with `opComplete_Send`. -/
def SendOp.opComplete (id : OpId) (s : Client) : Client :=
  match s.unregisterOp ⟨.send, id⟩ with
  | none => s.fault (.assertFailed .opComplete)
  | some s =>
    match s.sendOp? id with
    | none => s.fault (.assertFailed .eraseFromList)
    | some op =>
      let idx := s.sendOps.findIdx (·.id == id)
      let s := s.eraseSendOp op
      -- what waits behind it may go now
      if s.sessionState.disconnecting then s else wake idx s

/-- `SendOp::opCompleteInternal`. -/
def SendOp.opCompleteInternal (op : SendOp) (s : Client) : Client :=
  if op.published then
    let s := s.assert .opCompleteInternal (decide (0 < s.clientState.inFlightSends))
    SendOp.opComplete wake op.id
      { s with clientState := { s.clientState with
          inFlightSends := decU32 s.clientState.inFlightSends } }
  else SendOp.opComplete wake op.id s

/-- `SendOp::completeWithCb`. -/
def SendOp.completeWithCb (op : SendOp) (status : AsyncOpStatus)
    (response : Option PublishResponse) (s : Client) : Client :=
  let s := SendOp.opCompleteInternal wake op s
  if op.cb then s.emit (.publishCb op.id status response) else s

/-- `SendOp::doSendInternal`. -/
def SendOp.doSendInternal (op : SendOp) (s : Client) : Client × ErrorCode :=
  let r := (s.modifySendOp op.id ({ · with sendAttempts := 0 })).sendMessage env
    (.publish op.pubMsg) (some op.source)
  if r.2 ≠ .success then r
  else
    -- a publish that was handed over before is counted already
    let inFlight :=
      if op.published then r.1.clientState.inFlightSends else r.1.clientState.inFlightSends + 1
    let s := { r.1 with clientState := { r.1.clientState with inFlightSends := inFlight } }
    let s := s.modifySendOp op.id ({ · with published := true, sendAttempts := 1 })
    let s := s.assert .doSendInternal (decide (0 < s.clientState.inFlightSends))
    if op.qos = .atMostOnceDelivery then
      (SendOp.completeWithCb wake { op with published := true } .complete none s, .success)
    else (s.restartSendTimer op, .success)

/-- The error code of a failed delayed send as reported to the application. -/
def SendOp.resumeStatus : ErrorCode → AsyncOpStatus
  | .badParam => .badParam
  | .bufferOverflow => .outOfMemory
  | _ => .internalError

/-- `SendOp::resume`. -/
def SendOp.resume (op : SendOp) (s : Client) : Client × Bool :=
  if !op.paused then (s, false)
  else if !s.canSend op then (s, false)
  else
    let r := SendOp.doSendInternal env wake { op with paused := false }
      (s.modifySendOp op.id ({ · with paused := false }))
    if r.2 = .success then (r.1, true)
    else
      -- it is reported, and the loop goes on to the next one
      (SendOp.completeWithCb wake { op with paused := false, sendAttempts := 0 }
        (SendOp.resumeStatus r.2) none r.1, true)

end Resume

/-- Index of the first postponed publish at or behind `idx`. -/
def nextPaused (ops : List SendOp) (idx : Nat) : Option Nat :=
  ((ops.drop idx).findIdx? (·.paused)).map (· + idx)

/-- The loop of `ClientImpl::resumeSendOpsSince`; a round skips to the next postponed publish. -/
def resumeLoop (env : Env) : Nat → Nat → Client → Client
  | 0, _, s => s
  | fuel + 1, idx, s =>
    match nextPaused s.sendOps idx with
    | none => s
    | some next =>
      match s.sendOps[next]? with
      | none => s
      | some op =>
        let r := SendOp.resume env (resumeLoop env fuel) op s
        -- at the same position, since the queue may have become shorter
        if r.2 then resumeLoop env fuel next r.1 else r.1

/-- The number of postponed publishes. -/
def pausedCount (ops : List SendOp) : Nat := ops.countP (·.paused)

namespace Client

variable (env : Env)

/-- `ClientImpl::resumeSendOpsSince`. -/
def resumeSendOpsSince (idx : Nat) (s : Client) : Client :=
  resumeLoop env (pausedCount s.sendOps) idx s

/-- `SendOp::opCompleteInternal` of a live publish. -/
def sendOpComplete (op : SendOp) (s : Client) : Client :=
  SendOp.opCompleteInternal (resumeSendOpsSince env) op s

/-- `SendOp::completeWithCb` of a live publish; also `SendOp::terminateOpImpl`. -/
def sendOpCompleteWithCb (op : SendOp) (status : AsyncOpStatus)
    (response : Option PublishResponse) (s : Client) : Client :=
  SendOp.completeWithCb (resumeSendOpsSince env) op status response s

/-- `SendOp::doSendInternal` of a live publish. -/
def sendOpDoSend (op : SendOp) (s : Client) : Client × ErrorCode :=
  SendOp.doSendInternal env (resumeSendOpsSince env) op s

/-! ## Retransmission -/

/-- `SendOp::resendDupMsg`. -/
def resendDupMsg (op : SendOp) (s : Client) : Client :=
  if op.totalSendAttempts ≤ op.sendAttempts then
    (s.errorLog "Exhauses all attempts to publish message, discarding publish.")
      |>.sendOpCompleteWithCb env op .timeout none
  else
    let s := s.assert .resendDupMsg op.published
    if !op.acked then
      -- DUP stays set in the stored message
      let msg := { op.pubMsg with dup := true }
      let r := (s.modifySendOp op.id ({ · with pubMsg := msg })).sendMessage env
        (.publish msg) (some op.source)
      if r.2 ≠ .success then
        (r.1.errorLog "Failed to resend PUBLISH message.")
          |>.sendOpCompleteWithCb env op .internalError none
      else
        (r.1.modifySendOp op.id ({ · with sendAttempts := op.sendAttempts + 1 }))
          |>.restartSendTimer op
    else
      -- PUBREC came, so PUBREL is what is repeated
      let s := s.assert .resendDupMsg (decide (op.qos = .exactlyOnceDelivery))
      let r := s.sendMessage env (.pubrel { packetId := op.packetId }) (some op.source)
      if r.2 ≠ .success then
        (r.1.errorLog "Failed to resend PUBREL message.")
          |>.sendOpCompleteWithCb env op .internalError none
      else
        (r.1.modifySendOp op.id ({ · with sendAttempts := op.sendAttempts + 1 }))
          |>.restartSendTimer op

/-- `SendOp::forceDupResend`. -/
def forceDupResend (op : SendOp) (s : Client) : Client :=
  if op.paused then s else s.resendDupMsg env op

/-- `SendOp::responseTimeoutInternal`. -/
def sendResponseTimeout (op : SendOp) (s : Client) : Client :=
  ((s.assert .responseTimeout (!s.timerMgr.isActive op.responseTimer)).errorLog
    "Timeout on publish acknowledgement from broker.").resendDupMsg env op

end Client

def Property.isTopicAlias : Property → Bool
  | .topicAlias _ => true
  | _ => false

/-- The numeric topic alias a message carries, if any: the first such property. -/
def PublishMsg.topicAlias (msg : PublishMsg) : Option Nat :=
  msg.props.findSome? fun
    | .topicAlias v => some v
    | _ => none

/-- The message part of `SendOp::postReconnectionResend`: the topic alias is dropped and the topic
it stood for is restored from the alias table. `none` when the alias is not in the table. -/
def SendOp.restoreTopic (table : List TopicAliasInfo) (op : SendOp) : Option PublishMsg :=
  match op.pubMsg.topicAlias with
  | none => some op.pubMsg
  | some aliasId =>
    let props := op.pubMsg.props.eraseP (·.isTopicAlias)
    -- PUBREL names no topic
    if op.acked then some { op.pubMsg with props := props }
    else if op.pubMsg.topic = [] then
      match table.find? (·.aliasId == aliasId) with
      | none => none
      | some info => some { op.pubMsg with topic := info.topic, props := props }
    else some { op.pubMsg with props := props }

/-- Only the topic and the properties are restored. -/
theorem SendOp.restoreTopic_eq {table : List TopicAliasInfo} {op : SendOp} {msg : PublishMsg}
    (h : op.restoreTopic table = some msg) :
    msg = { op.pubMsg with topic := msg.topic, props := msg.props } := by
  unfold SendOp.restoreTopic at h
  dsimp only at h
  split at h
  · cases h
    rfl
  · split at h
    · cases h
      rfl
    · split at h
      · split at h
        · cases h
        · cases h
          rfl
      · cases h
        rfl

namespace Client

variable (env : Env)

/-- The part of `SendOp::postReconnectionResend` behind the alias handling. -/
def reconnectionResend (op : SendOp) (s : Client) : Client :=
  let s := s.assert .postReconnectionResend (decide (0 < op.sendAttempts))
  -- the attempt on the lost connection does not count
  let op := { op with sendAttempts := decU32 op.sendAttempts }
  ((s.modifySendOp op.id ({ · with sendAttempts := op.sendAttempts })).timerCancel
    op.responseTimer).resendDupMsg env op

/-- `SendOp::postReconnectionResend`. -/
def postReconnectionResend (op : SendOp) (s : Client) : Client :=
  if op.paused then s
  else if env.cfg.hasTopicAliases then
    let s := s.assert .postReconnectionResend
      (op.pubMsg.topicAlias.isSome || !op.pubMsg.topic.isEmpty)
    match op.restoreTopic s.clientState.sendTopicAliases with
    | none =>
      ((s.assert .postReconnectionResend false).errorLog
        "Broker reduced its allowed topic aliases (less likely) or it's internal error (most likely).")
        |>.sendOpCompleteWithCb env op .internalError none
    | some msg =>
      (s.modifySendOp op.id ({ · with pubMsg := msg })).reconnectionResend env
        { op with pubMsg := msg }
  else s.reconnectionResend env op

/-! ## Topic alias registration -/

/-- `SendOp::confirmRegisteredAlias`. -/
def confirmRegisteredAlias (op : SendOp) (s : Client) : Client :=
  let s := s.assert .confirmRegisteredAlias (!op.pubMsg.topic.isEmpty && op.registeredAlias)
  let table := s.clientState.sendTopicAliases
  let idx := lowerBound table op.pubMsg.topic
  -- whether the entry is the one of the topic is not asked
  if idx < table.length then
    { s with clientState := { s.clientState with
        sendTopicAliases := table.modify idx ({ · with lowQosRegRemCount := 0 }) } }
  else s.errorLog "Topic alias freed before it is acknowledged"

end Client

/-- The alias part of `SendOp::configBasic`: the alias to add (`0` for none), whether the topic
string is assigned, and the table after spending a registration. -/
def chooseAlias (cfg : Config) (table : List TopicAliasInfo) (topic : Str)
    (pref : TopicAliasPreference) : Except (String × ErrorCode) (Nat × Bool × List TopicAliasInfo) :=
  if cfg.hasTopicAliases then
    if pref = .forceTopicOnly then .ok (0, true, table)
    else
      match findTopicAlias table topic with
      | none =>
        if pref = .forceTopicWithAlias ∨ pref = .forceAliasOnly then
          .error ("The topic alias for the publish hasn't been allocated", .badParam)
        else .ok (0, true, table)
      | some info =>
        if pref = .forceTopicWithAlias then .ok (info.aliasId, true, table)
        else if pref = .forceAliasOnly then .ok (info.aliasId, false, table)
        else if info.lowQosRegRemCount = 0 then .ok (info.aliasId, false, table)
        else
          -- the topic goes along while the broker may not know the alias
          .ok (info.aliasId, true, table.modify (lowerBound table topic)
            (fun info => { info with lowQosRegRemCount := info.lowQosRegRemCount - 1 }))
  else if pref ≠ .useAliasIfAvailable ∧ pref ≠ .forceTopicOnly then
    .error ("Topic aliases are not supported", .notSupported)
  else .ok (0, true, table)

namespace Client

variable (env : Env)

/-- `errorLog(msg); return ec;` -/
def fail (msg : String) (ec : ErrorCode) (s : Client) : Client × ErrorCode :=
  (s.errorLog msg, ec)

/-- The end of `SendOp::configBasic`, once the topic and the alias are in the message. -/
def configPayload (op : SendOp) (config : PublishBasicConfig) (topic : Str) (registered : Bool)
    (s : Client) : Client × ErrorCode :=
  let payload := if config.data = [] then op.pubMsg.payload else config.data
  let op := { op with pubMsg := { op.pubMsg with payload := payload } }
  if maxStringLen < payload.length then
    (s.modifySendOp op.id (fun _ => op)).fail "Publish data value is too long" .badParam
  else
    (s.modifySendOp op.id
      (fun _ => { op with registeredAlias := registered, configured := some topic }), .success)

/-- `SendOp::configBasic`. -/
def sendConfigBasic (op : SendOp) (config : PublishBasicConfig) (s : Client) :
    Client × ErrorCode :=
  match config.topic with
  | none => s.fail "Topic hasn't been provided in publish configuration" .badParam
  | some [] => s.fail "Topic hasn't been provided in publish configuration" .badParam
  | some topic =>
    let v := s.verifyPubTopic env topic true
    if !v.2 then v.1.fail "Bad topic format in publish." .badParam
    else if s.sessionState.pubMaxQos < config.qos then
      s.fail "QoS value is too high in publish." .badParam
    else if config.retain && !s.sessionState.retainAvailable then
      s.fail "Retain is not supported by the broker" .badParam
    else
      match chooseAlias env.cfg s.clientState.sendTopicAliases topic config.topicAliasPref with
      | .error e => s.fail e.1 e.2
      | .ok (aliasId, mustAssignTopic, table) =>
        -- the registration is spent even when a later check fails
        let s := { s with clientState := { s.clientState with sendTopicAliases := table } }
        let op := { op with pubMsg := { op.pubMsg with retain := config.retain, qos := config.qos } }
        let op :=
          if mustAssignTopic then
            { op with pubMsg := { op.pubMsg with topic := topic }, topicConfigured := true }
          else op
        if mustAssignTopic && maxStringLen < topic.length then
          (s.modifySendOp op.id (fun _ => op)).fail "Publish topic value is too long" .badParam
        else if 0 < aliasId then
          match addProp env.cfg.propsLimit op.pubMsg.props (.topicAlias aliasId) with
          | none =>
            (s.modifySendOp op.id (fun _ => op)).fail
              "Cannot add topic alias property, reached available limit." .outOfMemory
          | some props =>
            s.configPayload { op with pubMsg := { op.pubMsg with props := props },
                                      topicConfigured := true } config topic mustAssignTopic
        else s.configPayload op config topic false

/-- One optional property of `SendOp::configExtra`, with the errors the code reports when the
list is full and when the value does not fit. -/
def sendAddProp (op : SendOp) (p : Property) (full : String) (tooLong : Option String)
    (s : Client) : (Client × ErrorCode) × SendOp :=
  match addProp env.cfg.propsLimit op.pubMsg.props p with
  | none => (s.fail full .outOfMemory, op)
  | some props =>
    match tooLong with
    | some msg => (s.fail msg .badParam, op)
    | none =>
      let op := { op with pubMsg := { op.pubMsg with props := props } }
      ((s.modifySendOp op.id (fun _ => op), .success), op)

/-- Run the next stage of a configuration when the previous one succeeded. -/
def andThenConfig {α : Type} (r : (Client × ErrorCode) × α)
    (next : α → Client → (Client × ErrorCode) × α) : (Client × ErrorCode) × α :=
  if r.1.2 = .success then next r.2 r.1.1 else r

/-- The error text when a string or buffer is longer than a field can hold. -/
def tooLongMsg {α : Type} (value : List α) (msg : String) : Option String :=
  if maxStringLen < value.length then some msg else none

/-- `SendOp::configExtra`. The message expiry interval is an `unsigned` and always fits. -/
def sendConfigExtra (op : SendOp) (config : PublishExtraConfig) (s : Client) :
    Client × ErrorCode :=
  let keep (op : SendOp) (s : Client) := ((s, ErrorCode.success), op)
  let full := "Cannot add publish property, reached available limit."
  let r :=
    match config.contentType with
    | none => keep op s
    | some v =>
      s.sendAddProp env op (.contentType v) full
        (tooLongMsg v "Publish content type value is too long")
  let r := andThenConfig r fun op s =>
    match config.responseTopic with
    | none => keep op s
    | some v =>
      let t := s.verifyPubTopic env v true
      if !t.2 then (t.1.fail "Bad response topic format in publish." .badParam, op)
      else
        s.sendAddProp env op (.responseTopic v) full
          (tooLongMsg v "Publish response topic value is too long")
  let r := andThenConfig r fun op s =>
    match config.correlationData with
    | none =>
      if 0 < config.correlationDataLen then
        (s.fail "Bad correlation data parameter in publish configuration." .badParam, op)
      else keep op s
    | some v =>
      s.sendAddProp env op (.correlationData v) full
        (tooLongMsg v "Publish correlation data value is too long")
  let r := andThenConfig r fun op s =>
    if 0 < config.messageExpiryInterval then
      s.sendAddProp env op (.messageExpiryInterval config.messageExpiryInterval) full none
    else keep op s
  let r := andThenConfig r fun op s =>
    if config.format ≠ 0 then
      s.sendAddProp env op (.payloadFormatIndicator config.format)
        "Cannot add will publish, reached available limit." none
    else keep op s
  r.1

/-- `Op::addUserPropToList`. -/
def addUserPropToList (props : PropsList) (key value : Option Str) (s : Client) :
    (Client × ErrorCode) × PropsList :=
  if !env.cfg.hasUserProps then
    (s.fail "User properties are note supported." .notSupported, props)
  else
    match key with
    | none => (s.fail "User property key is empty." .badParam, props)
    | some k =>
      match addProp env.cfg.propsLimit props (.userProperty k (value.getD [])) with
      | none =>
        (s.fail "Cannot add user property, reached available limit." .outOfMemory, props)
      | some props' =>
        if maxStringLen < k.length then
          (s.fail "User property key is too long." .badParam, props)
        else if maxStringLen < (value.getD []).length then
          (s.fail "User property value is too long." .badParam, props)
        else ((s, .success), props')

/-- `SendOp::addUserProp`. -/
def sendAddUserProp (op : SendOp) (key value : Option Str) (s : Client) : Client × ErrorCode :=
  let r := s.addUserPropToList env op.pubMsg.props key value
  (r.1.1.modifySendOp op.id
    (fun _ => { op with pubMsg := { op.pubMsg with props := r.2 } }), r.1.2)

/-- `SendOp::setResendAttempts`. -/
def sendSetResendAttempts (op : SendOp) (attempts : Nat) (s : Client) : Client × ErrorCode :=
  if attempts = 0 then s.fail "PUBLISH resend attempts must be greater than 0" .badParam
  else (s.modifySendOp op.id ({ · with totalSendAttempts := attempts }), .success)

/-! ## `SendOp::send` and `SendOp::cancel` -/

/-- `SendOp::send` up to the API guard. `true` when the message is to be sent now; otherwise the
returned code is the result of the call. -/
def sendOpSend (op : SendOp) (cb : Bool) (s : Client) : Client × ErrorCode × Bool :=
  let s := s.allowNextPrepare.emit (.publishSend op.id op.qos)
  let op := { op with sent := true }
  let s := s.modifySendOp op.id (fun _ => op)
  if op.responseTimer.isNone then
    ((s.errorLog "The library cannot allocate required number of timers.").sendOpComplete env op,
      .internalError, false)
  else if !op.topicConfigured then
    ((s.errorLog "Topic hasn't been properly configured, cannot publish").sendOpComplete env op,
      .insufficientConfig, false)
  else
    let op := { op with cb := cb }
    -- taken although the publish may have to wait
    let r := if op.qos = .atMostOnceDelivery then (s, op.packetId) else s.allocPacketId env
    let op := { op with pubMsg := { op.pubMsg with packetId := r.2 } }
    let s := r.1.modifySendOp op.id (fun _ => op)
    if !s.canSend op then
      ((s.assert .send (!op.paused)).modifySendOp op.id ({ · with paused := true }),
        .success, false)
    else (s, .success, true)

/-- `SendOp::cancel`. -/
def sendOpCancel (op : SendOp) (s : Client) : Client :=
  (if op.cb then s else s.allowNextPrepare).sendOpComplete env op

/-- `SendOp::connectivityChangedImpl`. -/
def sendOpConnectivityChanged (op : SendOp) (s : Client) : Client :=
  s.timerSetSuspended op.responseTimer
    (!s.sessionState.connected || s.clientState.networkDisconnected)

end Client

end Mqtt5
