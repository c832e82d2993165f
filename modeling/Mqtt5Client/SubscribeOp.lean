import Mqtt5Client.ConnectOp

/-!
# Mqtt5Client — `SubscribeOp` and `UnsubscribeOp`

Topic filter verification, the two requests, and the handlers of their responses, which keep the
sorted list of subscribed filters (`ReuseState::m_subFilters`) up to date.
-/

namespace Mqtt5

/-! ## Topic filters -/

/-- `Op::isSharedTopicFilter`. -/
def isSharedTopicFilter (filter : Str) : Bool := "$share/".toList.isPrefixOf filter

/-- The share name loop of `Op::verifySubFilterInternal`: the error text, if any. -/
def sharedNameError : Str → Option String
  | [] => some "Shared subscriptions name must have topic after share name."
  | ch :: rest =>
    if ch = '/' then
      if rest = [] then some "Shared subscriptions name must have topic after share name."
      else none
    else if ch = '#' ∨ ch = '+' then some "Shared subscriptions name must not have wildcards."
    else sharedNameError rest

/-- The check of what follows `$share/`. -/
def sharedFilterError (sharedSubs : Bool) (filter : Str) : Option String :=
  if !isSharedTopicFilter filter then none
  else if !sharedSubs then
    some "Shared subscriptions not accepted by the broker, cannot use \"$share/\" prefixed topics."
  else
    let name := filter.drop 7
    if name = [] ∨ name.head? = some '/' then
      some "Shared subscriptions name must have at least one character."
    else sharedNameError name

/-- The character loop of `Op::verifySubFilterInternal`. The position of the last separator is only
compared with the previous position, so the previous character is enough. -/
def wildcardError (wildcards : Bool) : Option Char → Str → Option String
  | _, [] => none
  | prev, ch :: rest =>
    if ch = '#' then
      if !wildcards then
        some "Wildcard subscriptions not accepted by the broker, cannot use '#'."
      else if rest ≠ [] then some "Multi-level wildcard '#' must be last."
      else if prev.isSome && prev != some '/' then
        some "Multi-level wildcard '#' must follow separator."
      else none
    else if ch = '+' then
      if !wildcards then
        some "Wildcard subscriptions not accepted by the broker, cannot use '+'."
      else if rest ≠ [] ∧ rest.head? ≠ some '/' then
        some "Single-level wildcard '+' must be last of followed by /."
      else if prev.isSome && prev != some '/' then
        some "Single-level wildcard '+' must follow separator."
      else wildcardError wildcards (some ch) rest
    else wildcardError wildcards (some ch) rest

/-- The place of a filter in the sorted list (`std::lower_bound`). -/
def filterIdx (filters : List Str) (filter : Str) : Nat :=
  filters.findIdx (fun stored => !decide (stored < filter))

def hasFilter (filters : List Str) (filter : Str) : Bool :=
  filters[filterIdx filters filter]? == some filter

/-- `CC_Mqtt5SubscribeTopicConfig`. -/
structure SubscribeTopicConfig where
  topic : Option Str := none
  maxQos : Qos := .exactlyOnceDelivery
  retainHandling : RetainHandling := .send
  noLocal : Bool := false
  retainAsPublished : Bool := false
  deriving DecidableEq, Repr

namespace Client

variable (env : Env)

/-- `Op::verifySubFilter`. -/
def verifySubFilter (filter : Str) (s : Client) : Client × Bool :=
  if !env.cfg.hasTopicFormatVerification || !s.configState.verifyOutgoingTopic then (s, true)
  else if filter = [] then (s, false)
  else
    match sharedFilterError s.sessionState.sharedSubsAvailable filter with
    | some text => (s.errorLog text, false)
    | none =>
      match wildcardError s.sessionState.wildcardSubAvailable none filter with
      | some text => (s.errorLog text, false)
      | none => (s, true)

/-! ## `SubscribeOp` -/

def setSubscribeOp (op : SubscribeOp) (s : Client) : Client :=
  { s with subscribeOps := modifyFirst (·.id == op.id) (fun _ => op) s.subscribeOps }

/-- `SubscribeOp::configTopic`. -/
def subscribeConfigTopic (op : SubscribeOp) (config : SubscribeTopicConfig) (s : Client) :
    Client × ErrorCode :=
  match config.topic with
  | none => s.fail "Topic is not provided in subscribe configuration." .badParam
  | some [] => s.fail "Topic is not provided in subscribe configuration." .badParam
  | some topic =>
    let v := s.verifySubFilter env topic
    if !v.2 then v.1.fail "Bad topic filter format in subscribe." .badParam
    else if config.noLocal && isSharedTopicFilter topic then
      s.fail "Shared subscriptions cannot set \"no local\" flag." .badParam
    else if isFull env.cfg.subTopicsLimit op.subMsg.list.length then
      s.fail "Too many configured topics for subscribe operation." .outOfMemory
    else if maxStringLen < topic.length then
      s.fail "Subscription topic value is too long" .badParam
    else
      let element : SubscribeTopic :=
        { topic := topic, maxQos := config.maxQos, retainHandling := config.retainHandling,
          noLocal := config.noLocal, retainAsPublished := config.retainAsPublished }
      (s.setSubscribeOp { op with subMsg := { op.subMsg with list := op.subMsg.list ++ [element] } },
        .success)

/-- `SubscribeOp::configExtra`. -/
def subscribeConfigExtra (op : SubscribeOp) (subId : Nat) (s : Client) : Client × ErrorCode :=
  if subId = 0 then (s, .success)
  else if 268435455 ≤ subId then s.fail "Provided subscribe ID is too high." .badParam
  else if !s.sessionState.subIdsAvailable then
    s.fail "Usage of subscribe IDs is not supported by broker." .badParam
  else
    let r := s.addPropTo env op.subMsg.props (.subscriptionId subId)
      "Cannot add subscribe property, reached available limit." none
    (r.1.1.setSubscribeOp { op with subMsg := { op.subMsg with props := r.2 } }, r.1.2)

/-- `SubscribeOp::addUserProp`. -/
def subscribeAddUserProp (op : SubscribeOp) (key value : Option Str) (s : Client) :
    Client × ErrorCode :=
  let r := s.addUserPropToList env op.subMsg.props key value
  (r.1.1.setSubscribeOp { op with subMsg := { op.subMsg with props := r.2 } }, r.1.2)

/-- `SubscribeOp::restartTimer`. -/
def restartSubscribeTimer (op : SubscribeOp) (s : Client) : Client :=
  s.timerWait op.timer op.responseTimeoutMs (.subscribeTimeout op.id)

/-- `SubscribeOp::send` up to the API guard. -/
def subscribeSend (op : SubscribeOp) (cb : Bool) (s : Client) : Client × ErrorCode × Bool :=
  let op := { op with sent := true }
  let s := s.allowNextPrepare.setSubscribeOp op
  let complete := opCompleteSubscribe op.id
  if !cb then s.abandon complete "Subscribe completion callback is not provided." .badParam
  else if op.subMsg.list = [] then
    s.abandon complete "No subscribe topic has been configured." .insufficientConfig
  else if op.timer.isNone then
    s.abandon complete "The library cannot allocate required number of timers." .internalError
  else
    let r := s.allocPacketId env
    let op := { op with cb := true, subMsg := { op.subMsg with packetId := r.2 } }
    let r := (r.1.setSubscribeOp op).sendMessage env (.subscribe op.subMsg) none
    if r.2 ≠ .success then (complete r.1, r.2, false) else (r.1, .success, true)

/-- `SubscribeOp::cancel`. -/
def subscribeCancel (op : SubscribeOp) (s : Client) : Client :=
  (if op.cb then s else s.allowNextPrepare).opCompleteSubscribe op.id

/-- Why a response handler gives up: the error text, the status of the operation and the reason code
of the DISCONNECT. -/
structure CodesError where
  text : String
  status : AsyncOpStatus := .protocolError
  reason : ReasonCode := ReasonCode.protocolError

/-- The reason code loop of `SubscribeOp::handle(SubackMsg&)` with the filters recorded so far. -/
def subackCodes (verify : Bool) : Nat → List (ReasonCode × SubscribeTopic) → List Str →
    List Str × Option CodesError
  | _, [], filters => (filters, none)
  | idx, (rc, topic) :: rest, filters =>
    if isFull env.cfg.subTopicsLimit idx then
      (filters, some
        { text := "Cannot accumulate all the subscribe reported reason codes, insufficient memory",
          status := .internalError, reason := ReasonCode.implSpecificError })
    else if rc ≤ ReasonCode.grantedQos2 ∧ topic.maxQos.toNat < rc then
      (filters, some { text := "Granted QoS in SUBACK is greater than requested" })
    -- nothing to record: a refused filter, or one that is there
    else if !verify || decide (ReasonCode.unspecifiedError ≤ rc) || hasFilter filters topic.topic then
      subackCodes verify (idx + 1) rest filters
    else if isFull env.cfg.subFiltersLimit filters.length then
      (filters, some
        { text := "Subscibe filters storage reached its maximum, can't store any more topics",
          status := .internalError, reason := ReasonCode.implSpecificError })
    else
      subackCodes verify (idx + 1) rest
        (filters.insertIdx (filterIdx filters topic.topic) topic.topic)

/-- The properties part of the two response handlers. -/
def codesResponse (name : String) (codes : List ReasonCode) (h : PropsHandler) (s : Client) :
    Except CodesError CodesResponse :=
  if h.reasonStr.isSome && !s.sessionState.problemInfoAllowed then
    .error { text := "Received reason string in " ++ name ++
      " when \"problem information\" was disabled in CONNECT." }
  else if !h.userProps.isEmpty && !s.sessionState.problemInfoAllowed then
    .error { text := "Received user properties in " ++ name ++
      " when \"problem information\" was disabled in CONNECT." }
  else
    .ok { reasonCodes := codes, reasonStr := h.reasonStr, userProps := fillUserProps env.cfg h }

def setSubFilters (filters : List Str) (s : Client) : Client :=
  { s with reuseState := { s.reuseState with subFilters := filters } }

/-- `SubscribeOp::handle(SubackMsg&)`. -/
def subscribeHandleSuback (op : SubscribeOp) (msg : CodesMsg) (s : Client) : Client :=
  if msg.packetId ≠ op.subMsg.packetId then s
  else
    let s := s.timerCancel op.timer
    let h := PropsHandler.ofProps env.cfg msg.props
    let fail (e : CodesError) (s : Client) :=
      ((s.errorLog e.text).subscribeComplete op e.status none).terminationWithReason env e.reason
    if h.protocolError then fail { text := "Protocol error in SUBACK properties" } s
    else if op.subMsg.list.length ≠ msg.list.length then
      fail { text := "Amount of reason codes in SUBACK doesn't match amount of subcribe topics" } s
    else
      let verify := env.cfg.hasSubTopicVerification && s.configState.verifySubFilter
      let r := subackCodes env verify 0 (msg.list.zip op.subMsg.list) s.reuseState.subFilters
      -- recorded even when the message is refused in the end
      let s := s.setSubFilters r.1
      match r.2 with
      | some e => fail e s
      | none =>
        match s.codesResponse env "SUBACK" msg.list h with
        | .error e => fail e s
        | .ok response => s.subscribeComplete op .complete (some response)

/-! ## `UnsubscribeOp` -/

def setUnsubscribeOp (op : UnsubscribeOp) (s : Client) : Client :=
  { s with unsubscribeOps := modifyFirst (·.id == op.id) (fun _ => op) s.unsubscribeOps }

/-- `UnsubscribeOp::configTopic`. -/
def unsubscribeConfigTopic (op : UnsubscribeOp) (topic : Option Str) (s : Client) :
    Client × ErrorCode :=
  match topic with
  | none => s.fail "Topic is not provided in unsubscribe configuration." .badParam
  | some [] => s.fail "Topic is not provided in unsubscribe configuration." .badParam
  | some topic =>
    let v := s.verifySubFilter env topic
    if !v.2 then v.1.fail "Bad topic filter format in unsubscribe." .badParam
    else if env.cfg.hasSubTopicVerification && s.configState.verifySubFilter &&
        !hasFilter s.reuseState.subFilters topic then
      s.fail "Requested unsubscribe hasn't been used for subscription before" .badParam
    else if isFull env.cfg.unsubTopicsLimit op.unsubMsg.list.length then
      s.fail "Too many configured topics for unsubscribe operation." .outOfMemory
    else if maxStringLen < topic.length then
      s.fail "Unsubscription topic value is too long" .badParam
    else
      (s.setUnsubscribeOp
        { op with unsubMsg := { op.unsubMsg with list := op.unsubMsg.list ++ [topic] } }, .success)

/-- `UnsubscribeOp::addUserProp`. -/
def unsubscribeAddUserProp (op : UnsubscribeOp) (key value : Option Str) (s : Client) :
    Client × ErrorCode :=
  let r := s.addUserPropToList env op.unsubMsg.props key value
  (r.1.1.setUnsubscribeOp { op with unsubMsg := { op.unsubMsg with props := r.2 } }, r.1.2)

/-- `UnsubscribeOp::restartTimer`. -/
def restartUnsubscribeTimer (op : UnsubscribeOp) (s : Client) : Client :=
  s.timerWait op.timer op.responseTimeoutMs (.unsubscribeTimeout op.id)

/-- `UnsubscribeOp::send` up to the API guard. -/
def unsubscribeSend (op : UnsubscribeOp) (cb : Bool) (s : Client) : Client × ErrorCode × Bool :=
  let op := { op with sent := true }
  let s := s.allowNextPrepare.setUnsubscribeOp op
  let complete := opCompleteUnsubscribe op.id
  if !cb then s.abandon complete "Unsubscribe completion callback is not provided." .badParam
  else if op.unsubMsg.list = [] then
    s.abandon complete "No unsubscribe topic has been configured." .insufficientConfig
  else if op.timer.isNone then
    s.abandon complete "The library cannot allocate required number of timers." .internalError
  else
    let r := s.allocPacketId env
    let op := { op with cb := true, unsubMsg := { op.unsubMsg with packetId := r.2 } }
    let r := (r.1.setUnsubscribeOp op).sendMessage env (.unsubscribe op.unsubMsg) none
    if r.2 ≠ .success then (complete r.1, r.2, false) else (r.1, .success, true)

/-- `UnsubscribeOp::cancel`. -/
def unsubscribeCancel (op : UnsubscribeOp) (s : Client) : Client :=
  (if op.cb then s else s.allowNextPrepare).opCompleteUnsubscribe op.id

/-- The reason code loop of `UnsubscribeOp::handle(UnsubackMsg&)`. -/
def unsubackCodes : Nat → List (ReasonCode × Str) → List Str → List Str × Option CodesError
  | _, [], filters => (filters, none)
  | idx, (rc, topic) :: rest, filters =>
    if isFull env.cfg.unsubTopicsLimit idx then
      (filters, some
        { text :=
            "Cannot accumulate all the unsubscribe reported reason codes, insufficient memory",
          status := .internalError, reason := ReasonCode.implSpecificError })
    else if env.cfg.hasSubTopicVerification && decide (rc < ReasonCode.unspecifiedError) &&
        hasFilter filters topic then
      unsubackCodes (idx + 1) rest (filters.eraseIdx (filterIdx filters topic))
    else unsubackCodes (idx + 1) rest filters

/-- `UnsubscribeOp::handle(UnsubackMsg&)`. -/
def unsubscribeHandleUnsuback (op : UnsubscribeOp) (msg : CodesMsg) (s : Client) : Client :=
  if msg.packetId ≠ op.unsubMsg.packetId then s
  else
    let s := s.timerCancel op.timer
    let h := PropsHandler.ofProps env.cfg msg.props
    let fail (e : CodesError) (s : Client) :=
      ((s.errorLog e.text).unsubscribeComplete op e.status none).terminationWithReason env e.reason
    if op.unsubMsg.list.length ≠ msg.list.length then
      fail
        { text := "Amount of reason codes in UNSUBACK doesn't match amount of unsubcribe topics" } s
    else if h.protocolError then fail { text := "Protocol error in UNSUBACK properties" } s
    else
      let r := unsubackCodes env 0 (msg.list.zip op.unsubMsg.list) s.reuseState.subFilters
      -- removed even when the message is refused in the end
      let s := s.setSubFilters r.1
      match r.2 with
      | some e => fail e s
      | none =>
        match s.codesResponse env "UNSUBACK" msg.list h with
        | .error e => fail e s
        | .ok response => s.unsubscribeComplete op .complete (some response)

end Client

end Mqtt5
