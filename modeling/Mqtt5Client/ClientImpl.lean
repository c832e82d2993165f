import Mqtt5Client.KeepAliveOp

/-!
# Mqtt5Client — `ClientImpl`

The `…Prepare` functions, the topic alias table, and the dispatch of incoming messages to the
operations.
-/

namespace Mqtt5

/-- One check of a `…Prepare` function: whether it fails, the text it logs and its error code. -/
structure PrepareCheck where
  fails : Bool
  text : String
  ec : ErrorCode

/-- The table with a new entry at its `std::lower_bound` position. -/
def insertTopicAlias (table : List TopicAliasInfo) (info : TopicAliasInfo) :
    List TopicAliasInfo :=
  table.insertIdx (lowerBound table info.topic) info

namespace Client

variable (env : Env)

/-! ## Preparation -/

/-- Run the checks in order; the first failing one decides. Otherwise the operation is created. -/
def prepareWith (checks : List PrepareCheck) (create : Client → Client) (s : Client) :
    Client × ErrorCode :=
  match checks.find? (·.fails) with
  | some c => s.fail c.text c.ec
  | none => ({ create s with preparationLocked := true }, .success)

def opsFull (s : Client) : Bool := isFull env.cfg.opsLimit s.ops.length

/-- The text of a failed `m_preparationLocked` check. -/
def lockedText (name : String) : String :=
  "Another operation is being prepared, cannot prepare \"" ++ name ++
    "\" without \"send\" or \"cancel\" of the previous."

/-- The three checks on the connection. -/
def connectionChecks (allow initiate : String) (s : Client) : List PrepareCheck :=
  [⟨!s.sessionState.connected, "Client must be connected to allow " ++ allow ++ ".",
      .notConnected⟩,
   ⟨s.sessionState.disconnecting,
      "Session disconnection is in progress, cannot initiate " ++ initiate ++ ".",
      .disconnecting⟩,
   ⟨s.clientState.networkDisconnected, "Network is disconnected.", .networkDisconnected⟩]

def opsFullCheck (name : String) (s : Client) : PrepareCheck :=
  ⟨s.opsFull env, "Cannot start " ++ name ++ " operation, retry in next event loop iteration.",
    .retryLater⟩

def lockedCheck (name : String) (s : Client) : PrepareCheck :=
  ⟨s.preparationLocked, lockedText name, .preparationLocked⟩

def allocCheck (name : String) (limit size : Nat) : PrepareCheck :=
  ⟨isFull limit size, "Cannot allocate new " ++ name ++ " operation.", .outOfMemory⟩

/-- `ConnectOp::ConnectOp` and its registration. -/
def createConnectOp (s : Client) : Client :=
  let r := s.timerAlloc env
  let s := r.1
  { s.registerOp .connect with connectOps := s.connectOps ++
      [{ id := s.nextOpId, timer := r.2, responseTimeoutMs := s.configState.responseTimeoutMs }] }

/-- `ClientImpl::connectPrepare` behind the initialisation. -/
def connectPrepare : Client → Client × ErrorCode := fun s =>
  s.prepareWith
    [⟨!s.connectOps.isEmpty, "Another connect operation is in progress.", .busy⟩,
     ⟨s.sessionState.disconnecting,
        "Session disconnection is in progress, cannot initiate connection.", .disconnecting⟩,
     ⟨s.sessionState.connected, "Client is already connected.", .alreadyConnected⟩,
     s.opsFullCheck env "connect", s.lockedCheck "connect",
     allocCheck "connect" env.cfg.singleOpLimit s.connectOps.length]
    (createConnectOp env)

/-- `DisconnectOp::DisconnectOp` and its registration. -/
def createDisconnectOp (s : Client) : Client :=
  { s.registerOp .disconnect with disconnectOps := s.disconnectOps ++ [{ id := s.nextOpId }] }

/-- `ClientImpl::disconnectPrepare`. -/
def disconnectPrepare (s : Client) : Client × ErrorCode :=
  s.prepareWith
    [⟨!s.sessionState.connected, "Client must be connected to allow disconnect.", .notConnected⟩,
     ⟨!s.disconnectOps.isEmpty, "Another disconnect operation is in progress.", .busy⟩,
     ⟨s.sessionState.disconnecting,
        "Session disconnection is in progress, cannot initiate disconnection.", .disconnecting⟩,
     ⟨s.clientState.networkDisconnected, "Network is disconnected.", .networkDisconnected⟩,
     s.opsFullCheck env "disconnect", s.lockedCheck "disconnect",
     allocCheck "disconnect" env.cfg.singleOpLimit s.disconnectOps.length]
    createDisconnectOp

/-- `SubscribeOp::SubscribeOp` and its registration. -/
def createSubscribeOp (s : Client) : Client :=
  let r := s.timerAlloc env
  let s := r.1
  { s.registerOp .subscribe with subscribeOps := s.subscribeOps ++
      [{ id := s.nextOpId, timer := r.2, responseTimeoutMs := s.configState.responseTimeoutMs }] }

/-- `ClientImpl::subscribePrepare`. -/
def subscribePrepare (s : Client) : Client × ErrorCode :=
  s.prepareWith
    (s.connectionChecks "subscription" "subscription" ++
      [s.opsFullCheck env "subscribe", s.lockedCheck "subscribe",
       allocCheck "subscribe" env.cfg.subscribeOpsLimit s.subscribeOps.length])
    (createSubscribeOp env)

/-- `UnsubscribeOp::UnsubscribeOp` and its registration. -/
def createUnsubscribeOp (s : Client) : Client :=
  let r := s.timerAlloc env
  let s := r.1
  { s.registerOp .unsubscribe with unsubscribeOps := s.unsubscribeOps ++
      [{ id := s.nextOpId, timer := r.2, responseTimeoutMs := s.configState.responseTimeoutMs }] }

/-- `ClientImpl::unsubscribePrepare`. -/
def unsubscribePrepare (s : Client) : Client × ErrorCode :=
  s.prepareWith
    (s.connectionChecks "unsubscription" "unsubscription" ++
      [s.opsFullCheck env "subscribe", s.lockedCheck "unsubscribe",
       allocCheck "unsubscribe" env.cfg.unsubscribeOpsLimit s.unsubscribeOps.length])
    (createUnsubscribeOp env)

/-- `SendOp::SendOp` and its registration. -/
def createSendOp (s : Client) : Client :=
  let r := s.timerAlloc env
  let s := r.1.assert .timer r.2.isSome
  { s.registerOp .send with sendOps := s.sendOps ++ [{ id := s.nextOpId, responseTimer := r.2 }] }

/-- A publish operation that is allocated and destroyed again: its timer slot comes and goes. -/
def probeSendOp (s : Client) : Client :=
  let r := s.timerAlloc env
  (r.1.assert .timer r.2.isSome).timerFree r.2

/-- `ClientImpl::publishPrepare`. Unlike its siblings it allocates the operation before it checks
`m_preparationLocked`. -/
def publishPrepare (s : Client) : Client × ErrorCode :=
  let checks := s.connectionChecks "publish" "publish" ++
    [s.opsFullCheck env "publish", allocCheck "publish" env.cfg.sendOpsLimit s.sendOps.length]
  match checks.find? (·.fails) with
  | some c => s.fail c.text c.ec
  | none =>
    -- the operation exists already and goes again; the text is that of another function
    if s.preparationLocked then
      ((s.probeSendOp env).errorLog (lockedText "unsubscribe"), .preparationLocked)
    else ({ s.createSendOp env with preparationLocked := true }, .success)

/-- `ReauthOp::ReauthOp` and its registration. -/
def createReauthOp (s : Client) : Client :=
  let r := s.timerAlloc env
  let s := r.1
  { s.registerOp .reauth with reauthOps := s.reauthOps ++
      [{ id := s.nextOpId, timer := r.2, responseTimeoutMs := s.configState.responseTimeoutMs }] }

/-- `ClientImpl::reauthPrepare`. -/
def reauthPrepare (s : Client) : Client × ErrorCode :=
  s.prepareWith
    ([⟨!s.reauthOps.isEmpty, "Another reauth operation is in progress.", .busy⟩] ++
      s.connectionChecks "reauth" "reauth" ++
      [⟨s.sessionState.authMethod.isEmpty,
          "Reauthentication allowed only when CONNECT used authentication.", .notAuthenticated⟩,
       s.opsFullCheck env "reauth", s.lockedCheck "reauth",
       allocCheck "reauth" env.cfg.singleOpLimit s.reauthOps.length])
    (createReauthOp env)

/-! ## Topic aliases -/

def setSendAliases (table : List TopicAliasInfo) (s : Client) : Client :=
  { s with clientState := { s.clientState with sendTopicAliases := table } }

def setFreeAliases (ids : List Nat) (s : Client) : Client :=
  { s with sessionState := { s.sessionState with sendTopicFreeAliases := ids } }

/-- The alias `allocPubTopicAlias` hands out and the free list it leaves. -/
def nextTopicAlias (free : List Nat) : Nat × List Nat :=
  match free.getLast? with
  | some aliasId =>
    -- the free list, not the table, gives the number of a new alias
    if aliasId = 0 then (free.dropLast.length + 1, free.dropLast) else (aliasId, free.dropLast)
  | none => (free.length + 1, free)

/-- The end of `ClientImpl::allocPubTopicAlias`: a new entry in the table. -/
def addTopicAlias (topic : Str) (qos0RegsCount : Nat) (s : Client) : Client :=
  let next := nextTopicAlias s.sessionState.sendTopicFreeAliases
  ((s.setFreeAliases next.2).assert .allocPubTopicAlias
      (decide (next.1 ≤ s.sessionState.maxSendTopicAlias))).setSendAliases
    (insertTopicAlias s.clientState.sendTopicAliases ⟨topic, next.1, max qos0RegsCount 1⟩)

/-- `ClientImpl::allocPubTopicAlias`. -/
def allocPubTopicAlias (topic : Option Str) (qos0RegsCount : Nat) (s : Client) :
    Client × ErrorCode :=
  let table := s.clientState.sendTopicAliases
  if !env.cfg.hasTopicAliases then (s, .notSupported)
  else
    match topic with
    | none => s.fail "Invalid topic in the alias allocation attempt." .badParam
    | some [] => s.fail "Invalid topic in the alias allocation attempt." .badParam
    | some topic =>
      if !s.sessionState.connected then
        s.fail "Client must be connected to topic alias allocation." .notConnected
      else if s.sessionState.disconnecting then
        s.fail "Session disconnection is in progress, cannot allocate topic alias." .disconnecting
      -- a full table refuses a topic that has an alias, too
      else if s.sessionState.maxSendTopicAlias ≤ table.length then
        s.fail "Broker doesn't support usage of any more aliases." .badParam
      else if isFull env.cfg.topicAliasesLimit table.length then
        s.fail "Amount of topic aliases has reached their maximum allowed memory." .outOfMemory
      else if 255 < qos0RegsCount then
        s.fail "The qos0RegsCount value is too high" .badParam
      else
        -- an alias that exists is only counted anew
        match findTopicAlias table topic with
        | some _ =>
          (s.setSendAliases (table.modify (lowerBound table topic)
            ({ · with lowQosRegRemCount := max qos0RegsCount 1 })), .success)
        | none => (s.addTopicAlias topic qos0RegsCount, .success)

/-- `ClientImpl::freePubTopicAlias`. -/
def freePubTopicAlias (topic : Option Str) (s : Client) : Client × ErrorCode :=
  let table := s.clientState.sendTopicAliases
  if !env.cfg.hasTopicAliases then (s, .notSupported)
  else
    match topic with
    | none => s.fail "Invalid topic in the alias free attempt." .badParam
    | some [] => s.fail "Invalid topic in the alias free attempt." .badParam
    | some topic =>
      match findTopicAlias table topic with
      | none => s.fail "Alias for provided topic hasn't been allocated before." .badParam
      | some info =>
        ((s.setFreeAliases (s.sessionState.sendTopicFreeAliases ++ [info.aliasId]))
          |>.setSendAliases (table.eraseIdx (lowerBound table topic)), .success)

/-- `ClientImpl::pubTopicAliasCount`. -/
def pubTopicAliasCount (s : Client) : Nat :=
  if env.cfg.hasTopicAliases then s.clientState.sendTopicAliases.length else 0

/-- `ClientImpl::pubTopicAliasIsAllocated`. -/
def pubTopicAliasIsAllocated (topic : Option Str) (s : Client) : Bool :=
  if env.cfg.hasTopicAliases then
    match topic with
    | none => false
    | some topic => (findTopicAlias s.clientState.sendTopicAliases topic).isSome
  else false

/-! ## Settings -/

def modifyConfig (f : ConfigState → ConfigState) (s : Client) : Client :=
  { s with configState := f s.configState }

/-- `ClientImpl::setPublishOrdering`. -/
def setPublishOrdering (ordering : PublishOrdering) (s : Client) : Client :=
  s.modifyConfig ({ · with publishOrdering := ordering })

/-! ## Incoming messages -/

/-- The handlers of the messages that go to every operation; a type without a handler ignores the
message. -/
def dispatchTo (msg : InMsg) (ref : OpRef) (s : Client) : Client :=
  match ref.type, msg with
  | .connect, .connack m =>
    s.withOp (s.connectOp? ref.id) .opComplete (connectHandleConnack env · m)
  | .connect, .disconnect m _ =>
    s.withOp (s.connectOp? ref.id) .opComplete (connectHandleDisconnect env · m)
  | .connect, .auth m valid reply =>
    s.withOp (s.connectOp? ref.id) .opComplete (connectHandleAuth env · m valid reply)
  | .keepAlive, .pingresp =>
    s.withOp (s.keepAliveOp? ref.id) .opComplete keepAliveHandlePingresp
  | .keepAlive, .disconnect m valid =>
    s.withOp (s.keepAliveOp? ref.id) .opComplete (keepAliveHandleDisconnect env · m valid)
  -- any other message is a sign of life
  | .keepAlive, _ => s.withOp (s.keepAliveOp? ref.id) .opComplete restartRecvTimer
  | .subscribe, .suback m =>
    s.withOp (s.subscribeOp? ref.id) .opComplete (subscribeHandleSuback env · m)
  | .unsubscribe, .unsuback m =>
    s.withOp (s.unsubscribeOp? ref.id) .opComplete (unsubscribeHandleUnsuback env · m)
  | .reauth, .auth m _ reply =>
    s.withOp (s.reauthOp? ref.id) .opComplete (reauthHandleAuth env · m reply)
  | _, _ => s

/-- One round of the dispatch loop: it ends once the session is being terminated. -/
def dispatchAt (msg : InMsg) (s : Client) (idx : Nat) : Client :=
  if s.sessionState.disconnecting then s else visitOp (dispatchTo env msg) s idx

/-- `ClientImpl::handle(ProtMessage&)`. -/
def handleProtMessage (msg : InMsg) (s : Client) : Client :=
  if s.sessionState.disconnecting then s
  else (List.range s.ops.length).foldl (dispatchAt env msg) s

/-- `msg->dispatch(*this)`. -/
def handle (msg : InMsg) (s : Client) : Client :=
  match msg with
  | .publish m => s.handlePublish env m
  | .puback m => s.handlePuback env m
  | .pubrec m => s.handlePubrec env m
  | .pubrel m valid => s.handlePubrel env m valid
  | .pubcomp m => s.handlePubcomp env m
  | msg => s.handleProtMessage env msg

end Client

end Mqtt5
