import Mqtt5Client.ClientImpl
import Mqtt5Client.Lib.Machine

/-!
# Mqtt5Client — runs of the client

The library as the application sees it: a machine whose labels are the calls of the public API. A
call is carried out in pieces (`Task`): entering the API reports the elapsed time and runs the
expired timers, incoming data is handled packet by packet, and leaving the API programs the next
tick. Between two calls nothing is pending.

The application keeps to the documented use of handles: a handle is configured and sent once,
between `prepare` and `send`, and is not used after its operation is gone. The number of resend
attempts is an `unsigned`.

The API guard of a `send` function may destroy the operation that is being sent: its expired timers may
end the connection. The function carries on with the destroyed object, whose members keep their values,
so what follows the guard comes with the operation as it was before.
-/

namespace Mqtt5

/-- A piece of the data given to `processData`. The length of a packet is known as soon as its size
field has arrived. -/
inductive InputFrame where
  | complete (msg : InMsg) (len : Nat)
  | incomplete (len : Option Nat)
  | badSize
  | badContent (len : Nat)
  deriving DecidableEq, Repr

/-- The calls of the public API. `elapsed` is what the application's `cancelNextTickWait` callback
answers when it is asked during the call. -/
inductive Api where
  | tick (ms : Nat)
  | processData (elapsed : Nat) (frames : List InputFrame)
  | notifyNetworkDisconnected (elapsed : Nat)
  | connectPrepare (elapsed : Nat)
  | connectConfigBasic (op : OpId) (config : ConnectBasicConfig)
  | connectConfigWill (op : OpId) (config : ConnectWillConfig)
  | connectConfigExtra (op : OpId) (config : ConnectExtraConfig)
  | connectConfigAuth (op : OpId) (config : AuthConfig)
  | connectAddUserProp (op : OpId) (key value : Option Str)
  | connectAddWillUserProp (op : OpId) (key value : Option Str)
  | connectSetResponseTimeout (op : OpId) (ms : Nat)
  | connectSend (op : OpId) (cb : Bool) (elapsed : Nat)
  | connectCancel (op : OpId)
  | disconnectPrepare
  | disconnectConfigBasic (op : OpId) (config : DisconnectConfig)
  | disconnectAddUserProp (op : OpId) (key value : Option Str)
  | disconnectSend (op : OpId) (elapsed : Nat)
  | disconnectCancel (op : OpId)
  | subscribePrepare
  | subscribeConfigTopic (op : OpId) (config : SubscribeTopicConfig)
  | subscribeConfigExtra (op : OpId) (subId : Nat)
  | subscribeAddUserProp (op : OpId) (key value : Option Str)
  | subscribeSetResponseTimeout (op : OpId) (ms : Nat)
  | subscribeSend (op : OpId) (cb : Bool) (elapsed : Nat)
  | subscribeCancel (op : OpId)
  | unsubscribePrepare
  | unsubscribeConfigTopic (op : OpId) (topic : Option Str)
  | unsubscribeAddUserProp (op : OpId) (key value : Option Str)
  | unsubscribeSetResponseTimeout (op : OpId) (ms : Nat)
  | unsubscribeSend (op : OpId) (cb : Bool) (elapsed : Nat)
  | unsubscribeCancel (op : OpId)
  | publishPrepare
  | publishConfigBasic (op : OpId) (config : PublishBasicConfig)
  | publishConfigExtra (op : OpId) (config : PublishExtraConfig)
  | publishAddUserProp (op : OpId) (key value : Option Str)
  | publishSetResendAttempts (op : OpId) (attempts : Nat)
  | publishSend (op : OpId) (cb : Bool) (elapsed : Nat)
  | publishCancel (op : OpId)
  | reauthPrepare
  | reauthConfigAuth (op : OpId) (config : AuthConfig)
  | reauthAddUserProp (op : OpId) (key value : Option Str)
  | reauthSetResponseTimeout (op : OpId) (ms : Nat)
  | reauthSend (op : OpId) (cb : Bool) (elapsed : Nat)
  | reauthCancel (op : OpId)
  | pubTopicAliasAlloc (topic : Option Str) (qos0RegsCount : Nat)
  | pubTopicAliasFree (topic : Option Str)
  | publishSetOrdering (ordering : PublishOrdering)
  | setDefaultResponseTimeout (ms : Nat)
  | setVerifyOutgoingTopic (enabled : Bool)
  | setVerifyIncomingTopic (enabled : Bool)
  | setVerifySubFilter (enabled : Bool)
  deriving DecidableEq, Repr

/-- The pieces of a call that are still to be carried out. -/
inductive Task where
  | enter (elapsed : Nat)
  | exit
  | timeout (cb : TimeoutCb)
  | input (frames : List InputFrame)
  | frames (frames : List InputFrame)
  | networkDown
  | initInternal
  | connectPrepare
  | startTimer (ref : OpRef) (timer : Option Nat) (ms : Nat)
  | disconnectSend (op : DisconnectOp)
  | publishDoSend (op : SendOp)
  | publishAbandon (op : SendOp)
  | ret (ec : ErrorCode)
  deriving DecidableEq, Repr

namespace Client

variable (env : Env)

/-! ## The API guard -/

/-- `ClientImpl::doApiEnter`: the expired timers run before the body of the call. -/
def doApiEnter (elapsed : Nat) (s : Client) : Client × List Task :=
  let s := { s with apiEnterCount := s.apiEnterCount + 1 }
  -- a nested call, or no timer the application was asked to run
  if 1 < s.apiEnterCount ∨ !s.callbacks.cancelNextTickWait ∨ s.timerMgr.getMinWait = 0 then (s, [])
  else
    let r := s.timerMgr.expire elapsed
    ({ s.emit .cancelNextTickWait with timerMgr := r.1 }, r.2.map .timeout)

/-- `ClientImpl::doApiExit`. -/
def doApiExit (s : Client) : Client :=
  let s := { s with apiEnterCount := s.apiEnterCount - 1 }
  if 0 < s.apiEnterCount then s
  else
    let s := s.cleanOps
    if s.callbacks.nextTickProgram && s.timerMgr.getMinWait != 0 then
      s.emit (.nextTickProgram s.timerMgr.getMinWait)
    else s

/-! ## Timeouts -/

/-- `ConnectOp::opTimeoutInternal` and its siblings, and the timeouts of the other operations. -/
def handleTimeout (cb : TimeoutCb) (s : Client) : Client :=
  match cb with
  | .sessionExpiry => s.sessionExpiryTimeout env
  | .connectTimeout id => s.withOp (s.connectOp? id) .tick (connectComplete · .timeout none)
  | .keepAlivePing id => s.withOp (s.keepAliveOp? id) .tick (sendPing env)
  | .keepAliveRecv id => s.withOp (s.keepAliveOp? id) .tick (sendPing env)
  | .keepAliveResp id => s.withOp (s.keepAliveOp? id) .tick (pingTimeout env)
  | .subscribeTimeout id => s.withOp (s.subscribeOp? id) .tick (subscribeComplete · .timeout none)
  | .unsubscribeTimeout id =>
    s.withOp (s.unsubscribeOp? id) .tick (unsubscribeComplete · .timeout none)
  | .recvTimeout id => s.withOp (s.recvOp? id) .tick recvOpResponseTimeout
  | .sendTimeout id => s.withOp (s.sendOp? id) .tick (sendResponseTimeout env)
  | .reauthTimeout id => s.withOp (s.reauthOp? id) .tick (reauthComplete · .timeout none)

/-! ## Incoming data -/

/-- `m_maxRecvPacketSize` is exceeded. -/
def frameTooLarge (len : Nat) (s : Client) : Bool :=
  decide (0 < s.sessionState.maxRecvPacketSize) && decide (s.sessionState.maxRecvPacketSize < len)

/-- The scope guard of `processData`. -/
def disconnectOnExit (reason : ReasonCode) (s : Client) : Client :=
  (s.sendDisconnectMsg env reason).brokerDisconnected env (some .protocolError) .protocolError none

def packetTooLarge (s : Client) : Client :=
  (s.errorLog "The message length exceeded max packet size").disconnectOnExit env
    ReasonCode.packetTooLarge

/-- One round of the loop of `processData`; `true` when the loop goes on. -/
def processFrame (frame : InputFrame) (s : Client) : Client × Bool :=
  match frame with
  | .incomplete none => (s, false)
  -- the header tells the size before the packet is complete
  | .incomplete (some len) => (if s.frameTooLarge len then s.packetTooLarge env else s, false)
  | .badSize => (s.disconnectOnExit env ReasonCode.protocolError, false)
  | .badContent len =>
    if s.frameTooLarge len then (s.packetTooLarge env, false)
    else
      ((s.errorLog "Unexpected error in framing / payload parsing").disconnectOnExit env
        ReasonCode.protocolError, false)
  | .complete msg len =>
    if s.frameTooLarge len then (s.packetTooLarge env, false) else (s.handle env msg, true)

/-- The beginning of `ClientImpl::processData`. -/
def processInput (frames : List InputFrame) (s : Client) : Client × List Task :=
  let s := s.assert .processData (!s.clientState.networkDisconnected)
  if s.clientState.networkDisconnected then
    (s.errorLog "Incoming data when network is disconnected", [])
  else (s, [.frames frames])

/-- The body of `ClientImpl::notifyNetworkDisconnected`. -/
def networkDown (s : Client) : Client :=
  let s := { s with clientState := { s.clientState with networkDisconnected := true } }
  if s.sessionState.disconnecting then s
  else s.brokerDisconnected env none .brokerDisconnected none

/-! ## Tasks -/

/-- A member function of an operation that is live, or else of what its API guard left of it. -/
def onMembers {α β : Type} (live : Option α) (gone : α) (f : α → Client → β) (s : Client) : β :=
  match live with
  | some op => f op s
  | none => f gone (s.fault (.useAfterFree .send))

/-- `restartTimer` in a `send` function; when the operation is gone, its former slot is armed. -/
def restartOr {α : Type} (live : Option α) (restart : α → Client → Client) (timer : Option Nat)
    (ms : Nat) (cb : TimeoutCb) (s : Client) : Client :=
  match live with
  | some op => restart op s
  | none => (s.fault (.useAfterFree .timer)).timerWait timer ms cb

/-- Start the response timer of an operation that was just sent. -/
def startTimer (ref : OpRef) (timer : Option Nat) (ms : Nat) (s : Client) : Client :=
  match ref.type with
  | .connect =>
    s.restartOr (s.connectOp? ref.id) restartConnectTimer timer ms (.connectTimeout ref.id)
  | .subscribe =>
    s.restartOr (s.subscribeOp? ref.id) restartSubscribeTimer timer ms (.subscribeTimeout ref.id)
  | .unsubscribe =>
    s.restartOr (s.unsubscribeOp? ref.id) restartUnsubscribeTimer timer ms
      (.unsubscribeTimeout ref.id)
  | .reauth => s.restartOr (s.reauthOp? ref.id) restartReauthTimer timer ms (.reauthTimeout ref.id)
  | _ => s

/-- The part of `SendOp::send` behind the API guard: a failed send completes the operation, after
the API is left. -/
def publishDoSend (op : SendOp) (s : Client) : Client × List Task :=
  let r := s.onMembers (s.sendOp? op.id) op (sendOpDoSend env)
  if r.2 = .success then (r.1, [.exit, .ret .success])
  else (r.1, [.exit, .publishAbandon op, .ret r.2])

/-- Carry out one piece of a call; the second component is what is to be done next. -/
def runTask (task : Task) (s : Client) : Client × List Task :=
  match task with
  | .enter elapsed => s.doApiEnter elapsed
  | .exit => (s.doApiExit, [])
  | .timeout cb => (s.handleTimeout env cb, [])
  | .input frames => s.processInput frames
  | .frames [] => (s, [])
  | .frames (frame :: rest) =>
    let r := s.processFrame env frame
    (r.1, if r.2 then [.frames rest] else [])
  | .networkDown => (s.networkDown env, [])
  -- CONNECT is prepared behind the guard of the initialisation
  | .initInternal =>
    let r := s.initInternal env
    (r.1, if r.2 = .success then [.exit, .connectPrepare] else [.exit, .ret r.2])
  | .connectPrepare =>
    let r := s.connectPrepare env
    (r.1, [.ret r.2])
  | .startTimer ref timer ms => (s.startTimer ref timer ms, [])
  | .disconnectSend op => (s.onMembers (s.disconnectOp? op.id) op (disconnectSend env), [])
  | .publishDoSend op => s.publishDoSend env op
  | .publishAbandon op => (s.onMembers (s.sendOp? op.id) op (sendOpComplete env), [])
  | .ret ec => (s.emit (.apiReturn ec), [])

/-! ## Calls -/

/-- A call that returns a code at once. -/
def returning (r : Client × ErrorCode) : Client × List Task := (r.1, [.ret r.2])

/-- Use a handle in a call that returns a code at once. -/
def onHandle {α : Type} (op : Option α) (f : α → Client → Client × ErrorCode) (s : Client) :
    Client × List Task :=
  match op with
  | none => (s.fault (.useAfterFree .apiHandle), [])
  | some op => returning (f op s)

/-- Cancel the operation behind a handle. -/
def cancelHandle {α : Type} (op : Option α) (f : α → Client → Client) (s : Client) :
    Client × List Task :=
  s.onHandle op fun op s => (f op s, .success)

/-- The `send` functions: what follows the API guard is done by later tasks. -/
def sendHandle {α : Type} (op : Option α) (f : α → Client → Client × ErrorCode × Bool)
    (next : α → Client → List Task) (s : Client) : Client × List Task :=
  match op with
  | none => (s.fault (.useAfterFree .apiHandle), [])
  | some op =>
    let r := f op s
    (r.1, if r.2.2 then next op r.1 else [.ret r.2.1])

/-- What `SubscribeOp::send` and its siblings do behind the API guard. -/
def enterAndStart (elapsed : Nat) (ref : OpRef) (timer : Option Nat) (ms : Nat) : List Task :=
  [.enter elapsed, .startTimer ref timer ms, .exit, .ret .success]

/-- The beginning of `ClientImpl::connectPrepare`. -/
def beginConnectPrepare (elapsed : Nat) (s : Client) : Client × List Task :=
  let s := { s with clientState := { s.clientState with networkDisconnected := false } }
  if s.clientState.initialized then (s, [.connectPrepare])
  else if 0 < s.apiEnterCount then
    (s.errorLog "Cannot prepare connect from within callback", [.ret .retryLater])
  else (s, [.enter elapsed, .initInternal])

/-- `ClientImpl::tick` up to the expired timers. -/
def tick (ms : Nat) (s : Client) : Client × List Task :=
  let s := s.assert .tick (s.apiEnterCount == 0)
  let r := s.timerMgr.expire ms
  ({ s with apiEnterCount := s.apiEnterCount + 1, timerMgr := r.1 }, r.2.map .timeout ++ [.exit])

/-- The connect handles. -/
def callConnect (api : Api) (s : Client) : Client × List Task :=
  match api with
  | .connectPrepare elapsed => s.beginConnectPrepare elapsed
  | .connectConfigBasic id config =>
    s.onHandle (s.connectOp? id) (connectConfigBasic · config)
  | .connectConfigWill id config => s.onHandle (s.connectOp? id) (connectConfigWill env · config)
  | .connectConfigExtra id config =>
    s.onHandle (s.connectOp? id) (connectConfigExtra env · config)
  | .connectConfigAuth id config => s.onHandle (s.connectOp? id) (connectConfigAuth env · config)
  | .connectAddUserProp id key value =>
    s.onHandle (s.connectOp? id) (connectAddUserProp env · key value)
  | .connectAddWillUserProp id key value =>
    s.onHandle (s.connectOp? id) (connectAddWillUserProp env · key value)
  | .connectSetResponseTimeout id ms =>
    s.onHandle (s.connectOp? id) fun op s =>
      (s.setConnectOp { op with responseTimeoutMs := ms }, .success)
  | .connectSend id cb elapsed =>
    s.sendHandle (s.connectOp? id) (connectSend env · cb)
      fun op _ => enterAndStart elapsed ⟨.connect, id⟩ op.timer op.responseTimeoutMs
  | .connectCancel id => s.cancelHandle (s.connectOp? id) connectCancel
  | .disconnectPrepare => returning (s.disconnectPrepare env)
  | .disconnectConfigBasic id config =>
    s.onHandle (s.disconnectOp? id) (disconnectConfigBasic env · config)
  | .disconnectAddUserProp id key value =>
    s.onHandle (s.disconnectOp? id) (disconnectAddUserProp env · key value)
  | .disconnectSend id elapsed =>
    s.sendHandle (s.disconnectOp? id)
      (fun op s => (s.allowNextPrepare.setDisconnectOp { op with sent := true }, .success, true))
      fun op _ => [.enter elapsed, .disconnectSend op, .exit, .ret .success]
  | .disconnectCancel id => s.cancelHandle (s.disconnectOp? id) disconnectCancel
  | .reauthPrepare => returning (s.reauthPrepare env)
  | .reauthConfigAuth id config => s.onHandle (s.reauthOp? id) (reauthConfigAuth env · config)
  | .reauthAddUserProp id key value =>
    s.onHandle (s.reauthOp? id) (reauthAddUserProp env · key value)
  | .reauthSetResponseTimeout id ms =>
    s.onHandle (s.reauthOp? id) fun op s =>
      (s.setReauthOp { op with responseTimeoutMs := ms }, .success)
  | .reauthSend id cb elapsed =>
    s.sendHandle (s.reauthOp? id) (reauthSend env · cb)
      fun op _ => enterAndStart elapsed ⟨.reauth, id⟩ op.timer op.responseTimeoutMs
  | .reauthCancel id => s.cancelHandle (s.reauthOp? id) reauthCancel
  | _ => (s, [])

/-- The subscribe and unsubscribe handles. -/
def callSubscribe (api : Api) (s : Client) : Client × List Task :=
  match api with
  | .subscribePrepare => returning (s.subscribePrepare env)
  | .subscribeConfigTopic id config =>
    s.onHandle (s.subscribeOp? id) (subscribeConfigTopic env · config)
  | .subscribeConfigExtra id subId =>
    s.onHandle (s.subscribeOp? id) (subscribeConfigExtra env · subId)
  | .subscribeAddUserProp id key value =>
    s.onHandle (s.subscribeOp? id) (subscribeAddUserProp env · key value)
  | .subscribeSetResponseTimeout id ms =>
    s.onHandle (s.subscribeOp? id) fun op s =>
      (s.setSubscribeOp { op with responseTimeoutMs := ms }, .success)
  | .subscribeSend id cb elapsed =>
    s.sendHandle (s.subscribeOp? id) (subscribeSend env · cb)
      fun op _ => enterAndStart elapsed ⟨.subscribe, id⟩ op.timer op.responseTimeoutMs
  | .subscribeCancel id => s.cancelHandle (s.subscribeOp? id) subscribeCancel
  | .unsubscribePrepare => returning (s.unsubscribePrepare env)
  | .unsubscribeConfigTopic id topic =>
    s.onHandle (s.unsubscribeOp? id) (unsubscribeConfigTopic env · topic)
  | .unsubscribeAddUserProp id key value =>
    s.onHandle (s.unsubscribeOp? id) (unsubscribeAddUserProp env · key value)
  | .unsubscribeSetResponseTimeout id ms =>
    s.onHandle (s.unsubscribeOp? id) fun op s =>
      (s.setUnsubscribeOp { op with responseTimeoutMs := ms }, .success)
  | .unsubscribeSend id cb elapsed =>
    s.sendHandle (s.unsubscribeOp? id) (unsubscribeSend env · cb)
      fun op _ => enterAndStart elapsed ⟨.unsubscribe, id⟩ op.timer op.responseTimeoutMs
  | .unsubscribeCancel id => s.cancelHandle (s.unsubscribeOp? id) unsubscribeCancel
  | _ => (s, [])

/-- The publish handles. -/
def callPublish (api : Api) (s : Client) : Client × List Task :=
  match api with
  | .publishPrepare => returning (s.publishPrepare env)
  | .publishConfigBasic id config => s.onHandle (s.sendOp? id) (sendConfigBasic env · config)
  | .publishConfigExtra id config => s.onHandle (s.sendOp? id) (sendConfigExtra env · config)
  | .publishAddUserProp id key value =>
    s.onHandle (s.sendOp? id) (sendAddUserProp env · key value)
  | .publishSetResendAttempts id attempts =>
    s.onHandle (s.sendOp? id) (sendSetResendAttempts · attempts)
  | .publishSend id cb elapsed =>
    s.sendHandle (s.sendOp? id) (sendOpSend env · cb)
      -- the operation as it is now, in case the guard destroys it
      fun op s => [.enter elapsed, .publishDoSend ((s.sendOp? id).getD op)]
  | .publishCancel id => s.cancelHandle (s.sendOp? id) (sendOpCancel env)
  | .pubTopicAliasAlloc topic count => returning (s.allocPubTopicAlias env topic count)
  | .pubTopicAliasFree topic => returning (s.freePubTopicAlias env topic)
  | .publishSetOrdering ordering => (s.setPublishOrdering ordering, [.ret .success])
  | _ => (s, [])

/-- The settings of `ConfigState`; a verification that is not compiled in cannot be set. -/
def callSetting (supported : Bool) (f : ConfigState → ConfigState) (s : Client) :
    Client × List Task :=
  if supported then (s.modifyConfig f, [.ret .success]) else (s, [.ret .notSupported])

/-- The beginning of an API call. -/
def call (api : Api) (s : Client) : Client × List Task :=
  match api with
  | .tick ms => s.tick ms
  | .processData elapsed frames => (s, [.enter elapsed, .input frames, .exit])
  | .notifyNetworkDisconnected elapsed => (s, [.enter elapsed, .networkDown, .exit])
  | .setDefaultResponseTimeout ms =>
    if ms = 0 then (s, [.ret .badParam])
    else s.callSetting true ({ · with responseTimeoutMs := ms })
  | .setVerifyOutgoingTopic b =>
    s.callSetting env.cfg.hasTopicFormatVerification ({ · with verifyOutgoingTopic := b })
  | .setVerifyIncomingTopic b =>
    s.callSetting env.cfg.hasTopicFormatVerification ({ · with verifyIncomingTopic := b })
  | .setVerifySubFilter b =>
    s.callSetting env.cfg.hasSubTopicVerification ({ · with verifySubFilter := b })
  | .publishPrepare | .publishConfigBasic .. | .publishConfigExtra .. | .publishAddUserProp ..
  | .publishSetResendAttempts .. | .publishSend .. | .publishCancel .. | .pubTopicAliasAlloc ..
  | .pubTopicAliasFree .. | .publishSetOrdering .. => s.callPublish env api
  | .subscribePrepare | .subscribeConfigTopic .. | .subscribeConfigExtra ..
  | .subscribeAddUserProp .. | .subscribeSetResponseTimeout .. | .subscribeSend ..
  | .subscribeCancel .. | .unsubscribePrepare | .unsubscribeConfigTopic ..
  | .unsubscribeAddUserProp .. | .unsubscribeSetResponseTimeout .. | .unsubscribeSend ..
  | .unsubscribeCancel .. => s.callSubscribe env api
  | api => s.callConnect env api

end Client

/-! ## The documented use of handles -/

/-- A handle may be configured and sent: it is live and was not sent yet. -/
def unsentOp {α : Type} (op : Option α) (sent : α → Bool) : Bool := op.any (fun op => !sent op)

/-- A handle may be cancelled: it is live, and when it was sent then successfully. -/
def liveOp {α : Type} (op : Option α) (sent cb : α → Bool) : Bool :=
  op.any (fun op => !sent op || cb op)

/-- What the documentation asks of the application before a call. -/
def Api.legal (api : Api) (s : Client) : Bool :=
  match api with
  | .connectConfigBasic id _ | .connectConfigWill id _ | .connectConfigExtra id _
  | .connectConfigAuth id _ | .connectAddUserProp id _ _ | .connectAddWillUserProp id _ _
  | .connectSetResponseTimeout id _ | .connectSend id _ _ => unsentOp (s.connectOp? id) (·.sent)
  | .connectCancel id => liveOp (s.connectOp? id) (·.sent) (·.cb)
  | .disconnectConfigBasic id _ | .disconnectAddUserProp id _ _ | .disconnectSend id _
  | .disconnectCancel id => unsentOp (s.disconnectOp? id) (·.sent)
  | .subscribeConfigTopic id _ | .subscribeConfigExtra id _ | .subscribeAddUserProp id _ _
  | .subscribeSetResponseTimeout id _ | .subscribeSend id _ _ =>
    unsentOp (s.subscribeOp? id) (·.sent)
  | .subscribeCancel id => liveOp (s.subscribeOp? id) (·.sent) (·.cb)
  | .unsubscribeConfigTopic id _ | .unsubscribeAddUserProp id _ _
  | .unsubscribeSetResponseTimeout id _ | .unsubscribeSend id _ _ =>
    unsentOp (s.unsubscribeOp? id) (·.sent)
  | .unsubscribeCancel id => liveOp (s.unsubscribeOp? id) (·.sent) (·.cb)
  | .publishConfigBasic id _ | .publishConfigExtra id _ | .publishAddUserProp id _ _
  | .publishSend id _ _ => unsentOp (s.sendOp? id) (·.sent)
  | .publishSetResendAttempts id attempts =>
    unsentOp (s.sendOp? id) (·.sent) && decide (attempts ≤ maxU32)
  | .publishCancel id => (s.sendOp? id).isSome
  | .reauthConfigAuth id _ | .reauthAddUserProp id _ _ | .reauthSetResponseTimeout id _
  | .reauthSend id _ _ => unsentOp (s.reauthOp? id) (·.sent)
  | .reauthCancel id => liveOp (s.reauthOp? id) (·.sent) (·.cb)
  | _ => true

/-! ## The machine -/

/-- The client with the rest of the call it is in. -/
structure Sys where
  client : Client
  pending : List Task

/-- A step begins a call or carries on with the pending one. -/
inductive Label where
  | call (api : Api)
  | run
  deriving DecidableEq, Repr

/-- The successor of a state. A call begins only when the previous one has returned. -/
def Sys.step (env : Env) (sys : Sys) : Label → Option Sys
  | .call api =>
    if sys.pending.isEmpty && api.legal sys.client then
      let r := sys.client.call env api
      some ⟨r.1, r.2⟩
    else none
  | .run =>
    match sys.pending with
    | [] => none
    | task :: rest =>
      -- what a task leaves comes before the rest of the call
      let r := sys.client.runTask env task
      some ⟨r.1, r.2 ++ rest⟩

/-- The labels of a run given call by call, each with the number of its further steps. -/
def script (calls : List (Api × Nat)) : List Label :=
  calls.flatMap fun c => .call c.1 :: List.replicate c.2 .run

/-- A freshly allocated client with the application's callbacks and settings. -/
def Sys.Init (sys : Sys) : Prop := ∃ cbs config, sys = ⟨Client.init cbs config, []⟩

/-- The client library as a machine. -/
def machine (env : Env) : Machine Sys Label := ⟨Sys.Init, Sys.step env⟩

/-! ## Concrete runs -/

/-- The build without memory limits. -/
def Env.dynamic : Env := .mqtt {}

/-- A build without dynamic memory, with the smallest pools. -/
def Env.static : Env := .mqtt
  { hasDynMemAlloc := false, maxOutputPacketSize := 128, userPropsLimit := 2, receiveMaxLimit := 1,
    sendMaxLimit := 1, topicAliasesLimit := 2, subIdsLimit := 2, subscribeOpsLimit := 1,
    unsubscribeOpsLimit := 1, subFiltersLimit := 4, propsLimit := 8, subTopicsLimit := 2,
    unsubTopicsLimit := 2 }

/-- A client with default settings and all callbacks. -/
def Sys.fresh : Sys := ⟨Client.init {} {}, []⟩

/-- The calls of a first connection, with the CONNACK that answers it. -/
def connectCalls (clean : Bool) (extra : ConnectExtraConfig) (connack : ConnackMsg) :
    List (Api × Nat) :=
  [(.connectPrepare 0, 5),
   (.connectConfigBasic 0 { clientId := some ['c'], keepAlive := 0, cleanStart := clean }, 1),
   (.connectConfigExtra 0 extra, 1), (.connectSend 0 true 0, 4),
   (.processData 0 [.complete (.connack connack) 10], 5)]

/-- The calls of a further connection, up to its CONNACK. -/
def reconnectCalls (op : OpId) (clean : Bool) (extra : ConnectExtraConfig) : List (Api × Nat) :=
  [(.connectPrepare 0, 5),
   (.connectConfigBasic op { clientId := some ['c'], keepAlive := 0, cleanStart := clean }, 1),
   (.connectConfigExtra op extra, 1), (.connectSend op true 0, 4)]

/-- A publish, and the further steps of its `send` call: four, or one when it is postponed. -/
def publishCalls (op : OpId) (qos : Qos) (steps : Nat) : List (Api × Nat) :=
  [(.publishPrepare, 1), (.publishConfigBasic op { topic := some ['t'], qos := qos }, 1),
   (.publishSend op true 0, steps)]

/-- A publish that is sent when the broker has not answered the ping in time: the API guard of the `send`
call ends the connection, and with it the operation. -/
def lateSendCalls (qos : Qos) : List (Api × Nat) :=
  [(.connectPrepare 0, 5),
   (.connectConfigBasic 0 { clientId := some ['c'], keepAlive := 10, cleanStart := true }, 1),
   (.connectSend 0 true 0, 4),
   (.processData 0
     [.complete (.connack { sessionPresent := false, reasonCode := ReasonCode.success }) 10], 5),
   (.tick 10000, 2), (.publishPrepare, 1),
   (.publishConfigBasic 2 { topic := some ['t'], qos := qos }, 1), (.publishSend 2 true 2000, 5)]

/-- One packet in a buffer. -/
def packet (msg : InMsg) : Api := .processData 0 [.complete msg 10]

/-- What a run of the fresh client ends in is reachable. -/
theorem exists_reach_ok (env : Env) (ok : Sys → Label → Prop) [∀ sys l, Decidable (ok sys l)]
    (calls : List (Api × Nat)) (p : Sys → Prop) [∀ sys, Decidable (p sys)]
    (h : ((machine env).exec (fun sys l => decide (ok sys l)) Sys.fresh (script calls)).any
      (fun sys => decide (p sys)) = true) : ∃ sys, (machine env).Reach ok sys ∧ p sys := by
  have hinit : (machine env).init Sys.fresh := ⟨{}, {}, rfl⟩
  have hok : ∀ (sys : Sys) (l : Label), decide (ok sys l) = true → ok sys l :=
    fun _ _ => of_decide_eq_true
  obtain ⟨sys, hreach, hp⟩ := Machine.exists_reach_of_exec hok hinit h
  exact ⟨sys, hreach, of_decide_eq_true hp⟩

theorem exists_reach_fresh (env : Env) (calls : List (Api × Nat)) (p : Sys → Prop)
    [∀ sys, Decidable (p sys)]
    (h : ((machine env).exec (fun _ _ => true) Sys.fresh (script calls)).any
      (fun sys => decide (p sys)) = true) :
    ∃ sys, (machine env).Reach (fun _ _ => True) sys ∧ p sys :=
  exists_reach_ok env (fun _ _ => True) calls p h

end Mqtt5
