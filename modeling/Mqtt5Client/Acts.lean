import Mathlib.Logic.Relation
import Mqtt5Client.Run

/-!
# Mqtt5Client — the elementary updates

What the library can do to its state, said once: every step of the machine is a sequence of the
updates below (`Acts`), and what holds of every update holds of every step. An update is as large as it
has to be to leave the bookkeeping of `ClientImpl` in order: an operation is created with its timers
and its pointer in `m_ops`, and it is completed with both.

An update has a kind (`Act`). Most kinds every step may use; the others are admitted by the flag and
the `Scope` of `Acts`.
-/

namespace Mqtt5

/-! ## Compound updates -/

namespace Client

variable (env : Env)

/-- The reception `createRecvOp` allocates and registers. -/
def registerRecvOp (s : Client) : Client :=
  let r := s.timerAlloc env
  let s := r.1.assert .timer r.2.isSome
  { s.registerOp .recv with recvOps := s.recvOps ++ [{ id := s.nextOpId, responseTimer := r.2 }] }

/-- `SubscribeOp::send` takes a packet identifier. -/
def takeSubscribe (op : SubscribeOp) (s : Client) : Client :=
  let r := s.allocPacketId env
  r.1.setSubscribeOp { op with cb := true, subMsg := { op.subMsg with packetId := r.2 } }

/-- `UnsubscribeOp::send` takes a packet identifier. -/
def takeUnsubscribe (op : UnsubscribeOp) (s : Client) : Client :=
  let r := s.allocPacketId env
  r.1.setUnsubscribeOp { op with cb := true, unsubMsg := { op.unsubMsg with packetId := r.2 } }

/-- `SendOp::send` takes a packet identifier. -/
def takeSend (op : SendOp) (s : Client) : Client :=
  let r := s.allocPacketId env
  r.1.modifySendOp op.id fun _ => { op with pubMsg := { op.pubMsg with packetId := r.2 } }

/-- `ClientImpl::opComplete` of an operation that is not a publish. -/
def completeRef (ref : OpRef) (s : Client) : Client :=
  match ref.type with
  | .connect => s.opCompleteConnect ref.id
  | .keepAlive => s.opCompleteKeepAlive ref.id
  | .disconnect => s.opCompleteDisconnect ref.id
  | .subscribe => s.opCompleteSubscribe ref.id
  | .unsubscribe => s.opCompleteUnsubscribe ref.id
  | .recv => s.opCompleteRecv ref.id
  | .send => s
  | .reauth => s.opCompleteReauth ref.id

/-- A publish is transmitted for the first time: it is marked and counted. -/
def markPublished (id : OpId) (s : Client) : Client :=
  { s with clientState := { s.clientState with
      inFlightSends := s.clientState.inFlightSends + 1 } }.modifySendOp id
    ({ · with published := true, sendAttempts := 1 })

/-- A registered publish is no longer counted, and no longer registered. -/
def releaseSendOp (op : SendOp) (s : Client) : Client :=
  { s with
    clientState := { s.clientState with
      inFlightSends :=
        if op.published then decU32 s.clientState.inFlightSends else s.clientState.inFlightSends }
    ops := nullify ⟨.send, op.id⟩ s.ops
    opsDeleted := true }

/-- `SendOp::opCompleteInternal` of a registered publish, up to the resumption. -/
def destroySendOp (op : SendOp) (s : Client) : Client := (s.releaseSendOp op).eraseSendOp op

/-- The timer is the one the operation behind a timeout uses for it. -/
def owns (s : Client) (timer : Option Nat) : TimeoutCb → Prop
  | .sessionExpiry => timer = s.sessionExpiryTimer
  | .connectTimeout id => ∃ op ∈ s.connectOps, op.id = id ∧ op.timer = timer
  | .keepAlivePing id => ∃ op ∈ s.keepAliveOps, op.id = id ∧ op.pingTimer = timer
  | .keepAliveRecv id => ∃ op ∈ s.keepAliveOps, op.id = id ∧ op.recvTimer = timer
  | .keepAliveResp id => ∃ op ∈ s.keepAliveOps, op.id = id ∧ op.respTimer = timer
  | .subscribeTimeout id => ∃ op ∈ s.subscribeOps, op.id = id ∧ op.timer = timer
  | .unsubscribeTimeout id => ∃ op ∈ s.unsubscribeOps, op.id = id ∧ op.timer = timer
  | .recvTimeout id => ∃ op ∈ s.recvOps, op.id = id ∧ op.responseTimer = timer
  | .sendTimeout id => ∃ op ∈ s.sendOps, op.id = id ∧ op.responseTimer = timer
  | .reauthTimeout id => ∃ op ∈ s.reauthOps, op.id = id ∧ op.timer = timer

/-- The identities of the live operations of a type. -/
def ids (s : Client) : OpType → List OpId
  | .connect => s.connectOps.map (·.id)
  | .keepAlive => s.keepAliveOps.map (·.id)
  | .disconnect => s.disconnectOps.map (·.id)
  | .subscribe => s.subscribeOps.map (·.id)
  | .unsubscribe => s.unsubscribeOps.map (·.id)
  | .recv => s.recvOps.map (·.id)
  | .send => s.sendOps.map (·.id)
  | .reauth => s.reauthOps.map (·.id)

/-- The operation is registered or in the list of its type: in every state that is reached it is both,
or neither. -/
def Live (s : Client) (ref : OpRef) : Prop := some ref ∈ s.ops ∨ ref.id ∈ s.ids ref.type

/-- The checks of the operations that need a connection. -/
structure Online (s : Client) : Prop where
  connected : s.sessionState.connected = true
  disconnecting : s.sessionState.disconnecting = false
  network : s.clientState.networkDisconnected = false

/-- The checks of CONNECT. -/
structure Offline (s : Client) : Prop where
  connected : s.sessionState.connected = false
  disconnecting : s.sessionState.disconnecting = false
  initialized : s.clientState.initialized = true

end Client

/-- The timeout of the response timer a `send` function starts. -/
def OpType.responseCb (type : OpType) (id : OpId) : Option TimeoutCb :=
  match type with
  | .connect => some (.connectTimeout id)
  | .subscribe => some (.subscribeTimeout id)
  | .unsubscribe => some (.unsubscribeTimeout id)
  | .send => some (.sendTimeout id)
  | .reauth => some (.reauthTimeout id)
  | _ => none

/-- The timers that are suspended with the connection. -/
def TimeoutCb.isSuspended : TimeoutCb → Bool
  | .recvTimeout _ | .sendTimeout _ => true
  | _ => false

/-! ## What an update of an operation keeps -/

/-- A publish keeps its identity, its timer and its packet identifier, its QoS once it was sent, and
whether it counts as in flight. -/
structure SendOp.Keeps (op op' : SendOp) : Prop where
  id : op'.id = op.id
  responseTimer : op'.responseTimer = op.responseTimer
  packetId : op'.packetId = op.packetId
  sent : op'.sent = op.sent
  qos : op.sent = true → op'.qos = op.qos
  published : op'.published = op.published

structure ConnectOp.Keeps (op op' : ConnectOp) : Prop where
  id : op'.id = op.id
  timer : op'.timer = op.timer
  cb : op'.cb = op.cb

structure DisconnectOp.Keeps (op op' : DisconnectOp) : Prop where
  id : op'.id = op.id

structure SubscribeOp.Keeps (op op' : SubscribeOp) : Prop where
  id : op'.id = op.id
  timer : op'.timer = op.timer
  packetId : op'.subMsg.packetId = op.subMsg.packetId

structure UnsubscribeOp.Keeps (op op' : UnsubscribeOp) : Prop where
  id : op'.id = op.id
  timer : op'.timer = op.timer
  packetId : op'.unsubMsg.packetId = op.unsubMsg.packetId

structure ReauthOp.Keeps (op op' : ReauthOp) : Prop where
  id : op'.id = op.id
  timer : op'.timer = op.timer

/-! ## The updates -/

/-- The kinds of updates. `mark` is the bookkeeping of a `send` call, `take` allocates a packet
identifier for it, `stray` is what a `send` call does to an operation that its API guard destroyed. -/
inductive Act where
  | emit (e : Event)
  | report
  | fault
  | null
  | arm (cb : TimeoutCb)
  | disarm (cb : TimeoutCb)
  | suspend
  | expire
  | probe
  | create (type : OpType)
  | set (type : OpType)
  | mark (type : OpType)
  | take (type : OpType)
  | complete (ref : OpRef)
  | lock
  | unlock
  | clean
  | enter
  | filters
  | config
  | client
  | sendAliases
  | recvAliases
  | aliasMax
  | network (down : Bool)
  | session
  | stray

/-- The failures that are recorded as such; those left out are part of a compound update, or they do
not occur. -/
@[grind]
def Fault.plain : Fault → Bool
  | .assertFailed .allowNextPrepare => false
  | .assertFailed .opComplete => false
  | .assertFailed .eraseFromList => false
  | .assertFailed .releasePacketId => false
  | .assertFailed .doSendInternal => false
  | .assertFailed .opCompleteInternal => false
  | .assertFailed .send => false
  | .nullPointer => false
  | _ => true

/-- A message is reported to the application. -/
@[grind]
def Event.isReport : Event → Bool
  | .messageReceived _ => true
  | _ => false

/-- Messages of operations other than CONNECT, and acknowledgements. -/
def OutMsg.isOther : OutMsg → Bool
  | .publish _ => false
  | .connect _ => false
  | _ => true

/-- The operation a message belongs to is there. -/
def OutMsg.Grounded (s : Client) : OutMsg → Prop
  | .connect msg => ∃ op ∈ s.connectOps, op.sent = true ∧ op.connectMsg = msg
  | .subscribe _ => s.subscribeOps ≠ []
  | .unsubscribe _ => s.unsubscribeOps ≠ []
  | .pingreq => s.keepAliveOps ≠ []
  | .auth _ => s.connectOps ≠ [] ∨ s.reauthOps ≠ []
  | _ => True

def Event.Grounded (s : Client) : Event → Prop
  | .output msg _ => msg.Grounded s
  | _ => True

inductive Prim : Act → Client → Client → Prop
  | emit {s : Client} (e : Event) (h : e.isReport = false) (hg : e.Grounded s := by trivial) :
      Prim (.emit e) s (s.emit e)
  | report {s : Client} (info : MessageInfo) : Prim .report s (s.emit (.messageReceived info))
  | fault {s : Client} (f : Fault) (h : f.plain = true) : Prim .fault s (s.fault f)
  | null {s : Client} : Prim .null s (s.fault .nullPointer)
  | arm {s : Client} (timer : Option Nat) (ms : Nat) (cb : TimeoutCb) (h : s.owns timer cb)
      (hms : ∀ id, cb = .keepAlivePing id → ms = s.sessionState.keepAliveMs ∧ ms ≠ 0) :
      Prim (.arm cb) s (s.timerWait timer ms cb)
  | disarm {s : Client} (timer : Option Nat) (cb : TimeoutCb) (h : s.owns timer cb) :
      Prim (.disarm cb) s (s.timerCancel timer)
  | suspend {s : Client} (timer : Option Nat) (cb : TimeoutCb) (h : s.owns timer cb)
      (hcb : cb.isSuspended = true) : Prim .suspend s (s.timerSetSuspended timer
        (!s.sessionState.connected || s.clientState.networkDisconnected))
  | expire {s : Client} (ms : Nat) :
      Prim .expire s { s with timerMgr := (s.timerMgr.expire ms).1 }
  | probe {s : Client} (env : Env) : Prim .probe s (s.probeSendOp env)
  | createConnect {s : Client} (env : Env) (h : s.Offline) (he : s.connectOps = []) :
      Prim (.create .connect) s (s.createConnectOp env)
  | createDisconnect {s : Client} (h : s.Online) (he : s.disconnectOps = []) :
      Prim (.create .disconnect) s s.createDisconnectOp
  | createSubscribe {s : Client} (env : Env) (h : s.Online) :
      Prim (.create .subscribe) s (s.createSubscribeOp env)
  | createUnsubscribe {s : Client} (env : Env) (h : s.Online) :
      Prim (.create .unsubscribe) s (s.createUnsubscribeOp env)
  | createReauth {s : Client} (env : Env) (h : s.Online) (he : s.reauthOps = []) :
      Prim (.create .reauth) s (s.createReauthOp env)
  | createSend {s : Client} (env : Env) (h : s.Online) : Prim (.create .send) s (s.createSendOp env)
  | createRecv {s : Client} (env : Env) : Prim (.create .recv) s (s.registerRecvOp env)
  | createKeepAlive {s : Client} (env : Env) (h : s.keepAliveOps = [])
      (hc : s.sessionState.connected = true) :
      Prim (.create .keepAlive) s (s.createKeepAliveOpIfNeeded env)
  | setConnect {s : Client} (op x : ConnectOp) (hop : op ∈ s.connectOps) (hx : op.Keeps x)
      (hsent : x.sent = op.sent) : Prim (.set .connect) s (s.setConnectOp x)
  | setDisconnect {s : Client} (op x : DisconnectOp) (hop : op ∈ s.disconnectOps)
      (hx : op.Keeps x) (hsent : x.sent = op.sent) :
      Prim (.set .disconnect) s (s.setDisconnectOp x)
  | setSubscribe {s : Client} (op x : SubscribeOp) (hop : op ∈ s.subscribeOps) (hx : op.Keeps x)
      (hsent : x.sent = op.sent) : Prim (.set .subscribe) s (s.setSubscribeOp x)
  | setUnsubscribe {s : Client} (op x : UnsubscribeOp) (hop : op ∈ s.unsubscribeOps)
      (hx : op.Keeps x) (hsent : x.sent = op.sent) :
      Prim (.set .unsubscribe) s (s.setUnsubscribeOp x)
  | setReauth {s : Client} (op x : ReauthOp) (hop : op ∈ s.reauthOps) (hx : op.Keeps x)
      (hsent : x.sent = op.sent) : Prim (.set .reauth) s (s.setReauthOp x)
  | setSend {s : Client} (id : OpId) (f : SendOp → SendOp)
      (h : ∀ op ∈ s.sendOps, op.id = id → op.Keeps (f op)) :
      Prim (.set .send) s (s.modifySendOp id f)
  | publish {s : Client} (op : SendOp) (hop : op ∈ s.sendOps) (hpub : op.published = false) :
      Prim (.set .send) s (s.markPublished op.id)
  | setRecv {s : Client} (id : OpId) (packetId : Nat) :
      Prim (.set .recv) s (s.modifyRecvOp id ({ · with packetId := packetId }))
  | markConnect {s : Client} (op : ConnectOp) (hop : op ∈ s.connectOps)
      (htimer : op.timer.isSome = true) :
      Prim (.mark .connect) s (s.setConnectOp { op with sent := true, cb := true })
  | markDisconnect {s : Client} (op : DisconnectOp) (hop : op ∈ s.disconnectOps) :
      Prim (.mark .disconnect) s (s.setDisconnectOp { op with sent := true })
  | markSubscribe {s : Client} (op : SubscribeOp) (hop : op ∈ s.subscribeOps) :
      Prim (.mark .subscribe) s (s.setSubscribeOp { op with sent := true })
  | markUnsubscribe {s : Client} (op : UnsubscribeOp) (hop : op ∈ s.unsubscribeOps) :
      Prim (.mark .unsubscribe) s (s.setUnsubscribeOp { op with sent := true })
  | markReauth {s : Client} (op : ReauthOp) (hop : op ∈ s.reauthOps) :
      Prim (.mark .reauth) s (s.setReauthOp { op with sent := true })
  | markSend {s : Client} (op : SendOp) (hop : op ∈ s.sendOps) :
      Prim (.mark .send) s (s.modifySendOp op.id fun _ => { op with sent := true })
  | takeSubscribe {s : Client} (env : Env) (op : SubscribeOp) (hop : op ∈ s.subscribeOps) :
      Prim (.take .subscribe) s (s.takeSubscribe env op)
  | takeUnsubscribe {s : Client} (env : Env) (op : UnsubscribeOp) (hop : op ∈ s.unsubscribeOps) :
      Prim (.take .unsubscribe) s (s.takeUnsubscribe env op)
  | takeSend {s : Client} (env : Env) (op x : SendOp) (hop : op ∈ s.sendOps) (hx : op.Keeps x) :
      Prim (.take .send) s (s.takeSend env x)
  | complete {s : Client} (ref : OpRef) (hlive : s.Live ref) :
      Prim (.complete ref) s (s.completeRef ref)
  | completeSend {s : Client} (op : SendOp) (hop : op ∈ s.sendOps)
      (href : some ⟨.send, op.id⟩ ∈ s.ops) :
      Prim (.complete ⟨.send, op.id⟩) s (s.destroySendOp op)
  | lock {s : Client} : Prim .lock s { s with preparationLocked := true }
  | unlock {s : Client} : Prim .unlock s s.allowNextPrepare
  | clean {s : Client} : Prim .clean s s.cleanOps
  | enter {s : Client} (n : Nat) : Prim .enter s { s with apiEnterCount := n }
  | filters {s : Client} (filters : List Str) : Prim .filters s (s.setSubFilters filters)
  | config {s : Client} (f : ConfigState → ConfigState) : Prim .config s (s.modifyConfig f)
  | client {s : Client} (table : List TopicAliasInfo) :
      Prim .client s { s with clientState := { s.clientState with sendTopicAliases := table } }
  | sendAliases {s : Client} (free : List Nat) : Prim .sendAliases s (s.setFreeAliases free)
  | recvAliases {s : Client} (table : List Str) :
      Prim .recvAliases s { s with sessionState := { s.sessionState with
        recvTopicAliases := table } }
  | aliasMax {s : Client} (n : Nat) :
      Prim .aliasMax s { s with sessionState := { s.sessionState with maxRecvTopicAlias := n } }
  | network {s : Client} (down : Bool) :
      Prim (.network down) s { s with clientState := { s.clientState with
        networkDisconnected := down } }
  | status {s : Client} (initialized firstConnect : Bool) :
      Prim .session s { s with clientState := { s.clientState with
        initialized := initialized, firstConnect := firstConnect } }
  | session {s : Client} (f : SessionState → SessionState) :
      Prim .session s { s with sessionState := f s.sessionState }
  | strayCount {s : Client} :
      Prim .stray s { s with clientState := { s.clientState with
        inFlightSends := s.clientState.inFlightSends + 1 } }
  | strayMiss {s : Client} : Prim .stray s (s.fault (.assertFailed .opComplete))
  | strayArm {s : Client} (timer : Option Nat) (ms : Nat) (type : OpType) (id : OpId)
      (cb : TimeoutCb) (hcb : type.responseCb id = some cb) (hdead : id ∉ s.ids type)
      (hold : id < s.nextOpId) : Prim .stray s (s.timerWait timer ms cb)

/-- The kinds that leave all operations and the packet identifiers alone. -/
def Act.plain : Act → Bool
  | .create _ | .set _ | .mark _ | .take _ | .complete _ | .clean => false
  | _ => true

/-- The operations, their pointers and the packet identifiers are the same. -/
structure SameOps (s t : Client) : Prop where
  connectOps : t.connectOps = s.connectOps
  keepAliveOps : t.keepAliveOps = s.keepAliveOps
  disconnectOps : t.disconnectOps = s.disconnectOps
  subscribeOps : t.subscribeOps = s.subscribeOps
  unsubscribeOps : t.unsubscribeOps = s.unsubscribeOps
  recvOps : t.recvOps = s.recvOps
  sendOps : t.sendOps = s.sendOps
  reauthOps : t.reauthOps = s.reauthOps
  ops : t.ops = s.ops
  opsDeleted : t.opsDeleted = s.opsDeleted
  nextOpId : t.nextOpId = s.nextOpId
  allocated : t.clientState.allocatedPacketIds = s.clientState.allocatedPacketIds

/-- The identities of every type are the same. -/
theorem SameOps.ids {s t : Client} (h : SameOps s t) (type : OpType) : t.ids type = s.ids type := by
  cases type
  · exact congrArg _ h.connectOps
  · exact congrArg _ h.keepAliveOps
  · exact congrArg _ h.disconnectOps
  · exact congrArg _ h.subscribeOps
  · exact congrArg _ h.unsubscribeOps
  · exact congrArg _ h.recvOps
  · exact congrArg _ h.sendOps
  · exact congrArg _ h.reauthOps

/-- The same operations are alive. -/
theorem SameOps.live {s t : Client} {ref : OpRef} (h : SameOps s t) (hl : s.Live ref) : t.Live ref := by
  unfold Client.Live at hl ⊢
  rw [h.ops, h.ids]
  exact hl

namespace Client.Live

variable {s : Client}

/-- An operation in its list can be completed. -/
theorem connect {op : ConnectOp} (h : op ∈ s.connectOps) : s.Live ⟨.connect, op.id⟩ :=
  Or.inr (List.mem_map_of_mem h)

theorem disconnect {op : DisconnectOp} (h : op ∈ s.disconnectOps) : s.Live ⟨.disconnect, op.id⟩ :=
  Or.inr (List.mem_map_of_mem h)

theorem subscribe {op : SubscribeOp} (h : op ∈ s.subscribeOps) : s.Live ⟨.subscribe, op.id⟩ :=
  Or.inr (List.mem_map_of_mem h)

theorem unsubscribe {op : UnsubscribeOp} (h : op ∈ s.unsubscribeOps) :
    s.Live ⟨.unsubscribe, op.id⟩ :=
  Or.inr (List.mem_map_of_mem h)

theorem recv {op : RecvOp} (h : op ∈ s.recvOps) : s.Live ⟨.recv, op.id⟩ :=
  Or.inr (List.mem_map_of_mem h)

theorem reauth {op : ReauthOp} (h : op ∈ s.reauthOps) : s.Live ⟨.reauth, op.id⟩ :=
  Or.inr (List.mem_map_of_mem h)

end Client.Live

/-- An assertion only leaves a mark when it fails. -/
theorem SameOps.assert (s : Client) (site : Site) (c : Bool) : SameOps s (s.assert site c) := by
  unfold Client.assert
  split <;> constructor <;> rfl

/-- The timer of a new operation. -/
theorem SameOps.timerAlloc (env : Env) (s : Client) (c : Bool) :
    SameOps s ((s.timerAlloc env).1.assert .timer c) := by
  have h := SameOps.assert (s.timerAlloc env).1 .timer c
  exact ⟨h.1, h.2, h.3, h.4, h.5, h.6, h.7, h.8, h.9, h.10, h.11, h.12⟩

/-- An update of a plain kind leaves all operations alone. -/
theorem Prim.sameOps {act : Act} {s t : Client} (h : Prim act s t) (ha : act.plain = true) :
    SameOps s t := by
  cases h with
  | probe env =>
    have h := SameOps.timerAlloc env s (s.timerAlloc env).2.isSome
    exact ⟨h.1, h.2, h.3, h.4, h.5, h.6, h.7, h.8, h.9, h.10, h.11, h.12⟩
  | unlock =>
    have h := SameOps.assert s .allowNextPrepare s.preparationLocked
    exact ⟨h.1, h.2, h.3, h.4, h.5, h.6, h.7, h.8, h.9, h.10, h.11, h.12⟩
  | emit | report | fault | null | arm | disarm | suspend | expire | lock | enter | filters | config
      | client | sendAliases | recvAliases | aliasMax | network | status | session | strayCount
      | strayMiss | strayArm =>
    constructor <;> rfl
  | _ => cases ha

/-- Every failure that is new is a plain one or one of the given ones. -/
def Raises (fs : List Fault) (s t : Client) : Prop :=
  ∀ f ∈ t.faults, f ∈ s.faults ∨ f.plain = true ∨ f ∈ fs

section Raises

variable {fs : List Fault} {s t u : Client}

theorem Raises.refl (s : Client) : Raises fs s s := fun _ h => Or.inl h

theorem Raises.of_eq (h : t.faults = s.faults) : Raises fs s t := fun _ hf => Or.inl (h ▸ hf)

/-- The failures of one part and of the next. -/
theorem Raises.trans (h : Raises fs s t) (h' : Raises fs t u) : Raises fs s u :=
  fun f hf => (h' f hf).elim (h f) Or.inr

/-- A failure that is recorded is plain or among those that are looked at. -/
theorem Raises.fault {f : Fault} (hf : f.plain = true ∨ f ∈ fs) : Raises fs s (s.fault f) := by
  intro g hg
  rcases List.mem_append.mp hg with hg | hg
  · exact Or.inl hg
  · exact Or.inr (List.mem_singleton.mp hg ▸ hf)

theorem Raises.assert {site : Site} (c : Bool)
    (hf : (Fault.assertFailed site).plain = true ∨ .assertFailed site ∈ fs) :
    Raises fs s (s.assert site c) := by
  unfold Client.assert
  split
  · exact .refl s
  · exact .fault hf

/-- `releasePacketId` asserts that the identifier is in use. -/
theorem Raises.releasePacketId (hf : .assertFailed .releasePacketId ∈ fs) (id : Nat) :
    Raises fs s (s.releasePacketId id) := by
  unfold Client.releasePacketId
  split
  · exact .refl s
  · split
    · exact .of_eq rfl
    · exact .fault (Or.inr hf)

/-- `opComplete` asserts that the operation is in `m_ops`. -/
theorem Raises.opCompleteWith {ref : OpRef} {erase : Client → Client}
    (hf : .assertFailed .opComplete ∈ fs) (h : ∀ u, Raises fs u (erase u)) :
    Raises fs s (Client.opCompleteWith ref erase s) := by
  unfold Client.opCompleteWith Client.unregisterOp
  split
  · exact .fault (Or.inr hf)
  · rename_i u hu
    split at hu
    · cases hu
      exact (Raises.of_eq rfl).trans (h _)
    · cases hu

/-- `allocPacketId` asserts nothing. -/
theorem Raises.allocPacketId (env : Env) : Raises fs s (s.allocPacketId env).1 := by
  unfold Client.allocPacketId
  dsimp only
  split <;> exact .of_eq rfl

end Raises

/-- The failures that are not plain. -/
def Act.raises : Act → List Fault
  | .null => [.nullPointer]
  | .unlock => [.assertFailed .allowNextPrepare]
  | .complete _ =>
    [.assertFailed .opComplete, .assertFailed .eraseFromList, .assertFailed .releasePacketId]
  | .stray => [.assertFailed .opComplete]
  | _ => []

/-- What a completion may raise. -/
theorem Raises.completeRef {s : Client} (ref : OpRef) :
    Raises (Act.complete ref).raises s (s.completeRef ref) := by
  have hnone : ∀ u : Client, Raises (Act.complete ref).raises u
      (u.fault (.assertFailed .eraseFromList)) :=
    fun u => .fault (Or.inr (by simp [Act.raises]))
  have hrelease : ∀ (u v : Client) (id : Nat), v.faults = u.faults →
      Raises (Act.complete ref).raises u (v.releasePacketId id) := fun u v id h =>
    (Raises.of_eq h).trans (.releasePacketId (by simp [Act.raises]) id)
  unfold Client.completeRef
  split
  case h_7 => exact .refl s
  -- seven types share the search for the pointer; the publish has its own completion
  all_goals refine .opCompleteWith (by simp [Act.raises]) fun u => ?_
  · unfold Client.eraseConnectOp
    split
    · exact hnone u
    · exact .of_eq rfl
  · unfold Client.eraseKeepAliveOp
    split
    · exact hnone u
    · exact .of_eq rfl
  · unfold Client.eraseDisconnectOp
    split
    · exact hnone u
    · exact .of_eq rfl
  · unfold Client.eraseSubscribeOp
    split
    · exact hnone u
    · exact (hrelease u { u with subscribeOps := u.subscribeOps.eraseP (·.id == ref.id) } _ rfl).trans
        (.of_eq rfl)
  · unfold Client.eraseUnsubscribeOp
    split
    · exact hnone u
    · exact (hrelease u { u with unsubscribeOps := u.unsubscribeOps.eraseP (·.id == ref.id) } _
        rfl).trans (.of_eq rfl)
  · unfold Client.eraseRecvOp
    split
    · exact hnone u
    · exact .of_eq rfl
  · unfold Client.eraseReauthOp
    split
    · exact hnone u
    · exact .of_eq rfl

/-! ## Timers of the keep alive -/

/-- The timers of the keep alive are all that its restarts change. -/
theorem restartPingTimer_eq (s : Client) (op : KeepAliveOp) :
    s.restartPingTimer op = { s with timerMgr := (s.restartPingTimer op).timerMgr } := by
  unfold Client.restartPingTimer
  split <;> rfl

theorem restartRecvTimer_eq (s : Client) (op : KeepAliveOp) :
    s.restartRecvTimer op = { s with timerMgr := (s.restartRecvTimer op).timerMgr } := by
  unfold Client.restartRecvTimer
  split <;> rfl

/-- A loop whose rounds touch the timers only. -/
theorem foldl_timers {α : Type} {f : Client → α → Client}
    (hf : ∀ s x, f s x = { s with timerMgr := (f s x).timerMgr }) (l : List α) (s : Client) :
    l.foldl f s = { s with timerMgr := (l.foldl f s).timerMgr } := by
  induction l generalizing s with
  | nil => rfl
  | cons x l ih =>
    rw [List.foldl_cons, ih, hf s x]

/-- Every sent message restarts the timer for PINGREQ. -/
theorem keepAliveMessageSent_eq (s : Client) :
    s.keepAliveMessageSent = { s with timerMgr := s.keepAliveMessageSent.timerMgr } :=
  foldl_timers restartPingTimer_eq _ s

/-- Every received packet restarts the timer for an own PINGREQ. -/
theorem keepAliveMessageReceived_eq (s : Client) :
    s.keepAliveMessageReceived = { s with timerMgr := s.keepAliveMessageReceived.timerMgr } :=
  foldl_timers restartRecvTimer_eq _ s

/-- Sending a message changes no operation. -/
theorem SameOps.sendMessage (env : Env) (msg : OutMsg) (source : Option PublishSource) (s : Client) :
    SameOps s (s.sendMessage env msg source).1 := by
  unfold Client.sendMessage
  dsimp only
  split
  · constructor <;> rfl
  · split
    · constructor <;> rfl
    · rw [keepAliveMessageSent_eq]
      constructor <;> rfl

theorem SameOps.post (env : Env) (msg : OutMsg) (s : Client) : SameOps s (s.post env msg) :=
  SameOps.sendMessage env msg none s

/-! ## Failures of the updates -/

/-- The keep alive operation is registered once its timers are there. -/
theorem createKeepAliveOpIfNeeded_cases (env : Env) {s : Client} (h : s.keepAliveOps = []) :
    s.createKeepAliveOpIfNeeded env = s.fault (.assertFailed .brokerConnected) ∨
      ∃ c m op, op.id = s.nextOpId ∧ s.createKeepAliveOpIfNeeded env =
        { s.assert .timer c with
          timerMgr := m, ops := s.ops ++ [some ⟨.keepAlive, s.nextOpId⟩],
          nextOpId := s.nextOpId + 1, keepAliveOps := [op] } := by
  unfold Client.createKeepAliveOpIfNeeded
  rw [if_neg (by simp [h])]
  split
  · exact Or.inl rfl
  · right
    -- allocating the timers changes the manager only
    have hcreate : ∀ (m : TimerMgr) (c : Bool) (u : Client),
        u = { s with timerMgr := m }.assert .timer c → ∀ op : KeepAliveOp, op.id = u.nextOpId →
        { (u.restartPingTimer op).registerOp .keepAlive with keepAliveOps := u.keepAliveOps ++ [op] } =
          { s.assert .timer c with
            timerMgr := (u.restartPingTimer op).timerMgr,
            ops := s.ops ++ [some ⟨.keepAlive, s.nextOpId⟩],
            nextOpId := s.nextOpId + 1, keepAliveOps := [op] } := by
      rintro m c u rfl op -
      rw [restartPingTimer_eq]
      generalize (Client.restartPingTimer op _).timerMgr = m'
      unfold Client.assert
      split <;> simp [Client.registerOp, Client.fault, h]
    refine ⟨_, _, _, ?_, hcreate _ _ _ rfl _ rfl⟩
    exact (SameOps.assert _ _ _).nextOpId

/-- Every update but a release and a completion raises plain failures only. -/
theorem Prim.raises {act : Act} {s t : Client} (h : Prim act s t) : Raises act.raises s t := by
  have htimer : ∀ (u : Client) (c : Bool), Raises act.raises u (u.assert .timer c) :=
    fun u c => .assert c (Or.inl rfl)
  cases h with
  | fault f h => exact .fault (Or.inl h)
  | null => exact .fault (Or.inr (by simp [Act.raises]))
  | strayMiss => exact .fault (Or.inr (by simp [Act.raises]))
  | probe env => exact (htimer (s.timerAlloc env).1 _).trans (.of_eq rfl)
  | createSend env h => exact (htimer (s.timerAlloc env).1 _).trans (.of_eq rfl)
  | createRecv env => exact (htimer (s.timerAlloc env).1 _).trans (.of_eq rfl)
  | unlock => exact (Raises.assert _ (Or.inr (by simp [Act.raises]))).trans (.of_eq rfl)
  | takeSubscribe env op hop => exact (Raises.allocPacketId env).trans (.of_eq rfl)
  | takeUnsubscribe env op hop => exact (Raises.allocPacketId env).trans (.of_eq rfl)
  | takeSend env op x hop hx => exact (Raises.allocPacketId env).trans (.of_eq rfl)
  | complete ref => exact .completeRef ref
  | completeSend op hop href =>
    have hrelease : ∀ u : Client, Raises (Act.complete ⟨.send, op.id⟩).raises u
        (u.releasePacketId op.packetId) := fun u => .releasePacketId (by simp [Act.raises]) _
    exact Raises.trans (.of_eq rfl) ((hrelease ({ s.releaseSendOp op with
      sendOps := s.sendOps.eraseP (·.id == op.id) }.emit (.sendOpErased op.id))).trans (.of_eq rfl))
  | createKeepAlive env h hc =>
    rcases createKeepAliveOpIfNeeded_cases env h with heq | ⟨c, m, op, -, heq⟩
    · rw [heq]
      exact .fault (Or.inl rfl)
    · rw [heq]
      exact (htimer s c).trans (.of_eq rfl)
  | clean =>
    unfold Client.cleanOps
    split <;> exact .of_eq rfl
  | _ => exact .of_eq rfl

/-! ## What a step admits -/

/-- The kinds that take or release the preparation lock. -/
def Act.locks : Act → Bool
  | .create .recv | .create .keepAlive => false
  | .create _ | .mark _ | .take _ | .lock | .unlock => true
  | _ => false

/-- An event of the connection that belongs to no publish. -/
@[grind]
def Event.isControl : Event → Bool
  | .output (.pubrel _) (some _) => false
  | .output msg _ => msg.isOther
  | .brokerDisconnectReport .. | .connectivity _ => true
  | .subscribeCb _ _ (some _) | .unsubscribeCb _ _ (some _) => true
  | _ => false

/-- An event that is neither of the control kind nor a CONNECT needs no operation behind it. -/
theorem Event.grounded {e : Event} (h : e.isControl = false)
    (hc : ∀ msg source, e ≠ .output (.connect msg) source) (s : Client) : e.Grounded s := by
  cases e with
  | output msg source =>
    cases msg with
    | connect msg => exact absurd rfl (hc msg source)
    | _ => trivial
  | _ => trivial

/-- The timers that are watched: those of publishes, of receptions, of the pings and of the session. -/
def TimeoutCb.isWatched : TimeoutCb → Bool
  | .keepAlivePing _ | .recvTimeout _ | .sendTimeout _ | .sessionExpiry => true
  | _ => false

def TimeoutCb.isExpiry : TimeoutCb → Bool
  | .sessionExpiry => true
  | _ => false

/-- The kinds only some steps use. -/
def Act.notable : Act → Bool
  | .emit e => e.isControl
  | .arm cb => cb.isExpiry
  | .disarm cb => cb.isWatched
  | .create .recv | .create .keepAlive => true
  | .set .recv | .set .connect | .mark .connect => true
  | .complete ⟨.keepAlive, _⟩ => true
  | .report | .null | .suspend | .expire | .filters | .recvAliases | .aliasMax => true
  | .network _ | .session | .stray => true
  | _ => false

/-- The kinds that concern receptions, those only CONNACK uses besides, and those of an operation that
is gone. -/
def Act.isApart : Act → Bool
  | .create .recv | .create .keepAlive | .set .recv | .report | .null | .stray => true
  | _ => false

/-- Which of the notable kinds a step may use. -/
structure Scope where
  admits : Act → Bool

/-- The kinds that are left out: with `lock` those of the calls that take or release the preparation
lock, and the notable ones the scope does not admit. -/
def Act.allowed (lock : Bool) (b : Scope) (act : Act) : Bool :=
  (!act.locks || !lock) && (!act.notable || b.admits act)

def Scope.Le (b b' : Scope) : Prop := ∀ act, b.admits act = true → b'.admits act = true

/-- How far a step is concerned with receptions: it may begin one, it may only carry on with one, it may
meet a null pointer in its place, or none of these. A step that may begin a reception may also begin the
keep alive. -/
inductive Recv where
  | begins
  | goes
  | aborts
  | rests
  deriving DecidableEq

/-- The kinds a step needs for its receptions. -/
def Recv.needs : Recv → Act → Bool
  | .begins, .create .recv | .begins, .create .keepAlive | .begins, .null => true
  | .begins, .set .recv | .begins, .report | .begins, .recvAliases => true
  | .goes, .set .recv | .goes, .report | .goes, .recvAliases => true
  | .aborts, .null => true
  | _, _ => false

/-- What a step needs is admitted. -/
def Recv.Le (r : Recv) (b : Scope) : Prop := ∀ act, r.needs act = true → b.admits act = true

namespace Scope

/-- Nothing notable is admitted. -/
def bare : Scope := ⟨fun _ => false⟩

/-- Everything is admitted; the next three leave out what concerns receptions. -/
def begins : Scope := ⟨fun _ => true⟩

def goes : Scope where
  admits
    | .create .recv | .create .keepAlive | .null => false
    | _ => true

def aborts : Scope where
  admits
    | .create .recv | .create .keepAlive | .set .recv | .report => false
    | _ => true

def rests : Scope where
  admits
    | .create .recv | .create .keepAlive | .set .recv | .report | .null => false
    | _ => true

/-- Every operation that is used is there. -/
def kept : Scope where
  admits
    | .stray => false
    | _ => true

/-- The connection neither begins nor ends. -/
def within : Scope where
  admits
    | .session | .network _ | .complete ⟨.keepAlive, _⟩ => false
    | .arm .sessionExpiry | .disarm .sessionExpiry => false
    | .emit (.brokerDisconnectReport ..) | .emit (.connectivity _) => false
    | _ => true

/-- The same without what only an incoming PUBLISH, a SUBACK or UNSUBACK, or the configuration of a
connect operation uses. -/
def unread : Scope where
  admits
    | .create .recv | .set .recv | .report | .recvAliases => false
    | .filters | .emit (.subscribeCb ..) | .emit (.unsubscribeCb ..) => false
    | .aliasMax | .set .connect | .mark .connect => false
    | act => within.admits act

/-- The same between two reports of time. -/
def timeless : Scope where
  admits
    | .expire => false
    | act => unread.admits act

/-- Messages other than publishes may be handed over. -/
class Talks (b : Scope) : Prop where
  output : ∀ msg, b.admits (.emit (.output msg none)) = true

/-- Connect operations may be configured and sent. -/
class Configures (b : Scope) : Prop where
  connect : b.admits (.set .connect) = true
  mark : b.admits (.mark .connect) = true
  aliasMax : b.admits .aliasMax = true

/-- Requests for topic filters may be answered. -/
class Grants (b : Scope) : Prop where
  filters : b.admits .filters = true
  subscribed : ∀ id status response, b.admits (.emit (.subscribeCb id status response)) = true
  unsubscribed : ∀ id status response, b.admits (.emit (.unsubscribeCb id status response)) = true

/-- Stored publishes and receptions may be resumed. -/
class Resumes (b : Scope) : Prop where
  suspend : b.admits .suspend = true
  disarm : ∀ id, b.admits (.disarm (.sendTimeout id)) = true

/-- The connection may end or begin. -/
class Ends (b : Scope) : Prop extends Resumes b where
  session : b.admits .session = true
  arm : b.admits (.arm .sessionExpiry) = true
  expiry : b.admits (.disarm .sessionExpiry) = true
  keepAlive : ∀ id, b.admits (.complete ⟨.keepAlive, id⟩) = true
  report : ∀ reason info, b.admits (.emit (.brokerDisconnectReport reason info)) = true
  connectivity : ∀ up, b.admits (.emit (.connectivity up)) = true

/-- Everything is admitted but what concerns receptions, and operations that are gone. -/
class Wide (b : Scope) : Prop where
  admits : ∀ act, act.isApart = false → b.admits act = true

/-- A `send` call may carry on with an operation that is gone. -/
class Strays (b : Scope) : Prop where
  stray : b.admits .stray = true

instance (b : Scope) [Wide b] : Talks b := ⟨fun _ => Wide.admits _ rfl⟩

instance (b : Scope) [Wide b] : Configures b :=
  ⟨Wide.admits _ rfl, Wide.admits _ rfl, Wide.admits _ rfl⟩

instance (b : Scope) [Wide b] : Grants b :=
  ⟨Wide.admits _ rfl, fun _ _ _ => Wide.admits _ rfl, fun _ _ _ => Wide.admits _ rfl⟩

instance (b : Scope) [Wide b] : Ends b where
  suspend := Wide.admits _ rfl
  disarm _ := Wide.admits _ rfl
  session := Wide.admits _ rfl
  arm := Wide.admits _ rfl
  expiry := Wide.admits _ rfl
  keepAlive _ := Wide.admits _ rfl
  report _ _ := Wide.admits _ rfl
  connectivity _ := Wide.admits _ rfl

/-- What leaves the connection alone is admitted. -/
class Stays (b : Scope) : Prop where
  admits : ∀ act, unread.admits act = true → b.admits act = true

/-- What leaves the connection alone is admitted, as long as no time passes. -/
class Timeless (b : Scope) : Prop where
  admits : ∀ act, timeless.admits act = true → b.admits act = true

instance (b : Scope) [Stays b] : Timeless b where
  admits act h := by
    refine Stays.admits act ?_
    unfold timeless at h
    dsimp only at h
    split at h <;> first | exact h | cases h

instance (b : Scope) [Timeless b] : Talks b := ⟨fun _ => Timeless.admits _ rfl⟩

instance (b : Scope) [Timeless b] : Resumes b := ⟨Timeless.admits _ rfl, fun _ => Timeless.admits _ rfl⟩

instance (b : Scope) [Timeless b] : Strays b := ⟨Timeless.admits _ rfl⟩

instance : Timeless timeless := ⟨fun _ h => h⟩

instance : Stays unread := ⟨fun _ h => h⟩

instance : Configures within := ⟨rfl, rfl, rfl⟩

instance : Grants within := ⟨rfl, fun _ _ _ => rfl, fun _ _ _ => rfl⟩

instance : Stays within where
  admits act h := by
    unfold unread at h
    dsimp only at h
    split at h <;> first | exact h | cases h

instance : Wide begins := ⟨fun _ _ => rfl⟩

instance : Wide kept where
  admits act h := by
    unfold kept
    dsimp only
    split <;> first | rfl | cases h

instance : Wide goes where
  admits act h := by
    unfold goes
    dsimp only
    split <;> first | rfl | cases h

instance : Wide aborts where
  admits act h := by
    unfold aborts
    dsimp only
    split <;> first | rfl | cases h

instance : Wide rests where
  admits act h := by
    unfold rests
    dsimp only
    split <;> first | rfl | cases h

instance : Strays begins := ⟨rfl⟩

instance : Strays goes := ⟨rfl⟩

instance : Strays aborts := ⟨rfl⟩

instance : Strays rests := ⟨rfl⟩

end Scope

/-- Any number of updates. -/
abbrev Acts (lock : Bool) (b : Scope) : Client → Client → Prop :=
  Relation.ReflTransGen fun s t => ∃ act, act.allowed lock b = true ∧ Prim act s t

variable {a a' : Bool} {b b' : Scope} {s t u : Client} {act : Act}

/-- The scopes are ordered by what they admit. -/
theorem Scope.bare_le (b : Scope) : bare.Le b := fun _ h => by cases h

theorem Scope.unread_le : Scope.Le .unread .within := Stays.admits

theorem Scope.Le.refl (b : Scope) : b.Le b := fun _ h => h

/-- What a larger scope admits. -/
theorem Recv.Le.mono {r : Recv} (h : r.Le b) (hb : b.Le b') : r.Le b' := fun act hact => hb act (h act hact)

/-- A step that does nothing with receptions is admitted by every scope. -/
theorem Recv.Le.rests (b : Scope) : Recv.Le .rests b := fun _ h => by cases h

/-- And the widest scope admits every step. -/
theorem Recv.Le.begins (r : Recv) : r.Le .begins := fun _ _ => rfl

/-- A step that may begin a reception needs everything. -/
theorem Recv.Le.of_begins {r : Recv} (h : Recv.Le .begins b) : r.Le b := by
  intro act hact
  refine h act ?_
  unfold Recv.needs at hact ⊢
  split at hact <;> first | rfl | contradiction

theorem Recv.Le.within (r : Recv) : r.Le .within := by
  intro act h
  unfold Recv.needs at h
  split at h <;> first | rfl | contradiction

theorem Recv.Le.kept (r : Recv) : r.Le .kept := by
  intro act h
  unfold Recv.needs at h
  split at h <;> first | rfl | contradiction

theorem Recv.Le.stays [b.Timeless] (r : Recv) (h : r = .aborts ∨ r = .rests) : r.Le b := by
  intro act hact
  refine Scope.Timeless.admits _ ?_
  unfold Recv.needs at hact
  rcases h with rfl | rfl <;> split at hact <;> first | rfl | contradiction

theorem Recv.Le.goes : Recv.Le .goes .goes := by
  intro act h
  unfold Recv.needs at h
  split at h <;> first | rfl | contradiction

theorem Recv.Le.aborts : Recv.Le .aborts .aborts := by
  intro act h
  unfold Recv.needs at h
  split at h <;> first | rfl | contradiction

/-- A kind of update is allowed unless it takes the lock where that is ruled out, or is notable and not
admitted. -/
theorem Act.allowed_iff : act.allowed a b = true ↔
    (act.locks = true → a = false) ∧ (act.notable = true → b.admits act = true) := by
  unfold Act.allowed
  cases act.locks <;> cases act.notable <;> cases a <;> simp

/-- A kind that does not touch the lock. -/
theorem Act.allowed_of (hl : act.locks = false)
    (hn : act.notable = true → b.admits act = true) : act.allowed a b = true :=
  Act.allowed_iff.mpr ⟨fun h => (by rw [hl] at h; cases h), hn⟩

/-- Where every operation that is used is there, nothing is done to one that is gone. -/
theorem Act.ne_stray (h : act.allowed a .kept = true) : act ≠ .stray := by
  rintro rfl
  cases (Act.allowed_iff.mp h).2 rfl

/-- One update. -/
theorem Acts.of (h : Prim act s t) (ha : act.allowed a b = true) : Acts a b s t :=
  .single ⟨act, ha, h⟩

/-- Fewer kinds are left out. -/
theorem Act.allowed_mono (ha : a' = true → a = true) (hb : b.Le b') (h : act.allowed a b = true) :
    act.allowed a' b' = true := by
  rw [Act.allowed_iff] at h ⊢
  refine ⟨fun hl => ?_, fun hn => hb act (h.2 hn)⟩
  have hfree := h.1 hl
  cases a' with
  | false => rfl
  | true => rw [ha rfl] at hfree; cases hfree

/-- A sequence of updates is one of a larger scope. -/
theorem Acts.mono (ha : a' = true → a = true) (hb : b.Le b') (h : Acts a b s t) :
    Acts a' b' s t :=
  Relation.ReflTransGen.mono (fun _ _ ⟨act, hact, hp⟩ => ⟨act, Act.allowed_mono ha hb hact, hp⟩) _ _ h

/-- What every update keeps, any number of updates keeps. -/
theorem Acts.invariant {P : Client → Prop}
    (hstep : ∀ {act s t}, Prim act s t → act.allowed a b = true → P s → P t)
    (h : Acts a b s t) (hs : P s) : P t := by
  induction h with
  | refl => exact hs
  | tail _ h ih =>
    obtain ⟨act, ha, hp⟩ := h
    exact hstep hp ha ih

end Mqtt5
