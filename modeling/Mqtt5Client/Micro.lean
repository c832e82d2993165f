import Mathlib.Logic.Relation
import Mqtt5Client.FrameOps
import Mqtt5Client.Lib.Keyed

/-!
# Mqtt5Client — the elementary steps of publishes

What can happen to the publishes, said once: every function of the model that touches them is a
sequence of the steps below (`MicroRun`), and every invariant of the publishes is checked against these
steps only. A step is described by its effect on `PubView` and by the response timers it may arm.

A `Guard` says what is known, beyond what the step itself says, when a step happens: which call is
being carried out, or where in the queue the publish is.
-/

namespace Mqtt5

/-! ## Changes of the view -/

namespace PubView

/-- Replace the publish with the identity of `op`. -/
def setOp (op : SendOp) (v : PubView) : PubView :=
  { v with sendOps := Keyed.set SendOp.id op v.sendOps }

def push (e : Event) (v : PubView) : PubView := { v with log := v.log ++ [e] }

def setInFlight (n : Nat) (v : PubView) : PubView := { v with inFlightSends := n }

def setAliases (table : List TopicAliasInfo) (v : PubView) : PubView :=
  { v with sendTopicAliases := table }

/-- A publish leaves the queue. -/
def eraseOp (id : OpId) (v : PubView) : PubView :=
  { v with
    sendOps := Keyed.erase SendOp.id id v.sendOps
    sendRefs := v.sendRefs.erase id
    log := v.log ++ [.sendOpErased id] }

end PubView

/-- The in-flight counter after the completion of a publish. -/
def inFlightAfter (op : SendOp) (n : Nat) : Nat := if op.published then n - 1 else n

namespace Client

/-- The limits of `sendMessage` let a message pass. -/
def fits (env : Env) (msg : OutMsg) (s : Client) : Bool :=
  !(decide (0 < s.sessionState.maxSendPacketSize) &&
      decide (s.sessionState.maxSendPacketSize < env.frameLength msg)) &&
    !(decide (0 < env.cfg.maxOutputPacketSize) &&
      decide (env.cfg.maxOutputPacketSize < env.frameLength msg))

/-- What an effect says about the data: it also holds inside of an elementary update. -/
structure Shows (a : Bool) (s t : Client) (v : PubView) (armed : List OpId) : Prop where
  view : t.view = v
  timers : ∀ id ∈ t.sendTimers, id ∈ armed ∨ id ∈ s.sendTimers
  nextOpId : s.nextOpId ≤ t.nextOpId
  lockLe : a = true → LockLe s t

/-- The effect of a step: the view it leaves and the response timers it arms. The flags are those of
`Frame`. -/
structure Eff (a : Bool) (b : Scope) (s t : Client) (v : PubView) (armed : List OpId) : Prop
    extends Shows a s t v armed where
  acts : Acts a b s t

variable {s t u : Client} {a : Bool} {b : Scope} {act : Act}

/-- The views and the armed timers of two parts. -/
theorem Shows.trans {v w : PubView} {ids ids' : List OpId} (h : Shows a s t v ids)
    (h' : Shows a t u w ids') : Shows a s u w (ids ++ ids') where
  view := h'.view
  timers := fun id hid => by
    rcases h'.timers id hid with h' | h'
    · exact Or.inl (List.mem_append_right _ h')
    · exact (h.timers id h').imp_left (List.mem_append_left _)
  nextOpId := Nat.le_trans h.nextOpId h'.nextOpId
  lockLe := fun ha => (h.lockLe ha).trans (h'.lockLe ha)

/-- What leaves the publishes alone shows the same view and arms nothing. -/
theorem Still.shows (h : Still a s t) : Shows a s t s.view [] :=
  ⟨h.view, fun id hid => Or.inr (h.timers id hid), h.nextOpId, h.lockLe⟩

/-- Behind a change of the view nothing of it is touched. -/
theorem Shows.still {v : PubView} {ids : List OpId} (h : Shows a s t v ids)
    (hs : Still a t u) : Shows a s u v ids := by
  have := h.trans hs.shows
  rwa [h.view, List.append_nil] at this

/-- One update. -/
theorem Shows.eff {v : PubView} {ids : List OpId} (h : Shows a s t v ids) (hp : Prim act s t)
    (ha : act.allowed a b = true) : Eff a b s t v ids :=
  ⟨h, .of hp ha⟩

/-- Two effects one after the other. -/
theorem Eff.trans {v w : PubView} {ids ids' : List OpId} (h : Eff a b s t v ids)
    (h' : Eff a b t u w ids') : Eff a b s u w (ids ++ ids') :=
  ⟨h.toShows.trans h'.toShows, Relation.ReflTransGen.trans h.acts h'.acts⟩

/-- A frame is an effect that leaves the view. -/
theorem Frame.toEff (h : Frame a b s t) : Eff a b s t s.view [] :=
  ⟨h.toStill.shows, h.acts⟩

/-- An effect and something that leaves the publishes alone. -/
theorem Eff.frame {v : PubView} {ids : List OpId} (h : Eff a b s t v ids)
    (hf : Frame a b t u) : Eff a b s u v ids := by
  have := h.trans hf.toEff
  rwa [h.view, List.append_nil] at this

theorem Frame.eff {v : PubView} {ids : List OpId} (hf : Frame a b s t)
    (h : Eff a b t u v ids) : Eff a b s u v ids := by
  simpa using hf.toEff.trans h

end Client

/-! ## The steps -/

/-- `configBasic`, `configExtra`, `addUserProp` and `setResendAttempts` change the message and its
settings, never the progress of the publish. -/
structure SameProgress (op op' : SendOp) : Prop where
  id : op'.id = op.id
  responseTimer : op'.responseTimer = op.responseTimer
  cb : op'.cb = op.cb
  sendAttempts : op'.sendAttempts = op.sendAttempts
  published : op'.published = op.published
  acked : op'.acked = op.acked
  paused : op'.paused = op.paused
  sent : op'.sent = op.sent
  packetId : op'.packetId = op.packetId
  dup : op'.pubMsg.dup = op.pubMsg.dup

/-- The changes of the session that are visible to publishes. -/
inductive SessionStep where
  | disconnecting
  | reset
  | aliasMax (n : Nat)
  | accept (limit size keep : Nat)
  | connected
  | clearAliases
  | ordering (o : PublishOrdering)
  deriving DecidableEq

/-- The view after a change of the session. -/
def SessionStep.apply (v : PubView) : SessionStep → PubView
  | disconnecting => { v with connected := false, disconnecting := true }
  | reset =>
    { v with sendTopicFreeAliases := [], highQosSendLimit := 0, maxSendTopicAlias := 0,
             maxSendPacketSize := 0, connected := false, disconnecting := false }
  | aliasMax n => { v with maxSendTopicAlias := n }
  | accept limit size keep =>
    { v with highQosSendLimit := limit, maxSendPacketSize := size,
             sendTopicAliases := v.sendTopicAliases.take keep }
  | connected => { v with connected := true }
  | clearAliases => { v with sendTopicAliases := [] }
  | ordering o => { v with publishOrdering := o }

/-- What is known when a step happens: `resume` for a postponed publish that is resumed, `first` for
one sent by the `send` call itself, `dup` for a retransmission, `leave` for a completion, `ack` for a
PUBREC, `stray` for a transmission by the `send` call of a publish that is gone. The others are about the
calls of the API and the changes of the session. -/
structure Guard where
  resume : Client → SendOp → Prop
  first : Client → SendOp → Prop
  dup : Client → SendOp → Prop
  leave : Client → SendOp → Prop
  create : Client → Prop
  start : Client → SendOp → Prop
  config : Client → SendOp → Option PublishBasicConfig → Prop
  ack : Client → SendOp → Prop
  alloc : Client → Str → Prop
  session : Client → SessionStep → Prop
  reconnect : Client → Prop
  stray : Client → SendOp → Prop

namespace Guard

/-- Nothing is known. -/
def any : Guard :=
  ⟨fun _ _ => True, fun _ _ => True, fun _ _ => True, fun _ _ => True, fun _ => True,
    fun _ _ => True, fun _ _ _ => True, fun _ _ => True, fun _ _ => True, fun _ _ => True,
    fun _ => True, fun _ _ => True⟩

/-- None of the guarded steps happens. -/
def none : Guard :=
  ⟨fun _ _ => False, fun _ _ => False, fun _ _ => False, fun _ _ => False, fun _ => False,
    fun _ _ => False, fun _ _ _ => False, fun _ _ => False, fun _ _ => False, fun _ _ => False,
    fun _ => False, fun _ _ => False⟩

/-- `G` says more than `H`. -/
structure Le (G H : Guard) : Prop where
  resume : ∀ s op, G.resume s op → H.resume s op
  first : ∀ s op, G.first s op → H.first s op
  dup : ∀ s op, G.dup s op → H.dup s op
  leave : ∀ s op, G.leave s op → H.leave s op
  create : ∀ s, G.create s → H.create s
  start : ∀ s op, G.start s op → H.start s op
  config : ∀ s op c, G.config s op c → H.config s op c
  ack : ∀ s op, G.ack s op → H.ack s op
  alloc : ∀ s topic, G.alloc s topic → H.alloc s topic
  session : ∀ s c, G.session s c → H.session s c
  reconnect : ∀ s, G.reconnect s → H.reconnect s
  stray : ∀ s op, G.stray s op → H.stray s op

/-- The guard that allows everything. -/
theorem Le.any (G : Guard) : G.Le any := by
  constructor <;> intros <;> trivial

theorem Le.refl (G : Guard) : G.Le G := by
  constructor <;> intros <;> assumption

end Guard

/-- Why a publish is transmitted for the first time: it is postponed and may go now, or this is its
`send` call. -/
def Why (G : Guard) (s : Client) (op : SendOp) : Prop :=
  (op.paused = true ∧ s.canSend op = true ∧ G.resume s op) ∨
    (op.paused = false ∧ op.published = false ∧ op.sent = true ∧ G.first s op)

/-- A publish leaves the queue: it is completed, cancelled or dropped, or it has QoS 0 and is
transmitted. -/
inductive Leave (env : Env) (G : Guard) (a : Bool) (b : Scope) (s : Client) (op : SendOp) : Client → Prop
  | erase {t : Client}
      (h : Client.Eff a b s t
        ((s.view.setInFlight (inFlightAfter op s.view.inFlightSends)).eraseOp op.id) []) :
      Leave env G a b s op t
  | deliver {t : Client} (hwhy : Why G s op) (hqos : op.qos = .atMostOnceDelivery)
      (hfits : s.fits env (.publish op.pubMsg) = true)
      (h : Client.Eff a b s t
        ((s.view.push (.output (.publish op.pubMsg) (some op.source))).eraseOp op.id) []) :
      Leave env G a b s op t

/-- The alias table after `confirmRegisteredAlias`. -/
def confirmAlias (table : List TopicAliasInfo) (topic : Str) : List TopicAliasInfo :=
  table.modify (lowerBound table topic) ({ · with lowQosRegRemCount := 0 })

inductive Micro (env : Env) (G : Guard) (a : Bool) (b : Scope) : Client → Client → Prop
  /-- Nothing publishes read. -/
  | frame {s t : Client} (h : Client.Frame a b s t) : Micro env G a b s t
  /-- The completion callback of a publish. -/
  | report {s t : Client} (id : OpId) (status : AsyncOpStatus)
      (response : Option PublishResponse)
      (h : Client.Eff a b s t (s.view.push (.publishCb id status response)) []) :
      Micro env G a b s t
  /-- CONNECT is sent. -/
  | connect {s t : Client} (msg : ConnectMsg)
      (h : Client.Eff a b s t (s.view.push (.output (.connect msg) none)) []) : Micro env G a b s t
  /-- `publishPrepare`. -/
  | create {s t : Client} (timer : Option Nat) (hconnected : s.view.connected = true)
      (hG : G.create s) (hid : s.nextOpId < t.nextOpId)
      (h : Client.Eff a b s t { s.view with
        sendOps := s.sendOps ++ [{ id := s.nextOpId, responseTimer := timer }],
        sendRefs := s.view.sendRefs ++ [s.nextOpId] } []) : Micro env G a b s t
  /-- Configuration; only `configBasic` touches the topic and the alias table. -/
  | config {s t : Client} (op op' : SendOp) (hop : op ∈ s.sendOps) (hG : G.config s op none)
      (hsent : op.sent = false) (hsame : SameProgress op op') (hpayload : op'.configured = op.configured ∧
        op'.pubMsg.topic = op.pubMsg.topic ∧ op'.pubMsg.topicAlias = op.pubMsg.topicAlias)
      (h : Client.Eff a b s t (s.view.setOp op') []) : Micro env G a b s t
  | configBasic {s t : Client} (op op' : SendOp) (config : PublishBasicConfig)
      (table : List TopicAliasInfo) (hop : op ∈ s.sendOps) (hG : G.config s op (some config))
      (hsent : op.sent = false) (hsame : SameProgress op op')
      (ht : t = (s.sendConfigBasic env op config).1)
      (h : Client.Eff a b s t ((s.view.setOp op').setAliases table) []) : Micro env G a b s t
  /-- The bookkeeping part of `send`: the packet identifier and the callback are set. These updates
  belong to the calls that release the lock, which is released by then. -/
  | start {s t : Client} (op : SendOp) (cb : Bool) (pid : Nat) (hop : op ∈ s.sendOps)
      (hsent : op.sent = false) (hG : G.start s op) (hl : Client.LockLe s t)
      (h : Client.Eff false b s t ((s.view.push (.publishSend op.id op.qos)).setOp
        { op with sent := true, cb := cb, pubMsg := { op.pubMsg with packetId := pid } }) []) :
      Micro env G a b s t
  /-- `send` postpones a publish. -/
  | pause {s t : Client} (op : SendOp) (hop : op ∈ s.sendOps) (hG : G.start s op)
      (hsent : op.sent = true) (hpub : op.published = false) (hcan : s.canSend op = false)
      (h : Client.Eff a b s t (s.view.setOp { op with paused := true }) []) : Micro env G a b s t
  /-- First transmission of a publish that waits for an acknowledgement. -/
  | transmit {s t : Client} (op : SendOp) (hop : op ∈ s.sendOps) (hwhy : Why G s op)
      (hqos : op.qos ≠ .atMostOnceDelivery) (hfits : s.fits env (.publish op.pubMsg) = true)
      (h : Client.Eff a b s t
        (((s.view.push (.output (.publish op.pubMsg) (some op.source))).setInFlight
          (s.view.inFlightSends + 1)).setOp
          { op with paused := false, published := true, sendAttempts := 1 }) [op.id]) :
      Micro env G a b s t
  /-- A `send` call that fails leaves the publish to be completed. -/
  | rewind {s t : Client} (op : SendOp) (hop : op ∈ s.sendOps) (hpaused : op.paused = false)
      (hG : G.first s op)
      (h : Client.Eff a b s t (s.view.setOp { op with sendAttempts := 0 }) []) :
      Micro env G a b s t
  | leave {s t : Client} (op : SendOp) (hop : op ∈ s.sendOps) (hG : G.leave s op)
      (h : Leave env G a b s op t) : Micro env G a b s t
  /-- Retransmission of PUBLISH. -/
  | dup {s t : Client} (op : SendOp) (hop : op ∈ s.sendOps) (hG : G.dup s op)
      (hacked : op.acked = false)
      (h : Client.Eff a b s t
        ((s.view.push (.output (.publish { op.pubMsg with dup := true }) (some op.source))).setOp
          { op with pubMsg := { op.pubMsg with dup := true },
                    sendAttempts := op.sendAttempts + 1 }) [op.id]) : Micro env G a b s t
  /-- Retransmission of PUBREL. -/
  | pubrelDup {s t : Client} (op : SendOp) (hop : op ∈ s.sendOps) (hG : G.dup s op)
      (hacked : op.acked = true)
      (h : Client.Eff a b s t
        ((s.view.push (.output (.pubrel { packetId := op.packetId }) (some op.source))).setOp
          { op with sendAttempts := op.sendAttempts + 1 }) [op.id]) : Micro env G a b s t
  /-- PUBREC: the first PUBREL of a publish. -/
  | acked {s t : Client} (op : SendOp) (hop : op ∈ s.sendOps) (hG : G.ack s op)
      (hlegit : s.isLegitSendAck op false = true) (hqos : op.qos = .exactlyOnceDelivery)
      (hacked : op.acked = false)
      (h : Client.Eff a b s t
        ((s.view.push (.output (.pubrel { packetId := op.packetId }) (some op.source))).setOp
          { op with acked := true, reasonCode := ReasonCode.success, sendAttempts := 1 })
        [op.id]) : Micro env G a b s t
  /-- The message part of `postReconnectionResend`. -/
  | retopic {s t : Client} (op : SendOp) (msg : PublishMsg) (attempts : Nat) (hop : op ∈ s.sendOps)
      (hpaused : op.paused = false) (hG : G.reconnect s)
      (hmsg : env.cfg.hasTopicAliases = true ∧ op.restoreTopic s.view.sendTopicAliases = some msg
        ∨ env.cfg.hasTopicAliases = false ∧ msg = op.pubMsg)
      (h : Client.Eff a b s t
        (s.view.setOp { op with pubMsg := msg, sendAttempts := attempts }) []) :
      Micro env G a b s t
  /-- `confirmRegisteredAlias`. -/
  | confirm {s t : Client} (op : SendOp) (hop : op ∈ s.sendOps) (hreg : op.registeredAlias = true)
      (h : Client.Eff a b s t
        (s.view.setAliases (confirmAlias s.view.sendTopicAliases op.pubMsg.topic)) []) :
      Micro env G a b s t
  /-- `allocPubTopicAlias` of a topic without an alias. -/
  | aliasNew {s t : Client} (topic : Str) (count : Nat) (hG : G.alloc s topic)
      (htopic : topic ≠ []) (hconn : s.view.connected = true ∧ s.view.disconnecting = false)
      (hmax : s.view.sendTopicAliases.length < s.view.maxSendTopicAlias)
      (hnone : findTopicAlias s.view.sendTopicAliases topic = none)
      (h : Client.Eff a b s t { s.view with
        sendTopicFreeAliases := (Client.nextTopicAlias s.view.sendTopicFreeAliases).2
        sendTopicAliases := insertTopicAlias s.view.sendTopicAliases
          ⟨topic, (Client.nextTopicAlias s.view.sendTopicFreeAliases).1, max count 1⟩ } []) :
      Micro env G a b s t
  /-- `allocPubTopicAlias` of a topic that has an alias: its registrations start anew. -/
  | aliasAgain {s t : Client} (topic : Str) (count : Nat)
      (hsome : (findTopicAlias s.view.sendTopicAliases topic).isSome = true)
      (h : Client.Eff a b s t (s.view.setAliases (s.view.sendTopicAliases.modify
        (lowerBound s.view.sendTopicAliases topic) ({ · with lowQosRegRemCount := max count 1 })))
        []) : Micro env G a b s t
  | aliasFree {s t : Client} (topic : Str) (info : TopicAliasInfo) (hG : G.alloc s topic)
      (hsome : findTopicAlias s.view.sendTopicAliases topic = some info)
      (h : Client.Eff a b s t { s.view with
        sendTopicFreeAliases := s.view.sendTopicFreeAliases ++ [info.aliasId]
        sendTopicAliases :=
          s.view.sendTopicAliases.eraseIdx (lowerBound s.view.sendTopicAliases topic) } []) :
      Micro env G a b s t
  | session {s t : Client} (c : SessionStep) (hG : G.session s c)
      (h : Client.Eff a b s t (c.apply s.view) []) : Micro env G a b s t
  /-- A `send` call transmits a publish that its own API guard destroyed. Above QoS 0 it is counted, and
  no operation is left that will be taken from the count. -/
  | stray {s t : Client} (op : SendOp) (n : Nat) (hop : op.id ∉ s.sendOps.map SendOp.id)
      (hold : op.id < s.nextOpId) (hG : G.stray s op)
      (hn : n = s.view.inFlightSends ∨ n = s.view.inFlightSends + 1)
      (h : Client.Eff a b s t
        ((s.view.push (.output (.publish op.pubMsg) (some op.source))).setInFlight n) [op.id]) :
      Micro env G a b s t

/-- Any number of elementary steps. -/
abbrev MicroRun (env : Env) (G : Guard) (a : Bool) (b : Scope) : Client → Client → Prop :=
  Relation.ReflTransGen (Micro env G a b)

variable {env : Env} {G H : Guard} {a : Bool} {b : Scope} {s t : Client} {op : SendOp}

/-- A reason to transmit is one under a weaker guard. -/
theorem Why.mono (hle : G.Le H) (h : Why G s op) : Why H s op :=
  h.imp (fun ⟨h₁, h₂, h₃⟩ => ⟨h₁, h₂, hle.resume _ _ h₃⟩)
    (fun ⟨h₁, h₂, h₃, h₄⟩ => ⟨h₁, h₂, h₃, hle.first _ _ h₄⟩)

theorem Leave.mono (hle : G.Le H) (h : Leave env G a b s op t) : Leave env H a b s op t := by
  cases h with
  | erase h => exact .erase h
  | deliver hwhy hqos hfits h => exact .deliver (hwhy.mono hle) hqos hfits h

/-- A step is one under a weaker guard. -/
theorem Micro.mono (hle : G.Le H) (h : Micro env G a b s t) : Micro env H a b s t := by
  cases h with
  | frame h => exact .frame h
  | report id status response h => exact .report id status response h
  | connect msg h => exact .connect msg h
  | create timer hc hG hid h => exact .create timer hc (hle.create _ hG) hid h
  | config op op' hop hG hsent hsame hp h =>
    exact .config op op' hop (hle.config _ _ _ hG) hsent hsame hp h
  | configBasic op op' config table hop hG hsent hsame ht h =>
    exact .configBasic op op' config table hop (hle.config _ _ _ hG) hsent hsame ht h
  | start op cb pid hop hsent hG hl h => exact .start op cb pid hop hsent (hle.start _ _ hG) hl h
  | pause op hop hG hsent hpub hcan h =>
    exact .pause op hop (hle.start _ _ hG) hsent hpub hcan h
  | transmit op hop hwhy hqos hfits h => exact .transmit op hop (hwhy.mono hle) hqos hfits h
  | rewind op hop hpaused hG h => exact .rewind op hop hpaused (hle.first _ _ hG) h
  | leave op hop hG h => exact .leave op hop (hle.leave _ _ hG) (h.mono hle)
  | dup op hop hG hacked h => exact .dup op hop (hle.dup _ _ hG) hacked h
  | pubrelDup op hop hG hacked h => exact .pubrelDup op hop (hle.dup _ _ hG) hacked h
  | acked op hop hG hlegit hqos hacked h =>
    exact .acked op hop (hle.ack _ _ hG) hlegit hqos hacked h
  | retopic op msg n hop hpaused hG hmsg h =>
    exact .retopic op msg n hop hpaused (hle.reconnect _ hG) hmsg h
  | confirm op hop hreg h => exact .confirm op hop hreg h
  | aliasNew topic count hG htopic hconn hmax hnone h =>
    exact .aliasNew topic count (hle.alloc _ _ hG) htopic hconn hmax hnone h
  | aliasAgain topic count hsome h => exact .aliasAgain topic count hsome h
  | aliasFree topic info hG hsome h => exact .aliasFree topic info (hle.alloc _ _ hG) hsome h
  | session c hG h => exact .session c (hle.session _ _ hG) h
  | stray op n hop hold hG hn h => exact .stray op n hop hold (hle.stray _ _ hG) hn h

/-! ## Updates behind a step -/

/-- A step is a sequence of updates. Only a `send` call marks a publish. -/
theorem Micro.acts (h : Micro env G a b s t) (hG : a = true → ∀ s op, ¬G.start s op) :
    Acts a b s t := by
  cases h with
  | frame h => exact h.acts
  | leave op hop hG h => cases h <;> rename_i h <;> exact h.acts
  | start op cb pid hop hsent hstart hl h =>
    cases a with
    | true => exact absurd hstart (hG rfl s op)
    | false => exact h.acts
  | _ => rename_i h; exact h.acts

/-- A run of elementary steps is a sequence of updates; with the lock left alone nothing is started in it.
-/
theorem MicroRun.acts (h : MicroRun env G a b s t) (hG : a = true → ∀ s op, ¬G.start s op) :
    Acts a b s t := by
  induction h with
  | refl => exact .refl
  | tail _ h ih => exact Relation.ReflTransGen.trans ih (h.acts hG)

/-- A run is one under a weaker guard. -/
theorem MicroRun.mono (hle : G.Le H) (h : MicroRun env G a b s t) : MicroRun env H a b s t :=
  Relation.ReflTransGen.mono (fun _ _ (h : Micro env G a b _ _) => h.mono hle) _ _ h

/-! ## The state of the connection -/

/-- The two flags. -/
def PubView.flags (v : PubView) : Bool × Bool := (v.connected, v.disconnecting)

/-- A step leaves the flags, or it changes the session. -/
theorem Micro.flags (h : Micro env G a b s t) :
    t.view.flags = s.view.flags ∨ ∃ c, G.session s c ∧ t.view = c.apply s.view := by
  cases h with
  | session c hG h => exact Or.inr ⟨c, hG, h.view⟩
  | leave op hop hG h =>
    left
    cases h <;> rename_i h <;> rw [h.view] <;> rfl
  | frame h =>
    left
    rw [h.view]
  | _ =>
    rename_i h
    left
    rw [h.view]
    rfl

/-- What the changes of the session keep of the flags, a run keeps. -/
theorem MicroRun.flags {P : Bool × Bool → Prop} (h : MicroRun env G a b s t)
    (hG : ∀ (u : Client) (c : SessionStep), G.session u c → P u.view.flags →
      P (c.apply u.view).flags)
    (hs : P s.view.flags) : P t.view.flags := by
  induction h with
  | refl => exact hs
  | tail _ h ih =>
    rcases h.flags with heq | ⟨c, hc, heq⟩
    · rw [heq]
      exact ih
    · rw [heq]
      exact hG _ c hc ih

end Mqtt5
