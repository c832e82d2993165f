import Mqtt5Client.Connectivity
import Mqtt5Client.Capacity
import Mqtt5Client.Disconnection

/-!
# Mqtt5Client — the operations of a connection

Most operations exist while the client is connected, the connect operation while it is not
(`InSession`). The flags behind this change where a connection begins or ends: the other updates leave
the session as it is (`Steady`), and of the functions that change it `brokerDisconnected` removes what
belongs to the connection. Three steps need an argument of their own: CONNACK, the initialisation and
the report of the network.
-/

namespace Mqtt5

open Client

variable {env : Env} {a : Bool} {b : Scope} {act : Act} {s t u : Client} {sys sys' : Sys} {l : Label}

/-! ## Updates within a connection -/

/-- The connection is the same: only the topic aliases of the session may change. -/
structure Steady (s t : Client) : Prop where
  session : t.sessionState = { s.sessionState with
    sendTopicFreeAliases := t.sessionState.sendTopicFreeAliases
    recvTopicAliases := t.sessionState.recvTopicAliases
    maxRecvTopicAlias := t.sessionState.maxRecvTopicAlias }
  initialized : t.clientState.initialized = s.clientState.initialized
  network : t.clientState.networkDisconnected = s.clientState.networkDisconnected

theorem Steady.refl (s : Client) : Steady s s := ⟨rfl, rfl, rfl⟩

/-- Two parts within one connection. -/
theorem Steady.trans (h : Steady s t) (h' : Steady t u) : Steady s u where
  session := by
    have h₁ := h'.session
    rw [h.session] at h₁
    exact h₁
  initialized := h'.initialized.trans h.initialized
  network := h'.network.trans h.network

theorem Steady.of_eq (hs : t.sessionState = s.sessionState)
    (hi : t.clientState.initialized = s.clientState.initialized)
    (hn : t.clientState.networkDisconnected = s.clientState.networkDisconnected) : Steady s t :=
  ⟨by rw [hs], hi, hn⟩

/-- The connection goes on. -/
theorem Steady.connected (h : Steady s t) : t.sessionState.connected = s.sessionState.connected := by
  rw [h.session]

/-- And is not being ended. -/
theorem Steady.disconnecting (h : Steady s t) :
    t.sessionState.disconnecting = s.sessionState.disconnecting := by
  rw [h.session]

theorem Steady.assert (s : Client) (site : Site) (c : Bool) : Steady s (s.assert site c) := by
  unfold Client.assert
  split
  · exact .refl s
  · exact .of_eq rfl rfl rfl

/-- A packet identifier says nothing about the connection. -/
theorem Steady.allocPacketId (env : Env) (s : Client) : Steady s (s.allocPacketId env).1 := by
  unfold Client.allocPacketId
  dsimp only
  split <;> exact .of_eq rfl rfl rfl

theorem Steady.timerAlloc (env : Env) (s : Client) (c : Bool) :
    Steady s ((s.timerAlloc env).1.assert .timer c) := by
  have h : Steady s (s.timerAlloc env).1 := .of_eq rfl rfl rfl
  exact h.trans (.assert _ _ _)

theorem Steady.of_same (h : SameSession s t) : Steady s t := .of_eq h.session h.initialized h.network

/-- The kinds that leave the connection as it is. -/
def Act.isSteady : Act → Bool
  | .session | .network _ => false
  | _ => true

/-- The scope of a step within a connection admits steady updates only. -/
theorem Act.isSteady_of_allowed (h : act.allowed a .within = true) : act.isSteady = true := by
  cases act <;> first | rfl | exact (Act.allowed_iff.mp h).2 rfl

/-- A steady update leaves the flags of the session. -/
theorem Prim.steady (h : Prim act s t) (hact : act.isSteady = true) : Steady s t := by
  cases h with
  | status | session | network => cases hact
  | probe env => exact (Steady.timerAlloc env s _).trans (.of_eq rfl rfl rfl)
  | createSend env h => exact (Steady.timerAlloc env s _).trans (.of_eq rfl rfl rfl)
  | createRecv env => exact (Steady.timerAlloc env s _).trans (.of_eq rfl rfl rfl)
  | createKeepAlive env hnil hcon =>
    rcases createKeepAliveOpIfNeeded_cases env hnil with heq | ⟨c, m, op, -, heq⟩
    · rw [heq]
      exact .of_eq rfl rfl rfl
    · rw [heq]
      exact (Steady.assert s .timer c).trans (.of_eq rfl rfl rfl)
  | unlock => exact (Steady.assert s _ _).trans (.of_eq rfl rfl rfl)
  | takeSubscribe env op hop => exact (Steady.allocPacketId env s).trans (.of_eq rfl rfl rfl)
  | takeUnsubscribe env op hop => exact (Steady.allocPacketId env s).trans (.of_eq rfl rfl rfl)
  | takeSend env op x hop hx => exact (Steady.allocPacketId env s).trans (.of_eq rfl rfl rfl)
  | complete ref => exact .of_same (.completeRef ref s)
  | completeSend op hop href =>
    have hmid : Steady s ({ s.releaseSendOp op with
      sendOps := s.sendOps.eraseP (·.id == op.id) }.emit (.sendOpErased op.id)) := .of_eq rfl rfl rfl
    exact hmid.trans (.of_same (((SameSession.refl _).releasePacketId op.packetId).timerFree _))
  | clean =>
    unfold cleanOps
    split <;> exact .of_eq rfl rfl rfl
  | sendAliases | recvAliases | aliasMax => exact ⟨rfl, rfl, rfl⟩
  | _ => exact .of_eq rfl rfl rfl

/-- And a sequence of them. -/
theorem Acts.steady (h : Acts a .within s t) : Steady s t :=
  h.invariant (P := Steady s)
    (fun hp hact hs => hs.trans (hp.steady (Act.isSteady_of_allowed hact))) (.refl s)

/-! ## What exists while the client is connected -/

/-- The operations that need a connection. -/
def OpType.isOnline : OpType → Bool
  | .keepAlive | .disconnect | .subscribe | .unsubscribe | .reauth => true
  | _ => false

/-- The operations fit the state of the connection. -/
structure Apart (s : Client) : Prop where
  offline : s.sessionState.connected = false → ∀ type, type.isOnline = true → s.opCount type = 0
  online : s.sessionState.connected = true → s.opCount .connect = 0
  initialized : s.sessionState.connected = true ∨ s.opCount .connect ≠ 0 →
    s.clientState.initialized = true

/-- The operations of a type are counted by their identities. -/
theorem length_ids (s : Client) (type : OpType) : (s.ids type).length = s.opCount type := by
  cases type <;> exact List.length_map _

/-- There is none without an identity. -/
theorem opCount_of_ids {type : OpType} (h : s.ids type = []) : s.opCount type = 0 := by
  rw [← length_ids, h, List.length_nil]

/-- Fewer operations in the same connection. -/
theorem Apart.shrink (h : Apart s) (hcount : ∀ type, t.opCount type ≤ s.opCount type)
    (hcon : t.sessionState.connected = s.sessionState.connected)
    (hinit : t.clientState.initialized = s.clientState.initialized) : Apart t where
  offline := fun hoff type htype => by
    have hs := h.offline (hcon ▸ hoff) type htype
    have hle := hcount type
    omega
  online := fun hon => by
    have hs := h.online (hcon ▸ hon)
    have hle := hcount .connect
    omega
  initialized := fun hor => by
    rw [hinit]
    refine h.initialized (hor.imp (fun hon => hcon ▸ hon) fun hne => ?_)
    have hle := hcount .connect
    omega

/-- A steady update creates an operation only in the phase it belongs to. -/
theorem Prim.apart (h : Prim act s t) (hact : act.isSteady = true) (hs : Apart s) : Apart t := by
  have hsteady := h.steady hact
  cases hcreates : act.creates with
  | false => exact hs.shrink (h.shrinks hcreates).count hsteady.connected hsteady.initialized
  | true =>
    obtain ⟨type, rfl⟩ : ∃ type, act = .create type := by
      cases act <;> first | exact ⟨_, rfl⟩ | cases hcreates
    have hgrows := h.grows.count
    -- the checks say whether there is a connection
    have hchecks : (type.isOnline = true → s.sessionState.connected = true) ∧
        (type = .connect → s.sessionState.connected = false ∧ s.clientState.initialized = true) := by
      cases h with
      | createConnect env h he => exact ⟨(nomatch ·), fun _ => ⟨h.connected, h.initialized⟩⟩
      | createDisconnect h he => exact ⟨fun _ => h.connected, (nomatch ·)⟩
      | createSubscribe env h => exact ⟨fun _ => h.connected, (nomatch ·)⟩
      | createUnsubscribe env h => exact ⟨fun _ => h.connected, (nomatch ·)⟩
      | createReauth env h he => exact ⟨fun _ => h.connected, (nomatch ·)⟩
      | createKeepAlive env hnil hcon => exact ⟨fun _ => hcon, (nomatch ·)⟩
      | createSend env h => exact ⟨(nomatch ·), (nomatch ·)⟩
      | createRecv env => exact ⟨(nomatch ·), (nomatch ·)⟩
    refine ⟨fun hoff type' htype' => ?_, fun hon => ?_, fun hor => ?_⟩
    · have hoff : s.sessionState.connected = false := hsteady.connected ▸ hoff
      have hne : type' ≠ type := by
        rintro rfl
        have hon := hchecks.1 htype'
        rw [hoff] at hon
        cases hon
      have hle := hgrows type'
      rw [if_neg hne, hs.offline hoff type' htype'] at hle
      omega
    · have hon : s.sessionState.connected = true := hsteady.connected ▸ hon
      have hne : OpType.connect ≠ type := by
        intro heq
        have hoff := (hchecks.2 heq.symm).1
        rw [hon] at hoff
        cases hoff
      have hle := hgrows .connect
      rw [if_neg hne, hs.online hon] at hle
      omega
    · rw [hsteady.initialized]
      by_cases heq : type = .connect
      · exact (hchecks.2 heq).2
      · refine hs.initialized (hor.imp (fun hon => hsteady.connected ▸ hon) fun hne hzero => hne ?_)
        have hle := hgrows .connect
        rw [if_neg (Ne.symm heq), hzero] at hle
        omega

/-- And a sequence of them. -/
theorem Acts.apart (h : Acts a .within s t) (hs : Apart s) : Apart t :=
  h.invariant (fun hp hact hu => hp.apart (Act.isSteady_of_allowed hact) hu) hs

/-- Behind the end of the connection only publishes and receptions are left. -/
theorem Disconnected.count {keep : Bool} (h : Disconnected keep s t) {type : OpType}
    (htype : type.isOnline = true ∨ type = .connect) : t.opCount type = 0 := by
  refine opCount_of_ids (h.gone type ?_)
  rcases htype with htype | rfl
  · cases type <;> cases htype <;> cases keep <;> rfl
  · cases keep <;> rfl

/-- The end of a connection leaves no operation that needs one. -/
theorem Disconnected.apart {keep : Bool} (h : Disconnected keep s t) : Apart t where
  offline := fun _ _ htype => h.count (Or.inl htype)
  online := fun _ => h.count (Or.inr rfl)
  initialized := fun hor => by
    rcases hor with hon | hne
    · rw [h.session] at hon
      cases hon
    · exact absurd (h.count (Or.inr rfl)) hne

/-! ## CONNACK -/

/-- What a CONNACK does about the connection. -/
inductive ConnackRun (env : Env) (b : Scope) (msg : ConnackMsg) (s t : Client) : Prop
  | keeps (h : Acts true b s t)
  | refused (op : ConnectOp) (u : Client) (hop : op ∈ s.connectOps)
      (hacc : connackAccepted env op msg = false) (hu : Acts true b s u)
      (ht : Acts true b { u with sessionState := {} } t) (hgone : t.connectOps = [])
  | accepted (op : ConnectOp) (u : Client) (hop : op ∈ s.connectOps)
      (hacc : connackAccepted env op msg = true) (hu : Acts true b s u)
      (ht : Acts true b (u.connackConnected env op msg) t) (hgone : t.connectOps = [])

/-- An accepted CONNACK sets the connected flag before anything is sent. -/
theorem connackConnected_flags (env : Env) (op : ConnectOp) (msg : ConnackMsg) (s : Client) :
    (s.connackConnected env op msg).sessionState.connected = true ∧
      (s.connackConnected env op msg).sessionState.disconnecting = s.sessionState.disconnecting ∧
      (s.connackConnected env op msg).clientState.initialized = s.clientState.initialized ∧
      (s.connackConnected env op msg).clientState.networkDisconnected =
        s.clientState.networkDisconnected ∧
      ∀ type, (s.connackConnected env op msg).opCount type = s.opCount type := by
  have halias : ∀ (h : PropsHandler) (r : ConnectResponse) (u : Client),
      (u.storeAliasMax env h r).sessionState.disconnecting = u.sessionState.disconnecting ∧
        u.storeAliasMax env h r = { u with sessionState := (u.storeAliasMax env h r).sessionState } := by
    intro h r u
    unfold storeAliasMax
    split <;> exact ⟨rfl, rfl⟩
  obtain ⟨hdis, heq⟩ := halias (PropsHandler.ofProps env.cfg msg.props) (connackAnswer env op msg)
    (s.timerCancel op.timer)
  unfold connackConnected
  dsimp only
  refine ⟨rfl, hdis, ?_, ?_, fun type => ?_⟩
  · rw [heq]
    rfl
  · rw [heq]
    rfl
  · rw [heq]
    cases type <;> rfl

section Timeless

variable [b.Timeless]

/-- The part of an accepted CONNACK that follows the connection. -/
theorem connackRest_within (hr : Reg s) (hcon : s.sessionState.connected = true)
    {op : ConnectOp} (hop : op ∈ s.connectOps) (msg : ConnackMsg) :
    Acts true b s ((if msg.sessionPresent then s.resumeSession env
      else s.abortStoredSession env).connackDone env op msg) := by
  let G : Guard := { Guard.any with start := fun _ _ => False }
  have hG : G.Resends := ⟨fun _ => trivial, fun _ _ _ _ => trivial, fun _ _ _ _ => trivial⟩
  set v := if msg.sessionPresent then s.resumeSession env else s.abortStoredSession env with hv
  have hstored : MacroRun env G true b s v := by
    rw [hv]
    split
    · exact resumeSession_run hG hr
    · exact abortStoredSession_run (Recv.Le.stays _ (Or.inl rfl)) (fun _ _ _ => trivial) hr
  have hcon : v.clearSendAliases.sessionState.connected = true := by
    show v.sessionState.connected = true
    rw [hv]
    split
    · exact resumeSession_connected hr hcon
    · exact abortStoredSession_connected hr hcon
  have hops : (v.clearSendAliases.createKeepAliveOpIfNeeded env).connectOps = s.connectOps := by
    rw [createKeepAliveOpIfNeeded_connectOps]
    show v.connectOps = s.connectOps
    rw [hv]
    split
    · exact (resumeSession_others s).connectOps
    · exact (abortStoredSession_others s).connectOps
  have hclear : Acts true b v v.clearSendAliases := clearSendAliases_eff.acts
  have hdone : Frame true b v.clearSendAliases (v.connackDone env op msg) :=
    ((Frame.refl true b _).createKeepAliveOpIfNeeded (Scope.Timeless.admits _ rfl) env hcon).connectComplete
      (.connect (hops ▸ hop)) _ _
  exact (hstored.acts hr fun _ _ _ h => h).trans (hclear.trans hdone.acts)

/-- What follows happens within the connection. -/
theorem connectHandleConnack_within (hr : Reg s) {op : ConnectOp} (hop : op ∈ s.connectOps)
    {msg : ConnackMsg} (hacc : connackAccepted env op msg = true) :
    Acts true b (s.connackConnected env op msg) (s.connectHandleConnack env op msg) := by
  rw [connectHandleConnack_accepted hacc]
  have hreg : Reg (s.connackConnected env op msg) :=
    (connackConnected_run (G := .any) (a := true) (b := .begins) hop msg (fun _ => trivial)
      (fun _ => trivial) fun _ => trivial).reg hr
  refine connackRest_within hreg rfl ?_ msg
  rw [(connackConnected_others op msg s).connectOps]
  exact hop

/-- A CONNACK that is refused or broken ends the attempt. -/
theorem connectHandleConnack_unaccepted {op : ConnectOp} (hop : op ∈ s.connectOps)
    {msg : ConnackMsg} (hacc : connackAccepted env op msg = false) :
    Acts true b s (s.connectHandleConnack env op msg) ∨
      ∃ u, Acts true b s u ∧
        Acts true b { u with sessionState := {} } (s.connectHandleConnack env op msg) := by
  have howns : s.owns op.timer (.connectTimeout op.id) := ⟨op, hop, rfl, rfl⟩
  have hf : Frame true b s (s.timerCancel op.timer) := (Frame.refl _ _ s).timerCancel howns nofun
  unfold connectHandleConnack
  dsimp only
  split
  · refine Or.inl (((hf.errorLog _).sendDisconnectMsg env _).connectComplete ?_ _ _).acts
    exact (SameOps.post env _ _).live (.connect hop)
  · rename_i herr
    have hrc : (connackResponse env op msg (PropsHandler.ofProps env.cfg msg.props)).reasonCode ≠
        ReasonCode.success := by
      intro hc
      have hc : msg.reasonCode = ReasonCode.success := hc
      simp [connackAccepted, herr, hc] at hacc
    rw [if_pos hrc]
    -- the alias maximum is stored first, and reset with the rest
    have heq : ∀ (h : PropsHandler) (r : ConnectResponse) (u : Client),
        { u.storeAliasMax env h r with sessionState := {} } = { u with sessionState := {} } := by
      intro h r u
      unfold storeAliasMax
      split <;> rfl
    rw [heq]
    have hreset : op ∈ Client.connectOps { s.timerCancel op.timer with sessionState := {} } := hop
    exact Or.inr ⟨_, hf.acts, ((Frame.refl true b _).connectComplete (.connect hreset) _ _).acts⟩

/-- CONNACK as a whole: nothing, a refused attempt, or a new connection. -/
theorem handleConnack_run (hr : Reg s) (hl : LockReg s) (msg : ConnackMsg) :
    ConnackRun env b msg s (s.handle env (.connack msg)) := by
  cases handleConnack_dispatched env hr hl msg with
  | before h heq => exact .keeps (h.acts.mono (by simp) (Scope.bare_le _))
  | handled u op hop hpre heq hcon hpost hgone =>
    have hu : Acts true b s u := hpre.acts.mono (by simp) (Scope.bare_le _)
    have hpost : Acts true b (u.connectHandleConnack env op msg) _ :=
      hpost.acts.mono (by simp) (Scope.bare_le _)
    have hmem : op ∈ u.connectOps := by rw [heq]; exact hop
    have hnone : (s.handle env (.connack msg)).connectOps = [] := by
      refine List.eq_nil_iff_forall_not_mem.mpr fun x hx => ?_
      exact hgone _ (mem_lockKeys.mpr (Or.inl ⟨x, hx, rfl⟩)) rfl
    cases hacc : connackAccepted env op msg with
    | true => exact .accepted op u hop hacc hu ((connectHandleConnack_within (hpre.reg hr) hmem
        hacc).trans hpost) hnone
    | false =>
      rcases connectHandleConnack_unaccepted (b := b) hmem hacc with h | ⟨v, hv, hreset⟩
      · exact .keeps ((hu.trans h).trans hpost)
      · exact .refused op v hop hacc (hu.trans hv) (hreset.trans hpost) hnone

end Timeless

/-! ## Steps -/

/-- The head of the pending tasks and what a step makes of it. -/
theorem step_task (hstep : sys.step env .run = some sys') :
    ∃ task rest, sys.pending = task :: rest ∧ sys'.client = (sys.client.runTask env task).1 ∧
      sys'.pending = (sys.client.runTask env task).2 ++ rest := by
  obtain ⟨task, rest, hpending, rfl⟩ := run_step hstep
  exact ⟨task, rest, hpending, rfl, rfl⟩

/-- A step that is a call. -/
theorem step_call {api : Api} (hstep : sys.step env (.call api) = some sys') :
    sys.pending = [] ∧ api.legal sys.client = true ∧ sys'.client = (sys.client.call env api).1 ∧
      sys'.pending = (sys.client.call env api).2 := by
  obtain ⟨hpending, hlegal, rfl⟩ := call_step hstep
  exact ⟨hpending, hlegal, rfl, rfl⟩

/-- How a step changes the connection: it keeps it, ends it, or is one of the four steps that have their
own way. -/
inductive Conn (env : Env) (b : Scope) (sys : Sys) (l : Label) (t : Client) : Prop
  | keeps (h : Acts false b sys.client t)
  | ends (u : Client) (reason : Option BrokerDisconnectReason) (status : AsyncOpStatus)
      (info : Option DisconnectInfo) (h : Acts false b sys.client u)
      (hd : Disconnected u.preserveSendRecv u t)
      (ht : t = u.brokerDisconnected env reason status info)
  | connack (msg : ConnackMsg) (hin : sys.inMsg l = some (.connack msg))
      (h : ConnackRun env b msg sys.client t)
  | network (hl : l = .run) (hhead : sys.pending.head? = some .networkDown)
      (ht : t = sys.client.networkDown env)
  | prepare (elapsed : Nat) (hl : l = .call (.connectPrepare elapsed))
      (ht : t = (sys.client.beginConnectPrepare elapsed).1)
  | initial (hl : l = .run) (hhead : sys.pending.head? = some .initInternal)
      (ht : t = (sys.client.initInternal env).1)

/-- A step that neither switches the network nor initialises stays in its connection. -/
theorem admits_stays [b.Timeless] (hnet : sys.switches l = none)
    (hexp : sys.expires l = true → b.admits .expire = true)
    (hinit : ¬(l = .run ∧ sys.pending.head? = some .initInternal))
    (hb : ∀ msg, sys.inMsg l = some (.publish msg) → (publishRecv env msg sys.client).Le b)
    (hf : ∀ msg, sys.inMsg l = some msg → msg.isGrant = true → b.Grants)
    (hc : Sys.configures l = true → b.Configures) : sys.Admits env l b where
  talks := Or.inr inferInstance
  expire := hexp
  network down h := by
    rw [hnet] at h
    cases h
  stops _ cb _ hstops := Scope.Timeless.admits _ (by
    cases cb with
    | sessionExpiry => exact hstops.elim
    | _ => rfl)
  ends hl hhead := absurd ⟨hl, hhead⟩ hinit
  recv := hb
  filters := hf
  configures := hc
  strays _ := Scope.Strays.stray

/-- What a step does to the connection. -/
theorem step_conn_timed [b.Timeless] (hw : SysWf sys) (hreg : Registered sys.client)
    (hstep : sys.step env l = some sys') (hexp : sys.expires l = true → b.admits .expire = true)
    (hb : ∀ msg, sys.inMsg l = some (.publish msg) → (publishRecv env msg sys.client).Le b)
    (hf : ∀ msg, sys.inMsg l = some msg → msg.isGrant = true → b.Grants)
    (hcfg : Sys.configures l = true → b.Configures) : Conn env b sys l sys'.client := by
  -- the initialisation, CONNACK and the two switches of the network come first
  by_cases hinit : l = .run ∧ sys.pending.head? = some .initInternal
  · obtain ⟨rfl, hhead⟩ := hinit
    obtain ⟨task, rest, hpending, hclient, -⟩ := step_task hstep
    rw [hpending] at hhead
    obtain rfl := Option.some.inj hhead
    exact .initial rfl (by rw [hpending]; rfl) hclient
  cases hc : sys.isConnack l with
  | true =>
    obtain ⟨msg, hin⟩ := connack_of_isConnack hc
    obtain ⟨rest, -, -, hclient⟩ := inMsg_step hstep hin
    rw [hclient]
    exact .connack msg hin (handleConnack_run hw.reg hw.lock msg)
  | false =>
    cases hnet : sys.switches l with
    | none =>
      have hend := step_end (a := false) hw.reg hw.pend hw.pending hw.lock.connect_registered hstep hc (by simp)
        (admits_stays hnet hexp hinit hb hf hcfg)
      cases hend with
      | goes h => exact .keeps (h.acts hw.reg (by simp))
      | ends u reason status info h _ ht =>
        have hacts : Acts false b sys.client u := h.acts hw.reg (by simp)
        refine .ends u reason status info hacts ?_ ht
        rw [ht]
        exact brokerDisconnected_disconnected env (MacroRun.reg h hw.reg) (hacts.registered hreg) _ _ _
    | some down =>
      cases l with
      | call api =>
        cases api <;> try cases hnet
        rename_i elapsed
        obtain ⟨-, -, hclient, -⟩ := step_call hstep
        exact .prepare elapsed rfl hclient
      | run =>
        obtain ⟨task, rest, hpending, hclient, -⟩ := step_task hstep
        have hhead : sys.pending.head? = some .networkDown := by
          by_contra hne
          simp [Sys.switches, hne] at hnet
        rw [hpending] at hhead
        obtain rfl := Option.some.inj hhead
        exact .network rfl (by rw [hpending]; rfl) hclient

/-- In a scope in which time may pass. -/
theorem step_conn_of [b.Stays] (hw : SysWf sys) (hreg : Registered sys.client)
    (hstep : sys.step env l = some sys')
    (hb : ∀ msg, sys.inMsg l = some (.publish msg) → (publishRecv env msg sys.client).Le b)
    (hf : ∀ msg, sys.inMsg l = some msg → msg.isGrant = true → b.Grants)
    (hcfg : Sys.configures l = true → b.Configures) : Conn env b sys l sys'.client :=
  step_conn_timed hw hreg hstep (fun _ => Scope.Stays.admits _ rfl) hb hf hcfg

theorem step_conn (hw : SysWf sys) (hreg : Registered sys.client)
    (hstep : sys.step env l = some sys') : Conn env .within sys l sys'.client :=
  step_conn_of hw hreg hstep (fun _ _ => .within _) (fun _ _ _ => inferInstance) fun _ => inferInstance

/-- The operations are looked at by number only. -/
theorem Apart.of_refs (h : Apart s) (hcount : ∀ type, t.opCount type = s.opCount type)
    (hcon : t.sessionState.connected = s.sessionState.connected)
    (hinit : t.clientState.initialized = s.clientState.initialized) : Apart t :=
  h.shrink (fun type => Nat.le_of_eq (hcount type)) hcon hinit

/-- The operations of a client that is not connected fit a client that is not connected. -/
theorem Apart.reset (h : Apart s) (hoff : s.sessionState.connected = false)
    (hcount : ∀ type, t.opCount type ≤ s.opCount type) (hcon : t.sessionState.connected = false)
    (hinit : t.opCount .connect ≠ 0 → t.clientState.initialized = true) : Apart t where
  offline := fun _ type htype => by
    have hle := hcount type
    rw [h.offline hoff type htype] at hle
    omega
  online := fun hon => by
    rw [hcon] at hon
    cases hon
  initialized := fun hor => by
    rcases hor with hon | hne
    · rw [hcon] at hon
      cases hon
    · exact hinit hne

/-- The handling of a CONNACK. -/
theorem ConnackRun.apart {msg : ConnackMsg} (h : ConnackRun env .within msg s t) (hs : Apart s) :
    Apart t ∧ t.clientState.initialized = s.clientState.initialized ∧
      t.clientState.networkDisconnected = s.clientState.networkDisconnected := by
  cases h with
  | keeps h => exact ⟨h.apart hs, h.steady.initialized, h.steady.network⟩
  | refused op u hop hacc hu ht hgone =>
    -- there is a connect operation, so the client was not connected
    have hu' : Apart { u with sessionState := {} } := by
      refine (hu.apart hs).reset ?_ (fun type => by cases type <;> exact Nat.le_refl _) rfl
        fun hne => ?_
      · rw [hu.steady.connected]
        cases hcon : s.sessionState.connected with
        | false => rfl
        | true =>
          have hzero := List.length_eq_zero_iff.mp (hs.online hcon)
          rw [hzero] at hop
          cases hop
      · exact (hu.apart hs).initialized (Or.inr hne)
    exact ⟨ht.apart hu', ht.steady.initialized.trans hu.steady.initialized,
      ht.steady.network.trans hu.steady.network⟩
  | accepted op u hop hacc hu ht hgone =>
    obtain ⟨hcon, -, hinit, hnet, hcount⟩ := connackConnected_flags env op msg u
    have hne : s.opCount .connect ≠ 0 := fun hzero => by
      rw [List.length_eq_zero_iff.mp hzero] at hop
      cases hop
    have hready : t.clientState.initialized = true := by
      rw [ht.steady.initialized, hinit, hu.steady.initialized]
      exact hs.initialized (Or.inr hne)
    refine ⟨⟨fun hoff => ?_, fun _ => ?_, fun _ => hready⟩, ?_, ?_⟩
    · rw [ht.steady.connected, hcon] at hoff
      cases hoff
    · show t.connectOps.length = 0
      rw [hgone, List.length_nil]
    · rw [ht.steady.initialized, hinit, hu.steady.initialized]
    · rw [ht.steady.network, hnet, hu.steady.network]

/-! ## Every step -/

/-- The state of the connection in every state of a run. The network is reported as disconnected to a
client that is not connected, incoming data is handled while it is there, and the initialisation waits
for a client that is not initialised. -/
structure InSession (sys : Sys) : Prop where
  apart : Apart sys.client
  network : sys.client.clientState.networkDisconnected = true →
    sys.client.sessionState.connected = false
  frames : ∀ frames, .frames frames ∈ sys.pending →
    sys.client.clientState.networkDisconnected = false
  fresh : .initInternal ∈ sys.pending → sys.client.clientState.initialized = false

/-- The client hears that the network is gone. -/
def Client.networkLost (s : Client) : Client :=
  { s with clientState := { s.clientState with networkDisconnected := true } }

/-- The report of the network ends a session that is not being terminated. -/
theorem networkDown_cases (env : Env) (hr : Reg s) (hreg : Registered s) :
    s.sessionState.disconnecting = true ∧ s.networkDown env = s.networkLost ∨
      Disconnected s.networkLost.preserveSendRecv s.networkLost (s.networkDown env) := by
  have hacts : Acts false .begins s s.networkLost := .of (.network true) (Act.allowed_of rfl fun _ => rfl)
  have hrun : MicroRun env .any false .begins s s.networkLost :=
    .single (.frame ⟨.of_eq rfl rfl rfl rfl rfl rfl fun h => h, hacts⟩)
  by_cases hd : s.sessionState.disconnecting = true
  · exact Or.inl ⟨hd, if_pos hd⟩
  · have heq : s.networkDown env = s.networkLost.brokerDisconnected env none .brokerDisconnected none :=
      if_neg hd
    rw [heq]
    exact Or.inr (brokerDisconnected_disconnected env (hrun.reg hr) (hacts.registered hreg) none
      .brokerDisconnected none)

/-- The loss of the network ends the connection. -/
theorem networkDown_apart (hr : Reg s) (hreg : Registered s) (hs : Apart s)
    (hdis : s.sessionState.disconnecting = true → s.sessionState.connected = false) :
    Apart (s.networkDown env) ∧ (s.networkDown env).sessionState.connected = false := by
  have hlost : Apart s.networkLost := hs.of_refs (fun type => by cases type <;> rfl) rfl rfl
  rcases networkDown_cases env hr hreg with ⟨hd, heq⟩ | hd
  · rw [heq]
    exact ⟨hlost, hdis hd⟩
  · exact ⟨hd.apart, by rw [hd.session]⟩

/-- `connect_prepare` begins by forgetting that the network was lost. -/
theorem beginConnectPrepare_client (elapsed : Nat) (s : Client) :
    ∃ log counts, (s.beginConnectPrepare elapsed).1 = { s with
      clientState := { s.clientState with networkDisconnected := false }, log := log,
      counts := counts } := by
  unfold beginConnectPrepare
  dsimp only
  split
  · exact ⟨_, _, rfl⟩
  · split <;> exact ⟨_, _, rfl⟩

/-- The initialisation begins without operations of a connection. -/
theorem initInternal_apart (hs : Apart s) (hfresh : s.clientState.initialized = false) :
    Apart (s.initInternal env).1 := by
  have hoff : s.sessionState.connected = false := by
    cases hcon : s.sessionState.connected with
    | false => rfl
    | true =>
      have h := hs.initialized (Or.inl hcon)
      rw [hfresh] at h
      cases h
  unfold initInternal
  split
  · exact hs.of_refs (fun type => by cases type <;> rfl) rfl rfl
  · split
    · exact hs.of_refs (fun type => by cases type <;> rfl) rfl rfl
    · have hf : Frame true .rests s (s.terminateOps env .aborted true) := terminateOps_keep_frame .aborted
      have hcount := (Acts.uncreated ⟨rfl, rfl⟩ hf.acts).shrinks.count
      refine hs.reset hoff (fun type => ?_) rfl fun _ => rfl
      have hle := hcount type
      cases type <;> exact hle

/-! ### Steps -/

section Step

variable (hw : SysWf sys) (hreg : Registered sys.client)
  (hdis : sys.client.sessionState.disconnecting = true → sys.client.sessionState.connected = false)
  (h : InSession sys) (hstep : sys.step env l = some sys')

include hw hreg hdis h hstep

/-- Every step keeps the operations of a connection apart from those of an attempt. -/
theorem step_apart : Apart sys'.client := by
  have hconn := step_conn hw hreg hstep
  cases hconn with
  | keeps hk => exact hk.apart h.apart
  | ends u reason status info hu hd ht => exact hd.apart
  | connack msg hin hc => exact (hc.apart h.apart).1
  | network hl hhead ht =>
    rw [ht]
    exact (networkDown_apart hw.reg hreg h.apart hdis).1
  | prepare elapsed hl ht =>
    obtain ⟨log, counts, heq⟩ := beginConnectPrepare_client elapsed sys.client
    rw [ht, heq]
    exact h.apart.of_refs (fun type => by cases type <;> rfl) rfl rfl
  | initial hl hhead ht =>
    rw [ht]
    refine initInternal_apart h.apart (h.fresh ?_)
    exact List.mem_of_mem_head? hhead

/-- The piece that hears that the network is gone ends the connection, and no message is handled after it. -/
theorem step_network (hnet : sys'.client.clientState.networkDisconnected = true) :
    sys'.client.sessionState.connected = false := by
  have hconn := step_conn hw hreg hstep
  cases hconn with
  | keeps hk =>
    rw [hk.steady.connected]
    exact h.network (hk.steady.network ▸ hnet)
  | ends u reason status info hu hd ht => rw [hd.session]
  | connack msg hin hc =>
    -- a message is only handled while the network is there
    obtain ⟨rest, rfl, hhead, -⟩ := inMsg_step hstep hin
    rw [(hc.apart h.apart).2.2, h.frames rest (List.mem_of_mem_head? hhead)] at hnet
    cases hnet
  | network hl hhead ht =>
    rw [ht]
    exact (networkDown_apart hw.reg hreg h.apart hdis).2
  | prepare elapsed hl ht =>
    obtain ⟨log, counts, heq⟩ := beginConnectPrepare_client elapsed sys.client
    rw [ht, heq] at hnet
    cases hnet
  | initial hl hhead ht =>
    have hoff : sys.client.sessionState.connected = false := by
      cases hcon : sys.client.sessionState.connected with
      | false => rfl
      | true =>
        have hready := h.apart.initialized (Or.inl hcon)
        rw [h.fresh (List.mem_of_mem_head? hhead)] at hready
        cases hready
    rw [ht]
    unfold initInternal
    split
    · exact hoff
    · split
      · exact hoff
      · rfl

omit hdis in
/-- Data is only accepted while the network is there, and nothing comes between its frames. -/
theorem step_frames {frames : List InputFrame} (hmem : .frames frames ∈ sys'.pending) :
    sys'.client.clientState.networkDisconnected = false := by
  have hconn := step_conn hw hreg hstep
  cases l with
  | call api =>
    obtain ⟨-, -, -, hpending⟩ := step_call hstep
    rw [hpending] at hmem
    obtain ⟨elapsed, rfl⟩ := call_late hmem rfl
    have hmem : .frames frames ∈ (sys.client.beginConnectPrepare elapsed).2 := hmem
    unfold beginConnectPrepare at hmem
    dsimp only at hmem
    split at hmem
    · simp at hmem
    · split at hmem <;> simp at hmem
  | run =>
    obtain ⟨task, rest, hpending, hclient, hpending'⟩ := step_task hstep
    have hshape := hw.pending.shape
    rw [hpending] at hshape
    rw [hpending'] at hmem
    -- data is only looked at while the network is there
    have hold : ((∃ frames, task = .frames frames) ∨ (∃ frames, task = .input frames)) ∧
        sys.client.clientState.networkDisconnected = false := by
      rcases List.mem_append.mp hmem with hm | hm
      · rcases runTask_late hm rfl with ⟨id, heq⟩ | ⟨heq, -⟩ | ⟨fs, -, ⟨fs', rfl⟩ | ⟨htask, hnet⟩⟩
        · cases heq
        · cases heq
        · exact ⟨Or.inl ⟨fs', rfl⟩, h.frames fs' (by rw [hpending]; exact List.mem_cons_self)⟩
        · exact ⟨Or.inr htask, hnet⟩
      · exact absurd hm (hshape.front.frames frames)
    have hhead : sys.pending.head? = some task := by rw [hpending]; rfl
    cases hconn with
    | keeps hk => exact hk.steady.network.trans hold.2
    | ends u reason status info hu hd ht => exact (hd.network.trans hu.steady.network).trans hold.2
    | connack msg hin hc => exact (hc.apart h.apart).2.2.trans hold.2
    | network hl hnet ht =>
      obtain rfl := Option.some.inj (hhead.symm.trans hnet)
      rcases hold.1 with ⟨_, heq⟩ | ⟨_, heq⟩ <;> cases heq
    | prepare elapsed hl ht => cases hl
    | initial hl hinit ht =>
      obtain rfl := Option.some.inj (hhead.symm.trans hinit)
      rcases hold.1 with ⟨_, heq⟩ | ⟨_, heq⟩ <;> cases heq

omit hdis in
/-- The initialisation is put off for a client that needs it. -/
theorem step_fresh (hmem : .initInternal ∈ sys'.pending) :
    sys'.client.clientState.initialized = false := by
  have hconn := step_conn hw hreg hstep
  cases l with
  | call api =>
    obtain ⟨-, -, hclient, hpending⟩ := step_call hstep
    rw [hpending] at hmem
    obtain ⟨elapsed, rfl⟩ := call_late hmem rfl
    have hmem : .initInternal ∈ (sys.client.beginConnectPrepare elapsed).2 := hmem
    rw [hclient]
    show (sys.client.beginConnectPrepare elapsed).1.clientState.initialized = false
    unfold beginConnectPrepare at hmem ⊢
    dsimp only at hmem ⊢
    split
    · rename_i hready
      rw [if_pos hready] at hmem
      simp at hmem
    · rename_i hready
      have hold : sys.client.clientState.initialized = false := by simpa using hready
      split <;> exact hold
  | run =>
    obtain ⟨task, rest, hpending, hclient, hpending'⟩ := step_task hstep
    have hshape := hw.pending.shape
    rw [hpending] at hshape
    rw [hpending'] at hmem
    have hm : .initInternal ∈ rest := by
      rcases List.mem_append.mp hmem with hm | hm
      · rcases runTask_late hm rfl with ⟨id, heq⟩ | ⟨heq, -⟩ | ⟨fs, heq, -⟩ <;> cases heq
      · exact hm
    have hentry := hshape.front.initInternal hm
    have hold : sys.client.clientState.initialized = false :=
      h.fresh (by rw [hpending]; exact List.mem_cons_of_mem _ hm)
    have hhead : sys.pending.head? = some task := by rw [hpending]; rfl
    cases hconn with
    | keeps hk => exact hk.steady.initialized.trans hold
    | ends u reason status info hu hd ht => exact hd.initialized
    | connack msg hin hc => exact (hc.apart h.apart).2.1.trans hold
    | network hl hnet ht =>
      obtain rfl := Option.some.inj (hhead.symm.trans hnet)
      cases hentry
    | prepare elapsed hl ht => cases hl
    | initial hl hinit ht =>
      obtain rfl := Option.some.inj (hhead.symm.trans hinit)
      cases hentry

/-- The four parts together. -/
theorem step_inSession : InSession sys' where
  apart := step_apart hw hreg hdis h hstep
  network := step_network hw hreg hdis h hstep
  frames := fun _ => step_frames hw hreg h hstep
  fresh := step_fresh hw hreg h hstep

end Step

/-- The connection and the operations fit in every reachable state. -/
theorem reach_inSession {ok : Sys → Label → Prop} (h : (machine env).Reach ok sys) : InSession sys := by
  have hinit : ∀ sys, (machine env).init sys → InSession sys := by
    rintro _ ⟨cbs, config, rfl⟩
    have hapart : Apart (Client.init cbs config) :=
      ⟨fun _ type _ => by cases type <;> rfl, fun _ => rfl, fun hor => by
        rcases hor with hon | hne
        · cases hon
        · exact absurd rfl hne⟩
    exact ⟨hapart, fun _ => rfl, fun _ _ => rfl, fun _ => rfl⟩
  exact h.invariant hinit fun sys l sys' hs hinv _ hstep =>
    step_inSession (reach_wf hs) (reach_registered hs) (reach_disconnecting hs) hinv hstep

/-! ## Between two connections -/

/-- The session of a client without a connection: only the topic aliases may have been set. -/
def Blank (s : Client) : Prop :=
  s.sessionState = { ({} : SessionState) with
    sendTopicFreeAliases := s.sessionState.sendTopicFreeAliases
    recvTopicAliases := s.sessionState.recvTopicAliases
    maxRecvTopicAlias := s.sessionState.maxRecvTopicAlias }

/-- A session that was not begun stays so. -/
theorem Steady.blank (h : Steady s t) (hs : Blank s) : Blank t := by
  unfold Blank at hs ⊢
  have hsession := h.session
  rw [hs] at hsession
  exact hsession

theorem Blank.of_eq (h : t.sessionState = s.sessionState) (hs : Blank s) : Blank t := by
  unfold Blank at hs ⊢
  rw [h]
  exact hs

/-- A client that is neither connected nor terminating its session has none. -/
def Rested (s : Client) : Prop :=
  s.sessionState.connected = false → s.sessionState.disconnecting = false → Blank s

/-- Between two connections nothing is begun. -/
theorem Steady.rested (h : Steady s t) (hs : Rested s) : Rested t := fun hoff hdis =>
  h.blank (hs (h.connected ▸ hoff) (h.disconnecting ▸ hdis))

theorem Rested.of_eq (h : t.sessionState = s.sessionState) (hs : Rested s) : Rested t :=
  fun hoff hdis => .of_eq h (hs (h ▸ hoff) (h ▸ hdis))

theorem rested_of_disconnecting (h : s.sessionState.disconnecting = true) : Rested s := by
  intro _ hdis
  rw [h] at hdis
  cases hdis

/-- A step that ends a connection marks the session as ended. -/
theorem step_rested (hw : SysWf sys) (hreg : Registered sys.client)
    (hstep : sys.step env l = some sys') (hs : Rested sys.client) : Rested sys'.client := by
  cases step_conn hw hreg hstep with
  | keeps hk => exact hk.steady.rested hs
  | ends u reason status info hu hd ht => exact rested_of_disconnecting (by rw [hd.session])
  | connack msg hin hc =>
    cases hc with
    | keeps hk => exact hk.steady.rested hs
    | refused op u hop hacc hu ht hgone => exact fun _ _ => ht.steady.blank rfl
    | accepted op u hop hacc hu ht hgone =>
      intro hoff
      rw [ht.steady.connected, (connackConnected_flags env op msg u).1] at hoff
      cases hoff
  | network hl hhead ht =>
    rw [ht]
    unfold networkDown
    dsimp only
    split
    · exact .of_eq rfl hs
    · exact rested_of_disconnecting (by rw [brokerDisconnected_session])
  | prepare elapsed hl ht =>
    obtain ⟨log, counts, heq⟩ := beginConnectPrepare_client elapsed sys.client
    rw [ht, heq]
    exact .of_eq rfl hs
  | initial hl hhead ht =>
    rw [ht]
    unfold initInternal
    split
    · exact .of_eq rfl hs
    · split
      · exact .of_eq rfl hs
      · exact fun _ _ => rfl

/-- A client without a connection has a blank session or one that was ended. -/
theorem reach_rested {ok : Sys → Label → Prop} (h : (machine env).Reach ok sys) : Rested sys.client := by
  have hinit : ∀ sys, (machine env).init sys → Rested sys.client := by
    rintro _ ⟨cbs, config, rfl⟩
    exact fun _ _ => rfl
  exact h.invariant hinit fun sys l sys' hs hinv _ hstep =>
    step_rested (reach_wf hs) (reach_registered hs) hstep hinv

end Mqtt5
