import Mqtt5Client.Disconnection

/-!
# Mqtt5Client — receptions

What a step does to the receptions in `m_recvOps` and to the messages reported to the application. Only
a PUBLISH that begins a reception adds one and only such a PUBLISH reports a message; its outcome is
decided by the checks of `RecvOp::handle`, which are collected in a verdict here.
-/

namespace Mqtt5

open Client

variable {env : Env} {a : Bool} {b : Scope} {s t u : Client} {sys sys' : Sys} {l : Label} {act : Act}

/-! ## The verdict on a message -/

/-- What `RecvOp::handle(PublishMsg&)` does with a message: the connection ends, the message is refused,
or it is reported. -/
inductive Verdict where
  | terminate (reason : ReasonCode)
  | refuse
  | report (info : MessageInfo)
  deriving DecidableEq

/-- The checks of `RecvOp::handle(PublishMsg&)` once the QoS is known to be valid. -/
def recvVerdict (env : Env) (qos : Qos) (msg : RecvPublishMsg) (s : Client) : Verdict :=
  let h := PropsHandler.ofProps env.cfg msg.props
  let limit := s.sessionState.highQosRecvLimit
  if qos ≠ .atMostOnceDelivery ∧ 0 < limit ∧ limit < s.recvOps.length then
    .terminate ReasonCode.receiveMaxExceeded
  else if !s.sessionState.connected then .refuse
  else if !(if msg.topic = [] then (s, true) else s.verifyPubTopic env msg.topic false).2 then
    .terminate ReasonCode.protocolError
  else if h.protocolError then .terminate ReasonCode.protocolError
  else if msg.topic = [] ∧ h.topicAlias = none then .terminate ReasonCode.protocolError
  else
    match s.resolveRecvTopic msg.topic h.topicAlias with
    | .error e => .terminate e.2
    | .ok (topic, s) =>
      if s.isNotSubscribed env topic then .refuse
      else if qos ≠ .atMostOnceDelivery ∧ msg.packetId = none then
        .terminate ReasonCode.unspecifiedError
      else .report (messageInfo env topic qos msg h)

/-- The verdict on a message for a reception that was just registered. -/
def publishVerdict (env : Env) (msg : RecvPublishMsg) (s : Client) : Verdict :=
  match msg.qos with
  | none => .terminate ReasonCode.protocolError
  | some qos => recvVerdict env qos msg s

/-- The checks change nothing but the log, the failures and the topic aliases of the broker. -/
structure Checked (s t : Client) : Prop where
  eq : t = { s with log := t.log, counts := t.counts, faults := t.faults, sessionState := { s.sessionState with
    recvTopicAliases := t.sessionState.recvTopicAliases } }
  frame : Frame true .rests s t

theorem Checked.refl (s : Client) : Checked s s := ⟨rfl, .refl _ _ _⟩

/-- One check behind another. -/
theorem Checked.trans (h : Checked s t) (h' : Checked t u) : Checked s u where
  eq := by
    have h₁ := h'.eq
    rw [h.eq] at h₁
    exact h₁
  frame := h.frame.trans h'.frame

/-- A check that fails says so in the error log. -/
theorem Checked.errorLog (h : Checked s t) (m : String) : Checked s (t.errorLog m) :=
  h.trans ⟨rfl, (Frame.refl _ _ _).errorLog m⟩

theorem Checked.assert (h : Checked s t) (site : Site) (c : Bool)
    (hsite : (Fault.assertFailed site).plain = true) : Checked s (t.assert site c) := by
  refine h.trans ⟨?_, (Frame.refl _ _ _).assert site c hsite⟩
  unfold Client.assert
  split <;> rfl

/-- The verification of the topic. -/
theorem Checked.verifyPubTopic (env : Env) (topic : Str) (outgoing : Bool) :
    Checked s (s.verifyPubTopic env topic outgoing).1 := by
  unfold Client.verifyPubTopic
  repeat' split
  all_goals first
    | exact .refl s
    | exact (Checked.refl s).errorLog _

/-- The alias of the topic is resolved. -/
theorem Checked.resolveRecvTopic {topic topic' : Str} {aliasId : Option Nat}
    (h : s.resolveRecvTopic topic aliasId = .ok (topic', t)) : Checked s t := by
  refine ⟨?_, (Frame.refl _ _ s).resolveRecvTopic rfl h⟩
  unfold Client.resolveRecvTopic at h
  split at h
  · cases h
    rfl
  · split at h
    · cases h
    · split at h
      · cases h
        rfl
      · split at h
        · cases h
        · cases h
        · cases h
          rfl

/-- Which is no event. -/
theorem resolveRecvTopic_log {topic topic' : Str} {aliasId : Option Nat}
    (h : s.resolveRecvTopic topic aliasId = .ok (topic', t)) : t.log = s.log := by
  unfold Client.resolveRecvTopic at h
  split at h
  · cases h
    rfl
  · split at h
    · cases h
    · split at h
      · cases h
        rfl
      · split at h <;> cases h
        rfl

/-- A topic that passes is not commented on. -/
theorem verifyPubTopic_pass {topic : Str} {outgoing : Bool}
    (h : (s.verifyPubTopic env topic outgoing).2 = true) :
    (s.verifyPubTopic env topic outgoing).1 = s := by
  unfold Client.verifyPubTopic at h ⊢
  repeat' split
  all_goals first
    | rfl
    | simp_all

/-- What the handler does after a verdict. -/
def Verdict.Leads (env : Env) (op : RecvOp) (qos : Qos) (msg : RecvPublishMsg) (s u : Client) :
    Verdict → Prop
  | .terminate reason => ∃ t, Checked s t ∧ u = t.terminationWithReason env reason
  | .refuse =>
    ∃ t, Checked s t ∧ u = t.completeNotAuthorized env op qos (msg.packetId.getD 0)
  | .report info =>
    ∃ t, Checked s t ∧ t.log = s.log ∧ (qos = .atMostOnceDelivery ∨ msg.packetId.isSome = true) ∧
      info.qos = qos ∧ u = t.reportRecvPublish env op qos msg info

/-- `RecvOp::handle` does what the verdict on the message says. -/
theorem recvPublish_leads (op : RecvOp) (qos : Qos) (msg : RecvPublishMsg) (s : Client) :
    (recvVerdict env qos msg s).Leads env op qos msg s (s.recvPublish env op qos msg) := by
  unfold recvVerdict recvPublish
  dsimp only
  set h := PropsHandler.ofProps env.cfg msg.props
  have hself := Checked.refl s
  by_cases hmax : qos ≠ .atMostOnceDelivery ∧ 0 < s.sessionState.highQosRecvLimit ∧
      s.sessionState.highQosRecvLimit < s.recvOps.length
  · rw [if_pos hmax, if_pos hmax]
    exact ⟨s, hself, rfl⟩
  rw [if_neg hmax, if_neg hmax]
  by_cases hcon : (!s.sessionState.connected) = true
  · rw [if_pos hcon, if_pos hcon]
    exact ⟨_, hself.errorLog _, rfl⟩
  rw [if_neg hcon, if_neg hcon]
  -- the topic
  set v := if msg.topic = [] then (s, true) else s.verifyPubTopic env msg.topic false with hv
  have hchecked : Checked s v.1 := by
    rw [hv]
    split
    · exact hself
    · exact .verifyPubTopic env _ _
  by_cases htopic : (!v.2) = true
  · rw [if_pos htopic, if_pos htopic]
    exact ⟨_, hchecked.errorLog _, rfl⟩
  rw [if_neg htopic, if_neg htopic]
  have hsame : v.1 = s := by
    rw [hv] at htopic ⊢
    split at htopic
    · rename_i hempty
      rw [if_pos hempty]
    · rename_i hne
      rw [if_neg hne]
      exact verifyPubTopic_pass (by simpa using htopic)
  rw [hsame]
  by_cases hprops : h.protocolError = true
  · rw [if_pos hprops, if_pos hprops]
    exact ⟨_, hself.errorLog _, rfl⟩
  rw [if_neg hprops, if_neg hprops]
  by_cases halias : msg.topic = [] ∧ h.topicAlias = none
  · rw [if_pos halias, if_pos halias]
    exact ⟨_, hself.errorLog _, rfl⟩
  rw [if_neg halias, if_neg halias]
  cases hres : s.resolveRecvTopic msg.topic h.topicAlias with
  | error e => exact ⟨_, hself.errorLog _, rfl⟩
  | ok r =>
    obtain ⟨topic, t⟩ := r
    have ht := Checked.resolveRecvTopic hres
    dsimp only
    by_cases hsub : t.isNotSubscribed env topic = true
    · rw [if_pos hsub, if_pos hsub]
      exact ⟨_, ht.errorLog _, rfl⟩
    rw [if_neg hsub, if_neg hsub]
    by_cases hpid : qos ≠ .atMostOnceDelivery ∧ msg.packetId = none
    · rw [if_pos hpid]
      obtain ⟨hqos, hnone⟩ := hpid
      refine ⟨_, ht.assert .recvOp false rfl, ?_⟩
      unfold reportRecvPublish
      rw [hnone]
      cases qos with
      | atMostOnceDelivery => exact absurd rfl hqos
      | _ => rfl
    · rw [if_neg hpid]
      refine ⟨t, ht, resolveRecvTopic_log hres, ?_, rfl, rfl⟩
      by_cases hqos : qos = .atMostOnceDelivery
      · exact Or.inl hqos
      · exact Or.inr (Option.isSome_iff_ne_none.mpr fun hnone => hpid ⟨hqos, hnone⟩)

/-! ## Updates -/

/-- The messages that were reported to the application. -/
def Client.reports (s : Client) : List MessageInfo :=
  s.log.filterMap fun
    | .messageReceived info => some info
    | _ => none

/-- An event that is no report. -/
theorem reports_emit {e : Event} (he : e.isReport = false) : (s.emit e).reports = s.reports := by
  unfold Client.reports Client.emit
  rw [List.filterMap_append]
  cases e <;> first | exact List.append_nil _ | cases he

theorem reports_of_log (h : t.log = s.log) : t.reports = s.reports := by
  unfold Client.reports
  rw [h]

/-- A packet identifier is taken without a report. -/
theorem reports_allocPacketId (env : Env) (s : Client) :
    (s.allocPacketId env).1.reports = s.reports := by
  unfold allocPacketId
  dsimp only
  split
  · exact reports_emit rfl
  · exact reports_of_log rfl

/-- Only one kind of update reports a message. -/
theorem Prim.reports_eq (h : Prim act s t) (ha : act ≠ .report) : t.reports = s.reports := by
  cases h with
  | emit e h => exact reports_emit h
  | report info => exact absurd rfl ha
  | probe env => exact reports_of_log (log_assert _ _ _)
  | createSend env => exact reports_of_log (log_assert _ _ _)
  | createRecv env => exact reports_of_log (log_assert _ _ _)
  | createKeepAlive env hnil =>
    rcases createKeepAliveOpIfNeeded_cases env hnil with heq | ⟨c, m, op, -, heq⟩
    · rw [heq]
      rfl
    · rw [heq]
      exact reports_of_log (log_assert s .timer c)
  | unlock => exact reports_of_log (log_assert _ _ _)
  | takeSubscribe env op hop => exact reports_allocPacketId env s
  | takeUnsubscribe env op hop => exact reports_allocPacketId env s
  | takeSend env op x hop hx => exact reports_allocPacketId env s
  | complete ref => exact reports_of_log (log_completeRef ref s)
  | completeSend op hop href =>
    have hlog : (s.destroySendOp op).log = s.log ++ [.sendOpErased op.id] := by
      unfold destroySendOp eraseSendOp
      rw [timerFree_eq, releasePacketId_eq]
      rfl
    unfold Client.reports
    rw [hlog, List.filterMap_append]
    exact List.append_nil _
  | clean =>
    refine reports_of_log ?_
    unfold cleanOps
    split <;> rfl
  | _ => rfl

/-- Nothing but a PUBLISH reports a message. -/
theorem Acts.reports_eq (hb : b.admits .report = false) (h : Acts a b s t) :
    t.reports = s.reports := by
  have hinv : ∀ {act u v}, Prim act u v → Act.allowed a b act = true → u.reports = s.reports →
      v.reports = s.reports := by
    intro act u v hp hact hs
    refine (hp.reports_eq ?_).trans hs
    rintro rfl
    have hadmits := (Act.allowed_iff.mp hact).2 rfl
    rw [hb] at hadmits
    cases hadmits
  exact h.invariant hinv rfl

/-- A completion creates no reception. -/
theorem recvOps_completeRef (ref : OpRef) (s : Client) :
    (s.completeRef ref).recvOps.Sublist s.recvOps := by
  rcases completeRef_cases ref s with heq | heq | ⟨-, heq⟩
  · rw [heq]
  · rw [heq]
    exact .refl _
  · rw [heq, eraseRef_eq]
    dsimp only
    split
    · exact List.eraseP_sublist
    · exact .refl _

/-- Receptions only go, unless one is created or gets its packet identifier. -/
theorem Prim.recvOps (h : Prim act s t) (hcreate : act ≠ .create .recv) (hset : act ≠ .set .recv) :
    t.recvOps.Sublist s.recvOps := by
  cases hplain : act.plain with
  | true =>
    rw [(h.sameOps hplain).recvOps]
  | false =>
    have halloc : ∀ env, (s.allocPacketId env).1.recvOps = s.recvOps := by
      intro env
      unfold allocPacketId
      dsimp only
      split <;> rfl
    cases h with
    | createRecv env => exact absurd rfl hcreate
    | setRecv id packetId => exact absurd rfl hset
    | complete ref => exact recvOps_completeRef ref s
    | completeSend op hop href =>
      unfold destroySendOp eraseSendOp
      rw [timerFree_eq, releasePacketId_eq]
      exact .refl _
    | createSend env =>
      rw [show (s.createSendOp env).recvOps = _ from (SameOps.timerAlloc env s _).recvOps]
    | createKeepAlive env hnil =>
      rcases createKeepAliveOpIfNeeded_cases env hnil with heq | ⟨c, m, op, -, heq⟩
      · rw [heq]
        exact .refl _
      · rw [heq]
        exact (SameOps.assert s .timer c).recvOps ▸ .refl _
    | takeSubscribe env op hop =>
      rw [show (s.takeSubscribe env op).recvOps = _ from halloc env]
    | takeUnsubscribe env op hop =>
      rw [show (s.takeUnsubscribe env op).recvOps = _ from halloc env]
    | takeSend env op x hop hx =>
      rw [show (s.takeSend env x).recvOps = _ from halloc env]
    | clean =>
      unfold cleanOps
      split <;> exact .refl _
    | _ => first | (cases hplain; done) | exact .refl _

/-- Without a creation the receptions become fewer only. -/
theorem Acts.recvOps (hb : b.admits (.create .recv) = false ∧ b.admits (.set .recv) = false)
    (h : Acts a b s t) : t.recvOps.Sublist s.recvOps := by
  have hinv : ∀ {act u v}, Prim act u v → Act.allowed a b act = true → u.recvOps.Sublist s.recvOps →
      v.recvOps.Sublist s.recvOps := by
    intro act u v hp hact hs
    refine (hp.recvOps ?_ ?_).trans hs
    · rintro rfl
      have hadmits := (Act.allowed_iff.mp hact).2 rfl
      rw [hb.1] at hadmits
      cases hadmits
    · rintro rfl
      have hadmits := (Act.allowed_iff.mp hact).2 rfl
      rw [hb.2] at hadmits
      cases hadmits
  exact h.invariant hinv (.refl _)

/-! ## A PUBLISH that begins a reception -/

/-- The reception that was just registered. -/
def Client.newRecvOp (env : Env) (s : Client) : RecvOp :=
  { id := s.nextOpId, responseTimer := (s.keepAliveMessageReceived.timerAlloc env).2 }

/-- The state in which the message is handed to it. -/
def Client.beginRecv (env : Env) (s : Client) : Client :=
  s.keepAliveMessageReceived.registerRecvOp env

/-- The allocation of a reception. -/
theorem beginRecv_eq (env : Env) (s : Client) : s.beginRecv env = { s with
    timerMgr := (s.beginRecv env).timerMgr, faults := (s.beginRecv env).faults
    ops := s.ops ++ [some ⟨.recv, s.nextOpId⟩], nextOpId := s.nextOpId + 1
    recvOps := s.recvOps ++ [s.newRecvOp env] } := by
  unfold beginRecv registerRecvOp newRecvOp
  rw [keepAliveMessageReceived_eq]
  dsimp only
  unfold Client.assert
  split <;> rfl

/-- A PUBLISH that begins a reception is handed to it. -/
theorem handlePublish_begun {msg : RecvPublishMsg} (h : beginsReception env msg s = true) :
    s.handlePublish env msg =
      (s.beginRecv env).recvOpHandlePublish env (s.newRecvOp env) msg := by
  have hops : s.keepAliveMessageReceived.recvOps = s.recvOps := by rw [keepAliveMessageReceived_eq]
  have hnext : s.keepAliveMessageReceived.nextOpId = s.nextOpId := by rw [keepAliveMessageReceived_eq]
  unfold beginsReception at h
  simp only [Bool.and_eq_true, Bool.not_eq_true', Bool.or_eq_true, decide_eq_true_eq] at h
  obtain ⟨⟨hdis, hwhich⟩, hfull⟩ := h
  have hcreate : s.keepAliveMessageReceived.createRecvOp env msg =
      (s.beginRecv env).recvOpHandlePublish env (s.newRecvOp env) msg := by
    unfold createRecvOp
    rw [hops, if_neg (by simp [hfull])]
    have hsame := SameOps.timerAlloc env s.keepAliveMessageReceived
      (s.keepAliveMessageReceived.timerAlloc env).2.isSome
    dsimp only
    rw [hsame.nextOpId, hnext]
    unfold beginRecv registerRecvOp newRecvOp
    dsimp only
    rw [hsame.nextOpId, hnext]
  unfold handlePublish
  rw [hdis, if_neg Bool.false_ne_true]
  dsimp only
  by_cases hqos : msg.qos = some .atMostOnceDelivery ∨ msg.qos = some .atLeastOnceDelivery
  · rw [if_pos hqos]
    exact hcreate
  · rw [if_neg hqos, hops]
    have hnone := hwhich.resolve_left hqos
    rw [Option.isNone_iff_eq_none.mp hnone]
    exact hcreate

/-- The verdict decides what the handler does. -/
theorem handlePublish_leads {msg : RecvPublishMsg} (h : beginsReception env msg s = true) :
    (publishVerdict env msg (s.beginRecv env)).Leads env (s.newRecvOp env)
      (msg.qos.getD .exactlyOnceDelivery) msg (s.beginRecv env) (s.handlePublish env msg) := by
  rw [handlePublish_begun h]
  unfold publishVerdict recvOpHandlePublish
  cases msg.qos with
  | none => exact ⟨_, (Checked.refl _).errorLog _, rfl⟩
  | some qos =>
    dsimp only
    rw [if_neg (by simp [newRecvOp])]
    exact recvPublish_leads _ _ _ _

/-! ### The outcomes -/

/-- A check leaves the receptions. -/
theorem Checked.recvOps (h : Checked s t) : t.recvOps = s.recvOps := by rw [h.eq]

/-- And reports nothing. -/
theorem Checked.reports (h : Checked s t) : t.reports = s.reports :=
  h.frame.acts.reports_eq rfl

theorem Checked.expiry (h : Checked s t) :
    t.sessionState.sessionExpiryIntervalMs = s.sessionState.sessionExpiryIntervalMs := by
  rw [h.eq]

/-- An acknowledgement is no report. -/
theorem reports_post (env : Env) (msg : OutMsg) (s : Client) :
    (s.post env msg).reports = s.reports := by
  have hsent : ∀ u : Client, u.keepAliveMessageSent.reports = u.reports := fun u =>
    reports_of_log (by rw [keepAliveMessageSent_eq])
  unfold post sendMessage
  dsimp only
  split
  · exact reports_emit rfl
  · split
    · exact reports_emit rfl
    · exact (hsent _).trans (reports_emit rfl)

/-- A reception that is completed leaves the list. -/
theorem recvOps_opCompleteRecv {id : OpId} (hmem : some ⟨.recv, id⟩ ∈ s.ops) :
    (s.opCompleteRecv id).recvOps = s.recvOps.eraseP (·.id == id) := by
  show (s.completeRef ⟨.recv, id⟩).recvOps = _
  rw [completeRef_eq, if_neg (by simp)]
  unfold opCompleteWith unregisterOp
  rw [if_pos hmem]
  dsimp only
  rw [eraseRef_eq, if_pos rfl]

/-- The end of a reception is none either. -/
theorem reports_opCompleteRecv (id : OpId) (s : Client) :
    (s.opCompleteRecv id).reports = s.reports :=
  reports_of_log (log_completeRef ⟨.recv, id⟩ s)

/-- The new reception is completed: the others are left. -/
theorem newRecvOp_completed (hreg : Registered s) (hops : t.ops = (s.beginRecv env).ops)
    (hrecv : t.recvOps = (s.beginRecv env).recvOps) :
    (t.opCompleteRecv (s.newRecvOp env).id).recvOps = s.recvOps := by
  rw [beginRecv_eq] at hops hrecv
  rw [recvOps_opCompleteRecv (by rw [hops]; exact List.mem_append_right _ List.mem_cons_self), hrecv]
  have hnot : ∀ op ∈ s.recvOps, ¬(op.id == (s.newRecvOp env).id) = true := by
    intro op hop heq
    have hlt := hreg.lt .recv op.id (List.mem_map.mpr ⟨op, hop, rfl⟩)
    have hid : op.id = s.nextOpId := beq_iff_eq.mp heq
    exact Nat.ne_of_lt hlt hid
  rw [List.eraseP_append_right _ (fun op hop => by simpa using hnot op hop),
    List.eraseP_cons_of_pos (by simp), List.append_nil]

section Outcome

variable {msg : RecvPublishMsg}

variable (env) in
/-- The new reception is registered. -/
theorem beginRecv_wf (hr : Reg s) (hreg : Registered s) :
    Reg (s.beginRecv env) ∧ Registered (s.beginRecv env) := by
  have hf : Frame false .begins s s.keepAliveMessageReceived :=
    (Frame.refl false .begins s).keepAliveMessageReceived
  have hb : Frame false .begins s (s.beginRecv env) :=
    hf.update (Still.registerRecvOp env) (.createRecv env) rfl
  exact ⟨hb.reg hr, hb.acts.registered hreg⟩

/-- The connection ends: all receptions are dropped, or the new one stays with the others. -/
theorem publish_terminated (hr : Reg s) (hreg : Registered s)
    (h : beginsReception env msg s = true) {reason : ReasonCode}
    (hv : publishVerdict env msg (s.beginRecv env) = .terminate reason) :
    (s.handlePublish env msg).reports = s.reports ∧
      (s.handlePublish env msg).recvOps =
        if s.sessionState.sessionExpiryIntervalMs = 0 then [] else s.recvOps ++ [s.newRecvOp env] := by
  have hlead := handlePublish_leads h
  rw [hv] at hlead
  obtain ⟨t, ht, heq⟩ := hlead
  obtain ⟨hr₁, hreg₁⟩ := beginRecv_wf env hr hreg
  -- the DISCONNECT goes out, and then the connection is taken down
  set u := t.sendDisconnectMsg env reason with hu
  have hf : Frame false .rests t u := (Frame.refl false .rests t).sendDisconnectMsg env reason
  have hpost : u = { t with log := u.log, counts := u.counts, timerMgr := u.timerMgr } := post_eq env _
  have hru : Reg u := hf.reg (ht.frame.reg hr₁)
  have hregu : Registered u := hf.acts.registered (ht.frame.acts.registered hreg₁)
  have hrecv : u.recvOps = s.recvOps ++ [s.newRecvOp env] := by
    rw [hpost]
    show t.recvOps = _
    rw [ht.recvOps, beginRecv_eq]
  have hexp : u.sessionState.sessionExpiryIntervalMs = s.sessionState.sessionExpiryIntervalMs := by
    rw [hpost]
    show t.sessionState.sessionExpiryIntervalMs = _
    rw [ht.expiry, beginRecv_eq]
  have hkeep : u.preserveSendRecv = decide (0 < s.sessionState.sessionExpiryIntervalMs) := by
    unfold preserveSendRecv
    rw [hexp, hrecv]
    simp
  obtain ⟨report, hreport⟩ : ∃ report, s.handlePublish env msg =
      u.brokerDisconnected env (some report) .brokerDisconnected none := ⟨_, heq⟩
  have hdone := brokerDisconnected_disconnected env hru hregu (some report) .brokerDisconnected none
  have hrun : MacroRun env .any false .rests u
      (u.brokerDisconnected env (some report) .brokerDisconnected none) :=
    brokerDisconnected_run any_ends hru _ _ _
  rw [hreport]
  constructor
  · rw [(MacroRun.acts hrun hru (by simp)).reports_eq rfl, hf.acts.reports_eq rfl, ht.reports,
      beginRecv_eq]
    rfl
  · by_cases hzero : s.sessionState.sessionExpiryIntervalMs = 0
    · rw [if_pos hzero]
      have hgone := hdone.gone .recv (by rw [hkeep, hzero]; rfl)
      exact List.map_eq_nil_iff.mp hgone
    · rw [if_neg hzero, hdone.recvs (by rw [hkeep]; simpa using Nat.pos_of_ne_zero hzero), hrecv]

/-- The message is refused: the reception is gone. -/
theorem publish_refused (hreg : Registered s) (h : beginsReception env msg s = true)
    (hv : publishVerdict env msg (s.beginRecv env) = .refuse) :
    (s.handlePublish env msg).reports = s.reports ∧
      (s.handlePublish env msg).recvOps = s.recvOps := by
  have hlead := handlePublish_leads h
  rw [hv] at hlead
  obtain ⟨t, ht, heq⟩ := hlead
  rw [heq]
  set pid := msg.packetId.getD 0
  have hreports : t.reports = s.reports := by
    rw [ht.reports, beginRecv_eq]
    rfl
  have hsame : ∀ u : Client, u.ops = t.ops → u.recvOps = t.recvOps → u.reports = t.reports →
      (u.opCompleteRecv (s.newRecvOp env).id).reports = s.reports ∧
        (u.opCompleteRecv (s.newRecvOp env).id).recvOps = s.recvOps := by
    intro u hops hrecv hrep
    refine ⟨by rw [reports_opCompleteRecv, hrep, hreports], newRecvOp_completed hreg ?_ ?_⟩
    · rw [hops, ht.eq]
    · rw [hrecv, ht.recvOps]
  have hack : ∀ ack : OutMsg, ((t.post env ack).opCompleteRecv (s.newRecvOp env).id).reports = s.reports ∧
      ((t.post env ack).opCompleteRecv (s.newRecvOp env).id).recvOps = s.recvOps := by
    intro ack
    have hpost := post_eq (t := t) env ack
    exact hsame _ (by rw [hpost]) (by rw [hpost]) (reports_post env ack t)
  unfold completeNotAuthorized
  cases msg.qos.getD .exactlyOnceDelivery with
  | atMostOnceDelivery => exact hsame t rfl rfl rfl
  | atLeastOnceDelivery => exact hack _
  | exactlyOnceDelivery => exact hack _

/-- The acknowledgement of a message that is received for the first time. -/
def RecvPublishMsg.pubrec (msg : RecvPublishMsg) : OutMsg :=
  .pubrec { packetId := msg.packetId.getD 0 }

/-- The message is reported. -/
theorem publish_reported (hreg : Registered s) (h : beginsReception env msg s = true)
    {info : MessageInfo} (hv : publishVerdict env msg (s.beginRecv env) = .report info) :
    (s.handlePublish env msg).reports = s.reports ++ [info] ∧
      msg.qos.getD .exactlyOnceDelivery = info.qos ∧
      (info.qos ≠ .exactlyOnceDelivery → (s.handlePublish env msg).recvOps = s.recvOps) ∧
      (info.qos = .exactlyOnceDelivery → msg.packetId.isSome = true ∧
        (s.handlePublish env msg).recvOps =
          s.recvOps ++ [{ s.newRecvOp env with packetId := msg.packetId.getD 0 }] ∧
        (s.fits env msg.pubrec = true → (s.handlePublish env msg).log =
          s.log ++ [.messageReceived info, .output msg.pubrec none])) := by
  have hlead := handlePublish_leads h
  rw [hv] at hlead
  obtain ⟨t, ht, hlog, hpid, hqos, heq⟩ := hlead
  rw [heq]
  have hlog' : t.log = s.log := by
    rw [hlog, beginRecv_eq]
  have hrecv : t.recvOps = s.recvOps ++ [s.newRecvOp env] := by
    rw [ht.recvOps, beginRecv_eq]
  -- the report
  set u := t.emit (.messageReceived info) with hu
  have hreports : u.reports = s.reports ++ [info] := by
    unfold Client.reports
    rw [show u.log = t.log ++ [.messageReceived info] from rfl, hlog', List.filterMap_append]
    rfl
  have hcomplete : ∀ v : Client, v.ops = t.ops → v.recvOps = t.recvOps → v.reports = u.reports →
      (v.opCompleteRecv (s.newRecvOp env).id).reports = s.reports ++ [info] ∧
        (v.opCompleteRecv (s.newRecvOp env).id).recvOps = s.recvOps := by
    intro v hops hvrecv hrep
    refine ⟨by rw [reports_opCompleteRecv, hrep, hreports], newRecvOp_completed hreg ?_ ?_⟩
    · rw [hops, ht.eq]
    · rw [hvrecv, ht.recvOps]
  have hsome : info.qos ≠ .atMostOnceDelivery → ∃ pid, msg.packetId = some pid := by
    intro hne
    rcases hpid with h0 | hpid
    · exact absurd (hqos.trans h0) hne
    · exact Option.isSome_iff_exists.mp hpid
  rw [← hqos]
  unfold reportRecvPublish
  cases hq : info.qos with
  | atMostOnceDelivery =>
    obtain ⟨hrep, hops⟩ := hcomplete u rfl rfl rfl
    exact ⟨hrep, rfl, fun _ => hops, fun hc => by cases hc⟩
  | atLeastOnceDelivery =>
    obtain ⟨pid, hpid⟩ := hsome (by rw [hq]; simp)
    rw [hpid]
    have hpost := post_eq (t := u) env (.puback { packetId := pid })
    obtain ⟨hrep, hops⟩ := hcomplete (u.post env (.puback { packetId := pid }))
      (by rw [hpost]; rfl) (by rw [hpost]; rfl) (reports_post env _ u)
    exact ⟨hrep, rfl, fun _ => hops, fun hc => by cases hc⟩
  | exactlyOnceDelivery =>
    obtain ⟨pid, hpid⟩ := hsome (by rw [hq]; simp)
    unfold RecvPublishMsg.pubrec
    rw [hpid]
    dsimp only [Option.getD_some]
    set v := u.modifyRecvOp (s.newRecvOp env).id ({ · with packetId := pid }) with hv
    have hpost := post_eq (t := v) env (.pubrec { packetId := pid })
    have hmap : v.recvOps = s.recvOps ++ [{ s.newRecvOp env with packetId := pid }] := by
      show List.map _ t.recvOps = _
      rw [hrecv, List.map_append]
      congr 1
      · -- the identity of a new reception is new
        refine (List.map_congr_left fun op hop => if_neg fun heq => ?_).trans (List.map_id _)
        have hlt := hreg.lt .recv op.id (List.mem_map.mpr ⟨op, hop, rfl⟩)
        exact Nat.ne_of_lt hlt (beq_iff_eq.mp heq)
      · simp
    refine ⟨?_, rfl, fun hc => absurd rfl hc, fun _ => ⟨rfl, ?_, fun hfits => ?_⟩⟩
    · show (v.post env (.pubrec { packetId := pid })).reports = _
      rw [reports_post]
      exact hreports
    · show (v.post env (.pubrec { packetId := pid })).recvOps = _
      rw [hpost]
      exact hmap
    · show (v.post env (.pubrec { packetId := pid })).log = _
      have hfits' : v.fits env (.pubrec { packetId := pid }) = true := by
        have hsame : t.sessionState.maxSendPacketSize = s.sessionState.maxSendPacketSize := by
          rw [ht.eq, beginRecv_eq]
        rw [← hfits]
        exact fits_congr (s := s) (t := v) hsame _
      unfold Client.post
      rw [sendMessage_of_fits hfits', keepAliveMessageSent_eq]
      show (t.log ++ [_]) ++ [_] = _
      rw [hlog', List.append_assoc]
      rfl

end Outcome

/-! ## Steps -/

/-- The verdict on a message in the state in which its reception begins. -/
def Client.verdictOn (env : Env) (msg : RecvPublishMsg) (s : Client) : Verdict :=
  publishVerdict env msg (s.beginRecv env)

/-- What a step does to the receptions and to the reports. -/
inductive RecvStep (env : Env) (sys : Sys) (l : Label) (t : Client) : Prop
  | rests (hrecv : t.recvOps.Sublist sys.client.recvOps) (hreports : t.reports = sys.client.reports)
  | left (msg : RecvPublishMsg) (reason : ReasonCode) (hin : sys.inMsg l = some (.publish msg))
      (hbegins : beginsReception env msg sys.client = true)
      (hv : sys.client.verdictOn env msg = .terminate reason)
      (hexpiry : sys.client.sessionState.sessionExpiryIntervalMs ≠ 0)
      (hrecv : t.recvOps = sys.client.recvOps ++ [sys.client.newRecvOp env])
      (hreports : t.reports = sys.client.reports)
  | reported (msg : RecvPublishMsg) (info : MessageInfo) (hin : sys.inMsg l = some (.publish msg))
      (hbegins : beginsReception env msg sys.client = true)
      (hv : sys.client.verdictOn env msg = .report info)
      (hqos : msg.qos.getD .exactlyOnceDelivery ≠ .exactlyOnceDelivery)
      (hrecv : t.recvOps = sys.client.recvOps)
      (hreports : t.reports = sys.client.reports ++ [info])
  | received (msg : RecvPublishMsg) (info : MessageInfo) (hin : sys.inMsg l = some (.publish msg))
      (hbegins : beginsReception env msg sys.client = true)
      (hv : sys.client.verdictOn env msg = .report info)
      (hqos : msg.qos.getD .exactlyOnceDelivery = .exactlyOnceDelivery)
      (hpid : msg.packetId.isSome = true)
      (hrecv : t.recvOps = sys.client.recvOps ++
        [{ sys.client.newRecvOp env with packetId := msg.packetId.getD 0 }])
      (hreports : t.reports = sys.client.reports ++ [info])
      (hlog : sys.client.fits env msg.pubrec = true →
        t.log = sys.client.log ++ [.messageReceived info, .output msg.pubrec none])

/-- A step that neither creates nor changes a reception and reports nothing. -/
theorem RecvStep.of_acts (hb : b.admits (.create .recv) = false ∧ b.admits (.set .recv) = false ∧
    b.admits .report = false) (h : Acts a b sys.client t) : RecvStep env sys l t :=
  .rests (h.recvOps ⟨hb.1, hb.2.1⟩) (h.reports_eq hb.2.2)

/-- A PUBLISH is a repeat, begins a reception, or is refused. -/
theorem publish_recvStep (hw : SysWf sys) (hreg : Registered sys.client)
    (hstep : sys.step env l = some sys') {msg : RecvPublishMsg}
    (hin : sys.inMsg l = some (.publish msg)) : RecvStep env sys l sys'.client := by
  obtain ⟨rest, rfl, -, hclient⟩ := inMsg_step hstep hin
  have hclient : sys'.client = sys.client.handlePublish env msg := hclient
  rw [hclient]
  cases hbegins : beginsReception env msg sys.client with
  | false =>
    have hends : (labelGuard env sys .run).Ends := labelGuard_ends
    have hrun := handlePublish_begins (G := labelGuard env sys .run) env (a := false) (b := .rests)
      (s := sys.client) msg (fun h => by rw [hbegins] at h; cases h) (Or.inr inferInstance)
      fun _ _ _ => rfl
    rw [if_neg (by rw [hbegins]; simp)] at hrun
    exact .of_acts ⟨rfl, rfl, rfl⟩ (MacroRun.acts (hrun.run hends hw.reg) hw.reg (by simp))
  | true =>
    cases hv : sys.client.verdictOn env msg with
    | terminate reason =>
      obtain ⟨hreports, hrecv⟩ := publish_terminated hw.reg hreg hbegins hv
      by_cases hexpiry : sys.client.sessionState.sessionExpiryIntervalMs = 0
      · rw [if_pos hexpiry] at hrecv
        exact .rests (hrecv ▸ List.nil_sublist _) hreports
      · rw [if_neg hexpiry] at hrecv
        exact .left msg reason hin hbegins hv hexpiry hrecv hreports
    | refuse =>
      obtain ⟨hreports, hrecv⟩ := publish_refused hreg hbegins hv
      exact .rests (hrecv ▸ List.Sublist.refl _) hreports
    | report info =>
      obtain ⟨hreports, hqos, hother, hexactly⟩ := publish_reported hreg hbegins hv
      by_cases hq : info.qos = .exactlyOnceDelivery
      · obtain ⟨hpid, hrecv, hlog⟩ := hexactly hq
        exact .received msg info hin hbegins hv (hqos.trans hq) hpid hrecv hreports hlog
      · exact .reported msg info hin hbegins hv (fun h => hq (hqos ▸ h)) (hother hq) hreports

/-- Only a PUBLISH concerns receptions, but for their completion. -/
theorem step_recvStep (hw : SysWf sys) (hreg : Registered sys.client)
    (hstep : sys.step env l = some sys') : RecvStep env sys l sys'.client := by
  have hrests : (sys.recv env l).Le .rests → RecvStep env sys l sys'.client := fun hle =>
    .of_acts (a := false) ⟨rfl, rfl, rfl⟩ (step_acts hw hstep (by simp) hle)
  cases hin : sys.inMsg l with
  | none => exact hrests (by simp [Sys.recv, hin, Recv.Le.rests])
  | some m =>
    cases m with
    | publish m => exact publish_recvStep hw hreg hstep hin
    | connack m =>
      rcases connack_acts hw hstep hin with h | ⟨-, v, hv, hka, hup, hend⟩
      · exact .of_acts ⟨rfl, rfl, rfl⟩ h
      · have hcreate : Prim (.create .keepAlive) v (v.createKeepAliveOpIfNeeded env) :=
          .createKeepAlive env hka hup
        refine .rests ?_ ?_
        · exact (hend.recvOps ⟨rfl, rfl⟩).trans
            ((hcreate.recvOps (by simp) (by simp)).trans (hv.recvOps ⟨rfl, rfl⟩))
        · rw [hend.reports_eq rfl, hcreate.reports_eq (by simp), hv.reports_eq rfl]
    | _ => exact hrests (by simp [Sys.recv, hin, InMsg.recv, Recv.Le.rests])

end Mqtt5
