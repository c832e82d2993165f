import Mqtt5Client.LockSteps

/-!
# Mqtt5Client — CONNACK as steps

An accepted CONNACK changes the session, then either walks the stored publishes and retransmits them,
or drops what is stored, and in the end clears the alias table. The parts are stated one by one; a
result that depends on their order composes them, the others use the run of all of them.
-/

namespace Mqtt5

open Client

variable {env : Env} {G : Guard} {a : Bool} {b : Scope} {s t u : Client} {op : SendOp}

/-! ## The resend loop -/

section Resumption

variable [b.Resumes]

/-- What is known in the resend loop: only published or unsent publishes are touched. -/
structure Guard.Resends (G : Guard) : Prop where
  reconnect : ∀ s, G.reconnect s
  dup : ∀ s op, op ∈ s.sendOps → op.paused = false → G.dup s op
  leave : ∀ s op, op ∈ s.sendOps → op.paused = false → G.leave s op

/-- A stored publish is sent again, with PUBREL when it was received. -/
theorem reconnectionResend_run (hG : G.Resends) (hr : Reg s) (hop : op ∈ s.sendOps)
    (hpaused : op.paused = false) {msg : PublishMsg}
    (hmsg : env.cfg.hasTopicAliases = true ∧ op.restoreTopic s.view.sendTopicAliases = some msg
      ∨ env.cfg.hasTopicAliases = false ∧ msg = op.pubMsg)
    (h : Eff a b s t (s.view.setOp { op with pubMsg := msg }) []) :
    MacroRun env G a b s (t.reconnectionResend env { op with pubMsg := msg }) := by
  have hmem : op.id ∈ s.view.sendOps.map SendOp.id := List.mem_map.mpr ⟨op, hop, rfl⟩
  unfold reconnectionResend
  dsimp only
  have h₁ := h.frame ((Frame.refl a b t).assert .postReconnectionResend
    (decide (0 < op.sendAttempts)) rfl)
  set t₁ := t.assert .postReconnectionResend (decide (0 < op.sendAttempts))
  have h₂ := h₁.modify (f := ({ · with sendAttempts := decU32 op.sendAttempts })) hr.distinct hmem
    rfl rfl ⟨rfl, rfl, rfl, rfl, fun _ => rfl, rfl⟩
  have howns : (t₁.modifySendOp op.id ({ · with sendAttempts := decU32 op.sendAttempts })).owns
      op.responseTimer (.sendTimeout op.id) :=
    ⟨{ op with pubMsg := msg, sendAttempts := decU32 op.sendAttempts },
      by rw [h₂.sendOps_eq]; exact Keyed.mem_set_self hmem, rfl, rfl⟩
  have h₃ := h₂.frame ((Frame.refl a b _).timerCancel howns fun _ => Scope.Resumes.disarm _)
  have hmicro : Micro env G.plain a b s _ :=
    .retopic op msg (decU32 op.sendAttempts) hop hpaused (hG.reconnect s) hmsg h₃
  have hop' : { op with pubMsg := msg, sendAttempts := decU32 op.sendAttempts } ∈
      ((t₁.modifySendOp op.id ({ · with sendAttempts := decU32 op.sendAttempts })).timerCancel
        op.responseTimer).sendOps := by
    rw [h₃.sendOps_eq]
    exact Keyed.mem_set_self hmem
  refine .bind hr (.micro hmicro) fun hr' => ?_
  exact resendDupMsg_run hr' hop' (hG.leave _ _ hop' hpaused) (fun _ => hG.dup _ _ hop' hpaused)
    (.refl a b _)

/-- The packet identifier and the QoS are not restored. -/
theorem SendOp.keeps_restoreTopic {table : List TopicAliasInfo} {msg : PublishMsg}
    (h : op.restoreTopic table = some msg) : op.Keeps { op with pubMsg := msg } := by
  have hmsg := SendOp.restoreTopic_eq h
  refine ⟨rfl, rfl, ?_, rfl, fun _ => ?_, rfl⟩
  · show msg.packetId = op.pubMsg.packetId
    rw [hmsg]
  · show msg.qos = op.pubMsg.qos
    rw [hmsg]

/-- Its alias is not known to the new connection, so its topic is restored first. -/
theorem postReconnectionResend_run (hG : G.Resends) (hr : Reg s) (hop : op ∈ s.sendOps) :
    MacroRun env G a b s (s.postReconnectionResend env op) := by
  unfold postReconnectionResend
  split
  · exact .refl
  · rename_i hp
    have hpaused : op.paused = false := by simpa using hp
    split
    · rename_i hcfg
      dsimp only
      have hf : Frame a b s (s.assert .postReconnectionResend
          (op.pubMsg.topicAlias.isSome || !op.pubMsg.topic.isEmpty)) := (Frame.refl a b s).assert _ _ rfl
      set s₁ := s.assert .postReconnectionResend
        (op.pubMsg.topicAlias.isSome || !op.pubMsg.topic.isEmpty)
      split
      · exact sendOpCompleteWithCb_run' hr hop (hG.leave s op hop hpaused)
          ((hf.assert _ _ rfl).errorLog _) _ _
      · rename_i msg hmsg
        have hview : s₁.clientState.sendTopicAliases = s.view.sendTopicAliases :=
          congrArg PubView.sendTopicAliases hf.view
        rw [hview] at hmsg
        refine reconnectionResend_run hG hr hop hpaused (Or.inl ⟨hcfg, hmsg⟩) ?_
        exact (hf.toSet hr hop).modify hr.distinct (List.mem_map.mpr ⟨op, hop, rfl⟩) rfl rfl
          (SendOp.keeps_restoreTopic hmsg)
    · rename_i hcfg
      have hself : { op with pubMsg := op.pubMsg } = op := rfl
      rw [← hself]
      exact reconnectionResend_run hG hr hop hpaused (Or.inr ⟨by simpa using hcfg, rfl⟩)
        ((Frame.refl a b s).toSet hr hop)

/-- One round of the loop. -/
theorem resendAt_run (hG : G.Resends) (hr : Reg s) (idx : Nat) :
    MacroRun env G a b s (s.resendAt env idx) := by
  unfold resendAt
  refine .withOp fun op hop => ?_
  exact postReconnectionResend_run hG hr (List.mem_of_getElem? hop)

/-- The stored receptions wait again. -/
theorem resumeRecvOps_frame (s : Client) :
    Frame a b s (s.recvOps.foldl postReconnectionResume s) :=
  Frame.foldMem Client.recvOps (fun t _ hop => (Frame.refl a b t).postReconnectionResume hop)
    (fun t op => by
      unfold Client.postReconnectionResume Client.timerWait
      cases op.responseTimer <;> rfl) (fun _ hop => hop) (.refl a b s)

/-- The session present branch. -/
theorem resumeSession_run (hG : G.Resends) (hr : Reg s) :
    MacroRun env G a b s (s.resumeSession env) := by
  unfold resumeSession
  dsimp only
  have hrun : MacroRun env G a b s ((List.range s.sendOps.length).foldl (resendAt env) s) :=
    .foldl (fun s idx hr => resendAt_run hG hr idx) _ hr
  refine hrun.trans ?_
  set s₁ := (List.range s.sendOps.length).foldl (resendAt env) s
  have hf : Frame a b s₁ (s₁.recvOps.foldl postReconnectionResume s₁) :=
    resumeRecvOps_frame s₁
  exact (MacroRun.frame hf).trans (.single (.reconnected (hG.reconnect _)))

end Resumption

/-! ## The abort loop -/

/-- One round of the loop that drops a stored session. -/
theorem abortStoredAt_run (hb : Recv.Le .aborts b) (hleave : ∀ s op, op ∈ s.sendOps → G.leave s op)
    (hr : Reg s) (idx : Nat) : MacroRun env G a b s (s.abortStoredAt env idx) := by
  unfold abortStoredAt
  split
  · rename_i ref hget
    split
    · rename_i hkind
      refine terminateOp_run hleave hr _ (List.mem_of_getElem? hget) fun htype => ?_
      rw [OpRef.isSendRecv, htype] at hkind
      cases hkind
    · exact .refl
  · exact .frame ((Frame.refl a b s).null hb)

/-- The whole loop. -/
theorem abortStoredSession_run (hb : Recv.Le .aborts b)
    (hleave : ∀ s op, op ∈ s.sendOps → G.leave s op) (hr : Reg s) :
    MacroRun env G a b s (s.abortStoredSession env) :=
  .foldl (fun _ idx hr => abortStoredAt_run hb hleave hr idx) _ hr

/-- Neither branch changes the operations that are not stored. -/
theorem resumeSession_others (s : Client) : SameOthers s (s.resumeSession env) := by
  have hresend : ∀ (s : Client) (idx : Nat), SameOthers s (s.resendAt env idx) :=
    fun s idx => .withOp fun op => .postReconnectionResend op s
  have hresume : ∀ (s : Client) (op : RecvOp), SameOthers s (s.postReconnectionResume op) := by
    intro s op
    unfold Client.postReconnectionResume
    refine SameOthers.trans ?_ (.timerWait _ _ _ _)
    unfold Client.recvOpConnectivityChanged
    cases op.responseTimer with
    | none => exact .refl s
    | some idx =>
      unfold Client.timerSetSuspended
      exact (SameOthers.refl s).update
  have hafter : ∀ s : Client, SameOthers s (s.resumeAfterReconnect env) := by
    intro s
    have hassert := (SameOps.assert s .brokerConnected
      (decide (0 < s.sessionState.highQosSendLimit))).others
    unfold resumeAfterReconnect
    dsimp only
    split
    · exact hassert.trans (.resumeLoop _ _ _)
    · exact hassert
  have hsends := SameOthers.foldl hresend (List.range s.sendOps.length) s
  have hrecvs := SameOthers.foldl hresume ((List.range s.sendOps.length).foldl (resendAt env) s).recvOps
    ((List.range s.sendOps.length).foldl (resendAt env) s)
  exact (hsends.trans hrecvs).trans (hafter _)

/-- It concerns publishes and receptions only. -/
theorem abortStoredSession_others (s : Client) : SameOthers s (s.abortStoredSession env) := by
  refine SameOthers.foldl (fun s idx => ?_) _ s
  unfold abortStoredAt
  split
  · rename_i ref _
    obtain ⟨type, id⟩ := ref
    cases type
    case recv =>
      show SameOthers s (s.opCompleteRecv id)
      unfold opCompleteRecv opCompleteWith unregisterOp
      split
      · exact (SameOthers.refl s).update
      · rename_i u hu
        split at hu
        · cases hu
          unfold eraseRecvOp
          split
          · exact (SameOthers.refl s).update
          · rw [timerFree_eq]
            exact (SameOthers.refl s).update
        · cases hu
    case send => exact .withOp fun op => .sendOpCompleteWithCb op _ _ s
    all_goals exact .refl s
  · exact (SameOthers.refl s).update

/-- Neither branch changes the state of the connection. -/
theorem resumeSession_connected (hr : Reg s) (hcon : s.sessionState.connected = true) :
    (s.resumeSession env).sessionState.connected = true := by
  let G : Guard := { Guard.any with session := fun _ _ => False }
  have hG : G.Resends := ⟨fun _ => trivial, fun _ _ _ _ => trivial, fun _ _ _ _ => trivial⟩
  have hrun : MacroRun env G false .begins s (s.resumeSession env) := resumeSession_run hG hr
  exact (MacroRun.run hrun hr).flags (P := fun f => f.1 = true) (fun _ _ h => absurd h id) hcon

/-- And leaves the new connection. -/
theorem abortStoredSession_connected (hr : Reg s) (hcon : s.sessionState.connected = true) :
    (s.abortStoredSession env).sessionState.connected = true := by
  let G : Guard := { Guard.any with session := fun _ _ => False }
  have hrun : MacroRun env G false .begins s (s.abortStoredSession env) :=
    abortStoredSession_run (.begins _) (fun _ _ _ => trivial) hr
  exact (MacroRun.run hrun hr).flags (P := fun f => f.1 = true) (fun _ _ h => absurd h id) hcon

/-! ## Changes of the session -/

section Session

variable [b.Wide]

variable (env) in
/-- The value `m_maxSendTopicAlias` gets, when the CONNACK changes it. -/
theorem storeAliasMax_eff (h : PropsHandler) (response : ConnectResponse) :
    (env.cfg.hasTopicAliases && h.topicAliasMax.isSome) = false ∧
        s.storeAliasMax env h response = s ∨
      (env.cfg.hasTopicAliases && h.topicAliasMax.isSome) = true ∧
        Eff a b s (s.storeAliasMax env h response)
          ((SessionStep.aliasMax response.topicAliasMax).apply s.view) [] := by
  unfold storeAliasMax
  cases env.cfg.hasTopicAliases && h.topicAliasMax.isSome with
  | false => exact Or.inl ⟨rfl, rfl⟩
  | true =>
    refine Or.inr ⟨rfl, Shows.eff ?_
      (.session ({ · with maxSendTopicAlias := response.topicAliasMax }))
      (Act.allowed_of rfl fun _ => Scope.Wide.admits _ rfl)⟩
    exact ⟨rfl, fun _ h => Or.inr h, Nat.le_refl _, fun _ => .of_ops rfl rfl (fun _ h => h) fun h => h⟩

/-- The change of the session an accepting CONNACK makes. -/
def acceptStep (env : Env) (response : ConnectResponse) : SessionStep :=
  .accept (limited env.cfg.sendMaxLimit response.highQosSendLimit) response.maxPacketSize
    response.topicAliasMax

/-- What the CONNACK says is stored in the session. -/
theorem acceptConnack_eff (op : ConnectOp) (h : PropsHandler) (response : ConnectResponse) :
    Eff a b s (s.acceptConnack env op h response) ((acceptStep env response).apply s.view) [] := by
  refine ⟨⟨rfl, fun _ h => Or.inr h, Nat.le_refl _, fun _ => .of_ops rfl rfl (fun _ h => h) fun h => h⟩, ?_⟩
  -- the filters are dropped with the session, then the alias table and the session change
  have h₁ : Acts a b s (s.setSubFilters
      (if response.sessionPresent then s.reuseState.subFilters else [])) :=
    .of (.filters _) (Act.allowed_of rfl fun _ => Scope.Wide.admits _ rfl)
  have h₂ := h₁.tail ⟨_, rfl, .client (s.clientState.sendTopicAliases.take response.topicAliasMax)⟩
  have h₃ := h₂.tail ⟨_, Act.allowed_of rfl fun _ => Scope.Wide.admits _ rfl, .session
    fun _ => (s.acceptConnack env op h response).sessionState⟩
  have hreuse : (s.acceptConnack env op h response).reuseState =
      { subFilters := if response.sessionPresent then s.reuseState.subFilters else [] } := by
    unfold acceptConnack
    dsimp only
    split <;> rfl
  have heq : s.acceptConnack env op h response = { s.acceptConnack env op h response with
      reuseState := { subFilters := if response.sessionPresent then s.reuseState.subFilters else [] } } := by
    rw [← hreuse]
  rw [heq]
  exact h₃

/-- A refused CONNACK resets it. -/
theorem resetSession_eff :
    Eff a b s { s with sessionState := {} } (SessionStep.reset.apply s.view) [] := by
  suffices h : Shows a s { s with sessionState := {} } (SessionStep.reset.apply s.view) [] from
    h.eff (.session fun _ => {}) (Act.allowed_of rfl fun _ => Scope.Wide.admits _ rfl)
  exact ⟨rfl, fun _ h => Or.inr h, Nat.le_refl _, fun _ => .of_ops rfl rfl (fun _ h => h) fun h => h⟩

/-- The begin of a connection. -/
theorem markConnected_eff :
    Eff a b s s.markConnected (SessionStep.connected.apply s.view) [] := by
  have howns : s.owns s.sessionExpiryTimer .sessionExpiry := rfl
  have hf : Frame a b s ((s.timerCancel s.sessionExpiryTimer).emit (.connectivity true)) :=
    ((Frame.refl a b s).timerCancel howns fun _ => Scope.Ends.expiry).connectivity true
  unfold markConnected
  dsimp only
  refine hf.eff ?_
  rw [← hf.view]
  refine ⟨⟨rfl, fun _ h => Or.inr h, Nat.le_refl _, fun _ => .of_ops rfl rfl (fun _ h => h) fun h => h⟩, ?_⟩
  have h₁ : ∀ s : Client, Acts a b s
      { s with clientState := { s.clientState with firstConnect := false } } := fun s =>
    .of (.status s.clientState.initialized false) (Act.allowed_of rfl fun _ => Scope.Wide.admits _ rfl)
  exact (h₁ _).tail ⟨_, Act.allowed_of rfl fun _ => Scope.Wide.admits _ rfl,
    .session ({ · with connected := true })⟩

omit [b.Wide] in
/-- The alias table is cleared at the end. -/
theorem clearSendAliases_eff :
    Eff a b s s.clearSendAliases (SessionStep.clearAliases.apply s.view) [] :=
  setSendAliases_eff []

/-! ## The handler -/

/-- The verdict of `ConnectOp::handle(ConnackMsg&)`: the CONNACK is accepted. -/
def connackAccepted (env : Env) (op : ConnectOp) (msg : ConnackMsg) : Bool :=
  (connackError op msg (PropsHandler.ofProps env.cfg msg.props)).isNone &&
    msg.reasonCode == ReasonCode.success

/-- The response to an accepted CONNACK. -/
def connackAnswer (env : Env) (op : ConnectOp) (msg : ConnackMsg) : ConnectResponse :=
  connackResponse env op msg (PropsHandler.ofProps env.cfg msg.props)

/-- The session as an accepting CONNACK leaves it for the stored operations. -/
def Client.connackConnected (env : Env) (op : ConnectOp) (msg : ConnackMsg) (s : Client) : Client :=
  let h := PropsHandler.ofProps env.cfg msg.props
  let response := connackAnswer env op msg
  (((s.timerCancel op.timer).storeAliasMax env h response).acceptConnack env op h
    response).markConnected

/-- What is left of an accepted CONNACK once the stored operations are dealt with. -/
def Client.connackDone (env : Env) (op : ConnectOp) (msg : ConnackMsg) (s : Client) : Client :=
  (s.clearSendAliases.createKeepAliveOpIfNeeded env).connectComplete op .complete
    (some (connackAnswer env op msg))

/-- An accepted CONNACK, part by part. -/
theorem connectHandleConnack_accepted {op : ConnectOp} {msg : ConnackMsg}
    (h : connackAccepted env op msg = true) :
    s.connectHandleConnack env op msg =
      (if msg.sessionPresent then (s.connackConnected env op msg).resumeSession env
        else (s.connackConnected env op msg).abortStoredSession env).connackDone env op msg := by
  unfold connackAccepted at h
  rw [Bool.and_eq_true, Option.isNone_iff_eq_none, beq_iff_eq] at h
  unfold connectHandleConnack
  dsimp only
  rw [h.1]
  dsimp only
  rw [if_neg (show ¬(connackResponse env op msg (PropsHandler.ofProps env.cfg msg.props)).reasonCode
    ≠ ReasonCode.success from not_not.mpr h.2)]
  rfl

/-- The operations of the other types are not concerned. -/
theorem connackConnected_others (op : ConnectOp) (msg : ConnackMsg) (s : Client) :
    SameOthers s (s.connackConnected env op msg) := by
  have hstore : SameOthers s ((s.timerCancel op.timer).storeAliasMax env
      (PropsHandler.ofProps env.cfg msg.props) (connackAnswer env op msg)) := by
    refine (SameOthers.timerCancel op.timer s).trans ?_
    unfold storeAliasMax
    split
    · exact (SameOthers.refl _).update
    · exact .refl _
  have haccept : SameOthers s (((s.timerCancel op.timer).storeAliasMax env
      (PropsHandler.ofProps env.cfg msg.props) (connackAnswer env op msg)).acceptConnack env op
        (PropsHandler.ofProps env.cfg msg.props) (connackAnswer env op msg)) := hstore.update
  exact haccept.update

/-- A CONNACK that is not accepted leaves the publishes: it is rejected, or it resets the session. -/
theorem connectHandleConnack_refused {op : ConnectOp} {msg : ConnackMsg} (hop : op ∈ s.connectOps)
    (h : connackAccepted env op msg = false) :
    Frame a b s (s.connectHandleConnack env op msg) ∨
      Eff a b s (s.connectHandleConnack env op msg) (SessionStep.reset.apply s.view) [] := by
  have howns : s.owns op.timer (.connectTimeout op.id) := ⟨op, hop, rfl, rfl⟩
  have hf : Frame a b s (s.timerCancel op.timer) := (Frame.refl a b s).timerCancel howns nofun
  have hop' : op ∈ (s.timerCancel op.timer).connectOps := hop
  unfold connectHandleConnack
  dsimp only
  split
  · exact Or.inl (((hf.errorLog _).sendDisconnectMsg env _).connectComplete
      ((SameOps.post env _ _).live (.connect hop')) _ _)
  · rename_i herr
    have hrc : (connackResponse env op msg (PropsHandler.ofProps env.cfg msg.props)).reasonCode ≠
        ReasonCode.success := by
      intro hc
      unfold connackAccepted at h
      rw [herr] at h
      have hc : msg.reasonCode = ReasonCode.success := hc
      simp [hc] at h
    rw [if_pos hrc]
    refine Or.inr ?_
    set r := connackResponse env op msg (PropsHandler.ofProps env.cfg msg.props)
    set s₁ := (s.timerCancel op.timer).storeAliasMax env (PropsHandler.ofProps env.cfg msg.props) r
    -- the alias maximum that was stored before is reset with the rest
    have hview : SessionStep.reset.apply s₁.view = SessionStep.reset.apply s.view := by
      rcases storeAliasMax_eff env (a := a) (b := b) (s := s.timerCancel op.timer)
        (PropsHandler.ofProps env.cfg msg.props) r with ⟨-, heq⟩ | ⟨-, heff⟩
      · rw [show s₁ = s.timerCancel op.timer from heq, hf.view]
      · rw [show s₁.view = _ from heff.view, hf.view]
        rfl
    have hs₁ : Eff a b s s₁ s₁.view [] := by
      rcases storeAliasMax_eff env (a := a) (b := b) (s := s.timerCancel op.timer)
        (PropsHandler.ofProps env.cfg msg.props) r with ⟨-, heq⟩ | ⟨-, heff⟩
      · rw [show s₁ = s.timerCancel op.timer from heq, hf.view]
        exact hf.toEff
      · have := hf.eff heff
        rwa [← heff.view] at this
    have heff := hs₁.trans (resetSession_eff (a := a) (b := b))
    rw [hview] at heff
    have hlive : Live { s₁ with sessionState := {} } ⟨.connect, op.id⟩ := by
      have hops : s₁.connectOps = s.connectOps := by
        unfold s₁ storeAliasMax
        split <;> rfl
      exact .connect (hops ▸ hop)
    exact heff.frame ((Frame.refl a b _).connectComplete hlive _ _)

/-- The changes of the session before the stored operations are dealt with. -/
theorem connackConnected_run {op : ConnectOp} (hop : op ∈ s.connectOps) (msg : ConnackMsg)
    (haliasMax : ∀ s, G.session s (.aliasMax (connackAnswer env op msg).topicAliasMax))
    (haccept : ∀ s, G.session s (acceptStep env (connackAnswer env op msg)))
    (hconnected : ∀ s, G.session s .connected) :
    MacroRun env G a b s (s.connackConnected env op msg) := by
  have howns : s.owns op.timer (.connectTimeout op.id) := ⟨op, hop, rfl, rfl⟩
  have hf : Frame a b s (s.timerCancel op.timer) := (Frame.refl a b s).timerCancel howns nofun
  unfold connackConnected
  dsimp only
  refine (MacroRun.frame hf).trans ?_
  set h := PropsHandler.ofProps env.cfg msg.props
  set r := connackAnswer env op msg
  have h₁ : MacroRun env G a b (s.timerCancel op.timer)
      ((s.timerCancel op.timer).storeAliasMax env h r) := by
    rcases storeAliasMax_eff env (a := a) (b := b) (s := s.timerCancel op.timer) h r with
      ⟨-, heq⟩ | ⟨-, heff⟩
    · rw [heq]
    · exact .micro (.session _ (haliasMax _) heff)
  have h₂ : MacroRun env G a b ((s.timerCancel op.timer).storeAliasMax env h r)
      (((s.timerCancel op.timer).storeAliasMax env h r).acceptConnack env op h r) :=
    .micro (.session _ (haccept _) (acceptConnack_eff op h r))
  exact (h₁.trans h₂).trans (MacroRun.micro (.session _ (hconnected _) markConnected_eff))

end Session

/-! ## Dispatch -/

/-- The new keep alive is apart from the connect operation. -/
theorem createKeepAliveOpIfNeeded_connectOps (env : Env) (s : Client) :
    (s.createKeepAliveOpIfNeeded env).connectOps = s.connectOps := by
  by_cases h : s.keepAliveOps = []
  · rcases createKeepAliveOpIfNeeded_cases env h with heq | ⟨c, m, op, -, heq⟩
    · rw [heq]
      rfl
    · rw [heq]
      exact (SameOps.assert s .timer c).connectOps
  · unfold Client.createKeepAliveOpIfNeeded
    rw [if_pos (by simpa using h)]

/-- The connect operation is there until it is completed. -/
theorem connackConnected_connectOps (env : Env) (op : ConnectOp) (msg : ConnackMsg) (s : Client) :
    ((if msg.sessionPresent then (s.connackConnected env op msg).resumeSession env
      else (s.connackConnected env op msg).abortStoredSession env).clearSendAliases
        |>.createKeepAliveOpIfNeeded env).connectOps = s.connectOps := by
  have hconnected : (s.connackConnected env op msg).connectOps = s.connectOps :=
    (connackConnected_others op msg s).connectOps
  rw [createKeepAliveOpIfNeeded_connectOps]
  show (if msg.sessionPresent then _ else _ : Client).connectOps = _
  split
  · exact (resumeSession_others _).connectOps.trans hconnected
  · exact (abortStoredSession_others _).connectOps.trans hconnected

/-- The connect operation is gone after the handler. -/
theorem connectHandleConnack_gone (hr : Reg s) {op : ConnectOp} (hop : op ∈ s.connectOps)
    (hl : LockReg s) (msg : ConnackMsg) :
    ∀ k ∈ (s.connectHandleConnack env op msg).lockKeys, k.1.type ≠ .connect := by
  have hleave : ∀ (s : Client) op, op ∈ s.sendOps → Guard.any.leave s op := fun _ _ _ => trivial
  have hG : Guard.any.Resends := ⟨fun _ => trivial, fun _ _ _ _ => trivial, fun _ _ _ _ => trivial⟩
  -- every branch ends with the completion of the operation
  obtain ⟨u, hrun, hlive, status, response, hu⟩ : ∃ u, MacroRun env .any true .begins s u ∧
      u.Live ⟨.connect, op.id⟩ ∧ ∃ status response,
        s.connectHandleConnack env op msg = u.connectComplete op status response := by
    have howns : s.owns op.timer (.connectTimeout op.id) := ⟨op, hop, rfl, rfl⟩
    have hf : Frame true .begins s (s.timerCancel op.timer) :=
      (Frame.refl true .begins s).timerCancel howns nofun
    have hop' : op ∈ (s.timerCancel op.timer).connectOps := hop
    unfold connectHandleConnack
    dsimp only
    split
    · exact ⟨_, .frame ((hf.errorLog _).sendDisconnectMsg env _),
        (SameOps.post env _ _).live (.connect hop'), _, _, rfl⟩
    · set h := PropsHandler.ofProps env.cfg msg.props
      set r := connackResponse env op msg h
      have h₁ : MacroRun env .any true .begins s ((s.timerCancel op.timer).storeAliasMax env h r) := by
        refine (MacroRun.frame hf).trans ?_
        rcases storeAliasMax_eff env (a := true) (b := .begins) (s := s.timerCancel op.timer)
          h r with ⟨-, heq⟩ | ⟨-, heff⟩
        · rw [heq]
        · exact MacroRun.micro (.session _ trivial heff)
      have hG' : ∀ s c, Guard.any.plain.session s c := fun _ _ => trivial
      split
      · refine ⟨_, h₁.trans (MacroRun.micro (.session .reset (hG' _ _) resetSession_eff)), ?_,
          _, _, rfl⟩
        refine .connect (?_ : op ∈ Client.connectOps _)
        unfold storeAliasMax
        split <;> exact hop
      · refine ⟨_, h₁.bind hr fun hr' => ?_, .connect (?_ : op ∈ Client.connectOps _), _, _, rfl⟩
        swap
        · exact (connackConnected_connectOps env op msg s).symm ▸ hop
        have h₂ : MacroRun env .any true .begins _
            (((s.timerCancel op.timer).storeAliasMax env h r).acceptConnack env op h
              r).markConnected :=
          (MacroRun.micro (.session _ (hG' _ _) (acceptConnack_eff op h r))).trans
            (MacroRun.micro (.session _ (hG' _ _) markConnected_eff))
        refine h₂.bind hr' fun hr'' => ?_
        unfold brokerConnected
        dsimp only
        set v := (((s.timerCancel op.timer).storeAliasMax env h r).acceptConnack env op h
          r).markConnected
        have h₃ : MacroRun env .any true .begins v
            (if r.sessionPresent then v.resumeSession env else v.abortStoredSession env) := by
          split
          · exact resumeSession_run hG hr''
          · exact abortStoredSession_run (.begins _) hleave hr''
        have hcon : (if r.sessionPresent then v.resumeSession env
            else v.abortStoredSession env).sessionState.connected = true := by
          split
          · exact resumeSession_connected hr'' rfl
          · exact abortStoredSession_connected hr'' rfl
        refine h₃.trans (MacroRun.micro (.session .clearAliases (hG' _ _)
          (clearSendAliases_eff.frame
            ((Frame.refl true .begins _).createKeepAliveOpIfNeeded rfl env hcon))))
  have hle : LockLe s u := MicroRun.lockLe (hrun.run hr)
  have hkey : ((⟨.connect, op.id⟩, op.prep) : OpRef × Prep) ∈ s.lockKeys :=
    mem_lockKeys.mpr (Or.inl ⟨op, hop, rfl⟩)
  -- all connect operations are this one
  have hone : ∀ k ∈ u.lockKeys, k.1.type = .connect → k.1 = ⟨.connect, op.id⟩ := by
    intro k hk htype
    rcases mem_lockKeys.mp (hle.keys.subset hk) with h | h | h | h | h <;>
      obtain ⟨x, hx, rfl⟩ := h <;> try cases htype
    have hlen := hl.connect
    obtain ⟨i, hi, rfl⟩ := List.mem_iff_getElem.mp hx
    obtain ⟨j, hj, rfl⟩ := List.mem_iff_getElem.mp hop
    have hij : i = j := by omega
    subst hij
    rfl
  have hcomplete : Frame true .begins u (u.connectComplete op status response) :=
    (Frame.refl true .begins u).connectComplete hlive status response
  rw [hu]
  intro k hk htype
  have hku : k ∈ u.lockKeys := (hcomplete.lockLe rfl).keys.subset hk
  have hk1 := hone k hku htype
  have href : some (⟨.connect, op.id⟩ : OpRef) ∈ u.ops := by
    rw [← hk1]
    refine hle.refs hl.distinct k hku ?_
    rw [hk1]
    exact hl.registered _ hkey
  refine opCompleteWith_gone href (hle.distinct hl.distinct)
    (fun _ hd => eraseConnectOp_gone op.id hd) k ?_ hk1
  have hkeys : (u.connectComplete op status response).lockKeys =
      (u.opCompleteConnect op.id).lockKeys := by
    unfold connectComplete
    dsimp only
    split <;> rfl
  rw [hkeys] at hk
  exact hk

/-- How far the dispatch of a CONNACK has come: no connect operation was met, or one has handled the
message. Before it only the keep alive restarts its timer. -/
inductive Dispatched (env : Env) (msg : ConnackMsg) (s t : Client) : Prop
  | before (h : Frame true .bare s t) (heq : t = { s with timerMgr := t.timerMgr, faults := t.faults })
  | handled (u : Client) (op : ConnectOp) (hop : op ∈ s.connectOps)
      (hpre : Frame true .bare s u) (heq : u = { s with timerMgr := u.timerMgr, faults := u.faults })
      (hcon : s.sessionState.disconnecting = false)
      (hpost : Frame true .bare (u.connectHandleConnack env op msg) t)
      (hgone : ∀ k ∈ t.lockKeys, k.1.type ≠ .connect)

/-- The next round of the loop that hands the CONNACK over. -/
theorem Dispatched.next {msg : ConnackMsg} (h : Dispatched env msg s t) (hr : Reg s) (hl : LockReg s)
    (hcon : s.sessionState.disconnecting = false) (idx : Nat) :
    Dispatched env msg s (t.dispatchAt env (.connack msg) idx) := by
  unfold dispatchAt
  split
  · exact h
  unfold visitOp
  split
  · rename_i ref _
    obtain ⟨type, id⟩ := ref
    -- either no connect operation had the message yet, or one had and is gone
    cases h with
    | before h heq =>
      cases type with
      | connect =>
        unfold dispatchTo withOp
        dsimp only
        split
        · exact .before (h.fault _ rfl) (by rw [heq]; rfl)
        · rename_i op hop
          have hmem := (Keyed.mem_of_find hop).1
          have hops : t.connectOps = s.connectOps := by rw [heq]
          exact .handled t op (hops ▸ hmem) h heq hcon (.refl _ _ _)
            (connectHandleConnack_gone (h.reg hr) hmem
              (((h.lockLe rfl).refsLe h.nextOpId).lockReg hl) msg)
      | keepAlive =>
        unfold dispatchTo withOp
        dsimp only
        split
        · exact .before (h.fault _ rfl) (by rw [heq]; rfl)
        · rename_i x hx
          refine .before (h.restartRecvTimer (Keyed.mem_of_find hx).1) ?_
          rw [restartRecvTimer_eq, heq]
      | _ => exact .before h heq
    | handled u op hop hpre heq hc hpost hgone =>
      cases type with
      | connect =>
        unfold dispatchTo withOp
        dsimp only
        split
        · exact .handled u op hop hpre heq hc (hpost.fault _ rfl) hgone
        · rename_i x hx
          -- a second connect operation would be in the registry
          exact absurd rfl (hgone _ (mem_lockKeys.mpr (Or.inl ⟨x, (Keyed.mem_of_find hx).1, rfl⟩)))
      | keepAlive =>
        unfold dispatchTo withOp
        dsimp only
        split
        · exact .handled u op hop hpre heq hc (hpost.fault _ rfl) hgone
        · rename_i x hx
          have hf := (Frame.refl true .bare t).restartRecvTimer (Keyed.mem_of_find hx).1
          exact .handled u op hop hpre heq hc (hpost.trans hf)
            fun k hk => hgone k ((hf.lockLe rfl).keys.subset hk)
      | _ => exact .handled u op hop hpre heq hc hpost hgone
  · exact h

/-- A CONNACK is handled by at most one connect operation. -/
theorem handleConnack_dispatched (env : Env) (hr : Reg s) (hl : LockReg s) (msg : ConnackMsg) :
    Dispatched env msg s (s.handle env (.connack msg)) := by
  show Dispatched env msg s (s.handleProtMessage env (.connack msg))
  unfold handleProtMessage
  split
  · exact .before (.refl _ _ _) rfl
  · rename_i hcon
    have hcon : s.sessionState.disconnecting = false := by simpa using hcon
    have hloop : ∀ (l : List Nat) (t : Client), Dispatched env msg s t →
        Dispatched env msg s (l.foldl (dispatchAt env (.connack msg)) t) := by
      intro l
      induction l with
      | nil => exact fun t h => h
      | cons idx l ih => exact fun t h => ih _ (h.next hr hl hcon idx)
    exact hloop _ s (.before (.refl _ _ _) rfl)

end Mqtt5
