import Mqtt5Client.Authentication
import Mqtt5Client.Receptions
import Mqtt5Client.Waiting

/-!
# Mqtt5Client — what an operation in preparation survives

For every message, every piece of input, every timeout and every piece of a call there is a predicate of the
state before it that says whether it takes the operation for its own or ends what the operation depends on.
Everything else leaves the operation in `m_ops`. The predicates are those of the handlers themselves: a
message ends the connection when its handler finds it wrong, and a publish outlives the connection when the
session is kept.
-/

namespace Mqtt5

open Client

variable {env : Env} {s t : Client} {ref r : OpRef} {n : Nat}

/-! ## What is survived

A publish outlives the connection when the session is kept; everything else that is in preparation does
not. -/

/-- The operation outlives the end of the connection. -/
def Client.stores (ref : OpRef) (s : Client) : Bool :=
  ref.type == .send && decide (0 < s.sessionState.sessionExpiryIntervalMs)

/-- The operation outlives the connection: it is a publish, and the session is kept. -/
theorem Waits.of_stores (h : Waits ref n s) (hs : s.stores ref = true) : ref.type = .send ∧ 0 < n := by
  unfold Client.stores at hs
  rw [Bool.and_eq_true, h.expiry] at hs
  exact ⟨beq_iff_eq.mp hs.1, of_decide_eq_true hs.2⟩

/-- What ends the connection is not done to an operation that does not outlive it. -/
theorem Waits.of_ends (h : Waits ref n s) {ends : Bool} (hok : (ends && !s.stores ref) = false)
    (hends : ends = true) : ref.type = .send ∧ 0 < n := by
  rw [hends, Bool.true_and, Bool.not_eq_false'] at hok
  exact h.of_stores hok

/-! ## Receptions -/

/-- A PUBLISH ends the connection: its reception cannot be allocated, or what it says is refused. -/
def Client.publishEnds (env : Env) (msg : RecvPublishMsg) (s : Client) : Bool :=
  !s.sessionState.disconnecting &&
    if beginsReception env msg s then
      match s.verdictOn env msg with
      | .terminate _ => true
      | _ => false
    else (s.repeated msg).isNone

/-- A PUBREL of a reception ends the connection. -/
def Client.pubrelEnds (env : Env) (msg : AckMsg) (valid : Bool) (s : Client) : Bool :=
  let h := PropsHandler.ofProps env.cfg (msg.props.getD [])
  s.recvOps.any (·.packetId == msg.packetId) &&
    (!valid || ((h.reasonStr.isSome || !h.userProps.isEmpty) && !s.sessionState.problemInfoAllowed))

section Reception

variable (hne : ref.type ≠ .recv)

include hne

/-- A reception is not among the operations that are prepared. -/
theorem Waits.opCompleteRecv (h : Waits ref n s) (id : OpId) : Waits ref n (s.opCompleteRecv id) := by
  refine h.completeRef (r := ⟨.recv, id⟩) ?_
  rintro rfl
  exact hne rfl

/-- A refused message only ends its reception. -/
theorem Waits.completeNotAuthorized (h : Waits ref n s) (op : RecvOp) (qos : Qos) (pid : Nat) :
    Waits ref n (s.completeNotAuthorized env op qos pid) := by
  unfold Client.completeNotAuthorized
  dsimp only
  split
  · exact h.opCompleteRecv hne _
  · exact (h.post env _).opCompleteRecv hne _
  · exact (h.post env _).opCompleteRecv hne _

/-- So does a message that is reported, when it has the packet identifier it needs. -/
theorem Waits.reportRecvPublish (h : Waits ref n s) (op : RecvOp) {qos : Qos} {msg : RecvPublishMsg}
    (hpid : qos = .atMostOnceDelivery ∨ msg.packetId.isSome = true) (info : MessageInfo) :
    Waits ref n (s.reportRecvPublish env op qos msg info) := by
  unfold Client.reportRecvPublish
  split
  · exact (h.emit _).opCompleteRecv hne _
  · rename_i hqos hnone
    rcases hpid with hpid | hpid
    · exact absurd hpid hqos
    · rw [hnone] at hpid
      cases hpid
  · exact ((h.emit _).post env _).opCompleteRecv hne _
  · rename_i pid hpid'
    have hreceived : Waits ref n ((s.emit (.messageReceived info)).modifyRecvOp op.id
        ({ · with packetId := pid })) := (h.emit (.messageReceived info)).same rfl rfl rfl
    exact (hreceived.post env _).timerWait _ _ _

/-- What the checks of a message decide. -/
theorem Waits.verdict (h : Waits ref n s) {op : RecvOp} {qos : Qos} {msg : RecvPublishMsg} {v : Verdict}
    (hv : v.Leads env op qos msg s t)
    (hok : (∃ reason, v = .terminate reason) → ref.type = .send ∧ 0 < n) :
    Waits ref n t := by
  have hchecked : ∀ {u : Client}, Checked s u → Waits ref n u := fun {u} hc => by
    refine h.same ?_ ?_ hc.expiry
    · rw [hc.eq]
    · rw [hc.eq]
  cases v with
  | terminate reason =>
    obtain ⟨u, hu, rfl⟩ := hv
    exact (hchecked hu).terminated (hok ⟨reason, rfl⟩) reason
  | refuse =>
    obtain ⟨u, hu, rfl⟩ := hv
    exact (hchecked hu).completeNotAuthorized hne _ _ _
  | report info =>
    obtain ⟨u, hu, -, hpid, -, rfl⟩ := hv
    exact (hchecked hu).reportRecvPublish hne _ hpid _

omit hne in
/-- A reception that cannot be allocated ends the connection. -/
theorem Waits.createRecvOp_full (h : Waits ref n s)
    (hfull : isFull env.cfg.recvOpsLimit s.recvOps.length = true) (hok : ref.type = .send ∧ 0 < n)
    (msg : RecvPublishMsg) : Waits ref n (s.createRecvOp env msg) := by
  unfold Client.createRecvOp
  rw [if_pos hfull]
  exact ((h.errorLog _).post env _).brokerDisconnected env hok.1 hok.2 _ _ _

/-- PUBLISH. -/
theorem Waits.handlePublish (h : Waits ref n s) {msg : RecvPublishMsg}
    (hok : (s.publishEnds env msg && !s.stores ref) = false) : Waits ref n (s.handlePublish env msg) := by
  have hok := h.of_ends hok
  unfold Client.publishEnds at hok
  by_cases hbegins : beginsReception env msg s = true
  · -- the verdict decides
    have hbegun : Waits ref n (s.beginRecv env) := by
      rw [beginRecv_eq]
      exact ⟨List.mem_append_left _ h.mem, h.queued, h.idle, h.expiry⟩
    have hgoing : s.sessionState.disconnecting = false := by
      unfold beginsReception at hbegins
      rw [Bool.and_eq_true, Bool.and_eq_true, Bool.not_eq_true'] at hbegins
      exact hbegins.1.1
    rw [if_pos hbegins, hgoing, Bool.not_false, Bool.true_and] at hok
    refine hbegun.verdict hne (handlePublish_leads hbegins) fun ⟨reason, hreason⟩ => hok ?_
    unfold Client.verdictOn
    rw [hreason]
  · rw [if_neg hbegins] at hok
    unfold Client.handlePublish
    split
    · exact h
    · rename_i hgoing
      have hgoing : s.sessionState.disconnecting = false := Bool.eq_false_iff.mpr hgoing
      rw [hgoing, Bool.not_false, Bool.true_and] at hok
      have hreceived := h.keepAliveMessageReceived
      have hops : s.keepAliveMessageReceived.recvOps = s.recvOps := by rw [keepAliveMessageReceived_eq]
      unfold beginsReception at hbegins
      rw [hgoing, Bool.not_false, Bool.true_and] at hbegins
      unfold Client.repeated at hok
      dsimp only
      rw [hops]
      by_cases hqos : msg.qos = some .atMostOnceDelivery ∨ msg.qos = some .atLeastOnceDelivery
      · rw [if_pos hqos] at hok ⊢
        rw [decide_eq_true hqos, Bool.true_or, Bool.true_and, Bool.not_eq_true, Bool.not_eq_false'] at hbegins
        exact hreceived.createRecvOp_full (hops ▸ hbegins) (hok rfl) msg
      · rw [if_neg hqos] at hok ⊢
        cases hfind : s.recvOps.find? (·.packetId == msg.packetId.getD 0) with
        | none =>
          rw [hfind, decide_eq_false hqos, Option.isNone_none, Bool.false_or, Bool.true_and, Bool.not_eq_true,
            Bool.not_eq_false'] at hbegins
          exact hreceived.createRecvOp_full (hops ▸ hbegins) (hok (by rw [hfind]; rfl)) msg
        | some op =>
          dsimp only
          split
          · exact hreceived.post env _
          · exact (hreceived.timerCancel _).post env _

/-- The end of the PUBREL handler, which may refuse the user properties. -/
theorem Waits.pubrelTail (h : Waits ref n s) (op : RecvOp) (rc : ReasonCode) {bad : Bool}
    (hok : bad = true → ref.type = .send ∧ 0 < n) {text text' : String} :
    Waits ref n (if bad then (s.errorLog text).protocolErrorTermination env
      else if rc ≠ ReasonCode.success then (s.errorLog text').opCompleteRecv op.id
      else (s.post env (.pubcomp { packetId := op.packetId })).opCompleteRecv op.id) := by
  split
  · rename_i hbad
    exact (h.errorLog _).terminated (hok hbad) _
  · split
    · exact (h.errorLog _).opCompleteRecv hne _
    · exact (h.post env _).opCompleteRecv hne _

/-- PUBREL. -/
theorem Waits.handlePubrel (h : Waits ref n s) {msg : AckMsg} {valid : Bool}
    (hok : (s.pubrelEnds env msg valid && !s.stores ref) = false) :
    Waits ref n (s.handlePubrel env msg valid) := by
  have hok := h.of_ends hok
  have hreceived := h.keepAliveMessageReceived
  have hops : s.keepAliveMessageReceived.recvOps = s.recvOps := by rw [keepAliveMessageReceived_eq]
  have hsession : s.keepAliveMessageReceived.sessionState = s.sessionState := by
    rw [keepAliveMessageReceived_eq]
  unfold Client.handlePubrel
  dsimp only
  rw [hops]
  split
  · exact (hreceived.errorLog _).post env _
  · rename_i op hfind
    have hid : (op.packetId == msg.packetId) = true := by simpa using List.find?_some hfind
    have hany : s.recvOps.any (·.packetId == msg.packetId) = true :=
      List.any_eq_true.mpr ⟨op, List.mem_of_find?_eq_some hfind, hid⟩
    unfold Client.pubrelEnds at hok
    rw [hany, Bool.true_and] at hok
    have hdisarmed := hreceived.timerCancel op.responseTimer
    have hinfo : (s.keepAliveMessageReceived.timerCancel op.responseTimer).sessionState = s.sessionState :=
      hsession
    unfold recvOpHandlePubrel
    dsimp only at hok ⊢
    rw [hinfo]
    split
    · rename_i hvalid
      exact (hdisarmed.errorLog _).terminated (hok (by rw [hvalid, Bool.true_or])) _
    · split
      · rename_i hreason
        rw [Bool.and_eq_true] at hreason
        refine (hdisarmed.errorLog _).terminated (hok ?_) _
        rw [hreason.1, hreason.2, Bool.true_or, Bool.and_self, Bool.or_true]
      · -- the reason string is only logged
        have husers : (!(PropsHandler.ofProps env.cfg (msg.props.getD [])).userProps.isEmpty &&
            !s.sessionState.problemInfoAllowed) = true → ref.type = .send ∧ 0 < n := fun hprops => by
          rw [Bool.and_eq_true] at hprops
          refine hok ?_
          rw [hprops.1, hprops.2, Bool.or_true, Bool.and_self, Bool.or_true]
        cases (PropsHandler.ofProps env.cfg (msg.props.getD [])).reasonStr with
        | none => exact hdisarmed.pubrelTail hne op _ (hinfo ▸ husers)
        | some text =>
          exact ((hdisarmed.errorLog _).errorLog _).pubrelTail hne op _ (hinfo ▸ husers)

end Reception

/-! ## Acknowledgements -/

/-- An acknowledgement is taken for the operation, or ends a connection it does not outlive. One that is
out of order makes the client retransmit what is queued up to the acknowledged publish; this reaches a publish
in preparation when the acknowledged one is not in front of it, or was postponed and may go on the way. -/
def Client.ackLoses (env : Env) (packetId : Nat) (pubcompAck : Bool) (fails : SendOp → Bool) (ref : OpRef)
    (s : Client) : Bool :=
  match s.findSendOp packetId with
  | none => false
  | some op =>
    if s.isLegitSendAck op pubcompAck then ref == ⟨.send, op.id⟩ || fails op && !s.stores ref
    else ref.type == .send && !s.ackSafe env packetId

section Ack

variable {op : SendOp} {msg : AckMsg}

/-- The scope guards complete the publish before they end the connection. -/
theorem Waits.ackProtocolError (h : Waits ref n s) (hne : ref ≠ ⟨.send, op.id⟩)
    (hok : ref.type = .send ∧ 0 < n) (text : String) : Waits ref n (s.ackProtocolError env op text) :=
  ((h.errorLog text).sendOpCompleteWithCb hne _ _).terminated hok _

/-- The properties of an acknowledgement end the connection when they are refused. -/
theorem Waits.ackProps (h : Waits ref n s) (hne : ref ≠ ⟨.send, op.id⟩) {name : String}
    {props : Option PropsList} {response : PublishResponse} {next : PublishResponse → Client}
    (hok : s.ackRejects env props = true → ref.type = .send ∧ 0 < n)
    (hnext : ∀ r, Waits ref n (next r)) :
    Waits ref n (match s.ackProps env name props response with
      | .error text => s.ackProtocolError env op text
      | .ok r => next r) := by
  split
  · rename_i text herror
    exact h.ackProtocolError hne (hok (ackProps_error herror)) text
  · exact hnext _

/-- PUBACK for another publish. -/
theorem Waits.sendOpHandlePuback (h : Waits ref n s) (hne : ref ≠ ⟨.send, op.id⟩)
    (hok : s.pubackFails env op msg = true → ref.type = .send ∧ 0 < n) :
    Waits ref n (s.sendOpHandlePuback env op msg) := by
  have hsession := assertInFlight_session (s := s) op
  have hdisarmed := (h.assertInFlight op).timerCancel op.responseTimer
  unfold Client.pubackFails at hok
  unfold Client.sendOpHandlePuback
  dsimp only
  split
  · rename_i hqos
    exact hdisarmed.ackProtocolError hne (hok (by rw [decide_eq_true hqos, Bool.true_or])) _
  · have hconfirmed := hdisarmed.confirmRegisteredAlias op
      (op.registeredAlias && decide (msg.reasonCode.getD ReasonCode.success < ReasonCode.unspecifiedError))
    refine hconfirmed.ackProps hne (fun hrejects => hok ?_) fun _ => ?_
    · rw [ackRejects_congr ((confirm_session op _).trans hsession)] at hrejects
      rw [hrejects, Bool.or_true]
    · exact hconfirmed.sendOpCompleteWithCb hne _ _

/-- PUBREC for another publish. -/
theorem Waits.sendOpHandlePubrec (h : Waits ref n s) (hne : ref ≠ ⟨.send, op.id⟩)
    (hok : s.pubrecFails env op msg = true → ref.type = .send ∧ 0 < n) :
    Waits ref n (s.sendOpHandlePubrec env op msg) := by
  have hsession := assertInFlight_session (s := s) op
  have hdisarmed := (h.assertInFlight op).timerCancel op.responseTimer
  unfold Client.pubrecFails at hok
  unfold Client.sendOpHandlePubrec
  dsimp only
  split
  · rename_i hqos
    exact hdisarmed.ackProtocolError hne
      (hok (by rw [decide_eq_true hqos, Bool.true_or, Bool.true_or])) _
  · split
    · rename_i hacked
      exact hdisarmed.ackProtocolError hne (hok (by rw [hacked, Bool.or_true, Bool.true_or])) _
    · refine hdisarmed.ackProps hne (fun hrejects => hok ?_) fun _ => ?_
      · rw [ackRejects_congr hsession] at hrejects
        rw [hrejects, Bool.or_true]
      · split
        · exact hdisarmed.sendOpCompleteWithCb hne _ _
        · exact (hdisarmed.confirmRegisteredAlias op _).sendPubrel hne

/-- PUBCOMP for another publish. -/
theorem Waits.sendOpHandlePubcomp (h : Waits ref n s) (hne : ref ≠ ⟨.send, op.id⟩)
    (hok : s.pubcompFails env op msg = true → ref.type = .send ∧ 0 < n) :
    Waits ref n (s.sendOpHandlePubcomp env op msg) := by
  have hdisarmed := h.timerCancel op.responseTimer
  unfold Client.pubcompFails at hok
  unfold Client.sendOpHandlePubcomp
  dsimp only
  split
  · rename_i hqos
    exact hdisarmed.ackProtocolError hne
      (hok (by rw [decide_eq_true hqos, Bool.true_or, Bool.true_or])) _
  · split
    · rename_i hacked
      exact hdisarmed.ackProtocolError hne (hok (by rw [hacked, Bool.or_true, Bool.true_or])) _
    · refine hdisarmed.ackProps hne (fun hrejects => hok ?_) fun _ => ?_
      · rw [show s.ackRejects env msg.props = true from hrejects, Bool.or_true]
      · exact hdisarmed.sendOpCompleteWithCb hne _ _

end Ack

/-- The walk along the queue keeps to publishes that were transmitted or postponed. -/
theorem Waits.resendLoop {target : OpId} (fuel : Nat) {idx : Nat} (h : Waits ref n s) (hr : Reg s)
    (hW : WalkSafe env (ref.type = .send) target idx s) : Waits ref n (resendLoop env target fuel idx s) := by
  induction fuel generalizing idx s with
  | zero => exact h
  | succ fuel ih =>
    unfold Mqtt5.Client.resendLoop
    split
    · exact h
    · rename_i op hget
      have hop : op ∈ s.sendOps := List.mem_of_getElem? hget
      have hother : ref ≠ ⟨.send, op.id⟩ := by
        intro heq
        have hfresh := hW.visited hr hget (by rw [heq])
        rw [h.idle op hop heq] at hfresh
        cases hfresh
      have hvisited : Waits ref n (s.forceDupResend env op) := by
        unfold forceDupResend
        split
        · exact h
        · exact h.resendDupMsg hother
      have hrun : MacroRun env (visitGuard op.id) false .rests s (s.forceDupResend env op) :=
        forceDupResend_run hr hop rfl fun _ => rfl
      dsimp only
      split
      · exact hvisited
      · rename_i hne
        obtain ⟨hnext, hstay⟩ := hW.next hr hget (by simpa using hne) hrun
        split
        · rename_i hmap
          exact ih hvisited (MacroRun.reg hrun hr) (hnext (by simpa using hmap))
        · exact ih hvisited (MacroRun.reg hrun hr) hstay

/-- Everything up to the acknowledged publish is sent again. -/
theorem Waits.resendAllUntil (h : Waits ref n s) (hr : Reg s) {packetId : Nat} {op : SendOp}
    (hfind : s.findSendOp packetId = some op) (hok : ref.type = .send → s.ackSafe env packetId = true) :
    Waits ref n (s.resendAllUntil env op.id) :=
  Waits.resendLoop _ h hr fun htype => walkSafe_of_ackSafe hfind (hok htype)

/-- The publish an acknowledgement is for is looked up by its packet identifier. -/
theorem Waits.processPublishAckMsg (h : Waits ref n s) {packetId : Nat} {pubcompAck : Bool}
    {fails : SendOp → Bool} {handle : SendOp → Client → Client} (hr : Reg s)
    (hok : s.ackLoses env packetId pubcompAck fails ref = false)
    (hhandle : ∀ op, ref ≠ ⟨.send, op.id⟩ → (fails op = true → ref.type = .send ∧ 0 < n) →
      Waits ref n (handle op s.keepAliveMessageReceived)) :
    Waits ref n (s.processPublishAckMsg env packetId pubcompAck handle).1 := by
  have hreceived := h.keepAliveMessageReceived
  have hops : s.keepAliveMessageReceived.sendOps = s.sendOps := by rw [keepAliveMessageReceived_eq]
  have hfind : s.keepAliveMessageReceived.findSendOp packetId = s.findSendOp packetId := by
    unfold findSendOp
    rw [hops]
  unfold Client.ackLoses at hok
  unfold Client.processPublishAckMsg
  dsimp only
  rw [hfind]
  cases hs : s.findSendOp packetId with
  | none => exact hreceived
  | some op =>
    rw [hs] at hok
    dsimp only at hok ⊢
    rw [isLegitSendAck_congr hops]
    split
    · rename_i hlegit
      rw [if_pos hlegit, Bool.or_eq_false_iff] at hok
      exact hhandle op (fun heq => by simp [heq] at hok) (h.of_ends hok.2)
    · rename_i hlegit
      rw [if_neg hlegit, Bool.and_eq_false_iff, Bool.not_eq_false'] at hok
      have hf : Frame false .rests s s.keepAliveMessageReceived :=
        (Frame.refl false .rests s).keepAliveMessageReceived
      refine hreceived.resendAllUntil (hf.reg hr) (hfind.trans hs) fun htype => ?_
      rw [ackSafe_congr hf.view]
      exact hok.resolve_left (by simp [htype])

theorem received_session : s.keepAliveMessageReceived.sessionState = s.sessionState := by
  rw [keepAliveMessageReceived_eq]

theorem Waits.handlePuback (h : Waits ref n s) (hr : Reg s) {msg : AckMsg}
    (hok : s.ackLoses env msg.packetId false (s.pubackFails env · msg) ref = false) :
    Waits ref n (s.handlePuback env msg) := by
  have hacked : Waits ref n
      (s.processPublishAckMsg env msg.packetId false (Client.sendOpHandlePuback env · msg)).1 := by
    refine h.processPublishAckMsg hr hok fun op hne hends =>
      h.keepAliveMessageReceived.sendOpHandlePuback hne fun hfails => hends ?_
    unfold Client.pubackFails at hfails ⊢
    rwa [ackRejects_congr received_session] at hfails
  unfold Client.handlePuback
  dsimp only
  split
  · exact hacked
  · exact hacked.errorLog _

theorem Waits.handlePubrec (h : Waits ref n s) (hr : Reg s) {msg : AckMsg}
    (hok : s.ackLoses env msg.packetId false (s.pubrecFails env · msg) ref = false) :
    Waits ref n (s.handlePubrec env msg) := by
  have hacked : Waits ref n
      (s.processPublishAckMsg env msg.packetId false (Client.sendOpHandlePubrec env · msg)).1 := by
    refine h.processPublishAckMsg hr hok fun op hne hends =>
      h.keepAliveMessageReceived.sendOpHandlePubrec hne fun hfails => hends ?_
    unfold Client.pubrecFails at hfails ⊢
    rwa [ackRejects_congr received_session] at hfails
  unfold Client.handlePubrec
  dsimp only
  split
  · exact hacked
  · exact (hacked.errorLog _).post env _

theorem Waits.handlePubcomp (h : Waits ref n s) (hr : Reg s) {msg : AckMsg}
    (hok : s.ackLoses env msg.packetId true (s.pubcompFails env · msg) ref = false) :
    Waits ref n (s.handlePubcomp env msg) := by
  have hacked : Waits ref n
      (s.processPublishAckMsg env msg.packetId true (Client.sendOpHandlePubcomp env · msg)).1 := by
    refine h.processPublishAckMsg hr hok fun op hne hends =>
      h.keepAliveMessageReceived.sendOpHandlePubcomp hne fun hfails => hends ?_
    unfold Client.pubcompFails at hfails ⊢
    rwa [ackRejects_congr received_session] at hfails
  unfold Client.handlePubcomp
  dsimp only
  split
  · exact hacked
  · exact hacked.errorLog _

/-! ## Messages for every operation -/

/-- The operation waits, and `G` holds unless the connection has ended. -/
structure WaitsWhile (ref : OpRef) (n : Nat) (G : Client → Prop) (t : Client) : Prop where
  waits : Waits ref n t
  going : t.sessionState.disconnecting = false → G t

/-- The connection has ended. -/
theorem WaitsWhile.ended {G : Client → Prop} (h : Waits ref n t) (ht : t.sessionState.disconnecting = true) :
    WaitsWhile ref n G t :=
  ⟨h, fun hgoing => by rw [ht] at hgoing; cases hgoing⟩

/-- Once the connection is ended the message goes to no further operation. -/
theorem terminated_disconnecting (env : Env) (reason : ReasonCode) (s : Client) :
    (s.terminationWithReason env reason).sessionState.disconnecting = true := by
  unfold Client.terminationWithReason
  dsimp only
  rw [brokerDisconnected_session]

/-- The handler of the operation behind a pointer is called. -/
theorem WaitsWhile.withOp {α : Type} {G : Client → Prop} {x : Option α} {site : Site}
    {f : α → Client → Client} (h : Waits ref n s) (hG : ∀ fault, G (s.fault fault))
    (hf : ∀ op, x = some op → WaitsWhile ref n G (f op s)) : WaitsWhile ref n G (s.withOp x site f) := by
  unfold Client.withOp
  split
  · exact ⟨h.fault _, fun _ => hG _⟩
  · exact hf _ rfl

/-- The rounds of the loop over `m_ops`, which end with the connection. -/
theorem Waits.handleProtMessage {G : Client → Prop} {msg : InMsg} (h : Waits ref n s) (hG : G s)
    (hround : ∀ u r, Waits ref n u → G u → some r ∈ u.ops →
      WaitsWhile ref n G (u.dispatchTo env msg r)) :
    Waits ref n (s.handleProtMessage env msg) := by
  have hrounds : ∀ (l : List Nat) (u : Client), WaitsWhile ref n G u →
      Waits ref n (l.foldl (dispatchAt env msg) u) := by
    intro l
    induction l with
    | nil => exact fun _ hu => hu.waits
    | cons idx l ih =>
      intro u hu
      refine ih _ ?_
      unfold dispatchAt
      split
      · exact hu
      · rename_i hgoing
        unfold visitOp
        split
        · rename_i r hget
          exact hround u r hu.waits (hu.going (Bool.eq_false_iff.mpr hgoing)) (List.mem_of_getElem? hget)
        · exact hu
  unfold Client.handleProtMessage
  split
  · exact h
  · exact hrounds _ s ⟨h, fun _ => hG⟩

/-- The operations that have no handler for a message. -/
theorem WaitsWhile.restartRecvTimer {G : Client → Prop} (h : Waits ref n s)
    (hfault : ∀ fault, G (s.fault fault))
    (htimers : ∀ m, G { s with timerMgr := m }) (id : OpId) :
    WaitsWhile ref n G (s.withOp (s.keepAliveOp? id) .opComplete Client.restartRecvTimer) := by
  refine .withOp h hfault fun op _ => ⟨h.restartRecvTimer op, fun _ => ?_⟩
  rw [restartRecvTimer_eq]
  exact htimers _

/-! ### CONNACK, PINGRESP and DISCONNECT -/

/-- CONNACK is for a connect operation, and without one for nothing. -/
theorem Waits.handleConnack (h : Waits ref n s) (hnone : s.connectOps = []) (msg : ConnackMsg) :
    Waits ref n (s.handleProtMessage env (.connack msg)) := by
  refine h.handleProtMessage (G := fun u => u.connectOps = []) hnone fun u r hu hG _ => ?_
  unfold Client.dispatchTo
  split
  all_goals first | contradiction | skip
  · unfold Client.connectOp?
    rw [hG]
    exact ⟨hu.fault _, fun _ => hG⟩
  · refine WaitsWhile.restartRecvTimer hu (fun _ => ?_) (fun _ => ?_) _
    · exact hG
    · exact hG
  · exact ⟨hu, fun _ => hG⟩

/-- PINGRESP only concerns the keep alive. -/
theorem Waits.handlePingresp (h : Waits ref n s) : Waits ref n (s.handleProtMessage env .pingresp) := by
  refine h.handleProtMessage (G := fun _ => True) trivial fun u r hu _ _ => ?_
  obtain ⟨type, id⟩ := r
  cases type
  case keepAlive =>
    refine WaitsWhile.withOp (f := Client.keepAliveHandlePingresp) hu (fun _ => trivial) fun op _ =>
      ⟨?_, fun _ => trivial⟩
    exact (hu.timerCancel op.respTimer).restartRecvTimer op
  all_goals exact ⟨hu, fun _ => trivial⟩

/-- DISCONNECT ends the connection when there is an operation that has a handler for it. -/
theorem Waits.handleDisconnect (h : Waits ref n s) {msg : ReasonMsg} {valid : Bool}
    (hok : ((!s.connectOps.isEmpty || !s.keepAliveOps.isEmpty) && !s.stores ref) = false) :
    Waits ref n (s.handleProtMessage env (.disconnect msg valid)) := by
  have hends := h.of_ends hok
  have hG : (ref.type = .send ∧ 0 < n) ∨ s.connectOps = [] ∧ s.keepAliveOps = [] := by
    by_cases hnone : s.connectOps = [] ∧ s.keepAliveOps = []
    · exact Or.inr hnone
    · refine Or.inl (hends ?_)
      rw [Bool.or_eq_true, Bool.not_eq_true', Bool.not_eq_true']
      by_cases hconnect : s.connectOps = []
      · exact Or.inr (List.isEmpty_eq_false_iff.mpr fun hkeep => hnone ⟨hconnect, hkeep⟩)
      · exact Or.inl (List.isEmpty_eq_false_iff.mpr hconnect)
  refine h.handleProtMessage (G := fun u => (ref.type = .send ∧ 0 < n) ∨
    u.connectOps = [] ∧ u.keepAliveOps = []) hG fun u r hu hG _ => ?_
  obtain ⟨type, id⟩ := r
  cases type
  case connect =>
    -- the operation is completed with the connection
    refine WaitsWhile.withOp (f := (connectHandleDisconnect env · msg)) hu (fun _ => hG) fun op hop => ?_
    rcases hG with hstored | hnone
    · have hne : ref ≠ ⟨.connect, op.id⟩ := by
        rintro rfl
        cases hstored.1
      refine WaitsWhile.ended ?_ ?_
      · exact (hu.completed hne op.cb _).brokerDisconnected env hstored.1 hstored.2 _ _ _
      · unfold connectHandleDisconnect
        rw [brokerDisconnected_session]
    · unfold Client.connectOp? at hop
      rw [hnone.1] at hop
      cases hop
  case keepAlive =>
    refine WaitsWhile.withOp (f := (keepAliveHandleDisconnect env · msg valid)) hu (fun _ => hG)
      fun op hop => ?_
    rcases hG with hstored | hnone
    · have hdisarmed := ((hu.timerCancel op.pingTimer).timerCancel op.recvTimer).timerCancel op.respTimer
      unfold keepAliveHandleDisconnect
      dsimp only
      split
      · refine WaitsWhile.ended ((hdisarmed.post env _).brokerDisconnected env hstored.1 hstored.2 _ _ _) ?_
        rw [brokerDisconnected_session]
      · refine WaitsWhile.ended (hdisarmed.brokerDisconnected env hstored.1 hstored.2 _ _ _) ?_
        rw [brokerDisconnected_session]
    · unfold Client.keepAliveOp? at hop
      rw [hnone.2] at hop
      cases hop
  all_goals exact ⟨hu, fun _ => hG⟩

/-! ### SUBACK and UNSUBACK -/

/-- A SUBACK for the subscription ends the connection. -/
def Client.subackFails (env : Env) (op : SubscribeOp) (msg : CodesMsg) (s : Client) : Bool :=
  s.ackRejects env (some msg.props) || decide (op.subMsg.list.length ≠ msg.list.length) ||
    (subackCodes env (env.cfg.hasSubTopicVerification && s.configState.verifySubFilter) 0
      (msg.list.zip op.subMsg.list) s.reuseState.subFilters).2.isSome

/-- An UNSUBACK for the operation ends the connection. -/
def Client.unsubackFails (env : Env) (op : UnsubscribeOp) (msg : CodesMsg) (s : Client) : Bool :=
  s.ackRejects env (some msg.props) || decide (op.unsubMsg.list.length ≠ msg.list.length) ||
    (unsubackCodes env 0 (msg.list.zip op.unsubMsg.list) s.reuseState.subFilters).2.isSome

/-- The operations a response is for, each with whether it ends the connection. -/
def Client.answers (env : Env) (msg : InMsg) (s : Client) : List (OpRef × Bool) :=
  match msg with
  | .suback m =>
    (s.subscribeOps.filter (·.subMsg.packetId == m.packetId)).map fun op =>
      (⟨.subscribe, op.id⟩, s.subackFails env op m)
  | .unsuback m =>
    (s.unsubscribeOps.filter (·.unsubMsg.packetId == m.packetId)).map fun op =>
      (⟨.unsubscribe, op.id⟩, s.unsubackFails env op m)
  | _ => []

/-- A response is taken for the operation, or ends a connection it does not outlive. Operations in
preparation have no packet identifier yet, so only a response without one is for several. -/
def Client.answersLose (env : Env) (msg : InMsg) (ref : OpRef) (s : Client) : Bool :=
  decide (1 < (s.answers env msg).length) ||
    (s.answers env msg).any fun a => ref == a.1 || a.2 && !s.stores ref

/-- The response cannot be built when its properties are refused. -/
theorem codesResponse_error {name : String} {codes : List ReasonCode} {props : PropsList} {e : CodesError}
    (h : s.codesResponse env name codes (.ofProps env.cfg props) = .error e) :
    s.ackRejects env (some props) = true := by
  unfold codesResponse at h
  unfold Client.ackRejects
  dsimp only
  split at h
  · rename_i hreason
    obtain ⟨hsome, hinfo⟩ := Bool.and_eq_true_iff.mp hreason
    rw [hsome, hinfo, Bool.true_or, Bool.true_and, Bool.or_true]
  · split at h
    · rename_i hprops
      obtain ⟨husers, hinfo⟩ := Bool.and_eq_true_iff.mp hprops
      rw [husers, hinfo, Bool.or_true, Bool.true_and, Bool.or_true]
    · cases h

theorem ackRejects_protocolError {props : PropsList}
    (h : (PropsHandler.ofProps env.cfg props).protocolError = true) :
    s.ackRejects env (some props) = true := by
  unfold Client.ackRejects
  dsimp only
  rw [h, Bool.true_or]

/-- A SUBACK for the subscription fails, or completes it. -/
theorem subscribeHandleSuback_of {P : Client → Prop} {op : SubscribeOp} {msg : CodesMsg}
    (hpid : msg.packetId = op.subMsg.packetId)
    (hfail : s.subackFails env op msg = true → ∀ (filters : List Str) (e : CodesError),
      P (((((s.timerCancel op.timer).setSubFilters filters).errorLog e.text).subscribeComplete op e.status
        none).terminationWithReason env e.reason))
    (hdone : ∀ (filters : List Str) (response : CodesResponse),
      P (((s.timerCancel op.timer).setSubFilters filters).subscribeComplete op .complete (some response))) :
    P (s.subscribeHandleSuback env op msg) := by
  unfold Client.subackFails at hfail
  unfold subscribeHandleSuback
  rw [if_neg (not_not.mpr hpid)]
  dsimp only
  split
  · rename_i hprops
    exact hfail (by rw [ackRejects_protocolError hprops, Bool.true_or, Bool.true_or])
      s.reuseState.subFilters { text := "Protocol error in SUBACK properties" }
  · split
    · rename_i hlen
      exact hfail (by rw [decide_eq_true hlen, Bool.or_true, Bool.true_or]) s.reuseState.subFilters
        { text := "Amount of reason codes in SUBACK doesn't match amount of subcribe topics" }
    · split
      · rename_i e he
        refine hfail ?_ _ e
        rw [show (subackCodes env (env.cfg.hasSubTopicVerification && s.configState.verifySubFilter) 0
          (msg.list.zip op.subMsg.list) s.reuseState.subFilters).2 = some e from he, Option.isSome_some,
          Bool.or_true]
      · split
        · rename_i e he
          refine hfail ?_ _ e
          rw [show s.ackRejects env (some msg.props) = true from codesResponse_error he, Bool.true_or,
            Bool.true_or]
        · exact hdone _ _

/-- An UNSUBACK for the operation fails, or completes it. -/
theorem unsubscribeHandleUnsuback_of {P : Client → Prop} {op : UnsubscribeOp} {msg : CodesMsg}
    (hpid : msg.packetId = op.unsubMsg.packetId)
    (hfail : s.unsubackFails env op msg = true → ∀ (filters : List Str) (e : CodesError),
      P (((((s.timerCancel op.timer).setSubFilters filters).errorLog e.text).unsubscribeComplete op e.status
        none).terminationWithReason env e.reason))
    (hdone : ∀ (filters : List Str) (response : CodesResponse),
      P (((s.timerCancel op.timer).setSubFilters filters).unsubscribeComplete op .complete (some response))) :
    P (s.unsubscribeHandleUnsuback env op msg) := by
  unfold Client.unsubackFails at hfail
  unfold unsubscribeHandleUnsuback
  rw [if_neg (not_not.mpr hpid)]
  dsimp only
  split
  · rename_i hlen
    exact hfail (by rw [decide_eq_true hlen, Bool.or_true, Bool.true_or]) s.reuseState.subFilters
      { text := "Amount of reason codes in UNSUBACK doesn't match amount of unsubcribe topics" }
  · split
    · rename_i hprops
      exact hfail (by rw [ackRejects_protocolError hprops, Bool.true_or, Bool.true_or])
        s.reuseState.subFilters { text := "Protocol error in UNSUBACK properties" }
    · split
      · rename_i e he
        refine hfail ?_ _ e
        rw [show (unsubackCodes env 0 (msg.list.zip op.unsubMsg.list) s.reuseState.subFilters).2 = some e from he,
          Option.isSome_some, Bool.or_true]
      · split
        · rename_i e he
          refine hfail ?_ _ e
          rw [show s.ackRejects env (some msg.props) = true from codesResponse_error he, Bool.true_or,
            Bool.true_or]
        · exact hdone _ _

/-- A list without a member that was the only one of its kind has none. -/
theorem filter_eraseP_eq_nil {α : Type} {l : List α} {x : α} {p q : α → Bool} (hx : l.find? p = some x)
    (hq : q x = true) (hone : (l.filter q).length ≤ 1) : (l.eraseP p).filter q = [] := by
  have hlen := ((perm_eraseP hx).filter q).length_eq
  rw [List.filter_cons_of_pos hq, List.length_cons] at hlen
  exact List.length_eq_zero_iff.mp (by omega)

/-- What an answer may do to an operation that waits: it is for another one, the only one it is for, and
ends the connection only when the operation outlives that. -/
theorem Waits.answer (h : Waits ref n s) {msg : InMsg} {u : Client} {r : OpRef} {fails : Bool}
    (hok : s.answersLose env msg ref = false) (hG : (u.answers env msg).Sublist (s.answers env msg))
    (hmem : (r, fails) ∈ u.answers env msg) :
    ref ≠ r ∧ (fails = true → ref.type = .send ∧ 0 < n) ∧ (u.answers env msg).length ≤ 1 := by
  unfold Client.answersLose at hok
  rw [Bool.or_eq_false_iff, decide_eq_false_iff_not, not_lt] at hok
  have hany := List.any_eq_false.mp hok.2 _ (hG.subset hmem)
  rw [Bool.not_eq_true, Bool.or_eq_false_iff] at hany
  exact ⟨fun heq => by simp [heq] at hany, h.of_ends hany.2, Nat.le_trans hG.length_le hok.1⟩

/-- The subscription that is completed is erased from its list. -/
theorem subscribeComplete_subscribeOps {op : SubscribeOp} (hmem : some ⟨.subscribe, op.id⟩ ∈ s.ops)
    (hop : s.subscribeOp? op.id = some op) (status : AsyncOpStatus) (response : Option CodesResponse) :
    (s.subscribeComplete op status response).subscribeOps = s.subscribeOps.eraseP (·.id == op.id) := by
  have herased : (s.opCompleteSubscribe op.id).subscribeOps = s.subscribeOps.eraseP (·.id == op.id) := by
    unfold opCompleteSubscribe opCompleteWith unregisterOp
    rw [if_pos hmem]
    unfold eraseSubscribeOp
    dsimp only
    rw [show List.find? (fun x : SubscribeOp => x.id == op.id) _ = some op from hop]
    dsimp only
    rw [timerFree_eq, releasePacketId_eq]
  unfold subscribeComplete
  dsimp only
  split
  · exact herased
  · exact herased

/-- The opposite of a subscription leaves its list when it is completed. -/
theorem unsubscribeComplete_unsubscribeOps {op : UnsubscribeOp}
    (hmem : some ⟨.unsubscribe, op.id⟩ ∈ s.ops) (hop : s.unsubscribeOp? op.id = some op)
    (status : AsyncOpStatus) (response : Option CodesResponse) :
    (s.unsubscribeComplete op status response).unsubscribeOps =
      s.unsubscribeOps.eraseP (·.id == op.id) := by
  have herased : (s.opCompleteUnsubscribe op.id).unsubscribeOps =
      s.unsubscribeOps.eraseP (·.id == op.id) := by
    unfold opCompleteUnsubscribe opCompleteWith unregisterOp
    rw [if_pos hmem]
    unfold eraseUnsubscribeOp
    dsimp only
    rw [show List.find? (fun x : UnsubscribeOp => x.id == op.id) _ = some op from hop]
    dsimp only
    rw [timerFree_eq, releasePacketId_eq]
  unfold unsubscribeComplete
  dsimp only
  split
  · exact herased
  · exact herased

/-- A response is answered by the subscription it is for, and then no other one waits for it. -/
theorem Waits.handleSuback (h : Waits ref n s) {msg : CodesMsg}
    (hok : s.answersLose env (.suback msg) ref = false) :
    Waits ref n (s.handleProtMessage env (.suback msg)) := by
  refine h.handleProtMessage (G := fun u => (u.answers env (.suback msg)).Sublist
    (s.answers env (.suback msg))) (.refl _) fun u r hu hG hops => ?_
  obtain ⟨type, id⟩ := r
  cases type
  case subscribe =>
    refine WaitsWhile.withOp (f := (subscribeHandleSuback env · msg)) hu (fun _ => hG) fun op hop => ?_
    obtain ⟨hlist, rfl⟩ := Keyed.mem_of_find hop
    by_cases hpid : msg.packetId = op.subMsg.packetId
    · have hmatch : (op.subMsg.packetId == msg.packetId) = true := beq_iff_eq.mpr hpid.symm
      obtain ⟨hne, hends, hone⟩ := h.answer (r := ⟨.subscribe, op.id⟩) hok hG
        (List.mem_map.mpr ⟨op, List.mem_filter.mpr ⟨hlist, hmatch⟩, rfl⟩)
      have hnoted : ∀ filters, Waits ref n ((u.timerCancel op.timer).setSubFilters filters) :=
        fun filters => (hu.timerCancel op.timer).same rfl rfl rfl
      refine subscribeHandleSuback_of hpid (fun hfails filters e => ?_) fun filters response => ?_
      · exact .ended ((((hnoted filters).errorLog _).completed hne op.cb _).terminated (hends hfails) _)
          (terminated_disconnecting _ _ _)
      · refine ⟨(hnoted filters).completed hne op.cb _, fun _ => ?_⟩
        have hnone : (((u.timerCancel op.timer).setSubFilters filters).subscribeOps.eraseP
            (·.id == op.id)).filter (·.subMsg.packetId == msg.packetId) = [] :=
          filter_eraseP_eq_nil hop hmatch (by rwa [Client.answers, List.length_map] at hone)
        unfold Client.answers
        dsimp only
        have hleft :=
          subscribeComplete_subscribeOps (s := (u.timerCancel op.timer).setSubFilters filters) hops hop
        rw [hleft, hnone]
        exact List.nil_sublist _
    · unfold subscribeHandleSuback
      rw [if_pos hpid]
      exact ⟨hu, fun _ => hG⟩
  case keepAlive => exact .restartRecvTimer hu (fun _ => hG) (fun _ => hG) id
  all_goals exact ⟨hu, fun _ => hG⟩

/-- UNSUBACK. -/
theorem Waits.handleUnsuback (h : Waits ref n s) {msg : CodesMsg}
    (hok : s.answersLose env (.unsuback msg) ref = false) :
    Waits ref n (s.handleProtMessage env (.unsuback msg)) := by
  refine h.handleProtMessage (G := fun u => (u.answers env (.unsuback msg)).Sublist
    (s.answers env (.unsuback msg))) (.refl _) fun u r hu hG hops => ?_
  obtain ⟨type, id⟩ := r
  cases type
  case unsubscribe =>
    refine WaitsWhile.withOp (f := (unsubscribeHandleUnsuback env · msg)) hu (fun _ => hG) fun op hop => ?_
    obtain ⟨hlist, rfl⟩ := Keyed.mem_of_find hop
    by_cases hpid : msg.packetId = op.unsubMsg.packetId
    · have hmatch : (op.unsubMsg.packetId == msg.packetId) = true := beq_iff_eq.mpr hpid.symm
      obtain ⟨hne, hends, hone⟩ := h.answer (r := ⟨.unsubscribe, op.id⟩) hok hG
        (List.mem_map.mpr ⟨op, List.mem_filter.mpr ⟨hlist, hmatch⟩, rfl⟩)
      have hnoted : ∀ filters, Waits ref n ((u.timerCancel op.timer).setSubFilters filters) :=
        fun filters => (hu.timerCancel op.timer).same rfl rfl rfl
      refine unsubscribeHandleUnsuback_of hpid (fun hfails filters e => ?_) fun filters response => ?_
      · exact .ended ((((hnoted filters).errorLog _).completed hne op.cb _).terminated (hends hfails) _)
          (terminated_disconnecting _ _ _)
      · refine ⟨(hnoted filters).completed hne op.cb _, fun _ => ?_⟩
        have hnone : (((u.timerCancel op.timer).setSubFilters filters).unsubscribeOps.eraseP
            (·.id == op.id)).filter (·.unsubMsg.packetId == msg.packetId) = [] :=
          filter_eraseP_eq_nil hop hmatch (by rwa [Client.answers, List.length_map] at hone)
        unfold Client.answers
        dsimp only
        have hleft :=
          unsubscribeComplete_unsubscribeOps (s := (u.timerCancel op.timer).setSubFilters filters) hops hop
        rw [hleft, hnone]
        exact List.nil_sublist _
    · unfold unsubscribeHandleUnsuback
      rw [if_pos hpid]
      exact ⟨hu, fun _ => hG⟩
  case keepAlive => exact .restartRecvTimer hu (fun _ => hG) (fun _ => hG) id
  all_goals exact ⟨hu, fun _ => hG⟩


/-! ### AUTH -/

/-- The AUTH message with these properties cannot be sent. -/
def Client.authTooLarge (env : Env) (props : PropsList) (s : Client) : Bool :=
  !s.fits env (.auth { reasonCode := some ReasonCode.continueAuth, props := some props })

/-- The answer of the application cannot be built or sent. -/
def Client.answerFails (env : Env) (method : Str) (out : AuthInfo) (s : Client) : Bool :=
  let r := s.authResponseProps env { full := "", reasonTooLong := "", badUserProps := none } method out
  r.1.2.isSome || s.authTooLarge env r.2

/-- An AUTH ends the connection instead of the reauthentication going on. -/
def Client.reauthFails (env : Env) (msg : ReasonMsg) (reply : AuthReply) (s : Client) : Bool :=
  (s.reauthError env msg).isSome ||
    decide (msg.reasonCode.getD ReasonCode.success ≠ ReasonCode.success) &&
      match reply with
      | .disconnect => true
      | .continue out => s.answerFails env s.sessionState.authMethod out

/-- An AUTH is taken for the operation, which it completes, or ends a connection it does not outlive. -/
def Client.authLoses (env : Env) (msg : ReasonMsg) (valid : Bool) (reply : AuthReply) (ref : OpRef)
    (s : Client) : Bool :=
  s.connectOps.any (fun op => ref == ⟨.connect, op.id⟩ && (connectAuthError env op msg valid).isSome) ||
    s.reauthOps.any (fun op => ref == ⟨.reauth, op.id⟩ &&
      decide (msg.reasonCode.getD ReasonCode.success = ReasonCode.success)) ||
    (!s.reauthOps.isEmpty && s.reauthFails env msg reply) && !s.stores ref

/-- What AUTH is answered from stays, and no operation of the two types is new. -/
structure Answering (s t : Client) : Prop where
  session : t.sessionState = s.sessionState
  connect : ∀ op ∈ t.connectOps, op ∈ s.connectOps
  reauth : ∀ op ∈ t.reauthOps, op ∈ s.reauthOps

namespace Answering

variable {u : Client}

theorem refl (s : Client) : Answering s s := ⟨rfl, fun _ => id, fun _ => id⟩

theorem same (h : Answering s t) (hs : u.sessionState = t.sessionState) (hc : u.connectOps = t.connectOps)
    (hr : u.reauthOps = t.reauthOps) : Answering s u :=
  ⟨hs.trans h.session, hc ▸ h.connect, hr ▸ h.reauth⟩

theorem errors (h : Answering s t) (hlogs : LogsErrors t u) : Answering s u := by
  obtain ⟨texts, counts, rfl⟩ := hlogs
  exact h.same rfl rfl rfl

theorem post (h : Answering s t) (env : Env) (msg : OutMsg) : Answering s (t.post env msg) := by
  rw [post_eq]
  exact h.same rfl rfl rfl

theorem eraseConnectOp (h : Answering s t) (id : OpId) : Answering s (t.eraseConnectOp id) := by
  unfold Client.eraseConnectOp
  split
  · exact h.same rfl rfl rfl
  · rw [timerFree_eq]
    exact ⟨h.session, fun op hop => h.connect op (List.mem_of_mem_eraseP hop), h.reauth⟩

theorem eraseReauthOp (h : Answering s t) (id : OpId) : Answering s (t.eraseReauthOp id) := by
  unfold Client.eraseReauthOp
  split
  · exact h.same rfl rfl rfl
  · rw [timerFree_eq]
    exact ⟨h.session, h.connect, fun op hop => h.reauth op (List.mem_of_mem_eraseP hop)⟩

/-- A completion takes an operation away and leaves the session. -/
theorem opCompleteWith (h : Answering s t) {r : OpRef} {erase : Client → Client}
    (herase : ∀ u, Answering s u → Answering s (erase u)) : Answering s (opCompleteWith r erase t) := by
  unfold Client.opCompleteWith unregisterOp
  by_cases hmem : some r ∈ t.ops
  · rw [if_pos hmem]
    exact herase _ (h.same rfl rfl rfl)
  · rw [if_neg hmem]
    exact h.same rfl rfl rfl

/-- The connect operation is completed with its callback. -/
theorem connectComplete (h : Answering s t) (op : ConnectOp) (status : AsyncOpStatus)
    (response : Option ConnectResponse) : Answering s (t.connectComplete op status response) := by
  have hdone : Answering s (t.opCompleteConnect op.id) := h.opCompleteWith fun _ hu => hu.eraseConnectOp _
  unfold Client.connectComplete
  dsimp only
  split
  · exact hdone.same rfl rfl rfl
  · exact hdone

/-- And a reauthentication. -/
theorem reauthComplete (h : Answering s t) (op : ReauthOp) (status : AsyncOpStatus)
    (response : Option AuthReport) : Answering s (t.reauthComplete op status response) := by
  have hdone : Answering s (t.opCompleteReauth op.id) := h.opCompleteWith fun _ hu => hu.eraseReauthOp _
  unfold Client.reauthComplete
  dsimp only
  split
  · exact hdone.same rfl rfl rfl
  · exact hdone

end Answering

/-- Entries of the error log. -/
theorem Waits.errors (h : Waits ref n s) (hlogs : LogsErrors s t) : Waits ref n t := by
  obtain ⟨texts, counts, rfl⟩ := hlogs
  exact h.same rfl rfl rfl

/-- To build an answer to AUTH writes to the error log only. -/
theorem authResponseProps_logs (env : Env) (texts : AuthTexts) (method : Str) (out : AuthInfo) (s : Client) :
    LogsErrors s (s.authResponseProps env texts method out).1.1 := by
  obtain ⟨hok, hbad⟩ := authResponseProps_built env texts out method s
  by_cases hgood : GoodAnswer env method out
  · rw [hok hgood]
    exact .refl s
  · exact (hbad hgood).2

/-- Whether an answer can be sent does not depend on the texts or on what was logged before. -/
theorem answerFails_of {method : Str} {out : AuthInfo} (texts : AuthTexts)
    (hs : t.sessionState = s.sessionState)
    (h : (t.authResponseProps env texts method out).1.2.isSome = true ∨
      t.authTooLarge env (t.authResponseProps env texts method out).2 = true) :
    s.answerFails env method out = true := by
  unfold Client.answerFails
  dsimp only
  rw [Bool.or_eq_true]
  obtain ⟨hok, -⟩ := authResponseProps_built env texts out method t
  obtain ⟨hok', hbad'⟩ := authResponseProps_built env
    { full := "", reasonTooLong := "", badUserProps := none } out method s
  by_cases hgood : GoodAnswer env method out
  · rw [hok hgood] at h
    rw [hok' hgood]
    refine h.imp id fun h => ?_
    unfold Client.authTooLarge at h ⊢
    rwa [fits_congr (congrArg SessionState.maxSendPacketSize hs)] at h
  · exact Or.inl (hbad' hgood).1

/-- `ConnectOp::handle(AuthMsg&)` of another operation, or without an error. -/
theorem Waits.connectHandleAuth (h : Waits ref n s) {op : ConnectOp} {msg : ReasonMsg} {valid : Bool}
    (reply : AuthReply)
    (hok : (ref == ⟨.connect, op.id⟩ && (connectAuthError env op msg valid).isSome) = false) :
    Waits ref n (s.connectHandleAuth env op msg valid reply) ∧
      Answering s (s.connectHandleAuth env op msg valid reply) := by
  have hdisarmed := h.timerCancel op.timer
  have hsame : Answering s (s.timerCancel op.timer) := (Answering.refl s).same rfl rfl rfl
  unfold Client.connectHandleAuth
  dsimp only
  split
  · rename_i text reason herror
    have hne : ref ≠ ⟨.connect, op.id⟩ := by
      rintro rfl
      rw [herror] at hok
      simp at hok
    have hdone : ∀ t, LogsErrors (s.timerCancel op.timer) t →
        Waits ref n ((t.sendDisconnectMsg env reason).connectComplete op .protocolError none) ∧
          Answering s ((t.sendDisconnectMsg env reason).connectComplete op .protocolError none) :=
      fun t hlogs => ⟨((hdisarmed.errors hlogs).post env _).completed hne op.cb _,
        ((hsame.errors hlogs).post env _).connectComplete _ _ _⟩
    cases text with
    | none => exact hdone _ (.refl _)
    | some text => exact hdone _ ((LogsErrors.refl _).errorLog text)
  -- the application was asked; what follows never completes the operation
  · have hasked := hdisarmed.emit
      (.authCb (authReport env (PropsHandler.ofProps env.cfg (msg.props.getD []))))
    have hsame : Answering s ((s.timerCancel op.timer).emit
        (.authCb (authReport env (PropsHandler.ofProps env.cfg (msg.props.getD []))))) :=
      hsame.same rfl rfl rfl
    split
    · exact ⟨hasked, hsame⟩
    · rename_i out
      have hlogs := authResponseProps_logs env
        { full := "Cannot add connect auth property, reached available limit.",
          reasonTooLong := "Reason string in CONNECT auth info too long", badUserProps := none }
        op.authMethod out ((s.timerCancel op.timer).emit
          (.authCb (authReport env (PropsHandler.ofProps env.cfg (msg.props.getD [])))))
      split
      · exact ⟨hasked.errors hlogs, hsame.errors hlogs⟩
      · have hwaiting : ∀ u, Answering s u → Answering s (u.restartConnectTimer op) :=
          fun u hu => hu.same rfl rfl rfl
        exact ⟨((hasked.errors hlogs).timerWait _ _ _).post env _,
          (hwaiting _ (hsame.errors hlogs)).post env _⟩

/-- The checks of AUTH read the session only. -/
theorem reauthError_congr {msg : ReasonMsg} (h : t.sessionState = s.sessionState) :
    t.reauthError env msg = s.reauthError env msg := by
  unfold reauthError
  rw [h]

/-- The answer to an AUTH of a reauthentication. -/
theorem Waits.reauthAnswer {u : Client} {G : Client → Prop} (h : Waits ref n u) (hsame : Answering s u)
    (texts : AuthTexts) {method : Str} {out : AuthInfo} (op : ReauthOp)
    (hgone : s.answerFails env method out = true → ∀ t, Waits ref n t → ∀ status reason,
      WaitsWhile ref n G (t.reauthGiveUp env op status reason))
    (hG : ∀ t, Answering s t → G t) :
    WaitsWhile ref n G
      (match (u.authResponseProps env texts method out).1.2 with
      | some status =>
        (u.authResponseProps env texts method out).1.1.reauthGiveUp env op status ReasonCode.unspecifiedError
      | none =>
        let resp : ReasonMsg :=
          { reasonCode := some ReasonCode.continueAuth,
            props := some (u.authResponseProps env texts method out).2 }
        let sent := (u.authResponseProps env texts method out).1.1.sendMessage env (.auth resp) none
        if sent.2 ≠ .success then
          (sent.1.errorLog "Failed to send AUTH message in reauth").reauthGiveUp env op
            .outOfMemory ReasonCode.unspecifiedError
        else sent.1.restartReauthTimer op) := by
  have hlogs := authResponseProps_logs env texts method out u
  have hfails : _ → s.answerFails env method out = true := answerFails_of texts hsame.session
  set r := u.authResponseProps env texts method out
  have hbuilt : Waits ref n r.1.1 := h.errors hlogs
  split
  · rename_i status hstatus
    exact hgone (hfails (Or.inl (by rw [hstatus]; rfl))) _ hbuilt _ _
  · dsimp only
    -- an answer that does not fit ends the reauthentication
    cases hfits : r.1.1.fits env (.auth { reasonCode := some ReasonCode.continueAuth, props := some r.2 }) with
    | true =>
      rw [if_neg (by rw [sendMessage_of_fits hfits]; simp)]
      refine ⟨(hbuilt.sendMessage env _ _).timerWait _ _ _, fun _ => hG _ ?_⟩
      have hsent : Answering s (r.1.1.sendMessage env
          (.auth { reasonCode := some ReasonCode.continueAuth, props := some r.2 }) none).1 :=
        (hsame.errors hlogs).post env _
      exact hsent.same rfl rfl rfl
    | false =>
      obtain ⟨text, ec, hec, heq⟩ := sendMessage_error (o := none) hfits
      rw [heq, if_pos hec]
      refine hgone (hfails (Or.inr ?_)) _ ((hbuilt.errorLog text).errorLog _) _ _
      unfold Client.authTooLarge
      rw [Bool.not_eq_true', ← hlogs.fits]
      exact hfits

theorem answerFails_congr {method : Str} {out : AuthInfo} (h : t.sessionState = s.sessionState) :
    t.answerFails env method out = s.answerFails env method out := by
  have hone : ∀ {u v : Client}, v.sessionState = u.sessionState → v.answerFails env method out = true →
      u.answerFails env method out = true := fun hs hfails =>
    answerFails_of _ hs (Bool.or_eq_true_iff.mp hfails)
  rw [Bool.eq_iff_iff]
  exact ⟨hone h, hone h.symm⟩

theorem reauthFails_congr {msg : ReasonMsg} {reply : AuthReply} (h : t.sessionState = s.sessionState) :
    t.reauthFails env msg reply = s.reauthFails env msg reply := by
  unfold Client.reauthFails
  rw [reauthError_congr h, h]
  cases reply with
  | disconnect => rfl
  | «continue» out =>
    dsimp only
    rw [answerFails_congr h]

/-- `ReauthOp::handle(AuthMsg&)`: the last AUTH completes the operation. -/
theorem Waits.reauthHandleAuth {G : Client → Prop} (h : Waits ref n s) {op : ReauthOp} {msg : ReasonMsg}
    {reply : AuthReply}
    (hdone : msg.reasonCode.getD ReasonCode.success = ReasonCode.success → ref ≠ ⟨.reauth, op.id⟩)
    (hok : s.reauthFails env msg reply = true → ref.type = .send ∧ 0 < n)
    (hG : ∀ t, Answering s t → G t) : WaitsWhile ref n G (s.reauthHandleAuth env op msg reply) := by
  have hdisarmed := h.timerCancel op.timer
  have hsame : Answering s (s.timerCancel op.timer) := (Answering.refl s).same rfl rfl rfl
  -- what ends the connection completes the operation first
  have hgone : ∀ t, Waits ref n t → s.reauthFails env msg reply = true → ∀ status reason,
      WaitsWhile ref n G (t.reauthGiveUp env op status reason) := by
    intro t ht hfails status reason
    have hsend := hok hfails
    have hne : ref ≠ ⟨.reauth, op.id⟩ := by
      rintro rfl
      cases hsend.1
    exact .ended ((ht.completed hne op.cb _).terminated hsend _) (terminated_disconnecting _ _ _)
  unfold Client.reauthFails at hgone
  unfold Client.reauthHandleAuth
  dsimp only
  rw [reauthError_congr (show (s.timerCancel op.timer).sessionState = s.sessionState from rfl)]
  split
  · rename_i text herror
    exact hgone _ (hdisarmed.errorLog text) (by rw [herror, Option.isSome_some, Bool.true_or]) _ _
  · split
    · rename_i hcode
      exact ⟨hdisarmed.completed (hdone hcode) op.cb _, fun _ => hG _ (hsame.reauthComplete _ _ _)⟩
    · rename_i hcode
      rw [decide_eq_true hcode, Bool.true_and] at hgone
      have hasked := hdisarmed.emit
        (.authCb (authReport env (PropsHandler.ofProps env.cfg (msg.props.getD []))))
      split
      · exact hgone _ hasked (Bool.or_true _) _ _
      · exact hasked.reauthAnswer (hsame.same rfl rfl rfl) _ op
          (fun hfails t ht => hgone t ht (Bool.or_eq_true_iff.mpr (Or.inr hfails))) hG

/-- AUTH is handed to the connect operation and to the reauthentications. -/
theorem Waits.handleAuth (h : Waits ref n s) {msg : ReasonMsg} {valid : Bool} {reply : AuthReply}
    (hok : s.authLoses env msg valid reply ref = false) :
    Waits ref n (s.handleProtMessage env (.auth msg valid reply)) := by
  unfold Client.authLoses at hok
  rw [Bool.or_eq_false_iff, Bool.or_eq_false_iff] at hok
  obtain ⟨⟨hconnect, hreauth⟩, hfails⟩ := hok
  have hends := h.of_ends hfails
  refine h.handleProtMessage (G := Answering s) (.refl s) fun u r hu hG _ => ?_
  obtain ⟨type, id⟩ := r
  have hfault : ∀ fault, Answering s (u.fault fault) := fun _ => hG.same rfl rfl rfl
  have hnext : ∀ t, Answering u t → Answering s t := fun t ht =>
    ⟨ht.session.trans hG.session, fun op hop => hG.connect op (ht.connect op hop),
      fun op hop => hG.reauth op (ht.reauth op hop)⟩
  cases type
  case connect =>
    refine WaitsWhile.withOp (f := (Client.connectHandleAuth env · msg valid reply)) hu hfault
      fun op hop => ?_
    have hother := List.any_eq_false.mp hconnect op (hG.connect op (Keyed.mem_of_find hop).1)
    rw [Bool.not_eq_true] at hother
    obtain ⟨hwaits, hanswer⟩ := hu.connectHandleAuth reply hother
    exact ⟨hwaits, fun _ => hnext _ hanswer⟩
  case reauth =>
    refine WaitsWhile.withOp (f := (Client.reauthHandleAuth env · msg reply)) hu hfault fun op hop => ?_
    have hmem := hG.reauth op (Keyed.mem_of_find hop).1
    have hother := List.any_eq_false.mp hreauth op hmem
    refine hu.reauthHandleAuth (fun hcode heq => ?_) (fun hf => hends ?_) hnext
    · rw [heq, decide_eq_true hcode] at hother
      simp at hother
    · rw [Bool.and_eq_true, Bool.not_eq_true', List.isEmpty_eq_false_iff]
      exact ⟨List.ne_nil_of_mem hmem, reauthFails_congr hG.session ▸ hf⟩
  case keepAlive => exact .restartRecvTimer hu hfault (fun _ => hG.same rfl rfl rfl) id
  all_goals exact ⟨hu, fun _ => hG⟩

/-! ## Incoming data -/

/-- A message is taken for the operation, or ends a connection that the operation does not outlive. A
CONNACK may do both: the only operation in preparation while a connection is established is the connect
operation itself. -/
def Client.messageLoses (env : Env) (msg : InMsg) (ref : OpRef) (s : Client) : Bool :=
  match msg with
  | .publish m => s.publishEnds env m && !s.stores ref
  | .pubrel m valid => s.pubrelEnds env m valid && !s.stores ref
  | .puback m => s.ackLoses env m.packetId false (s.pubackFails env · m) ref
  | .pubrec m => s.ackLoses env m.packetId false (s.pubrecFails env · m) ref
  | .pubcomp m => s.ackLoses env m.packetId true (s.pubcompFails env · m) ref
  | .connack _ => !s.connectOps.isEmpty
  | .disconnect _ _ => (!s.connectOps.isEmpty || !s.keepAliveOps.isEmpty) && !s.stores ref
  | .auth m valid reply => s.authLoses env m valid reply ref
  | .suback m => s.answersLose env (.suback m) ref
  | .unsuback m => s.answersLose env (.unsuback m) ref
  | .pingresp => false

/-- A piece of input is such a message, or the connection is ended for its size or its form. -/
def Client.frameLoses (env : Env) (frame : InputFrame) (ref : OpRef) (s : Client) : Bool :=
  match frame with
  | .incomplete none => false
  | .incomplete (some len) => s.frameTooLarge len && !s.stores ref
  | .badSize => !s.stores ref
  | .badContent _ => !s.stores ref
  | .complete msg len => if s.frameTooLarge len then !s.stores ref else s.messageLoses env msg ref

/-- A message of any kind. -/
theorem Waits.handle (h : Waits ref n s) (hr : Reg s) (hne : ref.type ≠ .recv) {msg : InMsg}
    (hok : s.messageLoses env msg ref = false) : Waits ref n (s.handle env msg) := by
  cases msg with
  | publish m => exact h.handlePublish hne hok
  | puback m => exact h.handlePuback hr hok
  | pubrec m => exact h.handlePubrec hr hok
  | pubrel m valid => exact h.handlePubrel hne hok
  | pubcomp m => exact h.handlePubcomp hr hok
  | connack m => exact h.handleConnack (List.isEmpty_iff.mp (by simpa [Client.messageLoses] using hok)) m
  | disconnect m valid => exact h.handleDisconnect hok
  | auth m valid reply => exact h.handleAuth hok
  | suback m => exact h.handleSuback hok
  | unsuback m => exact h.handleUnsuback hok
  | pingresp => exact h.handlePingresp

/-- The scope guard of `processData`. -/
theorem Waits.disconnectOnExit (h : Waits ref n s) (hok : ref.type = .send ∧ 0 < n) (reason : ReasonCode) :
    Waits ref n (s.disconnectOnExit env reason) :=
  (h.post env _).brokerDisconnected env hok.1 hok.2 _ _ _

/-- A packet of any kind. -/
theorem Waits.processFrame (h : Waits ref n s) (hr : Reg s) (hne : ref.type ≠ .recv) {frame : InputFrame}
    (hok : s.frameLoses env frame ref = false) : Waits ref n (s.processFrame env frame).1 := by
  have hstored : (!s.stores ref) = false → ref.type = .send ∧ 0 < n := fun hs =>
    h.of_stores (by simpa using hs)
  unfold Client.frameLoses at hok
  unfold Client.processFrame
  cases frame with
  | incomplete len =>
    cases len with
    | none => exact h
    | some len =>
      dsimp only at hok ⊢
      split
      · rename_i hlarge
        rw [hlarge, Bool.true_and] at hok
        exact (h.errorLog _).disconnectOnExit (hstored hok) _
      · exact h
  | badSize => exact h.disconnectOnExit (hstored hok) _
  | badContent len =>
    dsimp only
    split
    · exact (h.errorLog _).disconnectOnExit (hstored hok) _
    · exact (h.errorLog _).disconnectOnExit (hstored hok) _
  | complete msg len =>
    dsimp only at hok ⊢
    split
    · rename_i hlarge
      rw [if_pos hlarge] at hok
      exact (h.errorLog _).disconnectOnExit (hstored hok) _
    · rename_i hlarge
      rw [if_neg hlarge] at hok
      exact h.handle hr hne hok

/-! ## Timeouts -/

/-- An expired timer is that of the operation, or ends the connection or the session. -/
def Client.timeoutLoses (cb : TimeoutCb) (ref : OpRef) (s : Client) : Bool :=
  match cb with
  | .sessionExpiry => ref.type == .send
  | .connectTimeout id => ref == ⟨.connect, id⟩
  | .subscribeTimeout id => ref == ⟨.subscribe, id⟩
  | .unsubscribeTimeout id => ref == ⟨.unsubscribe, id⟩
  | .sendTimeout id => ref == ⟨.send, id⟩
  | .reauthTimeout id => ref == ⟨.reauth, id⟩
  | .keepAliveResp id => (s.keepAliveOp? id).isSome && !s.stores ref
  | .keepAlivePing _ | .keepAliveRecv _ | .recvTimeout _ => false

/-- PINGREQ only concerns the keep alive. -/
theorem Waits.sendPing (h : Waits ref n s) (op : KeepAliveOp) : Waits ref n (s.sendPing env op) := by
  unfold Client.sendPing
  split
  · exact h
  · exact (h.post env _).timerWait _ _ _

/-- The session expires with the publishes and the receptions. -/
theorem Waits.sessionExpiryTimeout (h : Waits ref n s) (hsend : ref.type ≠ .send) (hne : ref.type ≠ .recv) :
    Waits ref n (s.sessionExpiryTimeout env) := by
  refine (h.assert _ _).forEachOp fun r u hu => ?_
  split
  · rename_i hkind
    refine hu.terminateOp env ?_ _
    rintro rfl
    rcases Bool.or_eq_true_iff.mp hkind with htype | htype
    · exact hsend (beq_iff_eq.mp htype)
    · exact hne (beq_iff_eq.mp htype)
  · exact hu

/-- An expired timer of any kind. -/
theorem Waits.handleTimeout (h : Waits ref n s) (hne : ref.type ≠ .recv) {cb : TimeoutCb}
    (hok : s.timeoutLoses cb ref = false) : Waits ref n (s.handleTimeout env cb) := by
  unfold Client.timeoutLoses at hok
  unfold Client.handleTimeout
  cases cb with
  | sessionExpiry => exact h.sessionExpiryTimeout (fun htype => by simp [htype] at hok) hne
  | connectTimeout id =>
    refine h.withOp fun op hop => ?_
    obtain rfl := (Keyed.mem_of_find hop).2
    exact h.completed (beq_eq_false_iff_ne.mp hok) op.cb _
  | keepAlivePing id => exact h.withOp fun op _ => h.sendPing op
  | keepAliveRecv id => exact h.withOp fun op _ => h.sendPing op
  | keepAliveResp id =>
    refine h.withOp fun op hop => ?_
    have hsend := h.of_ends hok (by rw [hop]; rfl)
    exact (((h.errorLog _).assert _ _).post env _).brokerDisconnected env hsend.1 hsend.2 _ _ _
  | subscribeTimeout id =>
    refine h.withOp fun op hop => ?_
    obtain rfl := (Keyed.mem_of_find hop).2
    exact h.completed (beq_eq_false_iff_ne.mp hok) op.cb _
  | unsubscribeTimeout id =>
    refine h.withOp fun op hop => ?_
    obtain rfl := (Keyed.mem_of_find hop).2
    exact h.completed (beq_eq_false_iff_ne.mp hok) op.cb _
  | recvTimeout id =>
    exact h.withOp fun op _ => ((h.assert _ _).errorLog _).opCompleteRecv hne _
  | sendTimeout id =>
    refine h.withOp fun op hop => ?_
    obtain rfl := (mem_of_sendOp? hop).2
    exact h.sendResponseTimeout (beq_eq_false_iff_ne.mp hok)
  | reauthTimeout id =>
    refine h.withOp fun op hop => ?_
    obtain rfl := (Keyed.mem_of_find hop).2
    exact h.completed (beq_eq_false_iff_ne.mp hok) op.cb _

/-! ## Tasks -/

/-- A piece of a call is not survived by the operation: the network is gone, DISCONNECT was sent, the
client is initialised for a new connection, or the input or the expired timer is of the kinds above. The
tasks of its own `send` call come when it is no longer in preparation. -/
def Client.taskLoses (env : Env) (task : Task) (ref : OpRef) (s : Client) : Bool :=
  match task with
  | .timeout cb => s.timeoutLoses cb ref
  | .frames (frame :: _) => s.frameLoses env frame ref
  | .networkDown => !s.sessionState.disconnecting && !s.stores ref
  | .initInternal => ref.type != .send
  | .disconnectSend _ => !s.stores ref
  | .publishDoSend op | .publishAbandon op => ref == ⟨.send, op.id⟩
  | _ => false

theorem Waits.doApiEnter (h : Waits ref n s) (elapsed : Nat) : Waits ref n (s.doApiEnter elapsed).1 := by
  unfold Client.doApiEnter
  dsimp only
  split
  · exact h.same rfl rfl rfl
  · exact h.same rfl rfl rfl

/-- The end of a call removes the null pointers. -/
theorem Waits.doApiExit (h : Waits ref n s) : some ref ∈ s.doApiExit.ops := by
  have hcleaned : ∀ u : Client, some ref ∈ u.ops → some ref ∈ u.cleanOps.ops := by
    intro u hu
    unfold cleanOps
    split
    · exact List.mem_filter.mpr ⟨hu, rfl⟩
    · exact hu
  unfold Client.doApiExit
  dsimp only
  split
  · exact h.mem
  · split
    · exact hcleaned _ h.mem
    · exact hcleaned _ h.mem

/-- A new operation is registered behind the others. -/
theorem Waits.prepareWith (h : Waits ref n s) {checks : List PrepareCheck} {create : Client → Client}
    (hcreate : ∃ r, (create s).ops = s.ops ++ [some r]) :
    some ref ∈ (s.prepareWith checks create).1.ops := by
  unfold Client.prepareWith
  split
  · exact h.mem
  · obtain ⟨r, hr⟩ := hcreate
    show some ref ∈ (create s).ops
    rw [hr]
    exact List.mem_append_left _ h.mem

/-- A timer is started behind the API guard. -/
theorem Waits.startTimer (h : Waits ref n s) (r : OpRef) (timer : Option Nat) (ms : Nat) :
    Waits ref n (s.startTimer r timer ms) := by
  have hgone : ∀ cb, Waits ref n ((s.fault (.useAfterFree .timer)).timerWait timer ms cb) :=
    fun cb => (h.fault _).timerWait _ _ _
  unfold Client.startTimer restartOr
  split
  all_goals try split
  all_goals first
    | exact h
    | exact hgone _
    | exact h.timerWait _ _ _

/-- The initialisation keeps the publishes when they are there to be resumed. -/
theorem Waits.initInternal (h : Waits ref n s) (hsend : ref.type = .send) :
    some ref ∈ (s.initInternal env).1.ops := by
  unfold Client.initInternal
  split
  · exact h.mem
  · split
    · exact h.mem
    · exact (h.terminateOps hsend _).mem

/-- A member function is called for an operation or for what is left of it. -/
theorem onMembers_of {α β : Type} {P : β → Prop} {live : Option α} {gone : α} {f : α → Client → β}
    (hlive : ∀ op, live = some op → P (f op s)) (hgone : P (f gone (s.fault (.useAfterFree .send)))) :
    P (s.onMembers live gone f) := by
  unfold Client.onMembers
  split
  · exact hlive _ rfl
  · exact hgone

/-- The pieces of a call leave an operation in preparation alone that they do not end. -/
theorem Waits.runTask (h : Waits ref n s) (hr : Reg s) (hne : ref.type ≠ .recv) {task : Task}
    (hok : s.taskLoses env task ref = false) : some ref ∈ (s.runTask env task).1.ops := by
  unfold Client.taskLoses at hok
  cases task with
  | enter elapsed => exact (h.doApiEnter elapsed).mem
  | exit => exact h.doApiExit
  | timeout cb => exact (h.handleTimeout hne hok).mem
  | input frames =>
    show some ref ∈ (s.processInput frames).1.ops
    unfold processInput
    dsimp only
    split
    · exact ((h.assert _ _).errorLog _).mem
    · exact (h.assert _ _).mem
  | frames frames =>
    cases frames with
    | nil => exact h.mem
    | cons frame rest => exact (h.processFrame hr hne hok).mem
  -- only a publish of a stored session outlives the connection
  | networkDown =>
    have hdown : Waits ref n { s with clientState := { s.clientState with networkDisconnected := true } } :=
      h.same rfl rfl rfl
    show some ref ∈ (s.networkDown env).ops
    unfold Client.networkDown
    dsimp only
    split
    · exact hdown.mem
    · rename_i hgoing
      have hsend := h.of_ends hok (by rw [Bool.not_eq_true']; exact Bool.eq_false_iff.mpr hgoing)
      exact (hdown.brokerDisconnected env hsend.1 hsend.2 _ _ _).mem
  | initInternal => exact h.initInternal (by simpa using hok)
  | connectPrepare => exact h.prepareWith ⟨⟨.connect, _⟩, rfl⟩
  | startTimer r timer ms => exact (h.startTimer r timer ms).mem
  | disconnectSend op =>
    have hsend := h.of_stores (by simpa using hok)
    have hsent : ∀ x u, Waits ref n u → some ref ∈ (u.disconnectSend env x).ops := by
      intro x u hu
      have hother : ref ≠ ⟨.disconnect, x.id⟩ := by
        rintro rfl
        cases hsend.1
      exact (((hu.post env _).completeRef hother).brokerDisconnected env hsend.1 hsend.2 _ _ _).mem
    exact onMembers_of (P := fun u : Client => some ref ∈ u.ops) (fun x _ => hsent x s h)
      (hsent op _ (h.fault _))
  -- QoS 0 completes the publish that is sent, and no other
  | publishDoSend op =>
    have hother : ref ≠ ⟨.send, op.id⟩ := beq_eq_false_iff_ne.mp hok
    have hsent : Waits ref n (s.onMembers (s.sendOp? op.id) op (Client.sendOpDoSend env)).1 := by
      refine onMembers_of (P := fun r : Client × ErrorCode => Waits ref n r.1) (fun x hx => ?_)
        ((h.fault _).sendOpDoSend hother)
      exact h.sendOpDoSend ((mem_of_sendOp? hx).2 ▸ hother)
    show some ref ∈ (s.publishDoSend env op).1.ops
    unfold Client.publishDoSend
    dsimp only
    split
    · exact hsent.mem
    · exact hsent.mem
  | publishAbandon op =>
    have hother : ref ≠ ⟨.send, op.id⟩ := beq_eq_false_iff_ne.mp hok
    have hdone : Waits ref n (s.onMembers (s.sendOp? op.id) op (Client.sendOpComplete env)) := by
      refine onMembers_of (fun x hx => ?_) ((h.fault _).sendOpComplete hother)
      exact h.sendOpComplete ((mem_of_sendOp? hx).2 ▸ hother)
    exact hdone.mem
  | ret ec => exact h.mem

end Mqtt5
