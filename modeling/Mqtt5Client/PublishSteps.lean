import Mqtt5Client.Completion
import Mqtt5Client.Macro

/-!
# Mqtt5Client — the functions on publishes as steps

Completion, the first transmission by `send`, retransmission, the end of the connection and the
acknowledgement handlers. The hypotheses about the guard are what a caller has to know.
-/

namespace Mqtt5

open Client

variable {env : Env} {G : Guard} {a : Bool} {b : Scope} {s t u : Client} {op op' : SendOp}

/-! ## Rules -/

/-- A publish that is looked at after steps that do not concern it. -/
theorem Client.Frame.toSet (h : Frame a b s t) (hr : Reg s) (hop : op ∈ s.sendOps) :
    Eff a b s t (s.view.setOp op) [] := by
  have hself : s.view.setOp op = s.view := PubView.setOp_self hr.distinct hop
  rw [hself]
  exact h.toEff

/-- Steps on states with a registry. -/
theorem MacroRun.bind (hr : Reg s) (h : MacroRun env G a b s t)
    (h' : Reg t → MacroRun env G a b t u) : MacroRun env G a b s u :=
  h.trans (h' (MacroRun.reg h hr))

/-- A loop of steps. -/
theorem MacroRun.foldl {α : Type} {f : Client → α → Client}
    (hf : ∀ s x, Reg s → MacroRun env G a b s (f s x)) (l : List α) (hr : Reg s) :
    MacroRun env G a b s (l.foldl f s) := by
  induction l generalizing s with
  | nil => exact .refl
  | cons x xs ih => exact .bind hr (hf s x hr) fun hr' => ih hr'

/-- A loop over `m_ops`. -/
theorem MacroRun.forEachOp {f : OpRef → Client → Client}
    (hf : ∀ s ref, some ref ∈ s.ops → Reg s → MacroRun env G a b s (f ref s)) (hr : Reg s) :
    MacroRun env G a b s (s.forEachOp f) := by
  refine MacroRun.foldl (fun s idx hr => ?_) _ hr
  unfold visitOp
  split
  · rename_i hget
    exact hf _ _ (List.mem_of_getElem? hget) hr
  · exact .refl

/-- Use of an operation behind a pointer. -/
theorem MacroRun.withOp {α : Type} {x : Option α} {site : Site} {f : α → Client → Client}
    (hf : ∀ y, x = some y → MacroRun env G a b s (f y s)) :
    MacroRun env G a b s (s.withOp x site f) := by
  unfold Client.withOp
  split
  · exact .frame ((Frame.refl a b s).fault _ rfl)
  · exact hf _ rfl

/-- Use of a publish behind a pointer. -/
theorem MacroRun.withSendOp {id : OpId} {site : Site} {f : SendOp → Client → Client}
    (hf : ∀ op ∈ s.sendOps, op.id = id → MacroRun env G a b s (f op s)) :
    MacroRun env G a b s (s.withOp (s.sendOp? id) site f) :=
  .withOp fun op hop => hf op (mem_of_sendOp? hop).1 (mem_of_sendOp? hop).2

/-! ## Completion -/

/-- A publish that was updated is completed without a report. -/
theorem sendOpComplete_run {x : SendOp} (hr : Reg s) (hop : op ∈ s.sendOps) (hG : G.leave s op)
    (h : Eff a b s t (s.view.setOp x) []) (hx : x.id = op.id) (hid : op'.id = op.id)
    (hpubx : x.published = op.published) (hpub : op'.published = op.published) :
    MacroRun env G a b s (t.sendOpComplete env op') := by
  obtain ⟨u, hu, hue, -⟩ := erase_eff (resumeSendOpsSince env) hr hop h hx hid hpubx hpub
  unfold sendOpComplete
  rw [hu]
  exact .single (.finish op hop hG (.erase hue))

/-- A publish that was updated is completed, and its callback is called. -/
theorem sendOpCompleteWithCb_run {x : SendOp} (hr : Reg s) (hop : op ∈ s.sendOps)
    (hG : G.leave s op) (h : Eff a b s t (s.view.setOp x) []) (hx : x.id = op.id)
    (hid : op'.id = op.id) (hpubx : x.published = op.published)
    (hpub : op'.published = op.published) (status : AsyncOpStatus) (response : Option PublishResponse) :
    MacroRun env G a b s (t.sendOpCompleteWithCb env op' status response) := by
  have hrun : MacroRun env G a b s (t.sendOpComplete env op') :=
    sendOpComplete_run hr hop hG h hx hid hpubx hpub
  exact hrun.trans (MacroRun.report _ _ _ _)

/-- Completion of a publish that is as it was. -/
theorem sendOpCompleteWithCb_run' (hr : Reg s) (hop : op ∈ s.sendOps) (hG : G.leave s op)
    (h : Frame a b s t) (status : AsyncOpStatus) (response : Option PublishResponse) :
    MacroRun env G a b s (t.sendOpCompleteWithCb env op status response) :=
  sendOpCompleteWithCb_run hr hop hG (h.toSet hr hop) rfl rfl rfl rfl status response

/-- The `send` call sends a publish: it succeeds or leaves the publish to be completed. -/
theorem sendOpDoSend_run (hr : Reg s) (hop : op ∈ s.sendOps) (hG : G.leave s op)
    (hfirst : G.first s op) (hpaused : op.paused = false) (hpub : op.published = false)
    (hsent : op.sent = true) : MacroRun env G a b s (s.sendOpDoSend env op).1 := by
  have hself : { op with paused := false } = op := by rw [← hpaused]
  suffices h : MacroRun env G a b s (s.sendOpDoSend env { op with paused := false }).1 by
    rwa [hself] at h
  have hbegin : Eff a b s s (s.view.setOp { op with paused := false }) [] := by
    rw [hself]
    exact (Frame.refl a b s).toSet hr hop
  have hwhy : Why G.plain s op := Or.inr ⟨hpaused, hpub, hsent, hfirst⟩
  unfold sendOpDoSend
  cases hfits : s.fits env (.publish op.pubMsg) with
  | false =>
    obtain ⟨-, heff⟩ := doSend_of_not_fits (resumeSendOpsSince env) hr hop hbegin hfits
    exact .micro (.rewind op hop hpaused hfirst (hpaused ▸ heff))
  | true =>
    obtain ⟨u, hu, -, heq⟩ := doSend_sent (resumeSendOpsSince env) hr hop hpub hbegin hfits
    rw [heq]
    by_cases hqos : op.qos = .atMostOnceDelivery
    · rw [if_pos hqos]
      obtain ⟨w, hw, hwe⟩ := deliver_eff (resumeSendOpsSince env)
        (y := { op with paused := false, published := true }) hr hop hu rfl rfl rfl rfl
      unfold SendOp.completeWithCb
      dsimp only
      rw [hw]
      exact (Relation.ReflTransGen.single
        (.finish op hop hG (.deliver hwhy hqos hfits hwe))).trans (MacroRun.report _ _ _ _)
    · rw [if_neg hqos]
      exact .micro (.transmit op hop hwhy hqos hfits
        (hu.restartTimer (List.mem_map.mpr ⟨op, hop, rfl⟩) rfl rfl))

/-! ## Retransmission -/

/-- A retransmission, or the completion after the last attempt. -/
theorem resendDupMsg_run (hr : Reg s) (hop : op ∈ s.sendOps) (hG : G.leave s op)
    (hdup : op.sendAttempts < op.totalSendAttempts → G.dup s op) (hf : Frame a b s t) :
    MacroRun env G a b s (t.resendDupMsg env op) := by
  have hd := hr.distinct
  have hmem : op.id ∈ s.view.sendOps.map SendOp.id := List.mem_map.mpr ⟨op, hop, rfl⟩
  unfold resendDupMsg
  split
  · exact sendOpCompleteWithCb_run' hr hop hG (hf.errorLog _) _ _
  · have hdup := hdup (by omega)
    have hfa := hf.assert .resendDupMsg op.published rfl
    set t₁ := t.assert .resendDupMsg op.published
    dsimp only
    have hset := hfa.toSet hr hop
    cases hacked : op.acked with
    | false =>
      rw [if_pos (show (!false) = true from rfl)]
      have h₁ : Eff a b s
          (t₁.modifySendOp op.id ({ · with pubMsg := { op.pubMsg with dup := true } }))
          (s.view.setOp { op with pubMsg := { op.pubMsg with dup := true } }) [] :=
        hset.modify hd hmem rfl rfl ⟨rfl, rfl, rfl, rfl, fun _ => rfl, rfl⟩
      set t₂ := t₁.modifySendOp op.id ({ · with pubMsg := { op.pubMsg with dup := true } })
      cases hfits : t₂.fits env (.publish { op.pubMsg with dup := true }) with
      | false =>
        obtain ⟨hec, hframe⟩ := sendMessage_of_not_fits (a := a) (b := b) hfits
          (o := some op.source)
        rw [if_pos hec]
        exact sendOpCompleteWithCb_run hr hop hG (h₁.frame (hframe.errorLog _)) rfl rfl rfl rfl _ _
      | true =>
        have h₂ := h₁.trans (sendMessage_eff (a := a) (b := b) (o := some op.source) rfl hfits)
        rw [h₁.view] at h₂
        have hec : ¬(t₂.sendMessage env (.publish { op.pubMsg with dup := true })
            (some op.source)).2 ≠ .success := by
          rw [sendMessage_of_fits hfits]
          simp
        rw [if_neg hec]
        have h₃ := (Eff.modify (v := s.view.push (.output (.publish { op.pubMsg with dup := true })
            (some op.source))) (f := ({ · with sendAttempts := op.sendAttempts + 1 })) h₂ hd hmem
            rfl rfl ⟨rfl, rfl, rfl, rfl, fun _ => rfl, rfl⟩)
        have h₄ := h₃.restartTimer (y := op) hmem rfl rfl
        exact .micro (.dup op hop hdup hacked h₄)
    | true =>
      rw [if_neg (show ¬(!true) = true from by decide)]
      have hfb := hfa.assert .resendDupMsg (decide (op.qos = .exactlyOnceDelivery)) rfl
      set t₂ := t₁.assert .resendDupMsg (decide (op.qos = .exactlyOnceDelivery))
      cases hfits : t₂.fits env (.pubrel { packetId := op.packetId }) with
      | false =>
        obtain ⟨hec, hframe⟩ := sendMessage_of_not_fits (a := a) (b := b) hfits
          (o := some op.source)
        rw [if_pos hec]
        exact sendOpCompleteWithCb_run' hr hop hG (hfb.trans (hframe.errorLog _)) _ _
      | true =>
        have hset' := hfb.toSet hr hop
        have h₂ := hset'.trans
          (sendMessage_eff (a := a) (b := b) (o := some op.source) rfl hfits)
        rw [hset'.view] at h₂
        have hec : ¬(t₂.sendMessage env (.pubrel { packetId := op.packetId })
            (some op.source)).2 ≠ .success := by
          rw [sendMessage_of_fits hfits]
          simp
        rw [if_neg hec]
        have h₃ := (Eff.modify (v := s.view.push (.output (.pubrel { packetId := op.packetId })
            (some op.source))) (f := ({ · with sendAttempts := op.sendAttempts + 1 })) h₂ hd hmem
            rfl rfl ⟨rfl, rfl, rfl, rfl, fun _ => rfl, rfl⟩)
        have h₄ := h₃.restartTimer (y := op) hmem rfl rfl
        exact .micro (.pubrelDup op hop hdup hacked h₄)

/-! ## The end of the connection -/

/-- What a function has to know that may end the connection. -/
structure Guard.Ends (G : Guard) : Prop where
  leave : ∀ s op, op ∈ s.sendOps → G.leave s op
  disconnecting : ∀ s, G.session s .disconnecting

/-- An operation is told of the end. -/
theorem terminateOp_run (hleave : ∀ s op, op ∈ s.sendOps → G.leave s op) (hr : Reg s)
    (status : AsyncOpStatus) {ref : OpRef} (href : some ref ∈ s.ops)
    (hE : ref.type = .keepAlive → b.Ends) :
    MacroRun env G a b s (s.terminateOp env status ref) := by
  by_cases hs : ref.type = .send
  · unfold terminateOp
    rw [hs]
    dsimp only
    exact .withSendOp fun op hop _ =>
      sendOpCompleteWithCb_run' hr hop (hleave s op hop) (Frame.refl a b s) _ _
  · exact .frame ((Frame.refl a b s).terminateOp env status hs hE href)

/-- All operations are told of the end, those of a stored session apart. -/
theorem terminateOps_run [b.Ends] (hG : G.Ends) (hr : Reg s) (status : AsyncOpStatus) (keep : Bool) :
    MacroRun env G a b s (s.terminateOps env status keep) := by
  refine .forEachOp (fun s ref href hr => ?_) hr
  split
  · exact .refl
  · exact terminateOp_run hG.leave hr status href fun _ => inferInstance

/-- The bookkeeping of a change of `m_connected`. -/
theorem Client.Frame.connectivity [b.Ends] (h : Frame a b s t) (up : Bool) :
    Frame a b s (t.emit (.connectivity up)) := by
  refine h.update (.of_eq ?_ rfl rfl rfl rfl rfl fun h => h) (.emit _ rfl)
    (Act.allowed_of rfl fun _ => Scope.Ends.connectivity up)
  simp [Client.view, Client.emit, Event.isPub]

/-- Leaving the connection touches no publish. -/
theorem leaveConnection_frame [b.Ends] : Frame a b s s.leaveConnection := by
  unfold leaveConnection
  split
  · exact (Frame.refl a b s).connectivity false
  · exact .refl a b s

/-- What publishes see of the mark. -/
theorem markDisconnecting_eff [b.Ends] :
    Eff a b s s.markDisconnecting (SessionStep.disconnecting.apply s.view) [] := by
  have hf : Frame a b s s.leaveConnection := leaveConnection_frame
  refine hf.eff ?_
  rw [← hf.view]
  refine ⟨⟨rfl, fun _ h => Or.inr h, Nat.le_refl _, fun _ => .of_ops rfl rfl (fun _ h => h) fun h => h⟩, ?_⟩
  have h₁ : ∀ s : Client, Acts a b s
      { s with clientState := { s.clientState with initialized := false } } := fun s =>
    .of (.status false s.clientState.firstConnect) (Act.allowed_of rfl fun _ => Scope.Ends.session)
  exact (h₁ _).tail ⟨_, Act.allowed_of rfl fun _ => Scope.Ends.session,
    .session ({ · with connected := false, disconnecting := true })⟩

/-- The whole end of the connection. -/
theorem brokerDisconnected_run [b.Ends] (hG : G.Ends) (hr : Reg s)
    (reason : Option BrokerDisconnectReason) (status : AsyncOpStatus) (info : Option DisconnectInfo) :
    MacroRun env G a b s (s.brokerDisconnected env reason status info) := by
  have h₁ : MacroRun env G a b s s.markDisconnecting :=
    .micro (.session .disconnecting (hG.disconnecting s) markDisconnecting_eff)
  have h₂ : MacroRun env G a b s
      (s.markDisconnecting.terminateOps env status s.preserveSendRecv) :=
    h₁.bind hr fun hr' => terminateOps_run hG hr' status _
  unfold brokerDisconnected
  dsimp only
  have h₃ : ∀ t, Reg t → MacroRun env G a b t (t.forEachOp connectivityChanged).startSessionExpiry :=
    fun t _ => .frame ((Frame.forEachOp (fun ref t _ => (Frame.refl a b t).connectivityChanged ref)
      (Frame.refl a b t)).startSessionExpiry)
  have h₄ : MacroRun env G a b s (if s.preserveSendRecv = true then
      ((s.markDisconnecting.terminateOps env status s.preserveSendRecv).forEachOp
        connectivityChanged).startSessionExpiry
      else s.markDisconnecting.terminateOps env status s.preserveSendRecv) := by
    split
    · exact h₂.bind hr (h₃ _)
    · exact h₂
  split
  · exact h₄
  · exact h₄.trans (MacroRun.frame ((Frame.refl a b _).disconnectReport _ _))

/-- A run that may come to the end of the connection; nothing follows it. The end is reported by runs
that may hand over messages. -/
inductive EndRun (env : Env) (G : Guard) (a : Bool) (b : Scope) (s t : Client) : Prop
  | goes (h : MacroRun env G a b s t)
  | ends (u : Client) (reason : Option BrokerDisconnectReason) (status : AsyncOpStatus)
      (info : Option DisconnectInfo) (h : MacroRun env G a b s u) (hreason : reason = none ∨ b.Talks)
      (ht : t = u.brokerDisconnected env reason status info)

theorem EndRun.refl : EndRun env G a b s s := .goes .refl

theorem EndRun.frame (h : Frame a b s t) : EndRun env G a b s t := .goes (.frame h)

theorem EndRun.micro (h : Micro env G.plain a b s t) : EndRun env G a b s t := .goes (.micro h)

/-- The end of the connection comes last. -/
theorem EndRun.after (h : MacroRun env G a b s t) (h' : EndRun env G a b t u) :
    EndRun env G a b s u := by
  cases h' with
  | goes h' => exact .goes (h.trans h')
  | ends v reason status info h' hreason ht =>
    exact .ends v reason status info (h.trans h') hreason ht

/-- A run between states with a registry, and then one that may end. -/
theorem EndRun.bind (hr : Reg s) (h : MacroRun env G a b s t)
    (h' : Reg t → EndRun env G a b t u) : EndRun env G a b s u :=
  .after h (h' (MacroRun.reg h hr))

/-- Where the end of the connection is admitted it is a part of the run. -/
theorem EndRun.run [b.Ends] (h : EndRun env G a b s t) (hG : G.Ends) (hr : Reg s) :
    MacroRun env G a b s t := by
  cases h with
  | goes h => exact h
  | ends u reason status info h _ ht =>
    rw [ht]
    exact h.bind hr fun hr' => brokerDisconnected_run hG hr' reason status info

/-- Use of an operation behind a pointer. -/
theorem EndRun.withOp {α : Type} {x : Option α} {site : Site} {f : α → Client → Client}
    (hf : ∀ y, x = some y → EndRun env G a b s (f y s)) :
    EndRun env G a b s (s.withOp x site f) := by
  unfold Client.withOp
  split
  · exact .frame ((Frame.refl a b s).fault _ rfl)
  · exact hf _ rfl

/-- A frame, and then the end of the connection. -/
theorem brokerDisconnected_end [b.Talks] (hf : Frame a b s t) (reason : Option BrokerDisconnectReason)
    (status : AsyncOpStatus) (info : Option DisconnectInfo) :
    EndRun env G a b s (t.brokerDisconnected env reason status info) :=
  .ends t reason status info (.frame hf) (Or.inr inferInstance) rfl

/-- DISCONNECT is sent with a reason before the end. -/
theorem terminationWithReason_end [b.Talks] (hf : Frame a b s t) (reason : ReasonCode) :
    EndRun env G a b s (t.terminationWithReason env reason) := by
  unfold terminationWithReason
  exact brokerDisconnected_end (hf.sendDisconnectMsg env reason) _ _ _

/-- The end because of a protocol error. -/
theorem protocolErrorTermination_end [b.Talks] (hf : Frame a b s t) :
    EndRun env G a b s (t.protocolErrorTermination env) :=
  terminationWithReason_end hf _

/-- The end when the data was looked at. -/
theorem disconnectOnExit_end [b.Talks] (hf : Frame a b s t) (reason : ReasonCode) :
    EndRun env G a b s (t.disconnectOnExit env reason) := by
  unfold disconnectOnExit
  exact brokerDisconnected_end (hf.sendDisconnectMsg env reason) _ _ _

/-- The expiry of the session completes what is stored. -/
theorem sessionExpiryTimeout_run (hleave : ∀ s op, op ∈ s.sendOps → G.leave s op) (hr : Reg s) :
    MacroRun env G a b s (s.sessionExpiryTimeout env) := by
  have hf : Frame a b s (s.assert .sessionExpiry (!s.sessionState.connected)) :=
    (Frame.refl a b s).assert _ _ rfl
  refine .bind hr (.frame hf) fun hr' => .forEachOp (fun s ref href hr => ?_) hr'
  split
  · rename_i hkind
    refine terminateOp_run hleave hr _ href fun htype => ?_
    rw [OpRef.isSendRecv, htype] at hkind
    cases hkind
  · exact .refl

/-! ## Acknowledgements -/

/-- The early return of an acknowledgement handler. -/
theorem ackProtocolError_end [b.Talks] (hleave : ∀ s op, op ∈ s.sendOps → G.leave s op) (hr : Reg s)
    (hop : op ∈ s.sendOps) (hf : Frame a b s t) (msg : String) :
    EndRun env G a b s (t.ackProtocolError env op msg) :=
  .after (sendOpCompleteWithCb_run' hr hop (hleave s op hop) (hf.errorLog msg) _ _)
    (protocolErrorTermination_end (.refl a b _))

end Mqtt5
