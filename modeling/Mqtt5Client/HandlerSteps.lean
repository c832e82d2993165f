import Mqtt5Client.PublishCalls

/-!
# Mqtt5Client — the handlers of the other messages as steps

Everything an incoming message does besides CONNACK and the acknowledgements of publishes: receptions,
responses, AUTH, DISCONNECT and PINGRESP. What they do to publishes is what the end of the connection
does to them.
-/

namespace Mqtt5

open Client

variable {env : Env} {G : Guard} {a : Bool} {b : Scope} {s t u : Client} {op : SendOp}

/-! ## Receptions -/

section Reception

variable (hb : Recv.Le .goes b)

include hb in
theorem Client.Frame.setPacketId (h : Frame a b s t) (id : OpId) (pid : Nat) :
    Frame a b s (t.modifyRecvOp id ({ · with packetId := pid })) :=
  h.update (.of_eq rfl rfl rfl rfl rfl rfl fun h => h) (.setRecv id pid) (Act.allowed_of rfl fun _ => hb _ rfl)

/-- A timer is owned by a live reception. -/
theorem Client.Live.of_owns {timer : Option Nat} {id : OpId} (h : t.owns timer (.recvTimeout id)) :
    t.Live ⟨.recv, id⟩ := by
  obtain ⟨x, hx, rfl, -⟩ := h
  exact .recv hx

/-- A reception keeps its response timer. -/
theorem Client.owns_modifyRecvOp {timer : Option Nat} {id id' : OpId} {pid : Nat}
    (h : t.owns timer (.recvTimeout id)) :
    (t.modifyRecvOp id' ({ · with packetId := pid })).owns timer (.recvTimeout id) := by
  obtain ⟨x, hx, hid, htimer⟩ := h
  refine ⟨_, List.mem_map.mpr ⟨x, hx, rfl⟩, ?_⟩
  split
  · exact ⟨hid, htimer⟩
  · exact ⟨hid, htimer⟩

/-- Resolving an alias leaves the receptions. -/
theorem owns_resolveRecvTopic {topic topic' : Str} {aliasId : Option Nat} {timer : Option Nat}
    {id : OpId} (h : t.resolveRecvTopic topic aliasId = .ok (topic', u))
    (howns : t.owns timer (.recvTimeout id)) : u.owns timer (.recvTimeout id) := by
  unfold Client.resolveRecvTopic at h
  split at h
  · cases h
    exact howns
  · split at h
    · cases h
    · split at h
      · cases h
        exact howns
      · split at h
        · cases h
        · cases h
        · cases h
          exact howns

include hb

/-- A message is reported, or refused when it cannot be, and acknowledged. -/
theorem reportRecvPublish_end [b.Talks] (hf : Frame a b s t) {op : RecvOp}
    (hop : t.owns op.responseTimer (.recvTimeout op.id)) (qos : Qos) (msg : RecvPublishMsg)
    (info : MessageInfo) : EndRun env G a b s (t.reportRecvPublish env op qos msg info) := by
  have he : Frame a b s (t.emit (.messageReceived info)) := by
    refine hf.update (.of_eq ?_ rfl rfl rfl rfl rfl fun h => h) (.report info)
      (Act.allowed_of rfl fun _ => hb _ rfl)
    simp [Client.view, Client.emit, Event.isPub]
  unfold reportRecvPublish
  split
  · exact .frame (he.opCompleteRecv (.of_owns hop))
  · exact terminationWithReason_end (hf.assert _ _ rfl) _
  · exact .frame ((he.post env rfl (by trivial)).opCompleteRecv ((SameOps.post env _ _).live (.of_owns hop)))
  · rename_i pid _
    refine .frame (((Frame.setPacketId hb he _ _).post env rfl (by trivial)).restartRecvOpTimer ?_)
    rw [post_eq]
    exact owns_modifyRecvOp (t := t.emit (.messageReceived info)) hop

/-- The checks of `RecvOp::handle` behind the allocation of the reception. -/
theorem recvPublish_end (hf : Frame a b s t) {op : RecvOp}
    (hop : t.owns op.responseTimer (.recvTimeout op.id)) (qos : Qos) (msg : RecvPublishMsg)
    (ht : (qos = .atMostOnceDelivery ∧ t.sessionState.connected = false) ∨ b.Talks) :
    EndRun env G a b s (t.recvPublish env op qos msg) := by
  unfold recvPublish
  dsimp only
  split
  · rename_i hlimit
    have : b.Talks := ht.resolve_left fun h => hlimit.1 h.1
    exact terminationWithReason_end hf _
  · split
    · exact .frame ((hf.errorLog _).completeNotAuthorized env (.of_owns hop) (ht.imp_left And.left) _)
    · rename_i hcon
      have : b.Talks := ht.resolve_left fun h => hcon (by rw [h.2]; rfl)
      have hq : Quiet b t
          (if msg.topic = [] then (t, true) else t.verifyPubTopic env msg.topic false).1 := by
        split
        · exact .refl t
        · exact (Quiet.refl t).verifyPubTopic env _ _
      have hv := hf.trans hq.frame
      have hownsv : (if msg.topic = [] then (t, true) else
          t.verifyPubTopic env msg.topic false).1.owns op.responseTimer (.recvTimeout op.id) := by
        rw [hq.eq]
        exact hop
      set v := if msg.topic = [] then (t, true) else t.verifyPubTopic env msg.topic false
      split
      · exact protocolErrorTermination_end (hv.errorLog _)
      · split
        · exact protocolErrorTermination_end (hv.errorLog _)
        · split
          · exact protocolErrorTermination_end (hv.errorLog _)
          · split
            · exact terminationWithReason_end (hv.errorLog _) _
            · rename_i hres
              have hw := hv.resolveRecvTopic (hb _ rfl) hres
              have hownsw := owns_resolveRecvTopic hres hownsv
              split
              · exact .frame ((hw.errorLog _).completeNotAuthorized env (.of_owns hownsw)
                  (Or.inr this) _)
              · exact reportRecvPublish_end hb hw hownsw _ _ _

/-- `RecvOp::handle(PublishMsg&)` of a new reception. -/
theorem recvOpHandlePublish_end (hf : Frame a b s t) {op : RecvOp}
    (hop : t.owns op.responseTimer (.recvTimeout op.id)) (msg : RecvPublishMsg)
    (ht : (msg.qos = some .atMostOnceDelivery ∧ t.sessionState.connected = false) ∨ b.Talks) :
    EndRun env G a b s (t.recvOpHandlePublish env op msg) := by
  unfold recvOpHandlePublish
  split
  · rename_i hqos
    have : b.Talks := ht.resolve_left fun h => by rw [h.1] at hqos; cases hqos
    exact protocolErrorTermination_end (hf.errorLog _)
  · rename_i qos hqos
    split
    · rename_i htwo
      have : b.Talks := ht.resolve_left fun h => by
        rw [h.1, Option.some.injEq] at hqos
        exact absurd (hqos.trans htwo.1) (by simp)
      split
      · exact .frame hf
      · refine .frame (((hf.assert _ _ rfl).post env rfl (by trivial)).restartRecvOpTimer ?_)
        rw [post_eq]
        unfold Client.assert
        split <;> exact hop
    · refine recvPublish_end hb hf hop _ _ (ht.imp_left fun h => ⟨?_, h.2⟩)
      rw [h.1, Option.some.injEq] at hqos
      exact hqos.symm

end Reception

/-- A PUBLISH begins a reception, unless the list of receptions is full or has its identifier. -/
def beginsReception (env : Env) (msg : RecvPublishMsg) (s : Client) : Bool :=
  !s.sessionState.disconnecting &&
    (decide (msg.qos = some .atMostOnceDelivery ∨ msg.qos = some .atLeastOnceDelivery) ||
      (s.recvOps.find? (·.packetId == msg.packetId.getD 0)).isNone) &&
    !isFull env.cfg.recvOpsLimit s.recvOps.length

/-- A PUBLISH is not answered: the connection ends, or the message asks for no answer while the client
is not connected. -/
def Client.mutesPublish (env : Env) (msg : RecvPublishMsg) (s : Client) : Bool :=
  s.sessionState.disconnecting ||
    (decide (msg.qos = some .atMostOnceDelivery) && !s.sessionState.connected &&
      !isFull env.cfg.recvOpsLimit s.recvOps.length)

/-- The live reception a PUBLISH repeats. -/
def Client.repeated (msg : RecvPublishMsg) (s : Client) : Option RecvOp :=
  if msg.qos = some .atMostOnceDelivery ∨ msg.qos = some .atLeastOnceDelivery then none
  else s.recvOps.find? (·.packetId == msg.packetId.getD 0)

/-- A new reception owns its timer, and nothing of the session has changed. -/
theorem registerRecvOp_owns (env : Env) (s : Client) :
    (s.registerRecvOp env).owns (s.timerAlloc env).2 (.recvTimeout s.nextOpId) ∧
      (s.registerRecvOp env).sessionState = s.sessionState := by
  have hn : ((s.timerAlloc env).1.assert .timer (s.timerAlloc env).2.isSome).nextOpId =
      s.nextOpId := (SameOps.timerAlloc env s _).nextOpId
  constructor
  · refine ⟨_, List.mem_append_right _ List.mem_cons_self, ?_, rfl⟩
    exact hn
  · unfold registerRecvOp Client.assert
    dsimp only
    split <;> rfl

variable (env) in
/-- What is done before and after the reception is there. -/
theorem createRecvOp_end (hf : Frame a b s t) (msg : RecvPublishMsg)
    (hb : isFull env.cfg.recvOpsLimit t.recvOps.length = false → Recv.Le .goes b)
    (ht : (msg.qos = some .atMostOnceDelivery ∧ t.sessionState.connected = false ∧
      isFull env.cfg.recvOpsLimit t.recvOps.length = false) ∨ b.Talks) :
    if isFull env.cfg.recvOpsLimit t.recvOps.length then
      EndRun env G a b s (t.createRecvOp env msg)
    else EndRun env G a b (t.registerRecvOp env) (t.createRecvOp env msg) := by
  have hnew := registerRecvOp_owns env t
  have hn : ((t.timerAlloc env).1.assert .timer (t.timerAlloc env).2.isSome).nextOpId =
      t.nextOpId := (SameOps.timerAlloc env t _).nextOpId
  unfold createRecvOp
  split
  · rename_i hfull
    have : b.Talks := ht.resolve_left fun h => by rw [hfull] at h; cases h.2.2
    exact brokerDisconnected_end ((hf.errorLog _).sendDisconnectMsg env _) _ _ _
  · rename_i hfull
    dsimp only
    refine recvOpHandlePublish_end (hb (Bool.eq_false_iff.mpr hfull)) (Frame.refl a b _) ?_ _
      (ht.imp_left fun h => ⟨h.1, ?_⟩)
    · dsimp only
      rw [hn]
      exact hnew.1
    · exact (congrArg SessionState.connected hnew.2).trans h.2.1

variable (env) in
/-- The reception a PUBLISH begins is created at once. -/
theorem handlePublish_begins (msg : RecvPublishMsg)
    (hb : beginsReception env msg s = true → Recv.Le .goes b)
    (ht : s.mutesPublish env msg = true ∨ b.Talks)
    (hd : ∀ op, s.repeated msg = some op → msg.dup = true →
      b.admits (.disarm (.recvTimeout op.id)) = true) :
    if beginsReception env msg s then
      EndRun env G a b (s.keepAliveMessageReceived.registerRecvOp env) (s.handlePublish env msg)
    else EndRun env G a b s (s.handlePublish env msg) := by
  have hf : Frame a b s s.keepAliveMessageReceived := (Frame.refl a b s).keepAliveMessageReceived
  have hops : s.keepAliveMessageReceived.recvOps = s.recvOps := by
    rw [keepAliveMessageReceived_eq]
  have hsession : s.keepAliveMessageReceived.sessionState = s.sessionState := by
    rw [keepAliveMessageReceived_eq]
  have hcreate := createRecvOp_end (G := G) env hf msg
  rw [hops, hsession] at hcreate
  unfold handlePublish
  unfold beginsReception at hb ⊢
  unfold Client.mutesPublish at ht
  unfold Client.repeated at hd
  -- the handler looks at the flag first, then at the QoS, then for a reception
  cases hdis : s.sessionState.disconnecting with
  | true => exact .refl
  | false =>
    rw [hdis, Bool.not_false, Bool.true_and] at hb
    rw [hdis, Bool.false_or, Bool.and_eq_true, Bool.and_eq_true, decide_eq_true_eq,
      Bool.not_eq_true', Bool.not_eq_true', and_assoc] at ht
    rw [Bool.not_false, Bool.true_and, if_neg (show ¬false = true by simp)]
    dsimp only
    rw [hops]
    by_cases hqos : msg.qos = some .atMostOnceDelivery ∨ msg.qos = some .atLeastOnceDelivery
    · rw [decide_eq_true hqos, Bool.true_or, Bool.true_and] at hb
      rw [if_pos hqos, decide_eq_true hqos, Bool.true_or, Bool.true_and]
      have hcreate := hcreate (fun hfull => hb (by rw [hfull]; rfl)) ht
      cases hfull : isFull env.cfg.recvOpsLimit s.recvOps.length <;> simpa [hfull] using hcreate
    · have htalks : b.Talks := ht.resolve_left fun h => hqos (Or.inl h.1)
      rw [if_neg hqos] at hd
      rw [decide_eq_false hqos, Bool.false_or] at hb
      rw [if_neg hqos, decide_eq_false hqos, Bool.false_or]
      cases hfind : s.recvOps.find? (·.packetId == msg.packetId.getD 0) with
      | none =>
        rw [hfind] at hb
        have hcreate := hcreate (fun hfull => hb (by rw [hfull]; rfl)) (Or.inr htalks)
        cases hfull : isFull env.cfg.recvOpsLimit s.recvOps.length <;> simpa [hfull] using hcreate
      -- a repetition is answered without a new reception
      | some op =>
        rw [if_neg (by simp)]
        dsimp only
        split
        · exact .frame (hf.post env rfl (by trivial))
        · rename_i hdup
          have howns : s.keepAliveMessageReceived.owns op.responseTimer (.recvTimeout op.id) :=
            ⟨op, hops ▸ List.mem_of_find?_eq_some hfind, rfl, rfl⟩
          refine .frame ((hf.timerCancel howns fun _ => hd op hfind ?_).post env rfl (by trivial))
          simpa using hdup

/-- A PUBREL is not answered: it ends the reception with an error of its own. -/
def Client.mutesPubrel (env : Env) (msg : AckMsg) (valid : Bool) (s : Client) : Bool :=
  let h := PropsHandler.ofProps env.cfg (msg.props.getD [])
  (s.recvOps.find? (·.packetId == msg.packetId)).isSome && valid &&
    (s.sessionState.problemInfoAllowed || (!h.reasonStr.isSome && h.userProps.isEmpty)) &&
    decide (msg.reasonCode.getD ReasonCode.success ≠ ReasonCode.success)

/-- The end of `RecvOp::handle(PubrelMsg&)`, behind the reason string. -/
theorem pubrelTail_end (hf : Frame a b s t) {id : OpId} (hlive : t.Live ⟨.recv, id⟩) (ack : AckMsg)
    (bad : Bool) (rc : ReasonCode)
    (ht : (bad = false ∧ rc ≠ ReasonCode.success) ∨ b.Talks) : EndRun env G a b s
      (if bad then
        (t.errorLog
          "Received user properties in PUBREL when \"problem information\" was disabled in CONNECT.")
          |>.protocolErrorTermination env
      else if rc ≠ ReasonCode.success then
        (t.errorLog "Publish reception terminated due to error reason code in PUBREL message.")
          |>.opCompleteRecv id
      else (t.post env (.pubcomp ack)).opCompleteRecv id) := by
  split
  · rename_i hbad
    have : b.Talks := ht.resolve_left fun h => by rw [hbad] at h; cases h.1
    exact protocolErrorTermination_end (hf.errorLog _)
  · split
    · exact .frame ((hf.errorLog _).opCompleteRecv hlive)
    · rename_i hrc
      have : b.Talks := ht.resolve_left fun h => hrc h.2
      exact .frame ((hf.post env rfl (by trivial)).opCompleteRecv ((SameOps.post env _ t).live hlive))

/-- PUBREL ends a reception, or the connection when it is malformed. -/
theorem handlePubrel_end (msg : AckMsg) (valid : Bool)
    (ht : s.mutesPubrel env msg valid = true ∨ b.Talks)
    (hd : ∀ op, s.recvOps.find? (·.packetId == msg.packetId) = some op →
      b.admits (.disarm (.recvTimeout op.id)) = true) :
    EndRun env G a b s (s.handlePubrel env msg valid) := by
  have hf : Frame a b s s.keepAliveMessageReceived :=
    (Frame.refl a b s).keepAliveMessageReceived
  have hops : s.keepAliveMessageReceived.recvOps = s.recvOps := by
    rw [keepAliveMessageReceived_eq]
  have hsession : s.keepAliveMessageReceived.sessionState = s.sessionState := by
    rw [keepAliveMessageReceived_eq]
  unfold Client.mutesPubrel at ht
  unfold handlePubrel
  dsimp only
  rw [hops]
  cases hfind : s.recvOps.find? (·.packetId == msg.packetId) with
  | none =>
    rw [hfind] at ht
    have : b.Talks := ht.resolve_left (by simp)
    exact .frame ((hf.errorLog _).post env rfl (by trivial))
  | some op =>
    have howns : s.keepAliveMessageReceived.owns op.responseTimer (.recvTimeout op.id) :=
      ⟨op, hops ▸ List.mem_of_find?_eq_some hfind, rfl, rfl⟩
    have hc := hf.timerCancel howns fun _ => hd op hfind
    simp only [hfind, Option.isSome_some, Bool.true_and, Bool.and_eq_true, decide_eq_true_eq] at ht
    dsimp only
    unfold recvOpHandlePubrel
    dsimp only
    set t := s.keepAliveMessageReceived.timerCancel op.responseTimer
    have hinfo : t.sessionState = s.sessionState := hsession
    set h := PropsHandler.ofProps env.cfg (msg.props.getD []) with hh
    -- the reason string is logged before the user properties are looked at
    have hlive : t.Live ⟨.recv, op.id⟩ := .of_owns howns
    have hlogs : ∀ {u : Client}, Frame a b s u → u.Live ⟨.recv, op.id⟩ →
        u.sessionState = s.sessionState → EndRun env G a b s
          (if (!h.userProps.isEmpty && !u.sessionState.problemInfoAllowed) = true then
          (u.errorLog
            "Received user properties in PUBREL when \"problem information\" was disabled in CONNECT.")
            |>.protocolErrorTermination env
        else if msg.reasonCode.getD ReasonCode.success ≠ ReasonCode.success then
          (u.errorLog "Publish reception terminated due to error reason code in PUBREL message.")
            |>.opCompleteRecv op.id
        else (u.post env (.pubcomp { packetId := op.packetId })).opCompleteRecv op.id) := by
      intro u hfu hul hu
      refine pubrelTail_end hfu hul _ _ _ (ht.imp_left fun hm => ⟨?_, hm.2⟩)
      have hm := hm.1.2
      rw [hu]
      cases hinfo : s.sessionState.problemInfoAllowed with
      | true => rw [Bool.not_true, Bool.and_false]
      | false =>
        rw [hinfo, Bool.false_or, Bool.and_eq_true] at hm
        rw [hm.2]
        rfl
    split
    · rename_i hvalid
      have : b.Talks := ht.resolve_left fun hm => by rw [hm.1.1] at hvalid; cases hvalid
      exact terminationWithReason_end (hc.errorLog _) _
    · split
      · rename_i hbad
        have : b.Talks := ht.resolve_left fun hm => by
          have hm := hm.1.2
          rw [hinfo] at hbad
          obtain ⟨hsome, hdenied⟩ := Bool.and_eq_true_iff.mp hbad
          rw [Bool.not_eq_true'] at hdenied
          rw [hdenied, Bool.false_or, hsome] at hm
          cases hm
        exact protocolErrorTermination_end (hc.errorLog _)
      · split
        · exact hlogs hc hlive hinfo
        · exact hlogs ((hc.errorLog _).errorLog _) hlive hinfo

/-! ## Responses -/

theorem Client.Frame.setSubFilters [b.Grants] (h : Frame a b s t) (filters : List Str) :
    Frame a b s (t.setSubFilters filters) :=
  h.update (.of_eq rfl rfl rfl rfl rfl rfl fun h => h) (.filters filters)
    (Act.allowed_of rfl fun _ => Scope.Grants.filters)

/-- `SubscribeOp::handle(SubackMsg&)`. -/
theorem subscribeHandleSuback_end [b.Talks] [b.Grants] {op : SubscribeOp} (hop : op ∈ s.subscribeOps)
    (msg : CodesMsg) : EndRun env G a b s (s.subscribeHandleSuback env op msg) := by
  have hfail : ∀ {t : Client} (text status reason), Frame a b s t → t.Live ⟨.subscribe, op.id⟩ →
      EndRun env G a b s (((t.errorLog text).subscribeComplete op status none).terminationWithReason env
        reason) := fun _ _ _ hf hlive =>
    terminationWithReason_end ((hf.errorLog _).subscribeComplete hlive _) _
  have hlive : (s.timerCancel op.timer).Live ⟨.subscribe, op.id⟩ := .subscribe hop
  have howns : s.owns op.timer (.subscribeTimeout op.id) := ⟨op, hop, rfl, rfl⟩
  have hc : Frame a b s (s.timerCancel op.timer) := (Frame.refl a b s).timerCancel howns nofun
  unfold subscribeHandleSuback
  dsimp only
  split
  · exact .refl
  · split
    · exact hfail _ _ _ hc hlive
    · split
      · exact hfail _ _ _ hc hlive
      · have hs := hc.setSubFilters (subackCodes env
          (env.cfg.hasSubTopicVerification && (s.timerCancel op.timer).configState.verifySubFilter)
          0 (msg.list.zip op.subMsg.list) (s.timerCancel op.timer).reuseState.subFilters).1
        split
        · exact hfail _ _ _ hs hlive
        · split
          · exact hfail _ _ _ hs hlive
          · exact .frame (hs.subscribeAnswer hlive _ _)

/-- `UnsubscribeOp::handle(UnsubackMsg&)`. -/
theorem unsubscribeHandleUnsuback_end [b.Talks] [b.Grants] {op : UnsubscribeOp}
    (hop : op ∈ s.unsubscribeOps) (msg : CodesMsg) :
    EndRun env G a b s (s.unsubscribeHandleUnsuback env op msg) := by
  have hfail : ∀ {t : Client} (text status reason), Frame a b s t → t.Live ⟨.unsubscribe, op.id⟩ →
      EndRun env G a b s (((t.errorLog text).unsubscribeComplete op status none).terminationWithReason env
        reason) := fun _ _ _ hf hlive =>
    terminationWithReason_end ((hf.errorLog _).unsubscribeComplete hlive _) _
  have hlive : (s.timerCancel op.timer).Live ⟨.unsubscribe, op.id⟩ := .unsubscribe hop
  have howns : s.owns op.timer (.unsubscribeTimeout op.id) := ⟨op, hop, rfl, rfl⟩
  have hc : Frame a b s (s.timerCancel op.timer) := (Frame.refl a b s).timerCancel howns nofun
  unfold unsubscribeHandleUnsuback
  dsimp only
  split
  · exact .refl
  · split
    · exact hfail _ _ _ hc hlive
    · split
      · exact hfail _ _ _ hc hlive
      · have hs := hc.setSubFilters (unsubackCodes env 0 (msg.list.zip op.unsubMsg.list)
          (s.timerCancel op.timer).reuseState.subFilters).1
        split
        · exact hfail _ _ _ hs hlive
        · split
          · exact hfail _ _ _ hs hlive
          · exact .frame (hs.unsubscribeAnswer hlive _ _)

/-! ## AUTH -/

/-- The user properties of an answer to AUTH are collected. -/
theorem Client.Quiet.authUserProps (h : Quiet b s t) (env : Env)
    (list : List (Option Str × Option Str)) (props : PropsList) :
    Quiet b s (t.authUserProps env list props).1.1 := by
  induction list generalizing t props with
  | nil => exact h
  | cons p rest ih =>
    obtain ⟨key, value⟩ := p
    have hq := h.addUserPropToList env props key value
    unfold Client.authUserProps
    dsimp only
    split
    · exact ih hq _
    · exact hq

/-- And all its properties. -/
theorem Client.Quiet.authResponseProps (h : Quiet b s t) (env : Env) (texts : AuthTexts)
    (method : Str) (out : AuthInfo) : Quiet b s (t.authResponseProps env texts method out).1.1 := by
  have hdata : ∀ {u : Client} props, Quiet b s u →
      Quiet b s (u.authDataProp env texts out props).1.1 := fun props hu => by
    unfold Client.authDataProp
    grind
  have hreason : ∀ {u : Client} props, Quiet b s u →
      Quiet b s (u.authReasonProp env texts out props).1.1 := fun props hu => by
    unfold Client.authReasonProp
    grind
  have huser : ∀ {u : Client} props, Quiet b s u →
      Quiet b s (u.authUserPropsPart env texts out props).1.1 := fun props hu => by
    have := hu.authUserProps env
    unfold Client.authUserPropsPart
    grind
  unfold Client.authResponseProps
  split
  · exact h.errorLog _
  · dsimp only
    split
    · exact hdata _ h
    · split
      · exact hreason _ (hdata _ h)
      · exact huser _ (hreason _ (hdata _ h))

/-- A reauthentication that fails ends the connection. -/
theorem reauthGiveUp_end [b.Talks] (hf : Frame a b s t) {op : ReauthOp}
    (hlive : t.Live ⟨.reauth, op.id⟩) (status : AsyncOpStatus) (reason : ReasonCode) :
    EndRun env G a b s (t.reauthGiveUp env op status reason) :=
  terminationWithReason_end (hf.reauthComplete hlive _ _) _

/-- `ReauthOp::handle(AuthMsg&)`. -/
theorem reauthHandleAuth_end [b.Talks] {op : ReauthOp} (hop : op ∈ s.reauthOps) (msg : ReasonMsg)
    (reply : AuthReply) : EndRun env G a b s (s.reauthHandleAuth env op msg reply) := by
  have howns : s.owns op.timer (.reauthTimeout op.id) := ⟨op, hop, rfl, rfl⟩
  have hc : Frame a b s (s.timerCancel op.timer) := (Frame.refl a b s).timerCancel howns nofun
  unfold reauthHandleAuth
  dsimp only
  split
  · exact reauthGiveUp_end (hc.errorLog _) (.reauth hop) _ _
  · split
    · exact .frame (hc.reauthComplete (.reauth hop) _ _)
    · have he : Frame a b s ((s.timerCancel op.timer).emit
          (.authCb (authReport env (PropsHandler.ofProps env.cfg (msg.props.getD []))))) :=
        hc.emit rfl rfl rfl
      split
      · exact reauthGiveUp_end he (.reauth hop) _ _
      · have hp := fun texts method out => he.trans
          ((Quiet.refl _).authResponseProps env texts method out).frame
        have hops : ∀ texts method out, op ∈ (((s.timerCancel op.timer).emit (.authCb (authReport env
            (PropsHandler.ofProps env.cfg (msg.props.getD []))))).authResponseProps env texts method
              out).1.1.reauthOps := fun texts method out => by
          rw [((Quiet.refl (b := b) _).authResponseProps env texts method out).eq]
          exact hop
        split
        · exact reauthGiveUp_end (hp _ _ _) (.reauth (hops _ _ _)) _ _
        · split
          · refine reauthGiveUp_end (((hp _ _ _).sendMessage env rfl ?_).errorLog _) ?_ _ _
            · exact Or.inr (List.ne_nil_of_mem (hops _ _ _))
            · exact (SameOps.sendMessage env _ _ _).live (.reauth (hops _ _ _))
          · refine .frame (Frame.timerWait ?_ _ _ (by simp) ⟨op, ?_, rfl, rfl⟩ nofun nofun)
            · exact (hp _ _ _).sendMessage env rfl (Or.inr (List.ne_nil_of_mem (hops _ _ _)))
            · rw [sendMessage_eq]
              exact hops _ _ _

/-! ## While connecting -/

/-- `ConnectOp::handle(AuthMsg&)`. -/
theorem connectHandleAuth_frame [b.Talks] {op : ConnectOp} (hop : op ∈ s.connectOps) (msg : ReasonMsg)
    (valid : Bool) (reply : AuthReply) : Frame a b s (s.connectHandleAuth env op msg valid reply) := by
  have howns : s.owns op.timer (.connectTimeout op.id) := ⟨op, hop, rfl, rfl⟩
  have hc : Frame a b s (s.timerCancel op.timer) := (Frame.refl a b s).timerCancel howns nofun
  unfold connectHandleAuth
  dsimp only
  split
  · refine Frame.connectComplete (Frame.sendDisconnectMsg ?_ env _)
      ((SameOps.post env _ _).live ?_) _ _
    · split
      · exact hc
      · exact hc.errorLog _
    · split
      · exact .connect hop
      · exact .connect hop
  · have he : Frame a b s ((s.timerCancel op.timer).emit
        (.authCb (authReport env (PropsHandler.ofProps env.cfg (msg.props.getD []))))) :=
      hc.emit rfl rfl rfl
    split
    · exact he
    · have hp := fun texts method out => he.trans
        ((Quiet.refl _).authResponseProps env texts method out).frame
      have hops : ∀ texts method out, op ∈ (((s.timerCancel op.timer).emit (.authCb (authReport env
          (PropsHandler.ofProps env.cfg (msg.props.getD []))))).authResponseProps env texts method
            out).1.1.connectOps := fun texts method out => by
        rw [((Quiet.refl (b := b) _).authResponseProps env texts method out).eq]
        exact hop
      split
      · exact hp _ _ _
      · refine Frame.post (Frame.timerWait ?_ _ _ (by simp)
          (show owns _ op.timer (.connectTimeout op.id) from ⟨op, hops _ _ _, rfl, rfl⟩) nofun nofun)
          env rfl ?_
        · exact hp _ _ _
        · exact Or.inl (List.ne_nil_of_mem (hops _ _ _))

/-- A DISCONNECT before CONNACK completes the connect operation and is reported. -/
theorem connectHandleDisconnect_end [b.Talks] {op : ConnectOp} (hop : op ∈ s.connectOps)
    (msg : ReasonMsg) : EndRun env G a b s (s.connectHandleDisconnect env op msg) :=
  brokerDisconnected_end ((Frame.refl a b s).connectComplete (.connect hop) _ _) _ _ _

/-! ## While connected -/

/-- A DISCONNECT of the broker is taken by the keep alive operation. -/
theorem keepAliveHandleDisconnect_end [b.Talks] {op : KeepAliveOp} (hop : op ∈ s.keepAliveOps)
    (msg : ReasonMsg) (valid : Bool) (hd : b.admits (.disarm (.keepAlivePing op.id)) = true) :
    EndRun env G a b s (s.keepAliveHandleDisconnect env op msg valid) := by
  have hping : s.owns op.pingTimer (.keepAlivePing op.id) := ⟨op, hop, rfl, rfl⟩
  have hrecv : (s.timerCancel op.pingTimer).owns op.recvTimer (.keepAliveRecv op.id) :=
    ⟨op, hop, rfl, rfl⟩
  have hresp : ((s.timerCancel op.pingTimer).timerCancel op.recvTimer).owns op.respTimer
      (.keepAliveResp op.id) := ⟨op, hop, rfl, rfl⟩
  have hc : Frame a b s
      (((s.timerCancel op.pingTimer).timerCancel op.recvTimer).timerCancel op.respTimer) :=
    (((Frame.refl a b s).timerCancel hping fun _ => hd).timerCancel hrecv nofun).timerCancel hresp nofun
  unfold keepAliveHandleDisconnect
  dsimp only
  split
  · exact brokerDisconnected_end (hc.sendDisconnectMsg env _) _ _ _
  · exact brokerDisconnected_end hc _ _ _

/-- A missing PINGRESP ends the connection. -/
theorem pingTimeout_end [b.Talks] (op : KeepAliveOp) : EndRun env G a b s (s.pingTimeout env op) :=
  brokerDisconnected_end ((((Frame.refl a b s).errorLog _).assert _ _ rfl).sendDisconnectMsg env _) _ _ _

/-- An own DISCONNECT ends it, too. -/
theorem disconnectSend_end [b.Talks] {op : DisconnectOp} (hop : op ∈ s.disconnectOps) :
    EndRun env G a b s (s.disconnectSend env op) :=
  brokerDisconnected_end (((Frame.refl a b s).post env rfl (by trivial)).opCompleteDisconnect
    ((SameOps.post env _ s).live (.disconnect hop))) _ _ _

/-! ## Messages for every operation -/

/-- A message other than CONNACK. -/
def InMsg.isConnack : InMsg → Bool
  | .connack _ => true
  | _ => false

def InMsg.isDisconnect : InMsg → Bool
  | .disconnect .. => true
  | _ => false

/-- A message that answers for topic filters. -/
def InMsg.isGrant : InMsg → Bool
  | .suback _ | .unsuback _ => true
  | _ => false

/-- A message is handed to one operation. -/
theorem dispatchTo_end [b.Talks] {msg : InMsg} (hmsg : msg.isConnack = false)
    (hd : ∀ op ∈ s.keepAliveOps, msg.isDisconnect = true →
      b.admits (.disarm (.keepAlivePing op.id)) = true)
    (hf : msg.isGrant = true → b.Grants) (ref : OpRef) :
    EndRun env G a b s (s.dispatchTo env msg ref) := by
  unfold dispatchTo
  split
  · cases hmsg
  · exact .withOp fun op hop => connectHandleDisconnect_end (Keyed.mem_of_find hop).1 _
  · exact .withOp fun op hop => .frame (connectHandleAuth_frame (Keyed.mem_of_find hop).1 _ _ _)
  · exact .withOp fun op hop =>
      .frame ((Frame.refl a b s).keepAliveHandlePingresp (Keyed.mem_of_find hop).1)
  · exact .withOp fun op hop =>
      keepAliveHandleDisconnect_end (Keyed.mem_of_find hop).1 _ _ (hd op (Keyed.mem_of_find hop).1 rfl)
  · exact .withOp fun op hop =>
      .frame ((Frame.refl a b s).restartRecvTimer (Keyed.mem_of_find hop).1)
  · have := hf rfl
    exact .withOp fun op hop => subscribeHandleSuback_end (Keyed.mem_of_find hop).1 _
  · have := hf rfl
    exact .withOp fun op hop => unsubscribeHandleUnsuback_end (Keyed.mem_of_find hop).1 _
  · exact .withOp fun op hop => reauthHandleAuth_end (Keyed.mem_of_find hop).1 _ _
  · exact .refl

/-- Behind the end of the connection the loop does nothing. -/
theorem dispatch_of_disconnecting {msg : InMsg} (l : List Nat)
    (h : s.sessionState.disconnecting = true) : l.foldl (dispatchAt env msg) s = s := by
  induction l with
  | nil => rfl
  | cons idx l ih =>
    rw [List.foldl_cons]
    unfold dispatchAt
    rw [if_pos h]
    exact ih

/-- An operation that neither answers the message nor ends the connection. -/
def OpRef.mutes (msg : InMsg) (ref : OpRef) : Bool :=
  match ref.type, msg with
  | .connect, .connack _ | .connect, .auth .. | .connect, .disconnect .. => false
  | .keepAlive, .disconnect .. => false
  | .subscribe, .suback _ | .unsubscribe, .unsuback _ | .reauth, .auth .. => false
  | _, _ => true

/-- No operation answers the message. -/
def Client.mutesAll (msg : InMsg) (s : Client) : Bool :=
  s.sessionState.disconnecting || s.ops.all (fun ref => ref.all (OpRef.mutes msg))

/-- A function on an operation that is looked up and leaves `m_ops`. -/
theorem withOp_mute {α : Type} {x : Option α} {site : Site} {f : α → Client → Client}
    (hf : ∀ y, x = some y → Frame a b s (f y s) ∧ (f y s).ops = s.ops) :
    Frame a b s (s.withOp x site f) ∧ (s.withOp x site f).ops = s.ops := by
  unfold Client.withOp
  split
  · exact ⟨(Frame.refl a b s).fault _ rfl, rfl⟩
  · exact hf _ rfl

/-- A mute operation leaves the pointers as they are. -/
theorem dispatchTo_mute {msg : InMsg} {ref : OpRef} (hmute : ref.mutes msg = true) :
    Frame a b s (s.dispatchTo env msg ref) ∧ (s.dispatchTo env msg ref).ops = s.ops := by
  unfold OpRef.mutes at hmute
  unfold dispatchTo
  split <;> rename_i htype <;> try rw [htype] at hmute
  · cases hmute
  · cases hmute
  · cases hmute
  · refine withOp_mute fun op hop =>
      ⟨(Frame.refl a b s).keepAliveHandlePingresp (Keyed.mem_of_find hop).1, ?_⟩
    unfold keepAliveHandlePingresp
    rw [restartRecvTimer_eq]
    rfl
  · cases hmute
  · refine withOp_mute fun op hop =>
      ⟨(Frame.refl a b s).restartRecvTimer (Keyed.mem_of_find hop).1, ?_⟩
    rw [restartRecvTimer_eq]
  · cases hmute
  · cases hmute
  · cases hmute
  · exact ⟨.refl a b s, rfl⟩

/-- The loop over `m_ops` that hands a message to every operation. -/
theorem handleProtMessage_end {msg : InMsg} (hmsg : msg.isConnack = false)
    (ht : s.mutesAll msg = true ∨ b.Talks)
    (hd : msg.isDisconnect = true → ∀ id, b.admits (.disarm (.keepAlivePing id)) = true)
    (hf : msg.isGrant = true → b.Grants) :
    EndRun env G a b s (s.handleProtMessage env msg) := by
  have hloop : b.Talks → ∀ (l : List Nat) (s : Client),
      EndRun env G a b s (l.foldl (dispatchAt env msg) s) := by
    intro htalks l
    induction l with
    | nil => exact fun s => .refl
    | cons idx l ih =>
      intro s
      have hround : EndRun env G a b s (s.dispatchAt env msg idx) := by
        unfold dispatchAt
        split
        · exact .refl
        · unfold visitOp
          split
          · exact dispatchTo_end hmsg (fun op _ h => hd h op.id) hf _
          · exact .refl
      rw [List.foldl_cons]
      cases hround with
      | goes h => exact .after h (ih _)
      | ends u reason status info h hreason ht =>
        -- a round behind the end of the connection does nothing
        have hdis : (u.brokerDisconnected env reason status info).sessionState.disconnecting = true := by
          rw [brokerDisconnected_session]
        rw [ht, dispatch_of_disconnecting l hdis]
        exact .ends u reason status info h hreason rfl
  have hmute : ∀ (l : List Nat) (s : Client), s.ops.all (fun ref => ref.all (OpRef.mutes msg)) = true →
      EndRun env G a b s (l.foldl (dispatchAt env msg) s) := by
    intro l
    induction l with
    | nil => exact fun s _ => .refl
    | cons idx l ih =>
      intro s hs
      have hround : Frame a b s (s.dispatchAt env msg idx) ∧
          (s.dispatchAt env msg idx).ops = s.ops := by
        unfold dispatchAt
        split
        · exact ⟨.refl a b s, rfl⟩
        · unfold visitOp
          split
          · rename_i ref hget
            have href := List.all_eq_true.mp hs _ (List.mem_of_getElem? hget)
            exact dispatchTo_mute href
          · exact ⟨.refl a b s, rfl⟩
      rw [List.foldl_cons]
      exact .after (MacroRun.frame hround.1) (ih _ (by rw [hround.2]; exact hs))
  unfold handleProtMessage
  split
  · exact .refl
  · rename_i hdis
    rcases ht with ht | htalks
    · unfold Client.mutesAll at ht
      rw [Bool.eq_false_iff.mpr hdis, Bool.false_or] at ht
      exact hmute _ s ht
    · exact hloop htalks _ s

end Mqtt5
