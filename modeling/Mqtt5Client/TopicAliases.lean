import Mqtt5Client.ExactlyOnce
import Mqtt5Client.SubRecord

/-!
# Mqtt5Client — topic aliases

The alias tables of the two directions. An acknowledgement confirms the registration of the alias its
publish was sent with; a PUBLISH of the broker that has both a topic and an alias is stored in a table
that is indexed by the alias itself.
-/

namespace Mqtt5

open Client

variable {env : Env} {a : Bool} {b : Scope} {act : Act} {s t u : Client} {sys sys' : Sys} {l : Label}
  {op : SendOp} {table : List TopicAliasInfo} {topic : Str}

/-! ## The confirmation of an alias -/

/-- The confirmation changes the table of send aliases alone. -/
theorem confirmRegisteredAlias_table (op : SendOp) (s : Client) :
    (s.confirmRegisteredAlias op).clientState.sendTopicAliases =
      confirmAlias s.clientState.sendTopicAliases op.pubMsg.topic :=
  congrArg PubView.sendTopicAliases (confirmRegisteredAlias_eff (a := true) (b := .begins) op).view

/-- The confirmation clears the counter at the lower bound and no other. -/
theorem getElem?_confirmAlias (i : Nat) : (confirmAlias table topic)[i]? =
    if lowerBound table topic = i then
      (table[i]?).map fun info => { info with lowQosRegRemCount := 0 }
    else table[i]? := by
  unfold confirmAlias
  rw [List.getElem?_modify]
  split
  · rfl
  · exact Option.map_id_apply

/-- An entry whose counter is zero already is not changed by its confirmation. -/
theorem confirmAlias_eq (h : ∀ info, table[lowerBound table topic]? = some info →
    info.lowQosRegRemCount = 0) : confirmAlias table topic = table := by
  refine List.ext_getElem? fun i => ?_
  rw [getElem?_confirmAlias]
  split
  · rename_i hi
    subst hi
    cases hget : table[lowerBound table topic]? with
    | none => rfl
    | some info =>
      have hzero : ({ info with lowQosRegRemCount := 0 } : TopicAliasInfo) = info := by
        rw [← h info hget]
      exact congrArg some hzero
  · rfl

/-- The confirmation for a publish touches the entry of its own topic only. -/
structure ConfirmsOwn (op : SendOp) (s : Client) : Prop where
  others : ∀ (i : Nat) (info info' : TopicAliasInfo), s.clientState.sendTopicAliases[i]? = some info →
    (s.confirmRegisteredAlias op).clientState.sendTopicAliases[i]? = some info' →
    info.topic ≠ op.pubMsg.topic → info'.lowQosRegRemCount = info.lowQosRegRemCount
  absent : (∀ info ∈ s.clientState.sendTopicAliases, info.topic ≠ op.pubMsg.topic) →
    (s.confirmRegisteredAlias op).clientState.sendTopicAliases = s.clientState.sendTopicAliases

/-- A confirmation that touches its own entry only ends its search there, or at a counter of zero. -/
theorem ConfirmsOwn.entry (h : ConfirmsOwn op s) {info : TopicAliasInfo}
    (hget : s.clientState.sendTopicAliases[lowerBound s.clientState.sendTopicAliases
      op.pubMsg.topic]? = some info) :
    info.topic = op.pubMsg.topic ∨ info.lowQosRegRemCount = 0 := by
  by_cases hne : info.topic = op.pubMsg.topic
  · exact Or.inl hne
  · -- the counter of a neighbour becomes zero
    have hafter : (s.confirmRegisteredAlias op).clientState.sendTopicAliases[
        lowerBound s.clientState.sendTopicAliases op.pubMsg.topic]? =
        some { info with lowQosRegRemCount := 0 } := by
      rw [confirmRegisteredAlias_table, getElem?_confirmAlias, if_pos rfl, hget]
      rfl
    exact Or.inr (h.others _ _ _ hget hafter hne).symm

/-- An entry at the lower bound that is the own one, or confirmed already, is enough. -/
theorem confirmsOwn_of_entry (h : ∀ info, s.clientState.sendTopicAliases[lowerBound
      s.clientState.sendTopicAliases op.pubMsg.topic]? = some info →
    info.topic = op.pubMsg.topic ∨ info.lowQosRegRemCount = 0) : ConfirmsOwn op s := by
  have heq := confirmRegisteredAlias_table op s
  constructor
  · intro i info info' hget hafter hne
    rw [heq, getElem?_confirmAlias] at hafter
    split at hafter
    · rename_i hi
      subst hi
      rw [hget] at hafter
      obtain rfl := Option.some.inj hafter
      exact ((h info hget).resolve_left hne).symm
    · rw [hafter] at hget
      obtain rfl := Option.some.inj hget
      rfl
  · intro habsent
    rw [heq]
    exact confirmAlias_eq fun info hget =>
      (h info hget).resolve_left (habsent info (List.mem_of_getElem? hget))

/-- It does so exactly when the entry its search ends at, if there is one, is that of the topic, or has a
counter of zero already. -/
theorem confirmsOwn_iff (op : SendOp) (s : Client) : ConfirmsOwn op s ↔
    ∀ info, s.clientState.sendTopicAliases[lowerBound s.clientState.sendTopicAliases
      op.pubMsg.topic]? = some info → info.topic = op.pubMsg.topic ∨ info.lowQosRegRemCount = 0 :=
  ⟨fun h _ hget => h.entry hget, confirmsOwn_of_entry⟩

/-- Two topics with an alias; the first one is published, and its alias is freed. -/
def freedAliasCalls : List (Api × Nat) :=
  connectCalls true {} { plainConnack with props := [.topicAliasMax 5] } ++
    [(.pubTopicAliasAlloc (some ['a']) 3, 1), (.pubTopicAliasAlloc (some ['b']) 3, 1),
      (.publishPrepare, 1),
      (.publishConfigBasic 2 { topic := some ['a'], qos := .atLeastOnceDelivery,
                               topicAliasPref := .forceTopicWithAlias }, 1),
      (.publishSend 2 true 0, 4), (.pubTopicAliasFree (some ['a']), 1),
      (packet (.puback { packetId := 1 }), 2)]

/-- The acknowledgement of the first topic confirms the alias of the second one. -/
theorem neighbour_confirmed : ∃ (pre : List (Machine.Step Sys Label)) (st : Machine.Step Sys Label),
    (machine .dynamic).Run (fun _ _ => True) (pre ++ [st]) st.after ∧
      st.before.inMsg st.label = some (.puback { packetId := 1 }) ∧
      st.before.client.clientState.sendTopicAliases = [⟨['b'], 1, 3⟩] ∧
      st.after.client.clientState.sendTopicAliases = [⟨['b'], 1, 0⟩] ∧
      ∃ op ∈ st.before.client.sendOps, op.packetId = 1 ∧ op.registeredAlias = true ∧
        ¬ConfirmsOwn op st.before.client := by
  obtain ⟨pre, st, -, hrun, hin, hp⟩ := exists_message_step (fun _ _ => True) freedAliasCalls
    (.puback { packetId := 1 }) (fun sys sys' => decide (
      sys.client.clientState.sendTopicAliases = [⟨['b'], 1, 3⟩] ∧
      sys'.client.clientState.sendTopicAliases = [⟨['b'], 1, 0⟩] ∧
      ∃ op ∈ sys.client.sendOps, op.packetId = 1 ∧ op.registeredAlias = true ∧ op.pubMsg.topic = ['a']))
    (by decide +kernel)
  obtain ⟨hbefore, hafter, op, hop, hpid, hreg, htopic⟩ := of_decide_eq_true hp
  refine ⟨pre, st, hrun, hin, hbefore, hafter, op, hop, hpid, hreg, fun hown => ?_⟩
  have hneighbour := (confirmsOwn_iff op st.before.client).mp hown ⟨['b'], 1, 3⟩ (by
    rw [hbefore, htopic]
    rfl)
  rw [htopic] at hneighbour
  rcases hneighbour with htopic | hcount
  · cases htopic
  · cases hcount

/-! ## Updates of the table of the broker -/

namespace Scope

/-- Nothing resolves the topic of an incoming PUBLISH. -/
def unaliased : Scope where
  admits
    | .recvAliases => false
    | act => within.admits act

instance : Stays unaliased where
  admits act h := by
    have hw := unread_le act h
    cases act with
    | recvAliases => cases h
    | _ => exact hw

instance : Configures unaliased := ⟨rfl, rfl, rfl⟩

instance : Grants unaliased := ⟨rfl, fun _ _ _ => rfl, fun _ _ _ => rfl⟩

theorem unaliased_le : Scope.Le .unaliased .within := by
  intro act h
  unfold unaliased at h
  dsimp only at h
  split at h
  · cases h
  · exact h

end Scope

/-- Only the handling of a PUBLISH enters aliases. -/
theorem Prim.recvTopicAliases (h : Prim act s t) (hact : act.allowed a .unaliased = true) :
    t.sessionState.recvTopicAliases = s.sessionState.recvTopicAliases := by
  cases hwrites : act.writesSession with
  | false => rw [h.sessionState hwrites]
  | true =>
    cases h with
    | status | session | recvAliases => cases (Act.allowed_iff.mp hact).2 rfl
    | sendAliases | aliasMax => rfl
    | _ => cases hwrites

/-- So no run of other updates does. -/
theorem Acts.recvTopicAliases (h : Acts a .unaliased s t) :
    t.sessionState.recvTopicAliases = s.sessionState.recvTopicAliases :=
  h.invariant (P := fun t => t.sessionState.recvTopicAliases = s.sessionState.recvTopicAliases)
    (fun hp hact hs => (hp.recvTopicAliases hact).trans hs) rfl

theorem Acts.steady_unaliased (h : Acts a .unaliased s t) : Steady s t :=
  Acts.steady (h.mono id Scope.unaliased_le)

/-! ## The handling of a PUBLISH -/

/-- The alias a PUBLISH assigns to its topic. -/
def Client.assigned (env : Env) (msg : RecvPublishMsg) (s : Client) : Option Nat :=
  if s.sessionState.connected = true ∧ msg.topic ≠ [] then
    (PropsHandler.ofProps env.cfg msg.props).topicAlias.filter fun aliasId =>
      decide (1 ≤ aliasId ∧ aliasId ≤ s.sessionState.maxRecvTopicAlias)
  else none

/-- The reception of a PUBLISH gets as far as its topic and alias: the receive maximum, the format of the
topic and the properties do not end the connection before. -/
def Client.resolves (env : Env) (qos : Qos) (msg : RecvPublishMsg) (s : Client) : Bool :=
  !decide (qos ≠ .atMostOnceDelivery ∧ 0 < s.sessionState.highQosRecvLimit ∧
      s.sessionState.highQosRecvLimit < s.recvOps.length) &&
    (s.verifyPubTopic env msg.topic false).2 && !(PropsHandler.ofProps env.cfg msg.props).protocolError

/-- The alias a PUBLISH enters into the table: it assigns one, its reception begins and gets that far. -/
def Client.entered (env : Env) (msg : RecvPublishMsg) (s : Client) : Option Nat :=
  match msg.qos with
  | none => none
  | some qos =>
    if beginsReception env msg s = true ∧ (s.beginRecv env).resolves env qos msg = true then
      s.assigned env msg
    else none

/-- What is entered was assigned by the broker. -/
theorem assigned_of_entered {msg : RecvPublishMsg} {aliasId : Nat}
    (h : s.entered env msg = some aliasId) : s.assigned env msg = some aliasId := by
  unfold entered at h
  split at h
  · cases h
  · split at h
    · exact h
    · cases h

/-- The end of the connection. -/
def SessionState.ended (v : SessionState) : SessionState :=
  { v with connected := false, disconnecting := true }

theorem session_post (env : Env) (msg : OutMsg) (s : Client) :
    (s.post env msg).sessionState = s.sessionState := by
  rw [post_eq]

theorem session_terminationWithReason (env : Env) (reason : ReasonCode) (s : Client) :
    (s.terminationWithReason env reason).sessionState = s.sessionState.ended := by
  have hpost : (s.sendDisconnectMsg env reason).sessionState = s.sessionState := session_post env _ s
  unfold terminationWithReason
  rw [brokerDisconnected_session, hpost]
  rfl

theorem session_opCompleteRecv (id : OpId) (s : Client) :
    (s.opCompleteRecv id).sessionState = s.sessionState :=
  (SameSession.completeRef ⟨.recv, id⟩ s).session

theorem session_verifyPubTopic (env : Env) (topic : Str) (outgoing : Bool) (s : Client) :
    (s.verifyPubTopic env topic outgoing).1.sessionState = s.sessionState := by
  unfold verifyPubTopic
  repeat' split
  all_goals rfl

theorem session_completeNotAuthorized (env : Env) (op : RecvOp) (qos : Qos) (pid : Nat) (s : Client) :
    (s.completeNotAuthorized env op qos pid).sessionState = s.sessionState := by
  unfold completeNotAuthorized
  dsimp only
  rw [session_opCompleteRecv]
  cases qos with
  | atMostOnceDelivery => rfl
  | atLeastOnceDelivery => exact session_post env _ s
  | exactlyOnceDelivery => exact session_post env _ s

theorem session_reportRecvPublish (env : Env) (op : RecvOp) (qos : Qos) (msg : RecvPublishMsg)
    (info : MessageInfo) (s : Client) :
    (s.reportRecvPublish env op qos msg info).sessionState = s.sessionState ∨
      (s.reportRecvPublish env op qos msg info).sessionState = s.sessionState.ended := by
  unfold reportRecvPublish
  split
  · exact Or.inl (session_opCompleteRecv _ _)
  · exact Or.inr (session_terminationWithReason env _ _)
  · exact Or.inl ((session_opCompleteRecv _ _).trans (session_post env _ _))
  · exact Or.inl (session_post env _ _)

/-- What became of the table and the connection. -/
structure AliasOutcome (table : List Str) (v w : SessionState) : Prop where
  table : w.recvTopicAliases = table
  flags : w.connected = v.connected ∧ w.disconnecting = v.disconnecting ∨
    w.connected = false ∧ w.disconnecting = true

/-- The message ended the connection. -/
theorem AliasOutcome.ended (v : SessionState) : AliasOutcome v.recvTopicAliases v v.ended :=
  ⟨rfl, Or.inr ⟨rfl, rfl⟩⟩

/-- The message assigned nothing. -/
theorem AliasOutcome.refl (v : SessionState) : AliasOutcome v.recvTopicAliases v v :=
  ⟨rfl, Or.inl ⟨rfl, rfl⟩⟩

/-- A topic that is resolved was stored when it came with an alias. -/
theorem resolveRecvTopic_session {topic topic' : Str} {aliasId : Option Nat}
    (h : s.resolveRecvTopic topic aliasId = .ok (topic', t)) :
    (t.sessionState = s.sessionState ∧ (aliasId = none ∨ topic = [])) ∨
      ∃ n, aliasId = some n ∧ topic ≠ [] ∧ 1 ≤ n ∧ n ≤ s.sessionState.maxRecvTopicAlias ∧
        t.sessionState = { s.sessionState with
          recvTopicAliases := storeRecvAlias s.sessionState.recvTopicAliases n topic } := by
  unfold Client.resolveRecvTopic at h
  split at h
  · cases h
    exact Or.inl ⟨rfl, Or.inl rfl⟩
  · rename_i n
    split at h
    · cases h
    · rename_i hvalid
      split at h
      · rename_i hne
        cases h
        exact Or.inr ⟨n, rfl, hne, by omega, by omega, rfl⟩
      · rename_i hempty
        have hempty : topic = [] := not_not.mp hempty
        split at h
        · cases h
        · cases h
        · cases h
          exact Or.inl ⟨rfl, Or.inr hempty⟩

/-- A PUBLISH that assigns an alias is stored unless the connection ends before; no other one is. -/
theorem recvPublish_aliases (env : Env) (op : RecvOp) (qos : Qos) (msg : RecvPublishMsg) (s : Client) :
    (AliasOutcome s.sessionState.recvTopicAliases s.sessionState
        (s.recvPublish env op qos msg).sessionState ∧
      (s.assigned env msg = none ∨ (s.recvPublish env op qos msg).sessionState.connected = false)) ∨
    ∃ aliasId, s.assigned env msg = some aliasId ∧ s.resolves env qos msg = true ∧
      AliasOutcome (storeRecvAlias s.sessionState.recvTopicAliases aliasId msg.topic) s.sessionState
        (s.recvPublish env op qos msg).sessionState := by
  -- a connection that ends
  have hends : ∀ (u : Client) (reason : ReasonCode), u.sessionState = s.sessionState →
      AliasOutcome s.sessionState.recvTopicAliases s.sessionState
          (u.terminationWithReason env reason).sessionState ∧
        (s.assigned env msg = none ∨
          (u.terminationWithReason env reason).sessionState.connected = false) := by
    intro u reason hu
    rw [session_terminationWithReason, hu]
    exact ⟨.ended _, Or.inr rfl⟩
  unfold recvPublish
  dsimp only
  split
  · exact Or.inl (hends s _ rfl)
  rename_i hlimit
  split
  · rename_i hcon
    left
    rw [session_completeNotAuthorized]
    refine ⟨.refl _, Or.inl ?_⟩
    unfold assigned
    rw [if_neg (fun h => by simp [h.1] at hcon)]
  rename_i hcon
  have hon : s.sessionState.connected = true := by simpa using hcon
  set v := if msg.topic = [] then (s, true) else s.verifyPubTopic env msg.topic false with hv
  have hsame : v.1.sessionState = s.sessionState := by
    rw [hv]
    split
    · rfl
    · exact session_verifyPubTopic env _ _ s
  split
  · exact Or.inl (hends _ _ hsame)
  rename_i hformat
  split
  · exact Or.inl (hends _ _ hsame)
  rename_i hprops
  split
  · exact Or.inl (hends _ _ hsame)
  split
  · exact Or.inl (hends _ _ hsame)
  rename_i topic u hres
  have hresolves : msg.topic ≠ [] → s.resolves env qos msg = true := by
    intro hne
    rw [hv, if_neg hne] at hformat
    unfold Client.resolves
    rw [decide_eq_false hlimit]
    simpa using And.intro hformat hprops
  -- the tail leaves the table
  have htail : ∀ w : Client, (w.sessionState = u.sessionState ∨ w.sessionState = u.sessionState.ended) →
      (AliasOutcome s.sessionState.recvTopicAliases s.sessionState w.sessionState ∧
        (s.assigned env msg = none ∨ w.sessionState.connected = false)) ∨
      ∃ aliasId, s.assigned env msg = some aliasId ∧ s.resolves env qos msg = true ∧
        AliasOutcome (storeRecvAlias s.sessionState.recvTopicAliases aliasId msg.topic) s.sessionState
          w.sessionState := by
    intro w hw
    rcases resolveRecvTopic_session hres with ⟨hu, hnone⟩ | ⟨n, halias, hne, hpos, hle, hu⟩
    · left
      refine ⟨?_, Or.inl ?_⟩
      · rcases hw with hw | hw
        · rw [hw, hu, hsame]
          exact .refl _
        · rw [hw, hu, hsame]
          exact .ended _
      · unfold assigned
        rcases hnone with hnone | hempty
        · rw [hnone]
          split <;> rfl
        · rw [if_neg fun h => h.2 hempty]
    · right
      rw [hsame] at hle hu
      refine ⟨n, ?_, hresolves hne, ?_⟩
      · unfold assigned
        rw [if_pos ⟨hon, hne⟩, halias, Option.filter_some, if_pos (by simp [hpos, hle])]
      · rcases hw with hw | hw
        · rw [hw, hu]
          exact ⟨rfl, Or.inl ⟨rfl, rfl⟩⟩
        · rw [hw, hu]
          exact ⟨rfl, Or.inr ⟨rfl, rfl⟩⟩
  split
  · exact htail _ (Or.inl (session_completeNotAuthorized env _ _ _ _))
  · exact htail _ (session_reportRecvPublish env _ _ _ _ _)

/-- The session decides about the aliases that are accepted. -/
theorem assigned_congr (h : t.sessionState = s.sessionState) (env : Env) (msg : RecvPublishMsg) :
    t.assigned env msg = s.assigned env msg := by
  unfold assigned
  rw [h]

/-- The handler of PUBLISH stores an assignment unless the connection ends, the session is being taken
down, or the message repeats a reception. -/
theorem handlePublish_aliases (env : Env) (msg : RecvPublishMsg) (s : Client) :
    (AliasOutcome s.sessionState.recvTopicAliases s.sessionState (s.handlePublish env msg).sessionState ∧
      (s.assigned env msg = none ∨ (s.handlePublish env msg).sessionState.connected = false ∨
        s.sessionState.disconnecting = true ∨ (s.repeated msg).isSome = true)) ∨
    ∃ aliasId, s.entered env msg = some aliasId ∧
      AliasOutcome (storeRecvAlias s.sessionState.recvTopicAliases aliasId msg.topic) s.sessionState
        (s.handlePublish env msg).sessionState := by
  have hkeep : s.keepAliveMessageReceived.sessionState = s.sessionState ∧
      s.keepAliveMessageReceived.recvOps = s.recvOps := by
    rw [keepAliveMessageReceived_eq]
    exact ⟨rfl, rfl⟩
  cases hbegins : beginsReception env msg s with
  | true =>
    have hsession : (s.beginRecv env).sessionState = s.sessionState := by rw [beginRecv_eq]
    rw [handlePublish_begun hbegins]
    unfold recvOpHandlePublish
    split
    · left
      unfold protocolErrorTermination
      rw [session_terminationWithReason]
      have herror : ((s.beginRecv env).errorLog "Received PUBLISH with unknown QoS value.").sessionState =
          s.sessionState := hsession
      rw [herror]
      exact ⟨.ended _, Or.inr (Or.inl rfl)⟩
    · rename_i qos hqos
      rw [if_neg (by simp [newRecvOp])]
      have hrecv := recvPublish_aliases env (s.newRecvOp env) qos msg (s.beginRecv env)
      rw [hsession, assigned_congr hsession] at hrecv
      refine hrecv.imp (fun h => ⟨h.1, h.2.imp_right Or.inl⟩) ?_
      rintro ⟨aliasId, hassigned, hresolves, hout⟩
      refine ⟨aliasId, ?_, hout⟩
      unfold Client.entered
      rw [hqos]
      dsimp only
      rw [if_pos ⟨hbegins, hresolves⟩]
      exact hassigned
  | false =>
    left
    unfold handlePublish
    split
    · rename_i hdis
      exact ⟨.refl _, Or.inr (Or.inr (Or.inl hdis))⟩
    rename_i hdis
    -- the pool is full, for the message asks for a reception and begins none
    have hcreate : (s.repeated msg).isSome = false →
        AliasOutcome s.sessionState.recvTopicAliases s.sessionState
            (s.keepAliveMessageReceived.createRecvOp env msg).sessionState ∧
          (s.keepAliveMessageReceived.createRecvOp env msg).sessionState.connected = false := by
      intro hnone
      have hfull : isFull env.cfg.recvOpsLimit s.recvOps.length = true := by
        unfold beginsReception at hbegins
        unfold Client.repeated at hnone
        split at hnone
        · rename_i hqos
          simpa [hdis, hqos] using hbegins
        · rename_i hqos
          have hfind : (s.recvOps.find? (·.packetId == msg.packetId.getD 0)).isNone = true := by
            rw [Option.isNone_iff_eq_none]
            exact Option.not_isSome_iff_eq_none.mp (by simp [hnone])
          rw [hfind, Bool.or_true] at hbegins
          simpa [hdis] using hbegins
      unfold createRecvOp
      rw [hkeep.2, if_pos hfull, brokerDisconnected_session]
      have hsent : ((s.keepAliveMessageReceived.errorLog
          "Failed to allocate handling op for the incoming PUBLISH message.").sendDisconnectMsg env
            ReasonCode.receiveMaxExceeded).sessionState = s.sessionState :=
        (session_post env _ _).trans hkeep.1
      rw [hsent]
      exact ⟨.ended _, rfl⟩
    dsimp only
    split
    · rename_i hqos
      have hnone : (s.repeated msg).isSome = false := by
        unfold Client.repeated
        rw [if_pos hqos]
        rfl
      exact ⟨(hcreate hnone).1, Or.inr (Or.inl (hcreate hnone).2)⟩
    · rename_i hqos
      have hrepeated : s.repeated msg = s.recvOps.find? (·.packetId == msg.packetId.getD 0) := if_neg hqos
      rw [hkeep.2]
      split
      · rename_i hfind
        have hnone : (s.repeated msg).isSome = false := by
          rw [hrepeated, hfind]
          rfl
        exact ⟨(hcreate hnone).1, Or.inr (Or.inl (hcreate hnone).2)⟩
      · rename_i op hfind
        have hsome : (s.repeated msg).isSome = true := by
          rw [hrepeated, hfind]
          rfl
        split
        · rw [session_post, hkeep.1]
          exact ⟨.refl _, Or.inr (Or.inr (Or.inr hsome))⟩
        · have hcancel : (s.keepAliveMessageReceived.timerCancel op.responseTimer).sessionState =
              s.sessionState := hkeep.1
          rw [session_post, hcancel]
          exact ⟨.refl _, Or.inr (Or.inr (Or.inr hsome))⟩

/-! ## Steps -/

/-- What a step does to the table and to the connection. -/
inductive AliasStep (env : Env) (sys : Sys) (l : Label) (w : SessionState) : Prop
  | same (h : AliasOutcome sys.client.sessionState.recvTopicAliases sys.client.sessionState w)
      (hnone : ∀ msg, sys.inMsg l = some (.publish msg) → sys.client.assigned env msg = none ∨
        w.connected = false ∨ sys.client.sessionState.disconnecting = true ∨
          (sys.client.repeated msg).isSome = true)
  | stored (msg : RecvPublishMsg) (aliasId : Nat) (hin : sys.inMsg l = some (.publish msg))
      (hentered : sys.client.entered env msg = some aliasId)
      (h : AliasOutcome (storeRecvAlias sys.client.sessionState.recvTopicAliases aliasId msg.topic)
        sys.client.sessionState w)
  | begun (hin : ∀ msg, sys.inMsg l ≠ some (.publish msg)) (hne : sys.client.connectOps ≠ [])
      (htable : w.recvTopicAliases = sys.client.sessionState.recvTopicAliases)
      (hon : w.connected = true)
      (hdis : w.disconnecting = sys.client.sessionState.disconnecting)
  | reset (hin : ∀ msg, sys.inMsg l ≠ some (.publish msg)) (htable : w.recvTopicAliases = [])
      (hoff : w.connected = false)

/-- The steps that leave the connection as it is, and those that end it. -/
theorem Steady.aliasOutcome (h : Steady s t)
    (htable : t.sessionState.recvTopicAliases = s.sessionState.recvTopicAliases) :
    AliasOutcome s.sessionState.recvTopicAliases s.sessionState t.sessionState :=
  ⟨htable, Or.inl ⟨h.connected, h.disconnecting⟩⟩

/-- An accepted CONNACK leaves the table as it is. -/
theorem connackConnected_aliases (env : Env) (op : ConnectOp) (msg : ConnackMsg) (s : Client) :
    (s.connackConnected env op msg).sessionState.recvTopicAliases =
      s.sessionState.recvTopicAliases := by
  have halias : ∀ (h : PropsHandler) (r : ConnectResponse) (u : Client),
      (u.storeAliasMax env h r).sessionState.recvTopicAliases = u.sessionState.recvTopicAliases := by
    intro h r u
    unfold storeAliasMax
    split <;> rfl
  exact halias (PropsHandler.ofProps env.cfg msg.props) (connackAnswer env op msg)
    (s.timerCancel op.timer)

/-- Updates that belong to no PUBLISH, seen from the table. -/
theorem Conn.aliases (hr : Reg sys.client) (hreg : Registered sys.client)
    (h : Conn env .unaliased sys l t) (hin : ∀ msg, sys.inMsg l ≠ some (.publish msg)) :
    AliasStep env sys l t.sessionState := by
  have hpublish : ∀ msg, sys.inMsg l = some (.publish msg) → sys.client.assigned env msg = none ∨
      t.sessionState.connected = false ∨ sys.client.sessionState.disconnecting = true ∨
        (sys.client.repeated msg).isSome = true := fun msg heq => absurd heq (hin msg)
  cases h with
  | keeps hk => exact .same (hk.steady_unaliased.aliasOutcome hk.recvTopicAliases) hpublish
  | ends u reason status info hu hd ht =>
    refine .same ⟨?_, Or.inr ?_⟩ hpublish
    · rw [hd.session]
      exact hu.recvTopicAliases
    · rw [hd.session]
      exact ⟨rfl, rfl⟩
  | connack msg hconnack hc =>
    cases hc with
    | keeps hk => exact .same (hk.steady_unaliased.aliasOutcome hk.recvTopicAliases) hpublish
    | refused op u hop hacc hu ht hgone =>
      exact .reset hin ht.recvTopicAliases ht.steady_unaliased.connected
    | accepted op u hop hacc hu ht hgone =>
      obtain ⟨hon, hdis, -⟩ := connackConnected_flags env op msg u
      refine .begun hin (List.ne_nil_of_mem hop) ?_ (ht.steady_unaliased.connected.trans hon) ?_
      · rw [ht.recvTopicAliases, connackConnected_aliases, hu.recvTopicAliases]
      · rw [ht.steady_unaliased.disconnecting, hdis, hu.steady_unaliased.disconnecting]
  | network hl hhead ht =>
    rw [ht] at hpublish ⊢
    rcases networkDown_cases env hr hreg with ⟨-, heq⟩ | hd
    · rw [heq] at hpublish ⊢
      exact .same (.refl _) hpublish
    · refine .same ⟨?_, Or.inr ?_⟩ hpublish
      · rw [hd.session]
        rfl
      · rw [hd.session]
        exact ⟨rfl, rfl⟩
  | prepare elapsed hl ht =>
    obtain ⟨log, counts, heq⟩ := beginConnectPrepare_client elapsed sys.client
    rw [ht, heq] at hpublish ⊢
    exact .same (.refl _) hpublish
  | initial hl hhead ht =>
    rw [ht] at hpublish ⊢
    unfold initInternal at hpublish ⊢
    split
    · rename_i hcbs
      rw [if_pos hcbs] at hpublish
      exact .same (.refl _) hpublish
    · rename_i hcbs
      rw [if_neg hcbs] at hpublish
      split
      · rename_i htick
        rw [if_pos htick] at hpublish
        exact .same (.refl _) hpublish
      · exact .reset hin rfl rfl

/-- A step, seen from the table. -/
theorem step_aliases (hw : SysWf sys) (hreg : Registered sys.client)
    (hstep : sys.step env l = some sys') : AliasStep env sys l sys'.client.sessionState := by
  have hother : (∀ msg, sys.inMsg l ≠ some (.publish msg)) →
      AliasStep env sys l sys'.client.sessionState := fun hin =>
    Conn.aliases hw.reg hreg (step_conn_of hw hreg hstep (fun msg heq => absurd heq (hin msg))
      (fun _ _ _ => inferInstance) fun _ => inferInstance) hin
  cases hin : sys.inMsg l with
  | none => exact hother fun msg heq => by rw [hin] at heq; cases heq
  | some m =>
    cases m with
    | publish msg =>
      obtain ⟨rest, rfl, -, hclient⟩ := inMsg_step hstep hin
      have hclient : sys'.client = sys.client.handlePublish env msg := hclient
      rw [hclient]
      rcases handlePublish_aliases env msg sys.client with ⟨hout, hnone⟩ | ⟨aliasId, hentered, hout⟩
      · refine .same hout fun msg' heq => ?_
        rw [hin] at heq
        cases heq
        exact hnone
      · exact .stored msg aliasId hin hentered hout
    | _ => exact hother fun msg heq => by rw [hin] at heq; cases heq

/-! ## The capacity of the table -/

/-- The size a PUBLISH resizes the table to. -/
theorem length_storeRecvAlias (aliases : List Str) (aliasId : Nat) (topic : Str) :
    (storeRecvAlias aliases aliasId topic).length = max aliases.length (aliasId + 1) := by
  unfold storeRecvAlias
  rw [List.length_set, List.length_append, List.length_replicate]
  omega

/-- In a build with a limit a PUBLISH enters only aliases below the limit of the storage. -/
def AssignsBelow (env : Env) (sys : Sys) (l : Label) : Prop :=
  match sys.inMsg l with
  | some (.publish msg) => env.cfg.topicAliasesLimit ≠ 0 →
    ∀ aliasId ∈ sys.client.entered env msg, aliasId < env.cfg.topicAliasesLimit
  | _ => True

instance (env : Env) (sys : Sys) (l : Label) : Decidable (AssignsBelow env sys l) := by
  unfold AssignsBelow
  split <;> infer_instance

/-- It does not when the client announced less than the limit. -/
theorem assignsBelow_of_lt (h : sys.client.sessionState.maxRecvTopicAlias < env.cfg.topicAliasesLimit) :
    AssignsBelow env sys l := by
  unfold AssignsBelow
  split
  · intro _ aliasId hentered
    have hassigned := assigned_of_entered hentered
    unfold assigned at hassigned
    split at hassigned
    · have hvalid := (Option.mem_filter_iff.mp hassigned).2
      have hvalid : 1 ≤ aliasId ∧ aliasId ≤ sys.client.sessionState.maxRecvTopicAlias := by
        simpa using hvalid
      omega
    · cases hassigned
  · trivial

/-- The table stays within the storage of a build with a limit. -/
theorem recvTopicAliases_capacity (hlimit : env.cfg.topicAliasesLimit ≠ 0)
    (h : (machine env).Reach (AssignsBelow env) sys) :
    sys.client.sessionState.recvTopicAliases.length ≤ env.cfg.topicAliasesLimit := by
  have hinit : ∀ sys, (machine env).init sys →
      sys.client.sessionState.recvTopicAliases.length ≤ env.cfg.topicAliasesLimit := by
    rintro _ ⟨cbs, config, rfl⟩
    exact Nat.zero_le _
  refine h.invariant hinit fun sys l sys' hs hle hok hstep => ?_
  cases step_aliases (reach_wf hs) (reach_registered hs) hstep with
  | same hout hnone =>
    rw [hout.table]
    exact hle
  | stored msg aliasId hin hentered hout =>
    unfold AssignsBelow at hok
    rw [hin] at hok
    have hlt : aliasId < env.cfg.topicAliasesLimit := hok hlimit aliasId hentered
    rw [hout.table, length_storeRecvAlias]
    omega
  | begun hin hne htable hon hdis =>
    rw [htable]
    exact hle
  | reset hin htable hoff =>
    rw [htable]
    exact Nat.zero_le _

/-- A message of the broker that assigns an alias. -/
def aliased (topic : Str) (aliasId : Nat) : InMsg :=
  .publish { topic := topic, qos := some .atMostOnceDelivery, dup := false, retain := false,
             packetId := none, props := [.topicAlias aliasId], payload := [] }

/-- The topic alias maximum is smaller than the storage. -/
theorem recvTopicAliases_capacity_one : ∃ sys, (machine .static).Reach (AssignsBelow .static) sys ∧
    sys.client.sessionState.recvTopicAliases = [[], ['t']] ∧
      sys.client.sessionState.recvTopicAliases.length ≤ Env.static.cfg.topicAliasesLimit := by
  obtain ⟨sys, hreach, htable⟩ := exists_reach_ok .static (AssignsBelow .static)
    (connectCalls true { topicAliasMaximum := 1 } plainConnack ++ [(packet (aliased ['t'] 1), 5)])
    (fun sys => sys.client.sessionState.recvTopicAliases = [[], ['t']]) (by decide +kernel)
  exact ⟨sys, hreach, htable, recvTopicAliases_capacity (by decide) hreach⟩

/-- With the default maximum the highest alias needs one element more than there is room for. -/
theorem recvTopicAliases_exceeded : ∃ sys, (machine .static).Reach (fun _ _ => True) sys ∧
    sys.client.sessionState.maxRecvTopicAlias = (connectInitConfigExtra Env.static.cfg).topicAliasMaximum ∧
      ¬sys.client.sessionState.recvTopicAliases.length ≤ Env.static.cfg.topicAliasesLimit := by
  obtain ⟨sys, hreach, hmax, htable⟩ := exists_reach_fresh .static
    (connectCalls true (connectInitConfigExtra Env.static.cfg) plainConnack ++ [(packet (aliased ['t'] 2), 5)])
    (fun sys => sys.client.sessionState.maxRecvTopicAlias = 2 ∧
      sys.client.sessionState.recvTopicAliases = [[], [], ['t']]) (by decide +kernel)
  refine ⟨sys, hreach, hmax, ?_⟩
  rw [htable]
  decide

/-! ## The map of the broker -/

/-- The topic the table has for an alias, empty when it has none. -/
def aliasAt (table : List Str) (aliasId : Nat) : Str := table.getD aliasId []

/-- Entering an alias updates the map. -/
theorem aliasAt_store (table : List Str) (aliasId n : Nat) (topic : Str) :
    aliasAt (storeRecvAlias table aliasId topic) n =
      Function.update (aliasAt table) aliasId topic n := by
  have hlen : aliasId < (table ++ List.replicate (aliasId + 1 - table.length) []).length := by
    rw [List.length_append, List.length_replicate]
    omega
  unfold aliasAt storeRecvAlias
  rw [List.getD_eq_getElem?_getD, List.getElem?_set]
  by_cases hn : aliasId = n
  · subst hn
    rw [if_pos rfl, if_pos hlen, Function.update_self]
    rfl
  · rw [if_neg hn, Function.update_of_ne (Ne.symm hn), List.getD_eq_getElem?_getD]
    rcases Nat.lt_or_ge n table.length with hlt | hge
    · rw [List.getElem?_append_left hlt]
    · -- the padding is empty
      rw [List.getElem?_append_right hge, List.getElem?_eq_none hge, List.getElem?_replicate]
      split <;> rfl

variable (env) in
/-- What a step does to the map of the broker: it starts empty with the connection, and a PUBLISH with a
topic and an alias enters them. -/
def brokerAliasStep (m : Nat → Str) (st : Machine.Step Sys Label) : Nat → Str :=
  if begins st then fun _ => []
  else
    match st.before.inMsg st.label with
    | some (.publish msg) =>
      match st.before.client.assigned env msg with
      | some aliasId => Function.update m aliasId msg.topic
      | none => m
    | _ => m

variable (env) in
/-- The map of the broker after a run. -/
def brokerAliases (steps : List (Machine.Step Sys Label)) : Nat → Str :=
  steps.foldl (brokerAliasStep env) fun _ => []

/-- A PUBLISH that repeats a reception in progress assigns no alias anew. -/
def RepeatsAssigned (env : Env) (sys : Sys) (l : Label) : Prop :=
  match sys.inMsg l with
  | some (.publish msg) => (sys.client.repeated msg).isSome = true →
    ∀ aliasId ∈ sys.client.assigned env msg,
      aliasAt sys.client.sessionState.recvTopicAliases aliasId = msg.topic
  | _ => True

instance (env : Env) (sys : Sys) (l : Label) : Decidable (RepeatsAssigned env sys l) := by
  unfold RepeatsAssigned
  split <;> infer_instance

/-- What the table asks of a message: the first reception of a publish has its alias, and the storage has
room for it. -/
def AliasesKept (env : Env) (sys : Sys) (l : Label) : Prop :=
  RepeatsAssigned env sys l ∧ AssignsBelow env sys l

instance (env : Env) (sys : Sys) (l : Label) : Decidable (AliasesKept env sys l) :=
  inferInstanceAs (Decidable (_ ∧ _))

variable (env) in
/-- The table agrees with the map, and there is none between two connections. -/
structure AliasesAgree (steps : List (Machine.Step Sys Label)) (v : SessionState) : Prop where
  agree : v.connected = true → aliasAt v.recvTopicAliases = brokerAliases env steps
  rested : v.connected = false → v.disconnecting = false → v.recvTopicAliases = []

/-- Aliases are accepted from a broker the client is connected to. -/
theorem assigned_connected {msg : RecvPublishMsg} {aliasId : Nat} (h : s.assigned env msg = some aliasId) :
    s.sessionState.connected = true := by
  unfold assigned at h
  split at h
  · rename_i hcon
    exact hcon.1
  · cases h

/-- The map after one more step. -/
theorem brokerAliases_append (steps : List (Machine.Step Sys Label)) (st : Machine.Step Sys Label) :
    brokerAliases env (steps ++ [st]) = brokerAliasStep env (brokerAliases env steps) st := by
  unfold brokerAliases
  rw [List.foldl_append]
  rfl

/-- A step that leaves the flags or ends the connection begins none. -/
theorem AliasOutcome.begins_eq {table : List Str}
    (h : AliasOutcome table sys.client.sessionState sys'.client.sessionState) :
    begins ⟨sys, l, sys'⟩ = false := by
  unfold begins
  dsimp only
  rcases h.flags with ⟨hcon, -⟩ | ⟨hoff, -⟩
  · rw [hcon]
    cases sys.client.sessionState.connected <;> rfl
  · rw [hoff, Bool.and_false]

section Agreement

variable {steps : List (Machine.Step Sys Label)} (hs : AliasesAgree env steps sys.client.sessionState)

include hs

/-- A message that does not reach the table changes the map only if it repeats a reception, and then
its alias is in the map already. -/
theorem AliasesAgree.same (hrepeat : RepeatsAssigned env sys l)
    (hdis : sys.client.sessionState.connected = true → sys.client.sessionState.disconnecting = false)
    (hout : AliasOutcome sys.client.sessionState.recvTopicAliases sys.client.sessionState
      sys'.client.sessionState)
    (hnone : ∀ msg, sys.inMsg l = some (.publish msg) → sys.client.assigned env msg = none ∨
      sys'.client.sessionState.connected = false ∨ sys.client.sessionState.disconnecting = true ∨
        (sys.client.repeated msg).isSome = true) :
    AliasesAgree env (steps ++ [⟨sys, l, sys'⟩]) sys'.client.sessionState := by
  constructor
  · intro hon
    have hbefore : sys.client.sessionState.connected = true := by
      rcases hout.flags with ⟨hcon, -⟩ | ⟨hoff, -⟩
      · exact hcon ▸ hon
      · rw [hoff] at hon
        cases hon
    have hagree := hs.agree hbefore
    rw [brokerAliases_append, hout.table, hagree]
    unfold brokerAliasStep
    rw [hout.begins_eq, if_neg Bool.false_ne_true]
    dsimp only
    split
    · rename_i msg hin
      split
      · rename_i aliasId hassigned
        -- an alias that was assigned and not stored is one of a repetition
        have hsome : (sys.client.repeated msg).isSome = true := by
          rcases hnone msg hin with hnone | hoff | hd | hsome
          · rw [hassigned] at hnone
            cases hnone
          · rw [hon] at hoff
            cases hoff
          · rw [hdis hbefore] at hd
            cases hd
          · exact hsome
        unfold RepeatsAssigned at hrepeat
        rw [hin] at hrepeat
        have hsame := hrepeat hsome aliasId hassigned
        rw [hagree] at hsame
        rw [← hsame, Function.update_eq_self]
      · rfl
    · rfl
  · intro hoff hd
    rw [hout.table]
    rcases hout.flags with ⟨hcon, hsame⟩ | ⟨-, htrue⟩
    · exact hs.rested (hcon ▸ hoff) (hsame ▸ hd)
    · rw [htrue] at hd
      cases hd

/-- A message that is stored is entered into both. -/
theorem AliasesAgree.stored {msg : RecvPublishMsg} {aliasId : Nat}
    (hin : sys.inMsg l = some (.publish msg)) (hassigned : sys.client.assigned env msg = some aliasId)
    (hout : AliasOutcome (storeRecvAlias sys.client.sessionState.recvTopicAliases aliasId msg.topic)
      sys.client.sessionState sys'.client.sessionState) :
    AliasesAgree env (steps ++ [⟨sys, l, sys'⟩]) sys'.client.sessionState := by
  have hbefore := assigned_connected hassigned
  constructor
  · intro _
    rw [brokerAliases_append, hout.table]
    unfold brokerAliasStep
    rw [hout.begins_eq, if_neg Bool.false_ne_true]
    dsimp only
    rw [hin]
    dsimp only
    rw [hassigned]
    dsimp only
    rw [← hs.agree hbefore]
    exact funext fun n => aliasAt_store _ _ _ _
  · intro hoff hd
    rcases hout.flags with ⟨hcon, -⟩ | ⟨-, htrue⟩
    · rw [hcon, hbefore] at hoff
      cases hoff
    · rw [htrue] at hd
      cases hd

/-- A connection begins with both of them empty. -/
theorem AliasesAgree.begun (hoff : sys.client.sessionState.connected = false)
    (hd : sys.client.sessionState.disconnecting = false)
    (htable : sys'.client.sessionState.recvTopicAliases = sys.client.sessionState.recvTopicAliases)
    (hon : sys'.client.sessionState.connected = true) :
    AliasesAgree env (steps ++ [⟨sys, l, sys'⟩]) sys'.client.sessionState := by
  constructor
  · intro _
    have hbegins : begins ⟨sys, l, sys'⟩ = true := by
      unfold begins
      dsimp only
      rw [hoff, hon]
      rfl
    rw [brokerAliases_append, htable, hs.rested hoff hd]
    unfold brokerAliasStep
    rw [hbegins, if_pos rfl]
    rfl
  · intro hcon
    rw [hon] at hcon
    cases hcon

end Agreement

/-- A step keeps the table in agreement with the map. -/
theorem step_aliasesAgree {ok : Sys → Label → Prop} {steps : List (Machine.Step Sys Label)}
    (h : (machine env).Reach ok sys) (hok : ok sys l) (hrepeat : RepeatsAssigned env sys l)
    (hstep : sys.step env l = some sys') (hs : AliasesAgree env steps sys.client.sessionState) :
    AliasesAgree env (steps ++ [⟨sys, l, sys'⟩]) sys'.client.sessionState := by
  have hdis : ∀ {sys : Sys}, (machine env).Reach ok sys → sys.client.sessionState.connected = true →
      sys.client.sessionState.disconnecting = false := by
    intro sys hreach hon
    cases hd : sys.client.sessionState.disconnecting with
    | false => rfl
    | true =>
      rw [reach_disconnecting hreach hd] at hon
      cases hon
  cases step_aliases (reach_wf h) (reach_registered h) hstep with
  | same hout hnone => exact hs.same hrepeat (hdis h) hout hnone
  | stored msg aliasId hin hentered hout => exact hs.stored hin (assigned_of_entered hentered) hout
  | begun hin hne htable hon hsame =>
    have hoff : sys.client.sessionState.connected = false := by
      by_contra hcon
      rw [Bool.not_eq_false] at hcon
      exact hne (connectOps_of_apart (reach_inSession h).apart hcon)
    exact hs.begun hoff (hsame ▸ hdis (h.step hok hstep) hon) htable hon
  | reset hin htable hoff =>
    refine ⟨fun hon => ?_, fun _ _ => htable⟩
    rw [hoff] at hon
    cases hon

/-- While the client is connected the table of its aliases is the map of the broker, and a message with
an alias only is resolved to the topic the broker meant. -/
theorem recvTopicAliases_agree {steps : List (Machine.Step Sys Label)}
    (h : (machine env).Run (AliasesKept env) steps sys)
    (hon : sys.client.sessionState.connected = true) :
    (∀ aliasId, aliasAt sys.client.sessionState.recvTopicAliases aliasId =
        brokerAliases env steps aliasId) ∧
      ∀ aliasId, 1 ≤ aliasId → aliasId ≤ sys.client.sessionState.maxRecvTopicAlias →
        brokerAliases env steps aliasId ≠ [] → sys.client.resolveRecvTopic [] (some aliasId) =
          .ok (brokerAliases env steps aliasId, sys.client) := by
  have hall : AliasesAgree env steps sys.client.sessionState := by
    clear hon
    induction h with
    | start h =>
      obtain ⟨cbs, config, rfl⟩ := h
      exact ⟨fun hon => Bool.noConfusion hon, fun _ _ => rfl⟩
    | step hs hok hstep ih => exact step_aliasesAgree hs.reach hok hok.1 hstep ih
  have hagree := hall.agree hon
  refine ⟨fun aliasId => congrFun hagree aliasId, fun aliasId hpos hle hne => ?_⟩
  rw [← hagree] at hne ⊢
  unfold aliasAt at hne ⊢
  rw [List.getD_eq_getElem?_getD] at hne ⊢
  unfold resolveRecvTopic
  dsimp only
  rw [if_neg (by omega), if_neg (by simp)]
  cases hget : sys.client.sessionState.recvTopicAliases[aliasId]? with
  | none =>
    rw [hget] at hne
    exact absurd rfl hne
  | some topic =>
    cases topic with
    | nil =>
      rw [hget] at hne
      exact absurd rfl hne
    | cons c cs => rfl

/-- A QoS 2 message of the broker that assigns an alias. -/
def aliasedTwice (aliasId : Nat) (dup : Bool) : RecvPublishMsg :=
  { topic := ['t'], qos := some .exactlyOnceDelivery, dup := dup, retain := false,
    packetId := some 1, props := [.topicAlias aliasId], payload := [] }

/-- The repetition has the alias of the first message. -/
theorem recvTopicAliases_agree_repeat :
    ∃ (steps : List (Machine.Step Sys Label)) (sys : Sys),
      (machine .dynamic).Run (AliasesKept .dynamic) steps sys ∧
        sys.client.sessionState.recvTopicAliases = [[], ['t']] ∧
        brokerAliases .dynamic steps 1 = ['t'] := by
  obtain ⟨sys, hreach, hon, htable⟩ := exists_reach_ok .dynamic (AliasesKept .dynamic)
    (connectedCalls { topicAliasMaximum := 5 } [] ++
      [(packet (.publish (aliasedTwice 1 false)), 5), (packet (.publish (aliasedTwice 1 true)), 5)])
    (fun sys => sys.client.sessionState.connected = true ∧
      sys.client.sessionState.recvTopicAliases = [[], ['t']]) (by decide +kernel)
  obtain ⟨steps, hrun⟩ := hreach.exists_run
  refine ⟨steps, sys, hrun, htable, ?_⟩
  rw [← (recvTopicAliases_agree hrun hon).1, htable]
  rfl

/-- The repetition enters an alias the first message did not have: the client answers it and does not
look at its properties. -/
theorem recvTopicAliases_missed : ¬∀ (steps : List (Machine.Step Sys Label)) (sys : Sys),
    (machine .dynamic).Run (fun _ _ => True) steps sys → sys.client.sessionState.connected = true →
      ∀ aliasId, aliasAt sys.client.sessionState.recvTopicAliases aliasId =
        brokerAliases .dynamic steps aliasId := by
  intro hall
  obtain ⟨pre, st, -, hrun, hin, hp⟩ := exists_message_step (fun _ _ => True)
    (connectedCalls { topicAliasMaximum := 5 } [] ++
      [(packet (.publish (aliasedTwice 1 false)), 5), (packet (.publish (aliasedTwice 2 true)), 2)])
    (.publish (aliasedTwice 2 true)) (fun sys sys' => decide (sys.client.sessionState.connected = true ∧
      sys'.client.sessionState.connected = true ∧
      sys.client.assigned .dynamic (aliasedTwice 2 true) = some 2 ∧
      sys'.client.sessionState.recvTopicAliases = [[], ['t']])) (by decide +kernel)
  obtain ⟨hon, hafter, hassigned, htable⟩ := of_decide_eq_true hp
  have hagree := hall _ _ hrun hafter 2
  have hnot : begins st = false := by
    unfold begins
    rw [hon]
    rfl
  unfold brokerAliases at hagree
  rw [List.foldl_append, List.foldl_cons, List.foldl_nil] at hagree
  unfold brokerAliasStep at hagree
  rw [hnot, if_neg Bool.false_ne_true, hin] at hagree
  dsimp only at hagree
  rw [hassigned] at hagree
  dsimp only at hagree
  rw [Function.update_self, htable] at hagree
  exact absurd hagree (by decide)

end Mqtt5
