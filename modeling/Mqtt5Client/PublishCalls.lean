import Mqtt5Client.ConfigSteps

/-!
# Mqtt5Client — the publish part of the API as steps

Preparation, configuration, `send` and `cancel` of publishes, and the topic alias functions.
-/

namespace Mqtt5

open Client

variable {env : Env} {G : Guard} {a : Bool} {b : Scope} {s t u : Client} {op op' : SendOp}

/-! ## Configuration -/

theorem SameProgress.refl (op : SendOp) : SameProgress op op :=
  ⟨rfl, rfl, rfl, rfl, rfl, rfl, rfl, rfl, rfl, rfl⟩

/-- Two changes that leave how far a publish has come. -/
theorem SameProgress.trans {x y z : SendOp} (h : SameProgress x y) (h' : SameProgress y z) :
    SameProgress x z :=
  ⟨h'.id.trans h.id, h'.responseTimer.trans h.responseTimer, h'.cb.trans h.cb,
    h'.sendAttempts.trans h.sendAttempts, h'.published.trans h.published, h'.acked.trans h.acked,
    h'.paused.trans h.paused, h'.sent.trans h.sent, h'.packetId.trans h.packetId,
    h'.dup.trans h.dup⟩

/-- The configuration of a publish that was not sent may change its QoS. -/
theorem SameProgress.keeps (h : SameProgress op op') (hsent : op.sent = false) : op.Keeps op' :=
  ⟨h.id, h.responseTimer, h.packetId, h.sent, fun h => (by rw [hsent] at h; cases h), h.published⟩

/-- A new property is no topic alias, so the alias of the message stays. -/
theorem topicAlias_addProp {limit : Nat} {msg : PublishMsg} {p : Property} {props : PropsList}
    (hp : p.isTopicAlias = false) (h : Mqtt5.addProp limit msg.props p = some props) :
    ({ msg with props := props } : PublishMsg).topicAlias = msg.topicAlias := by
  unfold Mqtt5.addProp at h
  split at h
  · cases h
  · cases h
    unfold PublishMsg.topicAlias
    rw [List.findSome?_append]
    cases p with
    | topicAlias v => cases hp
    | _ => exact Option.or_none

/-- A stage of the configuration of a publish, other than `configBasic`. -/
structure SendStage (a : Bool) (b : Scope) (s : Client) (op : SendOp)
    (r : (Client × ErrorCode) × SendOp) : Prop where
  eff : Eff a b s r.1.1 (s.view.setOp r.2) []
  same : SameProgress op r.2
  payload : r.2.configured = op.configured ∧ r.2.pubMsg.topic = op.pubMsg.topic ∧
    r.2.pubMsg.topicAlias = op.pubMsg.topicAlias

namespace SendStage

/-- The parts of a configuration are one elementary step. -/
theorem micro {r : (Client × ErrorCode) × SendOp} (h : SendStage a b s op r)
    (hop : op ∈ s.sendOps) (hG : G.config s op none) (hsent : op.sent = false) :
    Micro env G a b s r.1.1 :=
  .config op r.2 hop hG hsent h.same h.payload h.eff

/-- Before its first part nothing has changed. -/
theorem start (hr : Reg s) (hop : op ∈ s.sendOps) : SendStage a b s op ((s, .success), op) :=
  ⟨(Frame.refl a b s).toSet hr hop, .refl op, rfl, rfl, rfl⟩

/-- A part that writes to the error log. -/
theorem frame {ec ec' : ErrorCode} (h : SendStage a b s op ((t, ec), op')) (hf : Frame a b t u) :
    SendStage a b s op ((u, ec'), op') :=
  ⟨h.eff.frame hf, h.same, h.payload⟩

/-- A stage that gives up. -/
theorem fail {ec : ErrorCode} (h : SendStage a b s op ((t, ec), op')) (hq : Quiet b t u)
    (text : String) (ec' : ErrorCode) : SendStage a b s op (u.fail text ec', op') :=
  ⟨h.eff.frame (hq.fail text ec').frame, h.same, h.payload⟩

/-- A part behind another, as long as none fails. -/
theorem andThen {r : (Client × ErrorCode) × SendOp} (h : SendStage a b s op r)
    {next : SendOp → Client → (Client × ErrorCode) × SendOp}
    (hnext : ∀ x t, SendStage a b s op ((t, .success), x) → SendStage a b s op (next x t)) :
    SendStage a b s op (andThenConfig r next) := by
  unfold Client.andThenConfig
  split
  · exact hnext _ _ ⟨h.eff, h.same, h.payload⟩
  · exact h

/-- Storing the changed publish. -/
theorem store {x : SendOp} (h : SendStage a b s op ((t, .success), op')) (hr : Reg s)
    (hop : op ∈ s.sendOps) (hsent : op.sent = false) (hx : SameProgress op' x)
    (hp : x.configured = op'.configured ∧ x.pubMsg.topic = op'.pubMsg.topic ∧
      x.pubMsg.topicAlias = op'.pubMsg.topicAlias) {f : SendOp → SendOp} (hf : f op' = x)
    (ec : ErrorCode) : SendStage a b s op ((t.modifySendOp op'.id f, ec), x) :=
  ⟨h.eff.modify hr.distinct (List.mem_map.mpr ⟨op, hop, h.same.id.symm⟩) hf rfl
      (hx.keeps (h.same.sent.trans hsent)),
    h.same.trans hx, hp.1.trans h.payload.1, hp.2.1.trans h.payload.2.1,
    hp.2.2.trans h.payload.2.2⟩

/-- A property other than the topic alias is added. -/
theorem addProp {x : SendOp} (h : SendStage a b s op ((t, .success), x)) (hr : Reg s)
    (hop : op ∈ s.sendOps) (hsent : op.sent = false) {p : Property} (hp : p.isTopicAlias = false) (full : String)
    (tooLong : Option String) : SendStage a b s op (t.sendAddProp env x p full tooLong) := by
  unfold sendAddProp
  split
  · exact h.fail (.refl t) _ _
  · rename_i props hprops
    split
    · exact h.fail (.refl t) _ _
    · exact h.store (x := { x with pubMsg := { x.pubMsg with props := props } }) hr hop hsent
        ⟨rfl, rfl, rfl, rfl, rfl, rfl, rfl, rfl, rfl, rfl⟩
        ⟨rfl, rfl, topicAlias_addProp hp hprops⟩ rfl _

end SendStage

section Config

variable (hr : Reg s) (hop : op ∈ s.sendOps) (hsent : op.sent = false)

include hr hop hsent

/-- `configExtra` of a publish. -/
theorem sendConfigExtra_micro (hG : G.config s op none) (config : PublishExtraConfig) :
    Micro env G a b s (s.sendConfigExtra env op config).1 := by
  have h₀ : SendStage a b s op ((s, .success), op) := .start hr hop
  unfold sendConfigExtra
  refine (show SendStage a b s op _ from ?_).micro hop hG hsent
  refine (((SendStage.andThen ?_ ?_).andThen ?_).andThen ?_).andThen ?_
  · split
    · exact h₀
    · exact h₀.addProp hr hop hsent rfl _ _
  · intro x t h
    dsimp only
    split
    · exact h
    · split
      · exact h.fail ((Quiet.refl t).verifyPubTopic env _ true) _ _
      · exact h.addProp hr hop hsent rfl _ _
  · intro x t h
    dsimp only
    split
    · split
      · exact h.fail (.refl t) _ _
      · exact h
    · exact h.addProp hr hop hsent rfl _ _
  · intro x t h
    dsimp only
    split
    · exact h.addProp hr hop hsent rfl _ _
    · exact h
  · intro x t h
    dsimp only
    split
    · exact h.addProp hr hop hsent rfl _ _
    · exact h

/-- A user property of a publish. -/
theorem sendAddUserProp_micro (hG : G.config s op none) (key value : Option Str) :
    Micro env G a b s (s.sendAddUserProp env op key value).1 := by
  have h₀ : SendStage a b s op ((s, .success), op) := .start hr hop
  have hq := (Quiet.refl (b := b) s).addUserPropToList env op.pubMsg.props key value
  have h₁ : SendStage a b s op
      (((s.addUserPropToList env op.pubMsg.props key value).1.1, .success), op) :=
    h₀.frame hq.frame
  have halias : ({ op.pubMsg with
      props := (s.addUserPropToList env op.pubMsg.props key value).2 } : PublishMsg).topicAlias =
      op.pubMsg.topicAlias := by
    unfold addUserPropToList
    split
    · rfl
    · split
      · rfl
      · split
        · rfl
        · rename_i props hprops
          split
          · rfl
          · split
            · rfl
            · exact topicAlias_addProp rfl hprops
  unfold sendAddUserProp
  exact (h₁.store (x := { op with pubMsg := { op.pubMsg with
      props := (s.addUserPropToList env op.pubMsg.props key value).2 } }) hr hop hsent
    ⟨rfl, rfl, rfl, rfl, rfl, rfl, rfl, rfl, rfl, rfl⟩ ⟨rfl, rfl, halias⟩ rfl .success).micro hop hG hsent

/-- The number of its attempts. -/
theorem sendSetResendAttempts_micro (hG : G.config s op none) (attempts : Nat) :
    Micro env G a b s (s.sendSetResendAttempts op attempts).1 := by
  have h₀ : SendStage a b s op ((s, .success), op) := .start hr hop
  unfold sendSetResendAttempts
  split
  · exact .frame ((Quiet.refl s).fail _ _).frame
  · exact (h₀.store (x := { op with totalSendAttempts := attempts }) hr hop hsent
      ⟨rfl, rfl, rfl, rfl, rfl, rfl, rfl, rfl, rfl, rfl⟩ ⟨rfl, rfl, rfl⟩ rfl .success).micro hop hG hsent

end Config

/-- What a stage of `configBasic` leaves: the publish and the alias table have changed. -/
structure BasicStage (a : Bool) (b : Scope) (s : Client) (op : SendOp) (t : Client) : Prop where
  intro ::
  exists_eff : ∃ x table, SameProgress op x ∧
    Eff a b s t ((s.view.setOp x).setAliases table) []

namespace BasicStage

/-- Nothing has changed. -/
theorem of_frame (hr : Reg s) (hop : op ∈ s.sendOps) (h : Frame a b s t) :
    BasicStage a b s op t := by
  refine ⟨op, s.view.sendTopicAliases, .refl op, ?_⟩
  exact h.toSet hr hop

/-- The publish is stored after the alias table. -/
theorem store {x : SendOp} {table : List TopicAliasInfo} (hr : Reg s) (hop : op ∈ s.sendOps)
    (hsent : op.sent = false) (ht : Eff a b s t (s.view.setAliases table) []) (hx : SameProgress op x) {id : OpId}
    (hid : id = op.id) : BasicStage a b s op (t.modifySendOp id fun _ => x) := by
  subst hid
  have hmem : op ∈ t.sendOps := ht.sendOps_eq ▸ hop
  have hd : Keyed.Distinct SendOp.id t.sendOps := ht.sendOps_eq ▸ hr.distinct
  have h := ht.trans (modifySendOp_eff (a := a) (b := b) (f := fun _ => x) hd hmem (hx.keeps hsent))
  rw [ht.view] at h
  exact ⟨x, table, hx, h⟩

/-- A check of `configBasic` that fails. -/
theorem fail (h : BasicStage a b s op t) (text : String) (ec : ErrorCode) :
    BasicStage a b s op (t.fail text ec).1 := by
  obtain ⟨x, table, hx, heff⟩ := h
  exact ⟨x, table, hx, heff.frame ((Frame.refl a b t).errorLog text)⟩

end BasicStage

/-- The payload is the last thing that is configured. -/
theorem configPayload_stage {table : List TopicAliasInfo} (hr : Reg s) (hop : op ∈ s.sendOps)
    (hsent : op.sent = false) (ht : Eff a b s t (s.view.setAliases table) []) (hx : SameProgress op op')
    (config : PublishBasicConfig) (topic : Str) (registered : Bool) :
    BasicStage a b s op (t.configPayload op' config topic registered).1 := by
  have hstore : ∀ {x : SendOp}, SameProgress op x →
      BasicStage a b s op (t.modifySendOp op'.id fun _ => x) := fun h => .store hr hop hsent ht h hx.id
  have hsame : ∀ {msg : PublishMsg} {reg : Bool} {conf : Option Str},
      msg.packetId = op'.pubMsg.packetId → msg.dup = op'.pubMsg.dup → SameProgress op
        { op' with pubMsg := msg, registeredAlias := reg, configured := conf } := fun hp hd =>
    hx.trans ⟨rfl, rfl, rfl, rfl, rfl, rfl, rfl, rfl, hp, hd⟩
  unfold configPayload
  dsimp only
  generalize (if config.data = [] then op'.pubMsg.payload else config.data) = payload
  split
  · exact BasicStage.fail (hstore (hsame (by rfl) (by rfl))) _ _
  · exact hstore (hsame (by rfl) (by rfl))

/-- `configBasic` of a publish, which may register the use of an alias. -/
theorem sendConfigBasic_stage (env : Env) (hr : Reg s) (hop : op ∈ s.sendOps)
    (hsent : op.sent = false) (config : PublishBasicConfig) :
    BasicStage a b s op (s.sendConfigBasic env op config).1 := by
  have hfail : ∀ {text ec}, BasicStage a b s op (s.fail text ec).1 :=
    .of_frame hr hop ((Quiet.refl s).fail _ _).frame
  unfold sendConfigBasic
  split
  · exact hfail
  · exact hfail
  · dsimp only
    split
    · exact .of_frame hr hop (((Quiet.refl s).verifyPubTopic env _ true).fail _ _).frame
    · split
      · exact hfail
      · split
        · exact hfail
        · split
          · exact hfail
          · rename_i aliasId mustAssignTopic table hchoose
            have ht : Eff a b s
                { s with clientState := { s.clientState with sendTopicAliases := table } }
                (s.view.setAliases table) [] := setSendAliases_eff table
            set t := { s with clientState := { s.clientState with sendTopicAliases := table } }
            have hstore : ∀ {x : SendOp}, SameProgress op x →
                BasicStage a b s op (t.modifySendOp op.id fun _ => x) :=
              fun h => .store hr hop hsent ht h rfl
            have hsame : ∀ {msg : PublishMsg} {conf : Bool}, msg.packetId = op.pubMsg.packetId →
                msg.dup = op.pubMsg.dup →
                SameProgress op { op with pubMsg := msg, topicConfigured := conf } :=
              fun hp hd => ⟨rfl, rfl, rfl, rfl, rfl, rfl, rfl, rfl, hp, hd⟩
            -- the message with its QoS, and with its topic when it is assigned
            cases mustAssignTopic with
            | true =>
              simp only [if_true]
              split
              · exact BasicStage.fail (hstore (hsame (by rfl) (by rfl))) _ _
              · split
                · split
                  · exact BasicStage.fail (hstore (hsame (by rfl) (by rfl))) _ _
                  · exact configPayload_stage hr hop hsent ht (hsame (by rfl) (by rfl)) _ _ _
                · exact configPayload_stage hr hop hsent ht (hsame (by rfl) (by rfl)) _ _ _
            | false =>
              simp only [Bool.false_eq_true, if_false]
              split
              · exact absurd ‹_› (by simp)
              · split
                · split
                  · exact BasicStage.fail (hstore (hsame (by rfl) (by rfl))) _ _
                  · exact configPayload_stage hr hop hsent ht (hsame (by rfl) (by rfl)) _ _ _
                · exact configPayload_stage hr hop hsent ht (hsame (by rfl) (by rfl)) _ _ _

/-- It is one elementary step. -/
theorem sendConfigBasic_micro (hr : Reg s) (hop : op ∈ s.sendOps) (hsent : op.sent = false)
    (config : PublishBasicConfig) (hG : G.config s op (some config)) :
    Micro env G a b s (s.sendConfigBasic env op config).1 := by
  obtain ⟨x, table, hx, h⟩ := sendConfigBasic_stage (a := a) (b := b) env hr hop hsent config
  exact .configBasic op x config table hop hG hsent hx rfl h

/-! ## Preparation -/

/-- The new publish is the last one in the queue. -/
theorem createSendOp_shows (env : Env) : ∃ timer, ∀ a, Shows a s (s.createSendOp env)
    { s.view with
      sendOps := s.sendOps ++ [{ id := s.nextOpId, responseTimer := timer }]
      sendRefs := s.view.sendRefs ++ [s.nextOpId] } [] := by
  refine ⟨(s.timerAlloc env).2, fun a => ?_⟩
  have hs : Still a s ((s.timerAlloc env).1.assert .timer (s.timerAlloc env).2.isSome) :=
    ((Still.refl a s).timerAlloc env).assert _ _ (by simp)
  have hid : ((s.timerAlloc env).1.assert .timer (s.timerAlloc env).2.isSome).nextOpId =
      s.nextOpId := by
    unfold Client.assert
    split <;> rfl
  unfold createSendOp
  dsimp only
  set t := (s.timerAlloc env).1.assert .timer (s.timerAlloc env).2.isSome
  have hops : t.sendOps = s.sendOps := congrArg PubView.sendOps hs.view
  refine hs.shows.trans ⟨?_, fun _ h => Or.inr h, Nat.le_succ _,
    fun _ => .of_ops rfl rfl (fun _ h => List.mem_append_left _ h) fun h => h⟩
  rw [← hs.view, ← hops, ← hid]
  simp [Client.view, registerOp, OpRef.sendId]

/-- A publish that is allocated and destroyed again. -/
theorem probeSendOp_frame (env : Env) : Frame a b s (s.probeSendOp env) :=
  (Frame.refl a b s).update ((((Still.refl a s).timerAlloc env).assert _ _ (by simp)).timerFree _) (.probe env)
    rfl

/-- The checks on the connection have passed. -/
theorem online_of_checks {allow initiate : String}
    (h : ∀ c ∈ s.connectionChecks allow initiate, c.fails = false) : s.Online := by
  unfold connectionChecks at h
  refine ⟨?_, ?_, ?_⟩
  · have hconnected := h _ List.mem_cons_self
    simpa using hconnected
  · exact h _ (List.mem_cons_of_mem _ List.mem_cons_self)
  · exact h _ (List.mem_cons_of_mem _ (List.mem_cons_of_mem _ List.mem_cons_self))

/-- `publishPrepare` creates a publish while the client is connected. -/
theorem publishPrepare_run (hG : s.view.connected = true → G.create s) :
    MacroRun env G false b s (s.publishPrepare env).1 := by
  unfold publishPrepare
  dsimp only
  split
  · exact .frame ((Quiet.refl s).fail _ _).frame
  · rename_i hnone
    split
    · exact .frame ((probeSendOp_frame env).errorLog _)
    · have hon : s.Online := online_of_checks fun c hc =>
        Bool.eq_false_iff.mpr (List.find?_eq_none.mp hnone c (List.mem_append_left _ hc))
      have hconn : s.view.connected = true := hon.connected
      obtain ⟨timer, h⟩ := createSendOp_shows (s := s) env
      have heff : Eff false b s (s.createSendOp env) _ [] := (h false).eff (.createSend env hon) rfl
      refine .micro (.create timer hconn (hG hconn) ?_ (heff.frame ?_))
      · show s.nextOpId < (s.createSendOp env).nextOpId
        unfold createSendOp registerOp Client.assert
        dsimp only
        split <;> exact Nat.lt_succ_self _
      · exact ⟨⟨rfl, fun _ h => h, Nat.le_refl _, by simp⟩, .of .lock rfl⟩

/-! ## `SendOp::send` and `SendOp::cancel` -/

/-- The publish as `send` leaves it. -/
def SendOp.started (op : SendOp) (cb : Bool) (pid : Nat) : SendOp :=
  { op with sent := true, cb := cb, pubMsg := { op.pubMsg with packetId := pid } }

/-- `send` stores a publish of QoS 0 as it is, and takes a packet identifier for any other one. -/
inductive SendOp.Stored (env : Env) (op : SendOp) (cb : Bool) (t : Client) : Client → Prop
  | plain (hqos : op.qos = .atMostOnceDelivery) :
      Stored env op cb t (t.modifySendOp op.id fun _ => op.started cb op.packetId)
  | taken (hqos : op.qos ≠ .atMostOnceDelivery) (htimer : op.responseTimer.isSome = true)
      (htopic : op.topicConfigured = true) :
      Stored env op cb t (t.takeSend env { op with sent := true, cb := cb })

section Send

variable (hr : Reg s) (hop : op ∈ s.sendOps) (hsent : op.sent = false)

include hr hop

/-- The publish as `send` marks and stores it. -/
theorem sendMark_shows (a : Bool) : Shows a s.allowNextPrepare
    ((s.allowNextPrepare.emit (.publishSend op.id op.qos)).modifySendOp op.id
      fun _ => { op with sent := true })
    ((s.view.push (.publishSend op.id op.qos)).setOp { op with sent := true }) [] := by
  have hf : Still false s s.allowNextPrepare := (Frame.refl false .rests s).allowNextPrepare.toStill
  have h₁ := emit_shows (a := a) (s := s.allowNextPrepare) (e := .publishSend op.id op.qos) rfl
  rw [hf.view] at h₁
  set t := s.allowNextPrepare.emit (.publishSend op.id op.qos)
  have hmem : op ∈ t.sendOps := h₁.sendOps_eq ▸ hop
  have hd : Keyed.Distinct SendOp.id t.sendOps := h₁.sendOps_eq ▸ hr.distinct
  have h₂ := h₁.trans (modifySendOp_shows (a := a)
    (f := fun _ => { op with sent := true }) hd hmem rfl)
  rwa [h₁.view] at h₂

omit hr in
/-- The lock is released and the publish is marked. -/
theorem sendMark_acts : Acts false b s.allowNextPrepare
    ((s.allowNextPrepare.emit (.publishSend op.id op.qos)).modifySendOp op.id
      fun _ => { op with sent := true }) := by
  have hf : Still false s s.allowNextPrepare := (Frame.refl false .rests s).allowNextPrepare.toStill
  have hops : s.allowNextPrepare.sendOps = s.sendOps := congrArg PubView.sendOps hf.view
  have hemit : Acts false b s.allowNextPrepare
      (s.allowNextPrepare.emit (.publishSend op.id op.qos)) := .of (.emit _ rfl) rfl
  exact hemit.tail ⟨_, rfl, .markSend op (by rw [← hops] at hop; exact hop)⟩

/-- How `send` ends before the API guard: it gives up and completes the publish, postpones it, or goes
on with it. -/
theorem sendOpSend_cases (env : Env) (cb : Bool) :
    (∃ text ec, s.sendOpSend env op cb =
      (((((s.allowNextPrepare.emit (.publishSend op.id op.qos)).modifySendOp op.id
        fun _ => { op with sent := true }).errorLog text).sendOpComplete env
          { op with sent := true }), ec, false)) ∨
    ∃ pid u, (∀ a, Shows a s.allowNextPrepare u
        ((s.view.push (.publishSend op.id op.qos)).setOp (op.started cb pid)) []) ∧
      (∀ b, Acts false b s.allowNextPrepare u) ∧
      SendOp.Stored env op cb ((s.allowNextPrepare.emit (.publishSend op.id op.qos)).modifySendOp
        op.id fun _ => { op with sent := true }) u ∧
      s.sendOpSend env op cb =
        if !u.canSend (op.started cb pid) then
          ((u.assert .send (!op.paused)).modifySendOp op.id ({ · with paused := true }),
            .success, false)
        else (u, .success, true) := by
  have hmem : op.id ∈ s.sendOps.map SendOp.id := List.mem_map.mpr ⟨op, hop, rfl⟩
  have hmark := sendMark_shows hr hop
  have hacts := fun b => sendMark_acts (b := b) hop
  unfold sendOpSend
  dsimp only
  set t := (s.allowNextPrepare.emit (.publishSend op.id op.qos)).modifySendOp op.id
    fun _ => { op with sent := true }
  split
  · exact Or.inl ⟨_, _, rfl⟩
  · rename_i htimer
    split
    · exact Or.inl ⟨_, _, rfl⟩
    · rename_i htopic
      -- the packet identifier and the callback are stored
      have hpid : ∀ a, Still a t
          (if op.qos = .atMostOnceDelivery then (t, op.packetId) else t.allocPacketId env).1 := by
        intro a
        split
        · exact .refl a t
        · exact (Still.refl a t).allocPacketId env
      have hin : { op with sent := true } ∈ t.sendOps := (hmark true).mem_setOp hmem
      have hd : Keyed.Distinct SendOp.id t.sendOps := by
        rw [(hmark true).sendOps_eq]
        exact hr.distinct.set _
      have hstore : ∀ b, Acts false b t
          ((if op.qos = .atMostOnceDelivery then (t, op.packetId) else t.allocPacketId env).1
            |>.modifySendOp op.id fun _ => op.started cb
              (if op.qos = .atMostOnceDelivery then (t, op.packetId) else t.allocPacketId env).2) := by
        intro b
        split
        · refine .of (.setSend op.id _ fun x hx hid => ?_) rfl
          obtain rfl := hd.eq hx hin hid
          exact ⟨rfl, rfl, rfl, rfl, fun _ => rfl, rfl⟩
        · exact .of (.takeSend env { op with sent := true } { op with sent := true, cb := cb } hin
            ⟨rfl, rfl, rfl, rfl, fun _ => rfl, rfl⟩) rfl
      have hqos : ({ op with sent := true, cb := cb } : SendOp).qos = op.qos := rfl
      have hpk : ({ op with sent := true, cb := cb } : SendOp).packetId = op.packetId := rfl
      rw [hqos, hpk]
      have hstored : SendOp.Stored env op cb t
          ((if op.qos = .atMostOnceDelivery then (t, op.packetId) else t.allocPacketId env).1
            |>.modifySendOp op.id fun _ => op.started cb
              (if op.qos = .atMostOnceDelivery then (t, op.packetId) else t.allocPacketId env).2) := by
        split
        · rename_i hq
          exact .plain hq
        · rename_i hq
          exact .taken hq (Option.isSome_iff_ne_none.mpr (by simpa using htimer)) (by simpa using htopic)
      set r := if op.qos = .atMostOnceDelivery then (t, op.packetId) else t.allocPacketId env
      exact Or.inr ⟨r.2, r.1.modifySendOp op.id fun _ => op.started cb r.2,
        fun a => ((hmark a).still (hpid a)).modify hr.distinct hmem rfl rfl rfl,
        fun b => Relation.ReflTransGen.trans (hacts b) (hstore b), hstored, rfl⟩

include hsent

/-- A `send` call that gives up has marked the publish. -/
theorem sendMark_micro (hstart : ∀ t o, o.id = op.id → G.start t o) (text : String) :
    Micro env G.plain a b s.allowNextPrepare
      (((s.allowNextPrepare.emit (.publishSend op.id op.qos)).modifySendOp op.id
        fun _ => { op with sent := true }).errorLog text) ∧
    { op with sent := true } ∈
      (((s.allowNextPrepare.emit (.publishSend op.id op.qos)).modifySendOp op.id
        fun _ => { op with sent := true }).errorLog text).sendOps := by
  have hmem : op.id ∈ s.sendOps.map SendOp.id := List.mem_map.mpr ⟨op, hop, rfl⟩
  have hf : Frame false b s s.allowNextPrepare := (Frame.refl false b s).allowNextPrepare
  have hopl : op ∈ s.allowNextPrepare.sendOps := hf.sendOps_eq ▸ hop
  have hmark := sendMark_shows hr hop
  rw [← hf.view] at hmark
  have heff : Eff false b s.allowNextPrepare _ _ [] := ⟨hmark false, sendMark_acts hop⟩
  set t := (s.allowNextPrepare.emit (.publishSend op.id op.qos)).modifySendOp op.id
    fun _ => { op with sent := true }
  constructor
  · exact .start op op.cb op.packetId hopl hsent (hstart _ op rfl)
      (((hmark true).still ((Frame.refl true b t).errorLog text).toStill).lockLe rfl)
      (heff.frame ((Frame.refl false b t).errorLog text))
  · have : (t.errorLog text).sendOps = Keyed.set SendOp.id { op with sent := true }
        s.allowNextPrepare.sendOps := heff.sendOps_eq
    rw [this, hf.sendOps_eq]
    exact Keyed.mem_set_self hmem

omit hr hop in
/-- A publish that was not sent is not postponed either: the assertion of `send` holds. -/
theorem unpaused_assert (hwf : op.Wf) (u : Client) : u.assert .send (!op.paused) = u := by
  rw [(hwf.of_unsent hsent).2.2]
  rfl

/-- What `send` does once the lock is released: it marks and stores the publish, and a run follows. -/
theorem sendOpSend_started (env : Env) (hstart : ∀ t o, o.id = op.id → G.start t o)
    (hleave : ∀ t o, o.id = op.id → G.leave t o) (cb : Bool) :
    ∃ u, ∃ x ∈ u.sendOps, x.id = op.id ∧ x.sent = true ∧
      Micro env G.plain a b s.allowNextPrepare u ∧
      MacroRun env G a b u (s.sendOpSend env op cb).1 := by
  have hmem : op.id ∈ s.sendOps.map SendOp.id := List.mem_map.mpr ⟨op, hop, rfl⟩
  have hf : Frame false b s s.allowNextPrepare := (Frame.refl false b s).allowNextPrepare
  have hrl : Reg s.allowNextPrepare := hf.reg hr
  have hopl : op ∈ s.allowNextPrepare.sendOps := hf.sendOps_eq ▸ hop
  rcases sendOpSend_cases hr hop env cb with ⟨text, ec, h⟩ | ⟨pid, u, hu, hacts, -, h⟩
  · -- an early return completes the publish
    rw [h]
    obtain ⟨hmicro, hop'⟩ : Micro env G.plain a b _ _ ∧ _ := sendMark_micro hr hop hsent hstart text
    have hr' := hmicro.reg hrl
    exact ⟨_, _, hop', rfl, rfl, hmicro, sendOpComplete_run hr' hop' (hleave _ _ rfl)
      ((Frame.refl a b _).toSet hr' hop') rfl rfl rfl rfl⟩
  · rw [h]
    have hxu : op.started cb pid ∈ u.sendOps := by
      rw [(hu false).sendOps_eq]
      exact Keyed.mem_set_self hmem
    rw [← hf.view] at hu
    have hmicro : Micro env G.plain a b s.allowNextPrepare u :=
      .start op cb pid hopl hsent (hstart _ op rfl) ((hu true).lockLe rfl) ⟨hu false, hacts b⟩
    have hr' := hmicro.reg hrl
    refine ⟨u, _, hxu, rfl, rfl, hmicro, ?_⟩
    split
    · rename_i hcan
      rw [unpaused_assert hsent (hr.wf op hop)]
      have hpause := ((Frame.refl a b u).toSet hr' hxu).modify (f := ({ · with paused := true }))
        (y := { op.started cb pid with paused := true }) hr'.distinct
        (List.mem_map.mpr ⟨op.started cb pid, hxu, rfl⟩) rfl rfl ⟨rfl, rfl, rfl, rfl, fun _ => rfl, rfl⟩
      exact .micro (.pause (op.started cb pid) hxu (hstart u _ rfl) rfl
        ((hr.wf op hop).of_unsent hsent).1 (by simpa using hcan) hpause)
    · exact .refl

/-- `SendOp::send`, up to its API guard. -/
theorem sendOpSend_run (hstart : ∀ t o, o.id = op.id → G.start t o)
    (hleave : ∀ t o, o.id = op.id → G.leave t o) (cb : Bool) :
    MacroRun env G a b s.allowNextPrepare (s.sendOpSend env op cb).1 := by
  obtain ⟨u, -, -, -, -, hmicro, hrun⟩ :=
    sendOpSend_started (b := b) hr hop hsent env hstart hleave cb
  exact (MacroRun.micro hmicro).trans hrun

/-- The publish `send` goes on with was sent, has made no progress, and may go. -/
theorem sendOpSend_ready {cb : Bool} (h : (s.sendOpSend env op cb).2.2 = true) :
    ∃ x ∈ (s.sendOpSend env op cb).1.sendOps, x.id = op.id ∧ x.sent = true ∧ x.cb = cb ∧
      x.fresh = true ∧ (s.sendOpSend env op cb).1.canSend x = true := by
  rcases sendOpSend_cases hr hop env cb with ⟨text, ec, heq⟩ | ⟨pid, u, hu, -, -, heq⟩
  · rw [heq] at h
    cases h
  · rw [heq] at h ⊢
    split at h
    · cases h
    · rename_i hcan
      rw [if_neg hcan]
      have hpub := (hr.wf op hop).of_unsent hsent
      refine ⟨op.started cb pid, ?_, rfl, rfl, rfl, ?_, by simpa using hcan⟩
      · rw [(hu true).sendOps_eq]
        exact Keyed.mem_set_self (List.mem_map.mpr ⟨op, hop, rfl⟩)
      · show (!op.published && !op.paused) = true
        rw [hpub.1, hpub.2.2]
        rfl

end Send

/-- The lock as `cancel` leaves it. -/
def Client.cancelLock (cb : Bool) (s : Client) : Client := if cb then s else s.allowNextPrepare

theorem Client.Frame.cancelLock (cb : Bool) : Frame false b s (s.cancelLock cb) := by
  unfold Client.cancelLock
  split
  · exact .refl false b s
  · exact (Frame.refl false b s).allowNextPrepare

/-- What `cancel` does once the lock is released. -/
theorem sendOpCancel_run (hr : Reg s) (hop : op ∈ s.sendOps) (hG : G.leave (s.cancelLock op.cb) op) :
    MacroRun env G a b (s.cancelLock op.cb) (s.sendOpCancel env op) := by
  have hf : Frame false b s (s.cancelLock op.cb) := .cancelLock _
  have hop' : op ∈ (s.cancelLock op.cb).sendOps := hf.sendOps_eq ▸ hop
  exact sendOpComplete_run (hf.reg hr) hop' hG ((Frame.refl a b _).toSet (hf.reg hr) hop') rfl rfl rfl rfl

/-! ## Topic aliases -/

/-- The alias tables are a part of the view. -/
theorem setAliases_eff (free : List Nat) (table : List TopicAliasInfo) (site : Site) (cond : Bool)
    (hsite : (Fault.assertFailed site).plain = true := by rfl) :
    Eff a b s (((s.setFreeAliases free).assert site cond).setSendAliases table)
      { s.view with sendTopicFreeAliases := free, sendTopicAliases := table } [] := by
  have h₁ : Eff a b s (s.setFreeAliases free) { s.view with sendTopicFreeAliases := free } [] :=
    ⟨⟨rfl, fun _ h => Or.inr h, Nat.le_refl _, fun _ => .of_ops rfl rfl (fun _ h => h) fun h => h⟩,
      .of (.sendAliases free) rfl⟩
  have h₂ := h₁.frame ((Frame.refl a b _).assert site cond hsite)
  have h₃ := h₂.trans (setSendAliases_eff (a := a) (b := b) table)
  rw [h₂.view] at h₃
  exact h₃

/-- An alias is allocated for a topic. -/
theorem allocPubTopicAlias_micro {topic : Option Str} (hG : ∀ x, topic = some x → G.alloc s x)
    (count : Nat) : Micro env G a b s (s.allocPubTopicAlias env topic count).1 := by
  have hfail : ∀ text ec, Micro env G a b s (s.fail text ec).1 :=
    fun text ec => .frame ((Quiet.refl s).fail text ec).frame
  unfold allocPubTopicAlias
  dsimp only
  split
  · exact .frame (.refl a b s)
  · split
    · exact hfail _ _
    · exact hfail _ _
    · rename_i topic htopic
      split
      · exact hfail _ _
      · rename_i hconn
        split
        · exact hfail _ _
        · rename_i hdisc
          split
          · exact hfail _ _
          · rename_i hmax
            split
            · exact hfail _ _
            · split
              · exact hfail _ _
              · split
                · rename_i info hfind
                  exact .aliasAgain topic count (by rw [show findTopicAlias
                    s.view.sendTopicAliases topic = some info from hfind]; rfl)
                    (setSendAliases_eff _)
                · rename_i hfind
                  refine .aliasNew topic count (hG topic rfl) (fun h => htopic (by rw [h])) ⟨?_, ?_⟩
                    (Nat.lt_of_not_le hmax) hfind (setAliases_eff _ _ _ _)
                  · simpa [Client.view] using hconn
                  · simpa [Client.view] using hdisc

/-- And freed. -/
theorem freePubTopicAlias_micro {topic : Option Str} (hG : ∀ x, topic = some x → G.alloc s x) :
    Micro env G a b s (s.freePubTopicAlias env topic).1 := by
  have hfail : ∀ text ec, Micro env G a b s (s.fail text ec).1 :=
    fun text ec => .frame ((Quiet.refl s).fail text ec).frame
  unfold freePubTopicAlias
  dsimp only
  split
  · exact .frame (.refl a b s)
  · split
    · exact hfail _ _
    · exact hfail _ _
    · split
      · exact hfail _ _
      · rename_i topic _ _ info hfind
        refine .aliasFree topic info (hG topic rfl) hfind ?_
        have := setAliases_eff (a := a) (b := b) (s := s)
          (s.sessionState.sendTopicFreeAliases ++ [info.aliasId])
          (s.clientState.sendTopicAliases.eraseIdx
            (lowerBound s.clientState.sendTopicAliases topic)) .timer true
        exact this

end Mqtt5
