import Mqtt5Client.Connectivity
import Mqtt5Client.Lib.Monitor

/-!
# Mqtt5Client — the delivery protocol of a publish

MQTT says for one message what its sender may hand over: PUBLISH once without DUP, then only repetitions
of it with DUP; for QoS 2 PUBREL after that, and no PUBLISH any more; for QoS 0 nothing else. `sender`
is this protocol as a monitor of the log, for one operation. Every operation of every run follows it,
and its state is read off the operation (`sender_refines`).

The elementary steps of publishes match the moves of the monitor one by one (`Micro.follows`). Two moves
the library does not check by itself. A retransmission is given to operations that were never transmitted
when an acknowledgement comes out of order, or when the session is resumed; and a `send` call transmits even
when its own API guard destroyed the operation. The runs are those in which neither happens
(`Sys.sendsLive`); a timeout needs no such condition, because a response timer only runs once the operation
was transmitted (`Armed`).
-/

namespace Mqtt5

open Client

variable {env : Env} {G : Guard} {a : Bool} {b : Scope} {s t u : Client} {sys sys' : Sys} {l : Label}
  {op op' x : SendOp} {id : OpId}

/-! ## The protocol -/

/-- What a PUBLISH says besides DUP and the alias of its topic. -/
def PublishMsg.content (msg : PublishMsg) : PublishMsg :=
  { msg with dup := false, props := msg.props.filter (!·.isTopicAlias) }

/-- `c'` is the message of `c` again: the identifier, the QoS, the payload, the retain flag and the properties
are the same, and so is the topic. Only where `c` left the topic to an alias `c'` may name one, which is the
topic the alias has in the table by then. -/
def PublishMsg.Again (c c' : PublishMsg) : Prop :=
  { c' with topic := c.topic } = c ∧ (c.topic = [] ∨ c'.topic = c.topic)
  deriving Decidable

namespace PublishMsg

variable {c c' c'' : PublishMsg}

theorem Again.refl (c : PublishMsg) : c.Again c := ⟨rfl, Or.inr rfl⟩

theorem Again.of_eq (h : c' = c) : c.Again c' := h ▸ .refl c

/-- A repetition of a repetition repeats the first. -/
theorem Again.trans (h : c.Again c') (h' : c'.Again c'') : c.Again c'' := by
  obtain ⟨hsame, htopic⟩ := h
  obtain ⟨hsame', htopic'⟩ := h'
  refine ⟨?_, ?_⟩
  · rw [← hsame, ← hsame']
  · rcases htopic with hnone | heq
    · exact Or.inl hnone
    · rcases htopic' with hnone' | heq'
      · exact Or.inl (heq ▸ hnone')
      · exact Or.inr (heq'.trans heq)

theorem Again.qos (h : c.Again c') : c'.qos = c.qos := by
  have hqos := congrArg PublishMsg.qos h.1
  exact hqos

theorem Again.packetId (h : c.Again c') : c'.packetId = c.packetId := by
  have hid := congrArg PublishMsg.packetId h.1
  exact hid

end PublishMsg

/-- How far a message has come. -/
inductive Stage where
  | prepared
  | waiting (qos : Qos)
  | inFlight (content : PublishMsg)
  | released (content : PublishMsg)
  | gone
  deriving DecidableEq, Repr

namespace Stage

/-- PUBLISH is handed over. -/
def publish (msg : PublishMsg) : Stage → Option Stage
  | .waiting qos => if msg.dup = false ∧ msg.qos = qos then some (.inFlight msg.content) else none
  | .inFlight content =>
    if msg.dup = true ∧ content.Again msg.content ∧ content.qos ≠ .atMostOnceDelivery then
      some (.inFlight msg.content)
    else none
  | _ => none

/-- PUBREL is handed over. -/
def pubrel (msg : AckMsg) : Stage → Option Stage
  | .inFlight content | .released content =>
    if content.qos = .exactlyOnceDelivery ∧ msg = { packetId := content.packetId } then
      some (.released content)
    else none
  | _ => none

def next (id : OpId) (x : Stage) : Event → Option Stage
  | .publishSend i qos =>
    if i = id then (if x = .prepared then some (.waiting qos) else none) else some x
  | .output (.publish msg) (some src) => if src.id = id then x.publish msg else some x
  | .output (.pubrel msg) (some src) => if src.id = id then x.pubrel msg else some x
  | .sendOpErased i => if i = id then (if x = .gone then none else some .gone) else some x
  | _ => some x

end Stage

/-- The protocol of one operation as a monitor of the log. -/
def sender (id : OpId) : Monitor Event Stage := ⟨Stage.next id⟩

/-- The stage the state of an operation shows. The topic its last PUBLISH left to an alias may have been
restored since. -/
inductive SendOp.At (op : SendOp) : Stage → Prop
  | prepared (hsent : op.sent = false) : At op .prepared
  | waiting (hsent : op.sent = true) (hpub : op.published = false) : At op (.waiting op.qos)
  | inFlight {c : PublishMsg} (hpub : op.published = true) (hacked : op.acked = false)
      (hc : c.Again op.pubMsg.content) : At op (.inFlight c)
  | released {c : PublishMsg} (hpub : op.published = true) (hacked : op.acked = true)
      (hc : c.Again op.pubMsg.content) : At op (.released c)

/-- The stage of an identity: the one of its operation, or that of an operation which is gone or was
never there. -/
structure Client.Follows (s : Client) (id : OpId) (y : Stage) : Prop where
  live : ∀ op ∈ s.sendOps, op.id = id → op.At y
  dead : (∀ op ∈ s.sendOps, op.id ≠ id) → y = .prepared ∨ y = .gone ∧ id < s.nextOpId

/-- An operation that was not transmitted holds a message without DUP. -/
def Client.Undup (s : Client) : Prop := ∀ op ∈ s.sendOps, op.published = false → op.pubMsg.dup = false

theorem SendOp.At.ne_gone {y : Stage} (h : op.At y) : y ≠ .gone := by
  cases h <;> simp

/-- The stage depends on the progress of the operation and on the content of the message. -/
theorem SendOp.At.congr {y : Stage} (h : op.At y) (hsent : op'.sent = op.sent)
    (hpub : op'.published = op.published) (hacked : op'.acked = op.acked)
    (hqos : op.published = false → op.sent = true → op'.qos = op.qos)
    (hagain : op.published = true → op.pubMsg.content.Again op'.pubMsg.content) : op'.At y := by
  cases h with
  | prepared h => exact .prepared (hsent.trans h)
  | waiting h h' =>
    rw [← hqos h' h]
    exact .waiting (hsent.trans h) (hpub.trans h')
  | inFlight h h' hc => exact .inFlight (hpub.trans h) (hacked.trans h') (hc.trans (hagain h))
  | released h h' hc => exact .released (hpub.trans h) (hacked.trans h') (hc.trans (hagain h))

/-! ## Moves of one operation -/

theorem Client.Shows.log_eq {v : PubView} {ids : List OpId} (h : Shows a s t v ids) : t.view.log = v.log :=
  congrArg PubView.log h.view

/-- The monitor reads what a step adds to the log. -/
def Advances (id : OpId) (s t : Client) (y : Stage) : Prop :=
  ∃ z, (∃ es, t.view.log = s.view.log ++ es ∧ (sender id).run y es = some z) ∧ t.Follows id z

/-- A step that logs nothing and leaves the queue. -/
theorem advances_same {y : Stage} (h : s.Follows id y) (hops : t.sendOps = s.sendOps)
    (hnext : s.nextOpId ≤ t.nextOpId)
    (hlog : ∃ es, t.view.log = s.view.log ++ es ∧ (sender id).run y es = some y) : Advances id s t y := by
  refine ⟨y, hlog, ⟨fun op hop => h.live op (hops ▸ hop), fun hnone => ?_⟩⟩
  rw [hops] at hnone
  exact (h.dead hnone).imp_right fun hgone => ⟨hgone.1, Nat.lt_of_lt_of_le hgone.2 hnext⟩

/-- A step that changes one operation. -/
theorem advances_set {y : Stage} {es : List Event} (h : s.Follows id y)
    (hops : t.sendOps = Keyed.set SendOp.id op' s.sendOps) (hop : op ∈ s.sendOps) (hid : op'.id = op.id)
    (hnext : s.nextOpId ≤ t.nextOpId) (hlog : t.view.log = s.view.log ++ es)
    (hothers : op.id ≠ id → (sender id).run y es = some y)
    (hself : op.id = id → op.At y → ∃ z, (sender id).run y es = some z ∧ op'.At z) :
    Advances id s t y := by
  have hkey : op'.id ∈ s.sendOps.map SendOp.id := List.mem_map.mpr ⟨op, hop, hid.symm⟩
  by_cases hsame : op.id = id
  · obtain ⟨z, hrun, hz⟩ := hself hsame (h.live op hop hsame)
    refine ⟨z, ⟨es, hlog, hrun⟩, ⟨fun o ho hoid => ?_, fun hnone => ?_⟩⟩
    · rw [hops] at ho
      rcases (Keyed.mem_set hkey).mp ho with rfl | ⟨-, hne⟩
      · exact hz
      · exact absurd ((hoid.trans hsame.symm).trans hid.symm) hne
    · exact absurd (hid.trans hsame) (hnone op' (hops ▸ (Keyed.mem_set hkey).mpr (Or.inl rfl)))
  · refine ⟨y, ⟨es, hlog, hothers hsame⟩, ⟨fun o ho hoid => ?_, fun hnone => ?_⟩⟩
    · rw [hops] at ho
      rcases (Keyed.mem_set hkey).mp ho with rfl | ⟨ho, -⟩
      · exact absurd (hid.symm.trans hoid) hsame
      · exact h.live o ho hoid
    · have hold : ∀ o ∈ s.sendOps, o.id ≠ id := by
        intro o ho hoid
        refine hnone o (hops ▸ (Keyed.mem_set hkey).mpr (Or.inr ⟨ho, ?_⟩)) hoid
        rw [hid, hoid]
        exact fun heq => hsame heq.symm
      exact (h.dead hold).imp_right fun hgone => ⟨hgone.1, Nat.lt_of_lt_of_le hgone.2 hnext⟩

/-- A step that removes one operation. -/
theorem advances_erase {y : Stage} {es : List Event} (hr : Reg s) (h : s.Follows id y)
    (hop : op ∈ s.sendOps) (hops : t.sendOps = Keyed.erase SendOp.id op.id s.sendOps)
    (hnext : s.nextOpId ≤ t.nextOpId) (hlog : t.view.log = s.view.log ++ es)
    (hothers : op.id ≠ id → (sender id).run y es = some y)
    (hself : op.id = id → op.At y → (sender id).run y es = some .gone) : Advances id s t y := by
  by_cases hsame : op.id = id
  · refine ⟨.gone, ⟨es, hlog, hself hsame (h.live op hop hsame)⟩, ⟨fun o ho hoid => ?_, fun _ => ?_⟩⟩
    · rw [hops] at ho
      have hne : o.id ≠ op.id := (hr.distinct.mem_erase.mp ho).2
      exact absurd (hoid.trans hsame.symm) hne
    · exact Or.inr ⟨rfl, Nat.lt_of_lt_of_le (hsame ▸ hr.lt op hop) hnext⟩
  · refine ⟨y, ⟨es, hlog, hothers hsame⟩, ⟨fun o ho hoid => ?_, fun hnone => ?_⟩⟩
    · rw [hops] at ho
      exact h.live o (Keyed.mem_of_mem_erase ho) hoid
    · have hold : ∀ o ∈ s.sendOps, o.id ≠ id := by
        intro o ho hoid
        refine hnone o (hops ▸ hr.distinct.mem_erase.mpr ⟨ho, ?_⟩) hoid
        rw [hoid]
        exact fun heq => hsame heq.symm
      exact (h.dead hold).imp_right fun hgone => ⟨hgone.1, Nat.lt_of_lt_of_le hgone.2 hnext⟩

/-! ## The content of a message -/

/-- The part of a property list that `content` looks at does not see the alias that is dropped. -/
theorem filter_eraseP_isTopicAlias (props : List Property) :
    (props.eraseP (·.isTopicAlias)).filter (!·.isTopicAlias) = props.filter (!·.isTopicAlias) := by
  induction props with
  | nil => rfl
  | cons p props ih =>
    cases hp : p.isTopicAlias with
    | true =>
      rw [List.eraseP_cons_of_pos hp, List.filter_cons_of_neg (by simp [hp])]
    | false =>
      rw [List.eraseP_cons_of_neg (by simp [hp]), List.filter_cons_of_pos (by simp [hp]),
        List.filter_cons_of_pos (by simp [hp]), ih]

/-- A message whose alias is dropped, with the topic it had or with the one it left out. -/
theorem again_dropAlias {msg : PublishMsg} {topic : List Char} (h : msg.topic = [] ∨ topic = msg.topic) :
    msg.content.Again
      ({ msg with topic := topic, props := msg.props.eraseP (·.isTopicAlias) } : PublishMsg).content := by
  refine ⟨?_, h⟩
  unfold PublishMsg.content
  dsimp only
  rw [filter_eraseP_isTopicAlias]

/-- The message that is sent again after a reconnection is the one it was. -/
theorem restoreTopic_again {table : List TopicAliasInfo} {msg : PublishMsg}
    (h : op.restoreTopic table = some msg) :
    op.pubMsg.content.Again msg.content ∧ msg.dup = op.pubMsg.dup := by
  unfold SendOp.restoreTopic at h
  dsimp only at h
  split at h
  · cases h
    exact ⟨.refl _, rfl⟩
  · split at h
    · cases h
      exact ⟨again_dropAlias (Or.inr rfl), rfl⟩
    · split at h
      · rename_i hnone
        split at h
        · cases h
        · cases h
          exact ⟨again_dropAlias (Or.inl hnone), rfl⟩
      · cases h
        exact ⟨again_dropAlias (Or.inr rfl), rfl⟩

/-- A message with its topic put back repeats the one without. -/
theorem retopic_again {table : List TopicAliasInfo} {msg : PublishMsg}
    (h : env.cfg.hasTopicAliases = true ∧ op.restoreTopic table = some msg ∨
      env.cfg.hasTopicAliases = false ∧ msg = op.pubMsg) :
    op.pubMsg.content.Again msg.content ∧ msg.dup = op.pubMsg.dup := by
  rcases h with ⟨-, h⟩ | ⟨-, rfl⟩
  · exact restoreTopic_again h
  · exact ⟨.refl _, rfl⟩

/-! ## Elementary steps -/

theorem undup_set (hu : s.Undup) (hops : t.sendOps = Keyed.set SendOp.id op' s.sendOps)
    (hmem : op ∈ s.sendOps) (hid : op'.id = op.id) (hdup : op'.published = false → op'.pubMsg.dup = false) :
    t.Undup := by
  intro o ho hpub
  rw [hops] at ho
  rcases (Keyed.mem_set (List.mem_map.mpr ⟨op, hmem, hid.symm⟩)).mp ho with rfl | ⟨ho, -⟩
  · exact hdup hpub
  · exact hu o ho hpub

/-- Only a retransmission sets DUP. -/
theorem Micro.undup (h : Micro env G a b s t) (hu : s.Undup)
    (hdup : ∀ op ∈ s.sendOps, G.dup s op → op.published = true) : t.Undup := by
  have hsame : t.sendOps = s.sendOps → t.Undup := fun hops op hop => hu op (hops ▸ hop)
  have hsub : (∀ op ∈ t.sendOps, op ∈ s.sendOps) → t.Undup := fun hsub op hop => hu op (hsub op hop)
  cases h with
  | create timer hc hG hid h =>
    intro op hop hpub
    rw [h.sendOps_eq] at hop
    rcases List.mem_append.mp hop with hop | hop
    · exact hu op hop hpub
    · rw [List.mem_singleton.mp hop]
  | config op op' hop hG hsent hs hp h =>
    refine undup_set hu h.sendOps_eq hop hs.id fun hpub => ?_
    rw [hs.dup]
    exact hu op hop (hs.published.symm.trans hpub)
  | configBasic op op' config table hop hG hsent hs ht h =>
    refine undup_set hu h.sendOps_eq hop hs.id fun hpub => ?_
    rw [hs.dup]
    exact hu op hop (hs.published.symm.trans hpub)
  | start op cb pid hop hsent hG hl h => exact undup_set hu h.sendOps_eq hop rfl fun hpub => hu op hop hpub
  | pause op hop hG hsent hpub hcan h =>
    exact undup_set hu h.sendOps_eq hop rfl fun hpub => hu op hop hpub
  | transmit op hop hwhy hqos hfits h =>
    exact undup_set hu h.sendOps_eq hop rfl fun hpub => absurd hpub (by simp)
  | rewind op hop hpaused hG h => exact undup_set hu h.sendOps_eq hop rfl fun hpub => hu op hop hpub
  | leave op hop hG h =>
    refine hsub fun o ho => ?_
    cases h with
    | erase h =>
      rw [h.sendOps_eq] at ho
      exact Keyed.mem_of_mem_erase ho
    | deliver hwhy hqos hfits h =>
      rw [h.sendOps_eq] at ho
      exact Keyed.mem_of_mem_erase ho
  -- the only update that sets DUP is about a publish that was transmitted
  | dup op hop hG hacked h =>
    refine undup_set hu h.sendOps_eq hop rfl fun hpub => ?_
    have hpub' : op.published = false := hpub
    rw [hdup op hop hG] at hpub'
    cases hpub'
  | pubrelDup op hop hG hacked h => exact undup_set hu h.sendOps_eq hop rfl fun hpub => hu op hop hpub
  | acked op hop hG hlegit hqos hacked h =>
    exact undup_set hu h.sendOps_eq hop rfl fun hpub => hu op hop hpub
  | retopic op msg attempts hop hpaused hG hmsg h =>
    refine undup_set hu h.sendOps_eq hop rfl fun hpub => ?_
    show msg.dup = false
    rw [(retopic_again hmsg).2]
    exact hu op hop hpub
  | frame h => exact hsame h.sendOps_eq
  | session c hG h =>
    refine hsame (h.sendOps_eq.trans ?_)
    cases c <;> rfl
  | _ =>
    rename_i h
    exact hsame h.sendOps_eq

/-- A new operation. -/
theorem advances_create {y : Stage} (hr : Reg s) (h : s.Follows id y) (hops : t.sendOps = s.sendOps ++ [op])
    (hid : op.id = s.nextOpId) (hsent : op.sent = false) (hnext : s.nextOpId ≤ t.nextOpId)
    (hlog : t.view.log = s.view.log) : Advances id s t y := by
  refine ⟨y, ⟨[], by rw [hlog, List.append_nil], rfl⟩, ⟨fun o ho hoid => ?_, fun hnone => ?_⟩⟩
  · rw [hops] at ho
    rcases List.mem_append.mp ho with ho | ho
    · exact h.live o ho hoid
    · rw [List.mem_singleton.mp ho] at hoid ⊢
      have hfresh : id = s.nextOpId := hoid.symm.trans hid
      -- the identity is new, so nothing happened to it yet
      have hnew : ∀ o ∈ s.sendOps, o.id ≠ id := by
        intro o ho heq
        exact Nat.ne_of_lt (hr.lt o ho) (heq.trans hfresh)
      rcases h.dead hnew with rfl | ⟨-, hlt⟩
      · exact .prepared hsent
      · exact absurd hfresh (Nat.ne_of_lt hlt)
  · have hold : ∀ o ∈ s.sendOps, o.id ≠ id :=
      fun o ho => hnone o (hops ▸ List.mem_append_left _ ho)
    exact (h.dead hold).imp_right fun hgone => ⟨hgone.1, Nat.lt_of_lt_of_le hgone.2 hnext⟩

/-- A step that changes one operation and logs nothing. -/
theorem advances_silent {y : Stage} (h : s.Follows id y)
    (hops : t.sendOps = Keyed.set SendOp.id op' s.sendOps) (hop : op ∈ s.sendOps) (hid : op'.id = op.id)
    (hnext : s.nextOpId ≤ t.nextOpId) (hlog : t.view.log = s.view.log) (hat : op.At y → op'.At y) :
    Advances id s t y :=
  advances_set h hops hop hid hnext (hlog.trans (List.append_nil _).symm) (fun _ => rfl)
    fun _ hself => ⟨y, rfl, hat hself⟩

/-- A step that hands over a packet of one operation. -/
theorem advances_output {y : Stage} {msg : OutMsg} (h : s.Follows id y)
    (hops : t.sendOps = Keyed.set SendOp.id op' s.sendOps) (hop : op ∈ s.sendOps) (hid : op'.id = op.id)
    (hnext : s.nextOpId ≤ t.nextOpId) (hlog : t.view.log = s.view.log ++ [.output msg (some op.source)])
    (hother : op.id ≠ id → Stage.next id y (.output msg (some op.source)) = some y)
    (hat : op.id = id → op.At y → ∃ z, Stage.next id y (.output msg (some op.source)) = some z ∧ op'.At z) :
    Advances id s t y := by
  refine advances_set h hops hop hid hnext hlog (fun hne => ?_) fun heq hself => ?_
  · rw [Monitor.run_singleton]
    exact hother hne
  · obtain ⟨z, hz, hzat⟩ := hat heq hself
    exact ⟨z, by rw [Monitor.run_singleton]; exact hz, hzat⟩

/-! ### What an operation shows of its stage -/

/-- A publish that was not handed over waits. -/
theorem SendOp.At.eq_waiting {y : Stage} (h : op.At y) (hsent : op.sent = true)
    (hpub : op.published = false) : y = .waiting op.qos := by
  cases h with
  | prepared h => rw [hsent] at h; cases h
  | waiting => rfl
  | inFlight h => rw [hpub] at h; cases h
  | released h => rw [hpub] at h; cases h

/-- One that was handed over and not acknowledged is in flight. -/
theorem SendOp.At.inFlight_of {y : Stage} (h : op.At y) (hsent : op.sent = true)
    (hpub : op.published = true) (hacked : op.acked = false) :
    ∃ c, y = .inFlight c ∧ c.Again op.pubMsg.content := by
  cases h with
  | prepared h => rw [hsent] at h; cases h
  | waiting _ h => rw [hpub] at h; cases h
  | inFlight _ _ hc => exact ⟨_, rfl, hc⟩
  | released _ h _ => rw [hacked] at h; cases h

/-- One that was handed over is in flight or released. -/
theorem SendOp.At.published_of {y : Stage} (h : op.At y) (hsent : op.sent = true)
    (hpub : op.published = true) :
    ∃ c, (y = .inFlight c ∨ y = .released c) ∧ c.Again op.pubMsg.content := by
  cases h with
  | prepared h => rw [hsent] at h; cases h
  | waiting _ h => rw [hpub] at h; cases h
  | inFlight _ _ hc => exact ⟨_, Or.inl rfl, hc⟩
  | released _ _ hc => exact ⟨_, Or.inr rfl, hc⟩

/-! ### The moves -/

section Moves

variable (hr : Reg s) (hu : s.Undup) {y : Stage} (hy : s.Follows id y) (hop : op ∈ s.sendOps)
  (hnext : s.nextOpId ≤ t.nextOpId)

include hy hop hnext

/-- The operation is sent. -/
theorem advances_start (hsent : op.sent = false) (hpub : op.published = false)
    (hops : t.sendOps = Keyed.set SendOp.id op' s.sendOps) (hid : op'.id = op.id) (hat' : op'.At (.waiting op.qos))
    (hlog : t.view.log = s.view.log ++ [.publishSend op.id op.qos]) : Advances id s t y := by
  refine advances_set hy hops hop hid hnext hlog (fun hne => ?_) fun heq hat => ⟨.waiting op.qos, ?_, hat'⟩
  · rw [Monitor.run_singleton]
    exact if_neg hne
  · obtain rfl : y = .prepared := by
      cases hat <;> simp_all
    rw [Monitor.run_singleton]
    exact (if_pos heq).trans (if_pos rfl)

include hu

omit hy hnext in
/-- The first transmission as a move of the monitor. -/
theorem next_first (hsent : op.sent = true) (hpub : op.published = false) (heq : op.id = id)
    (hat : op.At y) : Stage.next id y (.output (.publish op.pubMsg) (some op.source)) =
      some (.inFlight op.pubMsg.content) := by
  rw [hat.eq_waiting hsent hpub]
  exact (if_pos heq).trans (if_pos ⟨hu op hop hpub, rfl⟩)

theorem advances_first (hsent : op.sent = true) (hpub : op.published = false)
    (hops : t.sendOps = Keyed.set SendOp.id op' s.sendOps) (hid : op'.id = op.id)
    (hat' : op'.At (.inFlight op.pubMsg.content))
    (hlog : t.view.log = s.view.log ++ [.output (.publish op.pubMsg) (some op.source)]) :
    Advances id s t y :=
  advances_output hy hops hop hid hnext hlog (fun hne => if_neg hne) fun heq hat =>
    ⟨_, next_first hu hop hsent hpub heq hat, hat'⟩

include hr

/-- A publish of QoS 0 goes with its transmission. -/
theorem advances_deliver (hsent : op.sent = true) (hpub : op.published = false)
    (hops : t.sendOps = Keyed.erase SendOp.id op.id s.sendOps)
    (hlog : t.view.log = s.view.log ++
      [.output (.publish op.pubMsg) (some op.source), .sendOpErased op.id]) : Advances id s t y := by
  refine advances_erase hr hy hop hops hnext hlog (fun hne => ?_) fun heq hat => ?_
  · have hsame : Stage.next id y (.output (.publish op.pubMsg) (some op.source)) = some y := if_neg hne
    rw [Monitor.run_cons]
    show (Stage.next id y (.output (.publish op.pubMsg) (some op.source))).bind _ = _
    rw [hsame]
    show (sender id).run y [.sendOpErased op.id] = some y
    rw [Monitor.run_singleton]
    exact if_neg hne
  · rw [Monitor.run_cons]
    show (Stage.next id y (.output (.publish op.pubMsg) (some op.source))).bind _ = _
    rw [next_first hu hop hsent hpub heq hat]
    show (sender id).run (.inFlight op.pubMsg.content) [.sendOpErased op.id] = some .gone
    rw [Monitor.run_singleton]
    exact (if_pos heq).trans (if_neg (by simp))

omit hu

/-- The operation goes. -/
theorem advances_leave (hops : t.sendOps = Keyed.erase SendOp.id op.id s.sendOps)
    (hlog : t.view.log = s.view.log ++ [.sendOpErased op.id]) : Advances id s t y := by
  refine advances_erase hr hy hop hops hnext hlog (fun hne => ?_) fun heq hat => ?_
  · rw [Monitor.run_singleton]
    exact if_neg hne
  · rw [Monitor.run_singleton]
    exact (if_pos heq).trans (if_neg hat.ne_gone)

/-- A repetition with DUP. -/
theorem advances_dup (hpub : op.published = true) (hacked : op.acked = false)
    (hops : t.sendOps = Keyed.set SendOp.id op' s.sendOps) (hid : op'.id = op.id)
    (hat' : op'.At (.inFlight op.pubMsg.content)) (hlog : t.view.log = s.view.log ++
      [.output (.publish { op.pubMsg with dup := true }) (some op.source)]) : Advances id s t y := by
  obtain ⟨-, hqos, hsent⟩ := (hr.wf op hop).published hpub
  refine advances_output hy hops hop hid hnext hlog (fun hne => if_neg hne) fun heq hat =>
    ⟨.inFlight op.pubMsg.content, ?_, hat'⟩
  obtain ⟨c, rfl, hc⟩ := hat.inFlight_of hsent hpub hacked
  have hcqos : c.qos ≠ .atMostOnceDelivery := fun h => hqos (hc.qos.trans h)
  exact (if_pos heq).trans (if_pos ⟨rfl, hc, hcqos⟩)

/-- PUBREL, for the first time or again. -/
theorem advances_pubrel (hpub : op.published = true) (hqos : op.qos = .exactlyOnceDelivery)
    (hops : t.sendOps = Keyed.set SendOp.id op' s.sendOps) (hid : op'.id = op.id)
    (hat' : ∀ c, c.Again op.pubMsg.content → op'.At (.released c)) (hlog : t.view.log = s.view.log ++
      [.output (.pubrel { packetId := op.packetId }) (some op.source)]) : Advances id s t y := by
  have hsent := ((hr.wf op hop).published hpub).2.2
  refine advances_output hy hops hop hid hnext hlog (fun hne => if_neg hne) fun heq hat => ?_
  obtain ⟨c, hy, hc⟩ := hat.published_of hsent hpub
  have hpacket : ({ packetId := op.packetId } : AckMsg) = { packetId := c.packetId } :=
    congrArg (fun id => ({ packetId := id } : AckMsg)) hc.packetId
  refine ⟨.released c, ?_, hat' c hc⟩
  rcases hy with rfl | rfl <;> exact (if_pos heq).trans (if_pos ⟨hc.qos.symm.trans hqos, hpacket⟩)

end Moves

/-- Every elementary step is a move of the protocol, those apart that deal with an operation that is
gone. -/
theorem Micro.follows (h : Micro env G a b s t) (hr : Reg s) (hu : s.Undup)
    (hstray : ∀ s op, ¬G.stray s op)
    (hdup : ∀ op ∈ s.sendOps, G.dup s op → op.published = true) {y : Stage} (hy : s.Follows id y) :
    Advances id s t y := by
  have hsame : t.view.log = s.view.log → ∃ es, t.view.log = s.view.log ++ es ∧ (sender id).run y es = some y :=
    fun heq => ⟨[], by rw [heq, List.append_nil], rfl⟩
  cases h with
  | frame h => exact advances_same hy h.sendOps_eq h.nextOpId (hsame (by rw [h.view]))
  | report i status response h =>
    exact advances_same hy h.sendOps_eq h.nextOpId ⟨_, h.log_eq, rfl⟩
  | connect msg h => exact advances_same hy h.sendOps_eq h.nextOpId ⟨_, h.log_eq, rfl⟩
  | create timer hc hG hid h =>
    exact advances_create hr hy h.sendOps_eq rfl rfl h.nextOpId h.log_eq
  | config op op' hop hG hsent hs hp h =>
    have hpub := ((hr.wf op hop).of_unsent hsent).1
    refine advances_silent hy h.sendOps_eq hop hs.id h.nextOpId h.log_eq fun hat => ?_
    exact hat.congr hs.sent hs.published hs.acked (fun _ hs => absurd hs (by simp [hsent]))
      fun hp => absurd hp (by simp [hpub])
  | configBasic op op' config table hop hG hsent hs ht h =>
    have hpub := ((hr.wf op hop).of_unsent hsent).1
    refine advances_silent hy h.sendOps_eq hop hs.id h.nextOpId h.log_eq fun hat => ?_
    exact hat.congr hs.sent hs.published hs.acked (fun _ hs => absurd hs (by simp [hsent]))
      fun hp => absurd hp (by simp [hpub])
  | start op cb pid hop hsent hG hl h =>
    have hpub := ((hr.wf op hop).of_unsent hsent).1
    exact advances_start hy hop h.nextOpId hsent hpub h.sendOps_eq rfl (.waiting rfl hpub) h.log_eq
  | pause op hop hG hsent hpub hcan h =>
    refine advances_silent hy h.sendOps_eq hop rfl h.nextOpId h.log_eq fun hat => ?_
    exact hat.congr rfl rfl rfl (fun _ _ => rfl) fun _ => .refl _
  | rewind op hop hpaused hG h =>
    refine advances_silent hy h.sendOps_eq hop rfl h.nextOpId h.log_eq fun hat => ?_
    exact hat.congr rfl rfl rfl (fun _ _ => rfl) fun _ => .refl _
  | retopic op msg attempts hop hpaused hG hmsg h =>
    refine advances_silent hy h.sendOps_eq hop rfl h.nextOpId h.log_eq fun hat => ?_
    have hagain := (retopic_again hmsg).1
    exact hat.congr rfl rfl rfl (fun _ _ => hagain.qos) fun _ => hagain
  | transmit op hop hwhy hqos hfits h =>
    obtain ⟨hpub, hacked, hsent⟩ := hwhy.progress (hr.wf op hop)
    exact advances_first hu hy hop h.nextOpId hsent hpub h.sendOps_eq rfl
      (.inFlight rfl hacked (.refl _)) h.log_eq
  | dup op hop hG hacked h =>
    have hpub := hdup op hop hG
    exact advances_dup hr hy hop h.nextOpId hpub hacked h.sendOps_eq rfl
      (.inFlight hpub hacked (.refl _)) h.log_eq
  | pubrelDup op hop hG hacked h =>
    obtain ⟨hpub, hqos⟩ := (hr.wf op hop).acked hacked
    exact advances_pubrel hr hy hop h.nextOpId hpub hqos h.sendOps_eq rfl
      (fun _ hc => .released hpub hacked hc) h.log_eq
  | acked op hop hG hlegit hqos hacked h =>
    have hpub := legit_published hlegit
    exact advances_pubrel hr hy hop h.nextOpId hpub hqos h.sendOps_eq rfl
      (fun _ hc => .released hpub rfl hc) h.log_eq
  | leave op hop hG h =>
    cases h with
    | erase h => exact advances_leave hr hy hop h.nextOpId h.sendOps_eq h.log_eq
    | deliver hwhy hqos hfits h =>
      obtain ⟨hpub, hacked, hsent⟩ := hwhy.progress (hr.wf op hop)
      exact advances_deliver hr hu hy hop h.nextOpId hsent hpub h.sendOps_eq
        (h.log_eq.trans (List.append_assoc _ _ _))
  | session c hG h =>
    refine advances_same hy (h.sendOps_eq.trans ?_) h.nextOpId (hsame (h.log_eq.trans ?_))
    · cases c <;> rfl
    · cases c <;> rfl
  | stray op n hop hold hG => exact absurd hG (hstray _ _)
  | _ =>
    rename_i h
    exact advances_same hy h.sendOps_eq h.nextOpId (hsame h.log_eq)

/-! ## Response timers -/

/-- An operation with this identity, if it is still there, was transmitted. -/
def Client.Transmitted (id : OpId) (s : Client) : Prop :=
  id < s.nextOpId ∧ ∀ op ∈ s.sendOps, op.id = id → op.published = true

/-- A response timer only runs for an operation that was transmitted. -/
def Client.Armed (s : Client) : Prop := ∀ id ∈ s.sendTimers, s.Transmitted id

/-- No change takes a transmission back. -/
theorem Change.published (h : Change env G s op op') (hpub : op.published = true) :
    op'.published = true := by
  cases h with
  | config x c hG hsent hsame => rw [hsame.published, hpub]
  | transmit => rfl
  | _ => exact hpub

/-- Identifiers are never used again. -/
theorem Micro.nextOpId_le (h : Micro env G a b s t) : s.nextOpId ≤ t.nextOpId := by
  cases h with
  | frame h => exact h.nextOpId
  | leave op hop hG h =>
    cases h with
    | erase h => exact h.nextOpId
    | deliver hwhy hqos hfits h => exact h.nextOpId
  | _ =>
    rename_i h
    exact h.nextOpId

/-- What was handed over stays in the log. -/
theorem Micro.transmitted (h : Micro env G a b s t) (hs : s.Transmitted id) :
    t.Transmitted id := by
  refine ⟨Nat.lt_of_lt_of_le hs.1 (Micro.nextOpId_le h), fun o ho hid => ?_⟩
  cases h.queue with
  | same hops => exact hs.2 o (hops ▸ ho) hid
  | change op x hop hc hops =>
    rw [hops] at ho
    rcases (Keyed.mem_set (List.mem_map.mpr ⟨op, hop, hc.id.symm⟩)).mp ho with rfl | ⟨ho, -⟩
    · exact hc.published (hs.2 op hop (hc.id.symm.trans hid))
    · exact hs.2 o ho hid
  | leave op hop hG hops =>
    rw [hops] at ho
    exact hs.2 o (Keyed.mem_of_mem_erase ho) hid
  | create timer hG hops =>
    rw [hops] at ho
    rcases List.mem_append.mp ho with ho | ho
    · exact hs.2 o ho hid
    · rw [List.mem_singleton.mp ho] at hid
      exact absurd hid.symm (Nat.ne_of_lt hs.1)

/-- A timer that is armed with a change of its operation. -/
theorem transmitted_set {v : PubView} (hr : Reg s) (h : Shows a s t v [op.id]) (hop : op ∈ s.sendOps)
    (hops : v.sendOps = Keyed.set SendOp.id op' s.sendOps) (hid : op'.id = op.id)
    (hpub : op'.published = true) : t.Transmitted op.id := by
  refine ⟨Nat.lt_of_lt_of_le (hr.lt op hop) h.nextOpId, fun o ho hoid => ?_⟩
  rw [h.sendOps_eq, hops] at ho
  rcases (Keyed.mem_set (List.mem_map.mpr ⟨op, hop, hid.symm⟩)).mp ho with rfl | ⟨-, hne⟩
  · exact hpub
  · exact absurd (hoid.trans hid.symm) hne

/-- Timers are armed for operations that are transmitted then, or were before. -/
theorem Micro.armed (h : Micro env G a b s t) (hr : Reg s) (hstray : ∀ s op, ¬G.stray s op)
    (hdup : ∀ op ∈ s.sendOps, G.dup s op → op.published = true) (ha : s.Armed) : t.Armed := by
  have hold : ∀ id, id ∈ s.sendTimers → t.Transmitted id := fun id hid => h.transmitted (ha id hid)
  have hone : ∀ {v : PubView} {i : OpId}, Shows a s t v [i] → t.Transmitted i → t.Armed := by
    intro v i hshows hi id hid
    rcases hshows.timers id hid with hid | hid
    · rw [List.mem_singleton.mp hid]
      exact hi
    · exact hold id hid
  have hnone : ∀ {a' : Bool} {v : PubView}, Shows a' s t v [] → t.Armed := by
    intro a' v hshows id hid
    rcases hshows.timers id hid with hid | hid
    · cases hid
    · exact hold id hid
  cases h with
  | frame h => exact hnone h.toStill.shows
  | transmit op hop hwhy hqos hfits h =>
    exact hone h.toShows (transmitted_set hr h.toShows hop rfl rfl rfl)
  | dup op hop hG hacked h =>
    exact hone h.toShows (transmitted_set hr h.toShows hop rfl rfl (hdup op hop hG))
  | pubrelDup op hop hG hacked h =>
    exact hone h.toShows (transmitted_set hr h.toShows hop rfl rfl (hdup op hop hG))
  | acked op hop hG hlegit hqos hacked h =>
    have hpub := legit_published hlegit
    exact hone h.toShows (transmitted_set hr h.toShows hop rfl rfl hpub)
  | leave op hop hG h =>
    cases h with
    | erase h => exact hnone h.toShows
    | deliver hwhy hqos hfits h => exact hnone h.toShows
  | stray op n hop hold hG => exact absurd hG (hstray _ _)
  | _ =>
    rename_i h
    exact hnone h.toShows

/-! ## Runs of elementary steps -/

/-- The stages of two runs, one after the other. -/
theorem Advances.trans {y : Stage} (h : Advances id s t y)
    (h' : ∀ z, t.Follows id z → Advances id t u z) : Advances id s u y := by
  obtain ⟨z, ⟨es, hlog, hrun⟩, hz⟩ := h
  obtain ⟨w, ⟨fs, hlog', hrun'⟩, hw⟩ := h' z hz
  refine ⟨w, ⟨es ++ fs, ?_, Monitor.run_trans hrun hrun'⟩, hw⟩
  rw [hlog', hlog, List.append_assoc]

/-- What a step, or a sequence of steps, keeps. -/
structure Sends (s t : Client) : Prop where
  undup : t.Undup
  armed : t.Armed
  transmitted : ∀ id, s.Transmitted id → t.Transmitted id
  follows : ∀ id y, s.Follows id y → Advances id s t y

/-- Elementary steps follow the protocol when they retransmit only what was transmitted; `I` is what has
to be known for that. -/
theorem MicroRun.sends {I : Client → Prop} (h : MicroRun env G a b s t) (hr : Reg s) (hu : s.Undup)
    (ha : s.Armed) (hs : I s) (hstray : ∀ s op, ¬G.stray s op)
    (hI : ∀ {u v}, Micro env G a b u v → Reg u → I u → I v)
    (hdup : ∀ u, I u → ∀ op ∈ u.sendOps, G.dup u op → op.published = true) : Sends s t := by
  have hboth : Sends s t ∧ I t := by
    induction h with
    | refl => exact ⟨⟨hu, ha, fun _ h => h, fun id y hy => ⟨y, ⟨[], (List.append_nil _).symm, rfl⟩, hy⟩⟩, hs⟩
    | tail hsu h ih =>
      obtain ⟨hsends, hinv⟩ := ih
      have hreg := MicroRun.reg hsu hr
      have hpub := hdup _ hinv
      refine ⟨⟨h.undup hsends.undup hpub, h.armed hreg hstray hpub hsends.armed,
        fun id hid => h.transmitted (hsends.transmitted id hid), fun id y hy => ?_⟩, hI h hreg hinv⟩
      exact (hsends.follows id y hy).trans fun z hz => h.follows hreg hsends.undup hstray hpub hz
  exact hboth.1

/-! ## Expired timers -/

/-- Two publishes; a third one, in front of them, is still in preparation, because the cancellation of
a publish without callback released its lock. -/
def overtakenCalls : List (Api × Nat) :=
  connectCalls true {} { sessionPresent := false, reasonCode := ReasonCode.success } ++
  [(.publishPrepare, 1), (.publishConfigBasic 2 { topic := some ['t'], qos := .atLeastOnceDelivery }, 1),
   (.publishSend 2 false 0, 4), (.publishPrepare, 1),
   (.publishConfigBasic 3 { topic := some ['t'], qos := .atLeastOnceDelivery }, 1), (.publishCancel 2, 1)] ++
  publishCalls 4 .atLeastOnceDelivery 4 ++ [(packet (.puback { packetId := 2 }), 5)]

/-- Here the acknowledgement makes the library hand over the publish in preparation, with DUP. -/
example : ((machine .dynamic).exec (fun _ _ => true) Sys.fresh (script overtakenCalls)).any
    (fun sys => !decide ((sender 3).Accepts .prepared sys.client.log)) = true := by decide +kernel

end Mqtt5
