import Mqtt5Client.ExactlyOnce
import Mqtt5Client.SubFilter
import Mqtt5Client.SubRecord
import Mqtt5Client.TopicMatch

/-!
# Mqtt5Client — delivery

Which messages are reported to the application when subscriptions are verified. A message is meant for
the application when one of the filters the broker confirmed covers its topic, a shared one by what
follows its share name. The record holds filters as they were asked for, and the reception compares them
with the topic as a whole, so the two agree only on some filters.
-/

namespace Mqtt5

open Client

variable {env : Env} {s t : Client} {sys sys' : Sys} {l : Label} {filter topic : Str}
  {msg : RecvPublishMsg}

/-! ## What a filter covers -/

/-- What topics are compared with: the filter, or what follows the share name in a shared one. -/
def filterPart (filter : Str) : Str :=
  if isSharedTopicFilter filter then ((splitTopic (filter.drop 7)).map (·.2)).getD filter else filter

/-- A filter asks for the messages with a topic. -/
def covers (filter topic : Str) : Bool := matchLevels (levels (filterPart filter)) (levels topic)

theorem filterPart_plain (h : isSharedTopicFilter filter = false) : filterPart filter = filter := by
  unfold filterPart
  rw [h]
  rfl

/-- The filter part of a shared filter is what follows its share name. -/
theorem filterPart_shared {name sub : Str} (hname : '/' ∉ name) :
    filterPart ("$share/".toList ++ (name ++ '/' :: sub)) = sub := by
  have hshared : isSharedTopicFilter ("$share/".toList ++ (name ++ '/' :: sub)) = true :=
    isSharedTopicFilter_iff.mpr ⟨_, rfl⟩
  have hdrop : ("$share/".toList ++ (name ++ '/' :: sub)).drop 7 = name ++ '/' :: sub :=
    List.drop_left' rfl
  unfold filterPart
  rw [if_pos hshared, hdrop, splitTopic_append hname]
  rfl

/-- A shared filter that passes the verification has a name and a filter part. -/
theorem filterPart_of_verified (hcfg : env.cfg.hasTopicFormatVerification = true)
    (hverify : s.configState.verifyOutgoingTopic = true)
    (hshared : isSharedTopicFilter filter = true) (h : (s.verifySubFilter env filter).2 = true) :
    ∃ name, filter = "$share/".toList ++ (name ++ '/' :: filterPart filter) ∧ '/' ∉ name ∧
      name ≠ [] ∧ '+' ∉ name ∧ filterPart filter ≠ [] := by
  have herror : sharedFilterError s.sessionState.sharedSubsAvailable filter = none := by
    unfold verifySubFilter at h
    rw [hcfg, hverify] at h
    simp only [Bool.not_true, Bool.or_self, Bool.false_eq_true, if_false] at h
    split at h
    · cases h
    · split at h
      · cases h
      · assumption
  obtain ⟨rest, rfl⟩ := isSharedTopicFilter_iff.mp hshared
  obtain ⟨-, hpart⟩ := sharedFilterError_eq_none.mp herror rest rfl
  obtain ⟨name, sub, rfl, hname, hne, hplus, -, hsub⟩ := hpart
  rw [filterPart_shared hname]
  exact ⟨name, rfl, hname, hne, hplus, hsub⟩

/-! ## Filters the match takes for something else -/

/-- The levels of the text of a filter, the share name of a shared one included, match those of a topic; the
last level of the topic is not an empty one the filter goes on at. -/
def textMatches (filter topic : Str) : Bool :=
  matchLevels (levels filter) (levels topic) && !missesEmptyLevel (levels filter) (levels topic)

/-- A filter that asks for the topic is missed: it is shared, and the levels of its text are not those of the
topic, or it is not, and has a level for the empty last level of the topic. -/
def missed (filter topic : Str) : Bool :=
  if isSharedTopicFilter filter then covers filter topic && !textMatches filter topic
  else missesEmptyLevel (levels filter) (levels topic)

/-- A filter gets a topic it does not ask for: it is shared, and the topic has the levels of its text,
beginning with `$share`. -/
def rogue (filter topic : Str) : Bool :=
  isSharedTopicFilter filter && textMatches filter topic && !covers filter topic

/-- The text of a shared filter only matches topics that begin with `$share` and its share name. -/
theorem textMatches_shared {name sub : Str} (hname : '/' ∉ name) (hne : name ≠ []) (hplus : name ≠ ['+']) :
    textMatches ("$share/".toList ++ (name ++ '/' :: sub)) topic = true ↔
      ∃ rest, levels topic = "$share".toList :: name :: rest ∧
        matchLevels (levels sub) rest = true ∧ missesEmptyLevel (levels sub) rest = false := by
  have hlevels : levels ("$share/".toList ++ (name ++ '/' :: sub)) =
      "$share".toList :: name :: levels sub := by
    have hfirst : levels ("$share".toList ++ '/' :: (name ++ '/' :: sub)) =
        "$share".toList :: levels (name ++ '/' :: sub) :=
      List.splitOn_append_cons_self_of_not_mem (by decide) _
    have hsecond : levels (name ++ '/' :: sub) = name :: levels sub :=
      List.splitOn_append_cons_self_of_not_mem hname _
    rw [← hsecond, ← hfirst]
    rfl
  have hshare : ("$share".toList : Str) ≠ ['+'] := by decide
  have hlast : ¬(name = ['#'] ∧ levels sub = []) := fun h => levels_ne_nil sub h.2
  unfold textMatches
  rw [hlevels, Bool.and_eq_true, Bool.not_eq_true']
  constructor
  · rintro ⟨hmatch, hmiss⟩
    cases hts : levels topic with
    | nil => exact absurd hts (levels_ne_nil topic)
    | cons t ts =>
      rw [hts, matchLevels_cons (by simp)] at hmatch
      rw [hts] at hmiss
      cases ts with
      | nil =>
        -- the share name is left
        unfold matchLevels at hmatch
        rw [if_neg hlast, Bool.and_false] at hmatch
        cases hmatch
      | cons u rest =>
        rw [matchLevels_cons hlast] at hmatch
        rw [missesEmptyLevel_cons (by simp)] at hmiss
        simp only [hshare, hplus, decide_false, Bool.false_or, Bool.and_eq_true,
          decide_eq_true_eq] at hmatch
        obtain ⟨rfl, rfl, hmatch⟩ := hmatch
        refine ⟨rest, rfl, hmatch, ?_⟩
        cases rest with
        | nil =>
          obtain ⟨f, fs, hsub⟩ := List.exists_cons_of_ne_nil (levels_ne_nil sub)
          rw [hsub]
          rfl
        | cons v rest =>
          rw [missesEmptyLevel_cons (by simp)] at hmiss
          simpa using hmiss
  · rintro ⟨rest, hts, hmatch, hmiss⟩
    rw [hts, matchLevels_cons (by simp), matchLevels_cons hlast, missesEmptyLevel_cons (by simp)]
    refine ⟨by simpa using hmatch, ?_⟩
    cases rest with
    | nil =>
      unfold missesEmptyLevel
      simp [hne, hplus]
    | cons v rest =>
      rw [missesEmptyLevel_cons (by simp), hmiss]
      simp

/-- A shared filter that passed the verification is missed by every topic it asks for, those apart that begin
with `$share` themselves. -/
theorem missed_of_verified (hcfg : env.cfg.hasTopicFormatVerification = true)
    (hverify : s.configState.verifyOutgoingTopic = true)
    (hshared : isSharedTopicFilter filter = true) (h : (s.verifySubFilter env filter).2 = true)
    (hfirst : (levels topic).head? ≠ some "$share".toList) : missed filter topic = covers filter topic := by
  obtain ⟨name, hfilter, hname, hne, hplus, -⟩ := filterPart_of_verified hcfg hverify hshared h
  have htext : textMatches filter topic = false := by
    by_contra hmatch
    rw [Bool.not_eq_false, hfilter,
      textMatches_shared hname hne (fun heq => hplus (heq ▸ List.mem_singleton_self _))] at hmatch
    obtain ⟨rest, hlevels, -⟩ := hmatch
    rw [hlevels] at hfirst
    exact hfirst rfl
  unfold missed
  rw [if_pos hshared, htext, Bool.not_false, Bool.and_true]

/-- A filter is missed exactly when it asks for the topic and the comparison says no. -/
theorem missed_iff : missed filter topic = true ↔
    covers filter topic = true ∧ isTopicMatch filter topic = false := by
  rw [isTopicMatch_eq]
  unfold missed
  cases hshared : isSharedTopicFilter filter with
  | true =>
    rw [if_pos rfl, Bool.and_eq_true, Bool.not_eq_true']
    rfl
  | false =>
    unfold covers
    rw [filterPart_plain hshared, if_neg (by simp)]
    constructor
    · intro hmiss
      rw [hmiss]
      exact ⟨matchLevels_of_misses hmiss, Bool.and_false _⟩
    · rintro ⟨hmatch, hnot⟩
      rw [hmatch, Bool.true_and, Bool.not_eq_false'] at hnot
      exact hnot

/-- A filter gets what it does not ask for exactly when the comparison alone says yes. -/
theorem rogue_iff : rogue filter topic = true ↔
    covers filter topic = false ∧ isTopicMatch filter topic = true := by
  rw [isTopicMatch_eq]
  unfold rogue
  cases hshared : isSharedTopicFilter filter with
  | true =>
    rw [Bool.true_and, Bool.and_eq_true, Bool.not_eq_true', and_comm]
    rfl
  | false =>
    unfold covers
    rw [filterPart_plain hshared, Bool.false_and, Bool.false_and]
    refine iff_of_false Bool.false_ne_true ?_
    rintro ⟨hnot, hmatch⟩
    rw [hnot] at hmatch
    cases hmatch

/-- No filter of the record is missed and none gets a topic it does not ask for; or one that asks for the
topic is not missed; or a filter that is missed and one that gets what it does not ask for make up for each
other. -/
def Judged (filters : List Str) (topic : Str) : Prop :=
  (∀ f ∈ filters, missed f topic = false ∧ rogue f topic = false) ∨
    (∃ f ∈ filters, covers f topic = true ∧ missed f topic = false) ∨
    (∃ f ∈ filters, missed f topic = true) ∧ ∃ f ∈ filters, rogue f topic = true

instance (filters : List Str) (topic : Str) : Decidable (Judged filters topic) :=
  inferInstanceAs (Decidable (_ ∨ _ ∨ _))

/-- The reception and the filters agree. -/
theorem judged_iff {filters : List Str} : Judged filters topic ↔
    ((∃ f ∈ filters, isTopicMatch f topic = true) ↔ ∃ f ∈ filters, covers f topic = true) := by
  have hcovers : (∃ f ∈ filters, covers f topic = true) ↔
      (∃ f ∈ filters, covers f topic = true ∧ missed f topic = false) ∨
        ∃ f ∈ filters, missed f topic = true := by
    constructor
    · rintro ⟨f, hf, hc⟩
      cases hm : missed f topic with
      | true => exact Or.inr ⟨f, hf, hm⟩
      | false => exact Or.inl ⟨f, hf, hc, hm⟩
    · rintro (⟨f, hf, hc, -⟩ | ⟨f, hf, hm⟩)
      · exact ⟨f, hf, hc⟩
      · exact ⟨f, hf, (missed_iff.mp hm).1⟩
  have hmatch : (∃ f ∈ filters, isTopicMatch f topic = true) ↔
      (∃ f ∈ filters, covers f topic = true ∧ missed f topic = false) ∨
        ∃ f ∈ filters, rogue f topic = true := by
    constructor
    · rintro ⟨f, hf, hm⟩
      cases hc : covers f topic with
      | false => exact Or.inr ⟨f, hf, rogue_iff.mpr ⟨hc, hm⟩⟩
      | true =>
        refine Or.inl ⟨f, hf, hc, ?_⟩
        by_contra hmiss
        rw [(missed_iff.mp (by simpa using hmiss)).2] at hm
        cases hm
    · rintro (⟨f, hf, hc, hm⟩ | ⟨f, hf, hr⟩)
      · refine ⟨f, hf, ?_⟩
        by_contra hnot
        rw [missed_iff.mpr ⟨hc, by simpa using hnot⟩] at hm
        cases hm
      · exact ⟨f, hf, (rogue_iff.mp hr).2⟩
  have hnone : (∀ f ∈ filters, missed f topic = false ∧ rogue f topic = false) ↔
      (¬∃ f ∈ filters, missed f topic = true) ∧ ¬∃ f ∈ filters, rogue f topic = true := by
    simp only [← Bool.not_eq_true, not_exists, not_and, forall_and]
  unfold Judged
  rw [hcovers, hmatch, hnone]
  generalize (∃ f ∈ filters, covers f topic = true ∧ missed f topic = false) = healthy
  generalize (∃ f ∈ filters, missed f topic = true) = misses
  generalize (∃ f ∈ filters, rogue f topic = true) = gets
  by_cases healthy <;> by_cases misses <;> by_cases gets <;> simp [*]

/-! ## Valid messages -/

/-- A PUBLISH a broker may send, with the topic its topic or its alias stands for: the QoS is known, a
packet identifier comes with a QoS above 0 and is not one of a reception in progress, the topic and the
properties are well formed. -/
structure ValidPublish (env : Env) (msg : RecvPublishMsg) (s : Client) (topic : Str) : Prop where
  qos : msg.qos.isSome = true
  packetId : msg.qos ≠ some .atMostOnceDelivery → msg.packetId.isSome = true
  new : msg.qos = some .exactlyOnceDelivery →
    s.recvOps.find? (·.packetId == msg.packetId.getD 0) = none
  format : msg.topic ≠ [] → (s.verifyPubTopic env msg.topic false).2 = true
  props : (PropsHandler.ofProps env.cfg msg.props).protocolError = false
  named : msg.topic = [] → (PropsHandler.ofProps env.cfg msg.props).topicAlias ≠ none
  resolved : (s.resolveRecvTopic msg.topic
    (PropsHandler.ofProps env.cfg msg.props).topicAlias).map (·.1) = .ok topic

/-- The receptions that are kept leave room for another one. -/
structure HasQuota (env : Env) (msg : RecvPublishMsg) (s : Client) : Prop where
  pool : isFull env.cfg.recvOpsLimit s.recvOps.length = false
  limit : msg.qos = some .atMostOnceDelivery ∨ s.sessionState.highQosRecvLimit = 0 ∨
    s.recvOps.length < s.sessionState.highQosRecvLimit

theorem validPublish_iff : ValidPublish env msg s topic ↔
    msg.qos.isSome = true ∧ (msg.qos ≠ some .atMostOnceDelivery → msg.packetId.isSome = true) ∧
      (msg.qos = some .exactlyOnceDelivery →
        s.recvOps.find? (·.packetId == msg.packetId.getD 0) = none) ∧
      (msg.topic ≠ [] → (s.verifyPubTopic env msg.topic false).2 = true) ∧
      (PropsHandler.ofProps env.cfg msg.props).protocolError = false ∧
      (msg.topic = [] → (PropsHandler.ofProps env.cfg msg.props).topicAlias ≠ none) ∧
      (s.resolveRecvTopic msg.topic
        (PropsHandler.ofProps env.cfg msg.props).topicAlias).map (·.1) = .ok topic :=
  ⟨fun h => ⟨h.qos, h.packetId, h.new, h.format, h.props, h.named, h.resolved⟩,
    fun ⟨hqos, hpid, hnew, hformat, hprops, hnamed, hres⟩ =>
      ⟨hqos, hpid, hnew, hformat, hprops, hnamed, hres⟩⟩

instance : Decidable (ValidPublish env msg s topic) := decidable_of_iff' _ validPublish_iff

theorem hasQuota_iff : HasQuota env msg s ↔ isFull env.cfg.recvOpsLimit s.recvOps.length = false ∧
    (msg.qos = some .atMostOnceDelivery ∨ s.sessionState.highQosRecvLimit = 0 ∨
      s.recvOps.length < s.sessionState.highQosRecvLimit) :=
  ⟨fun h => ⟨h.pool, h.limit⟩, fun ⟨hpool, hlimit⟩ => ⟨hpool, hlimit⟩⟩

instance : Decidable (HasQuota env msg s) := decidable_of_iff' _ hasQuota_iff

/-- The check of a topic depends on the configuration only. -/
theorem verifyPubTopic_congr {outgoing : Bool} (h : t.configState = s.configState) :
    (t.verifyPubTopic env topic outgoing).2 = (s.verifyPubTopic env topic outgoing).2 := by
  unfold verifyPubTopic
  rw [h]
  repeat' split
  all_goals rfl

/-- The aliases decide about the topic, and the rest of the client stays as it is. -/
theorem resolveRecvTopic_congr {aliasId : Option Nat} {name : Str}
    (h : (s.resolveRecvTopic topic aliasId).map (·.1) = .ok name)
    (hsession : t.sessionState = s.sessionState) :
    ∃ u, t.resolveRecvTopic topic aliasId = .ok (name, u) := by
  have hmap : (t.resolveRecvTopic topic aliasId).map (·.1) =
      (s.resolveRecvTopic topic aliasId).map (·.1) := by
    unfold resolveRecvTopic
    rw [hsession]
    cases aliasId with
    | none => rfl
    | some aliasId =>
      dsimp only
      repeat' split
      all_goals rfl
  rw [h] at hmap
  cases hres : t.resolveRecvTopic topic aliasId with
  | error e =>
    rw [hres] at hmap
    cases hmap
  | ok r =>
    rw [hres] at hmap
    obtain ⟨name', u⟩ := r
    have hname : name' = name := Except.ok.inj hmap
    exact ⟨u, by rw [hname]⟩

/-- With the verification enabled, a topic is subscribed when some recorded filter matches it. -/
theorem isNotSubscribed_eq (hcfg : env.cfg.hasSubTopicVerification = true)
    (hverify : s.configState.verifySubFilter = true) :
    s.isNotSubscribed env topic = !s.reuseState.subFilters.any (isTopicMatch · topic) := by
  unfold isNotSubscribed
  rw [hcfg, hverify]
  rfl

/-- A valid message that finds room begins a reception. -/
theorem ValidPublish.begins (h : ValidPublish env msg s topic)
    (hdis : s.sessionState.disconnecting = false) (hq : HasQuota env msg s) :
    beginsReception env msg s = true := by
  unfold beginsReception
  rw [hdis, hq.pool, Bool.not_false, Bool.true_and, Bool.and_true, Bool.or_eq_true,
    decide_eq_true_eq]
  obtain ⟨qos, hqos⟩ := Option.isSome_iff_exists.mp h.qos
  rw [hqos]
  cases qos with
  | atMostOnceDelivery => exact Or.inl (Or.inl rfl)
  | atLeastOnceDelivery => exact Or.inl (Or.inr rfl)
  | exactlyOnceDelivery =>
    refine Or.inr ?_
    rw [h.new hqos]
    rfl

/-- The record decides about a valid message. -/
theorem ValidPublish.verdict (h : ValidPublish env msg s topic) (hq : HasQuota env msg s)
    (hon : s.sessionState.connected = true) (hcfg : env.cfg.hasSubTopicVerification = true)
    (hverify : s.configState.verifySubFilter = true) :
    ∃ qos, msg.qos = some qos ∧ s.verdictOn env msg =
      if s.reuseState.subFilters.any (isTopicMatch · topic) then
        .report (messageInfo env topic qos msg (PropsHandler.ofProps env.cfg msg.props))
      else .refuse := by
  obtain ⟨qos, hqos⟩ := Option.isSome_iff_exists.mp h.qos
  refine ⟨qos, hqos, ?_⟩
  have heq := beginRecv_eq env s
  set v := s.beginRecv env with hv
  have hsession : v.sessionState = s.sessionState := by rw [heq]
  have hconfig : v.configState = s.configState := by rw [heq]
  have hreuse : v.reuseState = s.reuseState := by rw [heq]
  have hlength : v.recvOps.length = s.recvOps.length + 1 := by
    rw [heq]
    exact List.length_append
  obtain ⟨u, hu⟩ := resolveRecvTopic_congr h.resolved hsession
  have hchecked := Checked.resolveRecvTopic hu
  have hnot : u.isNotSubscribed env topic = !s.reuseState.subFilters.any (isTopicMatch · topic) := by
    have hconfig' : u.configState = s.configState := by
      rw [hchecked.eq]
      exact hconfig
    have hreuse' : u.reuseState = s.reuseState := by
      rw [hchecked.eq]
      exact hreuse
    rw [isNotSubscribed_eq hcfg (hconfig' ▸ hverify), hreuse']
  have hlimit : ¬(qos ≠ .atMostOnceDelivery ∧ 0 < v.sessionState.highQosRecvLimit ∧
      v.sessionState.highQosRecvLimit < v.recvOps.length) := by
    rintro ⟨hne, hpos, hlt⟩
    rw [hsession] at hpos hlt
    rcases hq.limit with hzero | hzero | hroom
    · rw [hqos] at hzero
      exact hne (Option.some.inj hzero)
    · omega
    · omega
  have hformat : (if msg.topic = [] then (v, true) else v.verifyPubTopic env msg.topic false).2 = true := by
    split
    · rfl
    · rename_i hne
      rw [verifyPubTopic_congr hconfig]
      exact h.format hne
  have hnamed : ¬(msg.topic = [] ∧ (PropsHandler.ofProps env.cfg msg.props).topicAlias = none) :=
    fun hand => h.named hand.1 hand.2
  have hpid : ¬(qos ≠ .atMostOnceDelivery ∧ msg.packetId = none) := by
    rintro ⟨hne, hnone⟩
    have hsome := h.packetId fun heq => hne (Option.some.inj (hqos.symm.trans heq))
    rw [hnone] at hsome
    cases hsome
  show publishVerdict env msg v = _
  unfold publishVerdict
  rw [hqos]
  dsimp only
  unfold recvVerdict
  dsimp only
  rw [if_neg hlimit, hsession, hon, hformat, h.props, if_neg hnamed, hu]
  dsimp only
  rw [hnot, if_neg hpid]
  cases s.reuseState.subFilters.any (isTopicMatch · topic) <;> rfl

/-! ## Delivery -/

/-- The message is reported with its topic. -/
def Reported (env : Env) (msg : RecvPublishMsg) (topic : Str) (st : Machine.Step Sys Label) : Prop :=
  st.after.client.reports = st.before.client.reports ++ [messageInfo env topic
    (msg.qos.getD .exactlyOnceDelivery) msg (PropsHandler.ofProps env.cfg msg.props)]

instance (st : Machine.Step Sys Label) : Decidable (Reported env msg topic st) :=
  inferInstanceAs (Decidable (_ = _))

/-- A valid message is reported exactly when the record has a filter that matches its topic. -/
theorem step_reports (hreg : Registered sys.client) (hstep : sys.step env l = some sys')
    (hin : sys.inMsg l = some (.publish msg)) (hvalid : ValidPublish env msg sys.client topic)
    (hq : HasQuota env msg sys.client) (hon : sys.client.sessionState.connected = true)
    (hdis : sys.client.sessionState.disconnecting = false) (hok : Verifying env sys l) :
    Reported env msg topic ⟨sys, l, sys'⟩ ↔
      ∃ f ∈ sys.client.reuseState.subFilters, isTopicMatch f topic = true := by
  obtain ⟨rest, rfl, -, hclient⟩ := inMsg_step hstep hin
  have hclient : sys'.client = sys.client.handlePublish env msg := hclient
  have hbegins := hvalid.begins hdis hq
  obtain ⟨qos, hqos, hv⟩ := hvalid.verdict hq hon hok.1 hok.2
  rw [← List.any_eq_true]
  unfold Reported
  rw [hqos]
  show sys'.client.reports = sys.client.reports ++ [_] ↔ _
  rw [hclient]
  split at hv
  · rename_i hmatch
    exact iff_of_true (publish_reported hreg hbegins hv).1 hmatch
  · rename_i hmatch
    refine iff_of_false ?_ hmatch
    rw [(publish_refused hreg hbegins hv).1]
    intro heq
    have hlen := congrArg List.length heq
    simp at hlen

/-- A valid message is reported just when a confirmed filter covers its topic, if and only if the filters of
the record are judged well. -/
theorem message_delivered {pre : List (Machine.Step Sys Label)} {st : Machine.Step Sys Label}
    (h : (machine env).Run (Recorded env) (pre ++ [st]) sys)
    (hin : st.before.inMsg st.label = some (.publish msg))
    (hon : st.before.client.sessionState.connected = true)
    (hvalid : ValidPublish env msg st.before.client topic) (hq : HasQuota env msg st.before.client) :
    (Reported env msg topic st ↔ ∃ f ∈ replay pre, covers f topic = true) ↔
      Judged st.before.client.reuseState.subFilters topic := by
  obtain ⟨hpre, hok, hstep⟩ := h.split
  have hdis : st.before.client.sessionState.disconnecting = false := by
    by_contra hdis
    rw [Bool.not_eq_false] at hdis
    have hoff := reach_disconnecting hpre.reach hdis
    rw [hon] at hoff
    cases hoff
  rw [judged_iff, step_reports (reach_registered hpre.reach) hstep hin hvalid hq hon
    hdis ⟨hok.1, hok.2.1⟩, ← (run_replayed hpre).record]
  simp only [List.mem_toFinset]

/-- A message with QoS 0. -/
def plainPublish (topic : Str) : RecvPublishMsg :=
  { topic := topic, qos := some .atMostOnceDelivery, dup := false, retain := false, packetId := none,
    props := [], payload := [] }

/-- A filter is confirmed, and a message arrives. -/
def deliveryCalls (filter topic : Str) : List (Api × Nat) :=
  connectCalls true {} plainConnack ++
    [(.subscribePrepare, 1), (.subscribeConfigTopic 2 { topic := some filter }, 1),
      (.subscribeSend 2 true 0, 4),
      (packet (.suback { packetId := 1, props := [], list := [ReasonCode.success] }), 5),
      (packet (.publish (plainPublish topic)), 2)]

/-- What the runs below have in common in front of the message. -/
def Deliverable (filter topic : Str) (sys : Sys) : Prop :=
  sys.client.sessionState.connected = true ∧ ValidPublish .dynamic (plainPublish topic) sys.client topic ∧
    HasQuota .dynamic (plainPublish topic) sys.client ∧ sys.client.reuseState.subFilters = [filter]

instance (filter topic : Str) (sys : Sys) : Decidable (Deliverable filter topic sys) :=
  inferInstanceAs (Decidable (_ ∧ _ ∧ _ ∧ _))

/-- A filter with '+' in front is recorded, and a message is reported under it. -/
theorem message_delivered_plus :
    ∃ (pre : List (Machine.Step Sys Label)) (st : Machine.Step Sys Label),
      (machine .dynamic).Run (Recorded .dynamic) (pre ++ [st]) st.after ∧
        Deliverable ['+', '/', 'b'] ['a', '/', 'b'] st.before ∧
        (Reported .dynamic (plainPublish ['a', '/', 'b']) ['a', '/', 'b'] st ↔
          ∃ f ∈ replay pre, covers f ['a', '/', 'b'] = true) := by
  obtain ⟨pre, st, -, hrun, hin, hp⟩ := exists_message_step (Recorded .dynamic)
    (deliveryCalls ['+', '/', 'b'] ['a', '/', 'b']) (.publish (plainPublish ['a', '/', 'b']))
    (fun sys _ => decide (Deliverable ['+', '/', 'b'] ['a', '/', 'b'] sys)) (by decide +kernel)
  have hready := of_decide_eq_true hp
  obtain ⟨hon, hvalid, hq, hfilters⟩ := hready
  refine ⟨pre, st, hrun, ⟨hon, hvalid, hq, hfilters⟩, (message_delivered hrun hin hon hvalid hq).mpr ?_⟩
  rw [hfilters]
  decide

/-- A message for a shared filter is not reported. -/
theorem message_not_delivered :
    ∃ (pre : List (Machine.Step Sys Label)) (st : Machine.Step Sys Label),
      (machine .dynamic).Run (Recorded .dynamic) (pre ++ [st]) st.after ∧
        st.before.inMsg st.label = some (.publish (plainPublish ['t'])) ∧
        Deliverable "$share/g/t".toList ['t'] st.before ∧
        ¬(Reported .dynamic (plainPublish ['t']) ['t'] st ↔
          ∃ f ∈ replay pre, covers f ['t'] = true) := by
  obtain ⟨pre, st, hpre, hrun, hin, hp⟩ := exists_message_step (Recorded .dynamic)
    (deliveryCalls "$share/g/t".toList ['t']) (.publish (plainPublish ['t']))
    (fun sys sys' => decide (Deliverable "$share/g/t".toList ['t'] sys ∧
      ¬Reported .dynamic (plainPublish ['t']) ['t'] ⟨sys, .run, sys'⟩)) (by decide +kernel)
  obtain ⟨hready, hnot⟩ := of_decide_eq_true hp
  refine ⟨pre, st, hrun, hin, hready, fun hiff => hnot (hiff.mpr ?_)⟩
  refine ⟨"$share/g/t".toList, ?_, by decide⟩
  rw [← (run_replayed hpre).record, hready.2.2.2]
  exact List.mem_toFinset.mpr List.mem_cons_self

end Mqtt5
