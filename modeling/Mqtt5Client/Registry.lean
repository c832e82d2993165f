import Mqtt5Client.Micro

/-!
# Mqtt5Client — the registry of publishes

The bookkeeping that every run keeps, whatever the application and the broker do: publishes are
queued in the order of their identities, `m_ops` holds their pointers in the same order, the flags of
a publish are consistent, and `m_inFlightSends` counts the published ones at least.
-/

namespace Mqtt5

/-! ## The invariant -/

/-- The flags of a publish are consistent. -/
structure SendOp.Wf (op : SendOp) : Prop where
  acked : op.acked = true → op.published = true ∧ op.qos = .exactlyOnceDelivery
  published : op.published = true →
    op.paused = false ∧ op.qos ≠ .atMostOnceDelivery ∧ op.sent = true
  paused : op.paused = true → op.sent = true
  cb : op.cb = true → op.sent = true

/-- Identities and registration of the publishes. -/
structure Reg (s : Client) : Prop where
  sorted : (s.sendOps.map SendOp.id).Pairwise (· < ·)
  lt : ∀ op ∈ s.sendOps, op.id < s.nextOpId
  refs : s.view.sendRefs = s.sendOps.map SendOp.id
  wf : ∀ op ∈ s.sendOps, op.Wf
  inFlight : s.sendOps.countP (·.published) ≤ s.view.inFlightSends
  timers : ∀ id ∈ s.sendTimers, id < s.nextOpId

namespace SendOp.Wf

variable {op : SendOp}

/-- A postponed publish was not transmitted. -/
theorem unpublished_of_paused (h : op.Wf) (hp : op.paused = true) : op.published = false := by
  cases hpub : op.published with
  | false => rfl
  | true => simp [(h.published hpub).1] at hp

/-- What was not transmitted is not acknowledged. -/
theorem unacked_of_unpublished (h : op.Wf) (hp : op.published = false) : op.acked = false := by
  cases hacked : op.acked with
  | false => rfl
  | true => simp [(h.acked hacked).1] at hp

/-- A publish that was not sent has made no progress. -/
theorem of_unsent (h : op.Wf) (hsent : op.sent = false) :
    op.published = false ∧ op.acked = false ∧ op.paused = false := by
  have hpub : op.published = false := by
    cases hp : op.published with
    | false => rfl
    | true => simp [(h.published hp).2.2] at hsent
  have hpaused : op.paused = false := by
    cases hp : op.paused with
    | false => rfl
    | true => simp [h.paused hp] at hsent
  exact ⟨hpub, h.unacked_of_unpublished hpub, hpaused⟩

end SendOp.Wf

theorem Reg.distinct {s : Client} (h : Reg s) : Keyed.Distinct SendOp.id s.sendOps :=
  h.sorted.imp Nat.ne_of_lt

namespace Client

variable {env : Env} {G : Guard} {a : Bool} {b : Scope} {s t u : Client} {op op' : SendOp}

theorem Frame.sendOps_eq (h : Frame a b s t) : t.sendOps = s.sendOps :=
  congrArg PubView.sendOps h.view

theorem Shows.sendOps_eq {v : PubView} {ids : List OpId} (h : Shows a s t v ids) :
    t.sendOps = v.sendOps :=
  congrArg PubView.sendOps h.view

/-! ## The registry after a step -/

/-- Replacing a publish by one with the same identity. -/
theorem Eff.reg_setOp {v : PubView} {ids : List OpId} (h : Eff a b s t v ids) (hr : Reg s)
    (hop : op ∈ s.sendOps) (hv : v.sendOps = Keyed.set SendOp.id op' s.sendOps)
    (hid : op'.id = op.id) (hrefs : v.sendRefs = s.view.sendRefs)
    (hids : ∀ id ∈ ids, id = op.id) (hwf : op'.Wf)
    (hn : v.inFlightSends + (if op.published then 1 else 0) =
      s.view.inFlightSends + (if op'.published then 1 else 0)) : Reg t := by
  have hops : t.sendOps = Keyed.set SendOp.id op' s.sendOps := by rw [h.sendOps_eq, hv]
  have hmap : t.sendOps.map SendOp.id = s.sendOps.map SendOp.id := by
    rw [hops, Keyed.map_key_set]
  have hmem : op'.id ∈ s.sendOps.map SendOp.id := List.mem_map.mpr ⟨op, hop, hid.symm⟩
  have hcases : ∀ o ∈ t.sendOps, o = op' ∨ o ∈ s.sendOps := by
    intro o ho
    rw [hops] at ho
    exact ((Keyed.mem_set hmem).mp ho).imp_right And.left
  refine ⟨hmap ▸ hr.sorted, ?_, ?_, ?_, ?_, ?_⟩
  · intro o ho
    rcases hcases o ho with rfl | ho
    · exact Nat.lt_of_lt_of_le (hid ▸ hr.lt op hop) h.nextOpId
    · exact Nat.lt_of_lt_of_le (hr.lt o ho) h.nextOpId
  · rw [h.view, hrefs, hmap, hr.refs]
  · intro o ho
    rcases hcases o ho with rfl | ho
    · exact hwf
    · exact hr.wf o ho
  · have hcount := hr.distinct.countP_set hop hid (·.published)
    have hflight := hr.inFlight
    rw [h.view, hops]
    omega
  · intro id hid'
    rcases h.timers id hid' with hid' | hid'
    · exact hids id hid' ▸ Nat.lt_of_lt_of_le (hr.lt op hop) h.nextOpId
    · exact Nat.lt_of_lt_of_le (hr.timers id hid') h.nextOpId

/-- A publish leaves the queue. -/
theorem Eff.reg_eraseOp {v : PubView} (h : Eff a b s t v []) (hr : Reg s) (hop : op ∈ s.sendOps)
    (hv : v.sendOps = Keyed.erase SendOp.id op.id s.sendOps)
    (hrefs : v.sendRefs = s.view.sendRefs.erase op.id)
    (hn : v.inFlightSends = inFlightAfter op s.view.inFlightSends) : Reg t := by
  have hops : t.sendOps = Keyed.erase SendOp.id op.id s.sendOps := by rw [h.sendOps_eq, hv]
  have hmap : t.sendOps.map SendOp.id = (s.sendOps.map SendOp.id).erase op.id := by
    rw [hops, Keyed.map_key_erase]
  have hmem : ∀ o ∈ t.sendOps, o ∈ s.sendOps := by
    intro o ho
    rw [hops] at ho
    exact Keyed.mem_of_mem_erase ho
  refine ⟨?_, ?_, ?_, fun o ho => hr.wf o (hmem o ho), ?_, ?_⟩
  · rw [hmap]
    exact hr.sorted.sublist List.erase_sublist
  · exact fun o ho => Nat.lt_of_lt_of_le (hr.lt o (hmem o ho)) h.nextOpId
  · rw [h.view, hrefs, hmap, hr.refs]
  · have hcount := Keyed.countP_erase hop hr.distinct (·.published)
    have hflight := hr.inFlight
    rw [h.view, hops, hn]
    unfold inFlightAfter
    split
    · simp_all
      omega
    · simp_all
  · intro id' hid'
    rcases h.timers id' hid' with hid' | hid'
    · cases hid'
    · exact Nat.lt_of_lt_of_le (hr.timers id' hid') h.nextOpId

/-- The publishes and their registration stay; the counter may grow. -/
theorem Eff.reg_grown {v : PubView} {ids : List OpId} (h : Eff a b s t v ids) (hr : Reg s)
    (hv : v.sendOps = s.sendOps) (hrefs : v.sendRefs = s.view.sendRefs)
    (hn : s.view.inFlightSends ≤ v.inFlightSends) (hids : ∀ id ∈ ids, id < s.nextOpId) : Reg t := by
  have hops : t.sendOps = s.sendOps := by rw [h.sendOps_eq, hv]
  refine ⟨hops ▸ hr.sorted, ?_, ?_, fun o ho => hr.wf o (hops ▸ ho), ?_, ?_⟩
  · exact fun o ho => Nat.lt_of_lt_of_le (hr.lt o (hops ▸ ho)) h.nextOpId
  · rw [h.view, hrefs, hops, hr.refs]
  · rw [h.view, hops]
    exact Nat.le_trans hr.inFlight hn
  · intro id hid
    rcases h.timers id hid with hid | hid
    · exact Nat.lt_of_lt_of_le (hids id hid) h.nextOpId
    · exact Nat.lt_of_lt_of_le (hr.timers id hid) h.nextOpId

/-- A change of the view that leaves the queue. -/
theorem Eff.reg_same {v : PubView} (h : Eff a b s t v []) (hr : Reg s) (hv : v.sendOps = s.sendOps)
    (hrefs : v.sendRefs = s.view.sendRefs) (hn : v.inFlightSends = s.view.inFlightSends) :
    Reg t :=
  h.reg_grown hr hv hrefs (Nat.le_of_eq hn.symm) nofun

/-- What leaves the publishes alone keeps the registry. -/
theorem Frame.reg (h : Frame a b s t) (hr : Reg s) : Reg t :=
  h.toEff.reg_same hr rfl rfl rfl

/-- A new publish. -/
theorem Eff.reg_create {v : PubView} (h : Eff a b s t v []) (op : SendOp) (hr : Reg s)
    (hop : op.id = s.nextOpId)
    (hid : s.nextOpId < t.nextOpId) (hwf : op.Wf) (hpub : op.published = false)
    (hv : v.sendOps = s.sendOps ++ [op]) (hrefs : v.sendRefs = s.view.sendRefs ++ [op.id])
    (hn : v.inFlightSends = s.view.inFlightSends) : Reg t := by
  have hops : t.sendOps = s.sendOps ++ [op] := by rw [h.sendOps_eq, hv]
  refine ⟨?_, ?_, ?_, ?_, ?_, ?_⟩
  · rw [hops, List.map_append, List.pairwise_append]
    refine ⟨hr.sorted, by simp, fun x hx y hy => ?_⟩
    obtain ⟨o, ho, rfl⟩ := List.mem_map.mp hx
    have hy : y = op.id := by simpa using hy
    rw [hy, hop]
    exact hr.lt o ho
  · intro o ho
    rw [hops] at ho
    rcases List.mem_append.mp ho with ho | ho
    · exact Nat.lt_of_lt_of_le (hr.lt o ho) h.nextOpId
    · have ho : o = op := by simpa using ho
      rw [ho, hop]
      exact hid
  · rw [h.view, hrefs, hops, List.map_append, hr.refs]
    rfl
  · intro o ho
    rw [hops] at ho
    rcases List.mem_append.mp ho with ho | ho
    · exact hr.wf o ho
    · have ho : o = op := by simpa using ho
      rw [ho]
      exact hwf
  · have hflight := hr.inFlight
    rw [h.view, hn, hops, List.countP_append]
    simpa [hpub] using hflight
  · intro id hid'
    rcases h.timers id hid' with hid' | hid'
    · cases hid'
    · exact Nat.lt_of_lt_of_le (hr.timers id hid') h.nextOpId

end Client

/-! ## Every step keeps the registry -/

open Client

variable {env : Env} {G : Guard} {a : Bool} {b : Scope} {s t : Client} {op op' : SendOp}

/-- A configuration keeps a publish well formed. -/
theorem SameProgress.wf (h : SameProgress op op') (hwf : op.Wf) (hsent : op.sent = false) :
    op'.Wf := by
  obtain ⟨hpub, hacked, hpaused⟩ := hwf.of_unsent hsent
  refine ⟨?_, ?_, ?_, ?_⟩
  · simp [h.acked, hacked]
  · simp [h.published, hpub]
  · simp [h.paused, hpaused]
  · rw [h.cb, h.sent]
    exact hwf.cb

/-- Only a publish in no other state is sent for the first time. -/
theorem Why.progress (h : Why G s op) (hwf : op.Wf) :
    op.published = false ∧ op.acked = false ∧ op.sent = true := by
  rcases h with ⟨hp, -, -⟩ | ⟨-, hpub, hsent, -⟩
  · have hpub := hwf.unpublished_of_paused hp
    exact ⟨hpub, hwf.unacked_of_unpublished hpub, hwf.paused hp⟩
  · exact ⟨hpub, hwf.unacked_of_unpublished hpub, hsent⟩

/-- A publish that goes is taken out of both lists. -/
theorem Leave.reg (h : Leave env G a b s op t) (hop : op ∈ s.sendOps) (hr : Reg s) : Reg t := by
  cases h with
  | erase h => exact h.reg_eraseOp hr hop rfl rfl rfl
  | deliver hwhy hqos hfits h =>
    refine h.reg_eraseOp hr hop rfl rfl ?_
    simp [inFlightAfter, (hwhy.progress (hr.wf op hop)).1, PubView.eraseOp, PubView.push]

/-- An acknowledgement that is in order is for a publish that was transmitted. -/
theorem legit_published {pubcomp : Bool} (h : s.isLegitSendAck op pubcomp = true) :
    op.published = true := by
  unfold Client.isLegitSendAck at h
  split at h
  · cases h
  · simp only [Bool.and_eq_true] at h
    exact h.1

/-- One case for each elementary step. -/
theorem Micro.reg (h : Micro env G a b s t) (hr : Reg s) : Reg t := by
  cases h with
  | frame h => exact h.reg hr
  | report id status response h => exact h.reg_same hr rfl rfl rfl
  | connect msg h => exact h.reg_same hr rfl rfl rfl
  | create timer hc hG hid h =>
    exact h.reg_create { id := s.nextOpId, responseTimer := timer } hr rfl hid
      (by constructor <;> simp) rfl rfl rfl rfl
  | config op op' hop hG hsent hsame hp h =>
    exact h.reg_setOp hr hop rfl hsame.id rfl (by simp) (hsame.wf (hr.wf op hop) hsent)
      (by simp [PubView.setOp, hsame.published])
  | configBasic op op' config table hop hG hsent hsame ht h =>
    exact h.reg_setOp hr hop rfl hsame.id rfl (by simp) (hsame.wf (hr.wf op hop) hsent)
      (by simp [PubView.setOp, PubView.setAliases, hsame.published])
  | start op cb pid hop hsent hG hl h =>
    obtain ⟨hpub, hacked, hpaused⟩ := (hr.wf op hop).of_unsent hsent
    exact h.reg_setOp hr hop rfl rfl rfl (by simp)
      (by constructor <;> simp [hpub, hacked, hpaused]) (by simp [PubView.setOp, PubView.push])
  | pause op hop hG hsent hpub hcan h =>
    have hacked := (hr.wf op hop).unacked_of_unpublished hpub
    exact h.reg_setOp hr hop rfl rfl rfl (by simp)
      (by constructor <;> simp [hpub, hacked, hsent]) (by simp [PubView.setOp])
  | transmit op hop hwhy hqos hfits h =>
    obtain ⟨hpub, hacked, hsent⟩ := hwhy.progress (hr.wf op hop)
    refine h.reg_setOp hr hop rfl rfl rfl (by simp) ?_ ?_
    · constructor <;> simp [hacked, hsent]
      exact hqos
    · simp [PubView.setOp, PubView.setInFlight, PubView.push, hpub]
  | rewind op hop hpaused hG h =>
    obtain ⟨hwa, hwp, hws, hwc⟩ := hr.wf op hop
    exact h.reg_setOp hr hop rfl rfl rfl (by simp) ⟨hwa, hwp, hws, hwc⟩ (by simp [PubView.setOp])
  | leave op hop hG h => exact h.reg hop hr
  | dup op hop hG hacked h =>
    obtain ⟨hwa, hwp, hws, hwc⟩ := hr.wf op hop
    exact h.reg_setOp hr hop rfl rfl rfl (by simp) ⟨hwa, hwp, hws, hwc⟩
      (by simp [PubView.setOp, PubView.push])
  | pubrelDup op hop hG hacked h =>
    obtain ⟨hwa, hwp, hws, hwc⟩ := hr.wf op hop
    exact h.reg_setOp hr hop rfl rfl rfl (by simp) ⟨hwa, hwp, hws, hwc⟩
      (by simp [PubView.setOp, PubView.push])
  | acked op hop hG hlegit hqos hacked h =>
    obtain ⟨-, hwp, hws, hwc⟩ := hr.wf op hop
    have hpub := legit_published hlegit
    exact h.reg_setOp hr hop rfl rfl rfl (by simp) ⟨fun _ => ⟨hpub, hqos⟩, hwp, hws, hwc⟩
      (by simp [PubView.setOp, PubView.push])
  | retopic op msg n hop hpaused hG hmsg h =>
    obtain ⟨hwa, hwp, hws, hwc⟩ := hr.wf op hop
    have hq : msg.qos = op.pubMsg.qos := by
      rcases hmsg with ⟨-, hmsg⟩ | ⟨-, rfl⟩
      · rw [SendOp.restoreTopic_eq hmsg]
      · rfl
    refine h.reg_setOp hr hop rfl rfl rfl (by simp) ⟨fun ha => ⟨(hwa ha).1, ?_⟩, fun hp =>
      ⟨(hwp hp).1, ?_, (hwp hp).2.2⟩, hws, hwc⟩ (by simp [PubView.setOp])
    · exact hq.trans (hwa ha).2
    · exact fun hc => (hwp hp).2.1 (hq.symm.trans hc)
  | confirm op hop hreg h => exact h.reg_same hr rfl rfl rfl
  | aliasNew topic count hG htopic hconn hmax hnone h => exact h.reg_same hr rfl rfl rfl
  | aliasAgain topic count hsome h => exact h.reg_same hr rfl rfl rfl
  | aliasFree topic info hG hsome h => exact h.reg_same hr rfl rfl rfl
  | session c hG h => cases c <;> exact h.reg_same hr rfl rfl rfl
  | stray op n hop hold hG hn h =>
    refine h.reg_grown hr rfl rfl ?_ fun id hid => List.mem_singleton.mp hid ▸ hold
    show s.view.inFlightSends ≤ n
    omega

/-- And by induction for a run. -/
theorem MicroRun.reg (h : MicroRun env G a b s t) (hr : Reg s) : Reg t := by
  induction h with
  | refl => exact hr
  | tail _ h ih => exact h.reg ih

/-- The invariant rule: what every step keeps, a run keeps. -/
theorem MicroRun.invariant {inv : Client → Prop}
    (hstep : ∀ {s t}, Micro env G a b s t → Reg s → inv s → inv t) (h : MicroRun env G a b s t)
    (hr : Reg s) (hinv : inv s) : inv t := by
  induction h with
  | refl => exact hinv
  | tail hsu h ih => exact hstep h (MicroRun.reg hsu hr) ih

/-! ## The queue after a step

For invariants of the queue alone: most steps leave it, the others change, remove or add one
publish. -/

/-- The changes of one publish. -/
inductive Change (env : Env) (G : Guard) (s : Client) (op : SendOp) : SendOp → Prop
  | config (x : SendOp) (c : Option PublishBasicConfig) (hG : G.config s op c)
      (hsent : op.sent = false) (hsame : SameProgress op x) : Change env G s op x
  | start (cb : Bool) (pid : Nat) (hG : G.start s op) (hsent : op.sent = false) :
      Change env G s op
        { op with sent := true, cb := cb, pubMsg := { op.pubMsg with packetId := pid } }
  | pause (hG : G.start s op) (hsent : op.sent = true) (hpub : op.published = false)
      (hcan : s.canSend op = false) : Change env G s op { op with paused := true }
  | transmit (hwhy : Why G s op) (hqos : op.qos ≠ .atMostOnceDelivery)
      (hfits : s.fits env (.publish op.pubMsg) = true) :
      Change env G s op { op with paused := false, published := true, sendAttempts := 1 }
  | rewind (hpaused : op.paused = false) (hG : G.first s op) :
      Change env G s op { op with sendAttempts := 0 }
  | dup (hG : G.dup s op) (hacked : op.acked = false) :
      Change env G s op { op with pubMsg := { op.pubMsg with dup := true },
                                  sendAttempts := op.sendAttempts + 1 }
  | pubrelDup (hG : G.dup s op) (hacked : op.acked = true) :
      Change env G s op { op with sendAttempts := op.sendAttempts + 1 }
  | acked (hG : G.ack s op) (hlegit : s.isLegitSendAck op false = true)
      (hqos : op.qos = .exactlyOnceDelivery) (hacked : op.acked = false) :
      Change env G s op
        { op with acked := true, reasonCode := ReasonCode.success, sendAttempts := 1 }
  | retopic (msg : PublishMsg) (n : Nat) (hpaused : op.paused = false) (hG : G.reconnect s)
      (hqos : msg.qos = op.pubMsg.qos) :
      Change env G s op { op with pubMsg := msg, sendAttempts := n }

/-- A changed publish keeps its identity. -/
theorem Change.id (h : Change env G s op op') : op'.id = op.id := by
  cases h with
  | config x c hG hsent hsame => exact hsame.id
  | _ => rfl

inductive QueueStep (env : Env) (G : Guard) (s t : Client) : Prop
  | same (h : t.sendOps = s.sendOps)
  | change (op x : SendOp) (hop : op ∈ s.sendOps) (hc : Change env G s op x)
      (h : t.sendOps = Keyed.set SendOp.id x s.sendOps)
  | leave (op : SendOp) (hop : op ∈ s.sendOps) (hG : G.leave s op)
      (h : t.sendOps = Keyed.erase SendOp.id op.id s.sendOps)
  | create (timer : Option Nat) (hG : G.create s)
      (h : t.sendOps = s.sendOps ++ [{ id := s.nextOpId, responseTimer := timer }])

/-- An elementary step leaves the queue, changes one publish in its place, removes one or appends one. -/
theorem Micro.queue (h : Micro env G a b s t) : QueueStep env G s t := by
  -- only what concerns a publish of the queue changes it
  cases h with
  | frame h => exact .same h.sendOps_eq
  | report id status response h => exact .same h.sendOps_eq
  | connect msg h => exact .same h.sendOps_eq
  | create timer hc hG hid h => exact .create timer hG h.sendOps_eq
  | config op op' hop hG hsent hsame hp h =>
    exact .change op op' hop (.config op' none hG hsent hsame) h.sendOps_eq
  | configBasic op op' config table hop hG hsent hsame ht h =>
    exact .change op op' hop (.config op' _ hG hsent hsame) h.sendOps_eq
  | start op cb pid hop hsent hG hl h =>
    exact .change op _ hop (.start cb pid hG hsent) h.sendOps_eq
  | pause op hop hG hsent hpub hcan h =>
    exact .change op _ hop (.pause hG hsent hpub hcan) h.sendOps_eq
  | transmit op hop hwhy hqos hfits h =>
    exact .change op _ hop (.transmit hwhy hqos hfits) h.sendOps_eq
  | rewind op hop hpaused hG h =>
    exact .change op _ hop (.rewind hpaused hG) h.sendOps_eq
  | leave op hop hG h =>
    cases h with
    | erase h => exact .leave op hop hG h.sendOps_eq
    | deliver hwhy hqos hfits h => exact .leave op hop hG h.sendOps_eq
  | dup op hop hG hacked h => exact .change op _ hop (.dup hG hacked) h.sendOps_eq
  | pubrelDup op hop hG hacked h =>
    exact .change op _ hop (.pubrelDup hG hacked) h.sendOps_eq
  | acked op hop hG hlegit hqos hacked h =>
    exact .change op _ hop (.acked hG hlegit hqos hacked) h.sendOps_eq
  | retopic op msg n hop hpaused hG hmsg h =>
    refine .change op _ hop (.retopic msg n hpaused hG ?_) h.sendOps_eq
    rcases hmsg with ⟨-, hmsg⟩ | ⟨-, rfl⟩
    · rw [SendOp.restoreTopic_eq hmsg]
    · rfl
  | confirm op hop hreg h => exact .same h.sendOps_eq
  | aliasNew topic count hG htopic hconn hmax hnone h => exact .same h.sendOps_eq
  | aliasAgain topic count hsome h => exact .same h.sendOps_eq
  | aliasFree topic info hG hsome h => exact .same h.sendOps_eq
  | session c hG h =>
    refine .same ?_
    rw [h.sendOps_eq]
    cases c <;> rfl
  | stray op n hop hold hG hn h => exact .same h.sendOps_eq

/-- What only a change of the session changes. -/
theorem Micro.session_eq (h : Micro env G a b s t) (hG : ∀ c, ¬G.session s c) :
    t.view.maxSendPacketSize = s.view.maxSendPacketSize ∧
      t.view.highQosSendLimit = s.view.highQosSendLimit ∧
      t.view.publishOrdering = s.view.publishOrdering ∧
      t.view.connected = s.view.connected ∧ t.view.disconnecting = s.view.disconnecting := by
  cases h with
  | session c hc h => exact absurd hc (hG c)
  | leave op hop hG h => cases h <;> rename_i h <;> rw [h.view] <;> exact ⟨rfl, rfl, rfl, rfl, rfl⟩
  | frame h => rw [h.view]; exact ⟨rfl, rfl, rfl, rfl, rfl⟩
  | _ => rename_i h; rw [h.view]; exact ⟨rfl, rfl, rfl, rfl, rfl⟩

end Mqtt5
