import Mqtt5Client.Calls
import Mqtt5Client.Preparation
import Mqtt5Client.Registered

/-!
# Mqtt5Client — the preparation of one operation

What the calls on the handle of an operation in preparation come to, from beginning to return. When nothing
is in preparation, a `…Prepare` call leaves its operation as the only one, or none; a configuration, which
may fail, keeps it; and after `send` or `cancel` nothing is in preparation again, whatever the timers that
expire in these calls destroy (`Held`).
-/

namespace Mqtt5

open Client

variable {env : Env} {s t u : Client} {sys sys' : Sys} {l : Label} {api : Api} {ref : OpRef}
  {type : OpType} {task : Task} {tasks rest : List Task}

/-! ## Operations in preparation -/

/-- The handle of an operation in preparation: the operation is there, was not sent, and has no callback.
The keys of its type are those of one list. -/
theorem unsent_find {α : Type} {l : List α} {key : α → OpId} {sent cb : α → Bool} {id : OpId}
    (hl : LockReg s) (href : (⟨type, id⟩ : OpRef) ∈ s.unsentRefs) (hne : type ≠ .send)
    (hkeys : ∀ k : OpRef × Prep, k ∈ s.lockKeys ∧ k.1.type = type ↔
      ∃ op ∈ l, ((⟨type, key op⟩ : OpRef), Prep.of (sent op) (cb op)) = k) :
    ∃ op, l.find? (fun op => key op == id) = some op ∧ sent op = false ∧ cb op = false := by
  obtain ⟨p, hkey⟩ : ∃ p, (⟨type, id⟩, p) ∈ s.lockKeys := by
    rcases mem_unsentRefs.mp href with ⟨p, -, hkey⟩ | ⟨op, -, -, heq⟩
    · exact ⟨p, hkey⟩
    · rw [OpRef.mk.injEq] at heq
      exact absurd heq.1 hne
  obtain ⟨op, hop, heq⟩ := (hkeys _).mp ⟨hkey, rfl⟩
  have hid : key op = id := congrArg (·.1.id) heq
  obtain ⟨x, hx⟩ : ∃ x, l.find? (fun op => key op == id) = some x := by
    rw [← Option.isSome_iff_exists, List.find?_isSome]
    exact ⟨op, hop, by simp [hid]⟩
  have hxid : key x = id := by simpa using List.find?_some hx
  have hxkey := ((hkeys _).mpr ⟨x, List.mem_of_find?_eq_some hx, rfl⟩).1
  rw [hxid] at hxkey
  exact ⟨x, hx, hl.prep_of_mem (sent x) (cb x) href hxkey⟩

section Unsent

variable {id : OpId} (hl : LockReg s)

include hl

theorem unsent_connect (href : (⟨.connect, id⟩ : OpRef) ∈ s.unsentRefs) :
    ∃ op, s.connectOp? id = some op ∧ op.sent = false ∧ op.cb = false :=
  unsent_find hl href (by decide) fun k => by
    rw [mem_lockKeys]
    constructor
    · rintro ⟨h | ⟨op, -, rfl⟩ | ⟨op, -, rfl⟩ | ⟨op, -, rfl⟩ | ⟨op, -, rfl⟩, htype⟩
      · exact h
      all_goals cases htype
    · rintro ⟨op, hop, rfl⟩
      exact ⟨Or.inl ⟨op, hop, rfl⟩, rfl⟩

theorem unsent_disconnect (href : (⟨.disconnect, id⟩ : OpRef) ∈ s.unsentRefs) :
    ∃ op, s.disconnectOp? id = some op ∧ op.sent = false := by
  have hkeys : ∀ k : OpRef × Prep, k ∈ s.lockKeys ∧ k.1.type = .disconnect ↔
      ∃ op ∈ s.disconnectOps, ((⟨.disconnect, op.id⟩ : OpRef), Prep.of op.sent false) = k := by
    intro k
    rw [mem_lockKeys]
    constructor
    · rintro ⟨⟨op, -, rfl⟩ | h | ⟨op, -, rfl⟩ | ⟨op, -, rfl⟩ | ⟨op, -, rfl⟩, htype⟩
      · cases htype
      · exact h
      all_goals cases htype
    · rintro ⟨op, hop, rfl⟩
      exact ⟨Or.inr (Or.inl ⟨op, hop, rfl⟩), rfl⟩
  obtain ⟨op, hop, hsent, -⟩ := unsent_find hl href (by decide) hkeys
  exact ⟨op, hop, hsent⟩

theorem unsent_subscribe (href : (⟨.subscribe, id⟩ : OpRef) ∈ s.unsentRefs) :
    ∃ op, s.subscribeOp? id = some op ∧ op.sent = false ∧ op.cb = false :=
  unsent_find hl href (by decide) fun k => by
    rw [mem_lockKeys]
    constructor
    · rintro ⟨⟨op, -, rfl⟩ | ⟨op, -, rfl⟩ | h | ⟨op, -, rfl⟩ | ⟨op, -, rfl⟩, htype⟩
      case inr.inr.inl => exact h
      all_goals cases htype
    · rintro ⟨op, hop, rfl⟩
      exact ⟨Or.inr (Or.inr (Or.inl ⟨op, hop, rfl⟩)), rfl⟩

theorem unsent_unsubscribe (href : (⟨.unsubscribe, id⟩ : OpRef) ∈ s.unsentRefs) :
    ∃ op, s.unsubscribeOp? id = some op ∧ op.sent = false ∧ op.cb = false :=
  unsent_find hl href (by decide) fun k => by
    rw [mem_lockKeys]
    constructor
    · rintro ⟨⟨op, -, rfl⟩ | ⟨op, -, rfl⟩ | ⟨op, -, rfl⟩ | h | ⟨op, -, rfl⟩, htype⟩
      case inr.inr.inr.inl => exact h
      all_goals cases htype
    · rintro ⟨op, hop, rfl⟩
      exact ⟨Or.inr (Or.inr (Or.inr (Or.inl ⟨op, hop, rfl⟩))), rfl⟩

theorem unsent_reauth (href : (⟨.reauth, id⟩ : OpRef) ∈ s.unsentRefs) :
    ∃ op, s.reauthOp? id = some op ∧ op.sent = false ∧ op.cb = false :=
  unsent_find hl href (by decide) fun k => by
    rw [mem_lockKeys]
    constructor
    · rintro ⟨⟨op, -, rfl⟩ | ⟨op, -, rfl⟩ | ⟨op, -, rfl⟩ | ⟨op, -, rfl⟩ | h, htype⟩
      case inr.inr.inr.inr => exact h
      all_goals cases htype
    · rintro ⟨op, hop, rfl⟩
      exact ⟨Or.inr (Or.inr (Or.inr (Or.inr ⟨op, hop, rfl⟩))), rfl⟩

end Unsent

theorem unsent_send {id : OpId} (hr : Reg s) (href : (⟨.send, id⟩ : OpRef) ∈ s.unsentRefs) :
    ∃ op, s.sendOp? id = some op ∧ op.sent = false := by
  rcases mem_unsentRefs.mp href with ⟨p, -, hkey⟩ | ⟨op, hop, hsent, heq⟩
  · exact absurd rfl (lockKeys_type hkey).2.2
  · rw [OpRef.mk.injEq] at heq
    obtain rfl := heq.2
    exact ⟨op, sendOp?_eq hr.distinct hop, hsent⟩

/-- The operation a configuration is for. -/
def Api.configures? : Api → Option OpRef
  | .connectConfigBasic id _ | .connectConfigWill id _ | .connectConfigExtra id _
  | .connectConfigAuth id _ => some ⟨.connect, id⟩
  | .disconnectConfigBasic id _ => some ⟨.disconnect, id⟩
  | .subscribeConfigTopic id _ | .subscribeConfigExtra id _ => some ⟨.subscribe, id⟩
  | .unsubscribeConfigTopic id _ => some ⟨.unsubscribe, id⟩
  | .publishConfigBasic id _ | .publishConfigExtra id _ => some ⟨.send, id⟩
  | .reauthConfigAuth id _ => some ⟨.reauth, id⟩
  | _ => none

/-- An operation in preparation may be configured, sent and cancelled. -/
theorem legal_of_unsent (hr : Reg s) (hl : LockReg s) (href : ref ∈ s.unsentRefs)
    (h : api.configures? = some ref ∨ (Label.call api).ends = some ref) : api.legal s = true := by
  rcases h with h | h
  all_goals
    cases api <;> first | (cases h; done) | skip
    all_goals cases h
  case inl.connectConfigBasic | inl.connectConfigWill | inl.connectConfigExtra | inl.connectConfigAuth =>
    obtain ⟨op, hop, hsent, -⟩ := unsent_connect hl href
    simp [Api.legal, unsentOp, hop, hsent]
  case inr.connectSend | inr.connectCancel =>
    obtain ⟨op, hop, hsent, -⟩ := unsent_connect hl href
    simp [Api.legal, unsentOp, liveOp, hop, hsent]
  case inl.disconnectConfigBasic | inr.disconnectSend | inr.disconnectCancel =>
    obtain ⟨op, hop, hsent⟩ := unsent_disconnect hl href
    simp [Api.legal, unsentOp, hop, hsent]
  case inl.subscribeConfigTopic | inl.subscribeConfigExtra | inr.subscribeSend | inr.subscribeCancel =>
    obtain ⟨op, hop, hsent, -⟩ := unsent_subscribe hl href
    simp [Api.legal, unsentOp, liveOp, hop, hsent]
  case inl.unsubscribeConfigTopic | inr.unsubscribeSend | inr.unsubscribeCancel =>
    obtain ⟨op, hop, hsent, -⟩ := unsent_unsubscribe hl href
    simp [Api.legal, unsentOp, liveOp, hop, hsent]
  case inl.publishConfigBasic | inl.publishConfigExtra | inr.publishSend | inr.publishCancel =>
    obtain ⟨op, hop, hsent⟩ := unsent_send hr href
    simp [Api.legal, unsentOp, hop, hsent]
  case inl.reauthConfigAuth | inr.reauthSend | inr.reauthCancel =>
    obtain ⟨op, hop, hsent, -⟩ := unsent_reauth hl href
    simp [Api.legal, unsentOp, liveOp, hop, hsent]

/-! ## What a `…Prepare` function leaves -/

/-- The type of the operation a call prepares. -/
def Api.prepares? : Api → Option OpType
  | .connectPrepare _ => some .connect
  | .disconnectPrepare => some .disconnect
  | .subscribePrepare => some .subscribe
  | .unsubscribePrepare => some .unsubscribe
  | .publishPrepare => some .send
  | .reauthPrepare => some .reauth
  | _ => none

/-- Behind its code of success there is an operation in preparation, the last one made; otherwise there is
none more than before. -/
structure Prepares (type : OpType) (s : Client) (r : Client × ErrorCode) : Prop where
  made : r.2 = .success →
    (⟨type, s.nextOpId⟩ : OpRef) ∈ r.1.unsentRefs ∧ r.1.nextOpId = s.nextOpId + 1
  refused : r.2 ≠ .success → r.1.unsentRefs = s.unsentRefs

/-- A `…Prepare` function refuses, or creates one operation. -/
theorem prepareWith_prepares {checks : List PrepareCheck} {create : Client → Client}
    (hchecks : ∀ c ∈ checks, c.ec ≠ .success) (hc : Created type s (create s)) :
    Prepares type s (s.prepareWith checks create) := by
  unfold prepareWith
  split
  · rename_i c hfind
    exact ⟨fun h => absurd h (hchecks c (List.mem_of_find?_eq_some hfind)), fun _ => rfl⟩
  · refine ⟨fun _ => ⟨?_, hc.nextOpId⟩, fun h => absurd rfl h⟩
    exact mem_unsentRefs.mpr (Or.inl ⟨.preparing, by simp, hc.keys.mem_iff.mpr List.mem_cons_self⟩)

theorem connectPrepare_prepares (env : Env) (s : Client) : Prepares .connect s (s.connectPrepare env) := by
  refine prepareWith_prepares (fun c hc => ?_) createConnectOp_created
  simp only [List.mem_cons, List.not_mem_nil, or_false] at hc
  rcases hc with rfl | rfl | rfl | rfl | rfl | rfl <;> simp [opsFullCheck, lockedCheck, allocCheck]

theorem publishPrepare_prepares (env : Env) (s : Client) : Prepares .send s (s.publishPrepare env) := by
  unfold publishPrepare
  dsimp only
  split
  · rename_i c hfind
    refine ⟨fun h => ?_, fun _ => rfl⟩
    have hmem := List.mem_of_find?_eq_some hfind
    have h : c.ec = .success := h
    simp only [connectionChecks, List.cons_append, List.nil_append, List.mem_cons, List.not_mem_nil,
      or_false] at hmem
    rcases hmem with rfl | rfl | rfl | rfl | rfl <;> cases h
  · split
    · refine ⟨fun h => absurd h (by simp), fun _ => ?_⟩
      -- the operation that is allocated and destroyed was in no list
      show (s.probeSendOp env).unsentRefs = s.unsentRefs
      unfold probeSendOp Client.assert
      dsimp only
      split <;> rfl
    · refine ⟨fun _ => ⟨?_, ?_⟩, fun h => absurd rfl h⟩
      · obtain ⟨timer, h⟩ := createSendOp_shows (s := s) env
        have hops := (h true).sendOps_eq
        refine mem_unsentRefs.mpr (Or.inr ⟨{ id := s.nextOpId, responseTimer := timer }, ?_, rfl, rfl⟩)
        show _ ∈ (s.createSendOp env).sendOps
        rw [hops]
        exact List.mem_append_right _ (List.mem_singleton.mpr rfl)
      · show (s.createSendOp env).nextOpId = s.nextOpId + 1
        unfold createSendOp registerOp Client.assert
        dsimp only
        split <;> rfl

/-- A call that prepares an operation other than CONNECT does nothing else. -/
theorem prepare_call (env : Env) (s : Client) (h : api.prepares? = some type) (hne : type ≠ .connect) :
    ∃ r ∈ s.prepareCalls env, s.call env api = returning r ∧ Prepares type s r := by
  unfold prepareCalls
  cases api <;> first | (cases h; done) | skip
  all_goals cases h
  case connectPrepare => exact absurd rfl hne
  case disconnectPrepare =>
    refine ⟨s.disconnectPrepare env, by simp, rfl, ?_⟩
    refine prepareWith_prepares (fun c hc => ?_) createDisconnectOp_created
    simp only [List.mem_cons, List.not_mem_nil, or_false] at hc
    rcases hc with rfl | rfl | rfl | rfl | rfl | rfl | rfl <;> simp [opsFullCheck, lockedCheck, allocCheck]
  case subscribePrepare =>
    refine ⟨s.subscribePrepare env, by simp, rfl, ?_⟩
    refine prepareWith_prepares (fun c hc => ?_) createSubscribeOp_created
    simp only [connectionChecks, List.cons_append, List.nil_append, List.mem_cons, List.not_mem_nil,
      or_false] at hc
    rcases hc with rfl | rfl | rfl | rfl | rfl | rfl <;> simp [opsFullCheck, lockedCheck, allocCheck]
  case unsubscribePrepare =>
    refine ⟨s.unsubscribePrepare env, by simp, rfl, ?_⟩
    refine prepareWith_prepares (fun c hc => ?_) createUnsubscribeOp_created
    simp only [connectionChecks, List.cons_append, List.nil_append, List.mem_cons, List.not_mem_nil,
      or_false] at hc
    rcases hc with rfl | rfl | rfl | rfl | rfl | rfl <;> simp [opsFullCheck, lockedCheck, allocCheck]
  case publishPrepare =>
    exact ⟨s.publishPrepare env, by simp, rfl, publishPrepare_prepares env s⟩
  case reauthPrepare =>
    refine ⟨s.reauthPrepare env, by simp, rfl, ?_⟩
    refine prepareWith_prepares (fun c hc => ?_) createReauthOp_created
    simp only [connectionChecks, List.cons_append, List.nil_append, List.mem_cons, List.not_mem_nil,
      or_false] at hc
    rcases hc with rfl | rfl | rfl | rfl | rfl | rfl | rfl | rfl <;>
      simp [opsFullCheck, lockedCheck, allocCheck]

/-! ## Between two operations -/

/-- A state of a run that keeps its preparations, with the operations that are in preparation. -/
structure Held (env : Env) (refs : List OpRef) (sys : Sys) : Prop where
  reach : (machine env).Reach (fun sys l => sys.keepsPreparation env l = true) sys
  mem : ∀ r, r ∈ sys.client.unsentRefs ↔ r ∈ refs

variable {refs : List OpRef}

namespace Held

theorem wf (h : Held env refs sys) : SysWf sys :=
  reach_wf h.reach

theorem unsent_nil (h : Held env [] sys) : sys.client.unsentRefs = [] :=
  List.eq_nil_iff_forall_not_mem.mpr fun r hr => by cases (h.mem r).mp hr

/-- With no operation in preparation the lock is free. -/
theorem free (h : Held env [] sys) : sys.client.preparationLocked = false := by
  cases hlock : sys.client.preparationLocked with
  | false => rfl
  | true =>
    obtain ⟨r, hr⟩ := (reach_lockExact h.reach).locked hlock
    have hmem := (h.mem r).mp (by rw [hr]; exact List.mem_cons_self)
    cases hmem

/-- One that is in preparation is the only one. -/
theorem single (hreach : (machine env).Reach (fun sys l => sys.keepsPreparation env l = true) sys)
    (href : ref ∈ sys.client.unsentRefs) : Held env [ref] sys := by
  refine ⟨hreach, fun r => ?_⟩
  have hexact := reach_lockExact hreach
  cases hlock : sys.client.preparationLocked with
  | false =>
    rw [hexact.free hlock] at href
    cases href
  | true =>
    obtain ⟨r', hr'⟩ := hexact.locked hlock
    rw [hr'] at href ⊢
    rw [List.mem_singleton.mp href]

/-- The operations in preparation stay so in a step that leaves the lock and that they survive. -/
theorem keep (h : Held env refs sys) (hk : sys.keepsLock l = true) (hends : l.ends = none)
    (hsurvives : sys.abandons env l = false) (hstep : sys.step env l = some sys') :
    Held env refs sys' := by
  have hcancels : sys.cancelsSilent l = false := by
    unfold Sys.cancelsSilent
    split
    · cases hk
    · rfl
  have hok : sys.keepsPreparation env l = true := by
    simp [Sys.keepsPreparation, hsurvives, hcancels]
  have hreach := h.reach.step hok hstep
  have hrun := step_effects (a := true) (b := .begins) h.wf hstep (fun _ => hk) (.begins _)
  have hcreate : ∀ s, ¬(stepGuard env sys l).create s := fun s hG => by
    unfold stepGuard at hG
    split at hG
    · exact hG
    · rw [hG.2] at hk
      cases hk
  have hstart : ∀ s op, ¬(stepGuard env sys l).start s op := fun s op hG => by
    unfold stepGuard at hG
    split at hG
    · exact hG
    · obtain ⟨cb, elapsed, rfl⟩ := hG
      cases hk
  have hmicro := hrun.run h.wf.reg
  refine ⟨hreach, fun r => ⟨fun hr => ?_, fun hr => ?_⟩⟩
  · exact (h.mem r).mp (MicroRun.unsentRefs hmicro hcreate r hr)
  · have hunsent := (h.mem r).mpr hr
    have hlive : r ∈ sys'.client.liveRefs := by
      refine (mem_liveRefs_of_step h.wf (reach_registered h.reach) (reach_registered hreach) hstep hsurvives
        hunsent).resolve_left ?_
      rw [hends]
      exact (Option.some_ne_none r).symm
    exact MicroRun.live hmicro h.wf.reg h.wf.lock.distinct hcreate hstart r hunsent hlive

/-- Its `send` or `cancel` ends the preparation of the only one. -/
theorem release (h : Held env [ref] sys) (hends : l.ends = some ref) (hstep : sys.step env l = some sys') :
    Held env [] sys' := by
  have href : ref ∈ sys.client.unsentRefs := (h.mem ref).mpr List.mem_cons_self
  have hok : sys.keepsPreparation env l = true := by
    have habandons : sys.abandons env l = false := by
      cases l with
      | run => cases hends
      | call api => rfl
    have hcancels : sys.cancelsSilent l = false := by
      unfold Sys.cancelsSilent
      split
      · cases hends
        obtain ⟨op, hop, hsent⟩ := unsent_send h.wf.reg href
        simp [hop, hsent]
      · rfl
    simp [Sys.keepsPreparation, habandons, hcancels]
  refine ⟨.step h.reach hok hstep, fun r => ⟨fun hr => ?_, fun hr => by cases hr⟩⟩
  cases l with
  | run => cases hends
  | call api =>
    obtain ⟨-, hlegal, rfl⟩ := call_step hstep
    obtain ⟨hmem, hne⟩ := (call_released env h.wf hlegal hends href).unsent r hr
    exact absurd (List.mem_singleton.mp ((h.mem r).mp hmem)) hne

/-- A `…Prepare` function, with nothing in preparation before it. -/
theorem prepare (h : Held env [] sys) {ec : ErrorCode} (hcancels : sys.cancelsSilent l = false)
    (hstep : sys.step env l = some sys') (hp : Prepares type sys.client (sys'.client, ec)) :
    if ec = .success then Held env [⟨type, sys'.client.nextOpId - 1⟩] sys' else Held env [] sys' := by
  have hok : sys.keepsPreparation env l = true := by
    have habandons : sys.abandons env l = false := by
      unfold Sys.abandons
      rw [h.unsent_nil]
      split
      · rfl
      · rfl
    simp [Sys.keepsPreparation, habandons, hcancels]
  have hreach := h.reach.step hok hstep
  split
  · rename_i hec
    obtain ⟨hmem, hnext⟩ := hp.made hec
    refine .single hreach ?_
    rw [show sys'.client.nextOpId - 1 = sys.client.nextOpId from by rw [hnext]; rfl]
    exact hmem
  · rename_i hec
    refine ⟨hreach, fun r => ?_⟩
    rw [show sys'.client.unsentRefs = sys.client.unsentRefs from hp.refused hec]
    exact h.mem r

end Held

/-! ## Whole calls -/

/-- The pieces that leave the lock, with all that they leave to be done. -/
def Task.quiet : Task → Bool
  | .connectPrepare | .initInternal => false
  | _ => true

/-- A piece that leaves the lock leaves only such pieces to be done. -/
theorem runTask_quiet (h : task.quiet = true) :
    ∀ task' ∈ (s.runTask env task).2, task'.quiet = true := by
  cases task <;> first | (cases h; done) | skip
  case enter elapsed =>
    intro task' htask
    have hleaf := doApiEnter_leaves elapsed s task' htask
    cases task' <;> first | rfl | cases hleaf
  case input frames =>
    show ∀ task' ∈ (s.processInput frames).2, _
    unfold Client.processInput
    dsimp only
    split <;> simp [Task.quiet]
  case frames frames =>
    cases frames with
    | nil => exact fun _ h => by cases h
    | cons frame frames =>
      show ∀ task' ∈ (if (s.processFrame env frame).2 then [Task.frames frames] else []), _
      split <;> simp [Task.quiet]
  case publishDoSend op =>
    intro task' htask
    have hleaf := publishDoSend_leaves op s task' htask
    cases task' <;> first | rfl | cases hleaf
  all_goals exact fun _ h => by cases h

/-- Only the preparation of a CONNECT is put off. -/
theorem call_quiet (h : api.prepares? ≠ some .connect) :
    ∀ task ∈ (s.call env api).2, task.quiet = true := by
  intro task htask
  cases call_leaves htask with
  | initInternal | connectPrepare => exact absurd rfl h
  | _ => rfl

namespace Held

/-- A step with nothing in preparation. -/
theorem keep_nil (h : Held env [] sys) (hk : sys.keepsLock l = true) (hends : l.ends = none)
    (hstep : sys.step env l = some sys') : Held env [] sys' :=
  h.keep hk hends (by unfold Sys.abandons; rw [h.unsent_nil]; split <;> rfl) hstep

/-- Pieces that leave the lock, with nothing in preparation. -/
theorem pieces (h : Held env [] ⟨s, tasks ++ rest⟩) (hquiet : ∀ task ∈ tasks, task.quiet = true)
    (hp : Pieces env tasks s t) : Held env [] ⟨t, rest⟩ := by
  refine hp.invariant (P := fun s ts => Held env [] ⟨s, ts⟩) (Q := fun task => task.quiet = true)
    (fun task s hq => runTask_quiet hq) (fun task rest s hq h => ?_) hquiet h
  refine h.keep_nil ?_ rfl (piece_step env s task rest)
  cases task <;> first | rfl | cases hq

/-- The code is returned. -/
theorem ret {ec : ErrorCode} (h : Held env refs ⟨s, .ret ec :: rest⟩) :
    Held env refs ⟨s.emit (.apiReturn ec), rest⟩ := by
  refine h.keep rfl rfl ?_ (piece_step env s (.ret ec) rest)
  exact List.any_eq_false.mpr fun _ _ => Bool.false_ne_true

/-- The rest of a call that leaves the lock. -/
theorem returns (h : Held env [] ⟨(s.call env api).1, (s.call env api).2⟩)
    (hne : api.prepares? ≠ some .connect) : Held env [] ⟨s.performCall env api, []⟩ := by
  have hp : Pieces env (s.call env api).2 (s.call env api).1 _ := pieces_performAll _ _
  rw [← List.append_nil (s.call env api).2] at h
  exact h.pieces (call_quiet hne) hp

end Held

end Mqtt5
