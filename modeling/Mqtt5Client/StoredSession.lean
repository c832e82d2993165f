import Mqtt5Client.Updates

/-!
# Mqtt5Client — dropping the stored session

A CONNACK without a session completes all publishes and receptions. The loop that does it goes over the
positions of `m_ops` and is the only one that does not check for null pointers. Such a pointer is there
when an operation was completed earlier in the same API call, and when the loop itself completes a
publish ahead of its position: a postponed publish is resumed when the one in front of it is completed,
and is completed itself if it cannot be sent or has QoS 0.
-/

namespace Mqtt5

open Client

variable {env : Env} {G : Guard} {a : Bool} {b : Scope} {s t u : Client} {op x : SendOp} {idx : Nat}
  {sys sys' : Sys} {l : Label}

/-! ## Publishes that are not completed when they are resumed -/

/-- The limits of `sendMessage`, with the Maximum Packet Size of the broker as an argument. -/
def fitsIn (env : Env) (maxSize : Nat) (msg : OutMsg) : Bool :=
  !(decide (0 < maxSize) && decide (maxSize < env.frameLength msg)) &&
    !(decide (0 < env.cfg.maxOutputPacketSize) &&
      decide (env.cfg.maxOutputPacketSize < env.frameLength msg))

/-- What decides besides the queue whether a postponed publish goes. -/
structure WakeLimits where
  sendLimit : Nat
  maxSize : Nat
  ordering : PublishOrdering
  deriving DecidableEq

def Client.wakeLimits (s : Client) : WakeLimits :=
  ⟨s.sessionState.highQosSendLimit, s.sessionState.maxSendPacketSize, s.configState.publishOrdering⟩

/-- The published ones behind a publish. -/
def publishedBehind (ops : List SendOp) (op : SendOp) : Nat :=
  ops.countP fun o => decide (op.id < o.id) && o.published

/-- A postponed publish is not completed before those in front of it are: it is sent and waits for its
acknowledgement, or the publishes behind it use up the limit. -/
def SendOp.outlives (env : Env) (w : WakeLimits) (ops : List SendOp) (op : SendOp) : Bool :=
  (op.qos != .atMostOnceDelivery && fitsIn env w.maxSize (.publish op.pubMsg)) ||
    (decide (w.sendLimit ≤ publishedBehind ops op) &&
      !(op.qos == .atMostOnceDelivery && w.ordering == .sameQos))

/-- This holds of all postponed publishes. -/
def staysStored (env : Env) (w : WakeLimits) (ops : List SendOp) : Bool :=
  ops.all fun op => !op.paused || op.outlives env w ops

/-- Only the postponed publishes are asked. -/
theorem staysStored_iff {w : WakeLimits} {ops : List SendOp} : staysStored env w ops = true ↔
    ∀ op ∈ ops, op.paused = true → op.outlives env w ops = true := by
  unfold staysStored
  rw [List.all_eq_true]
  refine forall₂_congr fun op _ => ?_
  cases op.paused <;> simp

/-- More published ones behind a publish do not change the verdict. -/
theorem SendOp.outlives_mono {w : WakeLimits} {ops ops' : List SendOp}
    (hle : publishedBehind ops op ≤ publishedBehind ops' op) (h : op.outlives env w ops = true) :
    op.outlives env w ops' = true := by
  unfold SendOp.outlives at h ⊢
  rw [Bool.or_eq_true, Bool.and_eq_true, Bool.and_eq_true, decide_eq_true_eq] at h ⊢
  exact h.imp_right fun ⟨hlimit, hqos⟩ => ⟨Nat.le_trans hlimit hle, hqos⟩

/-- The publish in front goes; those behind it count as before. -/
theorem staysStored_tail {w : WakeLimits} {ops : List SendOp}
    (hsorted : (ops.map SendOp.id).Pairwise (· < ·)) (h : staysStored env w ops = true) :
    staysStored env w ops.tail = true := by
  cases ops with
  | nil => exact h
  | cons o ops =>
    rw [staysStored_iff] at h ⊢
    intro op hop hp
    refine SendOp.outlives_mono ?_ (h op (List.mem_cons_of_mem _ hop) hp)
    have hlt : o.id < op.id := by
      rw [List.map_cons, List.pairwise_cons] at hsorted
      exact hsorted.1 _ (List.mem_map.mpr ⟨op, hop, rfl⟩)
    have hnot : ¬(decide (op.id < o.id) && o.published) = true := by
      rw [decide_eq_false (Nat.lt_asymm hlt)]
      exact Bool.false_ne_true
    exact Nat.le_of_eq (List.countP_cons_of_neg hnot)

/-- What a resumption keeps: nothing it may resume is completed. -/
structure Stored (env : Env) (w : WakeLimits) (s : Client) : Prop where
  limits : s.wakeLimits = w
  stays : staysStored env w s.sendOps = true

/-- A resumption completes none of these publishes. -/
theorem Stored.not_leave {w : WakeLimits} (h : Stored env w s) (hr : Reg s) (hop : op ∈ s.sendOps) :
    ¬(wakeGuard env idx).leave s op := by
  rintro ⟨hp, hcan, -, hwhy⟩
  have hout := staysStored_iff.mp h.stays op hop hp
  obtain rfl := h.limits
  unfold SendOp.outlives at hout
  rw [Bool.or_eq_true, Bool.and_eq_true, Bool.and_eq_true, decide_eq_true_eq] at hout
  rcases hout with ⟨hqos, hfits⟩ | ⟨hlimit, hqos⟩
  · rcases hwhy with hq | hf
    · simp [hq] at hqos
    · have hf : fitsIn env s.wakeLimits.maxSize (.publish op.pubMsg) = false := hf
      rw [hf] at hfits
      cases hfits
  · -- the limit is used up, and the ordering lets nothing pass
    have hflight : publishedBehind s.sendOps op ≤ s.clientState.inFlightSends := by
      refine Nat.le_trans ?_ hr.inFlight
      exact List.countP_mono_left fun o _ ho => (Bool.and_eq_true_iff.mp ho).2
    have hfull : s.sessionState.highQosSendLimit ≤ s.clientState.inFlightSends :=
      Nat.le_trans hlimit hflight
    unfold canSend at hcan
    rw [if_pos hfull] at hcan
    have hqos : (op.qos == .atMostOnceDelivery &&
        s.configState.publishOrdering == .sameQos) = false := by
      rw [Bool.not_eq_true'] at hqos
      exact hqos
    rw [hqos] at hcan
    cases hcan

/-- An update of a resumption keeps it. -/
theorem Micro.stored {w : WakeLimits} (h : Micro env (wakeGuard env idx) a b s t) (hr : Reg s)
    (hs : Stored env w s) : Stored env w t := by
  have hlimits : t.wakeLimits = w := by
    obtain ⟨hsize, hlimit, hordering, -⟩ := h.session_eq fun _ hc => hc
    obtain rfl := hs.limits
    unfold Client.wakeLimits
    rw [show t.sessionState.highQosSendLimit = _ from hlimit,
      show t.sessionState.maxSendPacketSize = _ from hsize,
      show t.configState.publishOrdering = _ from hordering]
    rfl
  refine ⟨hlimits, ?_⟩
  cases h.queue with
  | same h =>
    rw [h]
    exact hs.stays
  | change op x hop hc h =>
    obtain ⟨hp, -, -, rfl⟩ := hc.of_wake
    rw [h, staysStored_iff]
    intro y hy hyp
    -- the transmitted one is not postponed any more, and it counts for those in front of it
    have hmem : op.id ∈ s.sendOps.map SendOp.id := List.mem_map.mpr ⟨op, hop, rfl⟩
    rcases (Keyed.mem_set (by exact hmem)).mp hy with rfl | ⟨hy, -⟩
    · cases hyp
    · refine SendOp.outlives_mono ?_ (staysStored_iff.mp hs.stays y hy hyp)
      have hpub := (hr.wf op hop).unpublished_of_paused hp
      have hcount := hr.distinct.countP_set hop
        (x := { op with paused := false, published := true, sendAttempts := 1 }) rfl
        fun o => decide (y.id < o.id) && o.published
      unfold publishedBehind
      rw [hpub, Bool.and_false] at hcount
      simp only [Bool.false_eq_true, if_false] at hcount
      omega
  | leave op hop hG h => exact absurd hG (hs.not_leave hr hop)
  | create timer hG h => exact hG.elim

/-- A whole resumption keeps it. -/
theorem MicroRun.stored {w : WakeLimits} (h : MicroRun env (wakeGuard env idx) a b s t) (hr : Reg s)
    (hs : Stored env w s) : Stored env w t :=
  MicroRun.invariant (fun h hr hs => h.stored hr hs) h hr hs

/-! ## A resumption that completes nothing -/

/-- A resumption that completes nothing leaves `m_ops` as it is. -/
theorem resume_ops {w : WakeLimits} {wake : Nat → Client → Client} (hr : Reg s) (hs : Stored env w s)
    (hop : op ∈ s.sendOps) (hfirst : FirstFrom idx s op) :
    (SendOp.resume env wake op s).1.ops = s.ops := by
  unfold SendOp.resume
  cases hp : op.paused with
  | false => rfl
  | true =>
  cases hcan : s.canSend op with
  | false => rfl
  | true =>
  simp only [Bool.not_true, Bool.false_eq_true, ↓reduceIte]
  have hnot : ¬(op.qos = .atMostOnceDelivery ∨ s.fits env (.publish op.pubMsg) = false) :=
    fun hwhy => hs.not_leave hr hop ⟨hp, hcan, hfirst, hwhy⟩
  have hqos : ¬op.qos = .atMostOnceDelivery := fun h => hnot (Or.inl h)
  have hfits : s.fits env (.publish op.pubMsg) = true := by
    simpa using fun h => hnot (Or.inr h)
  have hbegin : Eff false .rests s (s.modifySendOp op.id ({ · with paused := false }))
      (s.view.setOp { op with paused := false }) [] :=
    modifySendOp_eff hr.distinct hop ⟨rfl, rfl, rfl, rfl, fun _ => rfl, rfl⟩
  obtain ⟨u, -, hops, heq⟩ := doSend_sent wake hr hop ((hr.wf op hop).unpublished_of_paused hp)
    hbegin hfits
  rw [heq, if_neg hqos, if_pos rfl]
  exact hops

/-- So does the whole loop. -/
theorem resumeLoop_ops {w : WakeLimits} (fuel : Nat) (hr : Reg s) (hs : Stored env w s) :
    (resumeLoop env fuel idx s).ops = s.ops := by
  induction fuel generalizing idx s with
  | zero => rfl
  | succ fuel ih =>
    unfold resumeLoop
    cases hnext : nextPaused s.sendOps idx with
    | none => rfl
    | some next =>
      obtain ⟨-, ⟨op, hget, -⟩, -⟩ := nextPaused_some hnext
      dsimp only
      rw [hget]
      dsimp only
      have hfirst := hr.firstFrom hget
      have hrun : MicroRun env (wakeGuard env next) false .rests s
          (SendOp.resume env (resumeLoop env fuel) op s).1 :=
        resume_run (fun u hu => resumeLoop_run fuel hu) hr hget hfirst
      have hops : (SendOp.resume env (resumeLoop env fuel) op s).1.ops = s.ops :=
        resume_ops hr hs (List.mem_of_getElem? hget) hfirst
      split
      · rw [ih (hrun.reg hr) (hrun.stored hr hs), hops]
      · exact hops

/-- So does the resumption behind a completed publish. -/
theorem wakeFrom_stored {w : WakeLimits} (idx : Nat) (hr : Reg s) (hs : Stored env w s) :
    (wakeFrom (resumeSendOpsSince env) idx s).ops = s.ops ∧
      Stored env w (wakeFrom (resumeSendOpsSince env) idx s) := by
  unfold wakeFrom
  split
  · exact ⟨rfl, hs⟩
  · have hrun : MicroRun env (wakeGuard env idx) false .rests s (s.resumeSendOpsSince env idx) :=
      resumeSendOpsSince_run hr
    exact ⟨resumeLoop_ops _ hr hs, hrun.stored hr hs⟩

/-! ## Failures -/

/-- Only the update for it follows a null pointer. -/
theorem Prim.noNull {act : Act} (h : Prim act s t) (ha : act ≠ .null) (hs : .nullPointer ∉ s.faults) :
    .nullPointer ∉ t.faults := by
  intro hmem
  rcases h.raises _ hmem with h | h | h
  · exact hs h
  · cases h
  · cases act <;> simp [Act.raises] at h
    exact ha rfl

/-- Only a step that begins something or drops the session meets a null pointer. -/
theorem Acts.noNull (hb : b.admits .null = false) (h : Acts a b s t)
    (hs : .nullPointer ∉ s.faults) : .nullPointer ∉ t.faults := by
  refine h.invariant (fun hp hact hs => hp.noNull ?_ hs) hs
  rintro rfl
  have hadmits := (Act.allowed_iff.mp hact).2 rfl
  rw [hb] at hadmits
  cases hadmits

/-! ## The loop -/

/-- The first pointer of its kind is the one that becomes null. -/
theorem nullify_eq_set {ref : OpRef} {ops : List (Option OpRef)} {i : Nat}
    (h : ops[i]? = some (some ref)) (hbefore : ∀ j, j < i → ops[j]? ≠ some (some ref)) :
    nullify ref ops = ops.set i none := by
  induction ops generalizing i with
  | nil => cases h
  | cons p ops ih =>
    unfold nullify
    cases i with
    | zero =>
      rw [List.getElem?_cons_zero, Option.some.injEq] at h
      rw [if_pos h, List.set_cons_zero]
    | succ i =>
      have hp : p ≠ some ref := fun hp => hbefore 0 (Nat.succ_pos i) (congrArg some hp)
      rw [if_neg hp, List.set_cons_succ, ih h fun j hj => hbefore (j + 1) (Nat.succ_lt_succ hj)]

/-- The first pointer to a publish points to the first one of the queue. -/
theorem Reg.head_of_first (hr : Reg s) {id : OpId} {i : Nat}
    (h : s.ops[i]? = some (some ⟨.send, id⟩))
    (hbefore : ∀ j ref, j < i → s.ops[j]? = some (some ref) → ref.isSendRecv = false) :
    ∃ op rest, s.sendOps = op :: rest ∧ op.id = id := by
  obtain ⟨hi, hget⟩ := List.getElem?_eq_some_iff.mp h
  have hsplit : s.ops = s.ops.take i ++ some ⟨.send, id⟩ :: s.ops.drop (i + 1) := by
    rw [← hget, List.getElem_cons_drop, List.take_append_drop]
  have hnone : (s.ops.take i).filterMap OpRef.sendId = [] := by
    rw [List.filterMap_eq_nil_iff]
    intro p hp
    obtain ⟨j, hj, rfl⟩ := List.mem_iff_getElem.mp hp
    rw [List.getElem_take]
    rw [List.length_take] at hj
    cases hp : s.ops[j] with
    | none => rfl
    | some ref =>
      have hkind := hbefore j ref (by omega) (by rw [List.getElem?_eq_getElem (by omega), hp])
      unfold OpRef.sendId
      split
      · rename_i heq
        cases heq
        cases hkind
      · rfl
  have hrefs := hr.refs
  rw [show s.view.sendRefs = s.ops.filterMap OpRef.sendId from rfl, hsplit, List.filterMap_append,
    hnone, List.nil_append,
    show (some ⟨.send, id⟩ :: s.ops.drop (i + 1)).filterMap OpRef.sendId =
      id :: (s.ops.drop (i + 1)).filterMap OpRef.sendId from rfl] at hrefs
  cases hops : s.sendOps with
  | nil =>
    rw [hops] at hrefs
    cases hrefs
  | cons op rest =>
    rw [hops, List.map_cons] at hrefs
    exact ⟨op, rest, rfl, (List.cons.inj hrefs).1.symm⟩

/-- The completion of a reception clears its pointer. -/
theorem opCompleteRecv_ops {id : OpId} (h : some ⟨.recv, id⟩ ∈ s.ops) :
    (s.opCompleteRecv id).ops = nullify ⟨.recv, id⟩ s.ops := by
  unfold opCompleteRecv opCompleteWith unregisterOp
  rw [if_pos h]
  dsimp only
  unfold eraseRecvOp
  split
  · rfl
  · rename_i op _
    cases op.responseTimer <;> rfl

/-- The state before the round for the position `i`: what is left of publishes and receptions is at or
behind it, and no pointer there is null. -/
structure AbortLoop (env : Env) (w : WakeLimits) (n i : Nat) (s : Client) : Prop where
  reg : Reg s
  length : s.ops.length = n
  behind : ∀ j, i ≤ j → j < n → ∃ ref, s.ops[j]? = some (some ref)
  before : ∀ j ref, j < i → s.ops[j]? = some (some ref) → ref.isSendRecv = false
  limits : s.wakeLimits = w
  stays : staysStored env w s.sendOps.tail = true
  sound : .nullPointer ∉ s.faults

section Round

variable {w : WakeLimits} {n i : Nat} (h : AbortLoop env w n i s)

include h

/-- The round has completed the operation at its position. -/
theorem AbortLoop.next (hreg : Reg t) (hops : t.ops = s.ops.set i none) (hlimits : t.wakeLimits = w)
    (hstays : staysStored env w t.sendOps.tail = true) (hsound : .nullPointer ∉ t.faults) :
    AbortLoop env w n (i + 1) t where
  reg := hreg
  length := by rw [hops, List.length_set, h.length]
  behind := fun j hj hlt => by
    rw [hops, List.getElem?_set_ne (by omega)]
    exact h.behind j (by omega) hlt
  before := fun j ref hj hget => by
    by_cases hij : i = j
    · subst hij
      rw [hops, List.getElem?_set_self'] at hget
      cases hi : s.ops[i]? <;> simp [hi] at hget
    · rw [hops, List.getElem?_set_ne hij] at hget
      exact h.before j ref (by omega) hget
  limits := hlimits
  stays := hstays
  sound := hsound

/-- At the position of the loop, clearing the pointer is clearing the entry. -/
theorem AbortLoop.nullify_eq {ref : OpRef} (hget : s.ops[i]? = some (some ref))
    (hkind : ref.isSendRecv = true) : nullify ref s.ops = s.ops.set i none := by
  refine nullify_eq_set hget fun j hj hj' => ?_
  rw [h.before j ref hj hj'] at hkind
  cases hkind

/-- A round at a reception. -/
theorem AbortLoop.recv {id : OpId} (hget : s.ops[i]? = some (some ⟨.recv, id⟩)) :
    AbortLoop env w n (i + 1) (s.opCompleteRecv id) := by
  have hf : Frame false .rests s (s.opCompleteRecv id) := (Frame.refl false .rests s).opCompleteRecv
    (Or.inl (List.mem_of_getElem? hget))
  refine h.next (hf.reg h.reg) ?_ ?_ ?_ (hf.acts.noNull rfl h.sound)
  · rw [opCompleteRecv_ops (List.mem_of_getElem? hget), h.nullify_eq hget rfl]
  · have hlimits := h.limits
    unfold wakeLimits at hlimits ⊢
    rwa [show (s.opCompleteRecv id).sessionState.highQosSendLimit = s.sessionState.highQosSendLimit from
        congrArg PubView.highQosSendLimit hf.view,
      show (s.opCompleteRecv id).sessionState.maxSendPacketSize = s.sessionState.maxSendPacketSize from
        congrArg PubView.maxSendPacketSize hf.view,
      show (s.opCompleteRecv id).configState.publishOrdering = s.configState.publishOrdering from
        congrArg PubView.publishOrdering hf.view]
  · rw [hf.sendOps_eq]
    exact h.stays

/-- A round at a publish. -/
theorem AbortLoop.send {id : OpId} (hget : s.ops[i]? = some (some ⟨.send, id⟩)) :
    AbortLoop env w n (i + 1) (s.terminateOp env .aborted ⟨.send, id⟩) := by
  obtain ⟨op, rest, hops, rfl⟩ := h.reg.head_of_first hget h.before
  have hop : op ∈ s.sendOps := by
    rw [hops]
    exact List.mem_cons_self
  have hterm : s.terminateOp env .aborted ⟨.send, op.id⟩ =
      s.sendOpCompleteWithCb env op .aborted none := by
    unfold terminateOp
    dsimp only
    rw [sendOp?_eq h.reg.distinct hop]
    rfl
  have hrun : MacroRun env .any false .rests s (s.sendOpCompleteWithCb env op .aborted none) :=
    sendOpCompleteWithCb_run' h.reg hop trivial (Frame.refl false .rests s) _ _
  -- the publish is the first one, and the others are resumed from the front
  obtain ⟨u, hu, heff, hnull⟩ := erase_eff (resumeSendOpsSince env) (x := op) (y := op) h.reg hop
    ((Frame.refl false .rests s).toSet h.reg hop) rfl rfl rfl rfl
  have hsend : u.sendOps = rest := by
    rw [heff.sendOps_eq]
    show Keyed.erase SendOp.id op.id s.sendOps = rest
    rw [hops]
    simp [Keyed.erase]
  have hleave : Leave env .any false .rests s op u := .erase heff
  have hreg : Reg u := hleave.reg hop h.reg
  have hstored : Stored env w u := by
    refine ⟨?_, ?_⟩
    · have hlimits := h.limits
      unfold wakeLimits at hlimits ⊢
      rwa [show u.sessionState.highQosSendLimit = s.sessionState.highQosSendLimit from
          congrArg PubView.highQosSendLimit heff.view,
        show u.sessionState.maxSendPacketSize = s.sessionState.maxSendPacketSize from
          congrArg PubView.maxSendPacketSize heff.view,
        show u.configState.publishOrdering = s.configState.publishOrdering from
          congrArg PubView.publishOrdering heff.view]
    · have hstays := h.stays
      rw [hops] at hstays
      rw [hsend]
      exact hstays
  obtain ⟨hwops, hwstored⟩ := wakeFrom_stored (s.sendIdx op.id) hreg hstored
  have hcb : s.sendOpCompleteWithCb env op .aborted none =
      if op.cb then (wakeFrom (resumeSendOpsSince env) (s.sendIdx op.id) u).emit
        (.publishCb op.id .aborted none)
      else wakeFrom (resumeSendOpsSince env) (s.sendIdx op.id) u := by
    unfold sendOpCompleteWithCb SendOp.completeWithCb
    dsimp only
    rw [hu]
  have hreg' : Reg (s.sendOpCompleteWithCb env op .aborted none) := hrun.reg h.reg
  have hsound := (MacroRun.acts hrun h.reg (by simp)).noNull rfl h.sound
  rw [hterm]
  refine h.next hreg' ?_ ?_ (staysStored_tail hreg'.sorted ?_) hsound
  · rw [← h.nullify_eq hget rfl, ← hnull, ← hwops, hcb]
    split <;> rfl
  · rw [← hwstored.limits, hcb]
    split <;> rfl
  · rw [← hwstored.stays, hcb]
    split <;> rfl

/-- One round of the loop keeps the invariant. -/
theorem AbortLoop.round (hi : i < n) : AbortLoop env w n (i + 1) (s.abortStoredAt env i) := by
  obtain ⟨ref, hget⟩ := h.behind i (Nat.le_refl i) hi
  unfold abortStoredAt
  rw [hget]
  dsimp only
  obtain ⟨type, id⟩ := ref
  by_cases hkind : OpRef.isSendRecv ⟨type, id⟩ = true
  · rw [if_pos hkind]
    cases type
    all_goals first
      | (cases hkind; done)
      | skip
    case recv => exact h.recv hget
    case send => exact h.send hget
  · rw [if_neg hkind]
    refine { h with behind := fun j hj hlt => h.behind j (by omega) hlt, before := ?_ }
    intro j ref hj hget'
    rcases Nat.lt_succ_iff_lt_or_eq.mp hj with hj | rfl
    · exact h.before j ref hj hget'
    · rw [hget, Option.some.injEq, Option.some.injEq] at hget'
      rw [← hget']
      simpa using hkind

end Round

/-- A session is dropped without meeting a null pointer. -/
theorem abortStoredSession_noNull (hr : Reg s) (hnull : none ∉ s.ops)
    (hstays : staysStored env s.wakeLimits s.sendOps.tail = true) (hs : .nullPointer ∉ s.faults) :
    .nullPointer ∉ (s.abortStoredSession env).faults := by
  have hstart : AbortLoop env s.wakeLimits s.ops.length 0 s := by
    refine ⟨hr, rfl, fun j _ hj => ?_, fun j ref hj _ => absurd hj (Nat.not_lt_zero j), rfl, hstays, hs⟩
    cases hp : s.ops[j] with
    | none => exact absurd (hp ▸ List.getElem_mem hj) hnull
    | some ref => exact ⟨ref, by rw [List.getElem?_eq_getElem hj, hp]⟩
  have hloop : ∀ k ≤ s.ops.length,
      AbortLoop env s.wakeLimits s.ops.length k ((List.range k).foldl (abortStoredAt env) s) := by
    intro k hk
    induction k with
    | zero => exact hstart
    | succ k ih =>
      rw [List.range_succ, List.foldl_append]
      exact (ih (Nat.le_of_succ_le hk)).round hk
  exact (hloop _ (Nat.le_refl _)).sound

/-! ## Steps -/

/-- The limits an accepted CONNACK sets. -/
def connackLimits (env : Env) (op : ConnectOp) (msg : ConnackMsg) (s : Client) : WakeLimits :=
  ⟨limited env.cfg.sendMaxLimit (connackAnswer env op msg).highQosSendLimit,
    (connackAnswer env op msg).maxPacketSize, s.configState.publishOrdering⟩

/-- Where a CONNACK without a session is accepted, no pointer in `m_ops` is null, and no publish behind
the first one is completed by a resumption before those in front of it are. -/
def Sys.dropsSafely (env : Env) (sys : Sys) (l : Label) : Bool :=
  match sys.inMsg l with
  | some (.connack msg) =>
    msg.sessionPresent || sys.client.sessionState.disconnecting ||
      sys.client.connectOps.all fun op => !connackAccepted env op msg ||
        (sys.client.ops.all (·.isSome) &&
          staysStored env (connackLimits env op msg sys.client) sys.client.sendOps.tail)
  | _ => true

variable (env) in
/-- An accepted CONNACK changes nothing the loop looks at, apart from the limits. -/
theorem connackConnected_same (op : ConnectOp) (msg : ConnackMsg) (s : Client) :
    (s.connackConnected env op msg).ops = s.ops ∧
      (s.connackConnected env op msg).sendOps = s.sendOps ∧
      (s.connackConnected env op msg).wakeLimits = connackLimits env op msg s := by
  unfold connackConnected storeAliasMax
  dsimp only
  split <;> exact ⟨rfl, rfl, rfl⟩

/-- The handler of an accepted CONNACK. -/
theorem connectHandleConnack_noNull {op : ConnectOp} {msg : ConnackMsg} {ops : List ConnectOp}
    (hG : G.Connack env msg ops) (hop : op ∈ ops) (hmem : op ∈ s.connectOps) (hr : Reg s)
    (hacc : connackAccepted env op msg = true)
    (hok : msg.sessionPresent = false → none ∉ s.ops ∧
      staysStored env (connackLimits env op msg s) s.sendOps.tail = true)
    (hs : .nullPointer ∉ s.faults) : .nullPointer ∉ (s.connectHandleConnack env op msg).faults := by
  have hstart : false = true → ∀ s op, ¬G.start s op := by simp
  obtain ⟨hops, hsend, hlimits⟩ := connackConnected_same env op msg s
  have hrun : MacroRun env G false .rests s (s.connackConnected env op msg) :=
    connackConnected_run hmem msg (fun s => hG.session _ _ (.aliasMax op hop hacc))
      (fun s => hG.session _ _ (.accept op hop hacc))
      (fun s => hG.session _ _ (.connected op hop hacc))
  have hr' := hrun.reg hr
  have hs' := (MacroRun.acts hrun hr hstart).noNull rfl hs
  rw [connectHandleConnack_accepted hacc]
  -- the stored operations
  have hstored : .nullPointer ∉ (if msg.sessionPresent then
      (s.connackConnected env op msg).resumeSession env
      else (s.connackConnected env op msg).abortStoredSession env).faults := by
    cases hsp : msg.sessionPresent with
    | true =>
      have hresume : MacroRun env G false .rests (s.connackConnected env op msg) _ :=
        resumeSession_run (hG.resends hsp ⟨op, hop, hacc⟩) hr'
      rw [if_pos rfl]
      exact (MacroRun.acts hresume hr' hstart).noNull rfl hs'
    | false =>
      obtain ⟨hnull, hstays⟩ := hok hsp
      rw [if_neg Bool.false_ne_true]
      exact abortStoredSession_noNull hr' (hops ▸ hnull) (by rw [hlimits, hsend]; exact hstays) hs'
  -- the aliases, the keep alive and the completion
  set v := if msg.sessionPresent then (s.connackConnected env op msg).resumeSession env
    else (s.connackConnected env op msg).abortStoredSession env
  have hclear : Eff false .rests v v.clearSendAliases _ [] := clearSendAliases_eff
  have hcon : v.clearSendAliases.sessionState.connected = true := by
    show v.sessionState.connected = true
    dsimp only [v]
    split
    · exact resumeSession_connected hr' rfl
    · exact abortStoredSession_connected hr' rfl
  have hkeep : .nullPointer ∉ (v.clearSendAliases.createKeepAliveOpIfNeeded env).faults := by
    have hs := hclear.acts.noNull rfl hstored
    cases hka : v.clearSendAliases.keepAliveOps with
    | nil => exact (Prim.createKeepAlive env hka hcon).noNull (by simp) hs
    | cons op ops =>
      have hsame : v.clearSendAliases.createKeepAliveOpIfNeeded env = v.clearSendAliases := by
        unfold createKeepAliveOpIfNeeded
        rw [if_pos (by simp [hka])]
      rw [hsame]
      exact hs
  have hlive : op ∈ (v.clearSendAliases.createKeepAliveOpIfNeeded env).connectOps :=
    (connackConnected_connectOps env op msg s).symm ▸ hmem
  exact ((Frame.refl false .rests _).connectComplete (.connect hlive) _ _).acts.noNull rfl hkeep

/-- A CONNACK that drops no stored operation unsafely follows no null pointer. -/
theorem connack_noNull (hw : SysWf sys) (hstep : sys.step env l = some sys') {msg : ConnackMsg}
    (hin : sys.inMsg l = some (.connack msg)) (hok : sys.dropsSafely env l = true)
    (hs : .nullPointer ∉ sys.client.faults) : .nullPointer ∉ sys'.client.faults := by
  obtain ⟨rest, -, -, hclient⟩ := inMsg_step hstep hin
  have hG : (connackGuard env sys l).Connack env msg _ := connackGuard_connack hin
  rw [hclient]
  cases handleConnack_dispatched env hw.reg hw.lock msg with
  | before h heq => exact h.acts.noNull rfl hs
  | handled u op hop hpre heq hcon hpost hgone =>
    have hu := hpre.acts.noNull rfl hs
    have hru := hpre.reg hw.reg
    have hmem : op ∈ u.connectOps := by rw [heq]; exact hop
    refine hpost.acts.noNull rfl ?_
    cases hacc : connackAccepted env op msg with
    | false =>
      have hrun : MacroRun env (connackGuard env sys l) false .rests u _ :=
        connectHandleConnack_refused_run hG hop hmem hacc
      exact (MacroRun.acts hrun hru (by simp)).noNull rfl hu
    | true =>
      refine connectHandleConnack_noNull hG hop hmem hru hacc (fun hsp => ?_) hu
      unfold Sys.dropsSafely at hok
      rw [hin] at hok
      dsimp only at hok
      rw [hsp, hcon, Bool.false_or, Bool.false_or, List.all_eq_true] at hok
      have h := hok op hop
      rw [hacc, Bool.not_true, Bool.false_or, Bool.and_eq_true, List.all_eq_true] at h
      rw [heq]
      exact ⟨fun hmem => by simpa using h.1 _ hmem, h.2⟩

/-- A PUBLISH follows no null pointer. -/
theorem publish_noNull (hw : SysWf sys) (hstep : sys.step env l = some sys') {msg : RecvPublishMsg}
    (hin : sys.inMsg l = some (.publish msg)) (hs : .nullPointer ∉ sys.client.faults) :
    .nullPointer ∉ sys'.client.faults := by
  have hacts := publish_acts hw hstep hin
  split at hacts
  · exact hacts.2.noNull rfl ((Prim.createRecv env).noNull (by simp) (hacts.1.noNull rfl hs))
  · exact hacts.noNull rfl hs

/-- A step follows no null pointer. -/
theorem step_noNull (hw : SysWf sys) (hstep : sys.step env l = some sys')
    (hok : sys.dropsSafely env l = true) (hs : .nullPointer ∉ sys.client.faults) :
    .nullPointer ∉ sys'.client.faults := by
  have hrests : sys.recv env l = .rests → .nullPointer ∉ sys'.client.faults := fun hrecv =>
    (step_acts (a := false) (b := .rests) hw hstep (by simp) (by rw [hrecv]; exact .rests _)).noNull rfl hs
  cases hin : sys.inMsg l with
  | none => exact hrests (by simp [Sys.recv, hin])
  | some m =>
    cases m with
    | publish msg => exact publish_noNull hw hstep hin hs
    | connack msg => exact connack_noNull hw hstep hin hok hs
    | _ => exact hrests (by simp [Sys.recv, hin, InMsg.recv])

/-- No loop over `m_ops` uses a null pointer, as long as stored sessions are dropped where none is in
`m_ops` and none comes up during the loop. -/
theorem ops_not_null (h : (machine env).Reach (fun sys l => sys.dropsSafely env l = true) sys) :
    .nullPointer ∉ sys.client.faults := by
  have hinit : ∀ sys, (machine env).init sys → .nullPointer ∉ sys.client.faults := by
    rintro _ ⟨cbs, config, rfl⟩
    exact List.not_mem_nil
  exact h.invariant hinit fun sys l sys' hs hinv hok hstep =>
    step_noNull (reach_wf hs) hstep hok hinv

/-- Some publishes in a session that outlives its connection, and a CONNACK without a session after some
more calls. -/
def droppedSession (before publishes : List (Api × Nat)) (limit : PropsList) (op : OpId)
    (after : List (Api × Nat)) : List (Api × Nat) :=
  let connack (props : PropsList) : ConnackMsg :=
    { sessionPresent := false, reasonCode := ReasonCode.success, props := props }
  before ++ connectCalls true { sessionExpiryInterval := 100 } (connack limit) ++ publishes ++
    [(.notifyNetworkDisconnected 0, 3)] ++ reconnectCalls op true {} ++ after ++
    [(packet (.connack (connack [])), 5)]

/-- A postponed publish waits for its acknowledgement once it is resumed: nothing goes wrong. -/
theorem ops_not_null_postponed :
    ∃ sys, (machine .dynamic).Reach (fun sys l => sys.dropsSafely .dynamic l = true) sys ∧
      sys.pending = [] ∧ sys.client.sendOps = [] ∧ .nullPointer ∉ sys.client.faults := by
  obtain ⟨sys, hreach, hpending, hops⟩ := exists_reach_ok .dynamic
    (fun sys l => sys.dropsSafely .dynamic l = true)
    (droppedSession [] (publishCalls 2 .atLeastOnceDelivery 4 ++ publishCalls 3 .atLeastOnceDelivery 1)
      [.receiveMax 1] 4 [])
    (fun sys => sys.pending = [] ∧ sys.client.sendOps = []) (by decide +kernel)
  exact ⟨sys, hreach, hpending, hops, ops_not_null hreach⟩

/-- A publish that is cancelled before the CONNACK arrives leaves a null pointer for the loop. -/
theorem ops_null_cancelled :
    ∃ sys, (machine .dynamic).Reach (fun _ _ => True) sys ∧ .nullPointer ∈ sys.client.faults :=
  exists_reach_fresh .dynamic
    (droppedSession [] (publishCalls 2 .atLeastOnceDelivery 4) [] 3 [(.publishCancel 2, 1)])
    (fun sys => .nullPointer ∈ sys.client.faults) (by decide +kernel)

/-- Where no message finds a null pointer, a postponed publish with QoS 0 leaves one: it goes out when the
one in front of it is dropped. -/
theorem ops_null_postponed :
    ∃ sys, (machine .dynamic).Reach
        (fun sys l => (sys.inMsg l).isSome = true → none ∉ sys.client.ops) sys ∧
      .nullPointer ∈ sys.client.faults :=
  exists_reach_ok .dynamic (fun sys l => (sys.inMsg l).isSome = true → none ∉ sys.client.ops)
    (droppedSession [(.publishSetOrdering .full, 1)]
      (publishCalls 2 .atLeastOnceDelivery 4 ++ publishCalls 3 .atMostOnceDelivery 1) [.receiveMax 1] 4
      [])
    (fun sys => .nullPointer ∈ sys.client.faults) (by decide +kernel)

end Mqtt5
