import Mqtt5Client.Effects

/-!
# Mqtt5Client — resuming postponed publishes

`resumeSendOpsSince` as a run of elementary steps. Every publish it resumes is the first postponed one
at or behind the position it was called with, and what is in front of that position stays as it is.
Where nothing in front of the position is postponed, it is the first postponed publish of the queue.
-/

namespace Mqtt5

open Client

variable {env : Env} {a : Bool} {b : Scope} {s t u : Client} {op : SendOp} {idx next : Nat}

/-! ## Positions -/

/-- Identities grow along the queue. -/
theorem Reg.id_lt (hr : Reg s) {i j : Nat} {o o' : SendOp} (hij : i < j)
    (ho : s.sendOps[i]? = some o) (ho' : s.sendOps[j]? = some o') : o.id < o'.id := by
  obtain ⟨hi, rfl⟩ := List.getElem?_eq_some_iff.mp ho
  obtain ⟨hj, rfl⟩ := List.getElem?_eq_some_iff.mp ho'
  have := List.pairwise_iff_getElem.mp hr.sorted i j (by simpa) (by simpa) hij
  simpa using this

/-- Smaller identities are in front. -/
theorem Reg.idx_lt (hr : Reg s) {i j : Nat} {o o' : SendOp} (hid : o.id < o'.id)
    (ho : s.sendOps[i]? = some o) (ho' : s.sendOps[j]? = some o') : i < j := by
  rcases Nat.lt_trichotomy i j with hij | rfl | hji
  · exact hij
  · rw [ho, Option.some.injEq] at ho'
    exact absurd hid (by rw [ho']; exact Nat.lt_irrefl _)
  · exact absurd hid (Nat.lt_asymm (hr.id_lt hji ho' ho))

/-- The position of a publish is where it is found. -/
theorem Reg.sendIdx_eq (hr : Reg s) (h : s.sendOps[idx]? = some op) : s.sendIdx op.id = idx :=
  hr.distinct.findIdx h

/-- `op` is behind the position `idx`, and no postponed publish there is in front of it. -/
structure FirstFrom (idx : Nat) (s : Client) (op : SendOp) : Prop where
  front : ∀ i o, i < idx → s.sendOps[i]? = some o → o.id < op.id
  first : ∀ i o, idx ≤ i → s.sendOps[i]? = some o → o.paused = true → op.id ≤ o.id

/-- The publish at a position is the first one behind it. -/
theorem Reg.firstFrom (hr : Reg s) (hget : s.sendOps[idx]? = some op) : FirstFrom idx s op where
  front := fun i o hi ho => hr.id_lt hi ho hget
  first := fun i o hi ho _ => by
    rcases Nat.eq_or_lt_of_le hi with rfl | hlt
    · rw [hget, Option.some.injEq] at ho
      exact Nat.le_of_eq (congrArg SendOp.id ho)
    · exact Nat.le_of_lt (hr.id_lt hlt hget ho)

/-- The search finds nothing when nothing is postponed. -/
theorem nextPaused_none {ops : List SendOp} (h : nextPaused ops idx = none) {i : Nat} {o : SendOp}
    (hi : idx ≤ i) (ho : ops[i]? = some o) : o.paused = false := by
  unfold nextPaused at h
  rw [Option.map_eq_none_iff, List.findIdx?_eq_none_iff] at h
  refine h o (List.mem_iff_getElem?.mpr ⟨i - idx, ?_⟩)
  rw [List.getElem?_drop, Nat.add_sub_cancel' hi, ho]

/-- The search finds the first postponed publish. -/
theorem nextPaused_some {ops : List SendOp} (h : nextPaused ops idx = some next) :
    idx ≤ next ∧ (∃ op, ops[next]? = some op ∧ op.paused = true) ∧
      ∀ i o, idx ≤ i → i < next → ops[i]? = some o → o.paused = false := by
  unfold nextPaused at h
  obtain ⟨n, hn, rfl⟩ := Option.map_eq_some_iff.mp h
  obtain ⟨hlt, hp, hbefore⟩ := List.findIdx?_eq_some_iff_getElem.mp hn
  have hlt' : idx + n < ops.length := by
    rw [List.length_drop] at hlt
    omega
  refine ⟨Nat.le_add_left _ _, ⟨ops[idx + n], ?_, by simpa using hp⟩, fun i o hi hin ho => ?_⟩
  · rw [Nat.add_comm, List.getElem?_eq_getElem hlt']
  · obtain ⟨hlen, rfl⟩ := List.getElem?_eq_some_iff.mp ho
    have := hbefore (i - idx) (by omega)
    rw [List.getElem_drop] at this
    simpa [Nat.add_sub_cancel' hi] using this

/-! ## The guard of a resumption -/

/-- A run of `resumeSendOpsSince`: it resumes publishes and completes the ones it cannot send. -/
def wakeGuard (env : Env) (idx : Nat) : Guard where
  resume := FirstFrom idx
  first := fun _ _ => False
  dup := fun _ _ => False
  leave := fun s op => op.paused = true ∧ s.canSend op = true ∧ FirstFrom idx s op ∧
    (op.qos = .atMostOnceDelivery ∨ s.fits env (.publish op.pubMsg) = false)
  create := fun _ => False
  start := fun _ _ => False
  config := fun _ _ _ => False
  ack := fun _ _ => False
  alloc := fun _ _ => False
  session := fun _ _ => False
  reconnect := fun _ => False
  stray := fun _ _ => False

/-- In a resumption a publish changes only by being transmitted. -/
theorem Change.of_wake {x : SendOp} (h : Change env (wakeGuard env idx) s op x) :
    op.paused = true ∧ op.qos ≠ .atMostOnceDelivery ∧ FirstFrom idx s op ∧
      x = { op with paused := false, published := true, sendAttempts := 1 } := by
  cases h with
  | transmit hwhy hqos hfits =>
    rcases hwhy with ⟨hp, -, hfirst⟩ | ⟨-, -, -, hG⟩
    · exact ⟨hp, hqos, hfirst, rfl⟩
    · exact hG.elim
  | config x c hG hsent hsame => exact hG.elim
  | start cb pid hG hsent => exact hG.elim
  | pause hG hsent hpub hcan => exact hG.elim
  | rewind hpaused hG => exact hG.elim
  | dup hG hacked => exact hG.elim
  | pubrelDup hG hacked => exact hG.elim
  | acked hG hlegit hqos hacked => exact hG.elim
  | retopic msg n hpaused hG hqos => exact hG.elim

/-- A resumption leaves what is in front of its position. -/
theorem Micro.front_eq (h : Micro env (wakeGuard env idx) a b s t) {i : Nat} (hi : i < idx) :
    t.sendOps[i]? = s.sendOps[i]? := by
  cases h.queue with
  | same h => rw [h]
  | change op x hop hc h =>
    obtain ⟨-, -, hfirst, rfl⟩ := hc.of_wake
    rw [h]
    exact Keyed.getElem?_set_of_ne fun y hy => Nat.ne_of_lt (hfirst.front i y hi hy)
  | leave op hop hG h =>
    rw [h]
    exact Keyed.getElem?_erase_of_lt fun j hj y hy =>
      Nat.ne_of_lt (hG.2.2.1.front j y (by omega) hy)
  | create timer hG h => exact hG.elim

/-- A resumption leaves what is in front of its position alone. -/
theorem MicroRun.front_eq (h : MicroRun env (wakeGuard env idx) a b s t) {i : Nat} (hi : i < idx) :
    t.sendOps[i]? = s.sendOps[i]? := by
  induction h with
  | refl => rfl
  | tail _ h ih => rw [h.front_eq hi, ih]

/-- The first postponed publish behind `next` is the first one behind `idx`, when there is none in
between. -/
theorem FirstFrom.widen (h : FirstFrom next s op) (hle : idx ≤ next)
    (hbetween : ∀ i o, idx ≤ i → i < next → s.sendOps[i]? = some o → o.paused = false) :
    FirstFrom idx s op where
  front := fun i o hi ho => h.front i o (by omega) ho
  first := fun i o hi ho hp => by
    by_cases hlt : i < next
    · simp [hbetween i o hi hlt ho] at hp
    · exact h.first i o (by omega) ho hp

/-- A resumption may begin earlier when nothing is postponed between. -/
theorem Micro.widen (h : Micro env (wakeGuard env next) a b s t) (hle : idx ≤ next)
    (hbetween : ∀ i o, idx ≤ i → i < next → s.sendOps[i]? = some o → o.paused = false) :
    Micro env (wakeGuard env idx) a b s t := by
  have hwhy : ∀ {op}, Why (wakeGuard env next) s op → Why (wakeGuard env idx) s op := by
    rintro op (⟨hp, hcan, hf⟩ | ⟨hp, hpub, hsent, hG⟩)
    · exact Or.inl ⟨hp, hcan, hf.widen hle hbetween⟩
    · exact hG.elim
  cases h with
  | frame h => exact .frame h
  | report id status response h => exact .report id status response h
  | connect msg h => exact .connect msg h
  | create timer hc hG hid h => exact hG.elim
  | config op op' hop hG hsent hsame hp h => exact hG.elim
  | configBasic op op' config table hop hG hsent hsame ht h => exact hG.elim
  | start op cb pid hop hsent hG hl h => exact hG.elim
  | pause op hop hG hsent hpub hcan h => exact hG.elim
  | transmit op hop hw hqos hfits h => exact .transmit op hop (hwhy hw) hqos hfits h
  | rewind op hop hpaused hG h => exact hG.elim
  | leave op hop hG h =>
    refine .leave op hop ⟨hG.1, hG.2.1, hG.2.2.1.widen hle hbetween, hG.2.2.2⟩ ?_
    cases h with
    | erase h => exact .erase h
    | deliver hw hqos hfits h => exact .deliver (hwhy hw) hqos hfits h
  | dup op hop hG hacked h => exact hG.elim
  | pubrelDup op hop hG hacked h => exact hG.elim
  | acked op hop hG hlegit hqos hacked h => exact hG.elim
  | retopic op msg n hop hpaused hG hmsg h => exact hG.elim
  | confirm op hop hreg h => exact .confirm op hop hreg h
  | aliasNew topic count hG htopic hconn hmax hnone h => exact hG.elim
  | aliasAgain topic count hsome h => exact .aliasAgain topic count hsome h
  | aliasFree topic info hG hsome h => exact hG.elim
  | session c hG h => exact hG.elim
  | stray op n hop hold hG hn h => exact hG.elim

/-- A run from a position is a run from an earlier one, when nothing in between is postponed. -/
theorem MicroRun.widen (h : MicroRun env (wakeGuard env next) a b s t) (hle : idx ≤ next)
    (hbetween : ∀ i o, idx ≤ i → i < next → s.sendOps[i]? = some o → o.paused = false) :
    MicroRun env (wakeGuard env idx) a b s t := by
  induction h with
  | refl => exact .refl
  | tail hsu h ih =>
    refine ih.tail (h.widen hle fun i o hi hin ho => hbetween i o hi hin ?_)
    rw [← MicroRun.front_eq hsu hin, ho]

/-! ## `SendOp::resume` and its loop -/

/-- The completion callback. -/
theorem report_run {G : Guard} (cb : Bool) (id : OpId) (status : AsyncOpStatus)
    (response : Option PublishResponse) :
    MicroRun env G a b s (if cb then s.emit (.publishCb id status response) else s) := by
  cases cb with
  | false => exact .refl
  | true => exact .single (.report id status response (emit_eff rfl))

variable {wake : Nat → Client → Client}

theorem wakeFrom_run {G : Guard} (hw : Reg s → MicroRun env G a b s (wake idx s)) (hr : Reg s) :
    MicroRun env G a b s (wakeFrom wake idx s) := by
  unfold wakeFrom
  split
  · exact .refl
  · exact hw hr

/-- Resuming the publish at the position `next`. -/
theorem resume_run (hw : ∀ u, Reg u → MicroRun env (wakeGuard env next) a b u (wake next u))
    (hr : Reg s) (hget : s.sendOps[next]? = some op) (hfirst : FirstFrom next s op) :
    MicroRun env (wakeGuard env next) a b s (SendOp.resume env wake op s).1 := by
  have hop : op ∈ s.sendOps := List.mem_of_getElem? hget
  have hidx : s.sendIdx op.id = next := hr.sendIdx_eq hget
  unfold SendOp.resume
  cases hp : op.paused with
  | false => exact .refl
  | true =>
  cases hcan : s.canSend op with
  | false => exact .refl
  | true =>
  simp only [Bool.not_true, Bool.false_eq_true, ↓reduceIte]
  have hpub := (hr.wf op hop).unpublished_of_paused hp
  have hwhy : Why (wakeGuard env next) s op := Or.inl ⟨hp, hcan, hfirst⟩
  have hbegin : Eff a b s (s.modifySendOp op.id ({ · with paused := false }))
      (s.view.setOp { op with paused := false }) [] :=
    modifySendOp_eff hr.distinct hop ⟨rfl, rfl, rfl, rfl, fun _ => rfl, rfl⟩
  cases hfits : s.fits env (.publish op.pubMsg) with
  | false =>
    -- the publish is completed with an error
    obtain ⟨hec, heff⟩ := doSend_of_not_fits wake hr hop hbegin hfits
    rw [if_neg hec]
    obtain ⟨u, hu, hue, -⟩ := erase_eff wake
      (y := { op with paused := false, sendAttempts := 0 }) hr hop heff rfl rfl rfl rfl
    have hmicro : Micro env (wakeGuard env next) a b s u :=
      .leave op hop ⟨hp, hcan, hfirst, Or.inr hfits⟩ (.erase hue)
    unfold SendOp.completeWithCb
    dsimp only
    rw [hu, hidx]
    exact ((Relation.ReflTransGen.single hmicro).trans
      (wakeFrom_run (hw u) (hmicro.reg hr))).trans (report_run _ _ _ _)
  | true =>
    obtain ⟨u, hu, -, heq⟩ := doSend_sent wake hr hop hpub hbegin hfits
    rw [heq]
    by_cases hqos : op.qos = .atMostOnceDelivery
    · -- QoS 0: the publish is transmitted and gone
      rw [if_pos hqos, if_pos rfl]
      dsimp only
      obtain ⟨w, hw', hwe⟩ := deliver_eff wake
        (y := { op with paused := false, published := true }) hr hop hu rfl rfl rfl rfl
      have hmicro : Micro env (wakeGuard env next) a b s w :=
        .leave op hop ⟨hp, hcan, hfirst, Or.inl hqos⟩ (.deliver hwhy hqos hfits hwe)
      unfold SendOp.completeWithCb
      dsimp only
      rw [hw', hidx]
      exact ((Relation.ReflTransGen.single hmicro).trans
        (wakeFrom_run (hw w) (hmicro.reg hr))).trans (report_run _ _ _ _)
    · rw [if_neg hqos, if_pos rfl]
      exact .single (.transmit op hop hwhy hqos hfits
        (hu.restartTimer (List.mem_map.mpr ⟨op, hop, rfl⟩) rfl rfl))

/-- The loop is a run of resumptions. -/
theorem resumeLoop_run (fuel : Nat) (hr : Reg s) :
    MicroRun env (wakeGuard env idx) a b s (resumeLoop env fuel idx s) := by
  induction fuel generalizing idx s with
  | zero => exact .refl
  | succ fuel ih =>
    unfold resumeLoop
    cases hnext : nextPaused s.sendOps idx with
    | none => exact .refl
    | some next =>
      obtain ⟨hle, ⟨op, hget, hp⟩, hbetween⟩ := nextPaused_some hnext
      dsimp only
      rw [hget]
      dsimp only
      have hfirst := hr.firstFrom hget
      have hrun : MicroRun env (wakeGuard env next) a b s
          (SendOp.resume env (resumeLoop env fuel) op s).1 :=
        resume_run (fun u hu => ih hu) hr hget hfirst
      split
      · exact MicroRun.widen (hrun.trans (ih (hrun.reg hr))) hle hbetween
      · exact MicroRun.widen hrun hle hbetween

/-- So is `resumeSendOpsSince`. -/
theorem resumeSendOpsSince_run (hr : Reg s) :
    MicroRun env (wakeGuard env idx) a b s (s.resumeSendOpsSince env idx) :=
  resumeLoop_run _ hr

end Mqtt5
