import Mqtt5Client.Steps

/-!
# Mqtt5Client — the preparation lock

An operation in preparation holds `m_preparationLocked` until its `send` or `cancel`. A step keeps the
operations in preparation, ends the preparation of one, or begins one (`LockStep`); the bookkeeping of the
operations other than publishes (`LockReg`) is kept by every step.
-/

namespace Mqtt5

open Client

variable {env : Env} {G : Guard} {a : Bool} {b : Scope} {s t u : Client} {op : SendOp}

/-! ## The invariants -/

/-- The operations in preparation. -/
def Client.unsentRefs (s : Client) : List OpRef :=
  (s.lockKeys.filter (fun k => k.2 != .done)).map Prod.fst ++
    (s.sendOps.filter (fun op => !op.sent)).map (fun op => ⟨.send, op.id⟩)

/-- An operation in preparation is a publish that was not sent or another operation that is not done. -/
theorem mem_unsentRefs {r : OpRef} : r ∈ s.unsentRefs ↔
    (∃ p, p ≠ .done ∧ (r, p) ∈ s.lockKeys) ∨
      ∃ op ∈ s.sendOps, op.sent = false ∧ r = ⟨.send, op.id⟩ := by
  unfold Client.unsentRefs
  rw [List.mem_append]
  refine or_congr ?_ ?_
  · constructor
    · intro h
      obtain ⟨k, hk, rfl⟩ := List.mem_map.mp h
      obtain ⟨hk, hs⟩ := List.mem_filter.mp hk
      exact ⟨k.2, by simpa using hs, hk⟩
    · rintro ⟨p, hp, h⟩
      exact List.mem_map.mpr ⟨(r, p), List.mem_filter.mpr ⟨h, by simpa using hp⟩, rfl⟩
  · constructor
    · intro h
      obtain ⟨op, hop, rfl⟩ := List.mem_map.mp h
      obtain ⟨hop, hs⟩ := List.mem_filter.mp hop
      exact ⟨op, hop, by simpa using hs, rfl⟩
    · rintro ⟨op, hop, hs, rfl⟩
      exact List.mem_map.mpr ⟨op, List.mem_filter.mpr ⟨hop, by simp [hs]⟩, rfl⟩

/-- The operations that can be in preparation and were not destroyed. -/
def Client.liveRefs (s : Client) : List OpRef :=
  s.lockKeys.map Prod.fst ++ s.sendOps.map (fun op => ⟨.send, op.id⟩)

/-- The operations of the other types are told apart by their pointers, which are in `m_ops`, and there
is at most one connect operation. -/
structure LockReg (s : Client) : Prop where
  distinct : s.LockDistinct
  registered : ∀ k ∈ s.lockKeys, some k.1 ∈ s.ops
  lt : ∀ k ∈ s.lockKeys, k.1.id < s.nextOpId
  connect : s.connectOps.length ≤ 1
  sane : ∀ k ∈ s.lockKeys, k.2 ≠ .odd

/-! ## Steps -/

/-- No operation was added, and a registered one that is left stays registered. -/
structure RefsLe (s t : Client) : Prop where
  sub : (t.lockKeys.map Prod.fst).Sublist (s.lockKeys.map Prod.fst)
  ops : s.LockDistinct → ∀ k ∈ t.lockKeys, some k.1 ∈ s.ops → some k.1 ∈ t.ops
  nextOpId : s.nextOpId ≤ t.nextOpId
  sane : (∀ k ∈ s.lockKeys, k.2 ≠ .odd) → ∀ k ∈ t.lockKeys, k.2 ≠ .odd

/-- Nothing new in one step and in the next. -/
theorem RefsLe.trans (h : RefsLe s t) (h' : RefsLe t u) : RefsLe s u where
  sub := h'.sub.trans h.sub
  ops := fun hd k hk hs => by
    have hkt := h'.sub.subset (List.mem_map.mpr ⟨k, hk, rfl⟩)
    obtain ⟨k', hk', hkk⟩ := List.mem_map.mp hkt
    exact h'.ops (h.sub.nodup hd) k hk (hkk ▸ h.ops hd k' hk' (hkk.symm ▸ hs))
  nextOpId := Nat.le_trans h.nextOpId h'.nextOpId
  sane := fun hs => h'.sane (h.sane hs)

/-- The operations other than publishes. -/
theorem Client.LockLe.refsLe (h : LockLe s t) (hn : s.nextOpId ≤ t.nextOpId) : RefsLe s t :=
  ⟨h.keys.map Prod.fst, h.refs, hn, fun hs k hk => hs k (h.keys.subset hk)⟩

/-- The preparation of an operation has ended. -/
structure Released (ref : OpRef) (s t : Client) : Prop where
  mem : ref ∈ s.unsentRefs
  refs : RefsLe s t
  lock : t.preparationLocked = false
  unsent : ∀ r ∈ t.unsentRefs, r ∈ s.unsentRefs ∧ r ≠ ref
  sound : s.preparationLocked = true → s.LockSound → t.LockSound

/-- A step and the preparation lock; `drops` says which publish the step may cancel. -/
inductive LockStep (drops : SendOp → Prop) (s t : Client) : Prop
  /-- The operations in preparation stay or go. -/
  | keep (hrefs : RefsLe s t) (hlock : t.preparationLocked = s.preparationLocked)
      (hunsent : ∀ r ∈ t.unsentRefs, r ∈ s.unsentRefs)
      (hlive : s.LockDistinct → ∀ r ∈ s.unsentRefs, r ∈ t.liveRefs → r ∈ t.unsentRefs)
      (hsound : s.LockSound → t.LockSound)
  /-- The preparation of an operation ends. -/
  | release (ref : OpRef) (h : Released ref s t)
  /-- A publish that was sent without a callback is cancelled. -/
  | drop (op : SendOp) (hop : op ∈ s.sendOps) (hsent : op.sent = true) (hcb : op.cb = false)
      (hdrops : drops op) (hrefs : RefsLe s t)
  /-- An operation is prepared. -/
  | prepare (ref : OpRef) (hfree : s.preparationLocked = false)
      (hlock : t.preparationLocked = true) (hid : ref.id = s.nextOpId)
      (hlt : s.nextOpId < t.nextOpId)
      (hrefs : (t.lockKeys.map Prod.fst).Sublist (s.lockKeys.map Prod.fst) ∨
        (t.lockKeys.map Prod.fst).Perm (ref :: s.lockKeys.map Prod.fst))
      (hops : ∀ r, some r ∈ s.ops ∨ r = ref → some r ∈ t.ops)
      (hconnect : ref.type = .connect → s.connectOps = [])
      (hunsent : ∀ r ∈ t.unsentRefs, r ∈ s.unsentRefs ∨ r = ref) (hmem : ref ∈ t.unsentRefs)
      (hsane : (∀ k ∈ s.lockKeys, k.2 ≠ .odd) → ∀ k ∈ t.lockKeys, k.2 ≠ .odd)
      (hsound : s.LockSound → t.LockSound)

/-- The connect operations are counted by their pointers. -/
theorem length_connectOps (s : Client) :
    s.connectOps.length = (s.lockKeys.map Prod.fst).countP (·.type == .connect) := by
  have hzero : ∀ {α : Type} (l : List α) (type : OpType), type ≠ .connect →
      l.countP (fun _ => type == .connect) = 0 := fun l type ht =>
    List.countP_eq_zero.mpr fun x _ => by simp [ht]
  unfold lockKeys
  simp only [List.map_append, List.map_map, List.countP_append, List.countP_map, Function.comp_def]
  rw [hzero s.disconnectOps _ (by simp), hzero s.subscribeOps _ (by simp),
    hzero s.unsubscribeOps _ (by simp), hzero s.reauthOps _ (by simp)]
  exact (List.countP_eq_length.mpr fun _ _ => rfl).symm

/-- The bookkeeping is kept when nothing is added. -/
theorem RefsLe.lockReg (h : RefsLe s t) (hr : LockReg s) : LockReg t where
  distinct := h.sub.nodup hr.distinct
  registered := fun k hk => by
    obtain ⟨k', hk', hkk⟩ := List.mem_map.mp (h.sub.subset (List.mem_map.mpr ⟨k, hk, rfl⟩))
    exact h.ops hr.distinct k hk (hkk ▸ hr.registered k' hk')
  lt := fun k hk => by
    obtain ⟨k', hk', hkk⟩ := List.mem_map.mp (h.sub.subset (List.mem_map.mpr ⟨k, hk, rfl⟩))
    exact Nat.lt_of_lt_of_le (hkk ▸ hr.lt k' hk') h.nextOpId
  connect := by
    rw [length_connectOps]
    exact Nat.le_trans h.sub.countP_le (length_connectOps s ▸ hr.connect)
  sane := h.sane hr.sane

variable {drops : SendOp → Prop}

/-- And by a step that begins a preparation. -/
theorem LockStep.lockReg (h : LockStep drops s t) (hr : LockReg s) : LockReg t := by
  cases h with
  | keep hrefs hlock hunsent hlive hsound => exact hrefs.lockReg hr
  | release ref h => exact h.refs.lockReg hr
  | drop op hop hsent hcb hdrops hrefs => exact hrefs.lockReg hr
  | prepare ref hfree hlock hid hlt hrefs hops hconnect hunsent hmem hsane hsound =>
    have hle : ∀ k ∈ s.lockKeys, some k.1 ∈ t.ops := fun k hk =>
      hops _ (Or.inl (hr.registered k hk))
    rcases hrefs with hsub | hperm
    · exact RefsLe.lockReg ⟨hsub, fun _ k _ hk => hops _ (Or.inl hk), Nat.le_of_lt hlt, hsane⟩ hr
    · have hmem : ∀ k ∈ t.lockKeys, k.1 = ref ∨ ∃ k' ∈ s.lockKeys, k'.1 = k.1 := by
        intro k hk
        rcases List.mem_cons.mp (hperm.subset (List.mem_map.mpr ⟨k, hk, rfl⟩)) with h | h
        · exact Or.inl h
        · exact Or.inr (List.mem_map.mp h)
      refine ⟨hperm.nodup_iff.mpr (List.nodup_cons.mpr ⟨fun h => ?_, hr.distinct⟩), ?_, ?_, ?_,
        hsane hr.sane⟩
      · obtain ⟨k, hk, hkr⟩ := List.mem_map.mp h
        have := hr.lt k hk
        rw [hkr, hid] at this
        exact Nat.lt_irrefl _ this
      · intro k hk
        rcases hmem k hk with h | ⟨k', hk', h⟩
        · exact hops _ (Or.inr h)
        · exact h ▸ hle k' hk'
      · intro k hk
        rcases hmem k hk with h | ⟨k', hk', h⟩
        · rw [h, hid]
          exact hlt
        · exact Nat.lt_trans (h ▸ hr.lt k' hk') hlt
      · rw [length_connectOps, hperm.countP_eq, List.countP_cons, ← length_connectOps]
        split
        · rename_i htype
          rw [hconnect (by simpa using htype)]
          simp
        · exact hr.connect

/-! ## Runs that keep the lock -/

/-- An elementary step of a publish leaves the other operations. -/
theorem Micro.lockLe (h : Micro env G true b s t) : LockLe s t := by
  cases h with
  | frame h => exact h.lockLe rfl
  | leave op hop hG h => cases h <;> rename_i h <;> exact h.lockLe rfl
  | start op cb pid hop hsent hG hl h => exact hl
  | _ => rename_i h; exact h.lockLe rfl

theorem Micro.nextOpId (h : Micro env G a b s t) : s.nextOpId ≤ t.nextOpId := by
  cases h with
  | frame h => exact h.nextOpId
  | leave op hop hG h => cases h <;> rename_i h <;> exact h.nextOpId
  | _ => rename_i h; exact h.nextOpId

/-- Publishes stay sent, and none is added. -/
theorem Change.sent {x : SendOp} (h : Change env G s op x) (hop : op.sent = true) :
    x.sent = true := by
  cases h with
  | config x c hG hsent hsame => exact hsame.sent.trans hop
  | start cb pid hG hsent => rfl
  | _ => exact hop

/-- Only a `send` call marks a publish. -/
theorem Change.sent_eq {x : SendOp} (h : Change env G s op x) (hG : ¬G.start s op) :
    x.sent = op.sent := by
  cases h with
  | config x c hG hsent hsame => exact hsame.sent
  | start cb pid hstart hsent => exact absurd hstart hG
  | _ => rfl

/-- A publish after a step was there before it. -/
theorem Micro.mem_sendOps (h : Micro env G a b s t) (hG : ∀ s, ¬G.create s) :
    ∀ o ∈ t.sendOps, ∃ o' ∈ s.sendOps, o'.id = o.id ∧ (o'.sent = true → o.sent = true) := by
  intro o ho
  cases h.queue with
  | same h => exact ⟨o, h ▸ ho, rfl, fun h => h⟩
  | change op x hop hc h =>
    rw [h] at ho
    rcases (Keyed.mem_set (List.mem_map.mpr ⟨op, hop, hc.id.symm⟩)).mp ho with rfl | ⟨ho, -⟩
    · exact ⟨op, hop, hc.id.symm, hc.sent⟩
    · exact ⟨o, ho, rfl, fun h => h⟩
  | leave op hop hG h =>
    rw [h] at ho
    exact ⟨o, Keyed.mem_of_mem_erase ho, rfl, fun h => h⟩
  | create timer hc h => exact absurd hc (hG s)

/-- Without a creation every publish was there before, and one that was sent stays so. -/
theorem MicroRun.mem_sendOps (h : MicroRun env G a b s t) (hG : ∀ s, ¬G.create s) :
    ∀ o ∈ t.sendOps, ∃ o' ∈ s.sendOps, o'.id = o.id ∧ (o'.sent = true → o.sent = true) := by
  induction h with
  | refl => exact fun o ho => ⟨o, ho, rfl, fun h => h⟩
  | tail _ h ih =>
    intro o ho
    obtain ⟨o', ho', hid, hsent⟩ := h.mem_sendOps hG o ho
    obtain ⟨o'', ho'', hid', hsent'⟩ := ih o' ho'
    exact ⟨o'', ho'', hid'.trans hid, fun h => hsent (hsent' h)⟩

/-- A run of elementary steps leaves the other operations. -/
theorem MicroRun.lockLe (h : MicroRun env G true b s t) : LockLe s t := by
  induction h with
  | refl => exact .refl _
  | tail _ h ih => exact ih.trans h.lockLe

theorem MicroRun.nextOpId (h : MicroRun env G a b s t) : s.nextOpId ≤ t.nextOpId := by
  induction h with
  | refl => exact Nat.le_refl _
  | tail _ h ih => exact Nat.le_trans ih h.nextOpId

/-- Without a `send` call no publish is marked. -/
theorem MicroRun.sent_eq (h : MicroRun env G a b s t) (hG : ∀ s, ¬G.create s)
    (hstart : ∀ s op, ¬G.start s op) :
    ∀ o ∈ t.sendOps, ∃ o' ∈ s.sendOps, o'.id = o.id ∧ o.sent = o'.sent := by
  induction h with
  | refl => exact fun o ho => ⟨o, ho, rfl, rfl⟩
  | tail _ h ih =>
    intro o ho
    cases h.queue with
    | same h => exact ih o (h ▸ ho)
    | change op x hop hc h =>
      rw [h] at ho
      rcases (Keyed.mem_set (List.mem_map.mpr ⟨op, hop, hc.id.symm⟩)).mp ho with rfl | ⟨ho, -⟩
      · obtain ⟨o', ho', hid, hs⟩ := ih op hop
        exact ⟨o', ho', hid.trans hc.id.symm, (hc.sent_eq (hstart _ _)).trans hs⟩
      · exact ih o ho
    | leave op hop hG h =>
      rw [h] at ho
      exact ih o (Keyed.mem_of_mem_erase ho)
    | create timer hc h => exact absurd hc (hG _)

/-- An operation can be used as long as it is in its list. -/
theorem mem_liveRefs {r : OpRef} : r ∈ s.liveRefs ↔
    (∃ p, (r, p) ∈ s.lockKeys) ∨ ∃ op ∈ s.sendOps, r = ⟨.send, op.id⟩ := by
  unfold Client.liveRefs
  rw [List.mem_append]
  refine or_congr ?_ ?_
  · constructor
    · intro h
      obtain ⟨k, hk, rfl⟩ := List.mem_map.mp h
      exact ⟨k.2, hk⟩
    · rintro ⟨p, h⟩
      exact List.mem_map.mpr ⟨(r, p), h, rfl⟩
  · constructor
    · intro h
      obtain ⟨op, hop, rfl⟩ := List.mem_map.mp h
      exact ⟨op, hop, rfl⟩
    · rintro ⟨op, hop, rfl⟩
      exact List.mem_map.mpr ⟨op, hop, rfl⟩

/-- What was in preparation and is not destroyed is still in preparation. -/
theorem MicroRun.live (h : MicroRun env G true b s t) (hr : Reg s) (hd : s.LockDistinct)
    (hG : ∀ s, ¬G.create s) (hstart : ∀ s op, ¬G.start s op) :
    ∀ r ∈ s.unsentRefs, r ∈ t.liveRefs → r ∈ t.unsentRefs := by
  intro r hr' hlive
  rcases mem_unsentRefs.mp hr' with ⟨p, hp, hk⟩ | ⟨op, hop, hsent, rfl⟩
  · rcases mem_liveRefs.mp hlive with ⟨q, hq⟩ | ⟨o, ho, rfl⟩
    · have heq : (r, q) = (r, p) :=
        List.inj_on_of_nodup_map hd ((MicroRun.lockLe h).keys.subset hq) hk rfl
      rw [Prod.mk.injEq] at heq
      exact mem_unsentRefs.mpr (Or.inl ⟨p, hp, heq.2 ▸ hq⟩)
    · exact absurd rfl (lockKeys_type hk).2.2
  · rcases mem_liveRefs.mp hlive with ⟨q, hq⟩ | ⟨o, ho, heq⟩
    · exact absurd rfl (lockKeys_type hq).2.2
    · rw [OpRef.mk.injEq] at heq
      obtain ⟨o', ho', hid, hs⟩ := MicroRun.sent_eq h hG hstart o ho
      have hoo : o' = op := hr.distinct.eq ho' hop (hid.trans heq.2.symm)
      exact mem_unsentRefs.mpr (Or.inr ⟨o, ho, by rw [hs, hoo, hsent], by rw [heq.2]⟩)

/-- What is in preparation after a run that keeps the lock was so before. -/
theorem MicroRun.unsentRefs (h : MicroRun env G true b s t) (hG : ∀ s, ¬G.create s) :
    ∀ r ∈ t.unsentRefs, r ∈ s.unsentRefs := by
  intro r hr
  rcases mem_unsentRefs.mp hr with ⟨p, hp, hk⟩ | ⟨o, ho, hsent, rfl⟩
  · exact mem_unsentRefs.mpr (Or.inl ⟨p, hp, (MicroRun.lockLe h).keys.subset hk⟩)
  · obtain ⟨o', ho', hid, hs⟩ := MicroRun.mem_sendOps h hG o ho
    refine mem_unsentRefs.mpr (Or.inr ⟨o', ho', ?_, by rw [hid]⟩)
    cases h' : o'.sent with
    | false => rfl
    | true => rw [hs h'] at hsent; cases hsent

/-- A run with resumptions adds nothing. -/
theorem MacroRun.refsLe (h : MacroRun env G true b s t) (hr : Reg s) : RefsLe s t :=
  (MicroRun.lockLe (h.run hr)).refsLe (MicroRun.nextOpId (h.run hr))

end Mqtt5
