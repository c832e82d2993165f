import Mqtt5Client.Invariants
import Mqtt5Client.Lib.Holders

/-!
# Mqtt5Client — packet identifiers

`m_allocatedPacketIds` against the operations: a subscribe or unsubscribe operation holds a packet
identifier from its `send` call on, a publish of a higher QoS too, and the destructor gives it back.
`IdsOk` is kept by every elementary update but those of the three `send` calls, which are looked at as a
whole: they mark the operation, and they destroy it again or take an identifier for it.
-/

namespace Mqtt5

open Client

variable {env : Env} {a : Bool} {b : Scope} {s t u : Client} {sys sys' : Sys} {l : Label}
  {pending : Option OpRef} {act : Act}

/-! ## The holders -/

/-- The field `packetId` of a message, unset when it is zero. -/
def heldId (packetId : Nat) : Option Nat := if packetId = 0 then none else some packetId

theorem heldId_ne_zero {packetId : Nat} (h : heldId packetId = some 0) : False := by
  unfold heldId at h
  split at h
  · cases h
  · rename_i hne
    exact hne (Option.some.inj h)

def SubscribeOp.holder (op : SubscribeOp) : Holder OpRef Nat :=
  ⟨⟨.subscribe, op.id⟩, op.sent, heldId op.subMsg.packetId⟩

def UnsubscribeOp.holder (op : UnsubscribeOp) : Holder OpRef Nat :=
  ⟨⟨.unsubscribe, op.id⟩, op.sent, heldId op.unsubMsg.packetId⟩

/-- A publish of QoS 0 needs no packet identifier. -/
def SendOp.holder (op : SendOp) : Holder OpRef Nat :=
  ⟨⟨.send, op.id⟩, op.sent && op.qos != .atMostOnceDelivery, heldId op.packetId⟩

/-- The operations that can hold a packet identifier. -/
def Client.holders (s : Client) : List (Holder OpRef Nat) :=
  s.subscribeOps.map SubscribeOp.holder ++ s.unsubscribeOps.map UnsubscribeOp.holder ++
    s.sendOps.map SendOp.holder

/-- `m_allocatedPacketIds`. -/
def Client.packetIds (s : Client) : List Nat := s.clientState.allocatedPacketIds

/-- The packet identifiers in use are those of the operations, but for `pending`, which is about to take
one. -/
structure IdsOk (pending : Option OpRef) (s : Client) : Prop where
  owned : Holder.Owned pending s.holders s.packetIds
  lt : ∀ h ∈ s.holders, h.owner.id < s.nextOpId
  sound : .assertFailed .releasePacketId ∉ s.faults

/-- An update of something else. -/
theorem IdsOk.same {fs : List Fault} (h : IdsOk pending s) (hh : t.holders = s.holders)
    (hp : t.packetIds = s.packetIds) (hn : s.nextOpId ≤ t.nextOpId) (hr : Raises fs s t)
    (hsite : .assertFailed .releasePacketId ∉ fs) : IdsOk pending t where
  owned := hh ▸ hp ▸ h.owned
  lt := fun x hx => Nat.lt_of_lt_of_le (h.lt x (hh ▸ hx)) hn
  sound := fun hf => by
    rcases hr _ hf with hf | hf | hf
    · exact h.sound hf
    · cases hf
    · exact hsite hf

/-- The holders do not change their order. -/
theorem IdsOk.perm (h : IdsOk pending s) (hh : s.holders.Perm t.holders)
    (hp : t.packetIds = s.packetIds) (hn : s.nextOpId = t.nextOpId) (hf : t.faults = s.faults) :
    IdsOk pending t where
  owned := hp ▸ h.owned.perm hh
  lt := fun x hx => hn ▸ h.lt x (hh.mem_iff.mpr hx)
  sound := hf ▸ h.sound

/-- A new operation. -/
theorem IdsOk.create (type : OpType) (h : IdsOk pending s)
    (hh : t.holders.Perm (⟨⟨type, s.nextOpId⟩, false, none⟩ :: s.holders))
    (hp : t.packetIds = s.packetIds) (hn : t.nextOpId = s.nextOpId + 1) (hr : Raises [] s t) :
    IdsOk pending t where
  owned := by
    refine hp ▸ (h.owned.create fun hmem => ?_).perm hh.symm
    obtain ⟨x, hx, hxo⟩ := List.mem_map.mp hmem
    have hlt := h.lt x hx
    rw [hxo] at hlt
    exact Nat.lt_irrefl _ hlt
  lt := fun x hx => by
    rw [hn]
    rcases List.mem_cons.mp (hh.mem_iff.mp hx) with rfl | hx
    · exact Nat.lt_succ_self _
    · exact Nat.lt_succ_of_lt (h.lt x hx)
  sound := fun hf => by
    rcases hr _ hf with hf | hf | hf
    · exact h.sound hf
    · cases hf
    · cases hf

/-- An operation is destroyed: `releasePacketId` finds what it held. -/
theorem IdsOk.destroy {x : Holder OpRef Nat} (packetId : Nat) (h : IdsOk pending s)
    (hh : s.holders.Perm (x :: u.holders)) (hid : x.id = heldId packetId)
    (hp : u.packetIds = s.packetIds) (hn : s.nextOpId = u.nextOpId) (hf : u.faults = s.faults) :
    IdsOk pending (u.releasePacketId packetId) := by
  have howned : Holder.Owned pending (x :: u.holders) u.packetIds := hp ▸ h.owned.perm hh
  have hlt : ∀ y ∈ u.holders, y.owner.id < u.nextOpId := fun y hy =>
    hn ▸ h.lt y (hh.mem_iff.mpr (List.mem_cons_of_mem _ hy))
  have herased := howned.erase
  unfold Holder.release at herased
  unfold Client.releasePacketId
  split
  · rename_i hzero
    rw [hid, heldId, if_pos hzero] at herased
    exact ⟨herased, hlt, hf ▸ h.sound⟩
  · rename_i hzero
    rw [heldId, if_neg hzero] at hid
    rw [hid] at herased
    have hmem : packetId ∈ u.clientState.allocatedPacketIds := howned.mem hid
    rw [if_pos hmem]
    exact ⟨herased, hlt, hf ▸ h.sound⟩

/-! ## Updates -/

/-- The operations of a list are told apart by their identities. -/
theorem distinct_of_holders {α : Type} {key : α → OpId} (hold : α → Holder OpRef Nat)
    {type : OpType} {l : List α} (hd : (s.holders.map Holder.owner).Nodup)
    (hsub : (l.map hold).Sublist s.holders) (hown : ∀ op, (hold op).owner = ⟨type, key op⟩) :
    Keyed.Distinct key l := by
  have h := (hsub.map Holder.owner).nodup hd
  rw [List.map_map] at h
  have heq : (Holder.owner ∘ hold) = (fun id => (⟨type, id⟩ : OpRef)) ∘ key := funext hown
  rw [heq, ← List.map_map] at h
  exact h.of_map _

theorem IdsOk.subscribe_distinct (h : IdsOk pending s) :
    Keyed.Distinct SubscribeOp.id s.subscribeOps := by
  refine distinct_of_holders SubscribeOp.holder h.owned.distinct ?_ fun _ => rfl
  exact (List.sublist_append_left _ _).trans (List.sublist_append_left _ _)

theorem IdsOk.unsubscribe_distinct (h : IdsOk pending s) :
    Keyed.Distinct UnsubscribeOp.id s.unsubscribeOps := by
  refine distinct_of_holders UnsubscribeOp.holder h.owned.distinct ?_ fun _ => rfl
  exact (List.sublist_append_right _ _).trans (List.sublist_append_left _ _)

theorem IdsOk.send_distinct (h : IdsOk pending s) : Keyed.Distinct SendOp.id s.sendOps := by
  refine distinct_of_holders SendOp.holder h.owned.distinct ?_ fun _ => rfl
  exact List.sublist_append_right _ _

/-- An update of a publish that keeps what it holds. -/
theorem holder_of_keeps {op x : SendOp} (h : op.Keeps x) : x.holder = op.holder := by
  have hneeds : (x.sent && x.qos != .atMostOnceDelivery) =
      (op.sent && op.qos != .atMostOnceDelivery) := by
    rw [h.sent]
    cases hsent : op.sent with
    | true => rw [h.qos hsent]
    | false => rfl
  unfold SendOp.holder
  rw [hneeds, h.id, h.packetId]

/-- The completion of an operation that is not a publish. -/
theorem IdsOk.completeRef (h : IdsOk pending s) (ref : OpRef) : IdsOk pending (s.completeRef ref) := by
  have hraise : ∀ (v : Client) (site : Site), IdsOk pending v → site ≠ .releasePacketId →
      IdsOk pending (v.fault (.assertFailed site)) := fun v site hv hne =>
    hv.same rfl rfl (Nat.le_refl _) (.fault (Or.inr (List.mem_singleton.mpr rfl)))
      fun hmem => hne (Fault.assertFailed.inj (List.mem_singleton.mp hmem)).symm
  -- a pointer that is not there only fails an assertion
  have hwith : ∀ {ref : OpRef} {erase : Client → Client},
      (∀ v, IdsOk pending v → IdsOk pending (erase v)) → IdsOk pending (opCompleteWith ref erase s) := by
    intro ref erase herase
    unfold opCompleteWith
    split
    · exact hraise s _ h (by simp)
    · rename_i v hv
      obtain rfl := unregisterOp_eq hv
      exact herase _ (h.same rfl rfl (Nat.le_refl _) (.of_eq rfl) List.not_mem_nil)
  have hlist : ∀ {v w : Client}, IdsOk pending v → w.holders = v.holders → w.packetIds = v.packetIds →
      w.nextOpId = v.nextOpId → w.faults = v.faults → IdsOk pending w := fun hv hh hp hn hf =>
    hv.same hh hp (Nat.le_of_eq hn.symm) (.of_eq hf) List.not_mem_nil
  unfold Client.completeRef
  split
  case h_7 => exact h
  all_goals refine hwith fun v hv => ?_
  · unfold eraseConnectOp
    split
    · exact hraise v _ hv (by simp)
    · exact hlist hv rfl rfl rfl rfl
  · unfold eraseKeepAliveOp
    split
    · exact hraise v _ hv (by simp)
    · exact hlist hv rfl rfl rfl rfl
  · unfold eraseDisconnectOp
    split
    · exact hraise v _ hv (by simp)
    · exact hlist hv rfl rfl rfl rfl
  · unfold eraseSubscribeOp
    split
    · exact hraise v _ hv (by simp)
    · rename_i op hop
      have hd := hv.destroy (x := op.holder) _
        (u := { v with subscribeOps := v.subscribeOps.eraseP (·.id == ref.id) })
        ((((perm_eraseP hop).map SubscribeOp.holder).append_right _).append_right _) rfl rfl rfl rfl
      exact hlist hd rfl rfl rfl rfl
  · unfold eraseUnsubscribeOp
    split
    · exact hraise v _ hv (by simp)
    · rename_i op hop
      have hd := hv.destroy (x := op.holder) _
        (u := { v with unsubscribeOps := v.unsubscribeOps.eraseP (·.id == ref.id) })
        (((((perm_eraseP hop).map UnsubscribeOp.holder).append_left _).trans
          List.perm_middle).append_right _) rfl rfl rfl rfl
      exact hlist hd rfl rfl rfl rfl
  · unfold eraseRecvOp
    split
    · exact hraise v _ hv (by simp)
    · exact hlist hv rfl rfl rfl rfl
  · unfold eraseReauthOp
    split
    · exact hraise v _ hv (by simp)
    · exact hlist hv rfl rfl rfl rfl

/-- The updates that `send` calls are made of. -/
def Act.isSending : Act → Bool
  | .mark .subscribe | .mark .unsubscribe | .mark .send | .take _ => true
  | _ => false

theorem Prim.idsOk (hprim : Prim act s t) (ha : act.isSending = false) (h : IdsOk pending s) :
    IdsOk pending t := by
  have hraises := hprim.raises
  -- most updates touch neither the holders nor the table
  cases hplain : act.plain with
  | true =>
    have hs := hprim.sameOps hplain
    refine h.same ?_ hs.allocated (Nat.le_of_eq hs.nextOpId.symm) hraises ?_
    · unfold Client.holders
      rw [hs.subscribeOps, hs.unsubscribeOps, hs.sendOps]
    · cases act <;> simp [Act.raises, Act.plain] at hplain ⊢
  | false =>
    have hsame : t.holders = s.holders → t.packetIds = s.packetIds → s.nextOpId ≤ t.nextOpId →
        .assertFailed .releasePacketId ∉ act.raises → IdsOk pending t := fun hh hp hn hsite =>
      h.same hh hp hn hraises hsite
    cases hprim with
    | clean =>
      have hc : s.cleanOps.holders = s.holders ∧ s.cleanOps.packetIds = s.packetIds ∧
          s.cleanOps.nextOpId = s.nextOpId := by
        unfold Client.cleanOps
        split <;> exact ⟨rfl, rfl, rfl⟩
      exact hsame hc.1 hc.2.1 (Nat.le_of_eq hc.2.2.symm) (by simp [Act.raises])
    | createSubscribe env =>
      refine h.create .subscribe ?_ rfl rfl hraises
      exact (((List.perm_append_singleton _ _).map SubscribeOp.holder).append_right _).append_right _
    | createUnsubscribe env =>
      refine h.create .unsubscribe ?_ rfl rfl hraises
      exact ((((List.perm_append_singleton _ _).map UnsubscribeOp.holder).append_left _).trans
        List.perm_middle).append_right _
    | createSend env =>
      have ha := SameOps.assert (s.timerAlloc env).1 .timer (s.timerAlloc env).2.isSome
      have hn : ((s.timerAlloc env).1.assert .timer (s.timerAlloc env).2.isSome).nextOpId =
        s.nextOpId := ha.nextOpId
      refine h.create .send ?_ ha.allocated (congrArg (· + 1) hn) hraises
      unfold Client.holders createSendOp registerOp
      dsimp only
      rw [ha.subscribeOps, ha.unsubscribeOps, ha.sendOps, hn]
      exact (((List.perm_append_singleton _ _).map SendOp.holder).append_left _).trans
        List.perm_middle
    | createRecv env =>
      have ha := SameOps.assert (s.timerAlloc env).1 .timer (s.timerAlloc env).2.isSome
      refine hsame ?_ ha.allocated ?_ (by simp [Act.raises])
      · unfold Client.holders registerRecvOp registerOp
        dsimp only
        rw [ha.subscribeOps, ha.unsubscribeOps, ha.sendOps]
        rfl
      · exact Nat.le_succ_of_le (Nat.le_of_eq ha.nextOpId.symm)
    | createKeepAlive env hk =>
      rcases createKeepAliveOpIfNeeded_cases env hk with heq | ⟨c, m, op, -, heq⟩
      · rw [heq] at hsame ⊢
        exact hsame rfl rfl (Nat.le_refl _) (by simp [Act.raises])
      · have ha := SameOps.assert s .timer c
        rw [heq] at hsame ⊢
        refine hsame ?_ ha.allocated (Nat.le_succ _) (by simp [Act.raises])
        unfold Client.holders
        dsimp only
        rw [ha.subscribeOps, ha.unsubscribeOps, ha.sendOps]
    | createConnect env h he => exact hsame rfl rfl (Nat.le_succ _) (by simp [Act.raises])
    | createDisconnect => exact hsame rfl rfl (Nat.le_succ _) (by simp [Act.raises])
    | createReauth env => exact hsame rfl rfl (Nat.le_succ _) (by simp [Act.raises])
    | setSubscribe op x hop hx hsent =>
      refine hsame ?_ rfl (Nat.le_refl _) (by simp [Act.raises])
      have hholder : x.holder = op.holder := by
        unfold SubscribeOp.holder
        rw [hx.id, hsent, hx.packetId]
      have hfind := h.subscribe_distinct.find hop
      rw [← hx.id] at hfind
      exact congrArg (· ++ _ ++ _) (map_modifyFirst (g := SubscribeOp.holder) hfind hholder)
    | setUnsubscribe op x hop hx hsent =>
      refine hsame ?_ rfl (Nat.le_refl _) (by simp [Act.raises])
      have hholder : x.holder = op.holder := by
        unfold UnsubscribeOp.holder
        rw [hx.id, hsent, hx.packetId]
      have hfind := h.unsubscribe_distinct.find hop
      rw [← hx.id] at hfind
      exact congrArg (_ ++ · ++ _) (map_modifyFirst (g := UnsubscribeOp.holder) hfind hholder)
    | setSend id f hf =>
      refine hsame ?_ rfl (Nat.le_refl _) (by simp [Act.raises])
      refine congrArg (s.subscribeOps.map SubscribeOp.holder ++
        s.unsubscribeOps.map UnsubscribeOp.holder ++ ·) ?_
      unfold modifySendOp
      rw [List.map_map]
      refine List.map_congr_left fun op hop => ?_
      show (if op.id == id then f op else op).holder = op.holder
      split
      · rename_i hid
        exact holder_of_keeps (hf op hop (beq_iff_eq.mp hid))
      · rfl
    | publish op hop hpub =>
      refine hsame ?_ rfl (Nat.le_refl _) (by simp [Act.raises])
      refine congrArg (s.subscribeOps.map SubscribeOp.holder ++
        s.unsubscribeOps.map UnsubscribeOp.holder ++ ·) ?_
      show List.map SendOp.holder (s.sendOps.map _) = _
      rw [List.map_map]
      refine List.map_congr_left fun x hx => ?_
      show (if x.id == op.id then { x with published := true, sendAttempts := 1 } else x).holder = x.holder
      split <;> rfl
    | complete ref => exact h.completeRef ref
    | completeSend op hop href =>
      have hfind := h.send_distinct.find hop
      have hd := h.destroy (x := op.holder) op.packetId
        (u := { s.releaseSendOp op with
                sendOps := s.sendOps.eraseP (·.id == op.id) }.emit (.sendOpErased op.id))
        ((((perm_eraseP hfind).map SendOp.holder).append_left _).trans List.perm_middle)
        rfl rfl rfl rfl
      exact hd.same rfl rfl (Nat.le_refl _) (.of_eq rfl) List.not_mem_nil
    | setConnect | setDisconnect | setReauth | setRecv | markConnect | markDisconnect | markReauth =>
      exact hsame rfl rfl (Nat.le_refl _) (by simp [Act.raises])
    | _ => first | (cases ha; done) | cases hplain

/-- What every update keeps, any number of them keeps. -/
theorem IdsOk.acts (h : IdsOk pending s) (hacts : Acts true b s t) : IdsOk pending t := by
  have hstep : ∀ {act : Act} {s t : Client}, Prim act s t → act.allowed true b = true →
      IdsOk pending s → IdsOk pending t := by
    intro act s t hprim ha h
    refine hprim.idsOk ?_ h
    cases act with
    | mark type => cases ha
    | take type => cases ha
    | _ => rfl
  exact hacts.invariant hstep h

theorem IdsOk.unlock (h : IdsOk pending s) : IdsOk pending s.allowNextPrepare :=
  Prim.unlock.idsOk rfl h

theorem IdsOk.cancelLock (h : IdsOk pending s) (cb : Bool) : IdsOk pending (s.cancelLock cb) := by
  unfold Client.cancelLock
  split
  · exact h
  · exact h.unlock

/-! ## `send` -/

/-- `allocPacketId` returns an identifier that is not in use. -/
def AllocOk (env : Env) (s : Client) : Prop :=
  (s.allocPacketId env).2 ≠ 0 ∧ (s.allocPacketId env).2 ∉ s.packetIds

/-- The identifier depends on the identifiers in use and on the last one. -/
theorem allocPacketId_congr (h : t.clientState = s.clientState) :
    (t.allocPacketId env).2 = (s.allocPacketId env).2 := by
  unfold allocPacketId
  rw [h]
  dsimp only
  split <;> rfl

theorem AllocOk.congr (halloc : AllocOk env s) (h : t.clientState = s.clientState) : AllocOk env t := by
  have hids : t.packetIds = s.packetIds := congrArg ClientState.allocatedPacketIds h
  unfold AllocOk
  rw [allocPacketId_congr h, hids]
  exact halloc

/-- It is inserted, and nothing else is allocated. -/
theorem AllocOk.packetIds (halloc : AllocOk env s) :
    (s.allocPacketId env).1.packetIds.Perm ((s.allocPacketId env).2 :: s.packetIds) ∧
      (s.allocPacketId env).1.nextOpId = s.nextOpId ∧
      (s.allocPacketId env).1.faults = s.faults := by
  have hnz := halloc.1
  unfold allocPacketId at hnz ⊢
  dsimp only at hnz ⊢
  split at hnz
  · exact absurd rfl hnz
  · rename_i hfull
    rw [if_neg hfull]
    refine ⟨?_, rfl, rfl⟩
    show (insertSorted s.packetIds _).Perm _
    unfold insertSorted
    refine List.perm_middle.trans (.cons _ ?_)
    rw [List.takeWhile_append_dropWhile]

variable {ref : OpRef} {rest : List (Holder OpRef Nat)}

/-- An operation that was not sent holds no packet identifier; `send` marks it. -/
theorem IdsOk.mark {x : Holder OpRef Nat} (needs : Bool) (h : IdsOk none s) (hx : x.needs = false)
    (hs : s.holders.Perm (x :: rest)) (ht : t.holders.Perm (⟨x.owner, needs, x.id⟩ :: rest))
    (hp : t.packetIds = s.packetIds) (hn : t.nextOpId = s.nextOpId) (hf : t.faults = s.faults) :
    x.id = none ∧ IdsOk (some x.owner) t := by
  have hid : x.id = none := h.owned.free x (hs.mem_iff.mpr List.mem_cons_self) hx
  have howned := h.owned.perm hs
  obtain ⟨owner, needs', id⟩ := x
  obtain rfl : id = none := hid
  obtain rfl : needs' = false := hx
  have hlt := h.lt _ (hs.mem_iff.mpr List.mem_cons_self)
  refine ⟨rfl, hp ▸ ((howned.mark needs).perm ht.symm), fun y hy => ?_, hf ▸ h.sound⟩
  rw [hn]
  rcases List.mem_cons.mp (ht.mem_iff.mp hy) with rfl | hy
  · exact hlt
  · exact h.lt y (hs.mem_iff.mpr (List.mem_cons_of_mem _ hy))

/-- The marked operation takes a packet identifier. -/
theorem IdsOk.take {needs : Bool} {packetId : Nat} (h : IdsOk (some ref) s)
    (hs : s.holders.Perm (⟨ref, needs, none⟩ :: rest)) (hnz : packetId ≠ 0)
    (ht : t.holders.Perm (⟨ref, true, heldId packetId⟩ :: rest)) (hnew : packetId ∉ s.packetIds)
    (hp : t.packetIds.Perm (packetId :: s.packetIds)) (hn : t.nextOpId = s.nextOpId)
    (hf : t.faults = s.faults) : IdsOk none t := by
  rw [heldId, if_neg hnz] at ht
  have hlt := h.lt _ (hs.mem_iff.mpr List.mem_cons_self)
  refine ⟨(((h.owned.perm hs).take hnew hp).perm ht.symm), fun y hy => ?_, hf ▸ h.sound⟩
  rw [hn]
  rcases List.mem_cons.mp (ht.mem_iff.mp hy) with rfl | hy
  · exact hlt
  · exact h.lt y (hs.mem_iff.mpr (List.mem_cons_of_mem _ hy))

/-- The marked operation is gone. -/
theorem IdsOk.gone (h : IdsOk (some ref) s) (hgone : ref ∉ s.holders.map Holder.owner) :
    IdsOk none s :=
  ⟨h.owned.gone hgone, h.lt, h.sound⟩

/-- The marked publish has QoS 0 and needs no packet identifier. -/
theorem IdsOk.keep (h : IdsOk (some ref) s) (hs : s.holders.Perm (⟨ref, false, none⟩ :: rest)) :
    IdsOk none s :=
  ⟨(h.owned.perm hs).keep.perm hs.symm, h.lt, h.sound⟩

theorem mem_holders_send {id : OpId} (h : ⟨.send, id⟩ ∈ s.holders.map Holder.owner) :
    ∃ op ∈ s.sendOps, op.id = id := by
  obtain ⟨x, hx, hown⟩ := List.mem_map.mp h
  rcases List.mem_append.mp hx with hx | hx
  · rcases List.mem_append.mp hx with hx | hx
    · obtain ⟨op, -, rfl⟩ := List.mem_map.mp hx
      cases hown
    · obtain ⟨op, -, rfl⟩ := List.mem_map.mp hx
      cases hown
  · obtain ⟨op, hop, rfl⟩ := List.mem_map.mp hx
    cases hown
    exact ⟨op, hop, rfl⟩

/-- The holders are read off three lists. -/
theorem holders_congr (hsub : t.subscribeOps = s.subscribeOps)
    (hunsub : t.unsubscribeOps = s.unsubscribeOps) (hsend : t.sendOps = s.sendOps) :
    t.holders = s.holders := by
  unfold Client.holders
  rw [hsub, hunsub, hsend]

theorem releasePacketId_holders (id : Nat) : (s.releasePacketId id).holders = s.holders := by
  unfold Client.releasePacketId
  split
  · rfl
  · split <;> rfl

/-- One holder in front of the others, before and after it is replaced. -/
theorem subscribe_holders {op : SubscribeOp} {id : OpId} (hop : s.subscribeOp? id = some op) :
    s.holders.Perm (op.holder ::
        { s with subscribeOps := s.subscribeOps.eraseP (·.id == id) }.holders) ∧
      ∀ x : SubscribeOp, x.id = id → (s.setSubscribeOp x).holders.Perm (x.holder ::
        { s with subscribeOps := s.subscribeOps.eraseP (·.id == id) }.holders) := by
  refine ⟨(((perm_eraseP hop).map SubscribeOp.holder).append_right _).append_right _,
    fun x hx => ?_⟩
  subst hx
  exact (((perm_modifyFirst hop).map SubscribeOp.holder).append_right _).append_right _

theorem unsubscribe_holders {op : UnsubscribeOp} {id : OpId} (hop : s.unsubscribeOp? id = some op) :
    s.holders.Perm (op.holder ::
        { s with unsubscribeOps := s.unsubscribeOps.eraseP (·.id == id) }.holders) ∧
      ∀ x : UnsubscribeOp, x.id = id → (s.setUnsubscribeOp x).holders.Perm (x.holder ::
        { s with unsubscribeOps := s.unsubscribeOps.eraseP (·.id == id) }.holders) := by
  refine ⟨((((perm_eraseP hop).map UnsubscribeOp.holder).append_left _).trans
    List.perm_middle).append_right _, fun x hx => ?_⟩
  subst hx
  exact ((((perm_modifyFirst hop).map UnsubscribeOp.holder).append_left _).trans
    List.perm_middle).append_right _

theorem send_holders {op : SendOp} (hd : Keyed.Distinct SendOp.id s.sendOps) (hop : op ∈ s.sendOps) :
    s.holders.Perm (op.holder ::
        { s with sendOps := s.sendOps.eraseP (·.id == op.id) }.holders) ∧
      ∀ f : SendOp → SendOp, (s.modifySendOp op.id f).holders.Perm ((f op).holder ::
        { s with sendOps := s.sendOps.eraseP (·.id == op.id) }.holders) := by
  refine ⟨(((perm_eraseP (hd.find hop)).map SendOp.holder).append_left _).trans List.perm_middle,
    fun f => ?_⟩
  have hset := List.Perm.of_eq (hd.map_eq_modifyFirst f op.id)
  exact (((hset.trans (perm_modifyFirst (hd.find hop))).map SendOp.holder).append_left _).trans
    List.perm_middle

/-- An operation that was taken out of its list holds nothing any more. -/
theorem IdsOk.not_owner {x : Holder OpRef Nat} (h : IdsOk pending s) (hs : s.holders.Perm (x :: rest))
    (ht : t.holders = rest) : x.owner ∉ t.holders.map Holder.owner := by
  have hd := (hs.map Holder.owner).nodup_iff.mp h.owned.distinct
  rw [ht]
  exact (List.nodup_cons.mp hd).1

theorem subscribe_gone {op : SubscribeOp} {id : OpId} (h : IdsOk pending s)
    (href : some ⟨.subscribe, id⟩ ∈ s.ops) (hop : s.subscribeOp? id = some op) :
    ⟨.subscribe, id⟩ ∉ (s.opCompleteSubscribe id).holders.map Holder.owner := by
  obtain ⟨-, rfl⟩ := Keyed.mem_of_find hop
  refine h.not_owner (subscribe_holders hop).1 ?_
  have hfind : s.subscribeOps.find? (·.id == op.id) = some op := hop
  unfold opCompleteSubscribe opCompleteWith unregisterOp
  rw [if_pos href]
  dsimp only
  unfold eraseSubscribeOp
  dsimp only
  rw [hfind]
  exact releasePacketId_holders _

theorem unsubscribe_gone {op : UnsubscribeOp} {id : OpId} (h : IdsOk pending s)
    (href : some ⟨.unsubscribe, id⟩ ∈ s.ops) (hop : s.unsubscribeOp? id = some op) :
    ⟨.unsubscribe, id⟩ ∉ (s.opCompleteUnsubscribe id).holders.map Holder.owner := by
  obtain ⟨-, rfl⟩ := Keyed.mem_of_find hop
  refine h.not_owner (unsubscribe_holders hop).1 ?_
  have hfind : s.unsubscribeOps.find? (·.id == op.id) = some op := hop
  unfold opCompleteUnsubscribe opCompleteWith unregisterOp
  rw [if_pos href]
  dsimp only
  unfold eraseUnsubscribeOp
  dsimp only
  rw [hfind]
  exact releasePacketId_holders _

section Send

variable (h : IdsOk none s)

include h

variable (env) in
/-- `send` of a subscription or of its opposite: the marked operation `t` is completed, or takes a packet
identifier in `v`. -/
theorem IdsOk.request {x : Holder OpRef Nat} {v u res : Client} (hneeds : x.needs = false)
    (hs : s.allowNextPrepare.holders.Perm (x :: rest)) (ht : t.holders.Perm (⟨x.owner, true, x.id⟩ :: rest))
    (hmarked : t = { s.allowNextPrepare with
      subscribeOps := t.subscribeOps, unsubscribeOps := t.unsubscribeOps })
    (htaken : v = { (t.allocPacketId env).1 with
      subscribeOps := v.subscribeOps, unsubscribeOps := v.unsubscribeOps })
    (hv : v.holders.Perm (⟨x.owner, true, heldId (t.allocPacketId env).2⟩ :: rest))
    (hgone : ∀ text, IdsOk (some x.owner) (t.errorLog text) →
      x.owner ∉ ((t.errorLog text).completeRef x.owner).holders.map Holder.owner)
    (hu : (u = t ∧ ∃ text, res = (t.errorLog text).completeRef x.owner) ∨ (u = v ∧ AllocOk env s))
    (hf : Frame true .rests u res) : IdsOk none res := by
  obtain ⟨faults, hunlocked⟩ := allowNextPrepare_eq s
  -- the marked operation holds nothing yet
  obtain ⟨hnone, hmark⟩ := h.unlock.mark (t := t) true hneeds hs ht (by rw [hmarked]; rfl) (by rw [hmarked])
    (by rw [hmarked])
  rcases hu with ⟨rfl, text, rfl⟩ | ⟨rfl, halloc⟩
  · have hlog : IdsOk (some x.owner) (u.errorLog text) :=
      Prim.idsOk (.emit (.errorLog text) rfl) rfl hmark
    exact (hlog.completeRef x.owner).gone (hgone text hlog)
  · have ha : AllocOk env t := halloc.congr (by rw [hmarked, hunlocked])
    obtain ⟨hp, hn, hfaults⟩ := ha.packetIds
    rw [hnone] at ht
    have htake : IdsOk none u :=
      hmark.take ht ha.1 hv ha.2 (by rw [htaken]; exact hp) (by rw [htaken]; exact hn)
        (by rw [htaken]; exact hfaults)
    exact htake.acts hf.acts

variable (env) in
theorem subscribeSend_idsOk (hr : LockReg s) {op : SubscribeOp} {id : OpId}
    (hop : s.subscribeOp? id = some op) (hsent : op.sent = false) (cb : Bool)
    (halloc : cb = true → op.subMsg.list ≠ [] → op.timer.isSome = true → AllocOk env s) :
    IdsOk none (s.subscribeSend env op cb).1 := by
  obtain ⟨t, u, rfl, hstored, hu, hf⟩ := subscribeSend_cases env hop cb
  obtain ⟨hmem, rfl⟩ := Keyed.mem_of_find hop
  have hunlocked := allowNextPrepare_sameOps s
  have hop' : s.allowNextPrepare.subscribeOp? op.id = some op := by
    unfold subscribeOp?
    rw [hunlocked.subscribeOps]
    exact hop
  have hholders := subscribe_holders hop'
  set t := s.allowNextPrepare.setSubscribeOp { op with sent := true }
  obtain ⟨hsub, hunsub, hsend⟩ := allocPacketId_lists env t
  refine h.request env (x := op.holder) (t := t) (v := t.takeSubscribe env { op with sent := true })
    hsent hholders.1 (hholders.2 { op with sent := true } rfl) rfl rfl ?_ (fun text hlog => ?_)
    (hu.imp_right fun ⟨htake, hcb, hlist, htimer⟩ => ⟨htake, halloc hcb hlist htimer⟩) (hf true .rests)
  · have hput := hholders.2 { op with
      sent := true, cb := true, subMsg := { op.subMsg with packetId := (t.allocPacketId env).2 } } rfl
    refine List.Perm.trans (List.Perm.of_eq ?_) hput
    refine holders_congr ?_ hunsub hsend
    show modifyFirst _ _ (t.allocPacketId env).1.subscribeOps = _
    rw [hsub]
    exact modifyFirst_modifyFirst (by simp)
  · refine subscribe_gone hlog ?_ hstored
    have hreg := hr.registered _ (mem_lockKeys.mpr (Or.inr (Or.inr (Or.inl ⟨op, hmem, rfl⟩))))
    show some _ ∈ s.allowNextPrepare.ops
    rw [hunlocked.ops]
    exact hreg

variable (env) in
theorem unsubscribeSend_idsOk (hr : LockReg s) {op : UnsubscribeOp} {id : OpId}
    (hop : s.unsubscribeOp? id = some op) (hsent : op.sent = false) (cb : Bool)
    (halloc : cb = true → op.unsubMsg.list ≠ [] → op.timer.isSome = true → AllocOk env s) :
    IdsOk none (s.unsubscribeSend env op cb).1 := by
  obtain ⟨t, u, rfl, hstored, hu, hf⟩ := unsubscribeSend_cases env hop cb
  obtain ⟨hmem, rfl⟩ := Keyed.mem_of_find hop
  have hunlocked := allowNextPrepare_sameOps s
  have hop' : s.allowNextPrepare.unsubscribeOp? op.id = some op := by
    unfold unsubscribeOp?
    rw [hunlocked.unsubscribeOps]
    exact hop
  have hholders := unsubscribe_holders hop'
  set t := s.allowNextPrepare.setUnsubscribeOp { op with sent := true }
  obtain ⟨hsub, hunsub, hsend⟩ := allocPacketId_lists env t
  refine h.request env (x := op.holder) (t := t) (v := t.takeUnsubscribe env { op with sent := true })
    hsent hholders.1 (hholders.2 { op with sent := true } rfl) rfl rfl ?_ (fun text hlog => ?_)
    (hu.imp_right fun ⟨htake, hcb, hlist, htimer⟩ => ⟨htake, halloc hcb hlist htimer⟩) (hf true .rests)
  · have hput := hholders.2 { op with
      sent := true, cb := true, unsubMsg := { op.unsubMsg with packetId := (t.allocPacketId env).2 } } rfl
    refine List.Perm.trans (List.Perm.of_eq ?_) hput
    refine holders_congr hsub ?_ hsend
    show modifyFirst _ _ (t.allocPacketId env).1.unsubscribeOps = _
    rw [hunsub]
    exact modifyFirst_modifyFirst (by simp)
  · refine unsubscribe_gone hlog ?_ hstored
    have hreg := hr.registered _ (mem_lockKeys.mpr (Or.inr (Or.inr (Or.inr (Or.inl ⟨op, hmem, rfl⟩)))))
    show some _ ∈ s.allowNextPrepare.ops
    rw [hunlocked.ops]
    exact hreg

variable (env) in
theorem sendOpSend_idsOk (hr : Reg s) {op : SendOp} (hop : op ∈ s.sendOps) (hsent : op.sent = false)
    (cb : Bool)
    (halloc : op.qos ≠ .atMostOnceDelivery → op.responseTimer.isSome = true →
      op.topicConfigured = true → AllocOk env s) :
    IdsOk none (s.sendOpSend env op cb).1 := by
  have hrl : Reg s.allowNextPrepare := (Frame.refl false .begins s).allowNextPrepare.reg hr
  obtain ⟨faults, heq⟩ := allowNextPrepare_eq s
  set v := s.allowNextPrepare.emit (.publishSend op.id op.qos)
  have hv : IdsOk none v := Prim.idsOk (.emit (.publishSend op.id op.qos) rfl) rfl h.unlock
  have hopv : op ∈ v.sendOps := by
    show op ∈ s.allowNextPrepare.sendOps
    rw [heq]
    exact hop
  have hholders := send_holders hv.send_distinct hopv
  -- the marked publish holds nothing yet
  have hneeds : op.holder.needs = false := by
    show (op.sent && _) = false
    rw [hsent]
    rfl
  obtain ⟨hnone, hmark⟩ := hv.mark (x := op.holder)
    (t := v.modifySendOp op.id fun _ => { op with sent := true })
    (op.qos != .atMostOnceDelivery) hneeds hholders.1
    (hholders.2 fun _ => { op with sent := true }) rfl rfl rfl
  set t := v.modifySendOp op.id fun _ => { op with sent := true } with ht
  have hstored : { op with sent := true } ∈ t.sendOps := by
    refine List.mem_map.mpr ⟨op, hopv, ?_⟩
    rw [if_pos (by simp)]
  have hholders := send_holders hmark.send_distinct hstored
  rw [show SendOp.holder { op with sent := true } =
    ⟨⟨.send, op.id⟩, op.qos != .atMostOnceDelivery, none⟩ by rw [← hnone]; rfl] at hholders
  rcases sendOpSend_cases hr hop env cb with ⟨text, ec, hres⟩ | ⟨pid, u, hu, hacts, hstore, hres⟩
  · have hlog : IdsOk (some ⟨.send, op.id⟩) (t.errorLog text) :=
      Prim.idsOk (.emit (.errorLog text) rfl) rfl hmark
    obtain ⟨hmicro, hop'⟩ : Micro env Guard.any.plain true .begins _ _ ∧ _ :=
      sendMark_micro (G := .any) hr hop hsent (fun _ _ _ => trivial) text
    have hr' : Reg (t.errorLog text) := hmicro.reg hrl
    have hrun : MacroRun env cancelGuard true .begins (t.errorLog text)
        ((t.errorLog text).sendOpComplete env { op with sent := true }) :=
      sendOpComplete_run hr' hop' trivial ((Frame.refl true .begins _).toSet hr' hop') rfl rfl rfl rfl
    rw [hres]
    refine (hlog.acts (MacroRun.acts hrun hr' fun _ _ _ h => h)).gone fun hmem => ?_
    obtain ⟨o, ho, hid⟩ := mem_holders_send hmem
    exact sendOpComplete_gone hr' hop' o ho hid
  · have hu' : IdsOk none u := by
      cases hstore with
      | plain hqos =>
        have hset : IdsOk (some ⟨.send, op.id⟩)
            (t.modifySendOp op.id fun _ => op.started cb op.packetId) := by
          refine Prim.idsOk (.setSend op.id _ fun x hx hid => ?_) rfl hmark
          obtain rfl := hmark.send_distinct.eq hx hstored hid
          exact ⟨rfl, rfl, rfl, rfl, fun _ => rfl, rfl⟩
        refine hset.keep ((hholders.2 fun _ => op.started cb op.packetId).trans
          (List.Perm.of_eq (congrArg (· :: _) ?_)))
        show (⟨_, op.qos != .atMostOnceDelivery, op.holder.id⟩ : Holder OpRef Nat) = _
        rw [hnone, hqos]
        rfl
      | taken hqos htimer htopic =>
        have ha : AllocOk env t := (halloc hqos htimer htopic).congr (by
          show s.allowNextPrepare.clientState = _
          rw [heq])
        obtain ⟨hp, hn, hf'⟩ := ha.packetIds
        obtain ⟨hsub, hunsub, hsend⟩ := allocPacketId_lists env t
        refine hmark.take hholders.1 ha.1 ?_ ha.2 hp hn hf'
        have hput := hholders.2 fun _ => op.started cb (t.allocPacketId env).2
        have hneeds : (op.qos != .atMostOnceDelivery) = true := bne_iff_ne.mpr hqos
        rw [show (op.started cb (t.allocPacketId env).2).holder =
          ⟨⟨.send, op.id⟩, op.qos != .atMostOnceDelivery, heldId (t.allocPacketId env).2⟩ from rfl,
          hneeds] at hput
        refine List.Perm.trans (List.Perm.of_eq ?_) hput
        refine holders_congr hsub hunsub ?_
        show List.map _ (t.allocPacketId env).1.sendOps = List.map _ t.sendOps
        rw [hsend]
        rfl
    rw [hres]
    split
    · rw [unpaused_assert hsent (hr.wf op hop)]
      exact Prim.idsOk (.setSend op.id _ fun _ _ _ => ⟨rfl, rfl, rfl, rfl, fun _ => rfl, rfl⟩) rfl hu'
    · exact hu'

end Send

/-! ## Steps -/

/-- The call is a `send` that reaches `allocPacketId`. -/
def Api.allocates (s : Client) : Api → Bool
  | .subscribeSend id cb _ => (s.subscribeOp? id).any fun op =>
      cb && !op.subMsg.list.isEmpty && op.timer.isSome
  | .unsubscribeSend id cb _ => (s.unsubscribeOp? id).any fun op =>
      cb && !op.unsubMsg.list.isEmpty && op.timer.isSome
  | .publishSend id _ _ => (s.sendOp? id).any fun op =>
      op.qos != .atMostOnceDelivery && op.responseTimer.isSome && op.topicConfigured
  | _ => false

/-- What is assumed of `allocPacketId` wherever it is called. -/
def Sys.AllocOk (env : Env) (sys : Sys) : Label → Prop
  | .call api => api.allocates sys.client = true → Mqtt5.AllocOk env sys.client
  | .run => True

instance (env : Env) (s : Client) : Decidable (AllocOk env s) := inferInstanceAs (Decidable (_ ∧ _))

instance (env : Env) (sys : Sys) (l : Label) : Decidable (sys.AllocOk env l) :=
  match l with
  | .call api =>
    inferInstanceAs (Decidable (api.allocates sys.client = true → Mqtt5.AllocOk env sys.client))
  | .run => inferInstanceAs (Decidable True)

/-- A `…Prepare` function. -/
theorem IdsOk.prepareWith {checks : List PrepareCheck} {create : Client → Client}
    (h : IdsOk pending s)
    (hcreate : (∀ c ∈ checks, c.fails = false) → IdsOk pending (create s)) :
    IdsOk pending (s.prepareWith checks create).1 := by
  unfold Client.prepareWith
  split
  · exact Prim.idsOk (.emit (.errorLog _) rfl) rfl h
  · rename_i hnone
    exact Prim.idsOk .lock rfl
      (hcreate fun c hc => Bool.eq_false_iff.mpr (List.find?_eq_none.mp hnone c hc))

theorem IdsOk.publishPrepare (h : IdsOk pending s) : IdsOk pending (s.publishPrepare env).1 := by
  unfold Client.publishPrepare
  dsimp only
  split
  · exact Prim.idsOk (.emit (.errorLog _) rfl) rfl h
  · rename_i hnone
    split
    · exact Prim.idsOk (.emit (.errorLog _) rfl) rfl (Prim.idsOk (.probe env) rfl h)
    · have hon : s.Online := online_of_checks fun c hc =>
        Bool.eq_false_iff.mpr (List.find?_eq_none.mp hnone c (List.mem_append_left _ hc))
      exact Prim.idsOk .lock rfl (Prim.idsOk (.createSend env hon) rfl h)

section

variable {api : Api} (hw : SysWf sys) (hlegal : api.legal sys.client = true)
  (h : IdsOk none sys.client)

include hw hlegal h

/-- The calls that take or release the preparation lock. -/
theorem call_idsOk (hk : api.keepsLock = false) (hok : sys.AllocOk env (.call api)) :
    IdsOk none (sys.client.call env api).1 := by
  have hlists := Prim.sameOps (.unlock (s := sys.client)) rfl
  cases api
  all_goals first
    | (cases hk; done)
    | skip
  -- operations without an identifier
  case connectSend id cb elapsed =>
    obtain ⟨op, hop, hsent⟩ := exists_of_unsent hlegal
    obtain ⟨hmem, -⟩ := Keyed.mem_of_find hop
    have hc : IdsOk none (sys.client.connectSend env op cb).1 := by
      rcases connectSend_cases env hop (hw.connect_registered hop) cb with ⟨msg, heq⟩ | ⟨htimer, hrun⟩
      · rw [heq]
        exact h.unlock.acts
          ((((Frame.refl true .begins sys.client.allowNextPrepare).errorLog msg).opCompleteConnect
            ((SameOps.cancelLock false sys.client).live (.connect hmem))).acts)
      · have hmark := Prim.idsOk (.markConnect op (hlists.connectOps ▸ hmem) htimer) rfl h.unlock
        have hrun : MacroRun env .none true .begins _ _ := hrun
        exact hmark.acts (MacroRun.acts hrun
          ((markConnectOp_frame (b := .begins) hmem htimer).reg hw.reg) fun _ _ _ h => h)
    simpa [Client.call, callConnect, sendHandle, hop] using hc
  case connectCancel id =>
    obtain ⟨op, hop, -⟩ := exists_of_live hlegal
    have hc : IdsOk none (sys.client.connectCancel op) :=
      (h.cancelLock op.cb).completeRef ⟨.connect, op.id⟩
    simpa [Client.call, callConnect, cancelHandle, onHandle, returning, hop] using hc
  case disconnectSend id elapsed =>
    obtain ⟨op, hop, hsent⟩ := exists_of_unsent hlegal
    have hc := Prim.idsOk
      (.markDisconnect op (hlists.disconnectOps ▸ (Keyed.mem_of_find hop).1)) rfl h.unlock
    simpa [Client.call, callConnect, sendHandle, hop] using hc
  case disconnectCancel id =>
    obtain ⟨op, hop, hsent⟩ := exists_of_unsent hlegal
    have hc : IdsOk none (sys.client.disconnectCancel op) :=
      (h.cancelLock false).completeRef ⟨.disconnect, op.id⟩
    simpa [Client.call, callConnect, cancelHandle, onHandle, returning, hop] using hc
  case reauthSend id cb elapsed =>
    obtain ⟨op, hop, hsent⟩ := exists_of_unsent hlegal
    have hmark := Prim.idsOk (.markReauth op (hlists.reauthOps ▸ (Keyed.mem_of_find hop).1)) rfl h.unlock
    have hc := hmark.acts (reauthSend_frame env (a := true) (b := .begins) hop cb).acts
    simpa [Client.call, callConnect, sendHandle, hop] using hc
  case reauthCancel id =>
    obtain ⟨op, hop, -⟩ := exists_of_live hlegal
    have hc : IdsOk none (sys.client.reauthCancel op) :=
      (h.cancelLock op.cb).completeRef ⟨.reauth, op.id⟩
    simpa [Client.call, callConnect, cancelHandle, onHandle, returning, hop] using hc
  -- the three that take one
  case subscribeSend id cb elapsed =>
    obtain ⟨op, hop, hsent⟩ := exists_of_unsent hlegal
    have hc := subscribeSend_idsOk env h hw.lock hop hsent cb fun hcb hlist htimer =>
      hok (by simp [Api.allocates, hop, hcb, hlist, htimer])
    simpa [Client.call, callSubscribe, sendHandle, hop] using hc
  case subscribeCancel id =>
    obtain ⟨op, hop, -⟩ := exists_of_live hlegal
    have hc : IdsOk none (sys.client.subscribeCancel op) :=
      (h.cancelLock op.cb).completeRef ⟨.subscribe, op.id⟩
    simpa [Client.call, callSubscribe, cancelHandle, onHandle, returning, hop] using hc
  case unsubscribeSend id cb elapsed =>
    obtain ⟨op, hop, hsent⟩ := exists_of_unsent hlegal
    have hc := unsubscribeSend_idsOk env h hw.lock hop hsent cb fun hcb hlist htimer =>
      hok (by simp [Api.allocates, hop, hcb, hlist, htimer])
    simpa [Client.call, callSubscribe, sendHandle, hop] using hc
  case unsubscribeCancel id =>
    obtain ⟨op, hop, -⟩ := exists_of_live hlegal
    have hc : IdsOk none (sys.client.unsubscribeCancel op) :=
      (h.cancelLock op.cb).completeRef ⟨.unsubscribe, op.id⟩
    simpa [Client.call, callSubscribe, cancelHandle, onHandle, returning, hop] using hc
  case publishSend id cb elapsed =>
    obtain ⟨op, hop, hsent⟩ := exists_of_unsent hlegal
    have hc := sendOpSend_idsOk env h hw.reg (mem_of_sendOp? hop).1 hsent cb
      fun hqos htimer htopic => hok (by simp [Api.allocates, hop, hqos, htimer, htopic])
    simpa [Client.call, callPublish, sendHandle, hop] using hc
  case publishCancel id =>
    obtain ⟨op, hop⟩ := Option.isSome_iff_exists.mp hlegal
    obtain ⟨hmem, -⟩ := mem_of_sendOp? hop
    have hrun : MacroRun env cancelGuard true .begins (sys.client.cancelLock op.cb) _ :=
      sendOpCancel_run hw.reg hmem trivial
    have hr : Reg (sys.client.cancelLock op.cb) := (Frame.cancelLock (b := .begins) _).reg hw.reg
    have hc := (h.cancelLock op.cb).acts (MacroRun.acts hrun hr fun _ _ _ h => h)
    simpa [Client.call, callPublish, cancelHandle, onHandle, returning, hop] using hc
  case disconnectPrepare =>
    refine h.prepareWith fun hpass => Prim.idsOk (.createDisconnect ?_ ?_) rfl h
    all_goals simp only [List.forall_mem_cons, Bool.not_eq_false'] at hpass
    · exact ⟨hpass.1, hpass.2.2.1, hpass.2.2.2.1⟩
    · exact List.isEmpty_iff.mp hpass.2.1
  case subscribePrepare =>
    exact h.prepareWith fun hpass => Prim.idsOk (.createSubscribe env
      (online_of_checks fun c hc => hpass c (List.mem_append_left _ hc))) rfl h
  case unsubscribePrepare =>
    exact h.prepareWith fun hpass => Prim.idsOk (.createUnsubscribe env
      (online_of_checks fun c hc => hpass c (List.mem_append_left _ hc))) rfl h
  case reauthPrepare =>
    exact h.prepareWith fun hpass => Prim.idsOk (.createReauth env
      (online_of_checks fun c hc =>
        hpass c (List.mem_append_left _ (List.mem_append_right _ hc)))
      (List.isEmpty_iff.mp (by simpa using hpass _ List.mem_cons_self))) rfl h
  case publishPrepare => exact h.publishPrepare

end

/-- A step that leaves the lock alone is made of other updates than those of `send` calls. -/
theorem step_idsOk (hw : SysWf sys) (hstep : sys.step env l = some sys')
    (hok : sys.AllocOk env l) (h : IdsOk none sys.client) : IdsOk none sys'.client := by
  cases hk : sys.keepsLock l with
  | true => exact h.acts (step_acts (b := .begins) hw hstep (fun _ => hk) (.begins _))
  | false =>
    cases l with
    | call api =>
      obtain ⟨-, hlegal, rfl⟩ := call_step hstep
      exact call_idsOk hw hlegal h hk hok
    | run =>
      rw [connectPrepare_step hk hstep]
      refine h.prepareWith fun hpass => Prim.idsOk (.createConnect env ?_ ?_) rfl h
      all_goals simp only [List.forall_mem_cons, Bool.not_eq_false'] at hpass
      · exact ⟨hpass.2.2.1, hpass.2.1, hw.preparing hk⟩
      · exact List.isEmpty_iff.mp hpass.1

theorem reach_idsOk (h : (machine env).Reach (Sys.AllocOk env) sys) : IdsOk none sys.client := by
  have hinit : ∀ sys, (machine env).init sys → IdsOk none sys.client := by
    rintro _ ⟨cbs, config, rfl⟩
    exact ⟨.nil, fun _ h => absurd h List.not_mem_nil, List.not_mem_nil⟩
  exact h.invariant hinit fun sys l sys' hs hinv hok hstep =>
    step_idsOk (reach_wf hs) hstep hok hinv

/-! ## The identifiers in use -/

/-- The packet identifiers of the operations `send` was called for; a publish of QoS 0 has none. -/
def Client.usedIds (s : Client) : List Nat :=
  (s.subscribeOps.filter (·.sent)).map (·.subMsg.packetId) ++
    (s.unsubscribeOps.filter (·.sent)).map (·.unsubMsg.packetId) ++
    (s.sendOps.filter fun op => op.sent && op.qos != .atMostOnceDelivery).map SendOp.packetId

/-- What the operations of a list hold. -/
theorem held_map {α : Type} {l : List α} {hold : α → Holder OpRef Nat} {packetId : α → Nat}
    (hid : ∀ op, (hold op).id = heldId (packetId op))
    (hfree : ∀ op ∈ l, (hold op).needs = false → (hold op).id = none)
    (htaken : ∀ op ∈ l, (hold op).needs = true → (hold op).id ≠ none) :
    Holder.held (l.map hold) = (l.filter fun op => (hold op).needs).map packetId := by
  unfold Holder.held
  induction l with
  | nil => rfl
  | cons op l ih =>
    have ih := ih (fun x hx => hfree x (List.mem_cons_of_mem _ hx))
      (fun x hx => htaken x (List.mem_cons_of_mem _ hx))
    rw [List.map_cons]
    cases hneeds : (hold op).needs with
    | false =>
      rw [List.filterMap_cons_none (hfree op List.mem_cons_self hneeds), ih,
        List.filter_cons_of_neg (by simp [hneeds])]
    | true =>
      have hne := htaken op List.mem_cons_self hneeds
      have hsome : (hold op).id = some (packetId op) := by
        rw [hid] at hne ⊢
        unfold heldId at hne ⊢
        split
        · rename_i hzero
          rw [if_pos hzero] at hne
          exact absurd rfl hne
        · rfl
      rw [List.filterMap_cons_some hsome, ih, List.filter_cons_of_pos (by simp [hneeds]),
        List.map_cons]

theorem IdsOk.held_eq (h : IdsOk none s) : Holder.held s.holders = s.usedIds := by
  have hfree : ∀ x ∈ s.holders, x.needs = false → x.id = none := h.owned.free
  have htaken : ∀ x ∈ s.holders, x.needs = true → x.id ≠ none := fun x hx hneeds hid =>
    absurd (h.owned.taken x hx hneeds hid) (by simp)
  have hpart : ∀ {α : Type} {l : List α} (hold : α → Holder OpRef Nat) {packetId : α → Nat},
      (∀ op, (hold op).id = heldId (packetId op)) → (∀ op ∈ l, hold op ∈ s.holders) →
      Holder.held (l.map hold) = (l.filter fun op => (hold op).needs).map packetId :=
    fun _ _ hid hmem => held_map hid (fun op hop => hfree _ (hmem op hop))
      fun op hop => htaken _ (hmem op hop)
  have hsub := hpart (l := s.subscribeOps) SubscribeOp.holder (fun _ => rfl) fun op hop =>
    List.mem_append_left _ (List.mem_append_left _ (List.mem_map.mpr ⟨op, hop, rfl⟩))
  have hunsub := hpart (l := s.unsubscribeOps) UnsubscribeOp.holder (fun _ => rfl)
    fun op hop => List.mem_append_left _ (List.mem_append_right _ (List.mem_map.mpr ⟨op, hop, rfl⟩))
  have hsend := hpart (l := s.sendOps) SendOp.holder (fun _ => rfl) fun op hop =>
    List.mem_append_right _ (List.mem_map.mpr ⟨op, hop, rfl⟩)
  have happend : Holder.held s.holders = Holder.held (s.subscribeOps.map SubscribeOp.holder) ++
      Holder.held (s.unsubscribeOps.map UnsubscribeOp.holder) ++
      Holder.held (s.sendOps.map SendOp.holder) := by
    unfold Holder.held Client.holders
    rw [List.filterMap_append, List.filterMap_append]
  rw [happend, hsub, hunsub, hsend]
  rfl

/-- In every run in which `allocPacketId` hands out identifiers that are not zero and not in use, the
identifiers in use are exactly those of the operations `send` was called for; they are not zero and each
has one holder, and `releasePacketId` never misses one. -/
theorem packetIds_exact (h : (machine env).Reach (Sys.AllocOk env) sys) :
    (∀ id, id ∈ sys.client.clientState.allocatedPacketIds ↔ id ∈ sys.client.usedIds) ∧
      sys.client.clientState.allocatedPacketIds.Nodup ∧ sys.client.usedIds.Nodup ∧
      0 ∉ sys.client.usedIds ∧ .assertFailed .releasePacketId ∉ sys.client.faults := by
  have hok := reach_idsOk h
  have hexact := hok.owned.exact
  rw [hok.held_eq] at hexact
  refine ⟨fun id => hexact.mem_iff, hok.owned.nodup, hexact.nodup_iff.mp hok.owned.nodup, ?_, hok.sound⟩
  rw [← hok.held_eq]
  intro hmem
  obtain ⟨x, hx, hid⟩ := List.mem_filterMap.mp hmem
  rcases List.mem_append.mp hx with hx | hx
  · rcases List.mem_append.mp hx with hx | hx
    · obtain ⟨op, -, rfl⟩ := List.mem_map.mp hx
      exact heldId_ne_zero hid
    · obtain ⟨op, -, rfl⟩ := List.mem_map.mp hx
      exact heldId_ne_zero hid
  · obtain ⟨op, -, rfl⟩ := List.mem_map.mp hx
    exact heldId_ne_zero hid

/-- A publish and a subscription hold two identifiers. -/
theorem packetIds_exact_two :
    ∃ sys, (machine .dynamic).Reach (Sys.AllocOk .dynamic) sys ∧ sys.client.usedIds = [2, 1] ∧
      ∀ id, id ∈ sys.client.clientState.allocatedPacketIds ↔ id ∈ [2, 1] := by
  obtain ⟨sys, hreach, hp⟩ := exists_reach_ok .dynamic (Sys.AllocOk .dynamic)
    (connectCalls true {} { sessionPresent := false, reasonCode := ReasonCode.success } ++
      [(.publishPrepare, 1),
       (.publishConfigBasic 2 { topic := some ['t'], qos := .atLeastOnceDelivery }, 1),
       (.publishSend 2 true 0, 4), (.subscribePrepare, 1),
       (.subscribeConfigTopic 3 { topic := some ['t'] }, 1), (.subscribeSend 3 true 0, 4)])
    (fun sys => sys.client.usedIds = [2, 1]) (by decide +kernel)
  refine ⟨sys, hreach, hp, ?_⟩
  rw [← hp]
  exact (packetIds_exact hreach).1

end Mqtt5
