import Mqtt5Client.Lock

/-!
# Mqtt5Client — preparation, `send` and `cancel` with the lock

Every call that takes or releases the preparation lock as a step of it.
-/

namespace Mqtt5

open Client

variable {env : Env} {G : Guard} {b : Scope} {s t u : Client} {ref : OpRef} {id : OpId}
  {drops : SendOp → Prop}

/-! ## Releasing -/

/-- The release of the lock changes no operation. -/
theorem allowNextPrepare_refsLe (s : Client) : RefsLe s s.allowNextPrepare := by
  obtain ⟨faults, h⟩ := allowNextPrepare_eq s
  rw [h]
  exact ⟨.refl _, fun _ _ _ h => h, Nat.le_refl _, fun h => h⟩

theorem allowNextPrepare_unsentRefs (s : Client) :
    s.allowNextPrepare.unsentRefs = s.unsentRefs := by
  obtain ⟨faults, h⟩ := allowNextPrepare_eq s
  rw [h]
  rfl

/-- The lock is released while it is held. -/
theorem allowNextPrepare_sound (hlock : s.preparationLocked = true) (hs : s.LockSound) :
    s.allowNextPrepare.LockSound := by
  unfold allowNextPrepare Client.assert
  rw [if_pos hlock]
  exact hs

/-- A run that keeps the lock. -/
theorem LockStep.of_run (hr : Reg s) (hG : ∀ s, ¬G.create s) (hstart : ∀ s op, ¬G.start s op)
    (h : MacroRun env G true b s t) : LockStep drops s t :=
  .keep (MacroRun.refsLe h hr) (MicroRun.lockLe (h.run hr)).locked
    (MicroRun.unsentRefs (h.run hr) hG) (fun hd => MicroRun.live (h.run hr) hr hd hG hstart)
    (MicroRun.lockLe (h.run hr)).sound

/-- A function that leaves the lock. -/
theorem LockStep.of_frame (hr : Reg s) (h : Frame true b s t) : LockStep drops s t := by
  have hrun : MacroRun ⟨{}, fun _ => 0⟩ .none true b s t := .frame h
  exact .of_run hr (fun _ h => h) (fun _ _ h => h) hrun

/-- After the preparation of an operation has ended, a run that keeps the lock. -/
theorem Released.run (h : Released ref s t) (hr : Reg t) (hG : ∀ s, ¬G.create s)
    (hrun : MacroRun env G true b t u) : Released ref s u where
  mem := h.mem
  refs := h.refs.trans (MacroRun.refsLe hrun hr)
  lock := (MicroRun.lockLe (hrun.run hr)).locked.trans h.lock
  unsent := fun r hr' => h.unsent r (MicroRun.unsentRefs (hrun.run hr) hG r hr')
  sound := fun hl hs => (MicroRun.lockLe (hrun.run hr)).sound (h.sound hl hs)

/-- The same of an update that is not visible to publishes. -/
theorem Released.still (h : Released ref s t) (hs : Still true t u) : Released ref s u where
  mem := h.mem
  refs := h.refs.trans ((hs.lockLe rfl).refsLe hs.nextOpId)
  lock := (hs.lockLe rfl).locked.trans h.lock
  sound := fun hl hf => (hs.lockLe rfl).sound (h.sound hl hf)
  unsent := fun r hr => by
    have hops : u.sendOps = t.sendOps := congrArg PubView.sendOps hs.view
    rcases mem_unsentRefs.mp hr with ⟨p, hp, hk⟩ | ⟨op, hop, hsent, rfl⟩
    · exact h.unsent r (mem_unsentRefs.mpr (Or.inl ⟨p, hp, (hs.lockLe rfl).keys.subset hk⟩))
    · exact h.unsent _ (mem_unsentRefs.mpr (Or.inr ⟨op, hops ▸ hop, hsent, rfl⟩))

/-! ## `send` -/

/-- The operation is marked as sent. -/
theorem mark_unsentRefs (hkeys : ∀ k ∈ t.lockKeys, k = (ref, .done) ∨ k ∈ s.lockKeys ∧ k.1 ≠ ref)
    (hops : t.sendOps = s.sendOps) (href : ref.type ≠ .send) :
    ∀ r ∈ t.unsentRefs, r ∈ s.unsentRefs ∧ r ≠ ref := by
  intro r hr
  rcases mem_unsentRefs.mp hr with ⟨p, hp, hk⟩ | ⟨op, hop, hsent, rfl⟩
  · rcases hkeys _ hk with h | ⟨h, hne⟩
    · cases h
      exact absurd rfl hp
    · exact ⟨mem_unsentRefs.mpr (Or.inl ⟨p, hp, h⟩), hne⟩
  · refine ⟨mem_unsentRefs.mpr (Or.inr ⟨op, hops ▸ hop, hsent, rfl⟩), ?_⟩
    rintro rfl
    exact href rfl

/-- An operation in preparation was marked as sent in its list, one of those `lockKeys` is made of. -/
theorem mark_of_list {α : Type} {type : OpType} {key : α → OpId} {prep : α → Prep} {l : List α}
    {op x : α} (p q : List (OpRef × Prep)) (hd : s.LockDistinct)
    (hs : s.lockKeys = p ++ l.map (fun o => (⟨type, key o⟩, prep o)) ++ q)
    (ht : t.lockKeys = p ++ (modifyFirst (fun o => key o == key x) (fun _ => x) l).map
      (fun o => (⟨type, key o⟩, prep o)) ++ q)
    (hsend : t.sendOps = s.sendOps) (hops : t.ops = s.ops) (hn : t.nextOpId = s.nextOpId)
    (htype : type ≠ .send) (hop : l.find? (fun o => key o == id) = some op)
    (hprep : prep op ≠ .done) (hx : key x = id) (hxs : prep x = .done)
    (hlock : t.preparationLocked = false)
    (hsound : s.preparationLocked = true → s.LockSound → t.LockSound) :
    Released ⟨type, id⟩ s t := by
  obtain ⟨hmem, hid⟩ := Keyed.mem_of_find hop
  have hrefs : t.lockKeys.map Prod.fst = s.lockKeys.map Prod.fst := by
    have hmap : (modifyFirst (fun o => key o == key x) (fun _ => x) l).map
        (fun o => (⟨type, key o⟩ : OpRef)) = l.map (fun o => ⟨type, key o⟩) :=
      map_modifyFirst (x := op) (by rw [hx]; exact hop) (by rw [hx, hid])
    rw [hs, ht]
    simp only [List.map_append, List.map_map, Function.comp_def, hmap]
  -- the pointers of the list and of the others are distinct
  have hnd := hd
  unfold LockDistinct at hnd
  rw [hs, List.map_append, List.map_append, List.map_map] at hnd
  obtain ⟨hnd, -, hpost⟩ := List.nodup_append.mp hnd
  obtain ⟨-, hl, hpre⟩ := List.nodup_append.mp hnd
  have hids : Keyed.Distinct key l := by
    refine List.Nodup.of_map (fun id => (⟨type, id⟩ : OpRef)) ?_
    rw [List.map_map]
    exact hl
  have href : (⟨type, id⟩ : OpRef) ∈
      l.map (Prod.fst ∘ fun o => ((⟨type, key o⟩ : OpRef), prep o)) :=
    List.mem_map.mpr ⟨op, hmem, by simp [hid]⟩
  have hkeys : ∀ k ∈ t.lockKeys, k = (⟨type, id⟩, .done) ∨ k ∈ s.lockKeys ∧ k.1 ≠ ⟨type, id⟩ := by
    intro k hk
    rw [ht] at hk
    rcases List.mem_append.mp hk with hk | hk
    · rcases List.mem_append.mp hk with hk | hk
      · refine Or.inr ⟨hs ▸ List.mem_append_left _ (List.mem_append_left _ hk), ?_⟩
        exact hpre _ (List.mem_map.mpr ⟨k, hk, rfl⟩) _ href
      · obtain ⟨y, hy, rfl⟩ := List.mem_map.mp hk
        rcases hids.mem_modifyFirst hy with rfl | ⟨hy, hne⟩
        · exact Or.inl (by rw [hx, hxs])
        · refine Or.inr ⟨hs ▸ List.mem_append_left _ (List.mem_append_right _
            (List.mem_map.mpr ⟨y, hy, rfl⟩)), fun hc => hne ?_⟩
          rw [OpRef.mk.injEq] at hc
          exact hc.2.trans hx.symm
    · refine Or.inr ⟨hs ▸ List.mem_append_right _ hk, fun hc => ?_⟩
      exact hpost _ (List.mem_append_right _ href) _ (List.mem_map.mpr ⟨k, hk, rfl⟩) hc.symm
  refine ⟨mem_unsentRefs.mpr (Or.inl ⟨prep op, hprep, ?_⟩), ⟨hrefs ▸ .refl _, fun _ _ _ h => hops ▸ h,
    Nat.le_of_eq hn.symm, fun hsane k hk => ?_⟩, hlock, mark_unsentRefs hkeys hsend htype, hsound⟩
  · rw [hs]
    exact List.mem_append_left _ (List.mem_append_right _ (List.mem_map.mpr ⟨op, hmem, by rw [hid]⟩))
  · rcases hkeys k hk with rfl | ⟨hk, -⟩
    · exact fun hc => by cases hc
    · exact hsane k hk

/-- An operation that was not sent. -/
theorem prep_ne {sent cb : Bool} (h : sent = false) : Prep.of sent cb ≠ .done := by
  rw [Ne, Prep.of_done, h]
  decide

section Send

variable (hd : s.LockDistinct) (hr : Reg s)

include hd hr

omit hr in
/-- `send` of an operation in preparation ends its preparation, whatever becomes of it. -/
theorem disconnectSend_released {op : DisconnectOp} (hop : s.disconnectOp? id = some op)
    (hsent : op.sent = false) :
    Released ⟨.disconnect, id⟩ s (s.allowNextPrepare.setDisconnectOp { op with sent := true }) := by
  obtain ⟨faults, h⟩ := allowNextPrepare_eq s
  have hm := mark_of_list (t := s.allowNextPrepare.setDisconnectOp { op with sent := true })
    (x := { op with sent := true }) _ _ hd (by simp only [lockKeys, List.append_assoc]; rfl)
    (by rw [h]; simp only [lockKeys, setDisconnectOp, List.append_assoc])
    (by rw [h]; rfl) (by rw [h]; rfl) (by rw [h]; rfl) (by simp) hop (prep_ne hsent)
    (Keyed.mem_of_find hop).2 rfl (by rw [h]; rfl) allowNextPrepare_sound
  exact hm

omit hr in
variable (env) in
/-- A subscription that cannot be sent is gone, and no longer in preparation either. -/
theorem subscribeSend_released {op : SubscribeOp} (hop : s.subscribeOp? id = some op)
    (hsent : op.sent = false) (cb : Bool) :
    Released ⟨.subscribe, id⟩ s (s.subscribeSend env op cb).1 := by
  obtain ⟨faults, h⟩ := allowNextPrepare_eq s
  have hm := mark_of_list (t := s.allowNextPrepare.setSubscribeOp { op with sent := true })
    (x := { op with sent := true })
    (s.connectOps.map (fun op => (⟨.connect, op.id⟩, op.prep)) ++
      s.disconnectOps.map (fun op => (⟨.disconnect, op.id⟩, op.prep))) _
    hd (by simp only [lockKeys, List.append_assoc]; rfl)
    (by rw [h]; simp only [lockKeys, setSubscribeOp, List.append_assoc])
    (by rw [h]; rfl) (by rw [h]; rfl) (by rw [h]; rfl) (by simp) hop (prep_ne hsent)
    (Keyed.mem_of_find hop).2 rfl (by rw [h]; rfl) allowNextPrepare_sound
  exact hm.still (subscribeSend_still hop cb)

omit hr in
variable (env) in
theorem unsubscribeSend_released {op : UnsubscribeOp} (hop : s.unsubscribeOp? id = some op)
    (hsent : op.sent = false) (cb : Bool) :
    Released ⟨.unsubscribe, id⟩ s (s.unsubscribeSend env op cb).1 := by
  obtain ⟨faults, h⟩ := allowNextPrepare_eq s
  have hm := mark_of_list (t := s.allowNextPrepare.setUnsubscribeOp { op with sent := true })
    (x := { op with sent := true })
    (s.connectOps.map (fun op => (⟨.connect, op.id⟩, op.prep)) ++
      (s.disconnectOps.map (fun op => (⟨.disconnect, op.id⟩, op.prep)) ++
        s.subscribeOps.map (fun op => (⟨.subscribe, op.id⟩, op.prep)))) _
    hd (by simp only [lockKeys, List.append_assoc]; rfl)
    (by rw [h]; simp only [lockKeys, setUnsubscribeOp, List.append_assoc])
    (by rw [h]; rfl) (by rw [h]; rfl) (by rw [h]; rfl) (by simp) hop (prep_ne hsent)
    (Keyed.mem_of_find hop).2 rfl (by rw [h]; rfl) allowNextPrepare_sound
  exact hm.still (unsubscribeSend_still hop cb)

omit hr in
variable (env) in
theorem reauthSend_released {op : ReauthOp} (hop : s.reauthOp? id = some op)
    (hsent : op.sent = false) (cb : Bool) :
    Released ⟨.reauth, id⟩ s (s.reauthSend env op cb).1 := by
  obtain ⟨faults, h⟩ := allowNextPrepare_eq s
  have hkeys : s.lockKeys = s.connectOps.map (fun op => (⟨.connect, op.id⟩, op.prep)) ++
      (s.disconnectOps.map (fun op => (⟨.disconnect, op.id⟩, op.prep)) ++
        (s.subscribeOps.map (fun op => (⟨.subscribe, op.id⟩, op.prep)) ++
          s.unsubscribeOps.map (fun op => (⟨.unsubscribe, op.id⟩, op.prep)))) ++
      s.reauthOps.map (fun op => (⟨.reauth, op.id⟩, op.prep)) ++ [] := by
    simp only [lockKeys, List.append_assoc, List.append_nil]
  have hm := mark_of_list (t := s.allowNextPrepare.setReauthOp { op with sent := true })
    (x := { op with sent := true })
    (s.connectOps.map (fun op => (⟨.connect, op.id⟩, op.prep)) ++
      (s.disconnectOps.map (fun op => (⟨.disconnect, op.id⟩, op.prep)) ++
        (s.subscribeOps.map (fun op => (⟨.subscribe, op.id⟩, op.prep)) ++
          s.unsubscribeOps.map (fun op => (⟨.unsubscribe, op.id⟩, op.prep))))) [] hd hkeys
    (by rw [h]; simp only [lockKeys, setReauthOp, List.append_assoc, List.append_nil])
    (by rw [h]; rfl) (by rw [h]; rfl) (by rw [h]; rfl) (by simp) hop (prep_ne hsent)
    (Keyed.mem_of_find hop).2 rfl (by rw [h]; rfl) allowNextPrepare_sound
  exact hm.still (reauthSend_frame env (a := true) (b := .rests) hop cb).toStill

end Send

/-! ## `cancel` -/

/-- A registered operation that is completed is gone. -/
theorem opCompleteWith_gone {f : Client → Client} (href : some ref ∈ s.ops) (hd : s.LockDistinct)
    (hgone : ∀ u, u.LockDistinct → ∀ k ∈ (f u).lockKeys, k.1 ≠ ref) :
    ∀ k ∈ (opCompleteWith ref f s).lockKeys, k.1 ≠ ref := by
  unfold opCompleteWith unregisterOp
  rw [if_pos href]
  exact hgone _ hd

/-- A `cancel` call of another type: an operation that was not sent releases the lock and goes. -/
theorem cancel_released {r : OpRef} (hr : LockReg s) {p : Prep} (hp : p ≠ .done)
    (hkey : (r, p) ∈ s.lockKeys)
    (hf : Frame true .begins s.allowNextPrepare t)
    (hgone : ∀ u : Client, some r ∈ u.ops → u.LockDistinct → u = s.allowNextPrepare →
      ∀ k ∈ t.lockKeys, k.1 ≠ r) : Released r s t := by
  obtain ⟨faults, h⟩ := allowNextPrepare_eq s
  have hle := allowNextPrepare_refsLe s
  have hfa : LockLe s.allowNextPrepare t := hf.lockLe rfl
  refine ⟨mem_unsentRefs.mpr (Or.inl ⟨p, hp, hkey⟩), hle.trans (hfa.refsLe hf.nextOpId), ?_,
    fun x hx => ⟨?_, ?_⟩, fun hl hs => hfa.sound (allowNextPrepare_sound hl hs)⟩
  · rw [hfa.locked, h]
  · rw [← allowNextPrepare_unsentRefs s]
    rcases mem_unsentRefs.mp hx with ⟨q, hq, hk⟩ | ⟨o, ho, hs, rfl⟩
    · exact mem_unsentRefs.mpr (Or.inl ⟨q, hq, hfa.keys.subset hk⟩)
    · exact mem_unsentRefs.mpr (Or.inr ⟨o, hf.sendOps_eq ▸ ho, hs, rfl⟩)
  · have hg := hgone s.allowNextPrepare
      (by rw [h]; exact hr.registered _ hkey) (by rw [h]; exact hr.distinct) rfl
    rcases mem_unsentRefs.mp hx with ⟨q, hq, hk⟩ | ⟨o, ho, hs, rfl⟩
    · exact hg _ hk
    · rintro rfl
      exact (lockKeys_type hkey).2.2 rfl

section Cancel

variable (hr : LockReg s)

include hr

/-- `cancel` of an operation in preparation takes it away. -/
theorem connectCancel_released {op : ConnectOp} (hop : s.connectOp? id = some op)
    (hsent : op.sent = false) (hcb : op.cb = false) : Released ⟨.connect, id⟩ s (s.connectCancel op) := by
  obtain ⟨hmem, hid⟩ := Keyed.mem_of_find hop
  subst hid
  have hf := connectCancel_frame (s := s) (a := true) (b := .begins) hmem
  rw [show s.cancelLock op.cb = s.allowNextPrepare by rw [hcb]; rfl] at hf
  refine cancel_released hr (prep_ne hsent) (mem_lockKeys.mpr (Or.inl ⟨op, hmem, rfl⟩)) hf
    fun u hu hd heq => ?_
  subst heq
  have heq : s.connectCancel op = s.allowNextPrepare.opCompleteConnect op.id := by
    unfold connectCancel
    rw [hcb]
    rfl
  rw [heq]
  exact opCompleteWith_gone hu hd fun _ hd => eraseConnectOp_gone _ hd

variable (env) in
/-- A CONNECT that cannot be sent goes as a cancelled one does. -/
theorem connectSend_released (hreg : Reg s) {op : ConnectOp} (hop : s.connectOp? id = some op)
    (hsent : op.sent = false) (cb : Bool) :
    Released ⟨.connect, id⟩ s (s.connectSend env op cb).1 := by
  obtain ⟨hmem, hid⟩ := Keyed.mem_of_find hop
  subst hid
  have hkey : ((⟨.connect, op.id⟩, op.prep) : OpRef × Prep) ∈ s.lockKeys :=
    mem_lockKeys.mpr (Or.inl ⟨op, hmem, rfl⟩)
  rcases connectSend_cases env hop (hr.registered _ hkey) cb with
    ⟨msg, heq⟩ | ⟨htimer, hrun⟩
  · rw [heq]
    have hf : Frame true .begins s.allowNextPrepare
        ((s.allowNextPrepare.errorLog msg).opCompleteConnect op.id) :=
      ((Frame.refl true .begins _).errorLog msg).opCompleteConnect
        ((SameOps.cancelLock false s).live (.connect hmem))
    refine cancel_released hr (prep_ne hsent) hkey hf fun u hu hd heq => ?_
    subst heq
    exact opCompleteWith_gone (s := s.allowNextPrepare.errorLog msg) hu hd
      fun _ hd => eraseConnectOp_gone _ hd
  · obtain ⟨faults, h⟩ := allowNextPrepare_eq s
    have hm := mark_of_list (t := s.allowNextPrepare.setConnectOp { op with sent := true, cb := true })
      (x := { op with sent := true, cb := true }) [] _ hr.distinct (by simp [lockKeys]; rfl)
      (by rw [h]; simp [lockKeys, setConnectOp]) (by rw [h]; rfl) (by rw [h]; rfl)
      (by rw [h]; rfl) (by simp) hop (prep_ne hsent) rfl rfl (by rw [h]; rfl) allowNextPrepare_sound
    exact hm.run ((markConnectOp_frame (b := .rests) hmem htimer).reg hreg)
      (fun _ h => h) (show MacroRun env .none true .begins _ _ from hrun)

/-- A disconnect operation has no callback that could be set. -/
theorem disconnectCancel_released {op : DisconnectOp} (hop : s.disconnectOp? id = some op)
    (hsent : op.sent = false) : Released ⟨.disconnect, id⟩ s (s.disconnectCancel op) := by
  obtain ⟨hmem, hid⟩ := Keyed.mem_of_find hop
  subst hid
  have hf := disconnectCancel_frame (s := s) (a := true) (b := .begins) hmem
  refine cancel_released hr (prep_ne hsent) (mem_lockKeys.mpr (Or.inr (Or.inl ⟨op, hmem, rfl⟩))) hf
    fun u hu hd heq => ?_
  subst heq
  exact opCompleteWith_gone hu hd fun _ hd => eraseDisconnectOp_gone _ hd

theorem subscribeCancel_released {op : SubscribeOp} (hop : s.subscribeOp? id = some op)
    (hsent : op.sent = false) (hcb : op.cb = false) : Released ⟨.subscribe, id⟩ s (s.subscribeCancel op) := by
  obtain ⟨hmem, hid⟩ := Keyed.mem_of_find hop
  subst hid
  have hf := subscribeCancel_frame (s := s) (a := true) (b := .begins) hmem
  rw [show s.cancelLock op.cb = s.allowNextPrepare by rw [hcb]; rfl] at hf
  refine cancel_released hr (prep_ne hsent) (mem_lockKeys.mpr (Or.inr (Or.inr (Or.inl ⟨op, hmem, rfl⟩)))) hf
    fun u hu hd heq => ?_
  subst heq
  have heq : s.subscribeCancel op = s.allowNextPrepare.opCompleteSubscribe op.id := by
    unfold subscribeCancel
    rw [hcb]
    rfl
  rw [heq]
  exact opCompleteWith_gone hu hd fun _ hd => eraseSubscribeOp_gone _ hd

theorem unsubscribeCancel_released {op : UnsubscribeOp} (hop : s.unsubscribeOp? id = some op)
    (hsent : op.sent = false) (hcb : op.cb = false) : Released ⟨.unsubscribe, id⟩ s (s.unsubscribeCancel op) := by
  obtain ⟨hmem, hid⟩ := Keyed.mem_of_find hop
  subst hid
  have hf := unsubscribeCancel_frame (s := s) (a := true) (b := .begins) hmem
  rw [show s.cancelLock op.cb = s.allowNextPrepare by rw [hcb]; rfl] at hf
  refine cancel_released hr (prep_ne hsent) (mem_lockKeys.mpr (Or.inr (Or.inr (Or.inr (Or.inl ⟨op, hmem, rfl⟩))))) hf
    fun u hu hd heq => ?_
  subst heq
  have heq : s.unsubscribeCancel op = s.allowNextPrepare.opCompleteUnsubscribe op.id := by
    unfold unsubscribeCancel
    rw [hcb]
    rfl
  rw [heq]
  exact opCompleteWith_gone hu hd fun _ hd => eraseUnsubscribeOp_gone _ hd

theorem reauthCancel_released {op : ReauthOp} (hop : s.reauthOp? id = some op)
    (hsent : op.sent = false) (hcb : op.cb = false) : Released ⟨.reauth, id⟩ s (s.reauthCancel op) := by
  obtain ⟨hmem, hid⟩ := Keyed.mem_of_find hop
  subst hid
  have hf := reauthCancel_frame (s := s) (a := true) (b := .begins) hmem
  rw [show s.cancelLock op.cb = s.allowNextPrepare by rw [hcb]; rfl] at hf
  refine cancel_released hr (prep_ne hsent) (mem_lockKeys.mpr (Or.inr (Or.inr (Or.inr (Or.inr ⟨op, hmem, rfl⟩))))) hf
    fun u hu hd heq => ?_
  subst heq
  have heq : s.reauthCancel op = s.allowNextPrepare.opCompleteReauth op.id := by
    unfold reauthCancel
    rw [hcb]
    rfl
  rw [heq]
  exact opCompleteWith_gone hu hd fun _ hd => eraseReauthOp_gone _ hd

end Cancel

/-! ## Preparation -/

/-- A new operation is in preparation, in one of the lists `lockKeys` is made of. -/
structure Created (type : OpType) (s t : Client) : Prop where
  keys : t.lockKeys.Perm ((⟨type, s.nextOpId⟩, .preparing) :: s.lockKeys)
  sendOps : t.sendOps = s.sendOps
  ops : t.ops = s.ops ++ [some ⟨type, s.nextOpId⟩]
  nextOpId : t.nextOpId = s.nextOpId + 1
  sound : s.LockSound → t.LockSound

/-- A list behind others gets one more element. -/
theorem perm_of_append {α : Type} {l l' : List α} {x : α} (p q : List α) (hs : l = p ++ q)
    (ht : l' = p ++ [x] ++ q) : l'.Perm (x :: l) := by
  subst hs ht
  rw [List.append_assoc]
  exact List.perm_middle

/-- The new operation is in preparation. -/
theorem createConnectOp_created : Created .connect s (s.createConnectOp env) :=
  ⟨perm_of_append (s.connectOps.map (fun op => (⟨.connect, op.id⟩, op.prep))) _
    (by simp only [lockKeys, List.append_assoc]; rfl)
    (by simp [lockKeys, createConnectOp, timerAlloc, registerOp]; rfl), rfl, rfl, rfl, fun h => h⟩

theorem createDisconnectOp_created : Created .disconnect s s.createDisconnectOp :=
  ⟨perm_of_append (s.connectOps.map (fun op => (⟨.connect, op.id⟩, op.prep)) ++
      s.disconnectOps.map (fun op => (⟨.disconnect, op.id⟩, op.prep))) _
    (by simp only [lockKeys, List.append_assoc]; rfl)
    (by simp [lockKeys, createDisconnectOp, registerOp]; rfl), rfl, rfl, rfl, fun h => h⟩

theorem createSubscribeOp_created : Created .subscribe s (s.createSubscribeOp env) :=
  ⟨perm_of_append (s.connectOps.map (fun op => (⟨.connect, op.id⟩, op.prep)) ++
      s.disconnectOps.map (fun op => (⟨.disconnect, op.id⟩, op.prep)) ++
      s.subscribeOps.map (fun op => (⟨.subscribe, op.id⟩, op.prep))) _
    (by simp only [lockKeys, List.append_assoc]; rfl)
    (by simp [lockKeys, createSubscribeOp, timerAlloc, registerOp]; rfl), rfl, rfl, rfl, fun h => h⟩

theorem createUnsubscribeOp_created : Created .unsubscribe s (s.createUnsubscribeOp env) :=
  ⟨perm_of_append (s.connectOps.map (fun op => (⟨.connect, op.id⟩, op.prep)) ++
      s.disconnectOps.map (fun op => (⟨.disconnect, op.id⟩, op.prep)) ++
      s.subscribeOps.map (fun op => (⟨.subscribe, op.id⟩, op.prep)) ++
      s.unsubscribeOps.map (fun op => (⟨.unsubscribe, op.id⟩, op.prep))) _
    (by simp only [lockKeys, List.append_assoc]; rfl)
    (by simp [lockKeys, createUnsubscribeOp, timerAlloc, registerOp]; rfl), rfl, rfl, rfl, fun h => h⟩

theorem createReauthOp_created : Created .reauth s (s.createReauthOp env) :=
  ⟨perm_of_append s.lockKeys [] (by simp)
    (by simp [lockKeys, createReauthOp, timerAlloc, registerOp]; rfl), rfl, rfl, rfl, fun h => h⟩

/-- A `…Prepare` call of another type. -/
theorem prepareWith_lock {checks : List PrepareCheck} {create : Client → Client} {type : OpType}
    (hr : Reg s) (name : String) (hcheck : s.lockedCheck name ∈ checks)
    (hconnect : type = .connect → ∃ text ec, ⟨!s.connectOps.isEmpty, text, ec⟩ ∈ checks)
    (hc : Created type s (create s)) : LockStep drops s (s.prepareWith checks create).1 := by
  unfold prepareWith
  split
  · rename_i c _
    have hf : Frame true .begins s (s.errorLog c.text) := (Frame.refl true .begins s).errorLog _
    exact .of_frame hr hf
  · rename_i hnone
    have hchecks := List.find?_eq_none.mp hnone
    refine .prepare ⟨type, s.nextOpId⟩ (by simpa [lockedCheck] using hchecks _ hcheck) rfl rfl ?_
      (Or.inr (hc.keys.map Prod.fst)) ?_ (fun htype => ?_) (fun r hr' => ?_) ?_
      (fun hs k hk => ?_) hc.sound
    · exact Nat.lt_of_lt_of_le (Nat.lt_succ_self _) (Nat.le_of_eq hc.nextOpId.symm)
    · rintro r (h | rfl)
      · exact (show some r ∈ (create s).ops from hc.ops ▸ List.mem_append_left _ h)
      · exact (show some _ ∈ (create s).ops from
          hc.ops ▸ List.mem_append_right _ (List.mem_singleton.mpr rfl))
    · obtain ⟨text, ec, hmem⟩ := hconnect htype
      simpa using hchecks _ hmem
    · rcases mem_unsentRefs.mp hr' with ⟨p, hp, hk⟩ | ⟨o, ho, hs, rfl⟩
      · rcases List.mem_cons.mp (hc.keys.subset hk) with h | h
        · exact Or.inr (congrArg Prod.fst h)
        · exact Or.inl (mem_unsentRefs.mpr (Or.inl ⟨p, hp, h⟩))
      · have ho : o ∈ (create s).sendOps := ho
        exact Or.inl (mem_unsentRefs.mpr (Or.inr ⟨o, hc.sendOps ▸ ho, hs, rfl⟩))
    · exact mem_unsentRefs.mpr (Or.inl ⟨.preparing, by simp,
        hc.keys.mem_iff.mpr List.mem_cons_self⟩)
    · rcases List.mem_cons.mp (hc.keys.subset hk) with rfl | h
      · exact fun hc => by cases hc
      · exact hs k h

/-! ## Publishes -/

variable {op : SendOp}

/-- `publishPrepare` checks for the lock after everything else. -/
theorem publishPrepare_lock (hr : Reg s) : LockStep drops s (s.publishPrepare env).1 := by
  unfold publishPrepare
  dsimp only
  split
  · exact .of_frame hr ((Frame.refl true .begins s).errorLog _)
  · split
    · exact .of_frame (b := .begins) hr ((probeSendOp_frame env).errorLog _)
    · rename_i hfree
      have hfree : s.preparationLocked = false := by simpa using hfree
      obtain ⟨timer, h⟩ := createSendOp_shows (s := s) env
      have h := h true
      have hlt : s.nextOpId < (s.createSendOp env).nextOpId := by
        unfold createSendOp registerOp Client.assert
        dsimp only
        split <;> exact Nat.lt_succ_self _
      have hkeys := (h.lockLe rfl).keys
      refine .prepare ⟨.send, s.nextOpId⟩ hfree rfl rfl hlt (Or.inl (hkeys.map Prod.fst)) ?_
        (by simp) (fun r hr' => ?_) ?_ (fun hs k hk => hs k (hkeys.subset hk))
        (h.lockLe rfl).sound
      · have hops : (s.createSendOp env).ops = s.ops ++ [some ⟨.send, s.nextOpId⟩] := by
          unfold createSendOp registerOp Client.assert
          dsimp only
          split <;> rfl
        rintro r (h | rfl)
        · exact show some r ∈ (s.createSendOp env).ops from hops ▸ List.mem_append_left _ h
        · exact show some _ ∈ (s.createSendOp env).ops from
            hops ▸ List.mem_append_right _ (List.mem_singleton.mpr rfl)
      · rcases mem_unsentRefs.mp hr' with ⟨p, hp, hk⟩ | ⟨o, ho, hs, rfl⟩
        · exact Or.inl (mem_unsentRefs.mpr (Or.inl ⟨p, hp, hkeys.subset hk⟩))
        · have ho : o ∈ (s.createSendOp env).sendOps := ho
          rw [h.sendOps_eq] at ho
          rcases List.mem_append.mp ho with ho | ho
          · exact Or.inl (mem_unsentRefs.mpr (Or.inr ⟨o, ho, hs, rfl⟩))
          · rw [List.mem_singleton.mp ho]
            exact Or.inr rfl
      · have ho : ({ id := s.nextOpId, responseTimer := timer } : SendOp) ∈
            (s.createSendOp env).sendOps := by
          rw [h.sendOps_eq]
          exact List.mem_append_right _ (List.mem_singleton.mpr rfl)
        exact mem_unsentRefs.mpr (Or.inr ⟨_, ho, rfl, rfl⟩)

/-- A completed publish is gone. -/
theorem sendOpComplete_gone {x : SendOp} (hr : Reg s) (hop : x ∈ s.sendOps) :
    ∀ o ∈ (s.sendOpComplete env x).sendOps, o.id ≠ x.id := by
  obtain ⟨u, hu, hue, -⟩ := erase_eff (a := true) (b := .rests) (resumeSendOpsSince env) (y := x) hr hop
    ((Frame.refl true .rests s).toSet hr hop) rfl rfl rfl rfl
  have hru : Reg u := hue.reg_eraseOp hr hop rfl rfl rfl
  unfold sendOpComplete
  rw [hu]
  intro o ho
  have hrun := wakeFrom_run (G := wakeGuard env (s.sendIdx x.id)) (a := true) (b := .rests)
    (fun hu => resumeSendOpsSince_run hu) hru
  obtain ⟨o', ho', hid', -⟩ := MicroRun.mem_sendOps hrun (fun _ h => h) o ho
  rw [hue.sendOps_eq] at ho'
  rw [← hid']
  exact (hr.distinct.mem_erase.mp ho').2

section Publish

variable (hr : Reg s) (hop : op ∈ s.sendOps) (hsent : op.sent = false)

include hr hop hsent

omit hr in
/-- A publish in preparation is among the operations in preparation. -/
theorem mem_unsentRefs_of_mem : (⟨.send, op.id⟩ : OpRef) ∈ s.unsentRefs :=
  mem_unsentRefs.mpr (Or.inr ⟨op, hop, hsent, rfl⟩)

/-- What is known of a run is enough, when no publish with its identity is left in preparation. -/
theorem Released.of_publish (h : MacroRun env G true b s.allowNextPrepare t) (hG : ∀ s, ¬G.create s)
    (hgone : ∀ o ∈ t.sendOps, o.id = op.id → o.sent = true) : Released ⟨.send, op.id⟩ s t := by
  have hrl : Reg s.allowNextPrepare := (Frame.refl false b s).allowNextPrepare.reg hr
  obtain ⟨faults, heq⟩ := allowNextPrepare_eq s
  refine ⟨mem_unsentRefs_of_mem hop hsent,
    (allowNextPrepare_refsLe s).trans (MacroRun.refsLe h hrl), ?_, fun r hr' => ⟨?_, ?_⟩,
    fun hl hs => (MicroRun.lockLe (h.run hrl)).sound (allowNextPrepare_sound hl hs)⟩
  · rw [(MicroRun.lockLe (h.run hrl)).locked, heq]
  · rw [← allowNextPrepare_unsentRefs s]
    exact MicroRun.unsentRefs (h.run hrl) hG r hr'
  · rintro rfl
    rcases mem_unsentRefs.mp hr' with ⟨p, hp, hk⟩ | ⟨o, ho, hs, heq⟩
    · exact (lockKeys_type hk).2.2 rfl
    · rw [OpRef.mk.injEq] at heq
      rw [hgone o ho heq.2.symm] at hs
      cases hs

/-- The guard of a `send` call by itself. -/
def endGuard : Guard := { Guard.any with create := fun _ => False }

/-- The guard of a `cancel` call by itself. -/
def cancelGuard : Guard := { endGuard with start := fun _ _ => False }

variable (env) in
/-- `SendOp::send` ends the preparation of its publish. -/
theorem publishSend_released (cb : Bool) :
    Released ⟨.send, op.id⟩ s (s.sendOpSend env op cb).1 := by
  have hrl : Reg s.allowNextPrepare := (Frame.refl false .begins s).allowNextPrepare.reg hr
  obtain ⟨u, x, hx, hid, hxs, hmicro, hrun⟩ := sendOpSend_started (G := endGuard) (a := true)
    (b := .begins) hr hop hsent env (fun _ _ _ => trivial) (fun _ _ _ => trivial) cb
  have hru := hmicro.reg hrl
  refine .of_publish hr hop hsent ((MacroRun.micro hmicro).trans hrun) (fun _ h => h) ?_
  intro o ho hoid
  -- the publish was marked before the rest of the call, which keeps the mark
  obtain ⟨o', ho', hid', hs⟩ := MicroRun.mem_sendOps (hrun.run hru) (fun _ h => h) o ho
  obtain rfl := hru.distinct.eq ho' hx (by rw [hid', hoid, hid])
  exact hs hxs

variable (env) in
/-- And so does `SendOp::cancel` when the publish has no callback. -/
theorem publishCancel_released (hcb : op.cb = false) :
    Released ⟨.send, op.id⟩ s (s.sendOpCancel env op) := by
  have hrl : Reg s.allowNextPrepare := (Frame.refl false .begins s).allowNextPrepare.reg hr
  have hopl : op ∈ s.allowNextPrepare.sendOps :=
    ((Frame.refl false .begins s).allowNextPrepare).sendOps_eq ▸ hop
  have hcancel : s.sendOpCancel env op = s.allowNextPrepare.sendOpComplete env op := by
    unfold sendOpCancel
    rw [hcb]
    rfl
  have hrun : MacroRun env cancelGuard true .begins (s.cancelLock op.cb) (s.sendOpCancel env op) :=
    sendOpCancel_run hr hop trivial
  rw [show s.cancelLock op.cb = s.allowNextPrepare by rw [hcb]; rfl] at hrun
  refine .of_publish hr hop hsent hrun (fun _ h => h) fun o ho hid => ?_
  rw [hcancel] at ho
  exact absurd hid (sendOpComplete_gone hrl hopl o ho)

end Publish

/-- `cancel` of a publish that was sent. -/
theorem publishCancel_lock (hr : Reg s) (hop : op ∈ s.sendOps) (hsent : op.sent = true)
    (hdrops : drops op) : LockStep drops s (s.sendOpCancel env op) := by
  cases hcb : op.cb with
  | true =>
    have hrun : MacroRun env cancelGuard true .begins (s.cancelLock op.cb) (s.sendOpCancel env op) :=
    sendOpCancel_run hr hop trivial
    rw [show s.cancelLock op.cb = s by rw [hcb]; rfl] at hrun
    exact .of_run hr (fun _ h => h) (fun _ _ h => h) hrun
  | false =>
    have hrl : Reg s.allowNextPrepare := (Frame.refl false .begins s).allowNextPrepare.reg hr
    have hrun : MacroRun env cancelGuard true .begins (s.cancelLock op.cb) (s.sendOpCancel env op) :=
    sendOpCancel_run hr hop trivial
    rw [show s.cancelLock op.cb = s.allowNextPrepare by rw [hcb]; rfl] at hrun
    exact .drop op hop hsent hcb hdrops ((allowNextPrepare_refsLe s).trans (MacroRun.refsLe hrun hrl))

end Mqtt5
