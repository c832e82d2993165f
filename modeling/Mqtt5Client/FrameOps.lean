import Mqtt5Client.Frame
import Mqtt5Client.Lib.Keyed

/-!
# Mqtt5Client — frames of the operations that are not publishes

Completion, configuration, sending and message handling of the connect, keep alive, disconnect,
subscribe, unsubscribe, reauthentication and receive operations, as far as they do not end the
connection.
-/

namespace Mqtt5

namespace Client

variable {s t u : Client} {a : Bool} {b : Scope}

/-! ## Completion -/

/-- Removing an operation of another type. -/
theorem Still.of_lists (h : Still a s t) (hv : u.view = t.view) (ht : u.timerMgr = t.timerMgr)
    (hn : u.nextOpId = t.nextOpId) (hl : u.preparationLocked = t.preparationLocked)
    (hk : u.lockKeys.Sublist t.lockKeys) (ho : u.ops = t.ops)
    (hf : t.LockSound → u.LockSound) : Still a s u :=
  h.trans ⟨hv, fun _ h => by rwa [sendTimers, ht] at h, Nat.le_of_eq hn.symm,
    fun _ => ⟨hl, hf, hk, fun _ _ _ h => ho ▸ h⟩⟩

/-- Leaving out an element of one of the lists. -/
theorem sublist_of_lists {l₁ l₂ l₃ l₄ l₅ m₁ m₂ m₃ m₄ m₅ : List (OpRef × Prep)}
    (h₁ : l₁.Sublist m₁) (h₂ : l₂.Sublist m₂) (h₃ : l₃.Sublist m₃) (h₄ : l₄.Sublist m₄)
    (h₅ : l₅.Sublist m₅) :
    (l₁ ++ l₂ ++ l₃ ++ l₄ ++ l₅).Sublist (m₁ ++ m₂ ++ m₃ ++ m₄ ++ m₅) :=
  (((h₁.append h₂).append h₃).append h₄).append h₅

/-- `opComplete` of a connect operation: its timer is freed and it leaves `m_connectOps`. -/
theorem Still.eraseConnectOp (h : Still a s t) (id : OpId) : Still a s (t.eraseConnectOp id) := by
  unfold Client.eraseConnectOp
  split
  · exact h.fault _ (by simp)
  · refine Still.timerFree ?_ _
    refine h.of_lists rfl rfl rfl rfl ?_ rfl fun h => h
    exact sublist_of_lists (List.eraseP_sublist.map _) (.refl _) (.refl _) (.refl _) (.refl _)

/-- A change of the keep alive operations only. -/
theorem Still.setKeepAliveOps (h : Still a s t) (ops : List KeepAliveOp) :
    Still a s { t with keepAliveOps := ops } :=
  h.trans (.of_eq rfl rfl rfl rfl rfl rfl fun h => h)

/-- The keep alive operation goes with its three timers. -/
theorem Still.eraseKeepAliveOp (h : Still a s t) (id : OpId) :
    Still a s (t.eraseKeepAliveOp id) := by
  unfold Client.eraseKeepAliveOp
  split
  · exact h.fault _ (by simp)
  · exact (((h.setKeepAliveOps _).timerFree _).timerFree _).timerFree _

/-- A disconnect operation has no timer. -/
theorem Still.eraseDisconnectOp (h : Still a s t) (id : OpId) :
    Still a s (t.eraseDisconnectOp id) := by
  unfold Client.eraseDisconnectOp
  split
  · exact h.fault _ (by simp)
  · refine h.of_lists rfl rfl rfl rfl ?_ rfl fun h => h
    exact sublist_of_lists (.refl _) (List.eraseP_sublist.map _) (.refl _) (.refl _) (.refl _)

/-- A subscription gives back its packet identifier, too. -/
theorem Still.eraseSubscribeOp (h : Still a s t) (id : OpId) :
    Still a s (t.eraseSubscribeOp id) := by
  unfold Client.eraseSubscribeOp
  split
  · exact h.fault _ (by simp)
  · refine Still.timerFree (Still.releasePacketId ?_ _) _
    refine h.of_lists rfl rfl rfl rfl ?_ rfl fun h => h
    exact sublist_of_lists (.refl _) (.refl _) (List.eraseP_sublist.map _) (.refl _) (.refl _)

theorem Still.eraseUnsubscribeOp (h : Still a s t) (id : OpId) :
    Still a s (t.eraseUnsubscribeOp id) := by
  unfold Client.eraseUnsubscribeOp
  split
  · exact h.fault _ (by simp)
  · refine Still.timerFree (Still.releasePacketId ?_ _) _
    refine h.of_lists rfl rfl rfl rfl ?_ rfl fun h => h
    exact sublist_of_lists (.refl _) (.refl _) (.refl _) (List.eraseP_sublist.map _) (.refl _)

/-- `opComplete` of a reauthentication. -/
theorem Still.eraseReauthOp (h : Still a s t) (id : OpId) : Still a s (t.eraseReauthOp id) := by
  unfold Client.eraseReauthOp
  split
  · exact h.fault _ (by simp)
  · refine Still.timerFree ?_ _
    refine h.of_lists rfl rfl rfl rfl ?_ rfl fun h => h
    exact sublist_of_lists (.refl _) (.refl _) (.refl _) (.refl _) (List.eraseP_sublist.map _)

/-- A reception goes with its timer; its packet identifier is that of the broker. -/
theorem Still.eraseRecvOp (h : Still a s t) (id : OpId) : Still a s (t.eraseRecvOp id) := by
  unfold Client.eraseRecvOp
  split
  · exact h.fault _ (by simp)
  · refine Still.timerFree ?_ _
    exact h.trans (.of_eq rfl rfl rfl rfl rfl rfl fun h => h)

/-- `ClientImpl::opComplete` of an operation of another type: the pointer goes with the operation. -/
theorem Still.opCompleteWith (h : Still a s t) {ref : OpRef} (hs : ref.type ≠ .send)
    {f : Client → Client} (hf : ∀ u, Still a u (f u))
    (hgone : ∀ u, u.LockDistinct → ∀ k ∈ (f u).lockKeys, k.1 ≠ ref) :
    Still a s (opCompleteWith ref f t) := by
  unfold Client.opCompleteWith
  split
  · exact h.fault _ (by simp)
  · rename_i u hu
    obtain rfl := unregisterOp_eq hu
    set u : Client := { t with ops := nullify ref t.ops, opsDeleted := true }
    have hf := hf u
    have hgone := hgone u
    refine h.trans ⟨?_, hf.timers, hf.nextOpId, fun ha => ⟨(hf.lockLe ha).locked,
      (hf.lockLe ha).sound, (hf.lockLe ha).keys,
      fun hd k hk ht => (hf.lockLe ha).refs hd k hk (mem_nullify (hgone hd k hk) ht)⟩⟩
    have : OpRef.sendId (some ref) = none := by
      obtain ⟨type, id⟩ := ref
      cases type <;> first | rfl | simp at hs
    have hrefs : u.ops.filterMap OpRef.sendId = t.ops.filterMap OpRef.sendId :=
      filterMap_nullify rfl this _
    rw [hf.view]
    show { t.view with sendRefs := u.ops.filterMap OpRef.sendId } = t.view
    rw [hrefs]
    rfl

/-- The lists of the operations that can be in preparation, one after the other. -/
theorem mem_lockKeys {k : OpRef × Prep} : k ∈ s.lockKeys ↔
    (∃ op ∈ s.connectOps, (⟨.connect, op.id⟩, op.prep) = k) ∨
    (∃ op ∈ s.disconnectOps, (⟨.disconnect, op.id⟩, op.prep) = k) ∨
    (∃ op ∈ s.subscribeOps, (⟨.subscribe, op.id⟩, op.prep) = k) ∨
    (∃ op ∈ s.unsubscribeOps, (⟨.unsubscribe, op.id⟩, op.prep) = k) ∨
    (∃ op ∈ s.reauthOps, (⟨.reauth, op.id⟩, op.prep) = k) := by
  simp only [lockKeys, List.mem_append, List.mem_map, or_assoc]

/-- An erased operation is not in its list any more. -/
theorem id_ne_of_mem_eraseP {α : Type} {type : OpType} {id : OpId} {key : α → OpId} {l : List α}
    {refs : List OpRef} (hd : refs.Nodup)
    (hl : (l.map (fun x => (⟨type, key x⟩ : OpRef))).Sublist refs) {x : α}
    (hx : x ∈ l.eraseP (fun x => key x == id)) : key x ≠ id := by
  have hids : Keyed.Distinct key l := by
    refine List.Nodup.of_map (fun id => (⟨type, id⟩ : OpRef)) ?_
    rw [List.map_map]
    exact hl.nodup hd
  exact (hids.mem_erase.mp hx).2

/-- The pointers behind the keys of each list. -/
theorem refs_sublist (s : Client) :
    (s.connectOps.map (fun op => (⟨.connect, op.id⟩ : OpRef))).Sublist (s.lockKeys.map Prod.fst) ∧
    (s.disconnectOps.map (fun op => (⟨.disconnect, op.id⟩ : OpRef))).Sublist
      (s.lockKeys.map Prod.fst) ∧
    (s.subscribeOps.map (fun op => (⟨.subscribe, op.id⟩ : OpRef))).Sublist
      (s.lockKeys.map Prod.fst) ∧
    (s.unsubscribeOps.map (fun op => (⟨.unsubscribe, op.id⟩ : OpRef))).Sublist
      (s.lockKeys.map Prod.fst) ∧
    (s.reauthOps.map (fun op => (⟨.reauth, op.id⟩ : OpRef))).Sublist
      (s.lockKeys.map Prod.fst) := by
  simp only [lockKeys, List.map_append, List.map_map, Function.comp_def]
  refine ⟨?_, ?_, ?_, ?_, ?_⟩
  · exact ((List.sublist_append_left _ _).trans (List.sublist_append_left _ _)).trans
      ((List.sublist_append_left _ _).trans (List.sublist_append_left _ _))
  · exact ((List.sublist_append_right _ _).trans (List.sublist_append_left _ _)).trans
      ((List.sublist_append_left _ _).trans (List.sublist_append_left _ _))
  · exact (List.sublist_append_right _ _).trans
      ((List.sublist_append_left _ _).trans (List.sublist_append_left _ _))
  · exact (List.sublist_append_right _ _).trans (List.sublist_append_left _ _)
  · exact List.sublist_append_right _ _

/-- The erased operation is the only one with its pointer, so no other keeps its place in the bookkeeping of
the lock. -/
theorem eraseConnectOp_gone (id : OpId) (hd : s.LockDistinct) :
    ∀ k ∈ (s.eraseConnectOp id).lockKeys, k.1 ≠ ⟨.connect, id⟩ := by
  have hops : (s.eraseConnectOp id).connectOps = s.connectOps.eraseP (·.id == id) := by
    unfold Client.eraseConnectOp
    split
    · rename_i hnone
      exact (List.eraseP_of_forall_not (List.find?_eq_none.mp hnone)).symm
    · rfl
  rintro ⟨ref, prep⟩ hk (rfl : ref = _)
  rcases mem_lockKeys.mp hk with h | h | h | h | h <;> obtain ⟨op, hop, hk⟩ := h <;> cases hk
  exact id_ne_of_mem_eraseP hd (refs_sublist s).1 (hops ▸ hop) rfl

theorem eraseDisconnectOp_gone (id : OpId) (hd : s.LockDistinct) :
    ∀ k ∈ (s.eraseDisconnectOp id).lockKeys, k.1 ≠ ⟨.disconnect, id⟩ := by
  have hops : (s.eraseDisconnectOp id).disconnectOps = s.disconnectOps.eraseP (·.id == id) := by
    unfold Client.eraseDisconnectOp
    split
    · rename_i hnone
      exact (List.eraseP_of_forall_not (List.find?_eq_none.mp hnone)).symm
    · rfl
  rintro ⟨ref, prep⟩ hk (rfl : ref = _)
  rcases mem_lockKeys.mp hk with h | h | h | h | h <;> obtain ⟨op, hop, hk⟩ := h <;> cases hk
  exact id_ne_of_mem_eraseP hd (refs_sublist s).2.1 (hops ▸ hop) rfl

theorem eraseSubscribeOp_gone (id : OpId) (hd : s.LockDistinct) :
    ∀ k ∈ (s.eraseSubscribeOp id).lockKeys, k.1 ≠ ⟨.subscribe, id⟩ := by
  have hops : (s.eraseSubscribeOp id).subscribeOps = s.subscribeOps.eraseP (·.id == id) := by
    unfold Client.eraseSubscribeOp
    split
    · rename_i hnone
      exact (List.eraseP_of_forall_not (List.find?_eq_none.mp hnone)).symm
    · unfold Client.releasePacketId
      split
      · rfl
      · split <;> rfl
  rintro ⟨ref, prep⟩ hk (rfl : ref = _)
  rcases mem_lockKeys.mp hk with h | h | h | h | h <;> obtain ⟨op, hop, hk⟩ := h <;> cases hk
  exact id_ne_of_mem_eraseP hd (refs_sublist s).2.2.1 (hops ▸ hop) rfl

theorem eraseUnsubscribeOp_gone (id : OpId) (hd : s.LockDistinct) :
    ∀ k ∈ (s.eraseUnsubscribeOp id).lockKeys, k.1 ≠ ⟨.unsubscribe, id⟩ := by
  have hops : (s.eraseUnsubscribeOp id).unsubscribeOps = s.unsubscribeOps.eraseP (·.id == id) := by
    unfold Client.eraseUnsubscribeOp
    split
    · rename_i hnone
      exact (List.eraseP_of_forall_not (List.find?_eq_none.mp hnone)).symm
    · unfold Client.releasePacketId
      split
      · rfl
      · split <;> rfl
  rintro ⟨ref, prep⟩ hk (rfl : ref = _)
  rcases mem_lockKeys.mp hk with h | h | h | h | h <;> obtain ⟨op, hop, hk⟩ := h <;> cases hk
  exact id_ne_of_mem_eraseP hd (refs_sublist s).2.2.2.1 (hops ▸ hop) rfl

theorem eraseReauthOp_gone (id : OpId) (hd : s.LockDistinct) :
    ∀ k ∈ (s.eraseReauthOp id).lockKeys, k.1 ≠ ⟨.reauth, id⟩ := by
  have hops : (s.eraseReauthOp id).reauthOps = s.reauthOps.eraseP (·.id == id) := by
    unfold Client.eraseReauthOp
    split
    · rename_i hnone
      exact (List.eraseP_of_forall_not (List.find?_eq_none.mp hnone)).symm
    · rfl
  rintro ⟨ref, prep⟩ hk (rfl : ref = _)
  rcases mem_lockKeys.mp hk with h | h | h | h | h <;> obtain ⟨op, hop, hk⟩ := h <;> cases hk
  exact id_ne_of_mem_eraseP hd (refs_sublist s).2.2.2.2 (hops ▸ hop) rfl

/-- `ClientImpl::opComplete` of an operation of each type. -/
theorem Frame.opCompleteConnect (h : Frame a b s t) {id : OpId}
    (hlive : t.Live ⟨.connect, id⟩) :
    Frame a b s (t.opCompleteConnect id) :=
  h.update ((Still.refl a t).opCompleteWith (by simp) (fun u => (Still.refl a u).eraseConnectOp id)
    fun _ hd => eraseConnectOp_gone id hd) (.complete ⟨.connect, id⟩ hlive) rfl

theorem Frame.opCompleteDisconnect (h : Frame a b s t) {id : OpId}
    (hlive : t.Live ⟨.disconnect, id⟩) :
    Frame a b s (t.opCompleteDisconnect id) :=
  h.update ((Still.refl a t).opCompleteWith (by simp)
    (fun u => (Still.refl a u).eraseDisconnectOp id) fun _ hd => eraseDisconnectOp_gone id hd)
    (.complete ⟨.disconnect, id⟩ hlive) rfl

theorem Frame.opCompleteSubscribe (h : Frame a b s t) {id : OpId}
    (hlive : t.Live ⟨.subscribe, id⟩) :
    Frame a b s (t.opCompleteSubscribe id) :=
  h.update ((Still.refl a t).opCompleteWith (by simp)
    (fun u => (Still.refl a u).eraseSubscribeOp id) fun _ hd => eraseSubscribeOp_gone id hd)
    (.complete ⟨.subscribe, id⟩ hlive) rfl

theorem Frame.opCompleteUnsubscribe (h : Frame a b s t) {id : OpId}
    (hlive : t.Live ⟨.unsubscribe, id⟩) :
    Frame a b s (t.opCompleteUnsubscribe id) :=
  h.update ((Still.refl a t).opCompleteWith (by simp)
    (fun u => (Still.refl a u).eraseUnsubscribeOp id) fun _ hd => eraseUnsubscribeOp_gone id hd)
    (.complete ⟨.unsubscribe, id⟩ hlive) rfl

theorem Frame.opCompleteReauth (h : Frame a b s t) {id : OpId}
    (hlive : t.Live ⟨.reauth, id⟩) :
    Frame a b s (t.opCompleteReauth id) :=
  h.update ((Still.refl a t).opCompleteWith (by simp) (fun u => (Still.refl a u).eraseReauthOp id)
    fun _ hd => eraseReauthOp_gone id hd) (.complete ⟨.reauth, id⟩ hlive) rfl

/-- Keep alive operations and receptions are never in preparation. -/
theorem lockKeys_type {k : OpRef × Prep} (hk : k ∈ s.lockKeys) :
    k.1.type ≠ .keepAlive ∧ k.1.type ≠ .recv ∧ k.1.type ≠ .send := by
  rcases mem_lockKeys.mp hk with h | h | h | h | h <;> obtain ⟨op, hop, rfl⟩ := h <;> simp

/-- The keep alive operation is not among those that are prepared. -/
theorem Frame.opCompleteKeepAlive [b.Ends] (h : Frame a b s t) {id : OpId}
    (hlive : t.Live ⟨.keepAlive, id⟩) :
    Frame a b s (t.opCompleteKeepAlive id) :=
  h.update ((Still.refl a t).opCompleteWith (by simp)
    (fun u => (Still.refl a u).eraseKeepAliveOp id)
    fun _ _ _ hk hkr => (lockKeys_type hk).1 (by rw [hkr])) (.complete ⟨.keepAlive, id⟩ hlive)
    (Act.allowed_of rfl fun _ => Scope.Ends.keepAlive id)

/-- Nor is a reception. -/
theorem Frame.opCompleteRecv (h : Frame a b s t) {id : OpId}
    (hlive : t.Live ⟨.recv, id⟩) :
    Frame a b s (t.opCompleteRecv id) :=
  h.update ((Still.refl a t).opCompleteWith (by simp) (fun u => (Still.refl a u).eraseRecvOp id)
    fun _ _ _ hk hkr => (lockKeys_type hk).2.1 (by rw [hkr])) (.complete ⟨.recv, id⟩ hlive) rfl

/-- The completion callback comes behind the removal of the operation. -/
theorem Frame.connectComplete (h : Frame a b s t) {op : ConnectOp}
    (hlive : t.Live ⟨.connect, op.id⟩) (status : AsyncOpStatus)
    (response : Option ConnectResponse) : Frame a b s (t.connectComplete op status response) := by
  have hdone := h.opCompleteConnect hlive
  unfold Client.connectComplete
  grind [Event.isPub, Event.isReport, Event.isControl]

theorem Frame.subscribeComplete (h : Frame a b s t) {op : SubscribeOp}
    (hlive : t.Live ⟨.subscribe, op.id⟩) (status : AsyncOpStatus) :
    Frame a b s (t.subscribeComplete op status none) := by
  have hdone := h.opCompleteSubscribe hlive
  unfold Client.subscribeComplete
  grind [Event.isPub, Event.isReport, Event.isControl]

/-- The callback that brings the codes of a SUBACK. -/
theorem Frame.subscribeAnswer [b.Grants] (h : Frame a b s t) {op : SubscribeOp}
    (hlive : t.Live ⟨.subscribe, op.id⟩) (status : AsyncOpStatus) (response : CodesResponse) :
    Frame a b s (t.subscribeComplete op status (some response)) := by
  unfold Client.subscribeComplete
  dsimp only
  split
  · refine (h.opCompleteSubscribe hlive).update (.of_eq ?_ rfl rfl rfl rfl rfl fun h => h)
      (.emit (.subscribeCb op.id status (some response)) rfl) ?_
    · simp [Client.view, Client.emit, Event.isPub]
    · exact Act.allowed_of rfl fun _ => Scope.Grants.subscribed _ _ _
  · exact h.opCompleteSubscribe hlive

theorem Frame.unsubscribeComplete (h : Frame a b s t) {op : UnsubscribeOp}
    (hlive : t.Live ⟨.unsubscribe, op.id⟩) (status : AsyncOpStatus) :
    Frame a b s (t.unsubscribeComplete op status none) := by
  have hdone := h.opCompleteUnsubscribe hlive
  unfold Client.unsubscribeComplete
  grind [Event.isPub, Event.isReport, Event.isControl]

/-- The callback that brings the codes of an UNSUBACK. -/
theorem Frame.unsubscribeAnswer [b.Grants] (h : Frame a b s t) {op : UnsubscribeOp}
    (hlive : t.Live ⟨.unsubscribe, op.id⟩) (status : AsyncOpStatus) (response : CodesResponse) :
    Frame a b s (t.unsubscribeComplete op status (some response)) := by
  unfold Client.unsubscribeComplete
  dsimp only
  split
  · refine (h.opCompleteUnsubscribe hlive).update (.of_eq ?_ rfl rfl rfl rfl rfl fun h => h)
      (.emit (.unsubscribeCb op.id status (some response)) rfl) ?_
    · simp [Client.view, Client.emit, Event.isPub]
    · exact Act.allowed_of rfl fun _ => Scope.Grants.unsubscribed _ _ _
  · exact h.opCompleteUnsubscribe hlive

/-- A reauthentication is reported with what the broker said last. -/
theorem Frame.reauthComplete (h : Frame a b s t) {op : ReauthOp}
    (hlive : t.Live ⟨.reauth, op.id⟩) (status : AsyncOpStatus)
    (response : Option AuthReport) : Frame a b s (t.reauthComplete op status response) := by
  have hdone := h.opCompleteReauth hlive
  unfold Client.reauthComplete
  grind [Event.isPub, Event.isReport, Event.isControl]

/-- The end of the connection is reported. -/
theorem Frame.disconnectReport [b.Ends] (h : Frame a b s t) (reason : BrokerDisconnectReason)
    (info : Option DisconnectInfo) : Frame a b s (t.emit (.brokerDisconnectReport reason info)) := by
  refine h.update (.of_eq ?_ rfl rfl rfl rfl rfl fun h => h) (.emit _ rfl)
    (Act.allowed_of rfl fun _ => Scope.Ends.report reason info)
  simp [Client.view, Client.emit, Event.isPub]

/-- Using an operation behind a pointer. -/
theorem Frame.withOp {α : Type} {op : Option α} {site : Site} {f : α → Client → Client}
    (h : Frame a b s t) (hf : ∀ x, op = some x → Frame a b t (f x t)) :
    Frame a b s (t.withOp op site f) := by
  unfold Client.withOp
  split
  · exact h.fault _ rfl
  · exact h.trans (hf _ rfl)

/-- The verification of a topic writes to the error log and to nothing else. -/
@[grind ←]
theorem Frame.verifyPubTopic (h : Frame a b s t) (env : Env) (topic : Str) (outgoing : Bool) :
    Frame a b s (t.verifyPubTopic env topic outgoing).1 := by
  unfold Client.verifyPubTopic
  grind

/-! ## Connectivity -/

/-- The timers of a connect operation, a reception and a publish are suspended with the connection. -/
theorem Frame.connectivityChanged [b.Resumes] (h : Frame a b s t) (ref : OpRef) :
    Frame a b s (t.connectivityChanged ref) := by
  unfold Client.connectivityChanged
  split
  · refine h.withOp fun op hop => ?_
    unfold connectOpConnectivityChanged
    split
    · exact (Frame.refl a b t).connectComplete (.connect (Keyed.mem_of_find hop).1) _ _
    · exact .refl a b t
  · refine h.withOp fun op hop => ?_
    have howns : t.owns op.responseTimer (.recvTimeout op.id) :=
      ⟨op, (Keyed.mem_of_find hop).1, rfl, rfl⟩
    exact (Frame.refl a b t).timerSetSuspended howns rfl
  · refine h.withOp fun op hop => ?_
    have howns : t.owns op.responseTimer (.sendTimeout op.id) :=
      ⟨op, (Keyed.mem_of_find hop).1, rfl, rfl⟩
    exact (Frame.refl a b t).timerSetSuspended howns rfl
  · exact h

/-- A loop over `m_ops` whose rounds are allowed. -/
theorem Frame.forEachOp {f : OpRef → Client → Client}
    (hf : ∀ ref t, some ref ∈ t.ops → Frame a b t (f ref t))
    (h : Frame a b s t) : Frame a b s (t.forEachOp f) := by
  refine .foldl (fun t idx => ?_) _ h
  unfold visitOp
  split
  · rename_i hget
    exact hf _ _ (List.mem_of_getElem? hget)
  · exact .refl a b t

/-- The session expiry is armed when the connection ends and the session is kept for a while. -/
@[grind ←]
theorem Frame.startSessionExpiry [b.Ends] (h : Frame a b s t) : Frame a b s t.startSessionExpiry := by
  have howns : t.owns t.sessionExpiryTimer .sessionExpiry := rfl
  unfold Client.startSessionExpiry
  split
  · exact h.timerWait _ _ (by simp) howns (fun _ h => nomatch h) fun _ => Scope.Ends.arm
  · exact h

/-- The timer of a stored reception runs again. -/
theorem Frame.postReconnectionResume [b.Resumes] (h : Frame a b s t) {op : RecvOp}
    (hop : op ∈ t.recvOps) : Frame a b s (t.postReconnectionResume op) := by
  have howns : t.owns op.responseTimer (.recvTimeout op.id) := ⟨op, hop, rfl, rfl⟩
  unfold Client.postReconnectionResume recvOpConnectivityChanged
  exact (h.timerSetSuspended howns rfl).timerWait _ _ (by simp) howns nofun nofun

/-- The operation that is terminated is not a publish. -/
theorem Frame.terminateOp (h : Frame a b s t) (env : Env) (status : AsyncOpStatus) {ref : OpRef}
    (hs : ref.type ≠ .send) (hE : ref.type = .keepAlive → b.Ends) (href : some ref ∈ t.ops) :
    Frame a b s (t.terminateOp env status ref) := by
  have hlive : ∀ {type}, ref.type = type → t.Live ⟨type, ref.id⟩ := by
    rintro _ rfl
    exact Or.inl href
  unfold Client.terminateOp
  split
  · exact h.withOp fun op hop =>
      (Frame.refl a b t).connectComplete (.connect (Keyed.mem_of_find hop).1) _ _
  · rename_i htype
    have := hE htype
    exact h.opCompleteKeepAlive (hlive htype)
  · rename_i htype
    exact h.opCompleteDisconnect (hlive htype)
  · exact h.withOp fun op hop =>
      (Frame.refl a b t).subscribeComplete (.subscribe (Keyed.mem_of_find hop).1) _
  · exact h.withOp fun op hop =>
      (Frame.refl a b t).unsubscribeComplete (.unsubscribe (Keyed.mem_of_find hop).1) _
  · rename_i htype
    exact h.opCompleteRecv (hlive htype)
  · rename_i hty
    exact absurd hty hs
  · exact h.withOp fun op hop =>
      (Frame.refl a b t).reauthComplete (.reauth (Keyed.mem_of_find hop).1) _ _

/-- An accepted CONNACK creates the keep alive operation and starts its timers. -/
theorem Frame.createKeepAliveOpIfNeeded (h : Frame a b s t)
    (hb : b.admits (.create .keepAlive) = true) (env : Env)
    (hc : t.sessionState.connected = true) :
    Frame a b s (t.createKeepAliveOpIfNeeded env) := by
  by_cases hops : t.keepAliveOps = []
  · refine h.update ?_ (.createKeepAlive env hops hc) (Act.allowed_of rfl fun _ => hb)
    unfold Client.createKeepAliveOpIfNeeded
    split
    · exact .refl a t
    · split
      · exact (Still.refl a t).fault _ (by simp)
      · dsimp only
        refine Still.setKeepAliveOps (Still.registerOp ?_ (by simp)) _
        have hs := (((((Still.refl a t).timerAlloc env).timerAlloc env).timerAlloc env).assert .timer
          ((t.timerAlloc env).2.isSome && ((t.timerAlloc env).1.timerAlloc env).2.isSome &&
            (((t.timerAlloc env).1.timerAlloc env).1.timerAlloc env).2.isSome) (by simp))
        unfold Client.restartPingTimer
        split
        · exact hs
        · exact hs.timerWait _ _ (by simp)
  · have hne : (!t.keepAliveOps.isEmpty) = true := by simpa using hops
    unfold Client.createKeepAliveOpIfNeeded
    rw [if_pos hne]
    exact h

/-! ## Receptions -/

/-- A refused message is answered with a reason code, except with QoS 0, and its reception goes. -/
theorem Frame.completeNotAuthorized (h : Frame a b s t) (env : Env) {op : RecvOp} {qos : Qos}
    (hlive : t.Live ⟨.recv, op.id⟩) (ht : qos = .atMostOnceDelivery ∨ b.Talks) (packetId : Nat) :
    Frame a b s (t.completeNotAuthorized env op qos packetId) := by
  unfold Client.completeNotAuthorized
  cases qos with
  | atMostOnceDelivery => exact h.opCompleteRecv hlive
  | atLeastOnceDelivery =>
    have : b.Talks := ht.resolve_left (by simp)
    exact (h.post env rfl (by trivial)).opCompleteRecv ((SameOps.post env _ t).live hlive)
  | exactlyOnceDelivery =>
    have : b.Talks := ht.resolve_left (by simp)
    exact (h.post env rfl (by trivial)).opCompleteRecv ((SameOps.post env _ t).live hlive)

/-- A reception waits again for PUBREL. -/
theorem Frame.restartRecvOpTimer (h : Frame a b s t) {op : RecvOp}
    (hop : ∃ x ∈ t.recvOps, x.id = op.id ∧ x.responseTimer = op.responseTimer) :
    Frame a b s (t.restartRecvOpTimer op) := by
  unfold Client.restartRecvOpTimer
  exact h.timerWait _ _ (by simp) hop nofun nofun

/-- A PUBLISH allocates a reception and its timer. -/
theorem Still.registerRecvOp (env : Env) : Still a t (t.registerRecvOp env) := by
  have hs : Still a t ((t.timerAlloc env).1.assert .timer (t.timerAlloc env).2.isSome) :=
    ((Still.refl a t).timerAlloc env).assert _ _ (by simp)
  unfold Client.registerRecvOp
  dsimp only
  exact (hs.registerOp (by simp)).trans (.of_eq rfl rfl rfl rfl rfl rfl fun h => h)

/-- PUBREL did not come in time. -/
theorem Frame.recvOpResponseTimeout (h : Frame a b s t) {op : RecvOp}
    (hlive : t.Live ⟨.recv, op.id⟩) : Frame a b s (t.recvOpResponseTimeout op) :=
  ((h.assert _ _ rfl).errorLog _).opCompleteRecv ((SameOps.assert t _ _).live hlive)

/-! ## Keep alive -/

/-- A sent message is in the log, and arms timers. -/
theorem sendMessage_eq (env : Env) (msg : OutMsg) (source : Option PublishSource) :
    (t.sendMessage env msg source).1 =
      { t with log := (t.sendMessage env msg source).1.log,
               counts := (t.sendMessage env msg source).1.counts,
               timerMgr := (t.sendMessage env msg source).1.timerMgr } := by
  unfold Client.sendMessage
  dsimp only
  split
  · rfl
  · split
    · rfl
    · dsimp only
      rw [keepAliveMessageSent_eq]
      rfl

/-- A message for which no error is expected is in the log, and nothing else changes but the armed timers.
-/
theorem post_eq (env : Env) (msg : OutMsg) : t.post env msg =
    { t with log := (t.post env msg).log, counts := (t.post env msg).counts,
             timerMgr := (t.post env msg).timerMgr } :=
  sendMessage_eq env msg none

/-- PINGRESP stops the timer that waits for it. -/
theorem Frame.keepAliveHandlePingresp (h : Frame a b s t) {op : KeepAliveOp}
    (hop : op ∈ t.keepAliveOps) : Frame a b s (t.keepAliveHandlePingresp op) := by
  have howns : t.owns op.respTimer (.keepAliveResp op.id) := ⟨op, hop, rfl, rfl⟩
  exact (h.timerCancel howns nofun).restartRecvTimer hop

/-- PINGREQ is sent unless the response to the last one is still awaited. -/
theorem Frame.sendPing [b.Talks] (h : Frame a b s t) (env : Env) {op : KeepAliveOp}
    (hop : op ∈ t.keepAliveOps) : Frame a b s (t.sendPing env op) := by
  unfold Client.sendPing
  split
  · exact h
  · refine (h.post env rfl ?_).timerWait _ _ (by simp) ⟨op, by rw [post_eq]; exact hop, rfl, rfl⟩
      nofun nofun
    exact List.ne_nil_of_mem hop

/-! ## The API guard -/

/-- `doApiExit` cleans `m_ops` and programs the next tick. -/
@[grind ←]
theorem Frame.doApiExit (h : Frame a b s t) : Frame a b s t.doApiExit := by
  have h' : Frame a b s { t with apiEnterCount := t.apiEnterCount - 1 } :=
    h.update (.of_eq rfl rfl rfl rfl rfl rfl fun h => h) (.enter _) rfl
  unfold Client.doApiExit
  dsimp only
  split
  · exact h'
  · have hc := h'.cleanOps
    split
    · exact hc.emit rfl rfl rfl
    · exact hc

/-- The restart of a response timer, be the operation live or not. -/
theorem Frame.restartOr {α : Type} {key : α → OpId} {l : List α} {id : OpId} {cb : TimeoutCb}
    (h : Frame a b s t) (type : OpType) (restart : α → Client → Client) (timer : Option Nat) (ms : Nat)
    (hl : t.ids type = l.map key) (hcb : type.responseCb id = some cb) (htype : type ≠ .send)
    (hf : ∀ op ∈ l, key op = id → Frame a b t (restart op t)) (hold : id < t.nextOpId)
    (hb : id ∉ t.ids type → b.admits .stray = true) :
    Frame a b s (t.restartOr (l.find? (fun op => key op == id)) restart timer ms cb) := by
  unfold Client.restartOr
  split
  · rename_i op hop
    obtain ⟨hmem, hid⟩ := Keyed.mem_of_find hop
    exact h.trans (hf op hmem hid)
  · rename_i hnone
    have hdead : id ∉ t.ids type := by
      rw [hl]
      intro hmem
      obtain ⟨op, hop, hid⟩ := List.mem_map.mp hmem
      exact absurd (List.find?_eq_none.mp hnone op hop) (by simp [hid])
    have hsend : ∀ id', cb ≠ .sendTimeout id' := by
      rintro id' rfl
      cases type <;> first | exact htype rfl | cases hcb
    refine (h.fault (.useAfterFree .timer) rfl).update ((Still.refl a _).timerWait timer ms hsend)
      (.strayArm timer ms type id cb hcb hdead hold) (Act.allowed_of rfl fun _ => hb hdead)

/-- The timer of an operation is started behind the API guard, of a destroyed one as well. -/
theorem Frame.startTimer (h : Frame a b s t) (ref : OpRef) (timer : Option Nat) (ms : Nat)
    (hold : ref.id < t.nextOpId) (hb : ref.id ∉ t.ids ref.type → b.admits .stray = true) :
    Frame a b s (t.startTimer ref timer ms) := by
  obtain ⟨type, id⟩ := ref
  have harm : ∀ {timer : Option Nat} {ms : Nat} {cb : TimeoutCb}, type.responseCb id = some cb →
      type ≠ .send → t.owns timer cb → Frame a b t (t.timerWait timer ms cb) := by
    intro timer ms cb hcb htype hown
    refine (Frame.refl a b t).timerWait _ _ ?_ hown ?_ ?_
    all_goals cases type <;> first | exact absurd rfl htype | cases hcb
    all_goals nofun
  unfold Client.startTimer
  cases type with
  | connect =>
    exact h.restartOr .connect _ timer ms rfl rfl nofun
      (fun op hop hid => harm (hid ▸ rfl) nofun ⟨op, hop, rfl, rfl⟩) hold hb
  | subscribe =>
    exact h.restartOr .subscribe _ timer ms rfl rfl nofun
      (fun op hop hid => harm (hid ▸ rfl) nofun ⟨op, hop, rfl, rfl⟩) hold hb
  | unsubscribe =>
    exact h.restartOr .unsubscribe _ timer ms rfl rfl nofun
      (fun op hop hid => harm (hid ▸ rfl) nofun ⟨op, hop, rfl, rfl⟩) hold hb
  | reauth =>
    exact h.restartOr .reauth _ timer ms rfl rfl nofun
      (fun op hop hid => harm (hid ▸ rfl) nofun ⟨op, hop, rfl, rfl⟩) hold hb
  | keepAlive | disconnect | recv | send => exact h

end Client

end Mqtt5
