import Mqtt5Client.Registry

/-!
# Mqtt5Client — the effects of the functions on publishes

Under the registry the functions on a publish have simple effects on the view. Completing one is
removing it from the queue and then resuming postponed ones from its position on, and sending one is
either of the two steps of a first transmission or a failure that changes nothing.
-/

namespace Mqtt5

namespace PubView

variable {v : PubView} {o : SendOp} {id : OpId}

@[simp] theorem setOp_sendOps : (v.setOp o).sendOps = Keyed.set SendOp.id o v.sendOps := rfl
@[simp] theorem setOp_sendRefs : (v.setOp o).sendRefs = v.sendRefs := rfl
@[simp] theorem setOp_inFlightSends : (v.setOp o).inFlightSends = v.inFlightSends := rfl
@[simp] theorem setOp_log : (v.setOp o).log = v.log := rfl
@[simp] theorem push_sendOps {e : Event} : (v.push e).sendOps = v.sendOps := rfl
@[simp] theorem push_sendRefs {e : Event} : (v.push e).sendRefs = v.sendRefs := rfl
@[simp] theorem push_log {e : Event} : (v.push e).log = v.log ++ [e] := rfl
@[simp] theorem setInFlight_sendOps {n : Nat} : (v.setInFlight n).sendOps = v.sendOps := rfl
@[simp] theorem setInFlight_self : v.setInFlight v.inFlightSends = v := rfl
@[simp] theorem eraseOp_sendOps :
    (v.eraseOp id).sendOps = Keyed.erase SendOp.id id v.sendOps := rfl

/-- Changes of a publish that leaves do not matter. -/
theorem setOp_eraseOp (hd : Keyed.Distinct SendOp.id v.sendOps) :
    (v.setOp o).eraseOp o.id = v.eraseOp o.id := by
  simp only [eraseOp, setOp, hd.erase_set]

/-- Of two changes of one publish the second stays. -/
theorem setOp_setOp {o' : SendOp} (hid : o.id = o'.id) :
    (v.setOp o).setOp o' = v.setOp o' := by
  simp only [setOp, Keyed.set_set hid]

/-- Nothing changes. -/
theorem setOp_self (hd : Keyed.Distinct SendOp.id v.sendOps) (hop : o ∈ v.sendOps) :
    v.setOp o = v := by
  simp only [setOp, hd.set_self hop]

end PubView

namespace Client

variable {env : Env} {G : Guard} {a : Bool} {b : Scope} {s t u : Client} {op y : SendOp}

/-! ## Elementary functions -/

/-- Changing one publish. -/
theorem modifySendOp_view (hd : Keyed.Distinct SendOp.id s.sendOps) (hop : op ∈ s.sendOps)
    {f : SendOp → SendOp} (hf : (f op).id = op.id) :
    (s.modifySendOp op.id f).view = s.view.setOp (f op) := by
  have := hd.map_eq_set hop (f := f) hf
  simp only [view, modifySendOp, PubView.setOp] at *
  rw [this]

/-- A modified publish is the one element that shows. -/
theorem modifySendOp_shows (hd : Keyed.Distinct SendOp.id s.sendOps) (hop : op ∈ s.sendOps)
    {f : SendOp → SendOp} (hf : (f op).id = op.id) :
    Shows a s (s.modifySendOp op.id f) (s.view.setOp (f op)) [] :=
  ⟨modifySendOp_view hd hop hf, fun _ h => Or.inr h, Nat.le_refl _,
    fun _ => .of_ops rfl rfl (fun _ h => h) fun h => h⟩

/-- A modification that keeps what publishes owe to others. -/
theorem modifySendOp_eff (hd : Keyed.Distinct SendOp.id s.sendOps) (hop : op ∈ s.sendOps)
    {f : SendOp → SendOp} (hf : op.Keeps (f op)) :
    Eff a b s (s.modifySendOp op.id f) (s.view.setOp (f op)) [] := by
  refine (modifySendOp_shows hd hop hf.id).eff (.setSend op.id f fun x hx hid => ?_) rfl
  obtain rfl := hd.eq hx hop hid
  exact hf

/-- The first transmission. -/
theorem markPublished_shows (hd : Keyed.Distinct SendOp.id s.sendOps) (hop : op ∈ s.sendOps) :
    Shows a s (s.markPublished op.id) ((s.view.setInFlight (s.view.inFlightSends + 1)).setOp
      { op with published := true, sendAttempts := 1 }) [] := by
  refine ⟨?_, fun _ h => Or.inr h, Nat.le_refl _, fun _ => .of_ops rfl rfl (fun _ h => h) fun h => h⟩
  exact modifySendOp_view (s := { s with clientState := { s.clientState with
    inFlightSends := s.clientState.inFlightSends + 1 } }) hd hop rfl

/-- The mark of a transmission and the counter move together. -/
theorem markPublished_eff (hd : Keyed.Distinct SendOp.id s.sendOps) (hop : op ∈ s.sendOps)
    (hpub : op.published = false) :
    Eff a b s (s.markPublished op.id) ((s.view.setInFlight (s.view.inFlightSends + 1)).setOp
      { op with published := true, sendAttempts := 1 }) [] :=
  (markPublished_shows hd hop).eff (.publish op hop hpub) rfl

/-- A publish that was changed is in the queue. -/
theorem Shows.mem_setOp {v : PubView} {ids : List OpId} {x : SendOp}
    (h : Shows a s t (v.setOp x) ids) (hx : x.id ∈ v.sendOps.map SendOp.id) : x ∈ t.sendOps := by
  have hops : t.sendOps = Keyed.set SendOp.id x v.sendOps := h.sendOps_eq
  rw [hops]
  exact (Keyed.mem_set hx).mpr (Or.inl rfl)

/-- One more change of a publish that was changed before. -/
theorem Shows.modify {v : PubView} {ids : List OpId} {x y : SendOp} {id : OpId}
    (h : Shows a s t (v.setOp x) ids) (hd : Keyed.Distinct SendOp.id v.sendOps)
    (hx : x.id ∈ v.sendOps.map SendOp.id) {f : SendOp → SendOp} (hf : f x = y) (hid : x.id = id)
    (hy : y.id = x.id) : Shows a s (t.modifySendOp id f) (v.setOp y) ids := by
  subst hid
  have hops : t.sendOps = Keyed.set SendOp.id x v.sendOps := h.sendOps_eq
  have h₁ := h.trans (modifySendOp_shows (f := f) (hops ▸ hd.set x) (h.mem_setOp hx) (hf ▸ hy))
  rwa [h.view, hf, PubView.setOp_setOp hy.symm, List.append_nil] at h₁

theorem Eff.modify {v : PubView} {ids : List OpId} {x y : SendOp} {id : OpId}
    (h : Eff a b s t (v.setOp x) ids) (hd : Keyed.Distinct SendOp.id v.sendOps)
    (hx : x.id ∈ v.sendOps.map SendOp.id) {f : SendOp → SendOp} (hf : f x = y) (hid : x.id = id)
    (hk : x.Keeps y) : Eff a b s (t.modifySendOp id f) (v.setOp y) ids := by
  refine ⟨h.toShows.modify hd hx hf hid hk.id, h.acts.tail ⟨_, rfl, .setSend id f fun z hz hzid => ?_⟩⟩
  have hops : t.sendOps = Keyed.set SendOp.id x v.sendOps := h.sendOps_eq
  obtain rfl := (hops ▸ hd.set x : Keyed.Distinct SendOp.id t.sendOps).eq hz (h.mem_setOp hx)
    (hzid.trans hid.symm)
  exact hf ▸ hk

theorem sendOp?_eq (hd : Keyed.Distinct SendOp.id s.sendOps) (hop : op ∈ s.sendOps) :
    s.sendOp? op.id = some op :=
  hd.find hop

theorem mem_of_sendOp? {id : OpId} (h : s.sendOp? id = some op) : op ∈ s.sendOps ∧ op.id = id :=
  Keyed.mem_of_find h

/-- Whether a message passes depends on the view only. -/
theorem fits_congr (h : t.view.maxSendPacketSize = s.view.maxSendPacketSize) (msg : OutMsg) :
    t.fits env msg = s.fits env msg := by
  have h : t.sessionState.maxSendPacketSize = s.sessionState.maxSendPacketSize := h
  unfold fits
  rw [h]

/-- `sendMessage` of a message that passes. -/
theorem sendMessage_of_fits {m : OutMsg} {o : Option PublishSource}
    (h : s.fits env m = true) :
    s.sendMessage env m o =
      ((s.emit (.output m o)).keepAliveMessageSent, .success) := by
  unfold fits at h
  unfold sendMessage
  simp only [Bool.and_eq_true, Bool.not_eq_true', Bool.and_eq_false_imp, decide_eq_true_eq,
    decide_eq_false_iff_not] at h
  rw [if_neg (fun hc => h.1 hc.1 hc.2), if_neg (fun hc => h.2 hc.1 hc.2)]

/-- `sendMessage` of a message that does not pass only logs an error. -/
theorem sendMessage_error {m : OutMsg} {o : Option PublishSource} (h : s.fits env m = false) :
    ∃ text ec, ec ≠ .success ∧ s.sendMessage env m o = (s.errorLog text, ec) := by
  unfold sendMessage
  dsimp only
  split
  · exact ⟨_, _, by simp, rfl⟩
  · split
    · exact ⟨_, _, by simp, rfl⟩
    · rename_i h₁ h₂
      unfold fits at h
      simp only [Bool.and_eq_false_imp, Bool.not_eq_true', decide_eq_true_eq, Bool.not_eq_false',
        Bool.and_eq_true, decide_eq_false_iff_not] at h
      exact absurd (h fun h0 hlt => h₁ ⟨h0, hlt⟩) h₂

/-- What does not fit is not sent, and nothing about publishes changes. -/
theorem sendMessage_of_not_fits {m : OutMsg} {o : Option PublishSource}
    (h : s.fits env m = false) :
    (s.sendMessage env m o).2 ≠ .success ∧
      Frame a b s (s.sendMessage env m o).1 := by
  obtain ⟨text, ec, hec, heq⟩ := sendMessage_error (o := o) h
  rw [heq]
  exact ⟨hec, (Frame.refl a b s).errorLog _⟩

theorem emit_shows {e : Event} (he : e.isPub = true) : Shows a s (s.emit e) (s.view.push e) [] :=
  ⟨by simp [view, emit, PubView.push, he], fun _ h => Or.inr h, Nat.le_refl _,
    fun _ => .of_ops rfl rfl (fun _ h => h) fun h => h⟩

theorem emit_eff {e : Event} (he : e.isPub = true) (hg : e.Grounded s := by trivial) :
    Eff a b s (s.emit e) (s.view.push e) [] := by
  have hr : e.isReport = false := by cases e <;> first | rfl | cases he
  have hc : e.isControl = false := e.isControl_of_isPub he
  exact (emit_shows he).eff (.emit e hr hg)
    (Act.allowed_of rfl fun h => absurd (hc.symm.trans h) (by simp))

/-- The state after a `sendMessage` that passes. -/
theorem sendMessage_eff {m : OutMsg} {o : Option PublishSource}
    (he : (Event.output m o).isPub = true) (h : s.fits env m = true)
    (hg : m.Grounded s := by trivial) :
    Eff a b s (s.sendMessage env m o).1 (s.view.push (.output m o)) [] := by
  rw [sendMessage_of_fits h]
  exact (emit_eff he hg).frame (Frame.refl _ _ _).keepAliveMessageSent

/-- Arming the response timer of a publish. -/
theorem restartSendTimer_shows (op : SendOp) :
    Shows a s (s.restartSendTimer op) s.view [op.id] := by
  refine ⟨rfl, ?_, Nat.le_refl _, fun _ => .of_ops rfl rfl (fun _ h => h) fun h => h⟩
  unfold restartSendTimer timerWait sendTimers TimerMgr.wait
  cases op.responseTimer with
  | none => exact fun id hid => Or.inr hid
  | some idx =>
    intro id hid
    obtain ⟨x, hx, hxid⟩ := List.mem_filterMap.mp hid
    obtain ⟨n, hn, rfl⟩ := List.mem_iff_getElem.mp hx
    simp only [TimerMgr.modifySlot, List.getElem_modify] at hxid
    split at hxid
    · simp only [TimerInfo.sendId, Option.some.injEq] at hxid
      exact Or.inl (by simp [hxid])
    · exact Or.inr (List.mem_filterMap.mpr ⟨_, List.getElem_mem _, hxid⟩)

theorem restartSendTimer_eff
    (hop : ∃ x ∈ s.sendOps, x.id = op.id ∧ x.responseTimer = op.responseTimer) :
    Eff a b s (s.restartSendTimer op) s.view [op.id] :=
  (restartSendTimer_shows op).eff (.arm op.responseTimer s.configState.responseTimeoutMs
    (.sendTimeout op.id) hop fun _ h => by cases h) rfl

/-- Arming the response timer of a publish that was changed before. -/
theorem Eff.restartTimer {v : PubView} {ids : List OpId} {x : SendOp}
    (h : Eff a b s t (v.setOp x) ids) (hx : x.id ∈ v.sendOps.map SendOp.id) (hid : y.id = x.id)
    (htimer : y.responseTimer = x.responseTimer) :
    Eff a b s (t.restartSendTimer y) (v.setOp x) (ids ++ [y.id]) := by
  have := h.trans (restartSendTimer_eff (a := a) (b := b) ⟨x, h.mem_setOp hx, hid.symm, htimer.symm⟩)
  rwa [h.view] at this

theorem setInFlight_shows (n : Nat) :
    Shows a s { s with clientState := { s.clientState with inFlightSends := n } }
      (s.view.setInFlight n) [] :=
  ⟨rfl, fun _ h => Or.inr h, Nat.le_refl _, fun _ => .of_ops rfl rfl (fun _ h => h) fun h => h⟩

theorem setSendAliases_eff (table : List TopicAliasInfo) :
    Eff a b s { s with clientState := { s.clientState with sendTopicAliases := table } }
      (s.view.setAliases table) [] := by
  suffices h : Shows a s { s with clientState := { s.clientState with sendTopicAliases := table } }
      (s.view.setAliases table) [] from
    h.eff (.client table) rfl
  exact ⟨rfl, fun _ h => Or.inr h, Nat.le_refl _, fun _ => .of_ops rfl rfl (fun _ h => h) fun h => h⟩

/-! ## Completion -/

/-- A cleared pointer to a publish is one reference less. -/
theorem filterMap_nullify_send (id : OpId) (ops : List (Option OpRef)) :
    (nullify ⟨.send, id⟩ ops).filterMap OpRef.sendId =
      (ops.filterMap OpRef.sendId).erase id := by
  induction ops with
  | nil => rfl
  | cons p ps ih =>
    unfold nullify
    by_cases hp : p = some ⟨.send, id⟩
    · rw [if_pos hp, hp, List.filterMap_cons_none rfl]
      simp [OpRef.sendId]
    · rw [if_neg hp, List.filterMap_cons, List.filterMap_cons, ih]
      cases hs : OpRef.sendId p with
      | none => rfl
      | some id' =>
        have hne : id' ≠ id := by
          rintro rfl
          unfold OpRef.sendId at hs
          grind
        simp [hne]

theorem mem_ops_of_sendRefs {id : OpId} (h : id ∈ s.view.sendRefs) :
    some ⟨.send, id⟩ ∈ s.ops := by
  obtain ⟨p, hp, hid⟩ := List.mem_filterMap.mp h
  unfold OpRef.sendId at hid
  split at hid
  · cases hid
    exact hp
  · cases hid

/-- The first half of `opComplete` for a publish. -/
theorem unregisterOp_shows {id : OpId} (h : s.unregisterOp ⟨.send, id⟩ = some u) :
    Shows a s u { s.view with sendRefs := s.view.sendRefs.erase id } [] := by
  unfold unregisterOp at h
  split at h
  · cases h
    refine ⟨?_, fun _ h => Or.inr h, Nat.le_refl _, fun _ => ⟨rfl, fun h => h, .refl _, fun _ k hk h =>
      mem_nullify (fun hkr => (lockKeys_type hk).2.2 (by rw [hkr])) h⟩⟩
    simp [view, filterMap_nullify_send]
  · cases h

/-- Removal from the queue, with the destruction of the publish. -/
theorem eraseSendOp_shows (op : SendOp) :
    Shows a s (s.eraseSendOp op)
      { s.view with sendOps := Keyed.erase SendOp.id op.id s.sendOps,
                    log := s.view.log ++ [.sendOpErased op.id] } [] := by
  have h : Shows a s ({ s with sendOps := s.sendOps.eraseP (·.id == op.id) }.emit
      (.sendOpErased op.id)) { s.view with
        sendOps := Keyed.erase SendOp.id op.id s.sendOps,
        log := s.view.log ++ [.sendOpErased op.id] } [] :=
    ⟨by simp [view, emit, Event.isPub, Keyed.erase], fun _ h => Or.inr h, Nat.le_refl _,
      fun _ => .of_ops rfl rfl (fun _ h => h) fun h => h⟩
  exact h.still (((Still.refl _ _).releasePacketId _).timerFree _)

/-- A publish leaves its list before its pointer is cleared. -/
theorem eraseSendOp_ops (op : SendOp) (s : Client) : (s.eraseSendOp op).ops = s.ops := by
  have hfree : ∀ (timer : Option Nat) (u : Client), (u.timerFree timer).ops = u.ops :=
    fun timer u => by cases timer <;> rfl
  unfold eraseSendOp
  rw [hfree]
  unfold releasePacketId
  split
  · rfl
  · split <;> rfl

/-- The second half of `opComplete_Send`: nothing is resumed while the session ends. -/
def wakeFrom (wake : Nat → Client → Client) (idx : Nat) (s : Client) : Client :=
  if s.sessionState.disconnecting then s else wake idx s

/-- The position of a publish in the queue. -/
def sendIdx (s : Client) (id : OpId) : Nat := s.sendOps.findIdx (·.id == id)

/-- Positions depend on the identities only. -/
theorem sendIdx_congr (h : t.sendOps.map SendOp.id = s.sendOps.map SendOp.id) (id : OpId) :
    t.sendIdx id = s.sendIdx id := by
  have hmap : ∀ ops : List SendOp,
      ops.findIdx (·.id == id) = (ops.map SendOp.id).findIdx (· == id) := by
    intro ops
    rw [List.findIdx_map]
    rfl
  unfold sendIdx
  rw [hmap, hmap, h]

variable (wake : Nat → Client → Client)

/-- `ClientImpl::opComplete` of a registered publish. -/
theorem opComplete_shows (hd : Keyed.Distinct SendOp.id s.sendOps) (hop : op ∈ s.sendOps)
    (href : op.id ∈ s.view.sendRefs) :
    ∃ u, SendOp.opComplete wake op.id s = wakeFrom wake (s.sendIdx op.id) u ∧
      Shows a s u (s.view.eraseOp op.id) [] ∧ u.ops = nullify ⟨.send, op.id⟩ s.ops ∧
      u = { s with ops := nullify ⟨.send, op.id⟩ s.ops, opsDeleted := true }.eraseSendOp op := by
  have hmem := mem_ops_of_sendRefs href
  obtain ⟨s', hs'⟩ : ∃ s', s.unregisterOp ⟨.send, op.id⟩ = some s' := by
    unfold unregisterOp
    rw [if_pos hmem]
    exact ⟨_, rfl⟩
  have heff := unregisterOp_shows (a := a) hs'
  have hops : s'.sendOps = s.sendOps := heff.sendOps_eq
  have hfind : s'.sendOp? op.id = some op := sendOp?_eq (hops ▸ hd) (hops ▸ hop)
  refine ⟨s'.eraseSendOp op, ?_, ?_, by rw [eraseSendOp_ops, unregisterOp_eq hs'],
    by rw [unregisterOp_eq hs']⟩
  · unfold SendOp.opComplete
    rw [hs']
    dsimp only
    rw [hfind]
    dsimp only
    rw [hops]
    rfl
  · have h := heff.trans (eraseSendOp_shows op)
    rwa [heff.view, hops] at h

/-- The counter of a completion: it goes down for a published one. -/
theorem opCompleteInternal_counter {n : Nat} (hn : t.clientState.inFlightSends =
    if y.published then n + 1 else n) :
    SendOp.opCompleteInternal wake y t = SendOp.opComplete wake y.id
      { t with clientState := { t.clientState with inFlightSends := n } } ∧
    n = if y.published then decU32 t.clientState.inFlightSends else t.clientState.inFlightSends := by
  unfold SendOp.opCompleteInternal
  cases hp : y.published with
  | false =>
    simp only [hp, Bool.false_eq_true, ↓reduceIte] at hn ⊢
    rw [← hn]
    exact ⟨rfl, rfl⟩
  | true =>
    simp only [hp, ↓reduceIte] at hn ⊢
    have hdec : decU32 t.clientState.inFlightSends = n := by
      rw [hn]
      rfl
    -- the counter is not zero
    have hassert : t.assert .opCompleteInternal (decide (0 < t.clientState.inFlightSends)) = t := by
      rw [hn]
      rfl
    rw [hassert, hdec]
    exact ⟨rfl, rfl⟩

/-- `SendOp::opCompleteInternal`: the publish leaves the queue and is no longer counted. -/
theorem opCompleteInternal_eff {v : PubView} {x : SendOp} {n : Nat} (h : Eff a b s t v [])
    (hd : Keyed.Distinct SendOp.id v.sendOps) (hx : x ∈ v.sendOps) (href : x.id ∈ v.sendRefs)
    (hid : y.id = x.id) (hpub : y.published = x.published)
    (hn : v.inFlightSends = if x.published then n + 1 else n) :
    ∃ u, SendOp.opCompleteInternal wake y t = wakeFrom wake (t.sendIdx x.id) u ∧
      Eff a b s u ((v.setInFlight n).eraseOp x.id) [] ∧ u.ops = nullify ⟨.send, x.id⟩ t.ops := by
  have hflight : t.clientState.inFlightSends = v.inFlightSends :=
    congrArg PubView.inFlightSends h.view
  obtain ⟨heq, hcount⟩ := opCompleteInternal_counter (t := t) (y := y) wake
    (by rw [hflight, hn, hpub])
  have hops : t.sendOps = v.sendOps := h.sendOps_eq
  set t' : Client := { t with clientState := { t.clientState with inFlightSends := n } } with ht'
  have hshows : Shows a t t' (t.view.setInFlight n) [] := setInFlight_shows n
  have hreft : x.id ∈ t'.view.sendRefs := by
    show x.id ∈ t.view.sendRefs
    rw [h.view]
    exact href
  have hxt : x ∈ t'.sendOps := hops ▸ hx
  obtain ⟨u, hu, hshows', hnull, hueq⟩ := opComplete_shows (a := a) wake (hops ▸ hd) hxt hreft
  refine ⟨u, ?_, ?_, hnull⟩
  · rw [heq, hid, hu]
    rfl
  · -- the counter and the queue change in one update
    have hall : Shows a t u ((t.view.setInFlight n).eraseOp x.id) [] := hshows.trans hshows'
    have hprim : Prim (.complete ⟨.send, x.id⟩) t (t.destroySendOp x) :=
      .completeSend x (hops ▸ hx) (mem_ops_of_sendRefs hreft)
    have hdestroy : t.destroySendOp x = u := by
      rw [hueq, ht', hcount, hpub]
      rfl
    have h₃ := h.trans (hall.eff (hdestroy ▸ hprim) rfl)
    rwa [h.view] at h₃

/-- A publish that was changed before it is completed leaves the state from before the change. -/
theorem erase_eff {x : SendOp} (hr : Reg s) (hop : op ∈ s.sendOps)
    (h : Eff a b s t (s.view.setOp x) []) (hx : x.id = op.id) (hid : y.id = op.id)
    (hpubx : x.published = op.published) (hpub : y.published = op.published) :
    ∃ u, SendOp.opCompleteInternal wake y t = wakeFrom wake (s.sendIdx op.id) u ∧
      Eff a b s u
        ((s.view.setInFlight (inFlightAfter op s.view.inFlightSends)).eraseOp op.id) [] ∧
      u.ops = nullify ⟨.send, op.id⟩ t.ops := by
  have hd := hr.distinct
  have hmem : x.id ∈ s.sendOps.map SendOp.id := List.mem_map.mpr ⟨op, hop, hx.symm⟩
  have hn : (s.view.setOp x).inFlightSends =
      if x.published then inFlightAfter op s.view.inFlightSends + 1
      else inFlightAfter op s.view.inFlightSends := by
    have hflight := hr.inFlight
    unfold inFlightAfter
    rw [hpubx]
    cases hp : op.published with
    | false => rfl
    | true =>
      have hpos : 0 < s.sendOps.countP (·.published) := List.countP_pos_iff.mpr ⟨op, hop, hp⟩
      simp only [PubView.setOp_inFlightSends, ↓reduceIte]
      omega
  obtain ⟨u, hu, heff, hnull⟩ := opCompleteInternal_eff wake (y := y) (x := x) h (hd.set x)
    ((Keyed.mem_set hmem).mpr (Or.inl rfl)) (by rw [← hr.refs] at hmem; exact hmem)
    (hid.trans hx.symm) (hpub.trans hpubx.symm) hn
  refine ⟨u, ?_, ?_, hx ▸ hnull⟩
  · rw [hu, hx, sendIdx_congr (s := s) (by rw [h.sendOps_eq]; exact Keyed.map_key_set _ _)]
  · rw [← hx]
    have hv := PubView.setOp_eraseOp (o := x)
      (v := s.view.setInFlight (inFlightAfter op s.view.inFlightSends)) hd
    exact hv ▸ heff

/-- Completing a publish that was just transmitted with QoS 0: the counter is as before. -/
theorem deliver_eff {x : SendOp} {e : Event} (hr : Reg s) (hop : op ∈ s.sendOps)
    (h : Eff a b s t (((s.view.push e).setInFlight (s.view.inFlightSends + 1)).setOp x) [])
    (hx : x.id = op.id) (hid : y.id = op.id) (hpubx : x.published = true)
    (hpub : y.published = true) :
    ∃ u, SendOp.opCompleteInternal wake y t = wakeFrom wake (s.sendIdx op.id) u ∧
      Eff a b s u ((s.view.push e).eraseOp op.id) [] := by
  have hd := hr.distinct
  have hmem : x.id ∈ s.sendOps.map SendOp.id := List.mem_map.mpr ⟨op, hop, hx.symm⟩
  obtain ⟨u, hu, heff, -⟩ := opCompleteInternal_eff wake (y := y) (x := x)
    (n := s.view.inFlightSends) h (hd.set x) ((Keyed.mem_set hmem).mpr (Or.inl rfl))
    (by rw [← hr.refs] at hmem; exact hmem) (hid.trans hx.symm) (hpub.trans hpubx.symm)
    (by rw [hpubx]; rfl)
  refine ⟨u, ?_, ?_⟩
  · rw [hu, hx, sendIdx_congr (s := s) (by rw [h.sendOps_eq]; exact Keyed.map_key_set _ _)]
  · rw [← hx]
    have hv := PubView.setOp_eraseOp (o := x) (v := s.view.push e) hd
    exact hv ▸ heff

/-! ## The first transmission -/

section DoSend

variable (hr : Reg s) (hop : op ∈ s.sendOps) (hpub : op.published = false)
  (h : Eff a b s t (s.view.setOp { op with paused := false }) [])

include hr hop h

/-- The state `doSendInternal` hands to `sendMessage`. -/
theorem doSend_begin :
    Eff a b s (t.modifySendOp op.id ({ · with sendAttempts := 0 }))
      (s.view.setOp { op with paused := false, sendAttempts := 0 }) [] :=
  h.modify hr.distinct (List.mem_map.mpr ⟨op, hop, rfl⟩) rfl rfl ⟨rfl, rfl, rfl, rfl, fun _ => rfl, rfl⟩

/-- The packet does not pass: nothing but the publish itself has changed. -/
theorem doSend_of_not_fits (hfits : s.fits env (.publish op.pubMsg) = false) :
    (SendOp.doSendInternal env wake { op with paused := false } t).2 ≠ .success ∧
      Eff a b s (SendOp.doSendInternal env wake { op with paused := false } t).1
        (s.view.setOp { op with paused := false, sendAttempts := 0 }) [] := by
  have h₁ := doSend_begin hr hop h
  have hfits' : (t.modifySendOp op.id ({ · with sendAttempts := 0 })).fits env
      (.publish op.pubMsg) = false := by
    rw [fits_congr (s := s) (by rw [h₁.view]; rfl), hfits]
  obtain ⟨hec, hframe⟩ := sendMessage_of_not_fits (a := a) (b := b) hfits'
    (o := some op.source)
  unfold SendOp.doSendInternal
  dsimp only [SendOp.source] at hec hframe ⊢
  rw [if_pos hec]
  exact ⟨hec, h₁.frame hframe⟩

include hpub

/-- The state after the packet went out, before the response timer is armed or the publish is
completed. -/
theorem doSend_sent (hfits : s.fits env (.publish op.pubMsg) = true) :
    ∃ u, Eff a b s u (((s.view.push (.output (.publish op.pubMsg) (some op.source))).setInFlight
        (s.view.inFlightSends + 1)).setOp
          { op with paused := false, published := true, sendAttempts := 1 }) [] ∧ u.ops = t.ops ∧
      SendOp.doSendInternal env wake { op with paused := false } t =
        if op.qos = .atMostOnceDelivery then
          (SendOp.completeWithCb wake { op with paused := false, published := true } .complete none
            u, .success)
        else (u.restartSendTimer { op with paused := false }, .success) := by
  have h₁ := doSend_begin hr hop h
  set t₁ := t.modifySendOp op.id ({ · with sendAttempts := 0 }) with ht₁
  have hfits' : t₁.fits env (.publish op.pubMsg) = true := by
    rw [fits_congr (s := s) (by rw [h₁.view]; rfl), hfits]
  have hec : (t₁.sendMessage env (.publish op.pubMsg) (some op.source)).2 = .success := by
    rw [sendMessage_of_fits hfits']
  have h₂ := h₁.trans (sendMessage_eff (a := a) (b := b)
    (m := .publish op.pubMsg) (o := some op.source) rfl hfits')
  set t₂ := (t₁.sendMessage env (.publish op.pubMsg) (some op.source)).1 with ht₂
  rw [h₁.view] at h₂
  have hn : t₂.clientState.inFlightSends = s.view.inFlightSends :=
    congrArg PubView.inFlightSends h₂.view
  -- the publish is marked and counted in one update
  set x : SendOp := { op with paused := false, sendAttempts := 0 } with hx
  have hmem : x.id ∈ s.view.sendOps.map SendOp.id := List.mem_map.mpr ⟨op, hop, rfl⟩
  have hops : t₂.sendOps = Keyed.set SendOp.id x s.sendOps := h₂.sendOps_eq
  have hxmem : x ∈ t₂.sendOps := by
    rw [hops]
    exact (Keyed.mem_set hmem).mpr (Or.inl rfl)
  have h₃ := h₂.trans (markPublished_eff (a := a) (b := b) (hops ▸ hr.distinct.set x) hxmem hpub)
  rw [h₂.view] at h₃
  have hv : (((s.view.setOp x).push (.output (.publish op.pubMsg) (some op.source))).setInFlight
      (((s.view.setOp x).push (.output (.publish op.pubMsg) (some op.source))).inFlightSends + 1)).setOp
        { x with published := true, sendAttempts := 1 } =
      ((s.view.push (.output (.publish op.pubMsg) (some op.source))).setInFlight
        (s.view.inFlightSends + 1)).setOp
          { op with paused := false, published := true, sendAttempts := 1 } :=
    PubView.setOp_setOp (o := x)
      (v := (s.view.push (.output (.publish op.pubMsg) (some op.source))).setInFlight
        (s.view.inFlightSends + 1)) rfl
  rw [hv] at h₃
  refine ⟨t₂.markPublished op.id, h₃, ?_, ?_⟩
  · show t₂.ops = t.ops
    rw [ht₂, sendMessage_eq]
    rfl
  unfold SendOp.doSendInternal
  dsimp only [SendOp.source] at hec ⊢
  rw [if_neg (not_not.mpr hec), hpub]
  rfl

end DoSend

end Client

end Mqtt5
