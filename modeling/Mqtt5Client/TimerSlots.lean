import Mqtt5Client.TimerOwners
import Mqtt5Client.Expiry

/-!
# Mqtt5Client — the slot of a timer

What an update makes of the slot that stands for the timer of an operation, as long as the operation is
there: it is armed, cancelled and suspended on behalf of this operation only, and time passes in it.
-/

namespace Mqtt5

open Client

variable {env : Env} {a : Bool} {b : Scope} {act : Act} {s t u : Client} {m m' : TimerMgr} {i : Nat}
  {info info' : TimerInfo} {cb : TimeoutCb}

/-! ## Other slots -/

/-- A slot is as it was, or it was given back. -/
def SlotKept (i : Nat) (m m' : TimerMgr) : Prop :=
  m'.timers[i]? = m.timers[i]? ∨ m'.timers[i]? = some {}

theorem SlotKept.refl (i : Nat) (m : TimerMgr) : SlotKept i m m := Or.inl rfl

/-- A slot that was given back is not in use. -/
theorem SlotKept.same (h : SlotKept i m m') (halloc : ∀ info, m'.timers[i]? = some info → info.allocated = true) :
    m'.timers[i]? = m.timers[i]? := by
  refine h.resolve_right fun hfree => ?_
  have := halloc _ hfree
  cases this

/-- Several timers are given back. -/
theorem SlotKept.freeTimer (h : SlotKept i m m') (timer : Option Nat) :
    SlotKept i m (m'.freeTimer timer) := by
  cases timer with
  | none => exact h
  | some idx =>
    unfold TimerMgr.freeTimer
    dsimp only
    split
    · exact h
    · rename_i hlt
      by_cases heq : idx = i
      · subst heq
        exact Or.inr (List.getElem?_set_self (by omega))
      · unfold SlotKept
        dsimp only
        rw [List.getElem?_set_ne heq]
        exact h

/-- Allocation takes a slot that was not in use. -/
theorem slot_allocTimer (limit : Nat) (hi : m.timers[i]? = some info) (halloc : info.allocated = true) :
    (m.allocTimer limit).1.timers[i]? = some info := by
  rcases TimerMgr.allocTimer_cases limit m with ⟨-, heq⟩ | ⟨idx, -, hfree, -, hrest⟩
  · rw [heq]
    exact hi
  · rw [hrest i, hi]
    rintro rfl
    rw [hfree info hi] at halloc
    cases halloc

/-- A change of another slot. -/
theorem slot_modify_ne {idx : Nat} (h : idx ≠ i) (f : TimerInfo → TimerInfo) :
    (m.modifySlot idx f).timers[i]? = m.timers[i]? :=
  List.getElem?_modify_ne f _ h

/-- A change of the slot. -/
theorem slot_modify (hi : m.timers[i]? = some info) (f : TimerInfo → TimerInfo) :
    (m.modifySlot i f).timers[i]? = some (f info) := by
  show (m.timers.modify i f)[i]? = _
  rw [List.getElem?_modify_eq, hi]
  rfl

/-! ## One update -/

/-- An operation that goes gives its slots back. -/
theorem slotKept_eraseRef (ref : OpRef) (s : Client) : SlotKept i s.timerMgr (eraseRef ref s).timerMgr := by
  have hrelease : ∀ (u : Client) (id : Nat), (u.releasePacketId id).timerMgr = u.timerMgr := by
    intro u id
    rw [releasePacketId_eq]
  obtain ⟨type, id⟩ := ref
  unfold Mqtt5.eraseRef
  cases type with
  | send => exact .refl i _
  | disconnect =>
    dsimp only
    unfold Client.eraseDisconnectOp
    split <;> exact .refl i _
  | connect =>
    dsimp only
    unfold Client.eraseConnectOp
    split
    · exact .refl i _
    · exact (SlotKept.refl i _).freeTimer _
  | subscribe =>
    dsimp only
    unfold Client.eraseSubscribeOp
    split
    · exact .refl i _
    · refine SlotKept.freeTimer (Or.inl ?_) _
      rw [hrelease]
  | unsubscribe =>
    dsimp only
    unfold Client.eraseUnsubscribeOp
    split
    · exact .refl i _
    · refine SlotKept.freeTimer (Or.inl ?_) _
      rw [hrelease]
  | recv =>
    dsimp only
    unfold Client.eraseRecvOp
    split
    · exact .refl i _
    · exact (SlotKept.refl i _).freeTimer _
  | reauth =>
    dsimp only
    unfold Client.eraseReauthOp
    split
    · exact .refl i _
    · exact (SlotKept.refl i _).freeTimer _
  | keepAlive =>
    dsimp only
    unfold Client.eraseKeepAliveOp
    split
    · exact .refl i _
    · exact (((SlotKept.refl i _).freeTimer _).freeTimer _).freeTimer _

/-- What one update makes of the slot that belongs to `cb`. -/
inductive SlotStep (s : Client) (cb : TimeoutCb) (info : TimerInfo) : Act → TimerInfo → Prop
  | same {act : Act} : SlotStep s cb info act info
  | arm (ms : Nat) : SlotStep s cb info (.arm cb) { info with timeoutMs := ms, timeoutCb := some cb }
  | disarm : SlotStep s cb info (.disarm cb) info.cancel
  | suspend (hcb : cb.isSuspended = true) (harmed : info.timeoutCb.isSome = true) :
      SlotStep s cb info .suspend { info with
        suspended := !s.sessionState.connected || s.clientState.networkDisconnected }
  | expire (ms : Nat) : SlotStep s cb info .expire (info.advance ms)
  /-- A `send` function arms the slot that its operation had. -/
  | stray (ms : Nat) (cb' : TimeoutCb) (hcb' : ∃ ref, cb'.ref = some ref) :
      SlotStep s cb info .stray { info with timeoutMs := ms, timeoutCb := some cb' }

/-- The slot is one of the slots in use. -/
theorem TimersOk.slot {gone : TimeoutCb → Prop} (hs : TimersOk gone s) (hown : s.owns (some i) cb)
    (hi : s.timerMgr.timers[i]? = some info) : info.allocated = true := by
  obtain ⟨x, hx, halloc⟩ := SlotsOk.slot hs hown
  rw [hi] at hx
  rw [Option.some.inj hx]
  exact halloc

/-- The slot of a timer after an update that leaves its operation. -/
theorem Prim.slotStep (h : Prim act s t) (hreg : Registered s) (hs : TimersOk s.Gone s)
    (hown : s.owns (some i) cb) (hkept : t.owns (some i) cb)
    (hi : s.timerMgr.timers[i]? = some info) :
    ∃ info', t.timerMgr.timers[i]? = some info' ∧ SlotStep s cb info act info' := by
  have halloc := hs.slot hown hi
  have ht : TimersOk s.Gone t := h.timersOk hreg (fun _ _ hgone => hgone) hs
  have hsame : t.timerMgr.timers[i]? = s.timerMgr.timers[i]? →
      ∃ info', t.timerMgr.timers[i]? = some info' ∧ SlotStep s cb info act info' := fun heq =>
    ⟨info, heq.trans hi, .same⟩
  -- a slot that is still owned was not given back
  have hfreed : SlotKept i s.timerMgr t.timerMgr →
      ∃ info', t.timerMgr.timers[i]? = some info' ∧ SlotStep s cb info act info' := fun hk =>
    hsame (hk.same fun x hx => ht.slot hkept hx)
  -- the slot of another owner is another one
  have hother : ∀ {timer : Option Nat} {cb' : TimeoutCb} {idx : Nat}, s.owns timer cb' → timer = some idx →
      idx = i → cb' = cb := by
    rintro timer cb' idx hown' rfl rfl
    exact SlotsOk.inj hs hown' hown
  have hassert : ∀ (u : Client) (c : Bool), (u.assert .timer c).timerMgr = u.timerMgr := by
    intro u c
    obtain ⟨faults, heq⟩ := assert_eq .timer c u
    rw [heq]
  have hrelease : ∀ (u : Client) (id : Nat), (u.releasePacketId id).timerMgr = u.timerMgr := by
    intro u id
    rw [releasePacketId_eq]
  cases h with
  | arm timer ms cb' hown' =>
    cases timer with
    | none => exact hsame rfl
    | some idx =>
      by_cases heq : idx = i
      · obtain rfl := hother hown' rfl heq
        subst heq
        exact ⟨_, slot_modify hi _, .arm ms⟩
      · exact hsame (slot_modify_ne heq _)
  | disarm timer cb' hown' =>
    cases timer with
    | none => exact hsame rfl
    | some idx =>
      by_cases heq : idx = i
      · obtain rfl := hother hown' rfl heq
        subst heq
        exact ⟨_, slot_modify hi _, .disarm⟩
      · exact hsame (slot_modify_ne heq _)
  | suspend timer cb' hown' hcb =>
    cases timer with
    | none => exact hsame rfl
    | some idx =>
      unfold timerSetSuspended TimerMgr.setSuspended at hsame ⊢
      dsimp only at hsame ⊢
      split
      · rename_i hactive
        by_cases heq : idx = i
        · obtain rfl := hother hown' rfl heq
          subst heq
          refine ⟨_, slot_modify hi _, .suspend hcb ?_⟩
          unfold TimerMgr.isActive at hactive
          rw [Option.bind_some, hi] at hactive
          exact hactive
        · exact ⟨info, (slot_modify_ne heq _).trans hi, .same⟩
      · exact ⟨info, hi, .same⟩
  | expire ms =>
    refine ⟨info.advance ms, ?_, .expire ms⟩
    show (s.timerMgr.timers.map (·.advance ms))[i]? = _
    rw [List.getElem?_map, hi]
    rfl
  | strayArm timer ms type id cb' hcb' =>
    cases timer with
    | none => exact hsame rfl
    | some idx =>
      by_cases heq : idx = i
      · subst heq
        exact ⟨_, slot_modify hi _, .stray ms cb' ⟨_, ref_responseCb hcb'⟩⟩
      · exact hsame (slot_modify_ne heq _)
  | probe env =>
    refine hfreed (SlotKept.freeTimer (Or.inl ?_) _)
    rw [hassert]
    exact (slot_allocTimer _ hi halloc).trans hi.symm
  | createConnect | createSubscribe | createUnsubscribe | createReauth =>
    exact hsame ((slot_allocTimer _ hi halloc).trans hi.symm)
  | createSend env =>
    refine hsame ?_
    show ((s.timerAlloc env).1.assert .timer (s.timerAlloc env).2.isSome).timerMgr.timers[i]? = _
    rw [hassert]
    exact (slot_allocTimer _ hi halloc).trans hi.symm
  | createRecv env =>
    refine hsame ?_
    show ((s.timerAlloc env).1.assert .timer (s.timerAlloc env).2.isSome).timerMgr.timers[i]? = _
    rw [hassert]
    exact (slot_allocTimer _ hi halloc).trans hi.symm
  | createKeepAlive env hnil =>
    have hping := slot_allocTimer env.cfg.timersLimit hi halloc
    have hrecv := slot_allocTimer env.cfg.timersLimit hping halloc
    have hresp := slot_allocTimer env.cfg.timersLimit hrecv halloc
    refine hsame (Eq.trans ?_ hi.symm)
    unfold createKeepAliveOpIfNeeded
    rw [if_neg (by simp [hnil])]
    split
    · exact hi
    · dsimp only
      show ((Client.assert .timer _ _).restartPingTimer _).timerMgr.timers[i]? = _
      unfold restartPingTimer
      split
      · rw [hassert]
        exact hresp
      · -- the ping timer of the new operation has a slot of its own
        unfold timerWait TimerMgr.wait
        dsimp only
        split
        · rw [hassert]
          exact hresp
        · rename_i idx hidx
          rw [slot_modify_ne, hassert]
          · exact hresp
          · intro heq
            rcases TimerMgr.allocTimer_cases env.cfg.timersLimit s.timerMgr with
              ⟨hnone, -⟩ | ⟨new, hnew, hfree, -, -⟩
            · have : (none : Option Nat) = some idx := hnone.symm.trans hidx
              cases this
            · have hnewi : new = i := (Option.some.inj (hnew.symm.trans hidx)).trans heq
              rw [hfree info (hnewi ▸ hi)] at halloc
              cases halloc
  | takeSubscribe env | takeUnsubscribe env | takeSend env =>
    refine hsame ?_
    show (s.allocPacketId env).1.timerMgr.timers[i]? = _
    rw [allocPacketId_same]
  | complete ref =>
    rcases completeRef_cases ref s with heq | heq | ⟨hmem, heq⟩
    · exact hsame (by rw [heq])
    · exact hsame (by rw [heq]; rfl)
    · refine hfreed ?_
      rw [heq]
      exact slotKept_eraseRef ref _
  | completeSend op hop href =>
    refine hfreed ?_
    unfold Client.destroySendOp Client.eraseSendOp
    refine SlotKept.freeTimer (Or.inl ?_) _
    rw [hrelease]
    rfl
  | unlock => exact hsame (by rw [(allowNextPrepare_eq s).choose_spec])
  | clean =>
    unfold Client.cleanOps at hsame ⊢
    split
    · exact ⟨info, hi, .same⟩
    · exact ⟨info, hi, .same⟩
  | _ => exact hsame rfl

/-! ## The timer of the client -/

/-- The session expiry has its slot for good. -/
theorem Prim.sessionExpiryTimer (h : Prim act s t) : t.sessionExpiryTimer = s.sessionExpiryTimer := by
  have hassert : ∀ (u : Client) (site : Site) (c : Bool),
      (u.assert site c).sessionExpiryTimer = u.sessionExpiryTimer := by
    intro u site c
    obtain ⟨faults, heq⟩ := assert_eq site c u
    rw [heq]
  have halloc : ∀ env : Env, (s.allocPacketId env).1.sessionExpiryTimer = s.sessionExpiryTimer :=
    fun env => by rw [allocPacketId_same]
  cases h with
  | probe env => exact hassert _ _ _
  | createSend env h => exact hassert _ _ _
  | createRecv env => exact hassert _ _ _
  | createKeepAlive env hnil hcon =>
    rcases createKeepAliveOpIfNeeded_cases env hnil with heq | ⟨c, m, op, -, heq⟩
    · rw [heq]
      rfl
    · rw [heq]
      exact hassert s .timer c
  | unlock => exact hassert s _ _
  | takeSubscribe env op hop => exact halloc env
  | takeUnsubscribe env op hop => exact halloc env
  | takeSend env op x hop hx => exact halloc env
  | complete ref => exact (SameSession.completeRef ref s).sessionExpiryTimer
  | completeSend op hop href =>
    unfold destroySendOp eraseSendOp
    rw [releasePacketId_eq]
    rfl
  | clean =>
    unfold cleanOps
    split <;> rfl
  | _ => rfl

end Mqtt5
