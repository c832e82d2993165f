import Mqtt5Client.TimerOwners
import Mqtt5Client.Sessions

/-!
# Mqtt5Client — the session expiry timer

The timer that ends a stored session only runs between two connections. A disconnection arms it, an
accepted CONNACK cancels it, and a timeout that was collected before the CONNACK is carried out before
any data is handled: so the expiry of an earlier session never ends the operations of a later one, and
`sessionExpiryTimeoutInternal` finds the client disconnected, as it asserts.
-/

namespace Mqtt5

open Client

variable {env : Env} {ok : Sys → Label → Prop} {a : Bool} {b : Scope} {act : Act} {s t u : Client}
  {sys sys' : Sys} {l : Label} {m : TimerMgr} {cb cb' : TimeoutCb}

/-! ## Armed callbacks -/

/-- Some slot is armed with the callback. -/
def TimerMgr.Calls (m : TimerMgr) (cb : TimeoutCb) : Prop := ∃ info ∈ m.timers, info.timeoutCb = some cb

namespace TimerMgr

/-- A slot that does not get the callback. -/
theorem Calls.modifySlot {idx : Nat} {f : TimerInfo → TimerInfo} (h : (m.modifySlot idx f).Calls cb)
    (hf : ∀ info, (f info).timeoutCb = some cb → info.timeoutCb = some cb) : m.Calls cb := by
  obtain ⟨info', hinfo, hcb⟩ := h
  obtain ⟨i, hi, rfl⟩ := List.mem_iff_getElem.mp hinfo
  have hi : i < (m.timers.modify idx f).length := hi
  have hcb : (m.timers.modify idx f)[i].timeoutCb = some cb := hcb
  have hlt : i < m.timers.length := by simpa using hi
  refine ⟨m.timers[i], List.getElem_mem hlt, ?_⟩
  rw [List.getElem_modify] at hcb
  split at hcb
  · exact hf _ hcb
  · exact hcb

/-- An armed timer calls back with what it was given. -/
theorem Calls.wait {timer : Option Nat} {ms : Nat} (h : (m.wait timer ms cb').Calls cb) :
    m.Calls cb ∨ cb = cb' := by
  by_cases heq : cb = cb'
  · exact Or.inr heq
  · left
    cases timer with
    | none => exact h
    | some idx => exact h.modifySlot fun info hcb => absurd (Option.some.inj hcb).symm heq

/-- A cancelled timer calls nothing. -/
theorem Calls.cancel {timer : Option Nat} (h : (m.cancel timer).Calls cb) : m.Calls cb := by
  cases timer with
  | none => exact h
  | some idx => exact h.modifySlot fun info hcb => by cases hcb

theorem Calls.setSuspended {timer : Option Nat} {down : Bool}
    (h : (m.setSuspended timer down).Calls cb) : m.Calls cb := by
  cases timer with
  | none => exact h
  | some idx =>
    unfold TimerMgr.setSuspended at h
    dsimp only at h
    split at h
    · exact h.modifySlot fun _ hcb => hcb
    · exact h

/-- Nor does one that expired. -/
theorem Calls.expire {ms : Nat} (h : (m.expire ms).1.Calls cb) : m.Calls cb := by
  obtain ⟨info', hinfo, hcb⟩ := h
  obtain ⟨info, hold, rfl⟩ := List.mem_map.mp hinfo
  rcases (TimerInfo.advance_cases ms info).2.2 with hnone | hsame
  · rw [hnone] at hcb
    cases hcb
  · exact ⟨info, hold, hsame ▸ hcb⟩

/-- A new slot calls nothing. -/
theorem Calls.allocTimer {limit : Nat} (h : (m.allocTimer limit).1.Calls cb) : m.Calls cb := by
  obtain ⟨-, heq, -⟩ | ⟨idx, info, -, -, heq⟩ | ⟨-, heq⟩ := allocTimer_inv limit m
  · rw [heq] at h
    exact h
  · rw [heq] at h
    have hmod : (m.modifySlot idx fun x => { x with allocated := true }).Calls cb := h
    exact hmod.modifySlot fun _ hcb => hcb
  · rw [heq] at h
    obtain ⟨info, hinfo, hcb⟩ := h
    rcases List.mem_append.mp hinfo with hinfo | hinfo
    · exact ⟨info, hinfo, hcb⟩
    · rw [List.mem_singleton.mp hinfo] at hcb
      cases hcb

theorem Calls.freeTimer {timer : Option Nat} (h : (m.freeTimer timer).Calls cb) : m.Calls cb := by
  cases timer with
  | none => exact h
  | some idx =>
    unfold TimerMgr.freeTimer at h
    dsimp only at h
    split at h
    · exact h
    · obtain ⟨info, hinfo, hcb⟩ := h
      rcases List.mem_or_eq_of_mem_set hinfo with hinfo | rfl
      · exact ⟨info, hinfo, hcb⟩
      · cases hcb

end TimerMgr

/-! ## One update -/

theorem calls_assert {site : Site} {c : Bool} (h : (s.assert site c).timerMgr.Calls cb) :
    s.timerMgr.Calls cb := by
  obtain ⟨faults, heq⟩ := assert_eq site c s
  rw [heq] at h
  exact h

theorem calls_releasePacketId {id : Nat} (h : (s.releasePacketId id).timerMgr.Calls cb) :
    s.timerMgr.Calls cb := by
  rw [releasePacketId_eq] at h
  exact h

/-- An operation that goes frees its timers. -/
theorem calls_eraseRef {ref : OpRef} (h : (eraseRef ref s).timerMgr.Calls cb) : s.timerMgr.Calls cb := by
  obtain ⟨type, id⟩ := ref
  unfold Mqtt5.eraseRef at h
  cases type with
  | send => exact h
  | disconnect =>
    dsimp only at h
    unfold Client.eraseDisconnectOp at h
    split at h <;> exact h
  | connect =>
    dsimp only at h
    unfold Client.eraseConnectOp at h
    split at h
    · exact h
    · exact h.freeTimer
  | subscribe =>
    dsimp only at h
    unfold Client.eraseSubscribeOp at h
    split at h
    · exact h
    · have hfree := h.freeTimer
      have hold := calls_releasePacketId hfree
      exact hold
  | unsubscribe =>
    dsimp only at h
    unfold Client.eraseUnsubscribeOp at h
    split at h
    · exact h
    · have hfree := h.freeTimer
      have hold := calls_releasePacketId hfree
      exact hold
  | recv =>
    dsimp only at h
    unfold Client.eraseRecvOp at h
    split at h
    · exact h
    · exact h.freeTimer
  | reauth =>
    dsimp only at h
    unfold Client.eraseReauthOp at h
    split at h
    · exact h
    · exact h.freeTimer
  | keepAlive =>
    dsimp only at h
    unfold Client.eraseKeepAliveOp at h
    split at h
    · exact h
    · exact h.freeTimer.freeTimer.freeTimer

/-- Only `arm` arms a timer, but for the ping timer of a new keep alive operation and the response timer
that a `send` function starts for an operation which is gone. -/
theorem Prim.calls (h : Prim act s t) (hcb : t.timerMgr.Calls cb) :
    s.timerMgr.Calls cb ∨ act = .arm cb ∨ ∃ ref, cb.ref = some ref := by
  have htake : ∀ env : Env, (s.allocPacketId env).1.timerMgr = s.timerMgr := fun env => by
    rw [allocPacketId_same]
  cases h with
  | arm timer ms cb' =>
    rcases TimerMgr.Calls.wait hcb with h | rfl
    · exact Or.inl h
    · exact Or.inr (Or.inl rfl)
  | disarm => exact Or.inl (TimerMgr.Calls.cancel hcb)
  | suspend => exact Or.inl (TimerMgr.Calls.setSuspended hcb)
  | expire => exact Or.inl (TimerMgr.Calls.expire hcb)
  | probe env =>
    have hcb : ((s.timerAlloc env).1.assert .timer (s.timerAlloc env).2.isSome).timerMgr.Calls cb :=
      TimerMgr.Calls.freeTimer hcb
    exact Or.inl (calls_assert hcb).allocTimer
  | createConnect | createSubscribe | createUnsubscribe | createReauth =>
    exact Or.inl (TimerMgr.Calls.allocTimer hcb)
  | createSend env =>
    have hcb : ((s.timerAlloc env).1.assert .timer (s.timerAlloc env).2.isSome).timerMgr.Calls cb := hcb
    exact Or.inl (calls_assert hcb).allocTimer
  | createRecv env =>
    have hcb : ((s.timerAlloc env).1.assert .timer (s.timerAlloc env).2.isSome).timerMgr.Calls cb := hcb
    exact Or.inl (calls_assert hcb).allocTimer
  | createKeepAlive env hnil =>
    unfold Client.createKeepAliveOpIfNeeded at hcb
    rw [if_neg (by simp [hnil])] at hcb
    split at hcb
    · exact Or.inl hcb
    · dsimp only at hcb
      unfold Client.restartPingTimer at hcb
      split at hcb
      · exact Or.inl (calls_assert hcb).allocTimer.allocTimer.allocTimer
      · rcases TimerMgr.Calls.wait hcb with hcb | rfl
        · exact Or.inl (calls_assert hcb).allocTimer.allocTimer.allocTimer
        · exact Or.inr (Or.inr ⟨_, rfl⟩)
  | strayArm timer ms type id cb' hcb' =>
    rcases TimerMgr.Calls.wait hcb with h | rfl
    · exact Or.inl h
    · exact Or.inr (Or.inr ⟨_, ref_responseCb hcb'⟩)
  | takeSubscribe env =>
    have hcb : (s.allocPacketId env).1.timerMgr.Calls cb := hcb
    exact Or.inl (htake env ▸ hcb)
  | takeUnsubscribe env =>
    have hcb : (s.allocPacketId env).1.timerMgr.Calls cb := hcb
    exact Or.inl (htake env ▸ hcb)
  | takeSend env =>
    have hcb : (s.allocPacketId env).1.timerMgr.Calls cb := hcb
    exact Or.inl (htake env ▸ hcb)
  | complete ref =>
    rcases completeRef_cases ref s with heq | heq | ⟨hmem, heq⟩
    · exact Or.inl (heq ▸ hcb)
    · rw [heq] at hcb
      exact Or.inl hcb
    · rw [heq] at hcb
      have hold := calls_eraseRef hcb
      exact Or.inl hold
  | completeSend op hop href =>
    have hcb : (eraseSendOp op (s.releaseSendOp op)).timerMgr.Calls cb := hcb
    unfold Client.eraseSendOp at hcb
    have hfree := TimerMgr.Calls.freeTimer hcb
    have hold := calls_releasePacketId hfree
    exact Or.inl hold
  | unlock => exact Or.inl (calls_assert hcb)
  | clean =>
    unfold Client.cleanOps at hcb
    split at hcb <;> exact Or.inl hcb
  | _ => exact Or.inl hcb

/-! ## Connections -/

/-- Only the end of a connection arms the session expiry. -/
theorem Acts.calls (h : Acts a b s t) (hb : b.admits (.arm .sessionExpiry) = false)
    (hs : ¬s.timerMgr.Calls .sessionExpiry) : ¬t.timerMgr.Calls .sessionExpiry := by
  refine h.invariant (P := fun u => ¬u.timerMgr.Calls .sessionExpiry) (fun hp hact hu hcalls => ?_) hs
  rcases hp.calls hcalls with hold | rfl | ⟨ref, heq⟩
  · exact hu hold
  · have hadmits := (Act.allowed_iff.mp hact).2 rfl
    rw [hb] at hadmits
    cases hadmits
  · cases heq

/-- The session expiry belongs to the client, which is never gone. -/
theorem not_gone_sessionExpiry (s : Client) : ¬s.Gone .sessionExpiry := by
  rintro ⟨ref, href, -⟩
  cases href

/-- `brokerConnected` cancels the timer, which is the only one with this callback. -/
theorem markConnected_calls {gone : TimeoutCb → Prop} (hs : TimersOk gone s)
    (hnone : ¬gone .sessionExpiry) : ¬s.markConnected.timerMgr.Calls .sessionExpiry := by
  intro hcalls
  have hcalls : (s.timerMgr.cancel s.sessionExpiryTimer).Calls .sessionExpiry := hcalls
  have howner : ∀ i info, s.timerMgr.timers[i]? = some info → info.timeoutCb = some .sessionExpiry →
      s.sessionExpiryTimer = some i := fun i info hget hcb => by
    rcases SlotsOk.armed hs hget hcb with howns | hgone
    · exact howns.symm
    · exact absurd hgone hnone
  obtain ⟨info, hinfo, hcb⟩ := hcalls
  cases htimer : s.sessionExpiryTimer with
  | none =>
    rw [htimer] at hinfo
    obtain ⟨i, hi, rfl⟩ := List.mem_iff_getElem.mp hinfo
    have howned := howner i _ (List.getElem?_eq_getElem hi) hcb
    rw [htimer] at howned
    cases howned
  | some idx =>
    rw [htimer] at hinfo
    obtain ⟨i, hi, rfl⟩ := List.mem_iff_getElem.mp hinfo
    have hi : i < (s.timerMgr.timers.modify idx TimerInfo.cancel).length := hi
    have hcb : (s.timerMgr.timers.modify idx TimerInfo.cancel)[i].timeoutCb = some .sessionExpiry := hcb
    have hlt : i < s.timerMgr.timers.length := by simpa using hi
    rw [List.getElem_modify] at hcb
    split at hcb
    · cases hcb
    · rename_i hne
      have howned := howner i _ (List.getElem?_eq_getElem hlt) hcb
      rw [htimer] at howned
      exact hne (Option.some.inj howned)

/-- An accepted CONNACK cancels it. -/
theorem connackConnected_calls {op : ConnectOp} (hs : TimersOk s.Gone s) (hop : op ∈ s.connectOps)
    (msg : ConnackMsg) : ¬(s.connackConnected env op msg).timerMgr.Calls .sessionExpiry := by
  have howns : s.owns op.timer (.connectTimeout op.id) := ⟨op, hop, rfl, rfl⟩
  have hcancel : TimersOk s.Gone (s.timerCancel op.timer) := .slots (SlotsOk.cancel hs howns)
  unfold connackConnected
  dsimp only
  refine markConnected_calls (hcancel.same ?_ ?_) (not_gone_sessionExpiry s)
  · unfold storeAliasMax
    split <;> exact ⟨rfl, rfl, rfl, rfl, rfl, rfl, rfl, rfl⟩
  · unfold storeAliasMax
    split <;> rfl

/-- Whatever CONNACK is handled, a client that is connected behind it has the timer at rest. -/
theorem handleConnack_calls (hr : Reg s) (hl : LockReg s) (hreg : Registered s)
    (htimers : TimersOk s.Gone s)
    (hs : s.sessionState.connected = true → ¬s.timerMgr.Calls .sessionExpiry) (msg : ConnackMsg)
    (hup : (s.handle env (.connack msg)).sessionState.connected = true) :
    ¬(s.handle env (.connack msg)).timerMgr.Calls .sessionExpiry := by
  have hwithin : ∀ {u v : Client}, Frame true .bare u v → Acts true .within u v :=
    fun h => h.acts.mono (by simp) (Scope.bare_le _)
  have hkeeps : Acts true .within s (s.handle env (.connack msg)) →
      ¬(s.handle env (.connack msg)).timerMgr.Calls .sessionExpiry := fun h =>
    h.calls rfl (hs (h.steady.connected ▸ hup))
  cases handleConnack_dispatched env hr hl msg with
  | before h heq => exact hkeeps (hwithin h)
  | handled u op hop hpre heq hcon hpost hgone =>
    have hmem : op ∈ u.connectOps := by rw [heq]; exact hop
    cases hacc : connackAccepted env op msg with
    | true =>
      have hu : TimersOk u.Gone u := (hwithin hpre).timersOk hreg htimers
      have hrest := (connectHandleConnack_within (b := .within) (hpre.reg hr) hmem hacc).trans
        (hwithin hpost)
      exact Acts.calls hrest rfl (connackConnected_calls hu hmem msg)
    | false =>
      rcases connectHandleConnack_unaccepted (b := .within) hmem hacc with h | ⟨v, hv, hreset⟩
      · exact hkeeps ((hwithin hpre).trans (h.trans (hwithin hpost)))
      · -- a refusal resets the session
        rw [(Acts.steady (hreset.trans (hwithin hpost))).connected] at hup
        cases hup

/-! ## Every run -/

/-- The expiry of a session concerns no connection. -/
structure ExpiryOk (sys : Sys) : Prop where
  armed : sys.client.sessionState.connected = true → ¬sys.client.timerMgr.Calls .sessionExpiry
  pending : .timeout .sessionExpiry ∈ sys.pending → sys.client.sessionState.connected = false

/-- The timer of a client that is connected behind a step. -/
theorem step_armed (hw : SysWf sys) (hreg : Registered sys.client)
    (htimers : TimersOk sys.client.Gone sys.client)
    (hstep : sys.step env l = some sys') (h : ExpiryOk sys)
    (hup : sys'.client.sessionState.connected = true) : ¬sys'.client.timerMgr.Calls .sessionExpiry := by
  cases step_conn hw hreg hstep with
  | keeps hk => exact hk.calls rfl (h.armed (hk.steady.connected ▸ hup))
  | ends u reason status info hu hd ht =>
    rw [hd.session] at hup
    cases hup
  | connack msg hmsg hc =>
    obtain ⟨frames, rfl, hhead, hclient⟩ := inMsg_step hstep hmsg
    rw [hclient] at hup ⊢
    exact handleConnack_calls hw.reg hw.lock hreg htimers h.armed msg hup
  | network hl hhead ht =>
    rw [ht] at hup ⊢
    rcases networkDown_cases env hw.reg hreg with ⟨-, heq⟩ | hd
    · rw [heq] at hup ⊢
      exact h.armed hup
    · rw [hd.session] at hup
      cases hup
  | prepare elapsed hl ht =>
    obtain ⟨log, counts, heq⟩ := beginConnectPrepare_client elapsed sys.client
    rw [ht, heq] at hup ⊢
    exact h.armed hup
  | initial hl hhead ht =>
    rw [ht] at hup ⊢
    unfold initInternal at hup ⊢
    split at hup
    · rename_i hfail
      rw [if_pos hfail]
      exact h.armed hup
    · rename_i hset
      rw [if_neg hset]
      split at hup
      · rename_i hfail
        rw [if_pos hfail]
        exact h.armed hup
      · cases hup

/-- No timeout is left of a call that has come to its data. -/
theorem frames_timeout {frames : List InputFrame} {rest : List Task}
    (h : Shape (.frames frames :: rest)) : .timeout cb ∉ (s.runTask env (.frames frames)).2 ++ rest := by
  intro hmem
  rcases List.mem_append.mp hmem with hmem | hmem
  · cases frames with
    | nil => cases hmem
    | cons frame frames =>
      unfold runTask at hmem
      dsimp only at hmem
      split at hmem <;> simp at hmem
  · cases h.front with
    | entry es htask => cases htask
    | body hbody => cases hbody
    | rest hrest =>
      cases hrest
      simp at hmem

/-- Only a CONNACK connects, and no timeout is left of the call when data is handled. -/
theorem step_pendingExpiry (hw : SysWf sys) (hreg : Registered sys.client)
    (hstep : sys.step env l = some sys') (h : ExpiryOk sys)
    (hmem : .timeout .sessionExpiry ∈ sys'.pending) : sys'.client.sessionState.connected = false := by
  have hoff : sys.client.sessionState.connected = false := by
    rcases step_timeout hstep hmem with hold | hcalls
    · exact h.pending hold
    · by_contra hon
      exact h.armed (by simpa using hon) hcalls
  cases step_conn hw hreg hstep with
  | keeps hk => exact hk.steady.connected.trans hoff
  | ends u reason status info hu hd ht => rw [hd.session]
  | connack msg hmsg hc =>
    exfalso
    obtain ⟨frames, rfl, hhead, -⟩ := inMsg_step hstep hmsg
    obtain ⟨task, rest, hpending, -, hnext⟩ := step_task hstep
    rw [hpending] at hhead
    obtain rfl : task = .frames frames := Option.some.inj hhead
    rw [hnext] at hmem
    exact frames_timeout (hpending ▸ hw.pending.shape) hmem
  | network hl hhead ht =>
    rw [ht]
    rcases networkDown_cases env hw.reg hreg with ⟨-, heq⟩ | hd
    · rw [heq]
      exact hoff
    · rw [hd.session]
  | prepare elapsed hl ht =>
    obtain ⟨log, counts, heq⟩ := beginConnectPrepare_client elapsed sys.client
    rw [ht, heq]
    exact hoff
  | initial hl hhead ht =>
    rw [ht]
    unfold initInternal
    split
    · exact hoff
    · split
      · exact hoff
      · rfl

/-- In every run the timer of the session expiry rests while the client is connected, and its timeout is
only carried out while the client is not. -/
theorem expiry_apart (h : (machine env).Reach ok sys) : ExpiryOk sys := by
  have hinit : ∀ sys, (machine env).init sys → ExpiryOk sys := by
    rintro _ ⟨cbs, config, rfl⟩
    refine ⟨fun hup => ?_, fun hmem => ?_⟩
    · cases hup
    · cases hmem
  refine h.invariant hinit fun sys l sys' hs hinv _ hstep => ?_
  exact ⟨step_armed (reach_wf hs) (reach_registered hs) (reach_timersOk hs) hstep hinv,
    step_pendingExpiry (reach_wf hs) (reach_registered hs) hstep hinv⟩

/-- A publish outlives its connection, and the session is resumed before it expires. -/
def expiringCalls : List (Api × Nat) :=
  connectCalls true { sessionExpiryInterval := 100 }
    { sessionPresent := false, reasonCode := ReasonCode.success } ++
  publishCalls 2 .atLeastOnceDelivery 4 ++ [(.notifyNetworkDisconnected 0, 3)]

/-- Here the timer runs. -/
example : ((machine .dynamic).exec (fun _ _ => true) Sys.fresh (script expiringCalls)).any
    (fun sys => sys.client.timerMgr.timers.any (·.timeoutCb == some .sessionExpiry)) = true := by
  decide +kernel

/-- A client that resumed its session with a publish. -/
theorem expiry_apart_resumed : ∃ sys, (machine .dynamic).Reach (fun _ _ => True) sys ∧
    sys.client.sessionState.connected = true ∧ sys.client.sendOps.length = 1 ∧ ExpiryOk sys := by
  obtain ⟨sys, hreach, hup, hops⟩ := exists_reach_fresh .dynamic
    (expiringCalls ++ reconnectCalls 3 false { sessionExpiryInterval := 100 } ++
      [(packet (.connack { sessionPresent := true, reasonCode := ReasonCode.success }), 5)])
    (fun sys => sys.client.sessionState.connected = true ∧ sys.client.sendOps.length = 1)
    (by decide +kernel)
  exact ⟨sys, hreach, hup, hops, expiry_apart hreach⟩

end Mqtt5
