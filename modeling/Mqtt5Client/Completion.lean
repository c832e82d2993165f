import Mqtt5Client.Acts

/-!
# Mqtt5Client — completions

What completing an operation changes besides the operation, and what `terminateOps` and
`brokerDisconnected` leave alone: no message is handed over while they run.
-/

namespace Mqtt5

open Client

variable {env : Env} {s t u : Client}

/-! ## Completions -/

/-- The erasures of the operations that are not publishes. -/
def eraseRef (ref : OpRef) (s : Client) : Client :=
  match ref.type with
  | .connect => s.eraseConnectOp ref.id
  | .keepAlive => s.eraseKeepAliveOp ref.id
  | .disconnect => s.eraseDisconnectOp ref.id
  | .subscribe => s.eraseSubscribeOp ref.id
  | .unsubscribe => s.eraseUnsubscribeOp ref.id
  | .recv => s.eraseRecvOp ref.id
  | .send => s
  | .reauth => s.eraseReauthOp ref.id

/-- A completion is `opComplete` with the erasure of the type; a publish is completed by functions of its
own. -/
theorem completeRef_eq (ref : OpRef) (s : Client) :
    s.completeRef ref = if ref.type = .send then s else opCompleteWith ref (eraseRef ref) s := by
  obtain ⟨type, id⟩ := ref
  cases type <;> rfl

/-- A timer that is freed changes the timer manager only. -/
theorem timerFree_eq (s : Client) (timer : Option Nat) :
    s.timerFree timer = { s with timerMgr := (s.timerFree timer).timerMgr } := by
  cases timer <;> rfl

/-- A packet identifier that is released changes the set of those in use, and may fail an assertion. -/
theorem releasePacketId_eq (s : Client) (id : Nat) : s.releasePacketId id =
    { s with clientState := (s.releasePacketId id).clientState,
             faults := (s.releasePacketId id).faults } := by
  unfold releasePacketId
  split
  · rfl
  · split <;> rfl

/-- An erasure changes the lists, the timers and the packet identifiers; of the receptions it removes the
one with the identity. -/
theorem eraseRef_eq (ref : OpRef) (s : Client) : eraseRef ref s =
    { s with connectOps := (eraseRef ref s).connectOps, keepAliveOps := (eraseRef ref s).keepAliveOps,
             disconnectOps := (eraseRef ref s).disconnectOps,
             subscribeOps := (eraseRef ref s).subscribeOps,
             unsubscribeOps := (eraseRef ref s).unsubscribeOps,
             recvOps := if ref.type = .recv then s.recvOps.eraseP (·.id == ref.id) else s.recvOps,
             reauthOps := (eraseRef ref s).reauthOps, timerMgr := (eraseRef ref s).timerMgr,
             clientState := (eraseRef ref s).clientState, faults := (eraseRef ref s).faults } := by
  obtain ⟨type, id⟩ := ref
  unfold eraseRef
  cases type
  -- the list of the receptions is spelled out; where nothing is found nothing is removed
  case recv =>
    dsimp only
    rw [if_pos rfl]
    unfold eraseRecvOp
    split
    · rename_i hnone
      rw [List.eraseP_of_forall_not fun op hop => by
        simpa using List.find?_eq_none.mp hnone op hop]
      rfl
    · rw [timerFree_eq]
  all_goals
    dsimp only
    rw [if_neg (by simp)]
  case connect =>
    unfold eraseConnectOp
    split
    · rfl
    · rw [timerFree_eq]
  case keepAlive =>
    unfold eraseKeepAliveOp
    split
    · rfl
    · rw [timerFree_eq, timerFree_eq _ (KeepAliveOp.recvTimer _),
        timerFree_eq _ (KeepAliveOp.respTimer _)]
  case disconnect =>
    unfold eraseDisconnectOp
    split <;> rfl
  case subscribe =>
    unfold eraseSubscribeOp
    split
    · rfl
    · rw [timerFree_eq, releasePacketId_eq]
  case unsubscribe =>
    unfold eraseUnsubscribeOp
    split
    · rfl
    · rw [timerFree_eq, releasePacketId_eq]
  case reauth =>
    unfold eraseReauthOp
    split
    · rfl
    · rw [timerFree_eq]

/-- What a completion changes besides. -/
theorem completeRef_cases (ref : OpRef) (s : Client) :
    s.completeRef ref = s ∨ s.completeRef ref = s.fault (.assertFailed .opComplete) ∨
      some ref ∈ s.ops ∧ s.completeRef ref =
        eraseRef ref { s with ops := nullify ref s.ops, opsDeleted := true } := by
  rw [completeRef_eq]
  split
  · exact Or.inl rfl
  · unfold opCompleteWith unregisterOp
    by_cases hmem : some ref ∈ s.ops
    · rw [if_pos hmem]
      exact Or.inr (Or.inr ⟨hmem, rfl⟩)
    · rw [if_neg hmem]
      exact Or.inr (Or.inl rfl)

/-- A failed assertion is not an event. -/
theorem log_assert (s : Client) (site : Site) (c : Bool) : (s.assert site c).log = s.log := by
  unfold Client.assert
  split <;> rfl

/-- A completion writes no event; the callback comes behind it. -/
theorem log_completeRef (ref : OpRef) (s : Client) : (s.completeRef ref).log = s.log := by
  rcases completeRef_cases ref s with heq | heq | ⟨-, heq⟩
  · rw [heq]
  · rw [heq]
    rfl
  · rw [heq, eraseRef_eq]

/-! ## What the functions on publishes leave alone -/

/-- The operations that are neither publishes nor receptions are the same. -/
structure SameOthers (s t : Client) : Prop where
  connectOps : t.connectOps = s.connectOps
  keepAliveOps : t.keepAliveOps = s.keepAliveOps
  disconnectOps : t.disconnectOps = s.disconnectOps
  subscribeOps : t.subscribeOps = s.subscribeOps
  unsubscribeOps : t.unsubscribeOps = s.unsubscribeOps
  reauthOps : t.reauthOps = s.reauthOps

theorem SameOthers.refl (s : Client) : SameOthers s s := ⟨rfl, rfl, rfl, rfl, rfl, rfl⟩

/-- The functions on publishes may be chained. -/
theorem SameOthers.trans (h : SameOthers s t) (h' : SameOthers t u) : SameOthers s u where
  connectOps := h'.connectOps.trans h.connectOps
  keepAliveOps := h'.keepAliveOps.trans h.keepAliveOps
  disconnectOps := h'.disconnectOps.trans h.disconnectOps
  subscribeOps := h'.subscribeOps.trans h.subscribeOps
  unsubscribeOps := h'.unsubscribeOps.trans h.unsubscribeOps
  reauthOps := h'.reauthOps.trans h.reauthOps

/-- One more update of something else. -/
theorem SameOthers.update (h : SameOthers s t) (h₁ : u.connectOps = t.connectOps := by rfl)
    (h₂ : u.keepAliveOps = t.keepAliveOps := by rfl)
    (h₃ : u.disconnectOps = t.disconnectOps := by rfl)
    (h₄ : u.subscribeOps = t.subscribeOps := by rfl)
    (h₅ : u.unsubscribeOps = t.unsubscribeOps := by rfl)
    (h₆ : u.reauthOps = t.reauthOps := by rfl) : SameOthers s u :=
  h.trans ⟨h₁, h₂, h₃, h₄, h₅, h₆⟩

/-- What changes no operation changes no other operation. -/
theorem SameOps.others (h : SameOps s t) : SameOthers s t :=
  ⟨h.connectOps, h.keepAliveOps, h.disconnectOps, h.subscribeOps, h.unsubscribeOps, h.reauthOps⟩

/-- A loop over rounds that leave them alone. -/
theorem SameOthers.foldl {α : Type} {f : Client → α → Client} (hf : ∀ s x, SameOthers s (f s x))
    (l : List α) (s : Client) : SameOthers s (l.foldl f s) := by
  induction l generalizing s with
  | nil => exact .refl s
  | cons x l ih => exact (hf s x).trans (ih (f s x))

/-- A function on an operation that is looked up. -/
theorem SameOthers.withOp {α : Type} {x : Option α} {site : Site} {f : α → Client → Client}
    (hf : ∀ y, SameOthers s (f y s)) : SameOthers s (s.withOp x site f) := by
  unfold Client.withOp
  split
  · exact ⟨rfl, rfl, rfl, rfl, rfl, rfl⟩
  · exact hf _

/-- A publish that is destroyed takes its timer and its packet identifier with it. -/
theorem SameOthers.eraseSendOp (op : SendOp) (s : Client) : SameOthers s (s.eraseSendOp op) := by
  unfold Client.eraseSendOp
  rw [timerFree_eq, releasePacketId_eq]
  exact ⟨rfl, rfl, rfl, rfl, rfl, rfl⟩

theorem SameOthers.timerWait (timer : Option Nat) (ms : Nat) (cb : TimeoutCb) (s : Client) :
    SameOthers s (s.timerWait timer ms cb) := by
  cases timer <;> exact ⟨rfl, rfl, rfl, rfl, rfl, rfl⟩

section Wake

variable {wake : Nat → Client → Client} (h : ∀ i u, SameOthers u (wake i u))

include h

/-- The completion of a publish wakes those behind it. -/
theorem SameOthers.opComplete (id : OpId) (s : Client) :
    SameOthers s (SendOp.opComplete wake id s) := by
  unfold SendOp.opComplete
  split
  · exact ⟨rfl, rfl, rfl, rfl, rfl, rfl⟩
  · rename_i u hu
    have hsame : SameOthers s u := by
      unfold unregisterOp at hu
      split at hu
      · cases hu
        exact ⟨rfl, rfl, rfl, rfl, rfl, rfl⟩
      · cases hu
    split
    · exact hsame.trans ⟨rfl, rfl, rfl, rfl, rfl, rfl⟩
    · rename_i op _
      have herase := hsame.trans (SameOthers.eraseSendOp op u)
      dsimp only
      split
      · exact herase
      · exact herase.trans (h _ _)

/-- And may report its end. -/
theorem SameOthers.completeWithCb (op : SendOp) (status : AsyncOpStatus)
    (response : Option PublishResponse) (s : Client) :
    SameOthers s (SendOp.completeWithCb wake op status response s) := by
  have hinner : SameOthers s (SendOp.opCompleteInternal wake op s) := by
    unfold SendOp.opCompleteInternal
    split
    · have hassert := (SameOps.assert s .opCompleteInternal
        (decide (0 < s.clientState.inFlightSends))).others
      refine SameOthers.trans ?_ (SameOthers.opComplete h _ _)
      exact hassert.update
    · exact SameOthers.opComplete h _ _
  unfold SendOp.completeWithCb
  dsimp only
  split
  · exact hinner.trans ⟨rfl, rfl, rfl, rfl, rfl, rfl⟩
  · exact hinner

/-- A transmission of PUBLISH. -/
theorem SameOthers.doSendInternal (env : Env) (op : SendOp) (s : Client) :
    SameOthers s (SendOp.doSendInternal env wake op s).1 := by
  have hsent : SameOthers s ((s.modifySendOp op.id ({ · with sendAttempts := 0 })).sendMessage env
      (.publish op.pubMsg) (some op.source)).1 := by
    refine SameOthers.trans ?_ (SameOps.sendMessage env _ _ _).others
    exact (SameOthers.refl s).update
  unfold SendOp.doSendInternal
  dsimp only
  split
  · exact hsent
  · split
    · refine SameOthers.trans ?_ (SameOthers.completeWithCb h _ _ _ _)
      refine SameOthers.trans ?_ (SameOps.assert _ .doSendInternal _).others
      exact hsent.update
    · refine SameOthers.trans ?_ (SameOthers.timerWait _ _ _ _)
      refine SameOthers.trans ?_ (SameOps.assert _ .doSendInternal _).others
      exact hsent.update

/-- A postponed publish is resumed. -/
theorem SameOthers.resume (env : Env) (op : SendOp) (s : Client) :
    SameOthers s (SendOp.resume env wake op s).1 := by
  have hset : SameOthers s (s.modifySendOp op.id ({ · with paused := false })) :=
    (SameOthers.refl s).update
  have hsend := hset.trans (SameOthers.doSendInternal h env { op with paused := false } _)
  unfold SendOp.resume
  split
  · exact .refl s
  · split
    · exact .refl s
    · dsimp only
      split
      · exact hsend
      · exact hsend.trans (SameOthers.completeWithCb h _ _ _ _)

end Wake

/-- The pass over the postponed publishes, by induction on its fuel. -/
theorem SameOthers.resumeLoop (fuel idx : Nat) (s : Client) :
    SameOthers s (resumeLoop env fuel idx s) := by
  induction fuel generalizing idx s with
  | zero => exact .refl s
  | succ fuel ih =>
    unfold Mqtt5.resumeLoop
    split
    · exact .refl s
    · split
      · exact .refl s
      · rename_i op _
        have hres := SameOthers.resume ih env op s
        dsimp only
        split
        · exact hres.trans (ih _ _)
        · exact hres

theorem SameOthers.sendOpCompleteWithCb (op : SendOp) (status : AsyncOpStatus)
    (response : Option PublishResponse) (s : Client) :
    SameOthers s (s.sendOpCompleteWithCb env op status response) :=
  SameOthers.completeWithCb (fun _ _ => .resumeLoop _ _ _) op status response s

/-- A retransmission, which ends the publish when its attempts are used up. -/
theorem SameOthers.resendDupMsg (op : SendOp) (s : Client) :
    SameOthers s (s.resendDupMsg env op) := by
  have hassert := (SameOps.assert s .resendDupMsg op.published).others
  have hfail : ∀ {u : Client} (text status), SameOthers s u →
      SameOthers s ((u.errorLog text).sendOpCompleteWithCb env op status none) := by
    intro u text status hu
    refine SameOthers.trans ?_ (.sendOpCompleteWithCb op _ _ _)
    exact hu.update
  have hsent : ∀ {u : Client} (n : Nat), SameOthers s u →
      SameOthers s ((u.modifySendOp op.id ({ · with sendAttempts := n })).restartSendTimer op) := by
    intro u n hu
    refine SameOthers.trans ?_ (.timerWait _ _ _ _)
    exact hu.update
  unfold Client.resendDupMsg
  split
  · exact hfail _ _ (.refl s)
  · dsimp only
    split
    · have hmsg : SameOthers s (((s.assert .resendDupMsg op.published).modifySendOp op.id
          ({ · with pubMsg := { op.pubMsg with dup := true } })).sendMessage env
            (.publish { op.pubMsg with dup := true }) (some op.source)).1 := by
        refine SameOthers.trans ?_ (SameOps.sendMessage env _ _ _).others
        exact hassert.update
      split
      · exact hfail _ _ hmsg
      · exact hsent _ hmsg
    · have hmsg : SameOthers s (((s.assert .resendDupMsg op.published).assert .resendDupMsg
          (decide (op.qos = .exactlyOnceDelivery))).sendMessage env
            (.pubrel { packetId := op.packetId }) (some op.source)).1 := by
        refine SameOthers.trans ?_ (SameOps.sendMessage env _ _ _).others
        exact hassert.trans (SameOps.assert _ .resendDupMsg _).others
      split
      · exact hfail _ _ hmsg
      · exact hsent _ hmsg

theorem SameOthers.timerCancel (timer : Option Nat) (s : Client) :
    SameOthers s (s.timerCancel timer) := by
  cases timer <;> exact ⟨rfl, rfl, rfl, rfl, rfl, rfl⟩

/-- A publish is sent again behind a CONNACK. -/
theorem SameOthers.reconnectionResend (op : SendOp) (s : Client) :
    SameOthers s (s.reconnectionResend env op) := by
  have hassert := (SameOps.assert s .postReconnectionResend (decide (0 < op.sendAttempts))).others
  unfold Client.reconnectionResend
  dsimp only
  refine SameOthers.trans ?_ (.resendDupMsg _ _)
  refine SameOthers.trans ?_ (.timerCancel _ _)
  exact hassert.update

theorem SameOthers.postReconnectionResend (op : SendOp) (s : Client) :
    SameOthers s (s.postReconnectionResend env op) := by
  have hassert := (SameOps.assert s .postReconnectionResend
    (op.pubMsg.topicAlias.isSome || !op.pubMsg.topic.isEmpty)).others
  unfold Client.postReconnectionResend
  split
  · exact .refl s
  · split
    · dsimp only
      split
      · refine SameOthers.trans ?_ (.sendOpCompleteWithCb _ _ _ _)
        exact (hassert.trans (SameOps.assert _ .postReconnectionResend false).others).update
      · refine SameOthers.trans ?_ (.reconnectionResend _ _)
        exact hassert.update
    · exact .reconnectionResend op s

/-! ## Terminations -/

/-- A message is handed over, or the connection begins or ends. -/
def Event.isTraffic : Event → Bool
  | .output .. | .brokerDisconnectReport .. | .connectivity _ => true
  | _ => false

/-- What the connection has seen. -/
def Client.traffic (s : Client) : List Event := s.log.filter Event.isTraffic

/-- An event that is no traffic. -/
theorem traffic_emit {e : Event} (he : e.isTraffic = false) : (s.emit e).traffic = s.traffic := by
  unfold Client.traffic Client.emit
  rw [List.filter_append, List.filter_singleton, he]
  exact List.append_nil _

/-- An event that is traffic. -/
theorem traffic_emit_pos {e : Event} (he : e.isTraffic = true) :
    (s.emit e).traffic = s.traffic ++ [e] := by
  unfold Client.traffic Client.emit
  rw [List.filter_append, List.filter_singleton, he]
  rfl

/-- What a termination leaves alone. -/
structure SameSession (s t : Client) : Prop where
  callbacks : t.callbacks = s.callbacks
  config : t.configState = s.configState
  session : t.sessionState = s.sessionState
  reuse : t.reuseState = s.reuseState
  network : t.clientState.networkDisconnected = s.clientState.networkDisconnected
  initialized : t.clientState.initialized = s.clientState.initialized
  apiEnterCount : t.apiEnterCount = s.apiEnterCount
  sessionExpiryTimer : t.sessionExpiryTimer = s.sessionExpiryTimer
  nextOpId : t.nextOpId = s.nextOpId
  traffic : t.traffic = s.traffic

theorem SameSession.refl (s : Client) : SameSession s s :=
  ⟨rfl, rfl, rfl, rfl, rfl, rfl, rfl, rfl, rfl, rfl⟩

/-- The parts of a termination may be chained. -/
theorem SameSession.trans (h : SameSession s t) (h' : SameSession t u) : SameSession s u where
  callbacks := h'.callbacks.trans h.callbacks
  config := h'.config.trans h.config
  session := h'.session.trans h.session
  reuse := h'.reuse.trans h.reuse
  network := h'.network.trans h.network
  initialized := h'.initialized.trans h.initialized
  apiEnterCount := h'.apiEnterCount.trans h.apiEnterCount
  sessionExpiryTimer := h'.sessionExpiryTimer.trans h.sessionExpiryTimer
  nextOpId := h'.nextOpId.trans h.nextOpId
  traffic := h'.traffic.trans h.traffic

/-- The callbacks of the operations that are terminated are no traffic. -/
theorem SameSession.emit (h : SameSession s t) {e : Event} (he : e.isTraffic = false := by rfl) :
    SameSession s (t.emit e) :=
  h.trans ⟨rfl, rfl, rfl, rfl, rfl, rfl, rfl, rfl, rfl, traffic_emit he⟩

theorem SameSession.fault (h : SameSession s t) (f : Fault) : SameSession s (t.fault f) :=
  h.trans ⟨rfl, rfl, rfl, rfl, rfl, rfl, rfl, rfl, rfl, rfl⟩

theorem SameSession.assert (h : SameSession s t) (site : Site) (c : Bool) :
    SameSession s (t.assert site c) := by
  unfold Client.assert
  split
  · exact h
  · exact h.fault _

theorem SameSession.timerFree (h : SameSession s t) (timer : Option Nat) :
    SameSession s (t.timerFree timer) := by
  refine h.trans ?_
  rw [timerFree_eq]
  exact ⟨rfl, rfl, rfl, rfl, rfl, rfl, rfl, rfl, rfl, rfl⟩

/-- A terminated operation gives back its packet identifier. -/
theorem SameSession.releasePacketId (h : SameSession s t) (id : Nat) :
    SameSession s (t.releasePacketId id) := by
  unfold Client.releasePacketId
  split
  · exact h
  · split
    · exact h.trans ⟨rfl, rfl, rfl, rfl, rfl, rfl, rfl, rfl, rfl, rfl⟩
    · exact h.fault _

/-- An update of the lists and of `m_ops`. -/
theorem SameSession.completeRef (ref : OpRef) (s : Client) : SameSession s (s.completeRef ref) := by
  have hnone : ∀ u : Client, SameSession s u → SameSession s (u.fault (.assertFailed .eraseFromList)) :=
    fun u hu => hu.fault _
  rcases completeRef_cases ref s with heq | heq | ⟨-, heq⟩
  · rw [heq]
    exact .refl s
  · rw [heq]
    exact (SameSession.refl s).fault _
  · rw [heq]
    set u : Client := { s with ops := nullify ref s.ops, opsDeleted := true }
    have hu : SameSession s u := ⟨rfl, rfl, rfl, rfl, rfl, rfl, rfl, rfl, rfl, rfl⟩
    -- an identifier may be released, the rest of the client state stays
    have hlist : ∀ v : Client, v.callbacks = u.callbacks → v.configState = u.configState →
        v.sessionState = u.sessionState → v.reuseState = u.reuseState → v.clientState = u.clientState →
        v.apiEnterCount = u.apiEnterCount → v.sessionExpiryTimer = u.sessionExpiryTimer →
        v.nextOpId = u.nextOpId → v.traffic = u.traffic → SameSession s v :=
      fun v h₁ h₂ h₃ h₄ h₅ h₆ h₇ h₈ h₉ =>
        hu.trans ⟨h₁, h₂, h₃, h₄, by rw [h₅], by rw [h₅], h₆, h₇, h₈, h₉⟩
    unfold eraseRef
    split
    case h_7 => exact hu
    case h_1 =>
      unfold eraseConnectOp
      split
      · exact hnone _ hu
      · apply SameSession.timerFree
        exact hlist _ rfl rfl rfl rfl rfl rfl rfl rfl rfl
    case h_2 =>
      unfold eraseKeepAliveOp
      split
      · exact hnone _ hu
      · apply SameSession.timerFree
        apply SameSession.timerFree
        apply SameSession.timerFree
        exact hlist _ rfl rfl rfl rfl rfl rfl rfl rfl rfl
    case h_3 =>
      unfold eraseDisconnectOp
      split
      · exact hnone _ hu
      · exact hlist _ rfl rfl rfl rfl rfl rfl rfl rfl rfl
    case h_4 =>
      unfold eraseSubscribeOp
      split
      · exact hnone _ hu
      · apply SameSession.timerFree
        apply SameSession.releasePacketId
        exact hlist _ rfl rfl rfl rfl rfl rfl rfl rfl rfl
    case h_5 =>
      unfold eraseUnsubscribeOp
      split
      · exact hnone _ hu
      · apply SameSession.timerFree
        apply SameSession.releasePacketId
        exact hlist _ rfl rfl rfl rfl rfl rfl rfl rfl rfl
    case h_6 =>
      unfold eraseRecvOp
      split
      · exact hnone _ hu
      · apply SameSession.timerFree
        exact hlist _ rfl rfl rfl rfl rfl rfl rfl rfl rfl
    case h_8 =>
      unfold eraseReauthOp
      split
      · exact hnone _ hu
      · apply SameSession.timerFree
        exact hlist _ rfl rfl rfl rfl rfl rfl rfl rfl rfl

/-- Completing a publish while the connection ends resumes none. -/
theorem SameSession.sendOpCompleteWithCb (hdis : s.sessionState.disconnecting = true) (op : SendOp)
    (status : AsyncOpStatus) (response : Option PublishResponse) :
    SameSession s (s.sendOpCompleteWithCb env op status response) := by
  have hcomplete : ∀ u : Client, SameSession s u →
      SameSession s (SendOp.opComplete (resumeSendOpsSince env) op.id u) := by
    intro u hu
    unfold SendOp.opComplete unregisterOp
    split
    · exact hu.fault _
    · rename_i v hv
      split at hv
      · cases hv
        dsimp only
        split
        · apply SameSession.fault
          exact hu.trans ⟨rfl, rfl, rfl, rfl, rfl, rfl, rfl, rfl, rfl, rfl⟩
        · rename_i x _
          have hv : SameSession s (eraseSendOp x
              { u with ops := nullify ⟨.send, op.id⟩ u.ops, opsDeleted := true }) := by
            unfold eraseSendOp
            refine SameSession.timerFree (SameSession.releasePacketId (SameSession.emit ?_) _) _
            exact hu.trans ⟨rfl, rfl, rfl, rfl, rfl, rfl, rfl, rfl, rfl, rfl⟩
          rw [if_pos (hv.session ▸ hdis)]
          exact hv
      · cases hv
  have hinternal : SameSession s (SendOp.opCompleteInternal (resumeSendOpsSince env) op s) := by
    unfold SendOp.opCompleteInternal
    split
    · exact hcomplete _ (((SameSession.refl s).assert _ _).trans
        ⟨rfl, rfl, rfl, rfl, rfl, rfl, rfl, rfl, rfl, rfl⟩)
    · exact hcomplete s (.refl s)
  unfold Client.sendOpCompleteWithCb SendOp.completeWithCb
  dsimp only
  split
  · exact hinternal.emit
  · exact hinternal

/-- `terminateOp` of every type: while the session is being ended nothing is sent for it. -/
theorem SameSession.terminateOp (hdis : s.sessionState.disconnecting = true) (status : AsyncOpStatus)
    (ref : OpRef) : SameSession s (s.terminateOp env status ref) := by
  have hemit : ∀ (u : Client) (c : Bool) (e : Event), e.isTraffic = false → SameSession s u →
      SameSession s (if c then u.emit e else u) := by
    intro u c e he hu
    split
    · exact hu.emit he
    · exact hu
  have hwith : ∀ {α : Type} (x : Option α) (f : α → Client → Client),
      (∀ op, SameSession s (f op s)) → SameSession s (s.withOp x .opComplete f) := by
    intro α x f hf
    unfold withOp
    split
    · exact (SameSession.refl s).fault _
    · exact hf _
  unfold Client.terminateOp
  split
  · exact hwith _ _ fun op => hemit _ _ _ rfl (.completeRef ⟨.connect, op.id⟩ s)
  · exact .completeRef ⟨.keepAlive, ref.id⟩ s
  · exact .completeRef ⟨.disconnect, ref.id⟩ s
  · exact hwith _ _ fun op => hemit _ _ _ rfl (.completeRef ⟨.subscribe, op.id⟩ s)
  · exact hwith _ _ fun op => hemit _ _ _ rfl (.completeRef ⟨.unsubscribe, op.id⟩ s)
  · exact .completeRef ⟨.recv, ref.id⟩ s
  · exact hwith _ _ fun op => .sendOpCompleteWithCb hdis op _ _
  · exact hwith _ _ fun op => hemit _ _ _ rfl (.completeRef ⟨.reauth, op.id⟩ s)

/-- Loops keep what their rounds keep. -/
theorem SameSession.foldl {α : Type} {P : Client → Prop} {f : Client → α → Client}
    (hP : ∀ t x, P t → SameSession t (f t x) ∧ P (f t x)) (l : List α) (h : SameSession s t)
    (ht : P t) : SameSession s (l.foldl f t) := by
  induction l generalizing t with
  | nil => exact h
  | cons x l ih =>
    obtain ⟨hstep, hnext⟩ := hP t x ht
    exact ih (h.trans hstep) hnext

/-- A loop over `m_ops` whose rounds keep what they need. -/
theorem SameSession.forEachOp {P : Client → Prop} {f : OpRef → Client → Client}
    (hP : ∀ t ref, P t → SameSession t (f ref t)) (hkeep : ∀ t u, SameSession t u → P t → P u)
    (hs : P s) : SameSession s (s.forEachOp f) := by
  refine SameSession.foldl (P := P) (fun t idx ht => ?_) _ (.refl s) hs
  unfold visitOp
  split
  · exact ⟨hP t _ ht, hkeep _ _ (hP t _ ht) ht⟩
  · exact ⟨.refl t, ht⟩

/-- The loop of `terminateOps`. -/
theorem SameSession.terminateOps (hdis : s.sessionState.disconnecting = true)
    (status : AsyncOpStatus) (keep : Bool) : SameSession s (s.terminateOps env status keep) := by
  refine SameSession.forEachOp (P := fun t => t.sessionState.disconnecting = true)
    (fun t ref ht => ?_) (fun t u h ht => h.session ▸ ht) hdis
  split
  · exact .refl t
  · exact .terminateOp ht status ref

/-- The operations that are kept hear of the end of the connection. -/
theorem SameSession.connectivityChanged (ref : OpRef) (s : Client) :
    SameSession s (s.connectivityChanged ref) := by
  have hsuspend : ∀ (timer : Option Nat) (v : Bool), SameSession s (s.timerSetSuspended timer v) :=
    fun _ _ => ⟨rfl, rfl, rfl, rfl, rfl, rfl, rfl, rfl, rfl, rfl⟩
  have hwith : ∀ {α : Type} (x : Option α) (f : α → Client → Client),
      (∀ op, SameSession s (f op s)) → SameSession s (s.withOp x .opComplete f) := by
    intro α x f hf
    unfold withOp
    split
    · exact (SameSession.refl s).fault _
    · exact hf _
  unfold Client.connectivityChanged
  split
  · refine hwith _ _ fun op => ?_
    unfold connectOpConnectivityChanged connectComplete
    split
    · dsimp only
      split
      · exact (SameSession.completeRef ⟨.connect, op.id⟩ s).emit
      · exact .completeRef ⟨.connect, op.id⟩ s
    · exact .refl s
  · exact hwith _ _ fun op => hsuspend _ _
  · exact hwith _ _ fun op => hsuspend _ _
  · exact .refl s

/-- The bookkeeping of the end of the connection is an event. -/
theorem leaveConnection_eq (s : Client) : s.leaveConnection =
    { s with log := s.leaveConnection.log, counts := s.leaveConnection.counts } := by
  unfold leaveConnection
  split <;> rfl

/-- Besides the flags only the log has changed. -/
theorem markDisconnecting_eq (s : Client) : s.markDisconnecting =
    { s with
      clientState := { s.clientState with initialized := false }
      sessionState := { s.sessionState with connected := false, disconnecting := true }
      log := s.markDisconnecting.log, counts := s.markDisconnecting.counts } := by
  unfold markDisconnecting
  rw [leaveConnection_eq]

/-- The flags are changed before the operations are terminated. -/
theorem markDisconnecting_session (s : Client) : s.markDisconnecting.sessionState =
    { s.sessionState with connected := false, disconnecting := true } := by
  rw [markDisconnecting_eq]

variable (env) in
/-- `brokerDisconnected` changes the state of the connection, and reports it. -/
theorem brokerDisconnected_same (reason : Option BrokerDisconnectReason) (status : AsyncOpStatus)
    (info : Option DisconnectInfo) :
    ∃ t, SameSession s.markDisconnecting t ∧ s.brokerDisconnected env reason status info =
      match reason with
      | none => t
      | some reason => t.emit (.brokerDisconnectReport reason info) := by
  have hterm : SameSession s.markDisconnecting
      (s.markDisconnecting.terminateOps env status s.preserveSendRecv) := .terminateOps rfl _ _
  have hconn : ∀ t : Client, SameSession t (t.forEachOp Client.connectivityChanged).startSessionExpiry := by
    intro t
    have h : SameSession t (t.forEachOp Client.connectivityChanged) :=
      SameSession.forEachOp (P := fun _ => True) (fun t ref _ => .connectivityChanged ref t)
        (fun _ _ _ _ => trivial) trivial
    unfold startSessionExpiry
    split
    · exact h.trans ⟨rfl, rfl, rfl, rfl, rfl, rfl, rfl, rfl, rfl, rfl⟩
    · exact h
  refine ⟨_, ?_, rfl⟩
  split
  · exact hterm.trans (hconn _)
  · exact hterm

/-- `brokerDisconnected` leaves the session disconnecting and not connected, and changes nothing else of it.
-/
theorem brokerDisconnected_session (reason : Option BrokerDisconnectReason) (status : AsyncOpStatus)
    (info : Option DisconnectInfo) : (s.brokerDisconnected env reason status info).sessionState =
      { s.sessionState with connected := false, disconnecting := true } := by
  obtain ⟨t, ht, heq⟩ := brokerDisconnected_same env (s := s) reason status info
  rw [heq, ← markDisconnecting_session]
  split <;> exact ht.session

end Mqtt5
