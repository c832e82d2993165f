import Mqtt5Client.Invariants

/-!
# Mqtt5Client — what leaves an operation in preparation alone

An operation in preparation waits for its `send` or `cancel`. It stays in `m_ops` through everything else
the library does (`Waits`), unless it is taken for the target of a message or of a timeout, or the
connection or the session ends; a publish outlives the end of a connection whose session is kept.
-/

namespace Mqtt5

open Client

variable {env : Env} {s t : Client} {ref r : OpRef} {n : Nat}

/-- The operation is registered. A publish is in `m_sendOps` and was neither transmitted nor postponed; `n` is
the session expiry interval. -/
structure Waits (ref : OpRef) (n : Nat) (s : Client) : Prop where
  mem : some ref ∈ s.ops
  queued : ref.type = .send → ∃ op ∈ s.sendOps, op.id = ref.id
  idle : ∀ op ∈ s.sendOps, ref = ⟨.send, op.id⟩ → op.fresh = true
  expiry : s.sessionState.sessionExpiryIntervalMs = n

namespace Waits

/-! ## Updates of other things -/

/-- Nothing that is looked at changes. -/
theorem same (h : Waits ref n s) (hops : t.ops = s.ops) (hsend : t.sendOps = s.sendOps)
    (hexpiry : t.sessionState.sessionExpiryIntervalMs = s.sessionState.sessionExpiryIntervalMs) :
    Waits ref n t := by
  refine ⟨?_, ?_, ?_, hexpiry.trans h.expiry⟩
  · rw [hops]
    exact h.mem
  · rw [hsend]
    exact h.queued
  · rw [hsend]
    exact h.idle

theorem emit (h : Waits ref n s) (e : Event) : Waits ref n (s.emit e) := h.same rfl rfl rfl

theorem errorLog (h : Waits ref n s) (m : String) : Waits ref n (s.errorLog m) := h.same rfl rfl rfl

theorem fault (h : Waits ref n s) (f : Fault) : Waits ref n (s.fault f) := h.same rfl rfl rfl

/-- A failed assertion is no more than a mark. -/
theorem assert (h : Waits ref n s) (site : Site) (c : Bool) : Waits ref n (s.assert site c) := by
  unfold Client.assert
  split
  · exact h
  · exact h.fault _

/-- The timers of an operation are not looked at. -/
theorem timers (h : Waits ref n s) (m : TimerMgr) : Waits ref n { s with timerMgr := m } :=
  h.same rfl rfl rfl

theorem timerWait (h : Waits ref n s) (timer : Option Nat) (ms : Nat) (cb : TimeoutCb) :
    Waits ref n (s.timerWait timer ms cb) :=
  h.timers _

theorem timerCancel (h : Waits ref n s) (timer : Option Nat) : Waits ref n (s.timerCancel timer) :=
  h.timers _

/-- Messages are sent past an operation that waits. -/
theorem sendMessage (h : Waits ref n s) (env : Env) (msg : OutMsg) (source : Option PublishSource) :
    Waits ref n (s.sendMessage env msg source).1 := by
  rw [sendMessage_eq]
  exact h.same rfl rfl rfl

theorem post (h : Waits ref n s) (env : Env) (msg : OutMsg) : Waits ref n (s.post env msg) :=
  h.sendMessage env msg none

theorem keepAliveMessageReceived (h : Waits ref n s) : Waits ref n s.keepAliveMessageReceived := by
  rw [keepAliveMessageReceived_eq]
  exact h.timers _

theorem restartRecvTimer (h : Waits ref n s) (op : KeepAliveOp) : Waits ref n (s.restartRecvTimer op) := by
  rw [restartRecvTimer_eq]
  exact h.timers _

/-- The object behind a pointer is used, when there is one. -/
theorem withOp {α : Type} {x : Option α} {site : Site} {f : α → Client → Client} (h : Waits ref n s)
    (hf : ∀ op, x = some op → Waits ref n (f op s)) : Waits ref n (s.withOp x site f) := by
  unfold Client.withOp
  split
  · exact h.fault _
  · exact hf _ rfl

/-! ## Completion of other operations -/

/-- Another operation is completed: its pointer is the one that is set to null. -/
theorem completeRef (h : Waits ref n s) (hne : ref ≠ r) : Waits ref n (s.completeRef r) := by
  rcases completeRef_cases r s with heq | heq | ⟨-, heq⟩
  · rw [heq]
    exact h
  · rw [heq]
    exact h.fault _
  · rw [heq, eraseRef_eq]
    exact ⟨mem_nullify hne h.mem, h.queued, h.idle, h.expiry⟩

/-- The callback follows the completion. -/
theorem completed (h : Waits ref n s) (hne : ref ≠ r) (cb : Bool) (e : Event) :
    Waits ref n (if cb then (s.completeRef r).emit e else s.completeRef r) := by
  split
  · exact (h.completeRef hne).emit e
  · exact h.completeRef hne

/-! ## Publishes -/

/-- Another publish changes. -/
theorem modifySendOp (h : Waits ref n s) {id : OpId} (hne : ref ≠ ⟨.send, id⟩) {f : SendOp → SendOp}
    (hf : ∀ op ∈ s.sendOps, op.id = id → (f op).id = op.id) : Waits ref n (s.modifySendOp id f) := by
  have hid : ∀ op ∈ s.sendOps, (if op.id == id then f op else op).id = op.id := by
    intro op hop
    split
    · rename_i heq
      exact hf op hop (beq_iff_eq.mp heq)
    · rfl
  refine ⟨h.mem, fun htype => ?_, fun op hop href => ?_, h.expiry⟩
  · obtain ⟨op, hop, hopid⟩ := h.queued htype
    exact ⟨_, List.mem_map_of_mem hop, (hid op hop).trans hopid⟩
  · obtain ⟨x, hx, rfl⟩ := List.mem_map.mp hop
    rw [hid x hx] at href
    have hother : ¬(x.id == id) = true := fun heq => hne (beq_iff_eq.mp heq ▸ href)
    rw [if_neg hother]
    exact h.idle x hx href

/-- Another publish is destroyed. -/
theorem eraseSendOp (h : Waits ref n s) {op : SendOp} (hne : ref ≠ ⟨.send, op.id⟩) :
    Waits ref n (s.eraseSendOp op) := by
  unfold Client.eraseSendOp
  rw [timerFree_eq, releasePacketId_eq]
  refine ⟨h.mem, fun htype => ?_, fun x hx href => h.idle x (List.mem_of_mem_eraseP hx) href, h.expiry⟩
  obtain ⟨x, hx, hxid⟩ := h.queued htype
  have hother : ¬(x.id == op.id) = true := by
    intro heq
    refine hne ?_
    obtain ⟨type, id⟩ := ref
    rw [← beq_iff_eq.mp heq, hxid, show type = .send from htype]
  exact ⟨x, (List.mem_eraseP_of_neg (p := fun y : SendOp => y.id == op.id) hother).mpr hx, hxid⟩

section Resume

variable {wake : Nat → Client → Client} {op : SendOp}

/-- The completion of another publish, if what it wakes keeps the operation. -/
theorem opComplete (h : Waits ref n s) (hne : ref ≠ ⟨.send, op.id⟩)
    (hwake : ∀ idx u, Waits ref n u → Waits ref n (wake idx u)) :
    Waits ref n (SendOp.opComplete wake op.id s) := by
  unfold SendOp.opComplete unregisterOp
  split
  · exact h.fault _
  · rename_i u hu
    split at hu
    · cases hu
      have hu : Waits ref n { s with ops := nullify ⟨.send, op.id⟩ s.ops, opsDeleted := true } :=
        ⟨mem_nullify hne h.mem, h.queued, h.idle, h.expiry⟩
      split
      · exact hu.fault _
      · rename_i x hx
        have hxid : x.id = op.id := (mem_of_sendOp? hx).2
        have hx : Waits ref n (Client.eraseSendOp x _) := hu.eraseSendOp (hxid ▸ hne)
        dsimp only
        split
        · exact hx
        · exact hwake _ _ hx
    · cases hu

theorem opCompleteInternal (h : Waits ref n s) (hne : ref ≠ ⟨.send, op.id⟩)
    (hwake : ∀ idx u, Waits ref n u → Waits ref n (wake idx u)) :
    Waits ref n (SendOp.opCompleteInternal wake op s) := by
  unfold SendOp.opCompleteInternal
  split
  · refine opComplete (Waits.same (h.assert .opCompleteInternal
      (decide (0 < s.clientState.inFlightSends))) ?_ ?_ ?_) hne hwake <;> rfl
  · exact h.opComplete hne hwake

/-- The same with a callback. -/
theorem completeWithCb (h : Waits ref n s) (hne : ref ≠ ⟨.send, op.id⟩)
    (hwake : ∀ idx u, Waits ref n u → Waits ref n (wake idx u)) (status : AsyncOpStatus)
    (response : Option PublishResponse) :
    Waits ref n (SendOp.completeWithCb wake op status response s) := by
  unfold SendOp.completeWithCb
  dsimp only
  split
  · exact (h.opCompleteInternal hne hwake).emit _
  · exact h.opCompleteInternal hne hwake

/-- The transmission of another publish. -/
theorem doSendInternal (h : Waits ref n s) (hne : ref ≠ ⟨.send, op.id⟩)
    (hwake : ∀ idx u, Waits ref n u → Waits ref n (wake idx u)) :
    Waits ref n (SendOp.doSendInternal env wake op s).1 := by
  have hsent : Waits ref n ((s.modifySendOp op.id ({ · with sendAttempts := 0 })).sendMessage env
      (.publish op.pubMsg) (some op.source)).1 :=
    (h.modifySendOp (f := ({ · with sendAttempts := 0 })) hne fun _ _ _ => rfl).sendMessage env _ _
  unfold SendOp.doSendInternal
  dsimp only
  split
  · exact hsent
  · set inFlight := if op.published then _ else _
    have hcount : Waits ref n { (Client.sendMessage env (.publish op.pubMsg) (some op.source)
        (s.modifySendOp op.id ({ · with sendAttempts := 0 }))).1 with
          clientState := { (Client.sendMessage env (.publish op.pubMsg) (some op.source)
            (s.modifySendOp op.id ({ · with sendAttempts := 0 }))).1.clientState with
              inFlightSends := inFlight } } :=
      hsent.same rfl rfl rfl
    have hmarked := hcount.modifySendOp (f := ({ · with published := true, sendAttempts := 1 })) hne
      fun _ _ _ => rfl
    have hne' : ref ≠ ⟨.send, ({ op with published := true } : SendOp).id⟩ := hne
    split
    · exact completeWithCb (hmarked.assert _ _) hne' hwake _ _
    · exact (hmarked.assert _ _).timerWait _ _ _

/-- A postponed publish is not the operation, which is idle. -/
theorem resume (h : Waits ref n s) (hop : op ∈ s.sendOps)
    (hwake : ∀ idx u, Waits ref n u → Waits ref n (wake idx u)) :
    Waits ref n (SendOp.resume env wake op s).1 := by
  unfold SendOp.resume
  split
  · exact h
  · rename_i hpaused
    have hne : ref ≠ ⟨.send, op.id⟩ := by
      intro heq
      have hfresh := h.idle op hop heq
      unfold SendOp.fresh at hfresh
      rw [Bool.and_eq_true] at hfresh
      exact hpaused hfresh.2
    split
    · exact h
    · have hnext : ref ≠ ⟨.send, ({ op with paused := false } : SendOp).id⟩ := hne
      have hfailed : ref ≠ ⟨.send, ({ op with paused := false, sendAttempts := 0 } : SendOp).id⟩ := hne
      have hdone : Waits ref n (SendOp.doSendInternal env wake { op with paused := false }
          (s.modifySendOp op.id ({ · with paused := false }))).1 :=
        doSendInternal (h.modifySendOp (f := ({ · with paused := false })) hne fun _ _ _ => rfl) hnext
          hwake
      dsimp only
      split
      · exact hdone
      · exact completeWithCb hdone hfailed hwake _ _

/-- No round of the loop is about an operation that is not postponed. -/
theorem resumeLoop (h : Waits ref n s) (fuel idx : Nat) :
    Waits ref n (Mqtt5.resumeLoop env fuel idx s) := by
  induction fuel generalizing idx s with
  | zero => exact h
  | succ fuel ih =>
    unfold Mqtt5.resumeLoop
    split
    · exact h
    · split
      · exact h
      · rename_i op hget
        have hnext : Waits ref n (SendOp.resume env (Mqtt5.resumeLoop env fuel) op s).1 :=
          h.resume (List.mem_of_getElem? hget) fun idx u hu => ih hu idx
        dsimp only
        split
        · exact ih hnext _
        · exact hnext

/-- A pass over the postponed publishes. -/
theorem resumeSendOpsSince (h : Waits ref n s) (idx : Nat) :
    Waits ref n (s.resumeSendOpsSince env idx) :=
  h.resumeLoop _ idx

/-- The publish that goes was another one. -/
theorem sendOpComplete (h : Waits ref n s) (hne : ref ≠ ⟨.send, op.id⟩) :
    Waits ref n (s.sendOpComplete env op) :=
  h.opCompleteInternal hne fun idx _ hu => hu.resumeSendOpsSince idx

theorem sendOpCompleteWithCb (h : Waits ref n s) (hne : ref ≠ ⟨.send, op.id⟩) (status : AsyncOpStatus)
    (response : Option PublishResponse) :
    Waits ref n (s.sendOpCompleteWithCb env op status response) :=
  h.completeWithCb hne (fun idx _ hu => hu.resumeSendOpsSince idx) status response

theorem sendOpDoSend (h : Waits ref n s) (hne : ref ≠ ⟨.send, op.id⟩) :
    Waits ref n (s.sendOpDoSend env op).1 :=
  h.doSendInternal hne fun idx _ hu => hu.resumeSendOpsSince idx

variable {op : SendOp}

/-- A retransmission of another publish. -/
theorem resendDupMsg (h : Waits ref n s) (hne : ref ≠ ⟨.send, op.id⟩) :
    Waits ref n (s.resendDupMsg env op) := by
  unfold Client.resendDupMsg
  split
  · exact (h.errorLog _).sendOpCompleteWithCb hne _ _
  · have hpublished := h.assert .resendDupMsg op.published
    dsimp only
    split
    · have hsent := (hpublished.modifySendOp (f := ({ · with pubMsg := { op.pubMsg with dup := true } }))
        hne fun _ _ _ => rfl).sendMessage env (.publish { op.pubMsg with dup := true }) (some op.source)
      split
      · exact (hsent.errorLog _).sendOpCompleteWithCb hne _ _
      · exact (hsent.modifySendOp (f := ({ · with sendAttempts := op.sendAttempts + 1 })) hne
          fun _ _ _ => rfl).timerWait _ _ _
    · have hsent := (hpublished.assert .resendDupMsg
        (decide (op.qos = .exactlyOnceDelivery))).sendMessage env (.pubrel { packetId := op.packetId })
          (some op.source)
      split
      · exact (hsent.errorLog _).sendOpCompleteWithCb hne _ _
      · exact (hsent.modifySendOp (f := ({ · with sendAttempts := op.sendAttempts + 1 })) hne
          fun _ _ _ => rfl).timerWait _ _ _

theorem sendResponseTimeout (h : Waits ref n s) (hne : ref ≠ ⟨.send, op.id⟩) :
    Waits ref n (s.sendResponseTimeout env op) :=
  ((h.assert _ _).errorLog _).resendDupMsg hne

/-- PUBREL is sent for another publish. -/
theorem sendPubrel (h : Waits ref n s) (hne : ref ≠ ⟨.send, op.id⟩) :
    Waits ref n (s.sendPubrel env op) := by
  have hsent := (h.modifySendOp (f := ({ · with acked := true, sendAttempts := 0 })) hne
    fun _ _ _ => rfl).sendMessage env (.pubrel { packetId := op.packetId }) (some op.source)
  unfold Client.sendPubrel
  dsimp only
  split
  · exact (hsent.errorLog _).sendOpCompleteWithCb hne _ _
  · exact (hsent.modifySendOp (f := ({ · with reasonCode := ReasonCode.success, sendAttempts := 1 })) hne
      fun _ _ _ => rfl).timerWait _ _ _

theorem confirmRegisteredAlias (h : Waits ref n s) (op : SendOp) (c : Bool) :
    Waits ref n (if c then s.confirmRegisteredAlias op else s) := by
  split
  · unfold Client.confirmRegisteredAlias
    dsimp only
    have hc := h.assert .confirmRegisteredAlias (!op.pubMsg.topic.isEmpty && op.registeredAlias)
    split
    · exact hc.same rfl rfl rfl
    · exact hc.errorLog _
  · exact h

theorem assertInFlight (h : Waits ref n s) (op : SendOp) : Waits ref n (s.assertInFlight op) :=
  (h.assert _ _).assert _ _

end Resume

/-! ## The end of a connection -/

/-- Rounds of a loop that leave the operation alone. -/
theorem rounds {f : Client → Nat → Client} (h : Waits ref n s)
    (hf : ∀ u i, Waits ref n u → Waits ref n (f u i)) (l : List Nat) : Waits ref n (l.foldl f s) := by
  induction l generalizing s with
  | nil => exact h
  | cons i l ih => exact ih (hf s i h)

/-- A loop over `m_ops` that no round of takes the operation. -/
theorem forEachOp {f : OpRef → Client → Client} (h : Waits ref n s)
    (hf : ∀ r u, Waits ref n u → Waits ref n (f r u)) : Waits ref n (s.forEachOp f) := by
  refine h.rounds (fun u i hu => ?_) _
  unfold visitOp
  split
  · exact hf _ u hu
  · exact hu

variable (env) in
/-- Another operation is terminated. -/
theorem terminateOp (h : Waits ref n s) (hne : ref ≠ r) (status : AsyncOpStatus) :
    Waits ref n (s.terminateOp env status r) := by
  obtain ⟨type, id⟩ := r
  unfold Client.terminateOp
  cases type with
  | connect =>
    refine h.withOp fun op hop => ?_
    obtain rfl := (Keyed.mem_of_find hop).2
    exact h.completed hne op.cb _
  | keepAlive => exact h.completeRef hne
  | disconnect => exact h.completeRef hne
  | subscribe =>
    refine h.withOp fun op hop => ?_
    obtain rfl := (Keyed.mem_of_find hop).2
    exact h.completed hne op.cb _
  | unsubscribe =>
    refine h.withOp fun op hop => ?_
    obtain rfl := (Keyed.mem_of_find hop).2
    exact h.completed hne op.cb _
  | recv => exact h.completeRef hne
  | send =>
    refine h.withOp fun op hop => ?_
    obtain rfl := (mem_of_sendOp? hop).2
    exact h.sendOpCompleteWithCb hne status none
  | reauth =>
    refine h.withOp fun op hop => ?_
    obtain rfl := (Keyed.mem_of_find hop).2
    exact h.completed hne op.cb _

section Stored

variable (hsend : ref.type = .send)

include hsend

/-- Publishes are not terminated with a connection whose session is kept. -/
theorem terminateOps (h : Waits ref n s) (status : AsyncOpStatus) :
    Waits ref n (s.terminateOps env status true) := by
  refine h.forEachOp fun r u hu => ?_
  split
  · exact hu
  · rename_i hkind
    refine hu.terminateOp env ?_ status
    rintro rfl
    exact hkind (by simp [OpRef.isSendRecv, hsend])

/-- To hear of the end of the connection takes nothing away. -/
theorem connectivityChanged (h : Waits ref n s) : Waits ref n (s.forEachOp connectivityChanged) := by
  refine h.forEachOp fun r u hu => ?_
  unfold Client.connectivityChanged
  split
  · refine hu.withOp fun op hop => ?_
    unfold connectOpConnectivityChanged
    split
    · refine hu.completed (r := ⟨.connect, op.id⟩) ?_ op.cb _
      rintro rfl
      cases hsend
    · exact hu
  · exact hu.withOp fun op _ => hu.timers _
  · exact hu.withOp fun op _ => hu.timers _
  · exact hu

variable (env) in
/-- The end of a connection whose session is kept leaves the publishes. -/
theorem brokerDisconnected (h : Waits ref n s) (hn : 0 < n) (reason : Option BrokerDisconnectReason)
    (status : AsyncOpStatus) (info : Option DisconnectInfo) :
    Waits ref n (s.brokerDisconnected env reason status info) := by
  have hkeep : s.preserveSendRecv = true := by
    obtain ⟨op, hop, -⟩ := h.queued hsend
    have hne : s.sendOps.isEmpty = false := by
      rw [List.isEmpty_eq_false_iff]
      exact List.ne_nil_of_mem hop
    unfold preserveSendRecv
    rw [h.expiry, hne, decide_eq_true hn, Bool.not_false, Bool.or_true, Bool.and_true]
  have hmark : Waits ref n s.markDisconnecting := by
    rw [markDisconnecting_eq]
    exact h.same rfl rfl rfl
  have hkept : Waits ref n
      ((s.markDisconnecting.terminateOps env status true).forEachOp
        Client.connectivityChanged).startSessionExpiry := by
    unfold startSessionExpiry
    split
    · exact ((hmark.terminateOps hsend status).connectivityChanged hsend).timerWait _ _ _
    · exact (hmark.terminateOps hsend status).connectivityChanged hsend
  unfold Client.brokerDisconnected
  rw [hkeep]
  dsimp only
  rw [if_pos rfl]
  split
  · exact hkept
  · exact hkept.emit _

variable (env) in
/-- So does an own DISCONNECT with a reason. -/
theorem terminationWithReason (h : Waits ref n s) (hn : 0 < n) (reason : ReasonCode) :
    Waits ref n (s.terminationWithReason env reason) := by
  unfold Client.terminationWithReason
  exact (h.post env _).brokerDisconnected env hsend hn _ _ _

end Stored

/-- A termination is survived by a publish of a session that is kept. -/
theorem terminated (h : Waits ref n s) (hok : ref.type = .send ∧ 0 < n) (reason : ReasonCode) :
    Waits ref n (s.terminationWithReason env reason) :=
  h.terminationWithReason env hok.1 hok.2 reason

end Waits

end Mqtt5
