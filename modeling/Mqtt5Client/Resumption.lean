import Mqtt5Client.Invariants

/-!
# Mqtt5Client — what `resumeSendOpsSince` achieves

Resuming a publish may complete it, and completing it resumes others from inside the loop. The measure
is the number of postponed publishes: every round takes one of them out of that state before anything
else is called, so the fuel of `resumeLoop` never runs out and more of it changes nothing. The effect is
that of one pass over the queue: the postponed publishes from the given position on are transmitted or
refused one after the other, up to the first one that cannot be sent, and nothing behind it changes.
-/

namespace Mqtt5

open Client

variable {env : Env} {s t u : Client} {op : SendOp} {idx next n : Nat}
  {wake wake' : Nat → Client → Client}

/-! ## The measure -/

/-- Updates that leave the marks alone keep the measure. -/
theorem pausedCount_modify (s : Client) (id : OpId) {f : SendOp → SendOp}
    (hf : ∀ op, (f op).paused = op.paused) :
    pausedCount (s.modifySendOp id f).sendOps = pausedCount s.sendOps := by
  unfold modifySendOp pausedCount
  rw [List.countP_map]
  refine List.countP_congr fun op _ => ?_
  show (if op.id == id then f op else op).paused = true ↔ op.paused = true
  split
  · rw [hf]
  · exact Iff.rfl

/-- A publish that is resumed is not postponed any more. -/
theorem pausedCount_resume {f : SendOp → SendOp} (hf : ∀ op, (f op).paused = false)
    (hop : op ∈ s.sendOps) (hp : op.paused = true) :
    pausedCount (s.modifySendOp op.id f).sendOps < pausedCount s.sendOps := by
  have hle : ∀ ops : List SendOp,
      (ops.map fun o => if o.id == op.id then f o else o).countP (·.paused) ≤
        ops.countP (·.paused) := by
    intro ops
    rw [List.countP_map]
    refine List.countP_mono_left fun o _ ho => ?_
    simp only [Function.comp_apply] at ho
    split at ho
    · rw [hf] at ho
      cases ho
    · exact ho
  obtain ⟨pre, post, hsplit⟩ := List.append_of_mem hop
  have hpre := hle pre
  have hpost := hle post
  unfold modifySendOp pausedCount
  dsimp only
  rw [hsplit, List.map_append, List.map_cons, List.countP_append, List.countP_append,
    List.countP_cons_of_pos (p := fun o : SendOp => o.paused) hp,
    List.countP_cons_of_neg (by simp [hf])]
  omega

theorem sendOps_erase (op : SendOp) (s : Client) :
    (s.eraseSendOp op).sendOps = s.sendOps.eraseP (·.id == op.id) := by
  unfold eraseSendOp
  rw [timerFree_eq, releasePacketId_eq]
  rfl

/-- A publish that leaves does not raise the measure. -/
theorem pausedCount_erase (op : SendOp) (s : Client) :
    pausedCount (s.eraseSendOp op).sendOps ≤ pausedCount s.sendOps := by
  rw [sendOps_erase]
  exact (List.eraseP_sublist).countP_le

/-! ## What the functions do with the resuming function -/

/-- The two resuming functions do the same while at most `n` publishes are postponed. -/
def SameWake (n : Nat) (wake wake' : Nat → Client → Client) : Prop :=
  ∀ i u, pausedCount u.sendOps ≤ n → wake i u = wake' i u

section Wake

variable (h : SameWake n wake wake')

include h

/-- Two resuming functions that agree below the measure complete a publish alike. -/
theorem opComplete_congr (id : OpId) (hn : pausedCount s.sendOps ≤ n) :
    SendOp.opComplete wake id s = SendOp.opComplete wake' id s := by
  unfold SendOp.opComplete
  cases hu : s.unregisterOp ⟨.send, id⟩ with
  | none => rfl
  | some s' =>
    have hops : s'.sendOps = s.sendOps := by rw [unregisterOp_eq hu]
    dsimp only
    cases s'.sendOp? id with
    | none => rfl
    | some op =>
      have hle := pausedCount_erase op s'
      rw [hops] at hle
      dsimp only
      split
      · rfl
      · exact h _ _ (by omega)

/-- So they do with its callback. -/
theorem completeWithCb_congr (op : SendOp) (status : AsyncOpStatus)
    (response : Option PublishResponse) (hn : pausedCount s.sendOps ≤ n) :
    SendOp.completeWithCb wake op status response s =
      SendOp.completeWithCb wake' op status response s := by
  have hinner : SendOp.opCompleteInternal wake op s = SendOp.opCompleteInternal wake' op s := by
    unfold SendOp.opCompleteInternal
    split
    · refine opComplete_congr h _ ?_
      show pausedCount (s.assert _ _).sendOps ≤ n
      rw [(SameOps.assert s _ _).sendOps]
      exact hn
    · exact opComplete_congr h _ hn
  unfold SendOp.completeWithCb
  rw [hinner]

end Wake

theorem sendMessage_sendOps (msg : OutMsg) (source : Option PublishSource) :
    (s.sendMessage env msg source).1.sendOps = s.sendOps := by
  rw [sendMessage_eq]

/-- The steps of `doSendInternal` in front of the completion leave the measure. -/
theorem doSend_congr (h : SameWake n wake wake') (op : SendOp) (hn : pausedCount s.sendOps ≤ n) :
    SendOp.doSendInternal env wake op s = SendOp.doSendInternal env wake' op s := by
  unfold SendOp.doSendInternal
  dsimp only
  split
  · rfl
  · split
    · congr 1
      refine completeWithCb_congr h _ _ _ ?_
      rw [(SameOps.assert _ _ _).sendOps, pausedCount_modify]
      · dsimp only
        rw [sendMessage_sendOps, pausedCount_modify]
        · exact hn
        · intro op
          rfl
      · intro op
        rfl
    · rfl

/-- `resume` calls the resuming function with fewer postponed publishes. -/
theorem resume_congr (h : SameWake n wake wake') (hop : op ∈ s.sendOps)
    (hn : pausedCount s.sendOps ≤ n + 1) :
    SendOp.resume env wake op s = SendOp.resume env wake' op s := by
  unfold SendOp.resume
  cases hp : op.paused with
  | false => rfl
  | true =>
    have hlt : pausedCount (s.modifySendOp op.id ({ · with paused := false })).sendOps <
        pausedCount s.sendOps := pausedCount_resume (fun _ => rfl) hop hp
    have hsend : SendOp.doSendInternal env wake { op with paused := false }
          (s.modifySendOp op.id ({ · with paused := false })) =
        SendOp.doSendInternal env wake' { op with paused := false }
          (s.modifySendOp op.id ({ · with paused := false })) := doSend_congr h _ (by omega)
    dsimp only
    rw [hsend]
    split
    · rfl
    · split
      · rfl
      · split
        · rfl
        · rename_i hfail
          congr 1
          refine completeWithCb_congr h _ _ _ ?_
          -- a failed `doSendInternal` has resumed nothing
          have hsame : pausedCount (SendOp.doSendInternal env wake' { op with paused := false }
              (s.modifySendOp op.id ({ · with paused := false }))).1.sendOps =
              pausedCount (s.modifySendOp op.id ({ · with paused := false })).sendOps := by
            unfold SendOp.doSendInternal at hfail ⊢
            dsimp only at hfail ⊢
            split at hfail
            · rename_i hec
              rw [if_pos hec, sendMessage_sendOps, pausedCount_modify]
              intro op
              rfl
            · split at hfail <;> exact absurd rfl hfail
          omega

/-! ## The measure goes down -/

/-- The resuming function postpones nothing. -/
def NonePaused (wake : Nat → Client → Client) : Prop :=
  ∀ i u, pausedCount (wake i u).sendOps ≤ pausedCount u.sendOps

section Wake

variable (h : NonePaused wake)

include h

/-- A completion does not raise the measure. -/
theorem opComplete_pausedCount (id : OpId) :
    pausedCount (SendOp.opComplete wake id s).sendOps ≤ pausedCount s.sendOps := by
  unfold SendOp.opComplete
  cases hu : s.unregisterOp ⟨.send, id⟩ with
  | none => exact Nat.le_refl _
  | some s' =>
    have hops : s'.sendOps = s.sendOps := by rw [unregisterOp_eq hu]
    dsimp only
    cases s'.sendOp? id with
    | none => exact Nat.le_of_eq (congrArg pausedCount hops)
    | some op =>
      have hle := pausedCount_erase op s'
      rw [hops] at hle
      dsimp only
      split
      · exact hle
      · exact Nat.le_trans (h _ _) hle

/-- Nor does the callback. -/
theorem completeWithCb_pausedCount (op : SendOp) (status : AsyncOpStatus)
    (response : Option PublishResponse) :
    pausedCount (SendOp.completeWithCb wake op status response s).sendOps ≤
      pausedCount s.sendOps := by
  have hinner : pausedCount (SendOp.opCompleteInternal wake op s).sendOps ≤
      pausedCount s.sendOps := by
    unfold SendOp.opCompleteInternal
    split
    · refine Nat.le_trans (opComplete_pausedCount h _) (Nat.le_of_eq (congrArg pausedCount ?_))
      exact (SameOps.assert s _ _).sendOps
    · exact opComplete_pausedCount h _
  unfold SendOp.completeWithCb
  dsimp only
  split
  · exact hinner
  · exact hinner

/-- Nor does a transmission. -/
theorem doSend_pausedCount (op : SendOp) :
    pausedCount (SendOp.doSendInternal env wake op s).1.sendOps ≤ pausedCount s.sendOps := by
  have hsent : pausedCount ((s.modifySendOp op.id ({ · with sendAttempts := 0 })).sendMessage env
      (.publish op.pubMsg) (some op.source)).1.sendOps = pausedCount s.sendOps := by
    rw [sendMessage_sendOps, pausedCount_modify]
    intro op
    rfl
  unfold SendOp.doSendInternal
  dsimp only
  split
  · exact Nat.le_of_eq hsent
  · split
    · refine Nat.le_trans (completeWithCb_pausedCount h _ _ _) (Nat.le_of_eq ?_)
      rw [(SameOps.assert _ _ _).sendOps, pausedCount_modify]
      · exact hsent
      · intro op
        rfl
    · show pausedCount (Client.assert _ _ _).sendOps ≤ _
      rw [(SameOps.assert _ _ _).sendOps, pausedCount_modify]
      · exact Nat.le_of_eq hsent
      · intro op
        rfl

/-- A publish that is resumed leaves the postponed ones. -/
theorem resume_pausedCount (hop : op ∈ s.sendOps)
    (hr : (SendOp.resume env wake op s).2 = true) :
    pausedCount (SendOp.resume env wake op s).1.sendOps < pausedCount s.sendOps := by
  unfold SendOp.resume at hr ⊢
  cases hp : op.paused with
  | false => simp [hp] at hr
  | true =>
    have hlt : pausedCount (s.modifySendOp op.id ({ · with paused := false })).sendOps <
        pausedCount s.sendOps := pausedCount_resume (fun _ => rfl) hop hp
    have hsend : pausedCount (SendOp.doSendInternal env wake { op with paused := false }
          (s.modifySendOp op.id ({ · with paused := false }))).1.sendOps ≤
        pausedCount (s.modifySendOp op.id ({ · with paused := false })).sendOps :=
      doSend_pausedCount h _
    rw [hp] at hr
    cases hcan : s.canSend op with
    | false => simp [hcan] at hr
    | true =>
      dsimp only
      rw [Bool.not_true, if_neg Bool.false_ne_true, if_neg Bool.false_ne_true]
      split
      · exact Nat.lt_of_le_of_lt hsend hlt
      · exact Nat.lt_of_le_of_lt (completeWithCb_pausedCount h _ _ _)
          (Nat.lt_of_le_of_lt hsend hlt)

end Wake

/-- The loop does not raise the measure. -/
theorem resumeLoop_pausedCount (fuel : Nat) : NonePaused (resumeLoop env fuel) := by
  induction fuel with
  | zero => exact fun _ _ => Nat.le_refl _
  | succ fuel ih =>
    intro idx s
    unfold resumeLoop
    cases hnext : nextPaused s.sendOps idx with
    | none => exact Nat.le_refl _
    | some next =>
      obtain ⟨-, ⟨op, hget, hp⟩, -⟩ := nextPaused_some hnext
      dsimp only
      rw [hget]
      dsimp only
      have hop : op ∈ s.sendOps := List.mem_of_getElem? hget
      split
      · rename_i hres
        exact Nat.le_trans (ih _ _) (Nat.le_of_lt (resume_pausedCount ih hop hres))
      · rename_i hres
        -- nothing was resumed
        suffices h : (SendOp.resume env (resumeLoop env fuel) op s).1 = s by
          exact Nat.le_of_eq (congrArg (fun t => pausedCount t.sendOps) h)
        unfold SendOp.resume at hres ⊢
        dsimp only at hres ⊢
        split
        · rfl
        · split
          · rfl
          · rename_i hpaused hcan
            rw [if_neg hpaused, if_neg hcan] at hres
            split at hres <;> exact absurd rfl hres

/-- The number of postponed publishes is enough fuel: with more of it the loop does the same. -/
theorem resumeLoop_fuel {fuel fuel' : Nat} (hfuel : pausedCount s.sendOps ≤ fuel)
    (hfuel' : pausedCount s.sendOps ≤ fuel') :
    resumeLoop env fuel idx s = resumeLoop env fuel' idx s := by
  -- without a postponed publish the loop ends at once, whatever the fuel
  have hdone : ∀ {idx : Nat} {s : Client} (fuel : Nat), pausedCount s.sendOps = 0 →
      resumeLoop env fuel idx s = s := by
    intro idx s fuel hzero
    cases fuel with
    | zero => rfl
    | succ fuel =>
      unfold resumeLoop
      cases hnext : nextPaused s.sendOps idx with
      | none => rfl
      | some next =>
        obtain ⟨-, ⟨op, hget, hp⟩, -⟩ := nextPaused_some hnext
        exact absurd hp (List.countP_eq_zero.mp hzero op (List.mem_of_getElem? hget))
  induction fuel generalizing fuel' idx s with
  | zero => rw [hdone 0 (by omega), hdone fuel' (by omega)]
  | succ fuel ih =>
    cases fuel' with
    | zero => rw [hdone 0 (by omega), hdone (fuel + 1) (by omega)]
    | succ fuel' =>
      unfold resumeLoop
      cases hnext : nextPaused s.sendOps idx with
      | none => rfl
      | some next =>
        obtain ⟨-, ⟨op, hget, hp⟩, -⟩ := nextPaused_some hnext
        have hop : op ∈ s.sendOps := List.mem_of_getElem? hget
        have hpos : 0 < pausedCount s.sendOps := List.countP_pos_iff.mpr ⟨op, hop, hp⟩
        have hsame : SameWake (pausedCount s.sendOps - 1) (resumeLoop env fuel)
            (resumeLoop env fuel') := fun i u hu => ih (by omega) (by omega)
        have hres : SendOp.resume env (resumeLoop env fuel) op s =
            SendOp.resume env (resumeLoop env fuel') op s := resume_congr hsame hop (by omega)
        dsimp only
        rw [hget]
        dsimp only
        rw [hres]
        split
        · rename_i hresumed
          have hlt := resume_pausedCount (resumeLoop_pausedCount fuel') hop hresumed
          exact ih (by omega) (by omega)
        · rfl

/-! ## One pass over the queue -/

/-- The status a publish is completed with when the delayed `sendMessage` fails. -/
def Client.refusal (env : Env) (s : Client) (op : SendOp) : AsyncOpStatus :=
  SendOp.resumeStatus (s.sendMessage env (.publish op.pubMsg) (some op.source)).2

/-- What becomes of a publish the pass goes over. A postponed one is transmitted and published, or
leaves the queue: because it has QoS 0, or because it is refused. -/
def Client.afterResume (env : Env) (s : Client) (op : SendOp) : Option SendOp :=
  if op.paused then
    if s.fits env (.publish op.pubMsg) && op.qos != .atMostOnceDelivery then
      some { op with paused := false, published := true, sendAttempts := 1 }
    else none
  else some op

/-- Its transmission and its removal. -/
def Client.resumeTrace (env : Env) (s : Client) (op : SendOp) : List Event :=
  if op.paused then
    (if s.fits env (.publish op.pubMsg) then [.output (.publish op.pubMsg) (some op.source)] else [])
      ++ (if (s.afterResume env op).isNone then [.sendOpErased op.id] else [])
  else []

/-- Its completion callback: `Complete` when it was delivered with QoS 0, the error when it was
refused, and none while it waits for its acknowledgement. -/
def Client.resumeCbs (env : Env) (s : Client) (op : SendOp) : List Event :=
  if op.paused && op.cb then
    if s.fits env (.publish op.pubMsg) then
      if op.qos = .atMostOnceDelivery then [.publishCb op.id .complete none] else []
    else [.publishCb op.id (s.refusal env op) none]
  else []

def Event.isPublishCb : Event → Bool
  | .publishCb .. => true
  | _ => false

/-- It takes a place among the publishes in flight: it waits for its acknowledgement. -/
def Client.entersFlight (env : Env) (s : Client) (op : SendOp) : Bool :=
  op.paused && (s.afterResume env op).isSome

/-- The client when the turn of the first publish of `rest` comes: the pass from the position `idx` has
gone over the publishes `pre`, and it has not touched `rest`. -/
def Client.atTurn (env : Env) (idx : Nat) (s : Client) (pre rest : List SendOp) : Client :=
  { s with
    sendOps := s.sendOps.take idx ++ (pre.filterMap (s.afterResume env) ++ rest)
    clientState := { s.clientState with
      inFlightSends := s.clientState.inFlightSends + pre.countP (s.entersFlight env) } }

/-- What the pass reads of the configuration and of the session, and leaves as it is. -/
structure SameLimits (s t : Client) : Prop where
  size : t.sessionState.maxSendPacketSize = s.sessionState.maxSendPacketSize
  window : t.sessionState.highQosSendLimit = s.sessionState.highQosSendLimit
  ordering : t.configState.publishOrdering = s.configState.publishOrdering

/-- The pass from the position `idx` has gone over `seg` and left `rest`. Every postponed publish of
`seg` could be sent at its turn. The callbacks `owed` are still to come: a publish is reported after
everything that its completion resumes. -/
structure Pass (env : Env) (idx : Nat) (s t : Client) (seg rest : List SendOp) (es owed : List Event) :
    Prop where
  split : s.sendOps.drop idx = seg ++ rest
  turns : ∀ pre op post, seg = pre ++ op :: post → op.paused = true →
    (s.atTurn env idx pre (op :: post ++ rest)).canSend op = true
  queue : t.sendOps = s.sendOps.take idx ++ (seg.filterMap (s.afterResume env) ++ rest)
  inFlight : t.clientState.inFlightSends =
    s.clientState.inFlightSends + seg.countP (s.entersFlight env)
  log : t.view.log = s.view.log ++ es
  trace : es.filter (fun e => !e.isPublishCb) = seg.flatMap (s.resumeTrace env)
  callbacks : (es.filter Event.isPublishCb ++ owed).Perm (seg.flatMap (s.resumeCbs env))
  limits : SameLimits s t

/-- The pass has ended: the next publish cannot be sent. -/
def Client.Stopped (t : Client) (rest : List SendOp) : Prop :=
  ∀ op, rest.head? = some op → op.paused = true ∧ t.canSend op = false

theorem afterResume_unpaused {x : SendOp} (h : s.afterResume env op = some x) : x.paused = false := by
  unfold afterResume at h
  split at h
  · split at h
    · rw [← Option.some.inj h]
    · cases h
  · rename_i hp
    rw [← Option.some.inj h]
    exact Bool.eq_false_iff.mpr hp

theorem SameLimits.refl (s : Client) : SameLimits s s := ⟨rfl, rfl, rfl⟩

theorem SameLimits.trans (h : SameLimits s t) (h' : SameLimits t u) : SameLimits s u :=
  ⟨h'.size.trans h.size, h'.window.trans h.window, h'.ordering.trans h.ordering⟩

theorem SameLimits.of_view {v : PubView} (h : t.view = v)
    (hsize : v.maxSendPacketSize = s.view.maxSendPacketSize)
    (hwindow : v.highQosSendLimit = s.view.highQosSendLimit)
    (hordering : v.publishOrdering = s.view.publishOrdering) : SameLimits s t where
  size := (congrArg PubView.maxSendPacketSize h).trans hsize
  window := (congrArg PubView.highQosSendLimit h).trans hwindow
  ordering := (congrArg PubView.publishOrdering h).trans hordering

/-- Whether a publish can be sent depends on the queue, the publishes in flight and the limits. -/
theorem canSend_congr (h : SameLimits s t) (hops : t.sendOps = s.sendOps)
    (hflight : t.clientState.inFlightSends = s.clientState.inFlightSends) (op : SendOp) :
    t.canSend op = s.canSend op := by
  unfold canSend
  rw [h.window, h.ordering, hops, hflight]

/-! ### Publishes that are not postponed -/

/-- A publish that is not postponed stays as it is. -/
theorem afterResume_of_unpaused (hp : op.paused = false) : s.afterResume env op = some op := by
  unfold afterResume
  rw [hp, if_neg Bool.false_ne_true]

theorem filterMap_unpaused {seg : List SendOp} (h : ∀ op ∈ seg, op.paused = false) :
    seg.filterMap (s.afterResume env) = seg := by
  rw [List.filterMap_congr fun op hop => afterResume_of_unpaused (h op hop)]
  exact List.filterMap_some

theorem trace_unpaused {seg : List SendOp} (h : ∀ op ∈ seg, op.paused = false) :
    seg.flatMap (s.resumeTrace env) = [] := by
  refine List.flatMap_eq_nil_iff.mpr fun op hop => ?_
  unfold resumeTrace
  rw [h op hop, if_neg Bool.false_ne_true]

theorem cbs_unpaused {seg : List SendOp} (h : ∀ op ∈ seg, op.paused = false) :
    seg.flatMap (s.resumeCbs env) = [] := by
  refine List.flatMap_eq_nil_iff.mpr fun op hop => ?_
  unfold resumeCbs
  rw [h op hop, Bool.false_and, if_neg Bool.false_ne_true]

theorem countP_unpaused {seg : List SendOp} (h : ∀ op ∈ seg, op.paused = false) :
    seg.countP (s.entersFlight env) = 0 := by
  refine List.countP_eq_zero.mpr fun op hop => ?_
  unfold entersFlight
  rw [h op hop, Bool.false_and]
  exact Bool.false_ne_true

/-- The size limit of the broker decides whether a message is sent. -/
theorem sendMessage_code (h : t.sessionState.maxSendPacketSize = s.sessionState.maxSendPacketSize)
    (msg : OutMsg) (source : Option PublishSource) :
    (t.sendMessage env msg source).2 = (s.sendMessage env msg source).2 := by
  unfold sendMessage
  dsimp only
  rw [h]
  split
  · rfl
  · split <;> rfl

/-- What the pass does to a publish depends on the client only by the limit of the broker. -/
theorem pass_congr (env : Env)
    (h : t.sessionState.maxSendPacketSize = s.sessionState.maxSendPacketSize) :
    t.afterResume env = s.afterResume env ∧ t.resumeTrace env = s.resumeTrace env ∧
      t.resumeCbs env = s.resumeCbs env ∧ t.entersFlight env = s.entersFlight env := by
  have hfits : ∀ msg, t.fits env msg = s.fits env msg := fits_congr h
  have hafter : t.afterResume env = s.afterResume env := by
    funext op
    unfold afterResume
    rw [hfits]
  refine ⟨hafter, ?_, ?_, ?_⟩
  · funext op
    unfold resumeTrace
    rw [hfits, hafter]
  · funext op
    unfold resumeCbs refusal
    rw [hfits, sendMessage_code h]
  · funext op
    unfold entersFlight
    rw [hafter]

/-! ### Passes one after the other -/

variable {seg seg' rest rest' : List SendOp} {es es' owed : List Event}

/-- Nothing is done before the first postponed publish. -/
theorem Pass.start (hsplit : s.sendOps.drop idx = seg ++ rest)
    (hnone : ∀ op ∈ seg, op.paused = false) : Pass env idx s s seg rest [] [] where
  split := hsplit
  turns pre op post hseg hp := by
    rw [hnone op (by simp [hseg])] at hp
    cases hp
  queue := by rw [filterMap_unpaused hnone, ← hsplit, List.take_append_drop]
  inFlight := by rw [countP_unpaused hnone, Nat.add_zero]
  log := (List.append_nil _).symm
  trace := (trace_unpaused hnone).symm
  callbacks := by
    rw [cbs_unpaused hnone]
    exact .refl _
  limits := .refl s

/-- A turn of the second pass is a turn of both passes together. -/
theorem Pass.atTurn (h : Pass env idx s t seg rest es owed) (hidx : idx ≤ s.sendOps.length)
    (pre later : List SendOp) (op : SendOp) :
    (t.atTurn env idx (seg.filterMap (s.afterResume env) ++ pre) later).canSend op =
      (s.atTurn env idx (seg ++ pre) later).canSend op := by
  obtain ⟨hafter, -, -, henters⟩ := pass_congr env h.limits.size
  have hlen : (s.sendOps.take idx).length = idx := by
    rw [List.length_take]
    omega
  have htake : t.sendOps.take idx = s.sendOps.take idx := by
    rw [h.queue, List.take_append_of_le_length (by omega), List.take_of_length_le (by omega)]
  have hdone : ∀ op ∈ seg.filterMap (s.afterResume env), op.paused = false := by
    intro op hop
    obtain ⟨x, -, hx⟩ := List.mem_filterMap.mp hop
    exact afterResume_unpaused hx
  have hlimits : SameLimits (s.atTurn env idx (seg ++ pre) later)
      (t.atTurn env idx (seg.filterMap (s.afterResume env) ++ pre) later) :=
    ⟨h.limits.size, h.limits.window, h.limits.ordering⟩
  refine canSend_congr hlimits ?_ ?_ op
  · show t.sendOps.take idx ++ _ = s.sendOps.take idx ++ _
    rw [htake, hafter, List.filterMap_append, List.filterMap_append, filterMap_unpaused hdone]
  · show t.clientState.inFlightSends + _ = s.clientState.inFlightSends + _
    rw [h.inFlight, henters, List.countP_append, List.countP_append, countP_unpaused hdone]
    omega

/-- The second pass goes on where the first one has stopped; it meets what the first one has left
behind, and that is not postponed. -/
theorem Pass.trans (h : Pass env idx s t seg rest es owed) (h' : Pass env idx t u seg' rest' es' [])
    (hidx : idx ≤ s.sendOps.length) (hstop : u.Stopped rest') :
    ∃ seg'', Pass env idx s u seg'' rest' (es ++ es') owed := by
  obtain ⟨hafter, htrace, hcbs, henters⟩ := pass_congr env h.limits.size
  have hlen : (s.sendOps.take idx).length = idx := by
    rw [List.length_take]
    omega
  have hdrop : seg.filterMap (s.afterResume env) ++ rest = seg' ++ rest' := by
    rw [← h'.split, h.queue, List.drop_append_of_le_length (by omega),
      List.drop_of_length_le (by omega), List.nil_append]
  have htake : t.sendOps.take idx = s.sendOps.take idx := by
    rw [h.queue, List.take_append_of_le_length (by omega), List.take_of_length_le (by omega)]
  have hdone : ∀ op ∈ seg.filterMap (s.afterResume env), op.paused = false := by
    intro op hop
    obtain ⟨x, -, hx⟩ := List.mem_filterMap.mp hop
    exact afterResume_unpaused hx
  -- the second pass covers all that the first one has left
  obtain ⟨more, hseg', hrest⟩ : ∃ more, seg' = seg.filterMap (s.afterResume env) ++ more ∧
      rest = more ++ rest' := by
    rcases List.append_eq_append_iff.mp hdrop with ⟨more, hseg', hrest⟩ | ⟨left, hseg, hrest'⟩
    · exact ⟨more, hseg', hrest⟩
    · cases left with
      | nil =>
        rw [List.append_nil] at hseg
        exact ⟨[], by rw [List.append_nil, hseg], hrest'.symm⟩
      | cons op left =>
        have hp := (hstop op (by rw [hrest', List.cons_append, List.head?_cons])).1
        rw [hdone op (by rw [hseg]; exact List.mem_append_right _ List.mem_cons_self)] at hp
        cases hp
  refine ⟨seg ++ more, ?_, fun pre op post heq hp => ?_, ?_, ?_, ?_, ?_, ?_, h.limits.trans h'.limits⟩
  · rw [h.split, hrest, List.append_assoc]
  · -- the publish is one of the first pass, or one of the second
    rcases List.append_eq_append_iff.mp heq with ⟨pre', hpre, hmore⟩ | ⟨post', hseg, hpost⟩
    · have hturn := h'.turns (seg.filterMap (s.afterResume env) ++ pre') op post
        (by rw [hseg', hmore, List.append_assoc]) hp
      rw [h.atTurn hidx, ← hpre] at hturn
      exact hturn
    · cases post' with
      | nil =>
        rw [List.append_nil] at hseg
        have hturn := h'.turns (seg.filterMap (s.afterResume env)) op post
          (by rw [hseg', hpost, List.nil_append]) hp
        rw [← List.append_nil (seg.filterMap (s.afterResume env)), h.atTurn hidx, List.append_nil,
          hseg] at hturn
        exact hturn
      | cons x post' =>
        rw [List.cons_append, List.cons.injEq] at hpost
        obtain ⟨rfl, rfl⟩ := hpost
        have hturn := h.turns pre op post' hseg hp
        rw [hrest, ← List.append_assoc, List.cons_append] at hturn
        exact hturn
  · rw [h'.queue, htake, hseg', hafter, List.filterMap_append, List.filterMap_append,
      filterMap_unpaused hdone]
  · rw [h'.inFlight, h.inFlight, hseg', henters, List.countP_append, List.countP_append,
      countP_unpaused hdone]
    omega
  · rw [h'.log, h.log, List.append_assoc]
  · rw [List.filter_append, h.trace, h'.trace, htrace, hseg', List.flatMap_append,
      List.flatMap_append, trace_unpaused hdone, List.nil_append]
  · have hperm := h'.callbacks
    rw [List.append_nil, hcbs, hseg', List.flatMap_append, cbs_unpaused hdone,
      List.nil_append] at hperm
    rw [List.filter_append, List.flatMap_append, List.append_assoc]
    refine List.Perm.trans ?_ (h.callbacks.append hperm)
    rw [List.append_assoc]
    exact List.Perm.append_left _ List.perm_append_comm

/-- A publish is reported when the pass its completion has started is over. -/
theorem Pass.report {id : OpId} {status : AsyncOpStatus} {cb : Bool}
    (h : Pass env idx s t seg rest es (if cb then [.publishCb id status none] else [])) :
    Pass env idx s (if cb then t.emit (.publishCb id status none) else t) seg rest
      (es ++ if cb then [.publishCb id status none] else []) [] := by
  cases cb with
  | false =>
    rw [if_neg Bool.false_ne_true] at h ⊢
    rw [if_neg Bool.false_ne_true, List.append_nil]
    exact h
  | true =>
    rw [if_pos rfl] at h ⊢
    rw [if_pos rfl]
    refine ⟨h.split, h.turns, h.queue, h.inFlight, ?_, ?_, ?_,
      ⟨h.limits.size, h.limits.window, h.limits.ordering⟩⟩
    · show List.filter _ (t.log ++ [_]) = _
      rw [List.filter_append, ← List.append_assoc, ← h.log]
      rfl
    · rw [List.filter_append, h.trace]
      exact List.append_nil _
    · rw [List.filter_append, List.append_nil]
      exact h.callbacks

/-- The publishes between the two positions are not postponed. -/
theorem Pass.widen (h : Pass env next s t seg rest es owed) (hle : idx ≤ next)
    (hlen : next ≤ s.sendOps.length)
    (hbetween : ∀ i o, idx ≤ i → i < next → s.sendOps[i]? = some o → o.paused = false) :
    Pass env idx s t ((s.sendOps.take next).drop idx ++ seg) rest es owed := by
  have hnone : ∀ op ∈ (s.sendOps.take next).drop idx, op.paused = false := by
    intro op hop
    obtain ⟨i, hi, rfl⟩ := List.mem_iff_getElem.mp hop
    rw [List.length_drop, List.length_take] at hi
    rw [List.getElem_drop, List.getElem_take]
    exact hbetween (idx + i) _ (by omega) (by omega) (List.getElem?_eq_getElem (by omega))
  have htake : s.sendOps.take idx ++ (s.sendOps.take next).drop idx = s.sendOps.take next := by
    have hfront : s.sendOps.take idx = (s.sendOps.take next).take idx := by
      rw [List.take_take, Nat.min_eq_left hle]
    rw [hfront, List.take_append_drop]
  -- the turns are the same, for the publishes in between stay as they are
  have hturn : ∀ pre later : List SendOp, s.atTurn env next pre later =
      s.atTurn env idx ((s.sendOps.take next).drop idx ++ pre) later := by
    intro pre later
    unfold Client.atTurn
    rw [List.filterMap_append, filterMap_unpaused hnone, List.countP_append, countP_unpaused hnone,
      Nat.zero_add, List.append_assoc, ← List.append_assoc (List.take idx _), htake]
  refine ⟨?_, fun pre op post heq hp => ?_, ?_, ?_, h.log, ?_, ?_, h.limits⟩
  · rw [List.append_assoc, ← h.split, ← List.drop_append_of_le_length
      (by rw [List.length_take]; omega), List.take_append_drop]
  · rcases List.append_eq_append_iff.mp heq with ⟨pre', hpre, hseg⟩ | ⟨post', hfront, hpost⟩
    · rw [hpre, ← hturn]
      exact h.turns pre' op post hseg hp
    · cases post' with
      | nil =>
        rw [List.append_nil] at hfront
        have hown := h.turns [] op post hpost.symm hp
        rw [hturn, List.append_nil, hfront] at hown
        exact hown
      | cons x post' =>
        rw [List.cons_append, List.cons.injEq] at hpost
        rw [hnone op (by rw [hfront, ← hpost.1]; simp)] at hp
        cases hp
  · rw [List.filterMap_append, filterMap_unpaused hnone, h.queue, List.append_assoc,
      ← List.append_assoc (List.take idx _), htake]
  · rw [h.inFlight, List.countP_append, countP_unpaused hnone, Nat.zero_add]
  · rw [List.flatMap_append, trace_unpaused hnone, List.nil_append, h.trace]
  · rw [List.flatMap_append, cbs_unpaused hnone, List.nil_append]
    exact h.callbacks

/-! ### One round -/

/-- The queue around a position. -/
theorem queue_split (hget : s.sendOps[next]? = some op) :
    s.sendOps = s.sendOps.take next ++ op :: s.sendOps.drop (next + 1) := by
  obtain ⟨hlt, rfl⟩ := List.getElem?_eq_some_iff.mp hget
  rw [List.getElem_cons_drop, List.take_append_drop]

/-- The end of a completion: the publishes behind are resumed, then the completed one is reported. -/
theorem Pass.complete {status : AsyncOpStatus} {cb : Bool}
    (h : Pass env next s u seg rest es (if cb then [.publishCb op.id status none] else []))
    (hlen : next ≤ s.sendOps.length)
    (hwake : ∃ seg rest es, Pass env next u (wake next u) seg rest es [] ∧
      (wake next u).Stopped rest) :
    ∃ seg rest es, Pass env next s (if cb then (wakeFrom wake next u).emit
      (.publishCb op.id status none) else wakeFrom wake next u) seg rest es [] := by
  unfold wakeFrom
  by_cases hd : u.sessionState.disconnecting = true
  · rw [if_pos hd]
    exact ⟨_, _, _, h.report⟩
  · rw [if_neg hd]
    obtain ⟨seg', rest', es', hpass, hstop⟩ := hwake
    obtain ⟨seg'', hall⟩ := h.trans hpass hlen hstop
    exact ⟨_, _, _, hall.report⟩

section Round

variable (hr : Reg s) (hget : s.sendOps[next]? = some op) (hp : op.paused = true)
  (hcan : s.canSend op = true)

include hget

theorem drop_split : s.sendOps.drop next = [op] ++ s.sendOps.drop (next + 1) := by
  obtain ⟨hlt, hval⟩ := List.getElem?_eq_some_iff.mp hget
  rw [List.drop_eq_getElem_cons hlt, hval]
  rfl

include hr

theorem erase_at : Keyed.erase SendOp.id op.id s.sendOps =
    s.sendOps.take next ++ s.sendOps.drop (next + 1) := by
  have hd := hr.distinct
  rw [queue_split hget] at hd
  conv_lhs => rw [queue_split hget]
  exact hd.erase_mid

theorem set_at {x : SendOp} (hx : x.id = op.id) : Keyed.set SendOp.id x s.sendOps =
    s.sendOps.take next ++ x :: s.sendOps.drop (next + 1) := by
  have hd := hr.distinct
  rw [queue_split hget] at hd
  conv_lhs => rw [queue_split hget]
  exact hd.set_mid hx

include hp

/-- One postponed publish less. -/
theorem pausedCount_eraseOp (hops : u.sendOps = Keyed.erase SendOp.id op.id s.sendOps) :
    pausedCount u.sendOps < pausedCount s.sendOps := by
  rw [hops, erase_at hr hget]
  conv_rhs => rw [queue_split hget]
  unfold pausedCount
  rw [List.countP_append, List.countP_append,
    List.countP_cons_of_pos (p := fun o : SendOp => o.paused) hp]
  omega

omit hr hp in
include hcan in
/-- A pass over one publish is its turn. -/
theorem turns_one (pre : List SendOp) (x : SendOp) (post : List SendOp)
    (hseg : [op] = pre ++ x :: post) :
    (s.atTurn env next pre (x :: post ++ s.sendOps.drop (next + 1))).canSend x = true := by
  obtain ⟨rfl, rfl, rfl⟩ : pre = [] ∧ x = op ∧ post = [] := by
    cases pre with
    | nil =>
      rw [List.nil_append, List.cons.injEq] at hseg
      exact ⟨rfl, hseg.1.symm, hseg.2.symm⟩
    | cons y pre => simp at hseg
  have hlimits : SameLimits s (s.atTurn env next [] ([x] ++ s.sendOps.drop (next + 1))) :=
    ⟨rfl, rfl, rfl⟩
  rw [canSend_congr hlimits (queue_split hget).symm rfl]
  exact hcan

include hcan

/-- The pass over a publish that is refused. -/
theorem Pass.refused (hfits : s.fits env (.publish op.pubMsg) = false)
    (hu : u.view = (s.view.setInFlight s.view.inFlightSends).eraseOp op.id) :
    Pass env next s u [op] (s.sendOps.drop (next + 1)) [.sendOpErased op.id]
      (if op.cb then [.publishCb op.id (s.refusal env op) none] else []) where
  split := drop_split hget
  turns := fun pre x post hseg _ => turns_one hget hcan pre x post hseg
  queue := by
    have hafter : s.afterResume env op = none := by
      unfold afterResume
      rw [if_pos hp, hfits, Bool.false_and, if_neg Bool.false_ne_true]
    rw [List.filterMap_cons_none hafter]
    exact (congrArg PubView.sendOps hu).trans (erase_at hr hget)
  inFlight := by
    have hflight : u.clientState.inFlightSends = s.clientState.inFlightSends :=
      congrArg PubView.inFlightSends hu
    rw [hflight, List.countP_singleton]
    simp [entersFlight, afterResume, hp, hfits]
  log := congrArg PubView.log hu
  trace := by simp [resumeTrace, afterResume, hp, hfits, Event.isPublishCb]
  callbacks := by
    cases hcb : op.cb <;> simp [resumeCbs, hp, hfits, hcb, Event.isPublishCb]
  limits := .of_view hu rfl rfl rfl

/-- The pass over a publish with QoS 0. -/
theorem Pass.delivered (hfits : s.fits env (.publish op.pubMsg) = true)
    (hqos : op.qos = .atMostOnceDelivery)
    (hu : u.view =
      (s.view.push (.output (.publish op.pubMsg) (some op.source))).eraseOp op.id) :
    Pass env next s u [op] (s.sendOps.drop (next + 1))
      [.output (.publish op.pubMsg) (some op.source), .sendOpErased op.id]
      (if op.cb then [.publishCb op.id .complete none] else []) where
  split := drop_split hget
  turns := fun pre x post hseg _ => turns_one hget hcan pre x post hseg
  queue := by
    have hafter : s.afterResume env op = none := by
      unfold afterResume
      rw [if_pos hp, hqos, if_neg (by simp)]
    rw [List.filterMap_cons_none hafter]
    exact (congrArg PubView.sendOps hu).trans (erase_at hr hget)
  inFlight := by
    have hflight : u.clientState.inFlightSends = s.clientState.inFlightSends :=
      congrArg PubView.inFlightSends hu
    rw [hflight, List.countP_singleton]
    simp [entersFlight, afterResume, hp, hqos]
  log := (congrArg PubView.log hu).trans (List.append_assoc _ _ _)
  trace := by simp [resumeTrace, afterResume, hp, hfits, hqos, Event.isPublishCb]
  callbacks := by
    cases hcb : op.cb <;> simp [resumeCbs, hp, hfits, hqos, hcb, Event.isPublishCb]
  limits := .of_view hu rfl rfl rfl

/-- The pass over a publish that waits for its acknowledgement. -/
theorem Pass.published (hfits : s.fits env (.publish op.pubMsg) = true)
    (hqos : op.qos ≠ .atMostOnceDelivery)
    (hu : u.view = ((s.view.push (.output (.publish op.pubMsg) (some op.source))).setInFlight
      (s.view.inFlightSends + 1)).setOp { op with paused := false, published := true, sendAttempts := 1 }) :
    Pass env next s u [op] (s.sendOps.drop (next + 1))
      [.output (.publish op.pubMsg) (some op.source)] [] where
  split := drop_split hget
  turns := fun pre x post hseg _ => turns_one hget hcan pre x post hseg
  queue := by
    have hafter : s.afterResume env op =
        some { op with paused := false, published := true, sendAttempts := 1 } := by
      unfold afterResume
      rw [if_pos hp, hfits, Bool.true_and, if_pos (by simpa using hqos)]
    rw [List.filterMap_cons_some hafter]
    exact (congrArg PubView.sendOps hu).trans (set_at hr hget rfl)
  inFlight := by
    have hflight : u.clientState.inFlightSends = s.clientState.inFlightSends + 1 :=
      congrArg PubView.inFlightSends hu
    rw [hflight, List.countP_singleton]
    simp [entersFlight, afterResume, hp, hfits, hqos]
  log := congrArg PubView.log hu
  trace := by simp [resumeTrace, afterResume, hp, hfits, hqos, Event.isPublishCb]
  callbacks := by simp [resumeCbs, hp, hfits, hqos, Event.isPublishCb]
  limits := .of_view hu rfl rfl rfl

/-- Resuming the publish at the position `next` is a pass that starts with it. -/
theorem resume_pass
    (hwake : ∀ u, Reg u → pausedCount u.sendOps < pausedCount s.sendOps →
      ∃ seg rest es, Pass env next u (wake next u) seg rest es [] ∧ (wake next u).Stopped rest) :
    (SendOp.resume env wake op s).2 = true ∧
      ∃ seg rest es, Pass env next s (SendOp.resume env wake op s).1 seg rest es [] := by
  have hop : op ∈ s.sendOps := List.mem_of_getElem? hget
  have hidx : s.sendIdx op.id = next := hr.sendIdx_eq hget
  have hlen : next ≤ s.sendOps.length := Nat.le_of_lt (List.getElem?_eq_some_iff.mp hget).1
  have hpub := (hr.wf op hop).unpublished_of_paused hp
  have hbegin : Eff false .rests s (s.modifySendOp op.id ({ · with paused := false }))
      (s.view.setOp { op with paused := false }) [] :=
    modifySendOp_eff hr.distinct hop ⟨rfl, rfl, rfl, rfl, fun _ => rfl, rfl⟩
  unfold SendOp.resume
  rw [hp, hcan]
  simp only [Bool.not_true, Bool.false_eq_true, ↓reduceIte]
  -- a publish that does not fit is refused with the code of `sendMessage`
  cases hfits : s.fits env (.publish op.pubMsg) with
  | false =>
    obtain ⟨hec, heff⟩ := doSend_of_not_fits wake hr hop hbegin hfits
    obtain ⟨u, hu, hue, -⟩ := erase_eff wake
      (y := { op with paused := false, sendAttempts := 0 }) hr hop heff rfl rfl rfl rfl
    have hreg : Reg u := hue.reg_eraseOp hr hop rfl rfl rfl
    have hlt := pausedCount_eraseOp hr hget hp (u := u) hue.sendOps_eq
    have hcode : SendOp.resumeStatus (SendOp.doSendInternal env wake { op with paused := false }
        (s.modifySendOp op.id ({ · with paused := false }))).2 = s.refusal env op := by
      unfold SendOp.doSendInternal at hec ⊢
      dsimp only at hec ⊢
      split at hec
      · rename_i hfail
        rw [if_pos hfail]
        exact congrArg SendOp.resumeStatus (sendMessage_code (s := s) (by rfl) _ _)
      · split at hec <;> exact absurd rfl hec
    have hview : u.view = (s.view.setInFlight s.view.inFlightSends).eraseOp op.id := by
      have hsame : inFlightAfter op s.view.inFlightSends = s.view.inFlightSends := by
        unfold inFlightAfter
        rw [hpub, if_neg Bool.false_ne_true]
      rw [hue.view, hsame]
    rw [if_neg hec]
    refine ⟨rfl, ?_⟩
    unfold SendOp.completeWithCb
    dsimp only
    rw [hu, hidx, hcode]
    exact (Pass.refused hr hget hp hcan hfits hview).complete hlen (hwake u hreg hlt)
  | true =>
    obtain ⟨u, hu, -, heq⟩ := doSend_sent wake hr hop hpub hbegin hfits
    rw [heq]
    -- QoS 0 is completed at once, the others stay in the queue
    by_cases hqos : op.qos = .atMostOnceDelivery
    · obtain ⟨w, hw, hwe⟩ := deliver_eff wake
        (y := { op with paused := false, published := true }) hr hop hu rfl rfl rfl rfl
      have hreg : Reg w := hwe.reg_eraseOp hr hop rfl rfl (by
        show s.view.inFlightSends = inFlightAfter op s.view.inFlightSends
        unfold inFlightAfter
        rw [hpub, if_neg Bool.false_ne_true])
      have hlt := pausedCount_eraseOp hr hget hp (u := w) hwe.sendOps_eq
      rw [if_pos hqos, if_pos rfl]
      refine ⟨rfl, ?_⟩
      unfold SendOp.completeWithCb
      dsimp only
      rw [hw, hidx]
      exact (Pass.delivered hr hget hp hcan hfits hqos hwe.view).complete hlen (hwake w hreg hlt)
    · rw [if_neg hqos, if_pos rfl]
      have htimer := hu.restartTimer (y := { op with paused := false })
        (List.mem_map.mpr ⟨op, hop, rfl⟩) rfl rfl
      exact ⟨rfl, _, _, _, Pass.published hr hget hp hcan hfits hqos htimer.view⟩

end Round

/-! ## The whole loop -/

/-- With fuel for every postponed publish the loop is one pass. -/
theorem resumeLoop_pass (fuel : Nat) (hr : Reg s) (hfuel : pausedCount s.sendOps ≤ fuel) :
    ∃ seg rest es, Pass env idx s (resumeLoop env fuel idx s) seg rest es [] ∧
      (resumeLoop env fuel idx s).Stopped rest := by
  -- nothing behind the position is postponed
  have hdone : ∀ {idx : Nat} {s : Client},
      (∀ i o, idx ≤ i → s.sendOps[i]? = some o → o.paused = false) →
      ∃ seg rest es, Pass env idx s s seg rest es [] ∧ s.Stopped rest := by
    intro idx s hnone
    refine ⟨s.sendOps.drop idx, [], [], Pass.start (List.append_nil _).symm ?_, ?_⟩
    · intro op hop
      obtain ⟨i, hi⟩ := List.mem_iff_getElem?.mp hop
      rw [List.getElem?_drop] at hi
      exact hnone (idx + i) op (Nat.le_add_right _ _) hi
    · intro op hop
      cases hop
  induction fuel generalizing idx s with
  | zero =>
    refine hdone fun i o _ ho => ?_
    have := List.countP_eq_zero.mp (Nat.le_zero.mp hfuel) o (List.mem_of_getElem? ho)
    exact Bool.eq_false_iff.mpr this
  | succ fuel ih =>
    unfold resumeLoop
    cases hnext : nextPaused s.sendOps idx with
    | none => exact hdone fun i o hi ho => nextPaused_none hnext hi ho
    | some next =>
      obtain ⟨hle, ⟨op, hget, hp⟩, hbetween⟩ := nextPaused_some hnext
      have hop : op ∈ s.sendOps := List.mem_of_getElem? hget
      have hlen : next ≤ s.sendOps.length := Nat.le_of_lt (List.getElem?_eq_some_iff.mp hget).1
      dsimp only
      rw [hget]
      dsimp only
      cases hcan : s.canSend op with
      | false =>
        -- the first one that cannot be sent
        have hstay : SendOp.resume env (resumeLoop env fuel) op s = (s, false) := by
          unfold SendOp.resume
          rw [hp, hcan]
          rfl
        rw [hstay, if_neg Bool.false_ne_true]
        have hpass : Pass env next s s [] (s.sendOps.drop next) [] [] :=
          Pass.start (List.nil_append _).symm (by simp)
        refine ⟨_, _, _, hpass.widen hle hlen hbetween, fun o ho => ?_⟩
        rw [drop_split hget, List.singleton_append, List.head?_cons] at ho
        rw [← Option.some.inj ho]
        exact ⟨hp, hcan⟩
      | true =>
        have hwake : ∀ u, Reg u → pausedCount u.sendOps < pausedCount s.sendOps →
            ∃ seg rest es, Pass env next u (resumeLoop env fuel next u) seg rest es [] ∧
              (resumeLoop env fuel next u).Stopped rest := fun u hu hlt => ih hu (by omega)
        obtain ⟨hresumed, seg, rest, es, hpass⟩ := resume_pass hr hget hp hcan hwake
        have hrun : MicroRun env (wakeGuard env next) false .rests s
            (SendOp.resume env (resumeLoop env fuel) op s).1 :=
          resume_run (fun u hu => resumeLoop_run fuel hu) hr hget (hr.firstFrom hget)
        have hlt := resume_pausedCount (resumeLoop_pausedCount fuel) hop hresumed
        have hrest : pausedCount (SendOp.resume env (resumeLoop env fuel) op s).1.sendOps ≤ fuel := by
          omega
        obtain ⟨seg', rest', es', hpass', hstop⟩ := @ih _ next (hrun.reg hr) hrest
        obtain ⟨seg'', hall⟩ := hpass.trans hpass' hlen hstop
        rw [if_pos hresumed]
        exact ⟨_, _, _, hall.widen hle hlen hbetween, hstop⟩

/-- A call of `resumeSendOpsSince` ends, and it is one pass over the queue from its position up to the
first postponed publish that cannot be sent: every postponed one in front of that could be sent at its
turn, and what is behind it is unchanged. The publishes the pass goes over are transmitted or refused in
their order and once each, and every one that leaves the queue is reported once. `Reg` is the invariant
of the queue (`reach_wf`); the limits and the ordering are those of any client. -/
theorem resumeSendOpsSince_pass (env : Env) (hr : Reg s) (idx : Nat) :
    (∀ fuel, pausedCount s.sendOps ≤ fuel →
        resumeLoop env fuel idx s = s.resumeSendOpsSince env idx) ∧
      ∃ seg rest es, Pass env idx s (s.resumeSendOpsSince env idx) seg rest es [] ∧
        (s.resumeSendOpsSince env idx).Stopped rest :=
  ⟨fun _ hfuel => resumeLoop_fuel hfuel (Nat.le_refl _),
    resumeLoop_pass _ hr (Nat.le_refl _)⟩

/-- Two publishes wait behind a published one; the ordering is relaxed, and both of them go. -/
theorem resumeSendOpsSince_pass_two : ∃ s : Client, pausedCount s.sendOps = 2 ∧
    s.sendOps.map (fun op => (op.paused, op.qos)) =
      [(false, .atLeastOnceDelivery), (true, .atMostOnceDelivery), (true, .atLeastOnceDelivery)] ∧
    ∃ seg es, Pass .dynamic 0 s (s.resumeSendOpsSince .dynamic 0) seg [] es [] ∧
      resumeLoop .dynamic 9 0 s = s.resumeSendOpsSince .dynamic 0 := by
  obtain ⟨sys, hreach, hcount, hops, hnone⟩ := exists_reach_fresh .dynamic
    (connectCalls true {} { sessionPresent := false, reasonCode := ReasonCode.success } ++
      [(.publishSetOrdering .full, 1)] ++ publishCalls 2 .atLeastOnceDelivery 4 ++
      publishCalls 3 .atMostOnceDelivery 1 ++ publishCalls 4 .atLeastOnceDelivery 1 ++
      [(.publishSetOrdering .sameQos, 1)])
    (fun sys => pausedCount sys.client.sendOps = 2 ∧
      sys.client.sendOps.map (fun op => (op.paused, op.qos)) =
        [(false, .atLeastOnceDelivery), (true, .atMostOnceDelivery), (true, .atLeastOnceDelivery)] ∧
      pausedCount (sys.client.resumeSendOpsSince .dynamic 0).sendOps = 0) (by decide +kernel)
  obtain ⟨hfuel, seg, rest, es, hpass, hstop⟩ :=
    resumeSendOpsSince_pass .dynamic (reach_wf hreach).reg 0
  refine ⟨sys.client, hcount, hops, seg, es, ?_, hfuel 9 (by rw [hcount]; decide)⟩
  cases rest with
  | nil => exact hpass
  | cons op rest =>
    -- nothing is postponed any more, so nothing has stopped the pass
    have hp := (hstop op rfl).1
    have hop : op ∈ (sys.client.resumeSendOpsSince .dynamic 0).sendOps := by
      rw [hpass.queue]
      exact List.mem_append_right _ (List.mem_append_right _ List.mem_cons_self)
    exact absurd hp (List.countP_eq_zero.mp hnone op hop)

end Mqtt5
