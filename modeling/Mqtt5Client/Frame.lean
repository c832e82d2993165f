import Mqtt5Client.Acts

/-!
# Mqtt5Client — what the other operations leave alone

The results on publishes read a part of the state only (`PubView`). `Frame lock scope s t` says that
going from `s` to `t` leaves this part alone, arms no response timer of a publish, creates no
operation identifier twice and is a sequence of the elementary updates; with `lock` it also leaves the
preparation lock alone and adds no unsent operation of another type, and `scope` says which of the notable
kinds of updates it may use. Every function that is not about publishes satisfies it; the lemmas have the
form "one more such step is allowed", so they chain.
-/

namespace Mqtt5

/-! ## How far an operation has come -/

/-- An operation that has a callback without being sent does not occur. -/
inductive Prep where
  | preparing
  | done
  | odd
  deriving DecidableEq, Repr

def Prep.of (sent cb : Bool) : Prep := if sent then .done else if cb then .odd else .preparing

/-- An operation that was sent is done, whatever its callback. -/
theorem Prep.of_done {sent cb : Bool} : Prep.of sent cb = .done ↔ sent = true := by
  cases sent <;> cases cb <;> decide

def ConnectOp.prep (op : ConnectOp) : Prep := .of op.sent op.cb
def DisconnectOp.prep (op : DisconnectOp) : Prep := .of op.sent false
def SubscribeOp.prep (op : SubscribeOp) : Prep := .of op.sent op.cb
def UnsubscribeOp.prep (op : UnsubscribeOp) : Prep := .of op.sent op.cb
def ReauthOp.prep (op : ReauthOp) : Prep := .of op.sent op.cb

/-! ## The view -/

/-- The events the results on publishes speak of. -/
def Event.isPub : Event → Bool
  | .output (.publish _) _ => true
  | .output (.pubrel _) (some _) => true
  | .output (.connect _) _ => true
  | .publishCb .. => true
  | .publishSend .. => true
  | .sendOpErased _ => true
  | _ => false

/-- The events of publishes are not those of the control messages. -/
theorem Event.isControl_of_isPub {e : Event} (h : e.isPub = true) : e.isControl = false := by
  cases e with
  | output msg source =>
    cases msg with
    | pubrel m => cases source <;> first | rfl | cases h
    | _ => first | rfl | cases h
  | _ => first | rfl | cases h

def OpRef.sendId : Option OpRef → Option OpId
  | some ⟨.send, id⟩ => some id
  | _ => none

/-- The publish whose response timer a slot is. -/
def TimerInfo.sendId (info : TimerInfo) : Option OpId :=
  match info.timeoutCb with
  | some (.sendTimeout id) => some id
  | _ => none

/-- The part of the state the results on publishes read. -/
structure PubView where
  sendOps : List SendOp
  sendRefs : List OpId
  inFlightSends : Nat
  sendTopicAliases : List TopicAliasInfo
  sendTopicFreeAliases : List Nat
  highQosSendLimit : Nat
  maxSendTopicAlias : Nat
  maxSendPacketSize : Nat
  connected : Bool
  disconnecting : Bool
  publishOrdering : PublishOrdering
  log : List Event

namespace Client

def view (s : Client) : PubView :=
  { sendOps := s.sendOps
    sendRefs := s.ops.filterMap OpRef.sendId
    inFlightSends := s.clientState.inFlightSends
    sendTopicAliases := s.clientState.sendTopicAliases
    sendTopicFreeAliases := s.sessionState.sendTopicFreeAliases
    highQosSendLimit := s.sessionState.highQosSendLimit
    maxSendTopicAlias := s.sessionState.maxSendTopicAlias
    maxSendPacketSize := s.sessionState.maxSendPacketSize
    connected := s.sessionState.connected
    disconnecting := s.sessionState.disconnecting
    publishOrdering := s.configState.publishOrdering
    log := s.log.filter Event.isPub }

/-- The publishes with an armed response timer. -/
def sendTimers (s : Client) : List OpId := s.timerMgr.timers.filterMap TimerInfo.sendId

/-- The operations of the other types that can be in preparation, and how far they have come. -/
def lockKeys (s : Client) : List (OpRef × Prep) :=
  s.connectOps.map (fun op => (⟨.connect, op.id⟩, op.prep)) ++
  s.disconnectOps.map (fun op => (⟨.disconnect, op.id⟩, op.prep)) ++
  s.subscribeOps.map (fun op => (⟨.subscribe, op.id⟩, op.prep)) ++
  s.unsubscribeOps.map (fun op => (⟨.unsubscribe, op.id⟩, op.prep)) ++
  s.reauthOps.map (fun op => (⟨.reauth, op.id⟩, op.prep))

/-- No two of them have the same identity. -/
def LockDistinct (s : Client) : Prop := (s.lockKeys.map Prod.fst).Nodup

/-- The lock was never released while it was free. -/
def LockSound (s : Client) : Prop := .assertFailed .allowNextPrepare ∉ s.faults

/-- The lock is the same, no operation was added, and a registered one stays registered. -/
structure LockLe (s t : Client) : Prop where
  locked : t.preparationLocked = s.preparationLocked
  sound : s.LockSound → t.LockSound
  keys : t.lockKeys.Sublist s.lockKeys
  refs : s.LockDistinct → ∀ k ∈ t.lockKeys, some k.1 ∈ s.ops → some k.1 ∈ t.ops

/-- What a frame says about the data: it also holds inside of an elementary update. -/
structure Still (lock : Bool) (s t : Client) : Prop where
  view : t.view = s.view
  timers : ∀ id ∈ t.sendTimers, id ∈ s.sendTimers
  nextOpId : s.nextOpId ≤ t.nextOpId
  lockLe : lock = true → LockLe s t

structure Frame (lock : Bool) (scope : Scope) (s t : Client) : Prop extends Still lock s t where
  acts : Acts lock scope s t

variable {s t u : Client} {a : Bool} {b : Scope} {act : Act}

/-- Pointers may be added, and null pointers may go. -/
theorem LockLe.of_ops (hl : t.preparationLocked = s.preparationLocked)
    (hk : t.lockKeys = s.lockKeys) (ho : ∀ ref, some ref ∈ s.ops → some ref ∈ t.ops)
    (hf : s.LockSound → t.LockSound) : LockLe s t :=
  ⟨hl, hf, hk ▸ .refl _, fun _ k _ h => ho k.1 h⟩

theorem LockLe.refl (s : Client) : LockLe s s := .of_ops rfl rfl (fun _ h => h) fun h => h

/-- The operations stay distinct. -/
theorem LockLe.distinct (h : LockLe s t) (hd : s.LockDistinct) : t.LockDistinct :=
  (h.keys.map Prod.fst).nodup hd

/-- Nothing new in one step and in the next. -/
theorem LockLe.trans (h : LockLe s t) (h' : LockLe t u) : LockLe s u where
  locked := h'.locked.trans h.locked
  sound := fun hs => h'.sound (h.sound hs)
  keys := h'.keys.trans h.keys
  refs := fun hd k hk hs => h'.refs (h.distinct hd) k hk (h.refs hd k (h'.keys.subset hk) hs)

theorem Still.refl (a : Bool) (s : Client) : Still a s s :=
  ⟨rfl, fun _ h => h, Nat.le_refl _, fun _ => .refl s⟩

/-- Two parts that leave the publishes alone. -/
theorem Still.trans (h : Still a s t) (h' : Still a t u) : Still a s u where
  view := h'.view.trans h.view
  timers := fun id hid => h.timers id (h'.timers id hid)
  nextOpId := Nat.le_trans h.nextOpId h'.nextOpId
  lockLe := fun ha => (h.lockLe ha).trans (h'.lockLe ha)

/-- A step that changes none of the fields read by the frame. -/
theorem Still.of_eq (hv : t.view = s.view) (ht : t.sendTimers = s.sendTimers)
    (hn : t.nextOpId = s.nextOpId) (hl : t.preparationLocked = s.preparationLocked)
    (hk : t.lockKeys = s.lockKeys) (ho : t.ops = s.ops)
    (hf : s.LockSound → t.LockSound) : Still a s t :=
  ⟨hv, fun _ h => ht ▸ h, Nat.le_of_eq hn.symm, fun _ => .of_ops hl hk (fun _ h => ho ▸ h) hf⟩

/-- A step that changes timers only. -/
theorem Still.of_timers {m : TimerMgr}
    (h : ∀ id ∈ m.timers.filterMap TimerInfo.sendId, id ∈ s.sendTimers) :
    Still a s { s with timerMgr := m } :=
  ⟨rfl, h, Nat.le_refl _, fun _ => .of_ops rfl rfl (fun _ h => h) fun h => h⟩

@[grind .]
theorem Frame.refl (a : Bool) (b : Scope) (s : Client) : Frame a b s s := ⟨.refl a s, .refl⟩

/-- Two parts of a function. -/
theorem Frame.trans (h : Frame a b s t) (h' : Frame a b t u) : Frame a b s u :=
  ⟨h.toStill.trans h'.toStill, Relation.ReflTransGen.trans h.acts h'.acts⟩

/-- One more update. -/
theorem Frame.update (h : Frame a b s t) (hs : Still a t u) (hp : Prim act t u)
    (ha : act.allowed a b = true) : Frame a b s u :=
  h.trans ⟨hs, .of hp ha⟩

/-- What is left alone with the lock and the receptions is left alone. -/
theorem Frame.weaken (h : Frame a b s t) : Frame false .begins s t :=
  ⟨⟨h.view, h.timers, h.nextOpId, by simp⟩, h.acts.mono (by simp) fun _ _ => rfl⟩

/-- A frame that leaves the lock is one that need not. -/
theorem Frame.forget {b' : Scope} (h : Frame true b s t) (hb : b.Le b') : Frame a b' s t :=
  ⟨⟨h.view, h.timers, h.nextOpId, fun _ => h.lockLe rfl⟩, h.acts.mono (by simp) hb⟩

/-! ## Elementary updates -/

/-- An event that is neither of a publish nor a report nor a control message. -/
@[grind ←]
theorem Frame.emit (h : Frame a b s t) {e : Event} (he : e.isPub = false)
    (hr : e.isReport = false) (hc : e.isControl = false) :
    Frame a b s (t.emit e) := by
  have hne : ∀ msg source, e ≠ .output (.connect msg) source := by
    rintro msg source rfl
    cases he
  refine h.update (.of_eq ?_ rfl rfl rfl rfl rfl fun h => h) (.emit e hr (e.grounded hc hne t)) ?_
  · simp [Client.view, Client.emit, he]
  · exact Act.allowed_of rfl fun h => absurd (hc.symm.trans h) (by simp)

/-- An entry of the error log. -/
@[grind ←]
theorem Frame.errorLog (h : Frame a b s t) (m : String) : Frame a b s (t.errorLog m) :=
  h.emit rfl rfl rfl

@[grind ←]
theorem Frame.fail (h : Frame a b s t) (m : String) (ec : ErrorCode) :
    Frame a b s (t.fail m ec).1 :=
  h.errorLog m

/-- A failure elsewhere than in the release of the lock. -/
theorem LockSound.fault {f : Fault} (hf : f ≠ .assertFailed .allowNextPrepare)
    (h : s.LockSound) : (s.fault f).LockSound := by
  intro hm
  rcases List.mem_append.mp hm with hm | hm
  · exact h hm
  · exact hf (List.mem_singleton.mp hm).symm

theorem Still.fault (h : Still a s t) (f : Fault)
    (hf : f ≠ .assertFailed .allowNextPrepare) : Still a s (t.fault f) :=
  h.trans (.of_eq rfl rfl rfl rfl rfl rfl (.fault hf))

theorem Still.assert (h : Still a s t) (site : Site) (c : Bool)
    (hf : site ≠ .allowNextPrepare) : Still a s (t.assert site c) := by
  unfold Client.assert
  split
  · exact h
  · exact h.fault _ (by simpa using hf)

@[grind ←]
theorem Frame.fault (h : Frame a b s t) (f : Fault) (hf : f.plain = true) :
    Frame a b s (t.fault f) :=
  h.update ((Still.refl a t).fault f (by rintro rfl; cases hf)) (.fault f hf) rfl

/-- An assertion of a plain site. -/
@[grind ←]
theorem Frame.assert (h : Frame a b s t) (site : Site) (c : Bool)
    (hf : (Fault.assertFailed site).plain = true) : Frame a b s (t.assert site c) := by
  unfold Client.assert
  split
  · exact h
  · exact h.fault _ hf

/-- A null pointer is met. -/
theorem Frame.null (h : Frame a b s t) (hb : Recv.Le .aborts b) : Frame a b s (t.fault .nullPointer) :=
  h.update ((Still.refl a t).fault _ (by simp)) .null (Act.allowed_of rfl fun _ => hb _ rfl)

/-! ## Timers -/

/-- A changed slot is no new timer of a publish. -/
theorem filterMap_modify_subset {l : List TimerInfo} {idx : Nat} {f : TimerInfo → TimerInfo}
    (hf : ∀ x, (f x).sendId = x.sendId ∨ (f x).sendId = none) :
    ∀ id ∈ (l.modify idx f).filterMap TimerInfo.sendId, id ∈ l.filterMap TimerInfo.sendId := by
  intro id hid
  obtain ⟨x, hx, hxid⟩ := List.mem_filterMap.mp hid
  obtain ⟨n, hn, rfl⟩ := List.mem_iff_getElem.mp hx
  rw [List.getElem_modify] at hxid
  have hl : n < l.length := by simpa using hn
  refine List.mem_filterMap.mpr ⟨l[n], List.getElem_mem hl, ?_⟩
  split at hxid
  · rcases hf l[n] with h | h
    · rw [← h]; exact hxid
    · rw [h] at hxid; cases hxid
  · exact hxid

/-- A slot is changed that does not become the timer of a publish. -/
theorem Still.modifySlot {idx : Nat} {f : TimerInfo → TimerInfo}
    (hf : ∀ x, (f x).sendId = x.sendId ∨ (f x).sendId = none) :
    Still a s { s with timerMgr := s.timerMgr.modifySlot idx f } :=
  .of_timers (filterMap_modify_subset hf)

/-- Arming a timer of an operation that is not a publish. -/
theorem Still.timerWait (h : Still a s t) (timer : Option Nat) (ms : Nat) {cb : TimeoutCb}
    (hcb : ∀ id, cb ≠ .sendTimeout id) : Still a s (t.timerWait timer ms cb) := by
  refine h.trans ?_
  cases timer with
  | none => exact .refl a t
  | some idx =>
    refine Still.modifySlot fun x => Or.inr ?_
    cases cb <;> first | rfl | exact absurd rfl (hcb _)

/-- An operation other than a publish arms its timer. -/
theorem Frame.timerWait (h : Frame a b s t) (timer : Option Nat) (ms : Nat) {cb : TimeoutCb}
    (hcb : ∀ id, cb ≠ .sendTimeout id) (howns : t.owns timer cb)
    (hms : ∀ id, cb = .keepAlivePing id → ms = t.sessionState.keepAliveMs ∧ ms ≠ 0)
    (hexp : cb.isExpiry = true → b.admits (.arm cb) = true) :
    Frame a b s (t.timerWait timer ms cb) :=
  h.update ((Still.refl a t).timerWait timer ms hcb) (.arm timer ms cb howns hms)
    (Act.allowed_of rfl hexp)

/-- And disarms it. -/
theorem Frame.timerCancel (h : Frame a b s t) {timer : Option Nat} {cb : TimeoutCb}
    (howns : t.owns timer cb)
    (hd : cb.isWatched = true → b.admits (.disarm cb) = true) :
    Frame a b s (t.timerCancel timer) := by
  refine h.update ?_ (.disarm timer cb howns) (Act.allowed_of rfl hd)
  cases timer with
  | none => exact .refl a t
  | some idx => exact Still.modifySlot fun x => Or.inr rfl

/-- The timer is suspended while there is no connection. -/
theorem Frame.timerSetSuspended [b.Resumes] (h : Frame a b s t) {timer : Option Nat} {cb : TimeoutCb}
    (howns : t.owns timer cb) (hcb : cb.isSuspended = true) : Frame a b s (t.timerSetSuspended timer
      (!t.sessionState.connected || t.clientState.networkDisconnected)) := by
  refine h.update ?_ (.suspend timer cb howns hcb) (Act.allowed_of rfl fun _ => Scope.Resumes.suspend)
  cases timer with
  | none => exact .refl a t
  | some idx =>
    unfold Client.timerSetSuspended TimerMgr.setSuspended
    dsimp only
    split
    · exact Still.modifySlot fun x => Or.inl rfl
    · exact .refl a t

theorem Still.timerFree (h : Still a s t) (timer : Option Nat) :
    Still a s (t.timerFree timer) := by
  refine h.trans ?_
  cases timer with
  | none => exact .refl a t
  | some idx =>
    unfold Client.timerFree TimerMgr.freeTimer
    dsimp only
    split
    · exact .refl a t
    · refine .of_timers fun id hid => ?_
      obtain ⟨x, hx, hxid⟩ := List.mem_filterMap.mp hid
      rcases List.mem_or_eq_of_mem_set hx with hx | rfl
      · exact List.mem_filterMap.mpr ⟨x, hx, hxid⟩
      · cases hxid

/-- A new timer is not armed yet. -/
theorem Still.timerAlloc (h : Still a s t) (env : Env) : Still a s (t.timerAlloc env).1 := by
  refine h.trans ?_
  unfold Client.timerAlloc TimerMgr.allocTimer
  dsimp only
  split
  · exact .of_timers (filterMap_modify_subset fun x => Or.inl rfl)
  · split
    · exact .refl a t
    · refine .of_timers fun id hid => ?_
      rw [List.filterMap_append] at hid
      rcases List.mem_append.mp hid with h | h
      · exact h
      · simp [TimerInfo.sendId] at h

/-! ## Output -/

/-- A loop of steps that are allowed. -/
theorem Frame.foldl {α : Type} {f : Client → α → Client} (hf : ∀ t x, Frame a b t (f t x))
    (l : List α) (h : Frame a b s t) : Frame a b s (l.foldl f t) := by
  induction l generalizing t with
  | nil => exact h
  | cons x xs ih => exact ih (h.trans (hf t x))

/-- The timer for PINGREQ begins anew. -/
theorem Frame.restartPingTimer (h : Frame a b s t) {op : KeepAliveOp} (hop : op ∈ t.keepAliveOps) :
    Frame a b s (t.restartPingTimer op) := by
  unfold Client.restartPingTimer
  split
  · exact h
  · rename_i hms
    exact h.timerWait _ _ (by simp) ⟨op, hop, rfl, rfl⟩ (fun _ _ => ⟨rfl, hms⟩) nofun

theorem Frame.restartRecvTimer (h : Frame a b s t) {op : KeepAliveOp} (hop : op ∈ t.keepAliveOps) :
    Frame a b s (t.restartRecvTimer op) := by
  unfold Client.restartRecvTimer
  split
  · exact h
  · exact h.timerWait _ _ (by simp) ⟨op, hop, rfl, rfl⟩ nofun nofun

/-- A loop over some operations that are still there in every round. -/
theorem Frame.foldMem {α : Type} (ops : Client → List α) {f : Client → α → Client}
    (hf : ∀ t, ∀ op ∈ ops t, Frame a b t (f t op)) (hops : ∀ t op, ops (f t op) = ops t)
    {l : List α} (hl : ∀ op ∈ l, op ∈ ops t) (h : Frame a b s t) :
    Frame a b s (l.foldl f t) := by
  induction l generalizing t with
  | nil => exact h
  | cons op l ih =>
    refine ih (fun x hx => ?_) (h.trans (hf t op (hl op List.mem_cons_self)))
    rw [hops]
    exact hl x (List.mem_cons_of_mem _ hx)

/-- Arming a timer changes no list. -/
theorem timerWait_keepAliveOps (timer : Option Nat) (ms : Nat) (cb : TimeoutCb) :
    (t.timerWait timer ms cb).keepAliveOps = t.keepAliveOps := by
  cases timer <;> rfl

/-- Every keep alive operation hears of a sent message. -/
@[grind ←]
theorem Frame.keepAliveMessageSent (h : Frame a b s t) : Frame a b s t.keepAliveMessageSent := by
  refine Frame.foldMem Client.keepAliveOps
    (fun t op hop => (Frame.refl a b t).restartPingTimer hop) (fun t op => ?_) (fun _ hop => hop) h
  unfold Client.restartPingTimer
  split
  · rfl
  · exact timerWait_keepAliveOps _ _ _

/-- And of a received one. -/
@[grind ←]
theorem Frame.keepAliveMessageReceived (h : Frame a b s t) :
    Frame a b s t.keepAliveMessageReceived := by
  refine Frame.foldMem Client.keepAliveOps
    (fun t op hop => (Frame.refl a b t).restartRecvTimer hop) (fun t op => ?_) (fun _ hop => hop) h
  unfold Client.restartRecvTimer
  split
  · rfl
  · exact timerWait_keepAliveOps _ _ _

/-- A message other than a publish is handed over. -/
theorem Frame.output [b.Talks] (h : Frame a b s t) {m : OutMsg} (hm : m.isOther = true)
    (hg : m.Grounded t) : Frame a b s (t.emit (.output m none)) := by
  have he : (Event.output m none).isPub = false := by cases m <;> first | rfl | cases hm
  refine h.update (.of_eq ?_ rfl rfl rfl rfl rfl fun h => h) (.emit _ rfl hg)
    (Act.allowed_of rfl fun _ => Scope.Talks.output m)
  simp [Client.view, Client.emit, he]

/-- A message other than PUBLISH, its acknowledgements and CONNECT is sent. -/
theorem Frame.sendMessage [b.Talks] (h : Frame a b s t) (env : Env) {m : OutMsg}
    (hm : m.isOther = true) (hg : m.Grounded t) :
    Frame a b s (t.sendMessage env m none).1 := by
  unfold Client.sendMessage
  dsimp only
  split
  · exact h.errorLog _
  · split
    · exact h.errorLog _
    · exact (h.output hm hg).keepAliveMessageSent

/-- The same for a message whose failure is not looked at. -/
theorem Frame.post [b.Talks] (h : Frame a b s t) (env : Env) {msg : OutMsg}
    (hm : msg.isOther = true) (hg : msg.Grounded t) : Frame a b s (t.post env msg) :=
  h.sendMessage env hm hg

/-- DISCONNECT with a reason code. -/
@[grind ←]
theorem Frame.sendDisconnectMsg [b.Talks] (h : Frame a b s t) (env : Env) (reason : ReasonCode) :
    Frame a b s (t.sendDisconnectMsg env reason) :=
  h.post env rfl trivial

/-! ## Packet identifiers and the registry -/

/-- A packet identifier is taken. -/
theorem Still.allocPacketId (h : Still a s t) (env : Env) :
    Still a s (t.allocPacketId env).1 := by
  unfold Client.allocPacketId
  dsimp only
  split
  · refine h.trans (.of_eq ?_ rfl rfl rfl rfl rfl fun h => h)
    simp [Client.view, Client.errorLog, Client.emit, Event.isPub]
  · exact h.trans (.of_eq rfl rfl rfl rfl rfl rfl fun h => h)

/-- And given back. -/
theorem Still.releasePacketId (h : Still a s t) (id : Nat) :
    Still a s (t.releasePacketId id) := by
  unfold Client.releasePacketId
  split
  · exact h
  · split
    · exact h.trans (.of_eq rfl rfl rfl rfl rfl rfl fun h => h)
    · exact h.fault _ (by simp)

/-- Registering an operation of another type. -/
theorem Still.registerOp (h : Still a s t) {type : OpType} (hs : type ≠ .send) :
    Still a s (t.registerOp type) := by
  refine h.trans ⟨?_, fun _ h => h, Nat.le_succ _,
    fun _ => .of_ops rfl rfl (fun _ h => List.mem_append_left _ h) fun h => h⟩
  have : OpRef.sendId (some ⟨type, t.nextOpId⟩) = none := by cases type <;> first | rfl | simp at hs
  simp [Client.view, Client.registerOp, this]

/-- A pointer that is set to null is no longer listed. -/
theorem filterMap_nullify {ref : OpRef} {f : Option OpRef → Option OpId} (hnone : f none = none)
    (href : f (some ref) = none) (ops : List (Option OpRef)) :
    (nullify ref ops).filterMap f = ops.filterMap f := by
  induction ops with
  | nil => rfl
  | cons p ps ih =>
    unfold nullify
    split
    · rename_i hp
      simp [hp, hnone, href]
    · simp [List.filterMap_cons, ih]

/-- The other pointers stay. -/
theorem mem_nullify {ref ref' : OpRef} (hne : ref' ≠ ref) {ops : List (Option OpRef)}
    (h : some ref' ∈ ops) : some ref' ∈ nullify ref ops := by
  induction ops with
  | nil => cases h
  | cons p ps ih =>
    unfold nullify
    split
    · rename_i hp
      rcases List.mem_cons.mp h with h | h
      · exact absurd (Option.some.inj (h.trans hp)) hne
      · exact List.mem_cons_of_mem _ h
    · rcases List.mem_cons.mp h with h | h
      · exact h ▸ List.mem_cons_self
      · exact List.mem_cons_of_mem _ (ih h)

/-- The first half of `opComplete` for an operation of another type; its pointer goes. -/
theorem unregisterOp_eq {ref : OpRef} (hu : t.unregisterOp ref = some u) :
    u = { t with ops := nullify ref t.ops, opsDeleted := true } := by
  unfold Client.unregisterOp at hu
  split at hu
  · exact (Option.some.inj hu).symm
  · cases hu

/-- Null pointers are dropped: they are no operation's pointers. -/
theorem filterMap_filter_isSome {f : Option OpRef → Option OpId} (hf : f none = none)
    (ops : List (Option OpRef)) : (ops.filter (·.isSome)).filterMap f = ops.filterMap f := by
  induction ops with
  | nil => rfl
  | cons p ps ih => cases p <;> simp [hf, ih, List.filterMap_cons]

/-- The null pointers are removed at the end of a call. -/
@[grind ←]
theorem Frame.cleanOps (h : Frame a b s t) : Frame a b s t.cleanOps := by
  refine h.update ?_ .clean rfl
  unfold Client.cleanOps
  split
  · refine ⟨?_, fun _ h => h, Nat.le_refl _, fun _ => .of_ops rfl rfl (fun _ h => ?_) fun h => h⟩
    · simp only [Client.view, filterMap_filter_isSome (f := OpRef.sendId) rfl]
    · exact List.mem_filter.mpr ⟨h, rfl⟩
  · exact .refl a t

/-- `allowNextPrepare` changes the lock only. -/
theorem Frame.allowNextPrepare (h : Frame false b s t) : Frame false b s t.allowNextPrepare := by
  refine h.update ?_ .unlock rfl
  unfold Client.allowNextPrepare Client.assert
  split <;> exact ⟨rfl, fun _ h => h, Nat.le_refl _, by simp⟩

end Client

end Mqtt5
