import Mqtt5Client.HandlerSteps

/-!
# Mqtt5Client — the calls of the API as steps

Preparation, `send` and `cancel` of the operations that are not publishes, the expired timers, and the
calls that use a handle.
-/

namespace Mqtt5

open Client

variable {env : Env} {G : Guard} {a : Bool} {b : Scope} {s t u : Client}

/-! ## Operations that are marked as sent -/

namespace Client

/-- `allowNextPrepare` clears the lock; a failed assertion is all it leaves besides. -/
theorem allowNextPrepare_eq (s : Client) :
    ∃ faults, s.allowNextPrepare = { s with faults := faults, preparationLocked := false } := by
  unfold allowNextPrepare Client.assert
  split
  · exact ⟨s.faults, rfl⟩
  · exact ⟨_, rfl⟩

/-- A `send` call releases the lock and marks its operation. -/
theorem markConnectOp_frame [b.Configures] {op : ConnectOp} (hop : op ∈ s.connectOps)
    (htimer : op.timer.isSome = true) :
    Frame false b s (s.allowNextPrepare.setConnectOp { op with sent := true, cb := true }) := by
  obtain ⟨faults, h⟩ := allowNextPrepare_eq s
  exact (Frame.refl false b s).allowNextPrepare.update ⟨rfl, fun _ h => h, Nat.le_refl _, by simp⟩
    (.markConnect op (by rw [h]; exact hop) htimer)
    (Act.allowed_iff.mpr ⟨fun _ => rfl, fun _ => Scope.Configures.mark⟩)

/-- `send` of a disconnect operation releases the lock and marks it. -/
theorem markDisconnectOp_frame {op : DisconnectOp} (hop : op ∈ s.disconnectOps) :
    Frame false b s (s.allowNextPrepare.setDisconnectOp { op with sent := true }) := by
  obtain ⟨faults, h⟩ := allowNextPrepare_eq s
  exact (Frame.refl false b s).allowNextPrepare.update ⟨rfl, fun _ h => h, Nat.le_refl _, by simp⟩
    (.markDisconnect op (by rw [h]; exact hop)) rfl

/-- `send` of a subscription, up to its checks. -/
theorem markSubscribeOp_frame {op : SubscribeOp} (hop : op ∈ s.subscribeOps) :
    Frame false b s (s.allowNextPrepare.setSubscribeOp { op with sent := true }) := by
  obtain ⟨faults, h⟩ := allowNextPrepare_eq s
  exact (Frame.refl false b s).allowNextPrepare.update ⟨rfl, fun _ h => h, Nat.le_refl _, by simp⟩
    (.markSubscribe op (by rw [h]; exact hop)) rfl

/-- `send` of the opposite of a subscription, up to its checks. -/
theorem markUnsubscribeOp_frame {op : UnsubscribeOp} (hop : op ∈ s.unsubscribeOps) :
    Frame false b s (s.allowNextPrepare.setUnsubscribeOp { op with sent := true }) := by
  obtain ⟨faults, h⟩ := allowNextPrepare_eq s
  exact (Frame.refl false b s).allowNextPrepare.update ⟨rfl, fun _ h => h, Nat.le_refl _, by simp⟩
    (.markUnsubscribe op (by rw [h]; exact hop)) rfl

/-- `send` of a reauthentication, up to its checks. -/
theorem markReauthOp_frame {op : ReauthOp} (hop : op ∈ s.reauthOps) :
    Frame false b s (s.allowNextPrepare.setReauthOp { op with sent := true }) := by
  obtain ⟨faults, h⟩ := allowNextPrepare_eq s
  exact (Frame.refl false b s).allowNextPrepare.update ⟨rfl, fun _ h => h, Nat.le_refl _, by simp⟩
    (.markReauth op (by rw [h]; exact hop)) rfl

/-! ## Preparation -/

/-- A new operation of another type takes the lock. -/
theorem prepareWith_frame {checks : List PrepareCheck} {create : Client → Client}
    (hc : (∀ c ∈ checks, c.fails = false) → Frame false b s (create s)) :
    Frame false b s (s.prepareWith checks create).1 := by
  unfold prepareWith
  split
  · exact ((Quiet.refl s).fail _ _).frame
  · rename_i hnone
    have hpass : ∀ c ∈ checks, c.fails = false := fun c hc =>
      Bool.eq_false_iff.mpr (List.find?_eq_none.mp hnone c hc)
    exact (hc hpass).update ⟨rfl, fun _ h => h, Nat.le_refl _, by simp⟩ .lock rfl

/-- Registration of a new operation in one of the lists publishes do not read. -/
theorem Still.register (h : Still false s t) {k : OpType} (hs : k ≠ .send)
    (hv : u.view = (t.registerOp k).view) (ht : u.timerMgr = t.timerMgr)
    (hn : u.nextOpId = t.nextOpId + 1) : Still false s u :=
  (h.registerOp hs).trans
    ⟨hv, fun _ h => by rwa [sendTimers, ht] at h, Nat.le_of_eq hn.symm, by simp⟩

/-- A connect operation is created while there is none and no connection. -/
theorem createConnectOp_frame (h : s.Offline) (he : s.connectOps = []) :
    Frame false b s (s.createConnectOp env) :=
  (Frame.refl false b s).update
    (((Still.refl false s).timerAlloc env).register (k := .connect) (by simp) rfl rfl rfl)
    (.createConnect env h he) rfl

/-- A disconnect operation has no timer to allocate. -/
theorem createDisconnectOp_frame (h : s.Online) (he : s.disconnectOps = []) :
    Frame false b s s.createDisconnectOp :=
  (Frame.refl false b s).update
    ((Still.refl false s).register (k := .disconnect) (by simp) rfl rfl rfl)
    (.createDisconnect h he) rfl

/-- Subscriptions may be created next to each other. -/
theorem createSubscribeOp_frame (h : s.Online) : Frame false b s (s.createSubscribeOp env) :=
  (Frame.refl false b s).update
    (((Still.refl false s).timerAlloc env).register (k := .subscribe) (by simp) rfl rfl rfl)
    (.createSubscribe env h) rfl

theorem createUnsubscribeOp_frame (h : s.Online) : Frame false b s (s.createUnsubscribeOp env) :=
  (Frame.refl false b s).update
    (((Still.refl false s).timerAlloc env).register (k := .unsubscribe) (by simp) rfl rfl rfl)
    (.createUnsubscribe env h) rfl

/-- A reauthentication is created while there is none. -/
theorem createReauthOp_frame (h : s.Online) (he : s.reauthOps = []) :
    Frame false b s (s.createReauthOp env) :=
  (Frame.refl false b s).update
    (((Still.refl false s).timerAlloc env).register (k := .reauth) (by simp) rfl rfl rfl)
    (.createReauth env h he) rfl

/-! ## `send` and `cancel` -/

/-- An operation that was stored is found. -/
theorem find_store {α : Type} {key : α → OpId} {l : List α} {op x : α} {k : OpId}
    (hop : l.find? (fun y => key y == k) = some op) (hx : key x = k) :
    (modifyFirst (fun y => key y == key x) (fun _ => x) l).find? (fun y => key y == k) = some x := by
  rw [hx]
  exact find?_modifyFirst hop (by simp [hx])

/-- And it is in its list. -/
theorem mem_store {α : Type} {key : α → OpId} {l : List α} {op x : α} {k : OpId}
    (hop : l.find? (fun y => key y == k) = some op) (hx : key x = k) :
    x ∈ modifyFirst (fun y => key y == key x) (fun _ => x) l :=
  List.mem_of_find?_eq_some (find_store hop hx)

/-- A packet identifier is taken without a change of the operations. -/
theorem allocPacketId_lists (env : Env) (s : Client) :
    (s.allocPacketId env).1.subscribeOps = s.subscribeOps ∧
      (s.allocPacketId env).1.unsubscribeOps = s.unsubscribeOps ∧
      (s.allocPacketId env).1.sendOps = s.sendOps := by
  unfold Client.allocPacketId
  dsimp only
  split
  · exact ⟨rfl, rfl, rfl⟩
  · exact ⟨rfl, rfl, rfl⟩

/-- The release of the lock changes no operation. -/
theorem allowNextPrepare_sameOps (s : Client) : SameOps s s.allowNextPrepare := by
  obtain ⟨faults, h⟩ := allowNextPrepare_eq s
  rw [h]
  constructor <;> rfl

section Request

variable (complete : Client → Client) (ref : OpRef) (msg : OutMsg) {u : Client} {c c' c'' : Prop}
  [Decidable c] [Decidable c'] [Decidable c''] {m m' m'' : String} {ec ec' ec'' : ErrorCode}
  {x : Client × ErrorCode × Bool}

variable (env) in
/-- The end of a `send` function: three checks, each of which completes the marked operation when it fails,
and a request, which completes it when it cannot be sent. It goes on from the marked operation, or from the
state in which the request was made. -/
theorem request_cases
    (hcomplete : ∀ {a : Bool} {b : Scope} {w v : Client}, Frame a b w v → v.Live ref →
      Frame a b w (complete v))
    (ht : t.Live ref) (hu : u.Live ref) (hother : msg.isOther = true) (hground : msg.Grounded u)
    (hx : x = if c then t.abandon complete m ec else if c' then t.abandon complete m' ec'
      else if c'' then t.abandon complete m'' ec''
      else if (u.sendMessage env msg none).2 ≠ .success then
        (complete (u.sendMessage env msg none).1, (u.sendMessage env msg none).2, false)
      else ((u.sendMessage env msg none).1, .success, true)) :
    ∃ v, ((v = t ∧ ∃ text, x.1 = complete (t.errorLog text)) ∨ (v = u ∧ ¬c ∧ ¬c' ∧ ¬c'')) ∧
      ∀ (a : Bool) (b : Scope) [b.Talks], Frame a b v x.1 := by
  have habandoned : ∀ text, x.1 = complete (t.errorLog text) →
      ∃ v, ((v = t ∧ ∃ text, x.1 = complete (t.errorLog text)) ∨ (v = u ∧ ¬c ∧ ¬c' ∧ ¬c'')) ∧
        ∀ (a : Bool) (b : Scope) [b.Talks], Frame a b v x.1 := fun text heq =>
    ⟨t, Or.inl ⟨rfl, text, heq⟩, fun a b _ => heq ▸ hcomplete ((Frame.refl a b t).errorLog text) ht⟩
  split at hx
  · exact habandoned m (congrArg Prod.fst hx)
  · rename_i hc
    split at hx
    · exact habandoned m' (congrArg Prod.fst hx)
    · rename_i hc'
      split at hx
      · exact habandoned m'' (congrArg Prod.fst hx)
      · rename_i hc''
        refine ⟨u, Or.inr ⟨rfl, hc, hc', hc''⟩, fun a b _ => ?_⟩
        have hsent : Frame a b u (u.sendMessage env msg none).1 :=
          (Frame.refl a b u).sendMessage env hother hground
        rw [hx]
        split
        · exact hcomplete hsent ((SameOps.sendMessage env _ _ _).live hu)
        · exact hsent

end Request

variable (env) in
/-- The rest of a `send` call, once the lock is released and the operation is marked: it may take a
packet identifier. -/
theorem subscribeSend_cases {op : SubscribeOp} {id : OpId} (hop : s.subscribeOp? id = some op)
    (cb : Bool) : ∃ t u, t = s.allowNextPrepare.setSubscribeOp { op with sent := true } ∧
      t.subscribeOp? id = some { op with sent := true } ∧
      ((u = t ∧ ∃ text,
          (s.subscribeSend env op cb).1 = (t.errorLog text).opCompleteSubscribe op.id) ∨
        (u = t.takeSubscribe env { op with sent := true } ∧
          cb = true ∧ op.subMsg.list ≠ [] ∧ op.timer.isSome = true)) ∧
      ∀ (a : Bool) (b : Scope) [b.Talks], Frame a b u (s.subscribeSend env op cb).1 := by
  have hid : op.id = id := (Keyed.mem_of_find hop).2
  set t := s.allowNextPrepare.setSubscribeOp { op with sent := true } with ht
  have hstored : t.subscribeOp? id = some { op with sent := true } := by
    have hfound : s.allowNextPrepare.subscribeOps.find? (·.id == id) = some op :=
      (allowNextPrepare_sameOps s).subscribeOps ▸ hop
    exact find_store (x := { op with sent := true }) hfound hid
  have htake : { op with sent := true, cb := true, subMsg := { op.subMsg with
      packetId := (t.allocPacketId env).2 } } ∈ (t.takeSubscribe env { op with sent := true }).subscribeOps := by
    have hfound : (t.allocPacketId env).1.subscribeOps.find? (·.id == id) = some { op with sent := true } :=
      (allocPacketId_lists env t).1 ▸ hstored
    exact mem_store hfound hid
  obtain ⟨u, hu, hframe⟩ := request_cases env (opCompleteSubscribe op.id) ⟨.subscribe, op.id⟩
    (.subscribe { op.subMsg with packetId := (t.allocPacketId env).2 }) (fun h => h.opCompleteSubscribe)
    (Live.subscribe (Keyed.mem_of_find hstored).1 :) (Live.subscribe htake :) rfl (List.ne_nil_of_mem htake)
    (rfl : s.subscribeSend env op cb = _)
  refine ⟨t, u, rfl, hstored, hu.imp_right ?_, hframe⟩
  rintro ⟨rfl, hcb, hlist, htimer⟩
  exact ⟨rfl, by simpa using hcb, hlist, Option.isSome_iff_ne_none.mpr (by simpa using htimer)⟩

/-- The packet identifier is written to the message of the marked operation. -/
theorem Still.takeSubscribe {op : SubscribeOp} {id : OpId} (hop : s.subscribeOp? id = some op)
    (hsent : op.sent = true) : Still a s (s.takeSubscribe env op) := by
  have hpid : (s.allocPacketId env).1.subscribeOp? id = some op := by
    unfold subscribeOp?
    rw [(allocPacketId_lists env s).1]
    exact hop
  exact ((Still.refl a s).allocPacketId env).setSubscribeOp hpid rfl
    (by simp [SubscribeOp.prep, Prep.of, hsent])

/-- A `send` call from the marked operation on. -/
theorem subscribeSend_still {op : SubscribeOp} {id : OpId} (hop : s.subscribeOp? id = some op)
    (cb : Bool) : Still a (s.allowNextPrepare.setSubscribeOp { op with sent := true })
      (s.subscribeSend env op cb).1 := by
  obtain ⟨t, u, rfl, hstored, ⟨rfl, -⟩ | ⟨rfl, -⟩, hf⟩ := subscribeSend_cases env hop cb
  · exact (hf a .rests).toStill
  · exact (Still.takeSubscribe hstored rfl).trans (hf a .rests).toStill

/-- `SubscribeOp::send` as a whole. -/
theorem subscribeSend_frame [b.Talks] {op : SubscribeOp} {id : OpId}
    (hop : s.subscribeOp? id = some op) (cb : Bool) : Frame false b s (s.subscribeSend env op cb).1 := by
  obtain ⟨t, u, rfl, hstored, hu, hf⟩ := subscribeSend_cases env hop cb
  have hmark := markSubscribeOp_frame (b := b) (Keyed.mem_of_find hop).1
  rcases hu with ⟨rfl, -⟩ | ⟨rfl, -⟩
  · exact hmark.trans (hf false b)
  · exact (hmark.update (Still.takeSubscribe hstored rfl)
      (.takeSubscribe env _ (Keyed.mem_of_find hstored).1) rfl).trans (hf false b)

variable (env) in
/-- The rest of a `send` call, once the lock is released and the operation is marked: it may take a
packet identifier. -/
theorem unsubscribeSend_cases {op : UnsubscribeOp} {id : OpId} (hop : s.unsubscribeOp? id = some op)
    (cb : Bool) : ∃ t u, t = s.allowNextPrepare.setUnsubscribeOp { op with sent := true } ∧
      t.unsubscribeOp? id = some { op with sent := true } ∧
      ((u = t ∧ ∃ text,
          (s.unsubscribeSend env op cb).1 = (t.errorLog text).opCompleteUnsubscribe op.id) ∨
        (u = t.takeUnsubscribe env { op with sent := true } ∧
          cb = true ∧ op.unsubMsg.list ≠ [] ∧ op.timer.isSome = true)) ∧
      ∀ (a : Bool) (b : Scope) [b.Talks], Frame a b u (s.unsubscribeSend env op cb).1 := by
  have hid : op.id = id := (Keyed.mem_of_find hop).2
  set t := s.allowNextPrepare.setUnsubscribeOp { op with sent := true } with ht
  have hstored : t.unsubscribeOp? id = some { op with sent := true } := by
    have hfound : s.allowNextPrepare.unsubscribeOps.find? (·.id == id) = some op :=
      (allowNextPrepare_sameOps s).unsubscribeOps ▸ hop
    exact find_store (x := { op with sent := true }) hfound hid
  have htake : { op with sent := true, cb := true, unsubMsg := { op.unsubMsg with
      packetId := (t.allocPacketId env).2 } } ∈
      (t.takeUnsubscribe env { op with sent := true }).unsubscribeOps := by
    have hfound : (t.allocPacketId env).1.unsubscribeOps.find? (·.id == id) = some { op with sent := true } :=
      (allocPacketId_lists env t).2.1 ▸ hstored
    exact mem_store hfound hid
  obtain ⟨u, hu, hframe⟩ := request_cases env (opCompleteUnsubscribe op.id) ⟨.unsubscribe, op.id⟩
    (.unsubscribe { op.unsubMsg with packetId := (t.allocPacketId env).2 }) (fun h => h.opCompleteUnsubscribe)
    (Live.unsubscribe (Keyed.mem_of_find hstored).1 :) (Live.unsubscribe htake :) rfl (List.ne_nil_of_mem htake)
    (rfl : s.unsubscribeSend env op cb = _)
  refine ⟨t, u, rfl, hstored, hu.imp_right ?_, hframe⟩
  rintro ⟨rfl, hcb, hlist, htimer⟩
  exact ⟨rfl, by simpa using hcb, hlist, Option.isSome_iff_ne_none.mpr (by simpa using htimer)⟩

theorem Still.takeUnsubscribe {op : UnsubscribeOp} {id : OpId} (hop : s.unsubscribeOp? id = some op)
    (hsent : op.sent = true) : Still a s (s.takeUnsubscribe env op) := by
  have hpid : (s.allocPacketId env).1.unsubscribeOp? id = some op := by
    unfold unsubscribeOp?
    rw [(allocPacketId_lists env s).2.1]
    exact hop
  exact ((Still.refl a s).allocPacketId env).setUnsubscribeOp hpid rfl
    (by simp [UnsubscribeOp.prep, Prep.of, hsent])

/-- A `send` call from the marked operation on. -/
theorem unsubscribeSend_still {op : UnsubscribeOp} {id : OpId} (hop : s.unsubscribeOp? id = some op)
    (cb : Bool) : Still a (s.allowNextPrepare.setUnsubscribeOp { op with sent := true })
      (s.unsubscribeSend env op cb).1 := by
  obtain ⟨t, u, rfl, hstored, ⟨rfl, -⟩ | ⟨rfl, -⟩, hf⟩ := unsubscribeSend_cases env hop cb
  · exact (hf a .rests).toStill
  · exact (Still.takeUnsubscribe hstored rfl).trans (hf a .rests).toStill

/-- `UnsubscribeOp::send` as a whole. -/
theorem unsubscribeSend_frame [b.Talks] {op : UnsubscribeOp} {id : OpId}
    (hop : s.unsubscribeOp? id = some op) (cb : Bool) : Frame false b s (s.unsubscribeSend env op cb).1 := by
  obtain ⟨t, u, rfl, hstored, hu, hf⟩ := unsubscribeSend_cases env hop cb
  have hmark := markUnsubscribeOp_frame (b := b) (Keyed.mem_of_find hop).1
  rcases hu with ⟨rfl, -⟩ | ⟨rfl, -⟩
  · exact hmark.trans (hf false b)
  · exact (hmark.update (Still.takeUnsubscribe hstored rfl)
      (.takeUnsubscribe env _ (Keyed.mem_of_find hstored).1) rfl).trans (hf false b)

variable (env) in
/-- `ReauthOp::send` from the marked operation on: it needs no packet identifier. -/
theorem reauthSend_frame [b.Talks] {op : ReauthOp} {id : OpId} (hop : s.reauthOp? id = some op)
    (cb : Bool) : Frame a b (s.allowNextPrepare.setReauthOp { op with sent := true })
      (s.reauthSend env op cb).1 := by
  have hid : op.id = id := (Keyed.mem_of_find hop).2
  set t := s.allowNextPrepare.setReauthOp { op with sent := true } with ht
  have hstored : t.reauthOp? id = some { op with sent := true } := by
    have hfound : s.allowNextPrepare.reauthOps.find? (·.id == id) = some op :=
      (allowNextPrepare_sameOps s).reauthOps ▸ hop
    exact find_store (x := { op with sent := true }) hfound hid
  have hready : { op with sent := true, cb := true } ∈
      (t.setReauthOp { op with sent := true, cb := true }).reauthOps := mem_store hstored hid
  obtain ⟨u, hu, hframe⟩ := request_cases env (opCompleteReauth op.id) ⟨.reauth, op.id⟩ (.auth op.authMsg)
    (fun h => h.opCompleteReauth) (Live.reauth (Keyed.mem_of_find hstored).1 :) (Live.reauth hready :) rfl
    (Or.inr (List.ne_nil_of_mem hready)) (rfl : s.reauthSend env op cb = _)
  rcases hu with ⟨rfl, -⟩ | ⟨rfl, -⟩
  · exact hframe a b
  · have hset : Frame a b t (t.setReauthOp { op with sent := true, cb := true }) :=
      (Quiet.refl t).setReauthOp (x := { op with sent := true, cb := true }) hstored ⟨rfl, rfl⟩ rfl
    exact hset.trans (hframe a b)

/-- `cancel` releases the lock for an operation without a callback. -/
theorem SameOps.cancelLock (cb : Bool) (s : Client) : SameOps s (s.cancelLock cb) := by
  unfold Client.cancelLock
  split
  · constructor <;> rfl
  · exact allowNextPrepare_sameOps s

/-- `cancel` completes an operation without a report; for one that was sent the callback is dropped. -/
theorem connectCancel_frame {op : ConnectOp} (hop : op ∈ s.connectOps) :
    Frame a b (s.cancelLock op.cb) (s.connectCancel op) :=
  (Frame.refl a b _).opCompleteConnect ((SameOps.cancelLock op.cb s).live (.connect hop))

/-- A disconnect operation cannot be cancelled once it was sent. -/
theorem disconnectCancel_frame {op : DisconnectOp} (hop : op ∈ s.disconnectOps) :
    Frame a b (s.cancelLock false) (s.disconnectCancel op) :=
  (Frame.refl a b _).opCompleteDisconnect ((SameOps.cancelLock false s).live (.disconnect hop))

theorem subscribeCancel_frame {op : SubscribeOp} (hop : op ∈ s.subscribeOps) :
    Frame a b (s.cancelLock op.cb) (s.subscribeCancel op) :=
  (Frame.refl a b _).opCompleteSubscribe ((SameOps.cancelLock op.cb s).live (.subscribe hop))

theorem unsubscribeCancel_frame {op : UnsubscribeOp} (hop : op ∈ s.unsubscribeOps) :
    Frame a b (s.cancelLock op.cb) (s.unsubscribeCancel op) :=
  (Frame.refl a b _).opCompleteUnsubscribe ((SameOps.cancelLock op.cb s).live (.unsubscribe hop))

theorem reauthCancel_frame {op : ReauthOp} (hop : op ∈ s.reauthOps) :
    Frame a b (s.cancelLock op.cb) (s.reauthCancel op) :=
  (Frame.refl a b _).opCompleteReauth ((SameOps.cancelLock op.cb s).live (.reauth hop))

end Client

/-- What is stored in an operation that goes does not matter. -/
theorem opCompleteConnect_setConnectOp {op x : ConnectOp} {id : OpId} (hop : s.connectOp? id = some op)
    (href : some ⟨.connect, id⟩ ∈ s.ops) (hid : x.id = id) (htimer : x.timer = op.timer) :
    (s.setConnectOp x).opCompleteConnect id = s.opCompleteConnect id := by
  have hop : s.connectOps.find? (·.id == id) = some op := hop
  have hfind : (modifyFirst (·.id == x.id) (fun _ => x) s.connectOps).find? (·.id == id) = some x :=
    find_store hop hid
  have herase : (modifyFirst (·.id == x.id) (fun _ => x) s.connectOps).eraseP (·.id == id) =
      s.connectOps.eraseP (·.id == id) := by
    rw [hid]
    exact eraseP_modifyFirst (by simpa using hid)
  unfold Client.opCompleteConnect Client.opCompleteWith Client.unregisterOp Client.eraseConnectOp
    Client.setConnectOp
  dsimp only
  rw [if_pos href, if_pos href]
  dsimp only
  rw [hfind, hop]
  dsimp only
  rw [herase, htimer]

/-- The operation whose CONNECT is handed over. -/
def ConnectOp.marked (op : ConnectOp) : ConnectOp := { op with sent := true, cb := true }

/-- `ConnectOp::send` completes an operation it cannot send, or hands CONNECT to the application. -/
theorem connectSend_eq (env : Env) {op : ConnectOp} {id : OpId} (hop : s.connectOp? id = some op)
    (href : some ⟨.connect, id⟩ ∈ s.ops) (cb : Bool) :
    (∃ msg, (s.connectSend env op cb).1 = (s.allowNextPrepare.errorLog msg).opCompleteConnect op.id) ∨
      (op.timer.isSome = true ∧
        (s.allowNextPrepare.setConnectOp op.marked).fits env (.connect op.connectMsg) = true ∧
        (s.connectSend env op cb).1 = ((s.allowNextPrepare.setConnectOp op.marked).sendMessage env
          (.connect op.connectMsg) none).1) := by
  have hid : op.id = id := (Keyed.mem_of_find hop).2
  subst hid
  obtain ⟨faults, hallow⟩ := allowNextPrepare_eq s
  -- the operation is completed by its identifier, whatever was stored in it meanwhile
  have hgone : ∀ (x : ConnectOp) (msg : String), x.id = op.id → x.timer = op.timer →
      ((s.allowNextPrepare.setConnectOp x).errorLog msg).opCompleteConnect op.id =
        (s.allowNextPrepare.errorLog msg).opCompleteConnect op.id := by
    intro x msg hxid hxtimer
    have hop' : (s.allowNextPrepare.errorLog msg).connectOp? op.id = some op := by
      rw [hallow]
      exact hop
    have href' : some ⟨.connect, op.id⟩ ∈ (s.allowNextPrepare.errorLog msg).ops := by
      rw [hallow]
      exact href
    exact opCompleteConnect_setConnectOp (x := x) hop' href' hxid hxtimer
  unfold connectSend
  dsimp only
  split
  · exact Or.inl ⟨_, hgone _ _ rfl rfl⟩
  · split
    · exact Or.inl ⟨_, hgone _ _ rfl rfl⟩
    · rename_i htimer
      split
      · exact Or.inl ⟨_, hgone _ _ rfl rfl⟩
      · have heq : (s.allowNextPrepare.setConnectOp { op with sent := true }).setConnectOp
            { op with sent := true, cb := true } = s.allowNextPrepare.setConnectOp op.marked := by
          unfold Client.setConnectOp
          dsimp only
          rw [modifyFirst_modifyFirst (by simp)]
          rfl
        rw [heq]
        -- CONNECT may still not fit
        cases hfits : (s.allowNextPrepare.setConnectOp op.marked).fits env (.connect op.connectMsg) with
        | false =>
          obtain ⟨text, ec, hec, hsend⟩ := sendMessage_error (o := none) hfits
          rw [hsend, if_pos hec]
          exact Or.inl ⟨_, hgone _ _ rfl rfl⟩
        | true =>
          rw [sendMessage_of_fits hfits, if_neg (by simp)]
          exact Or.inr ⟨Option.isSome_iff_ne_none.mpr (by simpa using htimer), rfl, rfl⟩

/-- The marked connect operation is stored. -/
theorem mem_marked {op : ConnectOp} {id : OpId} (hop : s.connectOp? id = some op) :
    op.marked ∈ (s.allowNextPrepare.setConnectOp op.marked).connectOps := by
  have hid : op.id = id := (Keyed.mem_of_find hop).2
  subst hid
  obtain ⟨faults, hallow⟩ := allowNextPrepare_eq s
  rw [hallow]
  exact List.mem_of_find?_eq_some (find?_modifyFirst hop (by simp [ConnectOp.marked]))

/-- `ConnectOp::send` gives up before CONNECT, or marks the operation and sends it. -/
theorem connectSend_cases (env : Env) {op : ConnectOp} {id : OpId} (hop : s.connectOp? id = some op)
    (href : some ⟨.connect, id⟩ ∈ s.ops) (cb : Bool) :
    (∃ msg, (s.connectSend env op cb).1 = (s.allowNextPrepare.errorLog msg).opCompleteConnect op.id) ∨
      (op.timer.isSome = true ∧ ∀ {G a b}, MacroRun env G a b
        (s.allowNextPrepare.setConnectOp op.marked) (s.connectSend env op cb).1) := by
  rcases connectSend_eq env hop href cb with h | ⟨htimer, hfits, heq⟩
  · exact Or.inl h
  · rw [heq]
    exact Or.inr ⟨htimer, .micro (.connect op.connectMsg
      (sendMessage_eff rfl hfits ⟨op.marked, mem_marked hop, rfl, rfl⟩))⟩

/-- `ConnectOp::send` as a whole. -/
theorem connectSend_run [b.Configures] {op : ConnectOp} {id : OpId} (hop : s.connectOp? id = some op)
    (href : some ⟨.connect, id⟩ ∈ s.ops) (cb : Bool) :
    MacroRun env G false b s (s.connectSend env op cb).1 := by
  rcases connectSend_cases env hop href cb with ⟨msg, heq⟩ | ⟨htimer, hrun⟩
  · rw [heq]
    refine .frame ((((Frame.refl false b s).allowNextPrepare).errorLog msg).opCompleteConnect ?_)
    exact (SameOps.cancelLock false s).live (.connect (Keyed.mem_of_find hop).1)
  · exact (MacroRun.frame (markConnectOp_frame (Keyed.mem_of_find hop).1 htimer)).trans hrun

/-! ## Handles -/

/-- A call that uses a handle and returns at once. -/
theorem onHandle_run {α : Type} {x : Option α} {f : α → Client → Client × ErrorCode}
    (hf : ∀ y, x = some y → MacroRun env G a b s (f y s).1) :
    MacroRun env G a b s (s.onHandle x f).1 := by
  unfold onHandle returning
  split
  · exact .frame ((Frame.refl a b s).fault _ rfl)
  · exact hf _ rfl

/-- A `send` call up to the API guard. -/
theorem sendHandle_run {α : Type} {x : Option α} {f : α → Client → Client × ErrorCode × Bool}
    {next : α → Client → List Task} (hf : ∀ y, x = some y → MacroRun env G a b s (f y s).1) :
    MacroRun env G a b s (s.sendHandle x f next).1 := by
  unfold sendHandle
  split
  · exact .frame ((Frame.refl a b s).fault _ rfl)
  · exact hf _ rfl

/-! ## Timers -/

/-- Expired timers are disarmed. -/
theorem Client.Frame.expire (h : Frame a b s t) (hb : b.admits .expire = true) (ms : Nat) :
    Frame a b s { t with timerMgr := (t.timerMgr.expire ms).1 } := by
  refine h.update (.of_timers fun id hid => ?_) (.expire ms) (Act.allowed_of rfl fun _ => hb)
  obtain ⟨info, hinfo, hid⟩ := List.mem_filterMap.mp hid
  obtain ⟨x, hx, rfl⟩ := List.mem_map.mp hinfo
  refine List.mem_filterMap.mpr ⟨x, hx, ?_⟩
  unfold TimerInfo.advance at hid
  split at hid
  · split at hid
    · cases hid
    · exact hid
  · exact hid

/-- Entering the API stops the clock of the application and collects the expired timers. -/
theorem doApiEnter_frame (hb : b.admits .expire = true) (elapsed : Nat) :
    Frame a b s (s.doApiEnter elapsed).1 := by
  have h : Frame a b s { s with apiEnterCount := s.apiEnterCount + 1 } :=
    (Frame.refl a b s).update (.of_eq rfl rfl rfl rfl rfl rfl fun h => h) (.enter _) rfl
  unfold doApiEnter
  dsimp only
  split
  · exact h
  · exact (h.emit (e := .cancelNextTickWait) rfl rfl rfl).expire hb elapsed

/-- `tick` does the same for a report of elapsed time. -/
theorem tick_frame (hb : b.admits .expire = true) (ms : Nat) : Frame a b s (s.tick ms).1 := by
  have h : Frame a b s (s.assert .tick (s.apiEnterCount == 0)) := (Frame.refl a b s).assert _ _ rfl
  unfold Client.tick
  exact (h.expire hb ms).update (.of_eq rfl rfl rfl rfl rfl rfl fun h => h) (.enter _) rfl

/-- The timeouts of the keep alive. -/
def TimeoutCb.isKeepAlive : TimeoutCb → Bool
  | .keepAlivePing _ | .keepAliveRecv _ | .keepAliveResp _ => true
  | _ => false

/-- Use of an operation there is none of. -/
theorem withOp_ends {α : Type} {l : List α} {x : Option α} {site : Site} {f : α → Client → Client}
    (hx : ∀ y, x = some y → y ∈ l) (ht : l ≠ [] → b.Talks)
    (hf : b.Talks → ∀ y, x = some y → EndRun env G a b s (f y s)) :
    EndRun env G a b s (s.withOp x site f) :=
  .withOp fun y hy => hf (ht (List.ne_nil_of_mem (hx y hy))) y hy

/-- An expired timer ends, repeats or completes what it belongs to; the timers of the keep alive send
PINGREQ or end the connection. -/
theorem handleTimeout_end (hleave : ∀ s op, op ∈ s.sendOps → G.leave s op) (hr : Reg s)
    {cb : TimeoutCb} (hdup : ∀ op ∈ s.sendOps, cb = .sendTimeout op.id →
      op.sendAttempts < op.totalSendAttempts → G.dup s op)
    (ht : cb.isKeepAlive = true → s.keepAliveOps ≠ [] → b.Talks) :
    EndRun env G a b s (s.handleTimeout env cb) := by
  have hmem : ∀ {id : OpId} {op : KeepAliveOp}, s.keepAliveOp? id = some op → op ∈ s.keepAliveOps :=
    fun hop => (Keyed.mem_of_find hop).1
  unfold handleTimeout
  split
  · exact .goes (sessionExpiryTimeout_run hleave hr)
  · exact .withOp fun op hop =>
      .frame ((Frame.refl a b s).connectComplete (.connect (Keyed.mem_of_find hop).1) _ _)
  · exact withOp_ends (fun _ => hmem) (ht rfl) fun _ op hop =>
      .frame ((Frame.refl a b s).sendPing env (hmem hop))
  · exact withOp_ends (fun _ => hmem) (ht rfl) fun _ op hop =>
      .frame ((Frame.refl a b s).sendPing env (hmem hop))
  · exact withOp_ends (fun _ => hmem) (ht rfl) fun _ op _ => pingTimeout_end op
  · exact .withOp fun op hop =>
      .frame ((Frame.refl a b s).subscribeComplete (.subscribe (Keyed.mem_of_find hop).1) _)
  · exact .withOp fun op hop =>
      .frame ((Frame.refl a b s).unsubscribeComplete (.unsubscribe (Keyed.mem_of_find hop).1) _)
  · exact .withOp fun op hop =>
      .frame ((Frame.refl a b s).recvOpResponseTimeout (.recv (Keyed.mem_of_find hop).1))
  · refine .goes (.withSendOp fun op hop hid => ?_)
    unfold sendResponseTimeout
    exact resendDupMsg_run hr hop (hleave s op hop) (hdup op hop (by rw [hid]))
      (((Frame.refl a b s).assert _ _ rfl).errorLog _)
  · exact .withOp fun op hop =>
      .frame ((Frame.refl a b s).reauthComplete (.reauth (Keyed.mem_of_find hop).1) _ _)

/-! ## Initialisation -/

/-- Terminating everything but publishes and receptions. -/
theorem terminateOps_keep_frame [b.Ends] (status : AsyncOpStatus) :
    Frame a b s (s.terminateOps env status true) := by
  refine Frame.forEachOp (fun ref t href => ?_) (.refl a b s)
  split
  · exact .refl a b t
  · rename_i h
    refine (Frame.refl a b t).terminateOp env status (fun hs => h ?_) (fun _ => inferInstance) href
    simp [OpRef.isSendRecv, hs]

/-- `initInternal` terminates what is left of the last connection and resets the session. -/
theorem initInternal_run [b.Ends] (hG : ∀ t, t.view = s.view → G.session t .reset) :
    MacroRun env G a b s (s.initInternal env).1 := by
  unfold initInternal
  split
  · exact .frame ((Quiet.refl s).fail _ _).frame
  · split
    · exact .frame ((Quiet.refl s).fail _ _).frame
    · have hf : Frame a b s (s.terminateOps env .aborted true) := terminateOps_keep_frame .aborted
      dsimp only
      refine (MacroRun.frame hf).trans (MacroRun.micro (.session .reset (hG _ hf.view) ?_))
      refine ⟨⟨rfl, fun _ h => Or.inr h, Nat.le_refl _, fun _ => .of_ops rfl rfl (fun _ h => h) fun h => h⟩, ?_⟩
      have h₁ : ∀ s : Client, Acts a b s
          { s with clientState := { s.clientState with initialized := true } } := fun s =>
        .of (.status true s.clientState.firstConnect) (Act.allowed_of rfl fun _ => Scope.Ends.session)
      exact (h₁ _).tail ⟨_, Act.allowed_of rfl fun _ => Scope.Ends.session, .session fun _ => {}⟩

/-! ## Incoming data -/

/-- A packet above the announced limit is answered with DISCONNECT. -/
theorem packetTooLarge_end [b.Talks] : EndRun env G a b s (s.packetTooLarge env) :=
  disconnectOnExit_end ((Frame.refl a b s).errorLog _) _

/-- `notifyNetworkDisconnected` ends the connection unless one is being ended. -/
theorem networkDown_end (hb : b.admits (.network true) = true) :
    EndRun env G a b s (s.networkDown env) := by
  have hf : Frame a b s
      { s with clientState := { s.clientState with networkDisconnected := true } } :=
    (Frame.refl a b s).update (.of_eq rfl rfl rfl rfl rfl rfl fun h => h) (.network true)
      (Act.allowed_of rfl fun _ => hb)
  unfold networkDown
  dsimp only
  split
  · exact .frame hf
  · exact .ends _ none _ _ (.frame hf) (Or.inl rfl) rfl

/-- What a PUBLISH does about receptions. -/
def publishRecv (env : Env) (msg : RecvPublishMsg) (s : Client) : Recv :=
  if beginsReception env msg s then .begins else .goes

/-- A message is not answered: what it is for ends it, or there is nothing it is for. -/
def Client.mutes (env : Env) (msg : InMsg) (s : Client) : Bool :=
  match msg with
  | .publish m => s.mutesPublish env m
  | .puback m => (s.findSendOp m.packetId).all (fun op => !s.pubackFails env op m)
  | .pubrec m => (s.findSendOp m.packetId).any (fun op => !s.pubrecFails env op m)
  | .pubcomp m => (s.findSendOp m.packetId).all (fun op => !s.pubcompFails env op m)
  | .pubrel m valid => s.mutesPubrel env m valid
  | msg => s.mutesAll msg

/-- The watched timers a message stops. -/
def Client.stops (msg : InMsg) (s : Client) (cb : TimeoutCb) : Prop :=
  match cb, msg with
  | .recvTimeout id, .publish m => m.dup = true ∧ ∃ op, s.repeated m = some op ∧ op.id = id
  | .recvTimeout id, .pubrel m _ => ∃ op, s.recvOps.find? (·.packetId == m.packetId) = some op ∧ op.id = id
  | .sendTimeout id, msg => ∃ pid op, msg.ackPacketId = some pid ∧ s.findSendOp pid = some op ∧ op.id = id
  | .keepAlivePing _, msg => msg.isDisconnect = true
  | _, _ => False

/-- A message other than CONNACK goes to the operations that wait for it, or ends the connection. -/
theorem handle_end (hr : Reg s) {msg : InMsg} (hmsg : msg.isConnack = false)
    (hb : ∀ m, msg = .publish m → (publishRecv env m s).Le b)
    (ht : s.mutes env msg = true ∨ b.Talks)
    (hd : ∀ cb, s.stops msg cb → b.admits (.disarm cb) = true)
    (hf : msg.isGrant = true → b.Grants)
    (hack : msg.ackPacketId.isSome = true → G.Acks env msg s) :
    EndRun env G a b s (s.handle env msg) := by
  have hdsend : ∀ pid, msg.ackPacketId = some pid → ∀ op, s.findSendOp pid = some op →
      b.admits (.disarm (.sendTimeout op.id)) = true := fun pid hpid op hop =>
    hd (.sendTimeout op.id) ⟨pid, op, hpid, hop, rfl⟩
  unfold Client.handle
  -- one case for each message with a handler of its own, and one for the rest
  split
  · rename_i m
    have hle := hb m rfl
    have hdrecv : ∀ op, s.repeated m = some op → m.dup = true →
        b.admits (.disarm (.recvTimeout op.id)) = true := fun op hop hdup =>
      hd (.recvTimeout op.id) ⟨hdup, op, hop, rfl⟩
    unfold publishRecv at hle
    split at hle
    · rename_i hbegins
      have hrun := handlePublish_begins (G := G) env (a := a) m (fun _ => hle.of_begins) ht hdrecv
      rw [if_pos hbegins] at hrun
      have hf : Frame a b s (s.keepAliveMessageReceived.registerRecvOp env) :=
        (Frame.refl a b s).keepAliveMessageReceived.update (Still.registerRecvOp env)
          (.createRecv env) (Act.allowed_of rfl fun _ => hle _ rfl)
      exact .after (.frame hf) hrun
    · rename_i hbegins
      have hrun := handlePublish_begins (G := G) env (a := a) m (fun _ => hle) ht hdrecv
      rwa [if_neg hbegins] at hrun
  · rename_i m
    refine handlePuback_end m hr (hdsend _ rfl) (hack rfl) fun op hop hfails => ht.resolve_left ?_
    simp [Client.mutes, hop, hfails]
  · rename_i m
    refine handlePubrec_end m hr (hdsend _ rfl) (hack rfl) (fun hnone => ht.resolve_left ?_)
      fun op hop hfails => ht.resolve_left ?_
    · simp [Client.mutes, hnone]
    · simp [Client.mutes, hop, hfails]
  · rename_i m valid
    exact handlePubrel_end m valid ht fun op hop => hd (.recvTimeout op.id) ⟨op, hop, rfl⟩
  · rename_i m
    refine handlePubcomp_end m hr (hdsend _ rfl) (hack rfl) fun op hop hfails => ht.resolve_left ?_
    simp [Client.mutes, hop, hfails]
  · refine handleProtMessage_end hmsg (ht.imp_left fun hmute => ?_) (fun hdis id =>
      hd (.keepAlivePing id) hdis) hf
    unfold Client.mutes at hmute
    split at hmute
    all_goals first | exact hmute | simp_all

/-- The message a packet carries to the handlers. -/
def Client.frameMsg (frame : InputFrame) (s : Client) : Option InMsg :=
  match frame with
  | .complete msg len => if s.frameTooLarge len then none else some msg
  | _ => none

/-- A packet is not answered. -/
def Client.mutesFrame (env : Env) (frame : InputFrame) (s : Client) : Bool :=
  match frame with
  | .incomplete len => len.all (fun len => !s.frameTooLarge len)
  | .badSize | .badContent _ => false
  | .complete msg len => !s.frameTooLarge len && s.mutes env msg

/-- `processData` reads one packet: it waits for its rest, refuses it, or hands over its message. -/
theorem processFrame_end (hr : Reg s) {frame : InputFrame}
    (ht : s.mutesFrame env frame = true ∨ b.Talks)
    (hmsg : ∀ msg, s.frameMsg frame = some msg → msg.isConnack = false ∧
      (∀ m, msg = .publish m → (publishRecv env m s).Le b) ∧
      (∀ cb, s.stops msg cb → b.admits (.disarm cb) = true) ∧
      (msg.isGrant = true → b.Grants) ∧
      (msg.ackPacketId.isSome = true → G.Acks env msg s)) :
    EndRun env G a b s (s.processFrame env frame).1 := by
  unfold processFrame
  split
  · exact .refl
  · dsimp only
    split
    · rename_i hlarge
      have : b.Talks := ht.resolve_left (by simp [Client.mutesFrame, hlarge])
      exact packetTooLarge_end
    · exact .refl
  · have : b.Talks := ht.resolve_left (by simp [Client.mutesFrame])
    exact disconnectOnExit_end (.refl a b s) _
  · have : b.Talks := ht.resolve_left (by simp [Client.mutesFrame])
    split
    · exact packetTooLarge_end
    · exact disconnectOnExit_end ((Frame.refl a b s).errorLog _) _
  · rename_i msg len
    split
    · rename_i hlarge
      have : b.Talks := ht.resolve_left (by simp [Client.mutesFrame, hlarge])
      exact packetTooLarge_end
    · rename_i hlen
      obtain ⟨hc, hb, hd, hf, hack⟩ := hmsg msg (if_neg hlen)
      refine handle_end hr hc hb (ht.imp_left fun hmute => ?_) hd hf hack
      exact (Bool.and_eq_true_iff.mp hmute).2

end Mqtt5
