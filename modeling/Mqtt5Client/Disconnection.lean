import Mqtt5Client.Registered
import Mqtt5Client.StoredSession

/-!
# Mqtt5Client — the end of a connection

What `terminateOps` and `brokerDisconnected` leave of the operations and of the session. While the
connection ends no publish is resumed, so every round of the terminating loop makes one pointer null and
leaves the others in their places.
-/

namespace Mqtt5

open Client

variable {env : Env} {a : Bool} {b : Scope} {s t u : Client} {ref : OpRef}

/-! ## Termination -/

/-- A step of the terminating loop: pointers become null in their places. -/
def InPlace (ops ops' : List (Option OpRef)) : Prop :=
  ops'.length = ops.length ∧
    ∀ (i : Nat) (ref : OpRef), ops'[i]? = some (some ref) → ops[i]? = some (some ref)

theorem InPlace.refl (ops : List (Option OpRef)) : InPlace ops ops := ⟨rfl, fun _ _ h => h⟩

/-- An entry that is nullified keeps its place. -/
theorem InPlace.nullify (ref : OpRef) (ops : List (Option OpRef)) :
    InPlace ops (nullify ref ops) := by
  induction ops with
  | nil => exact .refl _
  | cons p ps ih =>
    unfold Client.nullify
    split
    · refine ⟨rfl, fun i r hi => ?_⟩
      cases i with
      | zero => cases hi
      | succ i => exact hi
    · refine ⟨congrArg (· + 1) ih.1, fun i r hi => ?_⟩
      cases i with
      | zero => exact hi
      | succ i => exact ih.2 i r hi

variable (env) in
/-- Terminating an operation while the connection ends: its pointer becomes null, and nothing else does. -/
theorem terminateOp_ops (hr : Reg s) (hreg : Registered s) (hdis : s.sessionState.disconnecting = true)
    (hmem : some ref ∈ s.ops) (status : AsyncOpStatus) :
    (s.terminateOp env status ref).ops = nullify ref s.ops := by
  have hcomplete : ref.type ≠ .send → (s.completeRef ref).ops = nullify ref s.ops := by
    intro hsend
    rw [completeRef_eq, if_neg hsend]
    unfold opCompleteWith unregisterOp
    rw [if_pos hmem]
    dsimp only
    rw [eraseRef_eq]
  -- the operation behind a registered pointer is found in its list
  have hid := hreg.mem.mp hmem
  have hfind : ∀ {α : Type} (key : α → OpId) (l : List α), ref.id ∈ l.map key →
      ∃ op, l.find? (fun x => key x == ref.id) = some op ∧ key op = ref.id := by
    intro α key l hmem
    obtain ⟨x, hx, hkey⟩ := List.mem_map.mp hmem
    obtain ⟨op, hop⟩ := Option.isSome_iff_exists.mp
      (List.find?_isSome (p := fun x => key x == ref.id).mpr ⟨x, hx, by simpa using hkey⟩)
    exact ⟨op, hop, (Keyed.mem_of_find hop).2⟩
  obtain ⟨rtype, id⟩ := ref
  cases rtype
  case send =>
    obtain ⟨op, hop, rfl⟩ := hfind SendOp.id s.sendOps hid
    have hmem := (mem_of_sendOp? hop).1
    obtain ⟨u, hu, heff, hnull⟩ := erase_eff (resumeSendOpsSince env) (x := op) (y := op) hr hmem
      ((Frame.refl false .rests s).toSet hr hmem) rfl rfl rfl rfl
    -- while the session ends no publish is resumed
    have hdis' : u.sessionState.disconnecting = true :=
      (congrArg PubView.disconnecting heff.view).trans hdis
    unfold terminateOp withOp
    dsimp only
    rw [show s.sendOp? op.id = some op from hop]
    dsimp only
    unfold sendOpCompleteWithCb SendOp.completeWithCb
    dsimp only
    rw [hu]
    unfold wakeFrom
    rw [if_pos hdis', ← hnull]
    split <;> rfl
  case connect =>
    obtain ⟨op, hop, hkey⟩ := hfind ConnectOp.id s.connectOps hid
    rw [← hcomplete (by simp)]
    unfold terminateOp withOp
    dsimp only
    rw [show s.connectOp? id = some op from hop]
    unfold connectComplete
    dsimp only
    rw [hkey]
    split <;> rfl
  case keepAlive => exact hcomplete (by simp)
  case disconnect => exact hcomplete (by simp)
  case subscribe =>
    obtain ⟨op, hop, hkey⟩ := hfind SubscribeOp.id s.subscribeOps hid
    rw [← hcomplete (by simp)]
    unfold terminateOp withOp
    dsimp only
    rw [show s.subscribeOp? id = some op from hop]
    unfold subscribeComplete
    dsimp only
    rw [hkey]
    split <;> rfl
  case unsubscribe =>
    obtain ⟨op, hop, hkey⟩ := hfind UnsubscribeOp.id s.unsubscribeOps hid
    rw [← hcomplete (by simp)]
    unfold terminateOp withOp
    dsimp only
    rw [show s.unsubscribeOp? id = some op from hop]
    unfold unsubscribeComplete
    dsimp only
    rw [hkey]
    split <;> rfl
  case recv => exact hcomplete (by simp)
  case reauth =>
    obtain ⟨op, hop, hkey⟩ := hfind ReauthOp.id s.reauthOps hid
    rw [← hcomplete (by simp)]
    unfold terminateOp withOp
    dsimp only
    rw [show s.reauthOp? id = some op from hop]
    unfold reauthComplete
    dsimp only
    rw [hkey]
    split <;> rfl

/-! ## The terminating loop -/

/-- An operation that outlives a termination of a kind. -/
def OpType.kept (keep : Bool) (type : OpType) : Bool := keep && (type == .send || type == .recv)

/-- The state before the round for the position `i`. -/
structure TermLoop (env : Env) (keep : Bool) (s₀ : Client) (i : Nat) (s : Client) : Prop where
  reg : Reg s
  registered : Registered s
  session : SameSession s₀ s
  place : InPlace s₀.ops s.ops
  before : ∀ j ref, j < i → s.ops[j]? = some (some ref) → ref.type.kept keep = true
  refs : ∀ ref, ref.type.kept keep = true → some ref ∈ s₀.ops → some ref ∈ s.ops
  sends : keep = true → s.sendOps = s₀.sendOps
  recvs : keep = true → s.recvOps = s₀.recvOps

/-- The completion of another operation leaves the receptions. -/
theorem recvOps_completeRef_eq (ref : OpRef) (h : ref.type ≠ .recv) (s : Client) :
    (s.completeRef ref).recvOps = s.recvOps := by
  rcases completeRef_cases ref s with heq | heq | ⟨-, heq⟩
  · rw [heq]
  · rw [heq]
    rfl
  · rw [heq, eraseRef_eq, if_neg h]

/-- Terminating an operation that is neither a publish nor a reception. -/
theorem terminateOp_recvOps (hrecv : ref.type ≠ .recv) (hsend : ref.type ≠ .send)
    (status : AsyncOpStatus) : (s.terminateOp env status ref).recvOps = s.recvOps := by
  have hemit : ∀ (u : Client) (c : Bool) (e : Event), (if c then u.emit e else u).recvOps = u.recvOps := by
    intro u c e
    split <;> rfl
  have hwith : ∀ {α : Type} (x : Option α) (f : α → Client → Client),
      (∀ op, (f op s).recvOps = s.recvOps) → (s.withOp x .opComplete f).recvOps = s.recvOps := by
    intro α x f hf
    unfold withOp
    split
    · rfl
    · exact hf _
  obtain ⟨type, id⟩ := ref
  unfold terminateOp
  cases type
  case connect =>
    exact hwith _ _ fun op => (hemit _ _ _).trans (recvOps_completeRef_eq ⟨.connect, op.id⟩
      (by simp) s)
  case keepAlive => exact recvOps_completeRef_eq ⟨.keepAlive, id⟩ (by simp) s
  case disconnect => exact recvOps_completeRef_eq ⟨.disconnect, id⟩ (by simp) s
  case subscribe =>
    exact hwith _ _ fun op => (hemit _ _ _).trans (recvOps_completeRef_eq ⟨.subscribe, op.id⟩
      (by simp) s)
  case unsubscribe =>
    exact hwith _ _ fun op => (hemit _ _ _).trans
      (recvOps_completeRef_eq ⟨.unsubscribe, op.id⟩ (by simp) s)
  case recv => exact absurd rfl hrecv
  case send => exact absurd rfl hsend
  case reauth =>
    exact hwith _ _ fun op => (hemit _ _ _).trans (recvOps_completeRef_eq ⟨.reauth, op.id⟩
      (by simp) s)

/-- Nothing has to be known for a connection to end. -/
theorem any_ends : Guard.any.Ends := ⟨fun _ _ _ => trivial, fun _ => trivial⟩

variable (env) in
/-- A terminated operation is taken out of both registries. -/
theorem terminateOp_wf (hr : Reg s) (hreg : Registered s) (status : AsyncOpStatus) {ref : OpRef}
    (href : some ref ∈ s.ops) :
    Reg (s.terminateOp env status ref) ∧ Registered (s.terminateOp env status ref) := by
  have hrun : MacroRun env .any false .rests s (s.terminateOp env status ref) :=
    terminateOp_run any_ends.leave hr status href fun _ => inferInstance
  exact ⟨hrun.reg hr, Acts.registered (MacroRun.acts hrun hr (by simp)) hreg⟩

/-- One round of the loop: its operation is gone, or kept with the session. -/
theorem TermLoop.round {keep : Bool} {s₀ : Client} {i : Nat} (h : TermLoop env keep s₀ i s)
    (hdis : s₀.sessionState.disconnecting = true) (status : AsyncOpStatus) :
    TermLoop env keep s₀ (i + 1) (s.visitOp (fun ref s =>
      if keep && ref.isSendRecv then s else s.terminateOp env status ref) i) := by
  unfold visitOp
  cases hget : s.ops[i]? with
  | none =>
    refine { h with before := fun j ref hj hget' => ?_ }
    rcases Nat.lt_succ_iff_lt_or_eq.mp hj with hj | rfl
    · exact h.before j ref hj hget'
    · rw [hget] at hget'
      cases hget'
  | some p =>
    cases p with
    | none =>
      refine { h with before := fun j ref hj hget' => ?_ }
      rcases Nat.lt_succ_iff_lt_or_eq.mp hj with hj | rfl
      · exact h.before j ref hj hget'
      · rw [hget] at hget'
        cases hget'
    | some ref =>
      dsimp only
      -- publishes and receptions of a stored session are passed over
      by_cases hkept : ref.type.kept keep = true
      · rw [if_pos (show (keep && ref.isSendRecv) = true from hkept)]
        refine { h with before := fun j ref' hj hget' => ?_ }
        rcases Nat.lt_succ_iff_lt_or_eq.mp hj with hj | rfl
        · exact h.before j ref' hj hget'
        · rw [hget, Option.some.injEq, Option.some.injEq] at hget'
          exact hget' ▸ hkept
      · rw [if_neg (show ¬(keep && ref.isSendRecv) = true from hkept)]
        have hmem : some ref ∈ s.ops := List.mem_of_getElem? hget
        have hdis' : s.sessionState.disconnecting = true := h.session.session ▸ hdis
        have hops := terminateOp_ops env h.reg h.registered hdis' hmem status
        obtain ⟨hreg, hregistered⟩ := terminateOp_wf env h.reg h.registered status hmem
        have hother : keep = true → ref.type ≠ .send ∧ ref.type ≠ .recv := by
          rintro rfl
          unfold OpType.kept at hkept
          simpa using hkept
        refine ⟨hreg, hregistered, h.session.trans (.terminateOp hdis' status ref), ?_, ?_, ?_, ?_, ?_⟩
        · rw [hops]
          have hnull := InPlace.nullify ref s.ops
          exact ⟨hnull.1.trans h.place.1, fun j r hj => h.place.2 j r (hnull.2 j r hj)⟩
        · intro j ref' hj hget'
          rw [hops] at hget'
          have hold := (InPlace.nullify ref s.ops).2 j ref' hget'
          rcases Nat.lt_succ_iff_lt_or_eq.mp hj with hj | rfl
          · exact h.before j ref' hj hold
          · -- the pointer of the round is null now: no earlier position holds it
            rw [nullify_eq_set hget fun k hk hk' => hkept (h.before k ref hk hk'),
              List.getElem?_set_self'] at hget'
            rw [hget] at hget'
            cases hget'
        · intro ref' hkept' hmem'
          rw [hops]
          exact mem_nullify (fun (heq : ref' = ref) => hkept (heq ▸ hkept')) (h.refs ref' hkept' hmem')
        · intro hk
          rw [← h.sends hk]
          exact ((Frame.refl false .rests s).terminateOp env status (hother hk).1
            (fun _ => inferInstance) hmem).sendOps_eq
        · intro hk
          rw [← h.recvs hk]
          exact terminateOp_recvOps (hother hk).2 (hother hk).1 status

/-- What is left after a termination. -/
structure Terminated (keep : Bool) (s t : Client) : Prop where
  reg : Reg t
  registered : Registered t
  session : SameSession s t
  gone : ∀ type, type.kept keep = false → t.ids type = []
  sends : keep = true → t.sendOps = s.sendOps
  recvs : keep = true → t.recvOps = s.recvOps

variable (env) in
/-- The whole loop. -/
theorem terminateOps_terminated (hr : Reg s) (hreg : Registered s)
    (hdis : s.sessionState.disconnecting = true) (status : AsyncOpStatus) (keep : Bool) :
    Terminated keep s (s.terminateOps env status keep) := by
  have hloop : ∀ k, TermLoop env keep s k ((List.range k).foldl (visitOp fun ref s =>
      if keep && ref.isSendRecv then s else s.terminateOp env status ref) s) := by
    intro k
    induction k with
    | zero =>
      exact ⟨hr, hreg, .refl s, .refl _, fun j ref hj => absurd hj (Nat.not_lt_zero j),
        fun _ _ h => h, fun _ => rfl, fun _ => rfl⟩
    | succ k ih =>
      rw [List.range_succ, List.foldl_append]
      exact ih.round hdis status
  have hend : TermLoop env keep s s.ops.length (s.terminateOps env status keep) := hloop _
  refine ⟨hend.reg, hend.registered, hend.session, fun type htype => ?_, hend.sends, hend.recvs⟩
  rw [← hend.registered.refs type]
  refine List.filterMap_eq_nil_iff.mpr fun p hp => ?_
  obtain ⟨j, hj, hget⟩ := List.getElem_of_mem hp
  cases p with
  | none => rfl
  | some ref =>
    have hlt : j < s.ops.length := by
      rw [← hend.place.1]
      exact hj
    have hkept := hend.before j ref hlt (by rw [List.getElem?_eq_getElem hj, hget])
    refine idOf_neg fun heq => ?_
    rw [heq, htype] at hkept
    cases hkept

/-! ## `brokerDisconnected` -/

/-- Without connect operations the change of the connectivity concerns timers only. -/
theorem connectivity_eq (h : ∀ ref, some ref ∈ s.ops → ref.type ≠ .connect) :
    s.forEachOp connectivityChanged = { s with
      timerMgr := (s.forEachOp connectivityChanged).timerMgr
      faults := (s.forEachOp connectivityChanged).faults } := by
  -- one round only touches a timer
  have hround : ∀ (t : Client) (i : Nat), t = { s with timerMgr := t.timerMgr, faults := t.faults } →
      t.visitOp connectivityChanged i = { s with
        timerMgr := (t.visitOp connectivityChanged i).timerMgr
        faults := (t.visitOp connectivityChanged i).faults } := by
    intro t i ht
    have hops : t.ops = s.ops := by rw [ht]
    unfold visitOp
    split
    · rename_i ref hget
      have hmem : some ref ∈ s.ops := hops ▸ List.mem_of_getElem? hget
      have hconnect := h ref hmem
      obtain ⟨type, id⟩ := ref
      unfold connectivityChanged withOp
      cases type
      case connect => exact absurd rfl hconnect
      case send =>
        dsimp only
        split
        · rw [ht]
          rfl
        · unfold sendOpConnectivityChanged timerSetSuspended
          rw [ht]
      case recv =>
        dsimp only
        split
        · rw [ht]
          rfl
        · unfold recvOpConnectivityChanged timerSetSuspended
          rw [ht]
      all_goals exact ht
    · exact ht
  have hloop : ∀ (l : List Nat) (t : Client), t = { s with timerMgr := t.timerMgr, faults := t.faults } →
      l.foldl (visitOp connectivityChanged) t = { s with
        timerMgr := (l.foldl (visitOp connectivityChanged) t).timerMgr
        faults := (l.foldl (visitOp connectivityChanged) t).faults } := by
    intro l
    induction l with
    | nil => exact fun t ht => ht
    | cons i l ih => exact fun t ht => ih _ (hround t i ht)
  exact hloop _ s rfl

/-- What `brokerDisconnected` leaves. -/
structure Disconnected (keep : Bool) (s t : Client) : Prop where
  reg : Reg t
  registered : Registered t
  session : t.sessionState = { s.sessionState with connected := false, disconnecting := true }
  config : t.configState = s.configState
  reuse : t.reuseState = s.reuseState
  network : t.clientState.networkDisconnected = s.clientState.networkDisconnected
  initialized : t.clientState.initialized = false
  apiEnterCount : t.apiEnterCount = s.apiEnterCount
  gone : ∀ type, type.kept keep = false → t.ids type = []
  sends : keep = true → t.sendOps = s.sendOps
  recvs : keep = true → t.recvOps = s.recvOps

variable (env) in
/-- `brokerDisconnected` as a whole. -/
theorem brokerDisconnected_disconnected (hr : Reg s) (hreg : Registered s)
    (reason : Option BrokerDisconnectReason) (status : AsyncOpStatus) (info : Option DisconnectInfo) :
    Disconnected s.preserveSendRecv s (s.brokerDisconnected env reason status info) := by
  set keep := s.preserveSendRecv with hkeep
  have hmark : Reg s.markDisconnecting ∧ Registered s.markDisconnecting := by
    rw [markDisconnecting_eq]
    refine ⟨⟨hr.sorted, hr.lt, hr.refs, hr.wf, hr.inFlight, hr.timers⟩, hreg.same rfl (fun type => ?_)
      (Nat.le_refl _)⟩
    cases type <;> rfl
  have hterm := terminateOps_terminated env hmark.1 hmark.2 rfl status keep
  set u := s.markDisconnecting.terminateOps env status keep
  -- the timers of what is kept are suspended
  have hconn : ∀ ref, some ref ∈ u.ops → ref.type ≠ .connect := by
    intro ref hmem htype
    have hid := hterm.registered.mem.mp hmem
    rw [htype, hterm.gone .connect (by cases keep <;> rfl)] at hid
    cases hid
  obtain ⟨v, hv, htimers⟩ : ∃ v : Client, v = { u with timerMgr := v.timerMgr, faults := v.faults } ∧
      v = if keep then (u.forEachOp connectivityChanged).startSessionExpiry else u := by
    refine ⟨_, ?_, rfl⟩
    split
    · unfold startSessionExpiry
      split
      · unfold timerWait
        rw [connectivity_eq hconn]
      · exact connectivity_eq hconn
    · rfl
  have hresult : s.brokerDisconnected env reason status info =
      reason.elim v fun reason => v.emit (.brokerDisconnectReport reason info) := by
    rw [htimers]
    cases reason <;> rfl
  have hrun : MacroRun env .any false .rests s (s.brokerDisconnected env reason status info) :=
    brokerDisconnected_run any_ends hr reason status info
  have hreg' := Acts.registered (MacroRun.acts hrun hr (by simp)) hreg
  have hr' := hrun.reg hr
  obtain ⟨w, hw, hweq⟩ : ∃ w : Client,
      w = { u with timerMgr := w.timerMgr, faults := w.faults, log := w.log, counts := w.counts } ∧
      w = s.brokerDisconnected env reason status info := by
    refine ⟨_, ?_, rfl⟩
    rw [hresult]
    cases reason with
    | none =>
      show v = _
      rw [hv]
      rfl
    | some reason =>
      show v.emit _ = _
      rw [hv]
      rfl
  rw [← hweq] at hr' hreg' ⊢
  have hids : ∀ type, w.ids type = u.ids type := by
    intro type
    rw [hw]
    cases type <;> rfl
  refine ⟨hr', hreg', ?_, ?_, ?_, ?_, ?_, ?_, ?_, fun hk => ?_, fun hk => ?_⟩
  · rw [show w.sessionState = u.sessionState by rw [hw]]
    exact hterm.session.session.trans (markDisconnecting_session s)
  · rw [show w.configState = u.configState by rw [hw]]
    exact hterm.session.config.trans (by rw [markDisconnecting_eq])
  · rw [show w.reuseState = u.reuseState by rw [hw]]
    exact hterm.session.reuse.trans (by rw [markDisconnecting_eq])
  · rw [show w.clientState = u.clientState by rw [hw]]
    exact hterm.session.network.trans (by rw [markDisconnecting_eq])
  · rw [show w.clientState = u.clientState by rw [hw]]
    exact hterm.session.initialized
  · rw [show w.apiEnterCount = u.apiEnterCount by rw [hw]]
    exact hterm.session.apiEnterCount.trans (by rw [markDisconnecting_eq])
  · exact fun type htype => (hids type).trans (hterm.gone type htype)
  · rw [show w.sendOps = u.sendOps by rw [hw]]
    exact (hterm.sends hk).trans (by rw [markDisconnecting_eq])
  · rw [show w.recvOps = u.recvOps by rw [hw]]
    exact (hterm.recvs hk).trans (by rw [markDisconnecting_eq])

end Mqtt5
