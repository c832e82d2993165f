import Mqtt5Client.PublishSteps

/-!
# Mqtt5Client — acknowledgements as steps

An acknowledgement of the publish it is legitimate for completes it or sends PUBREL; any other one of a
known publish makes the client walk along the queue and retransmit. The walk retransmits a publish that
was never transmitted when it meets one; `ackSafe` says when it does not.
-/

namespace Mqtt5

open Client

variable {env : Env} {G : Guard} {a : Bool} {b : Scope} {s t u : Client} {op op' : SendOp}

/-! ## Safe acknowledgements -/

/-- A publish that was neither transmitted nor postponed: it is in preparation or its `send` call has
not returned. -/
def SendOp.fresh (op : SendOp) : Bool := !op.published && !op.paused

/-- The publish is queued and stays so until the walk of `resendAllUntil` reaches it: it is published,
or it is postponed and becomes published when it is resumed. -/
def Client.staysQueued (env : Env) (op : SendOp) (s : Client) : Bool :=
  op.published ||
    (op.paused && decide (op.qos ≠ .atMostOnceDelivery) && s.fits env (.publish op.pubMsg))

/-- The walk that an acknowledgement with this packet identifier may start meets no publish that was
never transmitted: there is none, or they are all behind the acknowledged one, which stays in the
queue. -/
def Client.ackSafe (env : Env) (packetId : Nat) (s : Client) : Bool :=
  match s.findSendOp packetId with
  | none => true
  | some x =>
    s.sendOps.all (!·.fresh) ||
      (s.sendOps.all (fun o => decide (x.id < o.id) || !o.fresh) && s.staysQueued env x)

/-- The publishes with these identities are not fresh. -/
def Settled (P : OpId → Prop) (s : Client) : Prop :=
  ∀ op ∈ s.sendOps, P op.id → op.fresh = false

/-- The publish with this identity is queued and stays so. -/
def HoldsTarget (env : Env) (target : OpId) (s : Client) : Prop :=
  ∃ op ∈ s.sendOps, op.id = target ∧ s.staysQueued env op = true

/-- What a round of the walk does: it retransmits or completes one publish. -/
def visitGuard (id : OpId) : Guard where
  resume := fun _ _ => False
  first := fun _ _ => False
  dup := fun _ op => op.id = id
  leave := fun _ op => op.id = id
  create := fun _ => False
  start := fun _ _ => False
  config := fun _ _ _ => False
  ack := fun _ _ => False
  alloc := fun _ _ => False
  session := fun _ _ => False
  reconnect := fun _ => False
  stray := fun _ _ => False

/-- Whether a publish fits depends on the size limit. -/
theorem staysQueued_congr (h : t.view.maxSendPacketSize = s.view.maxSendPacketSize) :
    t.staysQueued env op = s.staysQueued env op := by
  unfold Client.staysQueued
  rw [fits_congr h]

/-- A publish that is not fresh was transmitted or waits for its turn. -/
theorem SendOp.fresh_eq_false : op.fresh = false ↔ op.published = true ∨ op.paused = true := by
  unfold SendOp.fresh
  cases op.published <;> cases op.paused <;> simp

/-- What happens to a publish in a round of the walk: it is retransmitted, or resumed. -/
theorem Change.of_visit {id : OpId} {x : SendOp}
    (h : Change env ((visitGuard id).woken env) s op x) :
    (op.id = id ∧ x.published = op.published ∧ x.paused = op.paused ∧ x.qos = op.qos) ∨
      x = { op with paused := false, published := true, sendAttempts := 1 } := by
  cases h with
  | transmit hwhy hqos hfits => exact Or.inr rfl
  | dup hG hacked => exact Or.inl ⟨hG, rfl, rfl, rfl⟩
  | pubrelDup hG hacked => exact Or.inl ⟨hG, rfl, rfl, rfl⟩
  | config x c hG hsent hsame => exact hG.elim
  | start cb pid hG hsent => exact hG.elim
  | pause hG hsent hpub hcan => exact hG.elim
  | rewind hpaused hG => exact hG.elim
  | acked hG hlegit hqos hacked => exact hG.elim
  | retopic msg n hpaused hG hqos => exact hG.elim

/-- The target stays when another publish is visited. -/
theorem Micro.holdsTarget {id target : OpId} (h : Micro env ((visitGuard id).woken env) a b s t)
    (hr : Reg s) (hne : id ≠ target) (hT : HoldsTarget env target s) :
    HoldsTarget env target t := by
  have hsize : t.view.maxSendPacketSize = s.view.maxSendPacketSize :=
    (h.session_eq fun c hc => hc).1
  obtain ⟨x, hx, hid, hstays⟩ := hT
  have hstay : ∀ o, o.id = target → s.staysQueued env o = true → o ∈ t.sendOps →
      HoldsTarget env target t := fun o ho hs hot =>
    ⟨o, hot, ho, by rw [staysQueued_congr hsize, hs]⟩
  cases h.queue with
  | same h => exact hstay x hid hstays (h ▸ hx)
  | create timer hG h => exact hG.elim
  | change op y hop hc h =>
    have hmem := Keyed.mem_set (y := y) (List.mem_map.mpr ⟨op, hop, hc.id.symm⟩)
    have hy : y ∈ t.sendOps := h ▸ hmem.mpr (Or.inl rfl)
    by_cases hop' : op.id = target
    · -- it is not the publish that is visited, so it is resumed
      rcases hc.of_visit with ⟨hvisit, -⟩ | rfl
      · exact absurd (hvisit.symm.trans hop') hne
      · exact ⟨_, hy, hop', by simp [Client.staysQueued]⟩
    · refine hstay x hid hstays (h ▸ (Keyed.mem_set ?_).mpr (Or.inr ⟨hx, ?_⟩))
      · exact List.mem_map.mpr ⟨op, hop, hc.id.symm⟩
      · rw [hid, hc.id]
        exact fun h => hop' h.symm
  | leave op hop hG h =>
    refine hstay x hid hstays (h ▸ hr.distinct.mem_erase.mpr ⟨hx, fun hxo => ?_⟩)
    obtain rfl := hr.distinct.eq hx hop hxo
    rcases hG with hG | ⟨idx, hp, hcan, hfirst, hq⟩
    · exact hne (hG.symm.trans hid)
    · have hpub := (hr.wf x hx).unpublished_of_paused hp
      simp only [Client.staysQueued, hpub, hp, Bool.false_or, Bool.true_and, Bool.and_eq_true,
        decide_eq_true_eq] at hstays
      rcases hq with hq | hq
      · exact hstays.1 hq
      · simp [hq] at hstays

/-- No publish becomes fresh. -/
theorem Micro.settled {id : OpId} {P : OpId → Prop}
    (h : Micro env ((visitGuard id).woken env) a b s t) (hS : Settled P s) : Settled P t := by
  intro o ho hP
  cases h.queue with
  | same h => exact hS o (h ▸ ho) hP
  | create timer hG h => exact hG.elim
  | change op y hop hc h =>
    rw [h] at ho
    rcases (Keyed.mem_set (List.mem_map.mpr ⟨op, hop, hc.id.symm⟩)).mp ho with rfl | ⟨ho, -⟩
    · have hfresh := SendOp.fresh_eq_false.mp (hS op hop (hc.id ▸ hP))
      rw [SendOp.fresh_eq_false]
      rcases hc.of_visit with ⟨-, hpub, hpaused, -⟩ | rfl
      · rwa [hpub, hpaused]
      · exact Or.inl rfl
    · exact hS o ho hP
  | leave op hop hG h =>
    rw [h] at ho
    exact hS o (Keyed.mem_of_mem_erase ho) hP

/-! ## Rounds of the walk -/

/-- What is in front of the visited publish stays. -/
theorem Macro.front_eq {id : OpId} {n : Nat} (h : Macro env (visitGuard id) a b s t) (hr : Reg s)
    (hfront : ∀ i o, i < n → s.sendOps[i]? = some o → o.id < id) {i : Nat} (hi : i < n) :
    t.sendOps[i]? = s.sendOps[i]? := by
  cases h with
  | reconnected hG => exact hG.elim
  | plain h =>
    cases h.queue with
    | same h => rw [h]
    | create timer hG h => exact hG.elim
    | leave op hop hG h => exact hG.elim
    | change op y hop hc h =>
      have hid : op.id = id := by
        cases hc with
        | dup hG hacked => exact hG
        | pubrelDup hG hacked => exact hG
        | transmit hwhy hqos hfits =>
          rcases hwhy with ⟨-, -, hG⟩ | ⟨-, -, -, hG⟩ <;> exact hG.elim
        | config x c hG hsent hsame => exact hG.elim
        | start cb pid hG hsent => exact hG.elim
        | pause hG hsent hpub hcan => exact hG.elim
        | rewind hpaused hG => exact hG.elim
        | acked hG hlegit hqos hacked => exact hG.elim
        | retopic msg n hpaused hG hqos => exact hG.elim
      rw [h]
      refine Keyed.getElem?_set_of_ne fun z hz => ?_
      rw [hc.id, hid]
      exact Nat.ne_of_lt (hfront i z hi hz)
  | finish op hop hG h =>
    rename_i u
    -- the position of the visited publish is not in front
    have hle : n ≤ s.sendIdx op.id := by
      by_contra hlt
      obtain ⟨k, hk⟩ := List.mem_iff_getElem?.mp hop
      rw [hr.sendIdx_eq hk] at hlt
      have hlt' := hfront k op (by omega) hk
      rw [hG] at hlt'
      exact Nat.lt_irrefl _ hlt'
    have hu : u.sendOps[i]? = s.sendOps[i]? := by
      have herase : (Keyed.erase SendOp.id op.id s.sendOps)[i]? = s.sendOps[i]? :=
        Keyed.getElem?_erase_of_lt fun j hj y hy => by
          rw [hG]
          exact Nat.ne_of_lt (hfront j y (by omega) hy)
      cases h with
      | erase h => rw [h.sendOps_eq]; exact herase
      | deliver hwhy hqos hfits h => rw [h.sendOps_eq]; exact herase
    have hrun := wakeFrom_run (G := wakeGuard env (s.sendIdx op.id)) (a := a) (b := b)
      (fun hu => resumeSendOpsSince_run hu) (h.reg hop hr)
    rw [MicroRun.front_eq hrun (by omega), hu]

/-- What is in front of a publish that goes stays where it is. -/
theorem MacroRun.front_eq {id : OpId} {n : Nat} (h : MacroRun env (visitGuard id) a b s t)
    (hr : Reg s) (hfront : ∀ i o, i < n → s.sendOps[i]? = some o → o.id < id) {i : Nat}
    (hi : i < n) : t.sendOps[i]? = s.sendOps[i]? := by
  induction h generalizing i with
  | refl => rfl
  | tail hsu h ih =>
    rw [h.front_eq (MacroRun.reg hsu hr) (fun j o hj ho => hfront j o hj (by rwa [← ih hj])) hi,
      ih hi]

/-- Where the walk stands: when the acknowledgement is safe, no publish it has still to visit is fresh. -/
def WalkSafe (env : Env) (safe : Prop) (target : OpId) (idx : Nat) (s : Client) : Prop :=
  safe → Settled (fun _ => True) s ∨
    (Settled (· ≤ target) s ∧ HoldsTarget env target s ∧
      ∀ i o, i < idx → s.sendOps[i]? = some o → o.id < target)

variable {safe : Prop} {target : OpId} {idx : Nat}

/-- The target is not in front of the visited publish. -/
theorem id_le_target (hr : Reg s) (hget : s.sendOps[idx]? = some op) (hT : HoldsTarget env target s)
    (hfront : ∀ i o, i < idx → s.sendOps[i]? = some o → o.id < target) : op.id ≤ target := by
  obtain ⟨x, hx, rfl, -⟩ := hT
  obtain ⟨k, hk⟩ := List.mem_iff_getElem?.mp hx
  by_contra hlt
  have hk' : k < idx := hr.idx_lt (Nat.lt_of_not_le hlt) hk hget
  exact Nat.lt_irrefl _ (hfront k x hk' hk)

/-- The publish the walk visits is not fresh. -/
theorem WalkSafe.visited (h : WalkSafe env safe target idx s) (hr : Reg s)
    (hget : s.sendOps[idx]? = some op) (hsafe : safe) : op.fresh = false := by
  have hop : op ∈ s.sendOps := List.mem_of_getElem? hget
  rcases h hsafe with hall | ⟨hle, hT, hfront⟩
  · exact hall op hop trivial
  · exact hle op hop (id_le_target hr hget hT hfront)

/-- After a round that did not visit the target the walk goes on. -/
theorem WalkSafe.next (h : WalkSafe env safe target idx s) (hr : Reg s)
    (hget : s.sendOps[idx]? = some op) (hne : op.id ≠ target)
    (hrun : MacroRun env (visitGuard op.id) a b s t) :
    (t.sendOps[idx]?.map (·.id) = some op.id → WalkSafe env safe target (idx + 1) t) ∧
      WalkSafe env safe target idx t := by
  have hrt := MacroRun.reg hrun hr
  have hfront : ∀ i, i < idx → t.sendOps[i]? = s.sendOps[i]? := fun i hi =>
    MacroRun.front_eq hrun hr (fun j o hj ho => hr.id_lt hj ho hget) hi
  have hmicro := MacroRun.run hrun hr
  have hsettled : ∀ {P : OpId → Prop}, Settled P s → Settled P t := fun {P} hS =>
    MicroRun.invariant (fun h _ => h.settled) hmicro hr hS
  have hholds : HoldsTarget env target s → HoldsTarget env target t := fun hT =>
    MicroRun.invariant (fun h hr => h.holdsTarget hr hne) hmicro hr hT
  constructor
  · intro hmap hsafe
    rcases h hsafe with hall | ⟨hle, hT, hlt⟩
    · exact Or.inl (hsettled hall)
    · refine Or.inr ⟨hsettled hle, hholds hT, fun i o hi ho => ?_⟩
      -- the visited publish is in front of the target, so everything up to it is
      have hop : op.id < target :=
        Nat.lt_of_le_of_ne (id_le_target hr hget hT hlt) hne
      obtain ⟨y, hy, hyid⟩ := Option.map_eq_some_iff.mp hmap
      rcases Nat.lt_or_ge i idx with hi' | hi'
      · exact hlt i o hi' (by rwa [← hfront i hi'])
      · have hi' : i = idx := by omega
        rw [hi', hy, Option.some.injEq] at ho
        rw [← ho, hyid]
        exact hop
  · intro hsafe
    rcases h hsafe with hall | ⟨hle, hT, hlt⟩
    · exact Or.inl (hsettled hall)
    · exact Or.inr ⟨hsettled hle, hholds hT, fun i o hi ho => hlt i o hi (by rwa [← hfront i hi])⟩

/-! ## The walk -/

/-- `forceDupResend` retransmits a publish out of its turn. -/
theorem forceDupResend_run (hr : Reg s) (hop : op ∈ s.sendOps) (hG : G.leave s op)
    (hdup : op.paused = false → G.dup s op) :
    MacroRun env G a b s (s.forceDupResend env op) := by
  unfold forceDupResend
  split
  · exact .refl
  · rename_i hp
    exact resendDupMsg_run hr hop hG (fun _ => hdup (by simpa using hp)) (.refl a b s)

/-- The walk, by induction on its fuel. -/
theorem resendLoop_run (hG : ∀ s op, op ∈ s.sendOps → G.leave s op)
    (hdup : ∀ s op, op ∈ s.sendOps → op.paused = false → (safe → op.published = true) → G.dup s op)
    (fuel : Nat) (hr : Reg s) (hW : WalkSafe env safe target idx s) :
    MacroRun env G a b s (resendLoop env target fuel idx s) := by
  induction fuel generalizing idx s with
  | zero => exact .refl
  | succ fuel ih =>
    unfold resendLoop
    cases hget : s.sendOps[idx]? with
    | none => exact .refl
    | some op =>
      dsimp only
      have hop : op ∈ s.sendOps := List.mem_of_getElem? hget
      have hrun : MacroRun env G a b s (s.forceDupResend env op) :=
        forceDupResend_run hr hop (hG s op hop) fun hp => hdup s op hop hp fun hsafe => by
          have hfresh := SendOp.fresh_eq_false.mp (hW.visited hr hget hsafe)
          simpa [hp] using hfresh
      have hvisit : MacroRun env (visitGuard op.id) a b s (s.forceDupResend env op) :=
        forceDupResend_run hr hop rfl fun _ => rfl
      have hrt := MacroRun.reg hrun hr
      split
      · exact hrun
      · rename_i hne
        have hne : op.id ≠ target := by simpa using hne
        obtain ⟨hnext, hstay⟩ := hW.next hr hget hne hvisit
        split
        · rename_i hmap
          exact hrun.trans (ih hrt (hnext (by simpa using hmap)))
        · exact hrun.trans (ih hrt hstay)

/-- A safe acknowledgement starts a safe walk. -/
theorem walkSafe_of_ackSafe {packetId : Nat} (hfind : s.findSendOp packetId = some op) :
    WalkSafe env (s.ackSafe env packetId = true) op.id 0 s := by
  intro hsafe
  have hop : op ∈ s.sendOps := List.mem_of_find?_eq_some hfind
  unfold Client.ackSafe at hsafe
  rw [hfind] at hsafe
  simp only [Bool.or_eq_true, Bool.and_eq_true, List.all_eq_true, Bool.not_eq_true',
    decide_eq_true_eq] at hsafe
  rcases hsafe with hall | ⟨hle, hstays⟩
  · exact Or.inl fun o ho _ => hall o ho
  · refine Or.inr ⟨fun o ho hid => ?_, ⟨op, hop, rfl, hstays⟩, fun i o hi => absurd hi (by omega)⟩
    exact (hle o ho).resolve_left (Nat.not_lt.mpr hid)

/-- Every publish up to the one that was acknowledged is sent again. -/
theorem resendAllUntil_run {packetId : Nat} (hG : ∀ s op, op ∈ s.sendOps → G.leave s op)
    (hr : Reg s) (hfind : s.findSendOp packetId = some op)
    (hdup : ∀ t o, o ∈ t.sendOps → o.paused = false →
      (s.ackSafe env packetId = true → o.published = true) → G.dup t o) :
    MacroRun env G a b s (s.resendAllUntil env op.id) :=
  resendLoop_run hG hdup _ hr (walkSafe_of_ackSafe hfind)

/-! ## The handlers -/

/-- The first acknowledgement of a publish that registers an alias confirms it. -/
theorem confirmRegisteredAlias_eff (op : SendOp) :
    Eff a b s (s.confirmRegisteredAlias op)
      (s.view.setAliases (confirmAlias s.view.sendTopicAliases op.pubMsg.topic)) [] := by
  have hf : Frame a b s (s.assert .confirmRegisteredAlias
      (!op.pubMsg.topic.isEmpty && op.registeredAlias)) := (Frame.refl a b s).assert _ _ rfl
  unfold confirmRegisteredAlias
  set s₁ := s.assert .confirmRegisteredAlias (!op.pubMsg.topic.isEmpty && op.registeredAlias)
  have htable : s₁.clientState.sendTopicAliases = s.view.sendTopicAliases :=
    congrArg PubView.sendTopicAliases hf.view
  dsimp only
  rw [htable]
  split
  · have h := hf.eff (setSendAliases_eff (a := a) (b := b) (confirmAlias s.view.sendTopicAliases
      op.pubMsg.topic))
    rwa [hf.view] at h
  · rename_i hlt
    have hsame : confirmAlias s.view.sendTopicAliases op.pubMsg.topic = s.view.sendTopicAliases :=
      List.modify_eq_self (Nat.not_lt.mp hlt)
    rw [hsame]
    exact (hf.errorLog _).toEff

/-- Whether an acknowledgement is in order is read off the queue. -/
theorem isLegitSendAck_congr {pubcomp : Bool} (h : t.sendOps = s.sendOps) :
    t.isLegitSendAck op pubcomp = s.isLegitSendAck op pubcomp := by
  unfold Client.isLegitSendAck
  rw [h]

/-- The alias registration is confirmed when the publish registered one. -/
theorem confirm_run (hop : op ∈ s.sendOps) (c : Bool) (hf : Frame a b s t)
    (hc : c = true → op.registeredAlias = true) :
    MacroRun env G a b s (if c then t.confirmRegisteredAlias op else t) := by
  cases c with
  | false => exact .frame hf
  | true =>
    have heff := hf.eff (confirmRegisteredAlias_eff (a := a) (b := b) (s := t) op)
    rw [hf.view] at heff
    exact .micro (.confirm op hop (hc rfl) heff)

theorem confirm_sendOps (op : SendOp) (c : Bool) (hf : Frame a b s t) :
    (if c then t.confirmRegisteredAlias op else t).sendOps = s.sendOps := by
  cases c with
  | false => exact hf.sendOps_eq
  | true =>
    have heff := confirmRegisteredAlias_eff (a := a) (b := b) (s := t) op
    exact heff.sendOps_eq.trans hf.sendOps_eq

/-- The properties of an acknowledgement are rejected. -/
def Client.ackRejects (env : Env) (props : Option PropsList) (s : Client) : Bool :=
  match props with
  | none => false
  | some props =>
    let h := PropsHandler.ofProps env.cfg props
    h.protocolError ||
      ((h.reasonStr.isSome || !h.userProps.isEmpty) && !s.sessionState.problemInfoAllowed)

/-- Properties are refused for a protocol error, or where problem information was not asked for. -/
theorem ackProps_error {name text : String} {props : Option PropsList} {response : PublishResponse}
    (h : s.ackProps env name props response = .error text) : s.ackRejects env props = true := by
  unfold ackProps at h
  unfold Client.ackRejects
  split at h
  · cases h
  · dsimp only at h ⊢
    split at h
    · rename_i hp
      rw [hp, Bool.true_or]
    · split at h
      · rename_i hp
        obtain ⟨hsome, hinfo⟩ := Bool.and_eq_true_iff.mp hp
        rw [hsome, hinfo, Bool.true_or, Bool.true_and, Bool.or_true]
      · split at h
        · rename_i hp
          obtain ⟨husers, hinfo⟩ := Bool.and_eq_true_iff.mp hp
          rw [husers, hinfo, Bool.or_true, Bool.true_and, Bool.or_true]
        · cases h

/-- PUBACK ends the connection. -/
def Client.pubackFails (env : Env) (op : SendOp) (msg : AckMsg) (s : Client) : Bool :=
  decide (op.qos ≠ .atLeastOnceDelivery) || s.ackRejects env msg.props

/-- PUBREC ends the connection. -/
def Client.pubrecFails (env : Env) (op : SendOp) (msg : AckMsg) (s : Client) : Bool :=
  decide (op.qos ≠ .exactlyOnceDelivery) || op.acked || s.ackRejects env msg.props

/-- PUBCOMP ends the connection. -/
def Client.pubcompFails (env : Env) (op : SendOp) (msg : AckMsg) (s : Client) : Bool :=
  decide (op.qos ≠ .exactlyOnceDelivery) || !op.acked || s.ackRejects env msg.props

/-- Whether they are refused depends on the session. -/
theorem ackRejects_congr {props : Option PropsList} (h : t.sessionState = s.sessionState) :
    t.ackRejects env props = s.ackRejects env props := by
  unfold Client.ackRejects
  rw [h]

/-- Cancelling the timer and confirming the alias leave the session. -/
theorem confirm_session (op : SendOp) (c : Bool) :
    (if c then s.confirmRegisteredAlias op else s).sessionState = s.sessionState := by
  have hassert : ∀ (site : Site) (c : Bool), (s.assert site c).sessionState = s.sessionState := by
    intro site c
    unfold Client.assert
    split <;> rfl
  cases c with
  | false => rfl
  | true =>
    rw [if_pos rfl]
    unfold confirmRegisteredAlias
    dsimp only
    split
    · exact hassert _ _
    · exact hassert _ _

theorem assertInFlight_session (op : SendOp) :
    ((s.assertInFlight op).timerCancel op.responseTimer).sessionState = s.sessionState := by
  unfold assertInFlight Client.assert
  split <;> split <;> rfl

/-- A published publish is counted: the assertions of the handlers hold. -/
theorem assertInFlight_eq (hr : Reg s) (hop : op ∈ s.sendOps) (hpub : op.published = true) :
    s.assertInFlight op = s := by
  have hpos : 0 < s.sendOps.countP (·.published) := List.countP_pos_iff.mpr ⟨op, hop, hpub⟩
  have hflight : 0 < s.clientState.inFlightSends := by
    have hcount : s.sendOps.countP (·.published) ≤ s.clientState.inFlightSends := hr.inFlight
    omega
  unfold assertInFlight
  rw [hpub]
  show s.assert .send (decide (0 < s.clientState.inFlightSends)) = s
  rw [decide_eq_true hflight]
  rfl

/-- An acknowledgement stops the response timer of its publish. -/
theorem ackDisarm_frame (hr : Reg s) (hop : op ∈ s.sendOps) (hpub : op.published = true)
    (hd : b.admits (.disarm (.sendTimeout op.id)) = true) :
    Frame a b s ((s.assertInFlight op).timerCancel op.responseTimer) := by
  have howns : s.owns op.responseTimer (.sendTimeout op.id) := ⟨op, hop, rfl, rfl⟩
  rw [assertInFlight_eq hr hop hpub]
  exact (Frame.refl a b s).timerCancel howns fun _ => hd

/-- `SendOp::handle(PubackMsg&)`. -/
theorem sendOpHandlePuback_end (hleave : ∀ s op, op ∈ s.sendOps → G.leave s op) (hr : Reg s)
    (hop : op ∈ s.sendOps) (hpub : op.published = true) (msg : AckMsg)
    (ht : s.pubackFails env op msg = true → b.Talks) (hd : b.admits (.disarm (.sendTimeout op.id)) = true) :
    EndRun env G a b s (s.sendOpHandlePuback env op msg) := by
  have hf : Frame a b s ((s.assertInFlight op).timerCancel op.responseTimer) :=
    ackDisarm_frame hr hop hpub hd
  have hsession := assertInFlight_session (s := s) op
  unfold Client.pubackFails at ht
  unfold sendOpHandlePuback
  set s₁ := (s.assertInFlight op).timerCancel op.responseTimer
  dsimp only
  split
  · rename_i hqos
    have := ht (by rw [decide_eq_true hqos, Bool.true_or])
    exact ackProtocolError_end hleave hr hop hf _
  · set c := op.registeredAlias &&
      decide (msg.reasonCode.getD ReasonCode.success < ReasonCode.unspecifiedError) with hc
    have hrun : MacroRun env G a b s (if c then s₁.confirmRegisteredAlias op else s₁) :=
      confirm_run hop c hf fun h => by
        rw [hc, Bool.and_eq_true] at h
        exact h.1
    have hops := confirm_sendOps (a := a) (b := b) op c hf
    have hsame := (confirm_session (s := s₁) op c).trans hsession
    refine .bind hr hrun fun hr' => ?_
    set s₂ := if c then s₁.confirmRegisteredAlias op else s₁
    split
    · rename_i herr
      have := ht (by rw [← ackRejects_congr hsame, ackProps_error herr, Bool.or_true])
      exact ackProtocolError_end hleave hr' (hops ▸ hop) (.refl a b s₂) _
    · exact .goes (sendOpCompleteWithCb_run' hr' (hops ▸ hop) (hleave _ _ (hops ▸ hop))
        (.refl a b s₂) _ _)

/-- The reason code of an acknowledgement is an error. -/
def AckMsg.isError (msg : AckMsg) : Bool :=
  decide (ReasonCode.unspecifiedError ≤ msg.reasonCode.getD ReasonCode.success)

/-- PUBREL is sent for the first time, or the publish is completed with an error. -/
theorem sendPubrel_run (hr : Reg s) (hop : op ∈ s.sendOps) (hG : G.leave s op) (hack : G.ack s op)
    (hlegit : s.isLegitSendAck op false = true) (hqos : op.qos = .exactlyOnceDelivery)
    (hacked : op.acked = false) : MacroRun env G a b s (s.sendPubrel env op) := by
  have hd := hr.distinct
  have hmem : op.id ∈ s.view.sendOps.map SendOp.id := List.mem_map.mpr ⟨op, hop, rfl⟩
  have h₁ : Eff a b s (s.modifySendOp op.id ({ · with acked := true, sendAttempts := 0 }))
      (s.view.setOp { op with acked := true, sendAttempts := 0 }) [] :=
    modifySendOp_eff hd hop ⟨rfl, rfl, rfl, rfl, fun _ => rfl, rfl⟩
  unfold sendPubrel
  set s₁ := s.modifySendOp op.id ({ · with acked := true, sendAttempts := 0 })
  dsimp only
  cases hfits : s₁.fits env (.pubrel { packetId := op.packetId }) with
  | false =>
    obtain ⟨hec, hframe⟩ := sendMessage_of_not_fits (a := a) (b := b) hfits
      (o := some op.source)
    rw [if_pos hec]
    exact sendOpCompleteWithCb_run hr hop hG (h₁.frame (hframe.errorLog _)) rfl rfl rfl rfl _ _
  | true =>
    have h₂ := h₁.trans (sendMessage_eff (a := a) (b := b) (o := some op.source) rfl hfits)
    rw [h₁.view] at h₂
    have hec : ¬(s₁.sendMessage env (.pubrel { packetId := op.packetId })
        (some op.source)).2 ≠ .success := by
      rw [sendMessage_of_fits hfits]
      simp
    rw [if_neg hec]
    have h₃ := Eff.modify (v := s.view.push (.output (.pubrel { packetId := op.packetId })
        (some op.source))) (f := ({ · with reasonCode := ReasonCode.success, sendAttempts := 1 }))
        h₂ hd hmem rfl rfl ⟨rfl, rfl, rfl, rfl, fun _ => rfl, rfl⟩
    have h₄ := h₃.restartTimer (y := op) hmem rfl rfl
    exact .micro (.acked op hop hack hlegit hqos hacked h₄)

/-- `SendOp::handle(PubrecMsg&)`. -/
theorem sendOpHandlePubrec_end (hleave : ∀ s op, op ∈ s.sendOps → G.leave s op) (hr : Reg s)
    (hop : op ∈ s.sendOps) (hlegit : s.isLegitSendAck op false = true) (msg : AckMsg)
    (hack : msg.isError = false → ∀ t, t.sendOps = s.sendOps → G.ack t op)
    (ht : s.pubrecFails env op msg = true → b.Talks)
    (hd : b.admits (.disarm (.sendTimeout op.id)) = true) :
    EndRun env G a b s (s.sendOpHandlePubrec env op msg) := by
  have hf : Frame a b s ((s.assertInFlight op).timerCancel op.responseTimer) :=
    ackDisarm_frame hr hop (legit_published hlegit) hd
  have hsession := assertInFlight_session (s := s) op
  unfold Client.pubrecFails at ht
  unfold sendOpHandlePubrec
  set s₁ := (s.assertInFlight op).timerCancel op.responseTimer
  dsimp only
  split
  · rename_i hqos
    have := ht (by rw [decide_eq_true hqos, Bool.true_or, Bool.true_or])
    exact ackProtocolError_end hleave hr hop hf _
  · rename_i hqos
    split
    · rename_i hacked
      have := ht (by rw [hacked, Bool.or_true, Bool.true_or])
      exact ackProtocolError_end hleave hr hop hf _
    · rename_i hacked
      split
      · rename_i herr
        have := ht (by rw [← ackRejects_congr hsession, ackProps_error herr, Bool.or_true])
        exact ackProtocolError_end hleave hr hop hf _
      · split
        · exact .goes (sendOpCompleteWithCb_run' hr hop (hleave s op hop) hf _ _)
        · rename_i hrc
          have hack := hack (decide_eq_false hrc)
          have hrun : MacroRun env G a b s
              (if op.registeredAlias then s₁.confirmRegisteredAlias op else s₁) :=
            confirm_run hop _ hf id
          have hops := confirm_sendOps (a := a) (b := b) op op.registeredAlias hf
          refine .bind hr hrun fun hr' => .goes ?_
          exact sendPubrel_run hr' (hops ▸ hop) (hleave _ _ (hops ▸ hop)) (hack _ hops)
            (by rw [isLegitSendAck_congr hops, hlegit]) (not_not.mp hqos) (by simpa using hacked)

/-- `SendOp::handle(PubcompMsg&)`. -/
theorem sendOpHandlePubcomp_end (hleave : ∀ s op, op ∈ s.sendOps → G.leave s op) (hr : Reg s)
    (hop : op ∈ s.sendOps) (msg : AckMsg) (ht : s.pubcompFails env op msg = true → b.Talks)
    (hd : b.admits (.disarm (.sendTimeout op.id)) = true) :
    EndRun env G a b s (s.sendOpHandlePubcomp env op msg) := by
  have howns : s.owns op.responseTimer (.sendTimeout op.id) := ⟨op, hop, rfl, rfl⟩
  have hf : Frame a b s (s.timerCancel op.responseTimer) :=
    (Frame.refl a b s).timerCancel howns fun _ => hd
  have hsession : (s.timerCancel op.responseTimer).sessionState = s.sessionState := rfl
  unfold Client.pubcompFails at ht
  unfold sendOpHandlePubcomp
  dsimp only
  split
  · rename_i hqos
    have := ht (by rw [decide_eq_true hqos, Bool.true_or, Bool.true_or])
    exact ackProtocolError_end hleave hr hop hf _
  · split
    · rename_i hacked
      have := ht (by rw [hacked, Bool.or_true, Bool.true_or])
      exact ackProtocolError_end hleave hr hop hf _
    · split
      · rename_i herr
        have := ht (by rw [← ackRejects_congr hsession, ackProps_error herr, Bool.or_true])
        exact ackProtocolError_end hleave hr hop hf _
      · exact .goes (sendOpCompleteWithCb_run' hr hop (hleave s op hop) hf _ _)

/-! ## `ClientImpl::processPublishAckMsg` -/

/-- Whether the walk is safe is read off the view. -/
theorem ackSafe_congr {packetId : Nat} (h : t.view = s.view) :
    t.ackSafe env packetId = s.ackSafe env packetId := by
  have hops : t.sendOps = s.sendOps := congrArg PubView.sendOps h
  have hstays : ∀ o, t.staysQueued env o = s.staysQueued env o := fun o =>
    staysQueued_congr (by rw [h])
  unfold Client.ackSafe Client.findSendOp
  rw [hops]
  split
  · rfl
  · rw [hstays]

/-- The message of an acknowledgement of a publish, and its packet identifier. -/
def InMsg.ackPacketId : InMsg → Option Nat
  | .puback m | .pubrec m | .pubcomp m => some m.packetId
  | _ => none

def InMsg.isPubcomp : InMsg → Bool
  | .pubcomp _ => true
  | _ => false

/-- The publish an acknowledgement is for, and whether it comes in order. -/
def Client.acks (msg : InMsg) (legit : Bool) (op : SendOp) (s : Client) : Prop :=
  ∃ packetId, msg.ackPacketId = some packetId ∧ s.findSendOp packetId = some op ∧
    s.isLegitSendAck op msg.isPubcomp = legit

/-- What the handling of an acknowledgement has to know. One that comes out of order resends publishes,
and a PUBREC without an error is answered. -/
structure Guard.Acks (env : Env) (msg : InMsg) (s : Client) (G : Guard) : Prop extends G.Ends where
  dup : ∀ x, s.acks msg false x → ∀ t op, op ∈ t.sendOps → op.paused = false →
    (s.ackSafe env x.packetId = true → op.published = true) → G.dup t op
  ack : ∀ m op, msg = .pubrec m → m.isError = false → s.acks msg true op →
    ∀ t, t.sendOps = s.sendOps → G.ack t op

/-- An acknowledgement that is not known only shows that the broker is alive; the others are handled. -/
theorem processPublishAckMsg_end {msg : InMsg} {packetId : Nat} (pubcompAck : Bool)
    (hmsg : msg.ackPacketId = some packetId ∧ msg.isPubcomp = pubcompAck) (hG : G.Acks env msg s)
    (hr : Reg s) (handle : SendOp → Client → Client)
    (hhandle : ∀ t op, Reg t → t.sendOps = s.sendOps → t.sessionState = s.sessionState →
      op ∈ t.sendOps → s.findSendOp packetId = some op → s.acks msg true op →
      t.isLegitSendAck op pubcompAck = true → EndRun env G a b t (handle op t)) :
    s.findSendOp packetId = none ∧ s.processPublishAckMsg env packetId pubcompAck handle =
        (s.keepAliveMessageReceived, false) ∨
      (s.processPublishAckMsg env packetId pubcompAck handle).2 = true ∧
        EndRun env G a b s (s.processPublishAckMsg env packetId pubcompAck handle).1 := by
  -- the keep alive is told first; it leaves the queue and the session alone
  have hf : Frame a b s s.keepAliveMessageReceived :=
    (Frame.refl a b s).keepAliveMessageReceived
  have hops := hf.sendOps_eq
  have hsession : s.keepAliveMessageReceived.sessionState = s.sessionState := by
    rw [keepAliveMessageReceived_eq]
  have hfind : s.keepAliveMessageReceived.findSendOp packetId = s.findSendOp packetId := by
    unfold findSendOp
    rw [hops]
  have hr' := hf.reg hr
  unfold processPublishAckMsg
  dsimp only
  rw [hfind]
  cases hop : s.findSendOp packetId with
  | none => exact Or.inl ⟨rfl, rfl⟩
  | some op =>
    have hmem : op ∈ s.keepAliveMessageReceived.sendOps :=
      hops ▸ List.mem_of_find?_eq_some hop
    dsimp only
    right
    split
    · rename_i hlegit
      have hacks : s.acks msg true op :=
        ⟨packetId, hmsg.1, hop, hmsg.2 ▸ (isLegitSendAck_congr hops).symm.trans hlegit⟩
      exact ⟨rfl, .after (.frame hf) (hhandle _ op hr' hops hsession hmem hop hacks hlegit)⟩
    · rename_i hlegit
      have hacks : s.acks msg false op :=
        ⟨packetId, hmsg.1, hop, hmsg.2 ▸ (isLegitSendAck_congr hops).symm.trans (by simpa using hlegit)⟩
      have hpid : op.packetId = packetId := by simpa using List.find?_some hop
      -- out of order: nothing is acknowledged, the queue is transmitted again
      refine ⟨rfl, .after (.frame hf) (.goes ?_)⟩
      refine resendAllUntil_run hG.leave hr' (hfind ▸ hop) fun t o ho hp hsafe =>
        hG.dup op hacks t o ho hp ?_
      rwa [ackSafe_congr hf.view, ← hpid] at hsafe

section Acks

variable (msg : AckMsg) (hr : Reg s)
  (hd : ∀ op, s.findSendOp msg.packetId = some op → b.admits (.disarm (.sendTimeout op.id)) = true)

include hr hd

/-- PUBACK as a whole. -/
theorem handlePuback_end (hG : G.Acks env (.puback msg) s)
    (ht : ∀ op, s.findSendOp msg.packetId = some op → s.pubackFails env op msg = true → b.Talks) :
    EndRun env G a b s (s.handlePuback env msg) := by
  have hend := processPublishAckMsg_end (a := a) (b := b) false ⟨rfl, rfl⟩ hG hr
    (sendOpHandlePuback env · msg) fun t op hr' _ hsession hop hfind _ hlegit => by
      refine sendOpHandlePuback_end hG.leave hr' hop (legit_published hlegit) msg
        (fun hfails => ht op hfind ?_) (hd op hfind)
      unfold Client.pubackFails at hfails ⊢
      rwa [ackRejects_congr hsession] at hfails
  unfold handlePuback
  dsimp only
  rcases hend with ⟨-, heq⟩ | ⟨htrue, hrun⟩
  · rw [heq, if_neg Bool.false_ne_true]
    exact .frame ((Frame.refl a b s).keepAliveMessageReceived.errorLog _)
  · rw [if_pos htrue]
    exact hrun

/-- PUBREC as a whole; one for no publish is answered with an error. -/
theorem handlePubrec_end (hG : G.Acks env (.pubrec msg) s) (hnone : s.findSendOp msg.packetId = none → b.Talks)
    (ht : ∀ op, s.findSendOp msg.packetId = some op → s.pubrecFails env op msg = true → b.Talks) :
    EndRun env G a b s (s.handlePubrec env msg) := by
  have hend := processPublishAckMsg_end (a := a) (b := b) false ⟨rfl, rfl⟩ hG hr
    (sendOpHandlePubrec env · msg) fun t op hr' hops hsession hop hfind hacks hlegit => by
      refine sendOpHandlePubrec_end hG.leave hr' hop hlegit msg
        (fun herr u hu => hG.ack msg op rfl herr hacks u (hu.trans hops))
        (fun hfails => ht op hfind ?_) (hd op hfind)
      unfold Client.pubrecFails at hfails ⊢
      rwa [ackRejects_congr hsession] at hfails
  unfold handlePubrec
  dsimp only
  rcases hend with ⟨hfind, heq⟩ | ⟨htrue, hrun⟩
  · have := hnone hfind
    rw [heq, if_neg Bool.false_ne_true]
    exact .frame (((Frame.refl a b s).keepAliveMessageReceived.errorLog _).post env rfl (by trivial))
  · rw [if_pos htrue]
    exact hrun

/-- PUBCOMP as a whole. -/
theorem handlePubcomp_end (hG : G.Acks env (.pubcomp msg) s)
    (ht : ∀ op, s.findSendOp msg.packetId = some op → s.pubcompFails env op msg = true → b.Talks) :
    EndRun env G a b s (s.handlePubcomp env msg) := by
  have hend := processPublishAckMsg_end (a := a) (b := b) true ⟨rfl, rfl⟩ hG hr
    (sendOpHandlePubcomp env · msg) fun t op hr' _ hsession hop hfind _ _ => by
      refine sendOpHandlePubcomp_end hG.leave hr' hop msg (fun hfails => ht op hfind ?_) (hd op hfind)
      unfold Client.pubcompFails at hfails ⊢
      rwa [ackRejects_congr hsession] at hfails
  unfold handlePubcomp
  dsimp only
  rcases hend with ⟨-, heq⟩ | ⟨htrue, hrun⟩
  · rw [heq, if_neg Bool.false_ne_true]
    exact .frame ((Frame.refl a b s).keepAliveMessageReceived.errorLog _)
  · rw [if_pos htrue]
    exact hrun

end Acks

end Mqtt5
