import Mqtt5Client.Authentication

/-!
# Mqtt5Client — the limits of a connection

What a CONNECT says is remembered in its operation until the CONNACK is accepted (`Declared`), so the
limits of the connection are those the two packets negotiate. There are exceptions (`Attempted`): the alias
maximum the application accepts only agrees with the CONNECT where no earlier attempt has left one, problem
information counts as refused where the CONNECT does not ask for it, a Receive Maximum is only kept as it was
configured, and a long session expiry interval overflows in milliseconds.
-/

namespace Mqtt5

open Client

variable {env : Env} {a : Bool} {b : Scope} {act : Act} {s t u : Client} {sys sys' : Sys} {l : Label}

/-! ## What was announced -/

def Event.asConnect : Event → Option ConnectMsg
  | .output (.connect msg) _ => some msg
  | _ => none

/-- The CONNECT that was handed over last. -/
def Client.lastConnect (s : Client) : Option ConnectMsg := lastOf Event.asConnect s.log

/-- A CONNECT is traffic. -/
theorem Logs.lastConnect {out : List Event} (h : Logs out s t) (hnone : ∀ e ∈ out, e.asConnect = none) :
    t.lastConnect = s.lastConnect := by
  obtain ⟨es, hlog, rfl⟩ := h
  unfold Client.lastConnect
  rw [hlog]
  refine lastOf_append_none (fun e he => ?_) s.log
  cases htraffic : e.isTraffic with
  | true => exact hnone e (List.mem_filter.mpr ⟨he, htraffic⟩)
  | false =>
    cases e with
    | output => cases htraffic
    | _ => rfl

/-- Entries of the error log are no CONNECT. -/
theorem LogsErrors.lastConnect (h : LogsErrors s t) : t.lastConnect = s.lastConnect := by
  obtain ⟨texts, counts, rfl⟩ := h
  refine lastOf_append_none (fun e he => ?_) s.log
  obtain ⟨text, -, rfl⟩ := List.mem_map.mp he
  rfl

/-! ## Updates without configuration -/

namespace Scope

/-- What a step within a connection uses that neither configures nor sends a connect operation. -/
def unconfigured : Scope where
  admits
    | .aliasMax | .set .connect | .mark .connect => false
    | act => within.admits act

instance : Stays unconfigured where
  admits act h := by
    have hw := unread_le act h
    unfold unconfigured
    dsimp only
    split
    · cases h
    · cases h
    · cases h
    · exact hw

end Scope

instance : Scope.Grants .unconfigured := ⟨rfl, fun _ _ _ => rfl, fun _ _ _ => rfl⟩

theorem Recv.Le.unconfigured (r : Recv) : r.Le .unconfigured := by
  intro act h
  unfold Recv.needs at h
  split at h <;> first | rfl | contradiction

/-- The connect operations were there before or are new, the CONNECT announced last belongs to one that
was there, and the alias maximum is the same. -/
structure Aside (s t : Client) : Prop where
  ops : ∀ op ∈ t.connectOps, op ∈ s.connectOps ∨ op.Fresh
  aliasMax : t.sessionState.maxRecvTopicAlias = s.sessionState.maxRecvTopicAlias
  announced : t.lastConnect = s.lastConnect ∨
    ∃ op ∈ s.connectOps, op.sent = true ∧ t.lastConnect = some op.connectMsg

theorem Aside.refl (s : Client) : Aside s s := ⟨fun _ h => Or.inl h, rfl, Or.inl rfl⟩

/-- Two parts that configure nothing. -/
theorem Aside.trans (h : Aside s t) (h' : Aside t u) : Aside s u where
  ops op hop := (h'.ops op hop).elim (h.ops op) Or.inr
  aliasMax := h'.aliasMax.trans h.aliasMax
  announced := by
    rcases h'.announced with heq | ⟨op, hop, hsent, heq⟩
    · rw [heq]
      exact h.announced
    · -- an operation that was sent is not new
      rcases h.ops op hop with hop | hfresh
      · exact Or.inr ⟨op, hop, hsent, heq⟩
      · rw [hfresh.sent] at hsent
        cases hsent

/-- The updates that are admitted write no connect operation. -/
theorem allowed_unconfigured (h : act.allowed a .unconfigured = true) :
    act.writesConnect = false ∧ act.isSteady = true := by
  have hn := (Act.allowed_iff.mp h).2
  constructor
  · unfold Act.writesConnect
    split
    · cases hn rfl
    · cases hn rfl
    · rfl
  · unfold Act.isSteady
    split
    · cases hn rfl
    · cases hn rfl
    · rfl

/-- The kinds that write the session. -/
def Act.writesSession : Act → Bool
  | .session | .sendAliases | .recvAliases | .aliasMax => true
  | _ => false

/-- The updates that leave the session. -/
theorem Prim.sessionState (h : Prim act s t) (hact : act.writesSession = false) :
    t.sessionState = s.sessionState := by
  have hassert : ∀ (u : Client) (site : Site) (c : Bool),
      (u.assert site c).sessionState = u.sessionState := by
    intro u site c
    unfold Client.assert
    split <;> rfl
  have hprobe : ∀ env : Env, ((s.timerAlloc env).1.assert .timer
      (s.timerAlloc env).2.isSome).sessionState = s.sessionState := fun env => hassert _ _ _
  have halloc : ∀ env : Env, (s.allocPacketId env).1.sessionState = s.sessionState := fun env => by
    rw [allocPacketId_same]
  cases h with
  | status | session | sendAliases | recvAliases | aliasMax => cases hact
  | probe env => exact hprobe env
  | createSend env h => exact hprobe env
  | createRecv env => exact hprobe env
  | createKeepAlive env hnil hcon =>
    rcases createKeepAliveOpIfNeeded_cases env hnil with heq | ⟨c, m, op, -, heq⟩
    · rw [heq]
      rfl
    · rw [heq]
      exact hassert s .timer c
  | unlock => exact hassert s _ _
  | takeSubscribe env op hop => exact halloc env
  | takeUnsubscribe env op hop => exact halloc env
  | takeSend env op x hop hx => exact halloc env
  | complete ref => exact (SameSession.completeRef ref s).session
  | completeSend op hop href =>
    exact (((SameSession.refl ({ s.releaseSendOp op with
      sendOps := s.sendOps.eraseP (·.id == op.id) }.emit (.sendOpErased op.id))).releasePacketId
        op.packetId).timerFree op.responseTimer).session
  | clean =>
    unfold cleanOps
    split <;> rfl
  | _ => rfl

/-- The alias maximum has its own kind of update. -/
theorem Prim.maxRecvTopicAlias (h : Prim act s t) (hact : act.allowed a .unconfigured = true) :
    t.sessionState.maxRecvTopicAlias = s.sessionState.maxRecvTopicAlias := by
  cases hwrites : act.writesSession with
  | false => rw [h.sessionState hwrites]
  | true =>
    cases h with
    | status | session | aliasMax => cases (Act.allowed_iff.mp hact).2 rfl
    | sendAliases | recvAliases => rfl
    | _ => cases hwrites

/-- An update without configuration. -/
theorem Prim.aside (h : Prim act s t) (hact : act.allowed a .unconfigured = true) : Aside s t := by
  refine ⟨h.connectOps (allowed_unconfigured hact).1, h.maxRecvTopicAlias hact, ?_⟩
  by_cases hnone : ∀ e ∈ act.traffic, e.asConnect = none
  · exact Or.inl (h.logs.lastConnect hnone)
  · right
    cases h with
    | emit e hr hg =>
      cases e with
      | output msg source =>
        cases msg with
        | connect msg =>
          obtain ⟨op, hop, hsent, rfl⟩ := hg
          refine ⟨op, hop, hsent, ?_⟩
          show lastOf Event.asConnect (s.log ++ [.output (.connect op.connectMsg) source]) = _
          rw [lastOf_append]
          rfl
        | _ => exact absurd (by simp [Act.traffic, Event.isTraffic, Event.asConnect]) hnone
      | _ => exact absurd (by simp [Act.traffic, Event.isTraffic, Event.asConnect]) hnone
    | _ => exact absurd (fun e he => nomatch he) hnone

/-- And a sequence of them. -/
theorem Acts.aside (h : Acts a .unconfigured s t) : Aside s t :=
  h.invariant (P := Aside s) (fun hp hact hs => hs.trans (hp.aside hact)) (.refl s)

/-! ## The connect operation -/

/-- The connect operation, the CONNECT announced for it and the alias maximum of the session agree. -/
structure Declared (s : Client) : Prop where
  faithful : ∀ op ∈ s.connectOps, op.Faithful
  announced : ∀ op ∈ s.connectOps, op.sent = true → s.lastConnect = some op.connectMsg
  stored : ∀ op ∈ s.connectOps, ∀ n, op.aliasMax = some n → s.sessionState.maxRecvTopicAlias = n
  settled : ∀ op ∈ s.connectOps, op.sent = true →
    s.sessionState.maxRecvTopicAlias = op.aliasMax.getD 0

/-- Without a connect operation there is nothing to declare. -/
theorem Declared.of_gone (h : t.connectOps = []) : Declared t := by
  have hnone : ∀ op : ConnectOp, op ∉ t.connectOps := fun op hop => by
    rw [h] at hop
    cases hop
  exact ⟨fun op hop => absurd hop (hnone op), fun op hop => absurd hop (hnone op),
    fun op hop => absurd hop (hnone op), fun op hop => absurd hop (hnone op)⟩

theorem eq_of_length_le_one {α : Type} {l : List α} {x y : α} (h : l.length ≤ 1) (hx : x ∈ l)
    (hy : y ∈ l) : x = y := by
  match l, h with
  | [], _ => cases hx
  | [z], _ => rw [List.mem_singleton.mp hx, List.mem_singleton.mp hy]

/-- The operation still remembers what the last CONNECT announced. -/
theorem Aside.declared (h : Aside s t) (hone : s.connectOps.length ≤ 1) (hs : Declared s) :
    Declared t := by
  refine ⟨fun op hop => ?_, fun op hop hsent => ?_, fun op hop n hn => ?_, fun op hop hsent => ?_⟩
  · rcases h.ops op hop with hop | hfresh
    · exact hs.faithful op hop
    · exact hfresh.faithful
  · rcases h.ops op hop with hop | hfresh
    · rcases h.announced with heq | ⟨y, hy, -, heq⟩
      · rw [heq, hs.announced op hop hsent]
      · rw [heq, eq_of_length_le_one hone hop hy]
    · rw [hfresh.sent] at hsent
      cases hsent
  · rcases h.ops op hop with hop | hfresh
    · rw [h.aliasMax, hs.stored op hop n hn]
    · unfold ConnectOp.aliasMax at hn
      rw [hfresh.props] at hn
      cases hn
  · rcases h.ops op hop with hop | hfresh
    · rw [h.aliasMax, hs.settled op hop hsent]
    · rw [hfresh.sent] at hsent
      cases hsent

/-- Nothing was announced for the operation yet. -/
theorem Declared.of_unsent (hfaithful : ∀ op ∈ t.connectOps, op.Faithful)
    (hunsent : ∀ op ∈ t.connectOps, op.sent = false)
    (hstored : ∀ op ∈ t.connectOps, ∀ n, op.aliasMax = some n →
      t.sessionState.maxRecvTopicAlias = n) : Declared t := by
  refine ⟨hfaithful, fun op hop hsent => ?_, hstored, fun op hop hsent => ?_⟩
  all_goals
    rw [hunsent op hop] at hsent
    cases hsent

/-- The only operation is configured. -/
theorem Reconfigured.declared {op : ConnectOp} (h : Reconfigured s op t) (honly : s.connectOps = [op])
    (hsent : op.sent = false) (hs : Declared s) : Declared t := by
  have hop : op ∈ s.connectOps := by rw [honly]; exact List.mem_singleton_self op
  cases h with
  | same log counts heq =>
    have hops : t.connectOps = s.connectOps := by rw [heq]
    have hmax : t.sessionState = s.sessionState := by rw [heq]
    refine .of_unsent (hops ▸ hs.faithful) (fun x hx => ?_) (by rw [hops, hmax]; exact hs.stored)
    rw [hops, honly, List.mem_singleton] at hx
    rw [hx, hsent]
  | stored x log counts n heq hid hxsent hf ha =>
    have hops : t.connectOps = [x] := by
      rw [heq]
      show modifyFirst (·.id == x.id) (fun _ => x) s.connectOps = [x]
      rw [honly]
      unfold modifyFirst
      rw [if_pos (by simp [hid])]
    have hmax : t.sessionState.maxRecvTopicAlias = n := by rw [heq]
    have hmem : ∀ y ∈ t.connectOps, y = x := fun y hy => List.mem_singleton.mp (hops ▸ hy)
    refine .of_unsent (fun y hy => ?_) (fun y hy => ?_) (fun y hy m hm => ?_)
    · rw [hmem y hy]
      exact hf (hs.faithful op hop)
    · rw [hmem y hy, hxsent, hsent]
    · rw [hmem y hy] at hm
      rw [hmax]
      rcases ha with ⟨heq, hn⟩ | heq
      · rw [hn]
        exact hs.stored op hop m (heq ▸ hm)
      · rw [heq] at hm
        exact Option.some.inj hm

/-- A connect operation found is the only one. -/
theorem connectOps_single (hone : s.connectOps.length ≤ 1) {op : ConnectOp} {id : OpId}
    (hop : s.connectOp? id = some op) : s.connectOps = [op] := by
  have hmem : op ∈ s.connectOps := List.mem_of_find?_eq_some hop
  cases hl : s.connectOps with
  | nil =>
    rw [hl] at hmem
    cases hmem
  | cons x xs =>
    rw [eq_of_length_le_one hone hmem (by rw [hl]; exact List.mem_cons_self)]
    rw [hl, List.length_cons] at hone
    rw [List.length_eq_zero_iff.mp (show xs.length = 0 by omega)]

/-- What is announced is the CONNECT of the operation. -/
theorem connectSend_declared (hw : LockReg s) {op : ConnectOp} {id : OpId}
    (hop : s.connectOp? id = some op) (cb : Bool)
    (hok : op.aliasMax.isSome = true ∨ s.sessionState.maxRecvTopicAlias = 0) (hs : Declared s) :
    Declared (s.connectSend env op cb).1 := by
  have honly := connectOps_single hw.connect hop
  have hmem : op ∈ s.connectOps := by rw [honly]; exact List.mem_singleton_self op
  have href : some ⟨.connect, id⟩ ∈ s.ops := by
    have hid : op.id = id := (Keyed.mem_of_find hop).2
    rw [← hid]
    exact hw.registered _ (mem_lockKeys.mpr (Or.inl ⟨op, hmem, rfl⟩))
  obtain ⟨faults, hallow⟩ := allowNextPrepare_eq s
  -- nothing was announced, or CONNECT is the last entry
  rcases connectSend_eq env hop href cb with ⟨msg, heq⟩ | ⟨-, hfits, heq⟩
  · have hframe : Frame false .unconfigured s ((s.allowNextPrepare.errorLog msg).opCompleteConnect op.id) :=
      (((Frame.refl _ _ s).allowNextPrepare).errorLog msg).opCompleteConnect
        ((SameOps.cancelLock false s).live (.connect hmem))
    rw [heq]
    exact hframe.acts.aside.declared hw.connect hs
  · rw [heq, sendMessage_of_fits hfits, keepAliveMessageSent_eq, hallow]
    have hset : modifyFirst (·.id == op.marked.id) (fun _ => op.marked) s.connectOps = [op.marked] := by
      rw [honly]
      unfold modifyFirst
      rw [if_pos (by simp [ConnectOp.marked])]
    have hall : ∀ y ∈ modifyFirst (·.id == op.marked.id) (fun _ => op.marked) s.connectOps,
        y = op.marked := fun y hy => by
      rw [hset] at hy
      exact List.mem_singleton.mp hy
    refine ⟨fun y hy => ?_, fun y hy _ => ?_, fun y hy n hn => ?_, fun y hy _ => ?_⟩
    · rw [hall y hy]
      have hf := hs.faithful op hmem
      exact ⟨hf.expiry, hf.packetSize, hf.problemInfo, hf.method⟩
    · rw [hall y hy]
      show lastOf Event.asConnect (s.log ++ [.output (.connect op.connectMsg) none]) = _
      rw [lastOf_append]
      rfl
    · rw [hall y hy] at hn
      exact hs.stored op hmem n hn
    · rw [hall y hy]
      show s.sessionState.maxRecvTopicAlias = op.aliasMax.getD 0
      cases halias : op.aliasMax with
      | some n => exact hs.stored op hmem n halias
      | none =>
        rw [halias] at hok
        rcases hok with hsome | hzero
        · cases hsome
        · exact hzero

/-! ## Attempts -/

/-- The connect operation that is sent. -/
def Sys.connects (sys : Sys) : Label → Option ConnectOp
  | .call (.connectSend id _ _) => sys.client.connectOp? id
  | _ => none

/-- The CONNACK that is handled. -/
def Sys.connack (sys : Sys) (l : Label) : Option ConnackMsg :=
  match sys.inMsg l with
  | some (.connack msg) => some msg
  | _ => none

/-- The CONNACK answers a CONNECT that was sent, that asks for problem information and announces the Receive
Maximum the operation remembers, and the intervals in force can be told in milliseconds. -/
structure Answers (cfg : Config) (op : ConnectOp) (msg : ConnackMsg) : Prop where
  sent : op.sent = true
  problemInfo : (lastOf Property.asRequestProblemInfo op.connectMsg.props).isSome = true
  receiveMax : lastOf Property.asReceiveMax op.connectMsg.props = some op.highQosRecvLimit
  expiry : agreedExpiry cfg op.connectMsg msg * 1000 < 2 ^ 32
  keepAlive : agreedKeepAlive cfg op.connectMsg msg * 1000 < 2 ^ 32

instance (cfg : Config) (op : ConnectOp) (msg : ConnackMsg) : Decidable (Answers cfg op msg) :=
  decidable_of_iff (op.sent = true ∧
      (lastOf Property.asRequestProblemInfo op.connectMsg.props).isSome = true ∧
      lastOf Property.asReceiveMax op.connectMsg.props = some op.highQosRecvLimit ∧
      agreedExpiry cfg op.connectMsg msg * 1000 < 2 ^ 32 ∧
      agreedKeepAlive cfg op.connectMsg msg * 1000 < 2 ^ 32)
    ⟨fun h => ⟨h.1, h.2.1, h.2.2.1, h.2.2.2.1, h.2.2.2.2⟩,
      fun h => ⟨h.sent, h.problemInfo, h.receiveMax, h.expiry, h.keepAlive⟩⟩

/-- CONNECT is sent with an alias maximum of its own where the session has one from before, and a CONNACK
that is accepted is the answer to such a CONNECT. -/
def Attempted (env : Env) (sys : Sys) (l : Label) : Prop :=
  (∀ op ∈ sys.connects l,
      op.aliasMax.isSome = true ∨ sys.client.sessionState.maxRecvTopicAlias = 0) ∧
    ∀ msg ∈ sys.connack l, ∀ op ∈ sys.client.connectOps, connackAccepted env op msg = true →
      Answers env.cfg op msg

instance (env : Env) (sys : Sys) (l : Label) : Decidable (Attempted env sys l) :=
  inferInstanceAs (Decidable (_ ∧ _))

/-- A configuration changes an operation that has not announced anything yet. -/
theorem onHandle_declared {id : OpId} {f : ConnectOp → Client → Client × ErrorCode}
    (hf : ∀ op, Reconfigured s op (f op s).1) (hlegal : unsentOp (s.connectOp? id) (·.sent) = true)
    (hone : s.connectOps.length ≤ 1) (hs : Declared s) :
    Declared (s.onHandle (s.connectOp? id) f).1 := by
  cases hop : s.connectOp? id with
  | none =>
    rw [hop] at hlegal
    cases hlegal
  | some op => exact (hf op).declared (connectOps_single hone hop) (unsent_of_legal hlegal hop) hs

/-- A call that configures or sends a connect operation. -/
theorem call_declared {api : Api} (hw : LockReg s) (hlegal : api.legal s = true)
    (hapi : api.configures = true) (hs : Declared s)
    (hok : ∀ op ∈ Sys.connects ⟨s, []⟩ (.call api),
      op.aliasMax.isSome = true ∨ s.sessionState.maxRecvTopicAlias = 0) :
    Declared (s.call env api).1 := by
  cases api with
  | connectConfigBasic id config =>
    exact onHandle_declared (fun op => connectConfigBasic_reconfigured config) hlegal hw.connect hs
  | connectConfigWill id config =>
    exact onHandle_declared (fun op => connectConfigWill_reconfigured config) hlegal hw.connect hs
  | connectConfigExtra id config =>
    exact onHandle_declared (fun op => connectConfigExtra_reconfigured config) hlegal hw.connect hs
  | connectConfigAuth id config =>
    exact onHandle_declared (fun op => connectConfigAuth_reconfigured config) hlegal hw.connect hs
  | connectAddUserProp id key value =>
    exact onHandle_declared (fun op => connectAddUserProp_reconfigured key value) hlegal hw.connect hs
  | connectAddWillUserProp id key value =>
    exact onHandle_declared (fun op => connectAddWillUserProp_reconfigured key value) hlegal
      hw.connect hs
  | connectSetResponseTimeout id ms =>
    refine onHandle_declared (fun op => ?_) hlegal hw.connect hs
    exact .of_sameProps (x := { op with responseTimeoutMs := ms })
      ⟨rfl, rfl, rfl, rfl, rfl, rfl, rfl⟩ s.log s.counts rfl
  | connectSend id cb elapsed =>
    show Declared (s.sendHandle (s.connectOp? id) (connectSend env · cb) _).1
    cases hop : s.connectOp? id with
    | none =>
      have hlegal : unsentOp (s.connectOp? id) (·.sent) = true := hlegal
      rw [hop] at hlegal
      cases hlegal
    | some op =>
      exact connectSend_declared hw hop cb (hok op hop) hs
  | _ => cases hapi

/-- A step that configures no connect operation. -/
theorem step_conn_unconfigured (hw : SysWf sys) (hreg : Registered sys.client)
    (hcfg : Sys.configures l = false) (hstep : sys.step env l = some sys') :
    Conn env .unconfigured sys l sys'.client :=
  step_conn_of hw hreg hstep (fun _ _ => .unconfigured _) (fun _ _ _ => inferInstance) fun h => by
    rw [hcfg] at h
    cases h

/-- The end of a connection leaves no connect operation. -/
theorem Disconnected.connectOps {keep : Bool} (h : Disconnected keep s t) : t.connectOps = [] :=
  List.length_eq_zero_iff.mp (h.count (Or.inr rfl))

theorem connectOps_of_apart (h : Apart s) (hcon : s.sessionState.connected = true) :
    s.connectOps = [] :=
  List.length_eq_zero_iff.mp (h.online hcon)

/-- Nor does the initialisation create one. -/
theorem initInternal_connectOps (h : s.connectOps = []) : (s.initInternal env).1.connectOps = [] := by
  unfold initInternal
  split
  · exact h
  · split
    · exact h
    · have hf : Frame true .rests s (s.terminateOps env .aborted true) := terminateOps_keep_frame .aborted
      have hle := (Acts.uncreated ⟨rfl, rfl⟩ hf.acts).shrinks.count .connect
      have hzero : s.opCount .connect = 0 := List.length_eq_zero_iff.mpr h
      exact List.length_eq_zero_iff.mp (Nat.le_zero.mp (hzero ▸ hle))

/-- A step that sends CONNECT announces what its operation remembers; every other step keeps it. -/
theorem step_declared (hw : SysWf sys) (hreg : Registered sys.client) (hin : InSession sys)
    (hok : Attempted env sys l) (hstep : sys.step env l = some sys') (hs : Declared sys.client) :
    Declared sys'.client := by
  have hone := hw.lock.connect
  cases hcfg : Sys.configures l with
  | true =>
    cases l with
    | run => cases hcfg
    | call api =>
      obtain ⟨-, hlegal, hclient, -⟩ := step_call hstep
      rw [hclient]
      exact call_declared hw.lock hlegal hcfg hs hok.1
  | false =>
    cases step_conn_unconfigured hw hreg hcfg hstep with
    | keeps hk => exact hk.aside.declared hone hs
    | ends u reason status info hu hd ht => exact .of_gone hd.connectOps
    | connack msg _ hc =>
      cases hc with
      | keeps hk => exact hk.aside.declared hone hs
      | refused op u hop hacc hu ht hgone => exact .of_gone hgone
      | accepted op u hop hacc hu ht hgone => exact .of_gone hgone
    | network hl hhead ht =>
      rw [ht]
      rcases networkDown_cases env hw.reg hreg with ⟨-, heq⟩ | hd
      · rw [heq]
        exact ⟨hs.faithful, hs.announced, hs.stored, hs.settled⟩
      · exact .of_gone hd.connectOps
    | prepare elapsed hl ht =>
      rw [ht]
      unfold beginConnectPrepare
      dsimp only
      split
      · exact ⟨hs.faithful, hs.announced, hs.stored, hs.settled⟩
      · split
        · exact Aside.declared (s := sys.client) ⟨fun _ h => Or.inl h, rfl,
            Or.inl ((LogsErrors.refl sys.client).errorLog _).lastConnect⟩ hone hs
        · exact ⟨hs.faithful, hs.announced, hs.stored, hs.settled⟩
    | initial hl hhead ht =>
      -- a client that is not initialised has no connect operation
      rw [ht]
      have hfresh := hin.fresh (List.mem_of_mem_head? hhead)
      refine .of_gone (initInternal_connectOps ?_)
      by_contra hne
      have hready := hin.apart.initialized (Or.inr fun hzero => hne (List.length_eq_zero_iff.mp hzero))
      rw [hfresh] at hready
      cases hready

/-- In every such run the operation remembers what was announced. -/
theorem reach_declared (h : (machine env).Reach (Attempted env) sys) : Declared sys.client := by
  have hinit : ∀ sys, (machine env).init sys → Declared sys.client := by
    rintro _ ⟨cbs, config, rfl⟩
    exact .of_gone rfl
  exact h.invariant hinit fun sys l sys' hs hinv hok hstep =>
    step_declared (reach_wf hs) (reach_registered hs) (reach_inSession hs) hok hstep hinv

/-! ## The accepted CONNACK -/

/-- A limit that is applied twice. -/
theorem limited_limited (limit value : Nat) : limited limit (limited limit value) = limited limit value := by
  unfold limited
  split
  · rfl
  · exact Nat.min_eq_left (Nat.min_le_right _ _)

/-- The limits in the session are those the two packets negotiate. -/
theorem connackConnected_limits {op : ConnectOp} {msg : ConnackMsg} (hf : op.Faithful)
    (hans : Answers env.cfg op msg)
    (halias : s.sessionState.maxRecvTopicAlias = op.aliasMax.getD 0)
    (hsend : s.sessionState.maxSendTopicAlias = 0) :
    (s.connackConnected env op msg).sessionState.limits = negotiated env.cfg op.connectMsg msg := by
  unfold connackConnected
  dsimp only
  set h := PropsHandler.ofProps env.cfg msg.props with hh
  have hstored : ((s.timerCancel op.timer).storeAliasMax env h (connackAnswer env op msg)).sessionState =
      { s.sessionState with maxSendTopicAlias := (if env.cfg.hasTopicAliases then
        (h.topicAliasMax.map (limited env.cfg.topicAliasesLimit)).getD 0 else 0) } := by
    unfold storeAliasMax connackAnswer connackResponse
    dsimp only
    cases env.cfg.hasTopicAliases with
    | false => simp [← hsend]; rfl
    | true =>
      cases halias : h.topicAliasMax with
      | none => simp [← hsend]; rfl
      | some n => rfl
  set v := (s.timerCancel op.timer).storeAliasMax env h (connackAnswer env op msg)
  -- limit by limit
  apply Limits.ext
  case maxRecvTopicAlias =>
    show v.sessionState.maxRecvTopicAlias = op.aliasMax.getD 0
    rw [hstored]
    exact halias
  case maxSendTopicAlias =>
    show v.sessionState.maxSendTopicAlias = _
    rw [hstored]
    rfl
  case maxRecvPacketSize => exact hf.packetSize
  case maxSendPacketSize =>
    show (connackAnswer env op msg).maxPacketSize =
      (h.maxPacketSize.map (limited env.cfg.maxOutputPacketSize)).getD env.cfg.maxOutputPacketSize
    unfold connackAnswer connackResponse
    dsimp only
    rw [← hh]
    cases h.maxPacketSize <;> rfl
  case highQosRecvLimit =>
    show op.highQosRecvLimit = (lastOf Property.asReceiveMax op.connectMsg.props).getD 65535
    rw [hans.receiveMax]
    rfl
  case highQosSendLimit => exact limited_limited _ _
  case keepAliveMs => exact Nat.mod_eq_of_lt hans.keepAlive
  case sessionExpiryIntervalMs =>
    show mulU32 (h.sessionExpiryInterval.getD op.sessionExpiryInterval) 1000 = _
    rw [hf.expiry]
    exact Nat.mod_eq_of_lt hans.expiry
  case connectSessionExpiryInterval => exact hf.expiry
  case authMethod => exact hf.method
  case problemInfoAllowed =>
    show op.requestProblemInfo = (lastOf Property.asRequestProblemInfo op.connectMsg.props).getD true
    obtain ⟨info, hinfo⟩ := Option.isSome_iff_exists.mp hans.problemInfo
    rw [hf.problemInfo, hinfo]
    rfl
  all_goals rfl

theorem Scope.unconfigured_le : Scope.Le .unconfigured .within := by
  intro act h
  unfold unconfigured at h
  dsimp only at h
  split at h <;> first | exact h | cases h

/-- Updates without configuration stay in their connection. -/
theorem Acts.steady_unconfigured (h : Acts a .unconfigured s t) : Steady s t :=
  Acts.steady (h.mono id Scope.unconfigured_le)

/-- The limits stay where only topic aliases change. -/
theorem Acts.limits (h : Acts a .unconfigured s t) :
    t.sessionState.limits = s.sessionState.limits := by
  rw [h.steady_unconfigured.session]
  unfold SessionState.limits
  dsimp only
  rw [h.aside.aliasMax]

/-- A CONNACK that begins a connection. -/
structure Accepts (connack : ConnackMsg) (st : Machine.Step Sys Label) : Prop where
  message : st.before.inMsg st.label = some (.connack connack)
  off : st.before.client.sessionState.connected = false
  on : st.after.client.sessionState.connected = true

/-- The connection begins with the limits of the CONNECT that was announced. -/
theorem accepted_limits {connack : ConnackMsg} (h : (machine env).Reach (Attempted env) sys)
    (hok : Attempted env sys l) (hstep : sys.step env l = some sys')
    (hacc : Accepts connack ⟨sys, l, sys'⟩) :
    ∃ connect, sys.client.lastConnect = some connect ∧
      sys'.client.sessionState.limits = negotiated env.cfg connect connack := by
  obtain ⟨hin, hoff, hon⟩ := hacc
  have hoff : sys.client.sessionState.connected = false := hoff
  have hon : sys'.client.sessionState.connected = true := hon
  have hreg := reach_registered h
  have hs := reach_inSession h
  have hdec := reach_declared h
  have hcfg : Sys.configures l = false := by
    obtain ⟨rest, rfl, -, -⟩ := inMsg_step hstep hin
    rfl
  have hnot : ∀ {p : Prop}, sys'.client.sessionState.connected = false → p := fun hfalse => by
    rw [hfalse] at hon
    cases hon
  -- only a CONNACK begins a connection
  cases step_conn_unconfigured (reach_wf h) hreg hcfg hstep with
  | keeps hk => exact hnot (hk.steady_unconfigured.connected.trans hoff)
  | ends u reason status info hu hd ht => exact hnot (by rw [hd.session])
  | network hl hhead ht =>
    rw [ht] at hnot
    exact hnot (networkDown_apart (reach_wf h).reg hreg hs.apart (reach_disconnecting h)).2
  | prepare elapsed hl ht =>
    obtain ⟨rest, rfl, -, -⟩ := inMsg_step hstep hin
    cases hl
  | initial hl hhead ht =>
    obtain ⟨rest, -, hhead', -⟩ := inMsg_step hstep hin
    rw [hhead] at hhead'
    cases hhead'
  | connack msg hin' hc =>
    obtain rfl : msg = connack := by
      rw [hin] at hin'
      exact (InMsg.connack.inj (Option.some.inj hin')).symm
    cases hc with
    | keeps hk => exact hnot (hk.steady_unconfigured.connected.trans hoff)
    | refused op u hop hacc hu ht hgone => exact hnot (ht.steady_unconfigured.connected.trans rfl)
    | accepted op u hop hacc hu ht hgone =>
      have hconnack : sys.connack l = some msg := by
        unfold Sys.connack
        rw [hin]
      have hans := hok.2 msg hconnack op hop hacc
      have hsent := hans.sent
      refine ⟨op.connectMsg, hdec.announced op hop hsent, ?_⟩
      rw [ht.limits]
      have hblank := reach_rested h hoff (reach_connecting h hop hsent).disconnecting
      refine connackConnected_limits (hdec.faithful op hop) hans ?_ ?_
      · rw [hu.aside.aliasMax, hdec.settled op hop hsent]
      · rw [hu.steady_unconfigured.session]
        show sys.client.sessionState.maxSendTopicAlias = 0
        rw [hblank]

/-- Handles of connect operations are not valid while the client is connected. -/
theorem configures_of_connected (hs : InSession sys) (hon : sys.client.sessionState.connected = true)
    (hstep : sys.step env l = some sys') : Sys.configures l = false := by
  cases l with
  | run => rfl
  | call api =>
    obtain ⟨-, hlegal, -, -⟩ := step_call hstep
    have hnone : ∀ id, unsentOp (sys.client.connectOp? id) (·.sent) ≠ true := by
      intro id
      unfold Client.connectOp?
      rw [connectOps_of_apart hs.apart hon]
      simp [unsentOp]
    show api.configures = false
    cases api <;> first | rfl | exact absurd hlegal (hnone _)

/-- The limits last as long as the connection. -/
theorem step_limits {ok : Sys → Label → Prop} (h : (machine env).Reach ok sys)
    (hstep : sys.step env l = some sys') (hon : sys.client.sessionState.connected = true)
    (hon' : sys'.client.sessionState.connected = true) :
    sys'.client.sessionState.limits = sys.client.sessionState.limits := by
  have hreg := reach_registered h
  have hs := reach_inSession h
  have hnone := connectOps_of_apart hs.apart hon
  have hnot : ∀ {p : Prop}, sys'.client.sessionState.connected = false → p := fun hfalse => by
    rw [hfalse] at hon'
    cases hon'
  cases step_conn_unconfigured (reach_wf h) hreg (configures_of_connected hs hon hstep) hstep with
  | keeps hk => exact hk.limits
  | ends u reason status info hu hd ht => exact hnot (by rw [hd.session])
  | network hl hhead ht =>
    rw [ht] at hnot
    exact hnot (networkDown_apart (reach_wf h).reg hreg hs.apart (reach_disconnecting h)).2
  | prepare elapsed hl ht =>
    obtain ⟨log, counts, heq⟩ := beginConnectPrepare_client elapsed sys.client
    rw [ht, heq]
  | initial hl hhead ht =>
    have hready := hs.apart.initialized (Or.inl hon)
    rw [hs.fresh (List.mem_of_mem_head? hhead)] at hready
    cases hready
  | connack msg hin hc =>
    cases hc with
    | keeps hk => exact hk.limits
    | refused op u hop =>
      rw [hnone] at hop
      cases hop
    | accepted op u hop =>
      rw [hnone] at hop
      cases hop

/-- Throughout a connection the limits are those its CONNECT and its CONNACK negotiate. -/
theorem limits_negotiated {pre mid : List (Machine.Step Sys Label)} {st : Machine.Step Sys Label}
    {connack : ConnackMsg} (h : (machine env).Run (Attempted env) (pre ++ st :: mid) sys)
    (hacc : Accepts connack st) (hon : ∀ x ∈ mid, x.after.client.sessionState.connected = true) :
    ∃ connect, st.before.client.lastConnect = some connect ∧
      sys.client.sessionState.limits = negotiated env.cfg connect connack := by
  obtain ⟨hpre, hok, hstep⟩ := h.split
  obtain ⟨connect, hconnect, hlimits⟩ := accepted_limits hpre.reach hok hstep hacc
  refine ⟨connect, hconnect, ?_⟩
  suffices hall : (∀ x ∈ mid, x.after.client.sessionState.connected = true) →
      sys.client.sessionState.connected = true ∧
        sys.client.sessionState.limits = negotiated env.cfg connect connack from (hall hon).2
  refine h.after (P := fun mid s => (∀ x ∈ mid, x.after.client.sessionState.connected = true) →
    s.client.sessionState.connected = true ∧
      s.client.sessionState.limits = negotiated env.cfg connect connack) ?_ ?_
  · exact fun _ _ _ _ => ⟨hacc.on, hlimits⟩
  · intro mid y hrun ih _ hstep hon
    obtain ⟨hcon, hbefore⟩ := ih fun x hx => hon x (List.mem_append_left _ hx)
    have hcon' := hon y (List.mem_append_right _ (List.mem_singleton_self y))
    exact ⟨hcon', (step_limits hrun.reach hstep hcon hcon').trans hbefore⟩

/-- A CONNACK that accepts with the defaults. -/
def plainConnack : ConnackMsg := { sessionPresent := false, reasonCode := ReasonCode.success }

/-- An attempt with an alias maximum that is given up, and one without that is accepted. -/
def aliasCalls (maximum : Nat) : List (Api × Nat) :=
  [(.connectPrepare 0, 5), (.connectConfigExtra 0 { topicAliasMaximum := maximum }, 1),
    (.connectCancel 0, 1), (.connectPrepare 0, 2)] ++
  (reconnectCalls 1 true { receiveMaximum := 10, requestProblemInfo := true }).tail ++
  [(packet (.connack plainConnack), 2)]

/-- A run up to the CONNACK of the second attempt. -/
theorem exists_alias_step (ok : Sys → Label → Prop) [∀ sys l, Decidable (ok sys l)] (maximum : Nat)
    (p : Sys → Sys → Bool)
    (h : ((machine .dynamic).exec (fun sys l => decide (ok sys l)) Sys.fresh
      (script (aliasCalls maximum))).any (fun sys => decide (ok sys .run ∧
        sys.inMsg .run = some (.connack plainConnack) ∧ sys.client.sessionState.connected = false ∧
        (sys.step .dynamic .run).any (fun sys' =>
          sys'.client.sessionState.connected && p sys sys') = true)) = true) :
    ∃ (pre : List (Machine.Step Sys Label)) (st : Machine.Step Sys Label) (sys : Sys),
      (machine .dynamic).Run ok (pre ++ [st]) sys ∧ Accepts plainConnack st ∧ p st.before sys = true := by
  obtain ⟨sys, hreach, hok, hin, hoff, hstep⟩ := exists_reach_ok .dynamic ok (aliasCalls maximum)
    (fun sys => ok sys .run ∧ sys.inMsg .run = some (.connack plainConnack) ∧
      sys.client.sessionState.connected = false ∧ (sys.step .dynamic .run).any (fun sys' =>
        sys'.client.sessionState.connected && p sys sys') = true) h
  obtain ⟨sys', hstep, hp⟩ := (Option.any_eq_true _ _).mp hstep
  rw [Bool.and_eq_true] at hp
  obtain ⟨pre, hrun⟩ := hreach.exists_run
  exact ⟨pre, ⟨sys, .run, sys'⟩, sys', .step hrun hok hstep, ⟨hin, hoff, hp.1⟩, hp.2⟩

theorem limits_negotiated_plain :
    ∃ (pre : List (Machine.Step Sys Label)) (st : Machine.Step Sys Label) (sys : Sys),
      (machine .dynamic).Run (Attempted .dynamic) (pre ++ [st]) sys ∧ Accepts plainConnack st ∧
        ∃ connect, st.before.client.lastConnect = some connect ∧
          sys.client.sessionState.limits = negotiated Env.dynamic.cfg connect plainConnack := by
  obtain ⟨pre, st, sys, hrun, hacc, -⟩ :=
    exists_alias_step (Attempted .dynamic) 0 (fun _ _ => true) (by decide +kernel)
  exact ⟨pre, st, sys, hrun, hacc, limits_negotiated hrun hacc fun x hx => nomatch hx⟩

/-- The alias maximum of the attempt that was given up is in force for the connection of the other. -/
theorem limits_left_over :
    ∃ (pre : List (Machine.Step Sys Label)) (st : Machine.Step Sys Label) (sys : Sys),
      (machine .dynamic).Run (fun _ _ => True) (pre ++ [st]) sys ∧ Accepts plainConnack st ∧
        sys.client.sessionState.maxRecvTopicAlias = 10 ∧
        ¬∃ connect, st.before.client.lastConnect = some connect ∧
          sys.client.sessionState.limits = negotiated Env.dynamic.cfg connect plainConnack := by
  obtain ⟨pre, st, sys, hrun, hacc, hp⟩ := exists_alias_step (fun _ _ => True) 10
    (fun sys sys' => decide (sys'.client.sessionState.maxRecvTopicAlias = 10 ∧
      sys.client.lastConnect.all fun connect =>
        lastOf Property.asTopicAliasMax connect.props == none)) (by decide +kernel)
  obtain ⟨hmax, hnone⟩ := of_decide_eq_true hp
  refine ⟨pre, st, sys, hrun, hacc, hmax, ?_⟩
  rintro ⟨connect, hconnect, hlimits⟩
  rw [hconnect] at hnone
  have hnone : lastOf Property.asTopicAliasMax connect.props = none := by simpa using hnone
  have hzero : sys.client.sessionState.maxRecvTopicAlias =
      (lastOf Property.asTopicAliasMax connect.props).getD 0 := congrArg Limits.maxRecvTopicAlias hlimits
  rw [hmax, hnone] at hzero
  cases hzero

end Mqtt5
