import Mqtt5Client.Authentication
import Mqtt5Client.Link

/-!
# Mqtt5Client — the phases of a client

`m_initialized`, `m_connected` and `m_disconnecting` together are a state machine with four states
(`Phase`). Every step of the library stays in its phase or takes one of the edges of `PhaseStep`
(`phase_moves`), and in every phase the operations that may exist, and the session, are known
(`phase_kept`): in particular a connected client has exactly one keep alive operation.
-/

namespace Mqtt5

open Client

variable {env : Env} {a : Bool} {b : Scope} {act : Act} {s t u : Client} {sys sys' : Sys} {l : Label}
  {ref : OpRef} {type : OpType}

/-! ## The phases -/

/-- `idle` is a client that was never initialised, `ended` one whose connection, or attempt to connect,
has ended. -/
inductive Phase where
  | idle
  | ready
  | connected
  | ended
  deriving DecidableEq, Repr

def Client.phase (s : Client) : Phase :=
  if s.sessionState.connected then .connected
  else if s.sessionState.disconnecting then .ended
  else if s.clientState.initialized then .ready
  else .idle

/-- The edges, each with the piece of the library that takes it. -/
inductive PhaseStep (sys : Sys) (l : Label) : Phase → Phase → Prop
  | stay (p : Phase) : PhaseStep sys l p p
  | initialise (p : Phase) (hp : p = .idle ∨ p = .ended) (hl : l = .run)
      (hhead : sys.pending.head? = some .initInternal) : PhaseStep sys l p .ready
  | accept (msg : ConnackMsg) (hin : sys.inMsg l = some (.connack msg))
      (hok : msg.reasonCode = ReasonCode.success) : PhaseStep sys l .ready .connected
  | disconnect (p : Phase) : PhaseStep sys l p .ended

theorem phase_of_on (h : s.sessionState.connected = true) : s.phase = .connected := if_pos h

/-- A session that is being ended. -/
theorem phase_of_disconnecting (hoff : s.sessionState.connected = false)
    (h : s.sessionState.disconnecting = true) : s.phase = .ended := by
  unfold Client.phase
  rw [hoff, h]
  rfl

/-- The phase is read off three flags. -/
theorem phase_congr (hc : t.sessionState.connected = s.sessionState.connected)
    (hd : t.sessionState.disconnecting = s.sessionState.disconnecting)
    (hi : t.clientState.initialized = s.clientState.initialized) : t.phase = s.phase := by
  unfold Client.phase
  rw [hc, hd, hi]

/-- Within a connection it stays. -/
theorem Steady.phase (h : Steady s t) : t.phase = s.phase :=
  phase_congr h.connected h.disconnecting h.initialized

/-- A client that was initialised and is not connected is ready. -/
theorem phase_of_initialized (hoff : s.sessionState.connected = false)
    (hdis : s.sessionState.disconnecting = false) (h : s.clientState.initialized = true) :
    s.phase = .ready := by
  unfold Client.phase
  rw [hoff, hdis, h]
  rfl

/-- A connect operation needs an initialised client. -/
theorem Apart.initialized_of_mem (h : Apart s) {op : ConnectOp} (hop : op ∈ s.connectOps) :
    s.clientState.initialized = true := by
  refine h.initialized (Or.inr fun hzero => ?_)
  rw [List.length_eq_zero_iff.mp hzero] at hop
  cases hop

/-- A client with a connect operation is about to connect. -/
theorem Apart.ready (h : Apart s) (hfresh : FreshSession s) {op : ConnectOp} (hop : op ∈ s.connectOps) :
    s.phase = .ready :=
  phase_of_initialized (h.off_of_mem hop) (hfresh (h.initialized_of_mem hop)) (h.initialized_of_mem hop)

/-- Every step of the library stays in its phase or takes an edge. -/
theorem phase_moves (h : (machine env).Reach (fun _ _ => True) sys)
    (hstep : sys.step env l = some sys') : PhaseStep sys l sys.client.phase sys'.client.phase := by
  have hin := reach_inSession h
  have hfresh := reach_freshSession h
  have hstay : ∀ {t : Client}, t.phase = sys.client.phase →
      PhaseStep sys l sys.client.phase t.phase := fun heq => by
    rw [heq]
    exact .stay _
  cases step_conn (reach_wf h) (reach_registered h) hstep with
  | keeps hk => exact hstay hk.steady.phase
  | ends u reason status info hu hd ht =>
    rw [phase_of_disconnecting (s := sys'.client) (by rw [hd.session]) (by rw [hd.session])]
    exact .disconnect _
  | connack msg hmsg hc =>
    cases hc with
    | keeps hk => exact hstay hk.steady.phase
    | refused op u hop hacc hu ht hgone =>
      -- the session is reset, and the client may try again
      refine hstay (ht.steady.phase.trans ?_)
      rw [hin.apart.ready hfresh hop]
      exact phase_of_initialized rfl rfl
        (hu.steady.initialized.trans (hin.apart.initialized_of_mem hop))
    | accepted op u hop hacc hu ht hgone =>
      rw [hin.apart.ready hfresh hop, phase_of_on (s := sys'.client) ?_]
      · refine .accept msg hmsg ?_
        unfold connackAccepted at hacc
        rw [Bool.and_eq_true, beq_iff_eq] at hacc
        exact hacc.2
      · rw [ht.steady.connected]
        rfl
  | network hl hhead ht =>
    rw [ht]
    rcases networkDown_cases env (reach_wf h).reg (reach_registered h) with ⟨hd, heq⟩ | hd
    · rw [heq]
      exact hstay (phase_congr rfl rfl rfl)
    · rw [phase_of_disconnecting (s := sys.client.networkDown env) (by rw [hd.session])
        (by rw [hd.session])]
      exact .disconnect _
  | prepare elapsed hl ht =>
    obtain ⟨log, counts, heq⟩ := beginConnectPrepare_client elapsed sys.client
    rw [ht, heq]
    exact hstay (phase_congr rfl rfl rfl)
  | initial hl hhead ht =>
    have hnot := hin.fresh (List.mem_of_mem_head? hhead)
    have hoff : sys.client.sessionState.connected = false := by
      by_contra hon
      rw [hin.apart.initialized (Or.inl (by simpa using hon))] at hnot
      cases hnot
    rw [ht]
    unfold initInternal
    split
    · exact hstay (phase_congr rfl rfl rfl)
    · split
      · exact hstay (phase_congr rfl rfl rfl)
      · refine .initialise _ ?_ hl hhead
        unfold Client.phase
        rw [hoff, hnot]
        cases sys.client.sessionState.disconnecting <;> simp

/-- A CONNACK takes the edge to the connected phase. -/
theorem phase_moves_accept : ∃ sys sys', (machine .dynamic).Reach (fun _ _ => True) sys ∧
    sys.step .dynamic .run = some sys' ∧ sys'.client.phase = .connected ∧
      PhaseStep sys .run sys.client.phase sys'.client.phase := by
  obtain ⟨sys, hreach, hp⟩ := exists_reach_fresh .dynamic
    (reconnectCalls 0 true {} ++ [(packet (.connack
      { sessionPresent := false, reasonCode := ReasonCode.success }), 2)])
    (fun sys => (sys.step .dynamic .run).any (fun sys' => sys'.client.phase = .connected) = true)
    (by decide +kernel)
  obtain ⟨sys', hstep, hphase⟩ := (Option.any_eq_true _ _).mp hp
  exact ⟨sys, sys', hreach, hstep, by simpa using hphase, phase_moves hreach hstep⟩

/-! ## The keep alive operation -/

/-- A completion takes an operation of its own type. -/
theorem ids_completeRef (h : ref.type ≠ type) (s : Client) : (s.completeRef ref).ids type = s.ids type := by
  have hids : ∀ u : Client, u.ids type = s.ids type → (eraseRef ref u).ids type = s.ids type := by
    intro u hu
    by_cases hsend : ref.type = .send
    · unfold eraseRef
      rw [hsend]
      exact hu
    · rw [eraseRef_ids hsend, if_neg h, hu]
  rcases completeRef_cases ref s with heq | heq | ⟨-, heq⟩
  · rw [heq]
  · rw [heq]
    cases type <;> rfl
  · rw [heq]
    exact hids _ (by cases type <;> rfl)

/-- Only its completion removes the keep alive operation. -/
theorem Prim.keepAliveIds (h : Prim act s t) (hact : ∀ id, act ≠ .complete ⟨.keepAlive, id⟩)
    (hne : s.keepAliveOps ≠ []) : t.ids .keepAlive = s.ids .keepAlive := by
  have halloc : ∀ env : Env, (s.allocPacketId env).1.keepAliveOps = s.keepAliveOps := fun env => by
    rw [allocPacketId_same]
  have hmap : ∀ {ops : List KeepAliveOp}, ops = s.keepAliveOps → ops.map (·.id) = s.ids .keepAlive :=
    fun heq => by rw [heq]; rfl
  cases hplain : act.plain with
  | true => exact (h.sameOps hplain).ids .keepAlive
  | false =>
    cases h with
    | createKeepAlive env hnil => exact absurd hnil hne
    | createSend env => exact hmap (SameOps.timerAlloc env s (s.timerAlloc env).2.isSome).keepAliveOps
    | createRecv env => exact hmap (SameOps.timerAlloc env s (s.timerAlloc env).2.isSome).keepAliveOps
    | takeSubscribe env op hop => exact hmap (halloc env)
    | takeUnsubscribe env op hop => exact hmap (halloc env)
    | takeSend env op x hop hx => exact hmap (halloc env)
    | complete ref =>
      refine ids_completeRef (fun htype => ?_) s
      obtain ⟨type, id⟩ := ref
      obtain rfl := htype
      exact hact id rfl
    | completeSend op hop href =>
      unfold Client.destroySendOp Client.eraseSendOp
      rw [timerFree_eq, releasePacketId_eq]
      rfl
    | clean =>
      unfold Client.cleanOps
      split <;> rfl
    | _ => first | (cases hplain; done) | rfl

/-- The keep alive operation is only completed at the end of the connection. -/
theorem Acts.keepAlive (hb : ∀ id, b.admits (.complete ⟨.keepAlive, id⟩) = false) (h : Acts a b s t)
    (hs : s.keepAliveOps ≠ []) : t.keepAliveOps ≠ [] := by
  refine h.invariant (P := fun u => u.keepAliveOps ≠ []) (fun hp hact hu hnil => ?_) hs
  rename_i act u v
  have hids := hp.keepAliveIds (fun id heq => ?_) hu
  · unfold Client.ids at hids
    rw [hnil] at hids
    exact hu (List.map_eq_nil_iff.mp hids.symm)
  · rw [heq] at hact
    have hnot := (Act.allowed_iff.mp hact).2 rfl
    rw [hb id] at hnot
    cases hnot

/-- The pool of the keep alive operation has room for one. -/
theorem createKeepAlive_ne (env : Env) (s : Client) :
    (s.createKeepAliveOpIfNeeded env).keepAliveOps ≠ [] := by
  unfold createKeepAliveOpIfNeeded
  split
  · rename_i hne
    simpa using hne
  · rename_i hnil
    have hroom : isFull env.cfg.singleOpLimit s.keepAliveOps.length = false := by
      have hzero : s.keepAliveOps = [] := by simpa using hnil
      rw [hzero]
      unfold isFull Config.singleOpLimit
      split <;> rfl
    rw [if_neg (by rw [hroom]; simp)]
    simp

/-- An accepted CONNACK leaves a keep alive operation. -/
theorem connectHandleConnack_keepAlive {op : ConnectOp} {msg : ConnackMsg}
    (h : connackAccepted env op msg = true) : (s.connectHandleConnack env op msg).keepAliveOps ≠ [] := by
  rw [connectHandleConnack_accepted h]
  unfold connackDone connectComplete
  dsimp only
  have hcomplete : ∀ u : Client, u.keepAliveOps ≠ [] → (u.opCompleteConnect op.id).keepAliveOps ≠ [] := by
    intro u hu hnil
    have hne : (⟨.connect, op.id⟩ : OpRef).type ≠ .keepAlive := by simp
    have hids : (u.opCompleteConnect op.id).ids .keepAlive = u.ids .keepAlive := ids_completeRef hne u
    have hzero : (u.opCompleteConnect op.id).ids .keepAlive = [] := List.map_eq_nil_iff.mpr hnil
    exact hu (List.map_eq_nil_iff.mp (hids.symm.trans hzero))
  split
  · exact hcomplete _ (createKeepAlive_ne env _)
  · exact hcomplete _ (createKeepAlive_ne env _)

/-- A connected client has one. -/
def Supervised (s : Client) : Prop := s.sessionState.connected = true → s.keepAliveOps ≠ []

/-- A connected client has one. -/
theorem Acts.supervised (h : Acts a .within s t) (hs : Supervised s) : Supervised t := fun hon =>
  h.keepAlive (fun _ => rfl) (hs ((Acts.steady h).connected ▸ hon))

/-- An accepted CONNACK creates it. -/
theorem handleConnack_supervised (hr : Reg s) (hl : LockReg s) (hs : Supervised s) (msg : ConnackMsg) :
    Supervised (s.handle env (.connack msg)) := by
  have hwithin : ∀ {u v : Client}, Frame true .bare u v → Acts true .within u v :=
    fun h => h.acts.mono (by simp) (Scope.bare_le _)
  cases handleConnack_dispatched env hr hl msg with
  | before h heq => exact (hwithin h).supervised hs
  | handled u op hop hpre heq hcon hpost hgone =>
    have hmem : op ∈ u.connectOps := by rw [heq]; exact hop
    cases hacc : connackAccepted env op msg with
    | true => exact fun _ => (hwithin hpost).keepAlive (fun _ => rfl) (connectHandleConnack_keepAlive hacc)
    | false =>
      rcases connectHandleConnack_unaccepted (b := .within) hmem hacc with h | ⟨v, hv, hreset⟩
      · exact Acts.supervised ((hwithin hpre).trans (h.trans (hwithin hpost))) hs
      · exact Acts.supervised (hreset.trans (hwithin hpost)) fun hon => by cases hon

/-- Every step keeps it as long as the connection lasts. -/
theorem step_supervised (hw : SysWf sys) (hreg : Registered sys.client)
    (hstep : sys.step env l = some sys') (hs : Supervised sys.client) : Supervised sys'.client := by
  have hoff : ∀ {t : Client}, t.sessionState.connected = false → Supervised t := fun h hon => by
    rw [h] at hon
    cases hon
  cases step_conn hw hreg hstep with
  | keeps hk => exact hk.supervised hs
  | ends u reason status info hu hd ht => exact hoff (by rw [hd.session])
  | connack msg hin hc =>
    obtain ⟨rest, -, -, hclient⟩ := inMsg_step hstep hin
    rw [hclient]
    exact handleConnack_supervised hw.reg hw.lock hs msg
  | network hl hhead ht =>
    rw [ht]
    rcases networkDown_cases env hw.reg hreg with ⟨hd, heq⟩ | hd
    · rw [heq]
      exact hs
    · exact hoff (by rw [hd.session])
  | prepare elapsed hl ht =>
    obtain ⟨log, counts, heq⟩ := beginConnectPrepare_client elapsed sys.client
    rw [ht, heq]
    exact hs
  | initial hl hhead ht =>
    rw [ht]
    unfold initInternal
    split
    · exact hs
    · split
      · exact hs
      · exact hoff rfl

theorem reach_supervised {ok : Sys → Label → Prop} (h : (machine env).Reach ok sys) :
    Supervised sys.client := by
  have hinit : ∀ sys, (machine env).init sys → Supervised sys.client := by
    rintro _ ⟨cbs, config, rfl⟩ hon
    cases hon
  exact h.invariant hinit fun sys l sys' hs hinv _ hstep =>
    step_supervised (reach_wf hs) (reach_registered hs) hstep hinv

/-! ## What a phase says about the client -/

/-- The operations that need a connection, and the connect operation. -/
structure OffLine (s : Client) : Prop where
  keepAlive : s.keepAliveOps = []
  disconnect : s.disconnectOps = []
  subscribe : s.subscribeOps = []
  unsubscribe : s.unsubscribeOps = []
  reauth : s.reauthOps = []

/-- The state of the client in each phase. -/
def PhaseOk (s : Client) : Phase → Prop
  | .idle => OffLine s ∧ s.connectOps = [] ∧ Blank s
  | .ready => OffLine s ∧ s.connectOps.length ≤ 1 ∧ Blank s
  | .connected => s.connectOps = [] ∧ s.keepAliveOps.length = 1 ∧ s.clientState.initialized = true ∧
      s.sessionState.disconnecting = false ∧ s.clientState.networkDisconnected = false
  | .ended => OffLine s ∧ s.connectOps = [] ∧ s.clientState.initialized = false

/-- Without a connection there is no operation that needs one. -/
theorem Apart.offLine (h : Apart s) (hoff : s.sessionState.connected = false) : OffLine s where
  keepAlive := List.length_eq_zero_iff.mp (h.offline hoff .keepAlive rfl)
  disconnect := List.length_eq_zero_iff.mp (h.offline hoff .disconnect rfl)
  subscribe := List.length_eq_zero_iff.mp (h.offline hoff .subscribe rfl)
  unsubscribe := List.length_eq_zero_iff.mp (h.offline hoff .unsubscribe rfl)
  reauth := List.length_eq_zero_iff.mp (h.offline hoff .reauth rfl)

/-- The operations that may exist once do so in every reachable state. -/
theorem reach_single {ok : Sys → Label → Prop} (h : (machine env).Reach ok sys) : Single sys.client := by
  have hinit : ∀ sys, (machine env).init sys → Single sys.client := by
    rintro _ ⟨cbs, config, rfl⟩ type _
    cases type <;> exact Nat.zero_le 1
  exact h.invariant hinit fun sys l sys' hs hinv _ hstep =>
    Acts.invariant (P := Single) (fun hp _ hu => hp.single hu)
      (step_acts (a := false) (b := .begins) (reach_wf hs) hstep (by simp) (.begins _)) hinv

/-- Every reachable client is as its phase says. -/
theorem phase_kept (h : (machine env).Reach (fun _ _ => True) sys) :
    PhaseOk sys.client sys.client.phase := by
  have hin := reach_inSession h
  have hfresh := reach_freshSession h
  have hregistry := reach_single h
  have hnone : sys.client.clientState.initialized = false → sys.client.connectOps = [] := by
    intro hnot
    by_contra hne
    obtain ⟨op, hop⟩ := List.exists_mem_of_ne_nil _ hne
    rw [hin.apart.initialized_of_mem hop] at hnot
    cases hnot
  unfold Client.phase
  split
  · rename_i hon
    have hinit := hin.apart.initialized (Or.inl hon)
    refine ⟨List.length_eq_zero_iff.mp (hin.apart.online hon), ?_, hinit, hfresh hinit, ?_⟩
    · have hpos := List.length_pos_iff.mpr (reach_supervised h hon)
      have hle : sys.client.keepAliveOps.length ≤ 1 := hregistry .keepAlive rfl
      omega
    · by_contra hdown
      rw [hin.network (by simpa using hdown)] at hon
      cases hon
  · rename_i hoff
    have hoff : sys.client.sessionState.connected = false := by simpa using hoff
    have hline := hin.apart.offLine hoff
    split
    · rename_i hdis
      have hnot : sys.client.clientState.initialized = false := by
        by_contra hinit
        rw [hfresh (by simpa using hinit)] at hdis
        cases hdis
      exact ⟨hline, hnone hnot, hnot⟩
    · rename_i hdis
      have hblank := reach_rested h hoff (by simpa using hdis)
      split
      · exact ⟨hline, hregistry .connect rfl, hblank⟩
      · rename_i hinit
        exact ⟨hline, hnone (by simpa using hinit), hblank⟩

/-- A connection with a publish in flight and a prepared SUBSCRIBE. -/
theorem phase_kept_connected : ∃ sys, (machine .dynamic).Reach (fun _ _ => True) sys ∧
    sys.client.phase = .connected ∧ sys.client.subscribeOps.length = 1 ∧
      PhaseOk sys.client sys.client.phase := by
  obtain ⟨sys, hreach, hphase, hsub⟩ := exists_reach_fresh .dynamic
    (connectCalls true {} { sessionPresent := false, reasonCode := ReasonCode.success } ++
      publishCalls 2 .atLeastOnceDelivery 4 ++ [(.subscribePrepare, 1)])
    (fun sys => sys.client.phase = .connected ∧ sys.client.subscribeOps.length = 1) (by decide +kernel)
  exact ⟨sys, hreach, hphase, hsub, phase_kept hreach⟩

end Mqtt5
