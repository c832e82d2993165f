import Mqtt5Client.OpRegistry
import Mqtt5Client.Traffic
import Mqtt5Client.Walk

/-!
# Mqtt5Client — the link to the broker

The packets and the changes of the connection in the order of the log, against a monitor that says what
a link is (`link`): CONNECT asks for a connection that is not there yet, the requests of operations and the
pings need one, a connection begins when there is none and ends when there is one, and as long as it is
there the application is not told that it is gone. The log of every run is read by it to the end
(`link_respected`). A report need not be about a connection: an attempt to connect may end with one too.

An update that hands over a packet knows the operation it belongs to (`OutMsg.Grounded`), and which
operations exist while the client is connected is known too (`Apart`); together they give the rules for
packets. Only the resumption of a stored session needs a look at the functions, because the connect
operation is still there while the client is connected already: it hands over no CONNECT
(`Walk.noConnect`).
-/

namespace Mqtt5

open Client

variable {env : Env} {a : Bool} {b : Scope} {act : Act} {s t u : Client} {sys sys' : Sys} {l : Label}
  {x y z : Link}

/-! ## The monitor -/

/-- No connection, or one that has begun and has not ended. -/
inductive Link where
  | down
  | up
  deriving DecidableEq, Repr

def Link.isUp : Link → Bool
  | .up => true
  | .down => false

/-- Whether a packet may be handed over with or without a connection. -/
def OutMsg.permitted (up : Bool) : OutMsg → Bool
  | .connect _ => !up
  | .subscribe _ | .unsubscribe _ | .pingreq => up
  | _ => true

def Link.next (x : Link) : Event → Option Link
  | .output msg _ => if msg.permitted x.isUp then some x else none
  | .connectivity true => if x.isUp then none else some .up
  | .connectivity false => if x.isUp then some .down else none
  | .brokerDisconnectReport .. => if x.isUp then none else some x
  | _ => some x

/-- The link as a monitor of the log. -/
def link : Monitor Event Link := ⟨Link.next⟩

/-- What is no traffic does not matter. -/
theorem link_next_same (x : Link) (e : Event) (he : e.isTraffic = false) : link.next x e = some x := by
  cases e <;> first | rfl | cases he

/-- Packets leave the link as it is. -/
theorem link_outputs {out : List Event} {x : Link}
    (hall : ∀ e ∈ out, ∃ msg source, e = .output msg source ∧ msg.permitted x.isUp = true) :
    link.run x out = some x := by
  induction out with
  | nil => rfl
  | cons e out ih =>
    obtain ⟨msg, source, rfl, hmsg⟩ := hall e List.mem_cons_self
    have hnext : link.next x (.output msg source) = some x := if_pos hmsg
    rw [Monitor.run_cons, hnext]
    exact ih fun e he => hall e (List.mem_cons_of_mem _ he)

/-! ## Packets and the operations behind them -/

/-- A connect operation exists only while there is no connection. -/
theorem Apart.off_of_mem (h : Apart s) {op : ConnectOp} (hop : op ∈ s.connectOps) :
    s.sessionState.connected = false := by
  cases hcon : s.sessionState.connected with
  | false => rfl
  | true =>
    rw [List.length_eq_zero_iff.mp (h.online hcon)] at hop
    cases hop

/-- An operation that needs a connection has one. -/
theorem Apart.on_of_ne {α : Type} (h : Apart s) (type : OpType) (htype : type.isOnline = true)
    {ops : List α} (hcount : s.opCount type = ops.length) (hne : ops ≠ []) :
    s.sessionState.connected = true := by
  by_contra hoff
  have hzero := h.offline (by simpa using hoff) type htype
  rw [hcount] at hzero
  exact hne (List.length_eq_zero_iff.mp hzero)

/-- The operation behind a packet says that the link is in the right state for it. -/
theorem Apart.permits (h : Apart s) {msg : OutMsg} (hg : msg.Grounded s) :
    msg.permitted s.sessionState.connected = true := by
  cases msg with
  | connect msg =>
    obtain ⟨op, hop, -⟩ := hg
    show (!s.sessionState.connected) = true
    rw [h.off_of_mem hop]
    rfl
  | subscribe msg => exact h.on_of_ne .subscribe rfl rfl hg
  | unsubscribe msg => exact h.on_of_ne .unsubscribe rfl rfl hg
  | pingreq => exact h.on_of_ne .keepAlive rfl rfl hg
  | _ => rfl

/-- What updates within a connection hand over are packets, each with the operation it belongs to. -/
theorem Acts.outputs {P : OutMsg → Prop} {I : Client → Prop}
    (hI : ∀ {act u v}, Prim act u v → act.allowed a .within = true → I u → I v)
    (hP : ∀ u msg, I u → msg.Grounded u → P msg)
    (h : Acts a .within s t) (hs : I s) :
    ∃ out, Logs out s t ∧ ∀ e ∈ out, ∃ msg source, e = .output msg source ∧ P msg := by
  refine h.logs_all (P := fun e => ∃ msg source, e = .output msg source ∧ P msg) hI ?_ hs
  intro u e hu hg hact htraffic
  cases e with
  | output msg source => exact ⟨msg, source, rfl, hP u msg hu hg⟩
  | brokerDisconnectReport reason info =>
    have hnot := (Act.allowed_iff.mp hact).2 rfl
    cases hnot
  | connectivity up =>
    have hnot := (Act.allowed_iff.mp hact).2 rfl
    cases hnot
  | _ => cases htraffic

/-- Within a connection, and between two, the link stays as it is. -/
theorem Acts.reads_link (h : Acts a .within s t) (hs : Apart s) {x : Link}
    (hx : x.isUp = s.sessionState.connected) :
    ∃ y, Reads link x s t y ∧ y.isUp = t.sessionState.connected := by
  obtain ⟨out, hout, hall⟩ := Acts.outputs (P := fun msg => msg.permitted x.isUp = true)
    (I := fun u => Apart u ∧ u.sessionState.connected = x.isUp)
    (fun hp hact hu => ⟨hp.apart (Act.isSteady_of_allowed hact) hu.1,
      (hp.steady (Act.isSteady_of_allowed hact)).connected.trans hu.2⟩)
    (fun u msg hu hg => hu.2 ▸ hu.1.permits hg) h ⟨hs, hx.symm⟩
  exact ⟨x, ⟨out, hout, link_outputs hall⟩, by rw [hx, h.steady.connected]⟩

/-! ## CONNACK -/

/-- The log has grown without a CONNECT. -/
def NoConnect (s t : Client) : Prop :=
  ∃ es, t.log = s.log ++ es ∧ ∀ e ∈ es, ∀ msg source, e ≠ .output (.connect msg) source

/-- Two parts without a CONNECT. -/
theorem NoConnect.trans (h : NoConnect s t) (h' : NoConnect t u) : NoConnect s u := by
  obtain ⟨es, hlog, hes⟩ := h
  obtain ⟨fs, hlog', hfs⟩ := h'
  refine ⟨es ++ fs, by rw [hlog', hlog, List.append_assoc], fun e he => ?_⟩
  rcases List.mem_append.mp he with he | he
  · exact hes e he
  · exact hfs e he

theorem NoConnect.of_log (h : t.log = s.log) : NoConnect s t :=
  ⟨[], by rw [h, List.append_nil], by simp⟩

/-- Another event. -/
theorem NoConnect.emit (h : NoConnect s t) {e : Event}
    (he : ∀ msg source, e ≠ .output (.connect msg) source) : NoConnect s (t.emit e) := by
  refine h.trans ⟨[e], rfl, fun e' he' msg source heq => ?_⟩
  rw [List.mem_singleton.mp he'] at heq
  exact he msg source heq

/-- What the functions on publishes add to the log is about publishes. -/
theorem Walk.noConnect (h : Walk s t) : NoConnect s t := by
  have hlog : ∀ {t u : Client}, NoConnect s t → u.log = t.log → NoConnect s u := fun h heq =>
    h.trans (.of_log heq)
  induction h with
  | refl => exact .of_log rfl
  | errorLog _ msg ih => exact ih.emit fun _ _ => nofun
  | report _ id status response ih => exact ih.emit fun _ _ => nofun
  | fault _ f ih | modifySendOp _ id f ih | timerWait _ timer ms cb ih | timerCancel _ timer ih
      | timerSetSuspended _ timer down ih | inFlight _ n ih => exact hlog ih rfl
  | sendMessage _ env hmsg source ih =>
    unfold Client.sendMessage
    dsimp only
    split
    · exact ih.emit fun _ _ => nofun
    · split
      · exact ih.emit fun _ _ => nofun
      · rw [keepAliveMessageSent_eq]
        refine hlog (ih.emit fun msg source heq => ?_) rfl
        rw [(Event.output.inj heq).1] at hmsg
        cases hmsg
  | unregister _ id hu ih =>
    unfold unregisterOp at hu
    split at hu
    · cases hu
      exact hlog ih rfl
    · cases hu
  | @erase t _ op ih =>
    unfold eraseSendOp
    rw [timerFree_eq, releasePacketId_eq]
    exact hlog ((hlog (u := { t with sendOps := t.sendOps.eraseP (·.id == op.id) }) ih rfl).emit
      (e := .sendOpErased op.id) fun _ _ => nofun) rfl
  | recv _ id ih => exact hlog ih (log_completeRef ⟨.recv, id⟩ _)

/-- A frame hands over nothing that publishes read, CONNECT included. -/
theorem Client.Frame.noConnect (h : Frame a b s t) : NoConnect s t := by
  obtain ⟨-, es, hlog, -⟩ := h.acts.logs
  refine ⟨es, hlog, fun e he msg source heq => ?_⟩
  have hview : t.log.filter Event.isPub = s.log.filter Event.isPub := congrArg PubView.log h.view
  rw [hlog, List.filter_append] at hview
  have hnot := List.filter_eq_nil_iff.mp (List.append_right_eq_self.mp hview) e he
  rw [heq] at hnot
  exact hnot rfl

/-- An accepted CONNACK is marked in the log as the begin of a connection. -/
theorem connackConnected_log (env : Env) (op : ConnectOp) (msg : ConnackMsg) (s : Client) :
    (s.connackConnected env op msg).log = s.log ++ [.connectivity true] := by
  unfold connackConnected storeAliasMax
  dsimp only
  split <;> rfl

/-- The keep alive operation is created and the connect operation completed. -/
theorem connackDone_noConnect (env : Env) (op : ConnectOp) (msg : ConnackMsg) (s : Client) :
    NoConnect s (s.connackDone env op msg) := by
  have hcreate : ∀ u : Client, (u.createKeepAliveOpIfNeeded env).log = u.log := by
    intro u
    by_cases hnil : u.keepAliveOps = []
    · rcases createKeepAliveOpIfNeeded_cases env hnil with heq | ⟨c, m, op, -, heq⟩
      · rw [heq]
        rfl
      · rw [heq]
        exact log_assert u .timer c
    · unfold createKeepAliveOpIfNeeded
      rw [if_pos (by simpa using hnil)]
  have hcomplete : ∀ u : Client, NoConnect u (u.opCompleteConnect op.id) := fun u =>
    .of_log (log_completeRef ⟨.connect, op.id⟩ u)
  have hkeep : NoConnect s (s.clearSendAliases.createKeepAliveOpIfNeeded env) :=
    .of_log ((hcreate _).trans rfl)
  unfold connackDone connectComplete
  dsimp only
  split
  · refine (hkeep.trans (hcomplete _)).trans ⟨[_], rfl, fun e he msg source heq => ?_⟩
    rw [List.mem_singleton.mp he] at heq
    cases heq
  · exact hkeep.trans (hcomplete _)

/-- No CONNECT is handed over once a CONNACK is accepted. -/
theorem connectHandleConnack_noConnect {op : ConnectOp} {msg : ConnackMsg}
    (h : connackAccepted env op msg = true) :
    NoConnect (s.connackConnected env op msg) (s.connectHandleConnack env op msg) := by
  rw [connectHandleConnack_accepted h]
  refine NoConnect.trans ?_ (connackDone_noConnect env op msg _)
  split
  · exact (Walk.resumeSession env _).noConnect
  · exact (Walk.abortStoredSession env _).noConnect

/-- A CONNACK begins a connection where there is none, or it leaves the link as it is. -/
theorem handleConnack_reads (hr : Reg s) (hl : LockReg s) (hs : Apart s) (msg : ConnackMsg) {x : Link}
    (hx : x.isUp = s.sessionState.connected) :
    ∃ y, Reads link x s (s.handle env (.connack msg)) y ∧
      y.isUp = (s.handle env (.connack msg)).sessionState.connected := by
  have hwithin : ∀ {u v : Client}, Frame true .bare u v → Acts true .within u v :=
    fun h => h.acts.mono (by simp) (Scope.bare_le _)
  cases handleConnack_dispatched env hr hl msg with
  | before h heq => exact (hwithin h).reads_link hs hx
  | handled u op hop hpre heq hcon hpost hgone =>
    have hapart : Apart u := (hwithin hpre).apart hs
    have hmem : op ∈ u.connectOps := by rw [heq]; exact hop
    have hoff : u.sessionState.connected = false := hapart.off_of_mem hmem
    obtain ⟨y, hy, hyup⟩ := (hwithin hpre).reads_link hs hx
    cases hacc : connackAccepted env op msg with
    | false =>
      rcases connectHandleConnack_unaccepted (b := .within) hmem hacc with h | ⟨v, hv, hreset⟩
      · obtain ⟨z, hz, hzup⟩ := Acts.reads_link (h.trans (hwithin hpost)) hapart hyup
        exact ⟨z, hy.trans hz, hzup⟩
      · -- the session is reset, and the connection is not there as before
        obtain ⟨z, hz, hzup⟩ := hv.reads_link hapart hyup
        have hvoff : v.sessionState.connected = false := hv.steady.connected.trans hoff
        have hblank : Apart { v with sessionState := {} } :=
          (hv.apart hapart).reset hvoff (fun type => by cases type <;> exact Nat.le_refl _) rfl
            fun hne => (hv.apart hapart).initialized (Or.inr hne)
        obtain ⟨w, hw, hwup⟩ :=
          Acts.reads_link (hreset.trans (hwithin hpost)) hblank (hzup.trans hvoff)
        have hsame : Reads link z v { v with sessionState := {} } z := .of_log rfl
        exact ⟨w, (hy.trans hz).trans (hsame.trans hw), hwup⟩
    | true =>
      have hup : (u.connackConnected env op msg).sessionState.connected = true := rfl
      have hacts := (connectHandleConnack_within (b := .within) (hpre.reg hr) hmem hacc).trans
        (hwithin hpost)
      -- the connection begins, and what follows is no CONNECT
      have hbegin : Reads link y u (u.connackConnected env op msg) .up := by
        refine ⟨[.connectivity true], ⟨_, connackConnected_log env op msg u, rfl⟩, ?_⟩
        have hy' : y.isUp = false := hyup.trans hoff
        show link.run y [.connectivity true] = some .up
        rw [Monitor.run_singleton]
        show (if y.isUp then none else some Link.up) = some .up
        rw [hy', if_neg (by simp)]
      obtain ⟨es, hlog, hnot⟩ := (connectHandleConnack_noConnect (s := u) hacc).trans hpost.noConnect
      obtain ⟨out, ⟨fs, hlog', hfs⟩, hall⟩ := Acts.outputs (P := fun _ => True) (I := fun _ => True)
        (fun _ _ _ => trivial) (fun _ _ _ _ => trivial) hacts trivial
      obtain rfl : es = fs := List.append_cancel_left (hlog.symm.trans hlog')
      have hpermitted : ∀ e ∈ out, ∃ m source, e = .output m source ∧ m.permitted Link.up.isUp = true := by
        intro e he
        obtain ⟨m, source, rfl, -⟩ := hall e he
        refine ⟨m, source, rfl, ?_⟩
        have hes : .output m source ∈ es := (List.mem_filter.mp (hfs ▸ he)).1
        cases m with
        | connect m => exact absurd rfl (hnot _ hes m source)
        | _ => rfl
      refine ⟨.up, (hy.trans hbegin).trans ⟨out, ⟨es, hlog', hfs⟩, link_outputs hpermitted⟩, ?_⟩
      rw [(Acts.steady hacts).connected, hup]
      rfl

/-! ## The other steps -/

/-- A connection that is there ends, and whether or not there was one, the report comes without it. -/
theorem link_farewell (hz : z.isUp = u.sessionState.connected) (reason : Option BrokerDisconnectReason)
    (info : Option DisconnectInfo) :
    link.run z (u.farewell ++ (reason.map (.brokerDisconnectReport · info)).toList) = some .down := by
  unfold Client.farewell
  rw [← hz]
  cases z with
  | down => cases reason <;> rfl
  | up => cases reason <;> rfl

/-- The end of a connection, or of an attempt to connect. -/
theorem brokerDisconnected_reads (hlogs : ∃ out, Logs out s t) (h : Reads link x s u z)
    (hz : z.isUp = u.sessionState.connected) (reason : Option BrokerDisconnectReason)
    (status : AsyncOpStatus) (info : Option DisconnectInfo)
    (ht : t = u.brokerDisconnected env reason status info) :
    ∃ y, Reads link x s t y ∧ y.isUp = t.sessionState.connected := by
  obtain ⟨out, hout, hrun⟩ := h
  have htraffic : t.traffic = s.traffic ++
      (out ++ (u.farewell ++ (reason.map (.brokerDisconnectReport · info)).toList)) := by
    rw [ht, brokerDisconnected_traffic, hout.traffic, List.append_assoc]
  have hoff : t.sessionState.connected = false := by
    rw [ht, brokerDisconnected_session]
  have hdown := Monitor.run_trans hrun (link_farewell hz reason info)
  exact ⟨.down, .of_traffic hlogs htraffic hdown, hoff.symm⟩

/-- Without operations to terminate the initialisation terminates none. -/
theorem terminateOps_none (h : ∀ ref, some ref ∈ s.ops → ref.isSendRecv = true) (status : AsyncOpStatus) :
    s.terminateOps env status true = s := by
  have hround : ∀ (l : List Nat), l.foldl (visitOp fun ref s =>
      if true && ref.isSendRecv then s else s.terminateOp env status ref) s = s := by
    intro l
    induction l with
    | nil => rfl
    | cons idx l ih =>
      rw [List.foldl_cons]
      have hsame : visitOp (fun ref s =>
          if true && ref.isSendRecv then s else s.terminateOp env status ref) s idx = s := by
        unfold visitOp
        split
        · rename_i ref hget
          show (if true && ref.isSendRecv then s else s.terminateOp env status ref) = s
          rw [if_pos (by rw [h ref (List.mem_of_getElem? hget)]; rfl)]
        · rfl
      rw [hsame, ih]
  exact hround _

/-- A client that is not initialised has publishes and receptions only. -/
theorem Apart.stored (h : Apart s) (hreg : Registered s) (hfresh : s.clientState.initialized = false) :
    ∀ ref, some ref ∈ s.ops → ref.isSendRecv = true := by
  intro ref href
  have hid : ref.id ∈ s.ids ref.type := hreg.mem.mp href
  have hoff : s.sessionState.connected = false := by
    by_contra hon
    rw [h.initialized (Or.inl (by simpa using hon))] at hfresh
    cases hfresh
  have hcon : s.opCount .connect = 0 := by
    by_contra hne
    rw [h.initialized (Or.inr hne)] at hfresh
    cases hfresh
  have hsome : s.opCount ref.type ≠ 0 := by
    rw [← length_ids]
    exact Nat.ne_of_gt (List.length_pos_of_mem hid)
  unfold OpRef.isSendRecv
  cases htype : ref.type <;> first
    | rfl
    | (rw [htype] at hsome; exact absurd (h.offline hoff _ rfl) hsome)
    | (rw [htype] at hsome; exact absurd hcon hsome)

/-- A step reads on from where the link is, and leaves it as `m_connected` says. -/
theorem step_reads (hw : SysWf sys) (hreg : Registered sys.client) (hin : InSession sys)
    (hstep : sys.step env l = some sys') {x : Link} (hx : x.isUp = sys.client.sessionState.connected) :
    ∃ y, Reads link x sys.client sys'.client y ∧ y.isUp = sys'.client.sessionState.connected := by
  have hlogs : ∃ out, Logs out sys.client sys'.client :=
    (step_acts (a := false) (b := .begins) hw hstep (by simp) (.begins _)).logs
  have hquiet : ∀ {t : Client}, (∃ out, Logs out sys.client t) → t.traffic = sys.client.traffic →
      t.sessionState.connected = sys.client.sessionState.connected →
      ∃ y, Reads link x sys.client t y ∧ y.isUp = t.sessionState.connected :=
    fun hl ht hc => ⟨x, .of_traffic hl (ht.trans (List.append_nil _).symm) rfl, hx.trans hc.symm⟩
  -- only the end of the connection, CONNACK and `connectPrepare` move the link
  cases step_conn hw hreg hstep with
  | keeps hk => exact hk.reads_link hin.apart hx
  | ends u reason status info hu hd ht =>
    obtain ⟨y, hy, hyup⟩ := hu.reads_link hin.apart hx
    exact brokerDisconnected_reads hlogs hy hyup reason status info ht
  | connack msg hc hrun =>
    obtain ⟨rest, -, -, hclient⟩ := inMsg_step hstep hc
    rw [hclient]
    exact handleConnack_reads hw.reg hw.lock hin.apart msg hx
  | network hl hhead ht =>
    rw [ht] at hlogs ⊢
    by_cases hdis : sys.client.sessionState.disconnecting = true
    · have heq : sys.client.networkDown env = sys.client.networkLost := if_pos hdis
      rw [heq] at hlogs ⊢
      exact hquiet hlogs rfl rfl
    · have heq : sys.client.networkDown env =
          sys.client.networkLost.brokerDisconnected env none .brokerDisconnected none := if_neg hdis
      exact brokerDisconnected_reads (u := sys.client.networkLost) hlogs (.of_log rfl) hx none _ none heq
  | prepare elapsed hl ht =>
    rw [ht] at hlogs ⊢
    unfold beginConnectPrepare at hlogs ⊢
    dsimp only at hlogs ⊢
    split
    · exact hquiet ⟨[], .of_eq rfl⟩ rfl rfl
    · split
      · exact hquiet ⟨_, .of_emit rfl⟩ (traffic_emit rfl) rfl
      · exact hquiet ⟨[], .of_eq rfl⟩ rfl rfl
  | initial hl hhead ht =>
    -- an initialisation is put off by a client that is not initialised, so not connected
    have hfresh := hin.fresh (List.mem_of_mem_head? hhead)
    have hoff : sys.client.sessionState.connected = false := by
      by_contra hon
      rw [hin.apart.initialized (Or.inl (by simpa using hon))] at hfresh
      cases hfresh
    rw [ht]
    unfold initInternal
    split
    · exact hquiet ⟨_, .of_emit rfl⟩ (traffic_emit rfl) rfl
    · split
      · exact hquiet ⟨_, .of_emit rfl⟩ (traffic_emit rfl) rfl
      · rw [terminateOps_none (hin.apart.stored hreg hfresh)]
        exact hquiet ⟨[], .of_eq rfl⟩ rfl hoff.symm

/-- The log of every run is one of a link, and `m_connected` says whether it is up. Thus CONNECT is only
handed over while the client is not connected, and SUBSCRIBE, UNSUBSCRIBE and PINGREQ only while it is;
a connection begins only where there is none and ends only where there is one; and the application is
told that the broker is gone only while there is no connection, so after the end of the one there was. -/
theorem link_respected (h : (machine env).Reach (fun _ _ => True) sys) :
    ∃ x, link.run .down sys.client.log = some x ∧ x.isUp = sys.client.sessionState.connected := by
  have hinit : ∀ sys, (machine env).init sys →
      ∃ x, link.run .down sys.client.log = some x ∧ x.isUp = sys.client.sessionState.connected := by
    rintro _ ⟨cbs, config, rfl⟩
    exact ⟨.down, rfl, rfl⟩
  refine h.invariant hinit fun sys l sys' hs hinv _ hstep => ?_
  obtain ⟨x, hrun, hx⟩ := hinv
  obtain ⟨y, ⟨out, ⟨es, hlog, rfl⟩, hout⟩, hy⟩ :=
    step_reads (reach_wf hs) (reach_registered hs) (reach_inSession hs) hstep hx
  rw [Monitor.run_filter link_next_same] at hout
  exact ⟨y, by rw [hlog]; exact Monitor.run_trans hrun hout, hy⟩

/-- A connection, its loss and the next CONNECT. -/
theorem link_respected_again : ∃ sys, (machine .dynamic).Reach (fun _ _ => True) sys ∧
    sys.client.log.countP (· == .connectivity true) = 1 ∧
    sys.client.connectOps.any (·.sent) = true ∧
    ∃ x, link.run .down sys.client.log = some x ∧ x.isUp = sys.client.sessionState.connected := by
  obtain ⟨sys, hreach, hup, hsent⟩ := exists_reach_fresh .dynamic
    (connectCalls true {} { sessionPresent := false, reasonCode := ReasonCode.success } ++
      [(.notifyNetworkDisconnected 0, 3)] ++ reconnectCalls 2 false {})
    (fun sys => sys.client.log.countP (· == .connectivity true) = 1 ∧
      sys.client.connectOps.any (·.sent) = true) (by decide +kernel)
  exact ⟨sys, hreach, hup, hsent, link_respected hreach⟩

end Mqtt5
