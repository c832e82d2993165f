import Mqtt5Client.Connectivity
import Mqtt5Client.Receptions

/-!
# Mqtt5Client — exactly-once reception

The receptions in `m_recvOps` along a run: each one kept is a QoS 2 message that was reported and
acknowledged with PUBREC (`receptions_real`), and while it is kept no other message with its packet
identifier is reported (`exactly_once`).
-/

namespace Mqtt5

open Client

variable {env : Env} {s t : Client} {sys sys' : Sys} {l : Label}

/-! ## Receptions that are kept -/

/-- The step handed the message of a reception to the handlers, which reported it and sent PUBREC. -/
structure Received (op : RecvOp) (x : Machine.Step Sys Label) : Prop where
  message : ∃ msg, x.before.inMsg x.label = some (.publish msg) ∧
    msg.qos = some .exactlyOnceDelivery ∧ msg.packetId = some op.packetId
  new : op.id = x.before.client.nextOpId
  log : ∃ info, x.after.client.log = x.before.client.log ++
    [.messageReceived info, .output (.pubrec { packetId := op.packetId }) none]

/-- Where a PUBLISH begins a reception: the connection ends with it only when the session does, and a
QoS 2 message that is reported has a packet identifier and a PUBREC the broker accepts. -/
def Sys.receivesCleanly (env : Env) (sys : Sys) (l : Label) : Bool :=
  match sys.inMsg l with
  | some (.publish msg) =>
    !beginsReception env msg sys.client ||
      match sys.client.verdictOn env msg with
      | .terminate _ => sys.client.sessionState.sessionExpiryIntervalMs == 0
      | .refuse => true
      | .report _ =>
        msg.qos != some .exactlyOnceDelivery ||
          (msg.packetId.getD 0 != 0 && sys.client.fits env msg.pubrec)
  | _ => true

/-- A message without a valid QoS is not reported. -/
theorem qos_of_report {msg : RecvPublishMsg} {info : MessageInfo}
    (hv : s.verdictOn env msg = .report info)
    (hqos : msg.qos.getD .exactlyOnceDelivery = .exactlyOnceDelivery) :
    msg.qos = some .exactlyOnceDelivery := by
  unfold verdictOn publishVerdict at hv
  cases hq : msg.qos with
  | none =>
    rw [hq] at hv
    cases hv
  | some qos =>
    rw [hq] at hqos
    rw [← hqos]
    rfl

/-- No reception in progress has the packet identifier of a QoS 2 message that begins one. -/
theorem find?_of_begins {msg : RecvPublishMsg} (h : beginsReception env msg s = true)
    (hqos : msg.qos = some .exactlyOnceDelivery) :
    s.recvOps.find? (·.packetId == msg.packetId.getD 0) = none := by
  unfold beginsReception at h
  rw [hqos] at h
  simp only [Bool.and_eq_true] at h
  obtain ⟨⟨-, hwhich⟩, -⟩ := h
  simpa using hwhich

/-- What a step that receives cleanly does to the receptions. -/
theorem step_received (hw : SysWf sys) (hreg : Registered sys.client)
    (hstep : sys.step env l = some sys') (hok : sys.receivesCleanly env l = true) :
    sys'.client.recvOps.Sublist sys.client.recvOps ∨
      ∃ op, sys'.client.recvOps = sys.client.recvOps ++ [op] ∧ op.packetId ≠ 0 ∧
        (∀ o ∈ sys.client.recvOps, o.packetId ≠ op.packetId) ∧ Received op ⟨sys, l, sys'⟩ := by
  unfold Sys.receivesCleanly at hok
  cases step_recvStep hw hreg hstep with
  | rests hrecv hreports => exact Or.inl hrecv
  | left msg reason hin hbegins hv hexpiry hrecv hreports =>
    rw [hin] at hok
    dsimp only at hok
    rw [hbegins, hv] at hok
    exact absurd (by simpa using hok) hexpiry
  | reported msg info hin hbegins hv hqos hrecv hreports =>
    exact Or.inl (hrecv ▸ List.Sublist.refl _)
  | received msg info hin hbegins hv hqos hpid hrecv hreports hlog =>
    have hexactly := qos_of_report hv hqos
    rw [hin] at hok
    dsimp only at hok
    rw [hbegins, hv, hexactly] at hok
    simp only [Bool.not_true, Bool.false_or, bne_self_eq_false, Bool.and_eq_true,
      bne_iff_ne] at hok
    obtain ⟨hne, hfits⟩ := hok
    obtain ⟨pid, hpid⟩ := Option.isSome_iff_exists.mp hpid
    refine Or.inr ⟨_, hrecv, hne, fun o ho heq => ?_, ⟨⟨msg, hin, hexactly, ?_⟩, rfl, info, hlog hfits⟩⟩
    · have hnone := List.find?_eq_none.mp (find?_of_begins hbegins hexactly) o ho
      exact hnone (beq_iff_eq.mpr heq)
    · show msg.packetId = some (msg.packetId.getD 0)
      rw [hpid]
      rfl

/-- Only real receptions are kept: each one in `m_recvOps` has a packet identifier of its own, so that
PUBREL finds it, and some step of the run reported its message and sent PUBREC. -/
theorem receptions_real {steps : List (Machine.Step Sys Label)}
    (h : (machine env).Run (fun sys l => sys.receivesCleanly env l = true) steps sys) :
    (∀ op ∈ sys.client.recvOps, op.packetId ≠ 0 ∧ (∃ x ∈ steps, Received op x) ∧
      sys.client.recvOps.find? (·.packetId == op.packetId) = some op) ∧
      (sys.client.recvOps.map (·.packetId)).Nodup := by
  -- the packet identifiers and their origins, along the run
  have hinv : (∀ op ∈ sys.client.recvOps, op.packetId ≠ 0 ∧ ∃ x ∈ steps, Received op x) ∧
      (sys.client.recvOps.map (·.packetId)).Nodup := by
    induction h with
    | start h =>
      obtain ⟨cbs, config, rfl⟩ := h
      exact ⟨fun op hop => absurd hop List.not_mem_nil, List.nodup_nil⟩
    | @step steps sys sys' l hrun hok hstep ih =>
      obtain ⟨hreal, hnodup⟩ := ih
      have hold : ∀ op ∈ sys.client.recvOps,
          op.packetId ≠ 0 ∧ ∃ x ∈ steps ++ [⟨sys, l, sys'⟩], Received op x := by
        intro op hop
        obtain ⟨hne, x, hx, hreceived⟩ := hreal op hop
        exact ⟨hne, x, List.mem_append_left _ hx, hreceived⟩
      rcases step_received (reach_wf hrun.reach) (reach_registered hrun.reach) hstep hok with
        hsub | ⟨op, hrecv, hne, hnew, hreceived⟩
      · exact ⟨fun op hop => hold op (hsub.subset hop), (hsub.map _).nodup hnodup⟩
      · rw [hrecv, List.map_append]
        refine ⟨fun o ho => ?_, ?_⟩
        · rcases List.mem_append.mp ho with ho | ho
          · exact hold o ho
          · obtain rfl := List.mem_singleton.mp ho
            exact ⟨hne, _, List.mem_append_right _ List.mem_cons_self, hreceived⟩
        · refine List.nodup_append.mpr ⟨hnodup, List.nodup_singleton _, fun p hp q hq heq => ?_⟩
          obtain ⟨o, ho, rfl⟩ := List.mem_map.mp hp
          obtain rfl := List.mem_singleton.mp hq
          exact hnew o ho heq
  refine ⟨fun op hop => ⟨(hinv.1 op hop).1, (hinv.1 op hop).2, ?_⟩, hinv.2⟩
  exact Keyed.Distinct.find hinv.2 hop

/-- A PUBLISH of the broker. -/
def published (topic : Str) (qos : Qos) (packetId : Option Nat) (dup : Bool) : InMsg :=
  .publish { topic := topic, qos := some qos, dup := dup, retain := false, packetId := packetId,
             props := [], payload := [] }

/-- A first connection of an application that takes messages on every topic. -/
def connectedCalls (extra : ConnectExtraConfig) (props : PropsList) : List (Api × Nat) :=
  (.setVerifySubFilter false, 1) ::
    connectCalls true extra { sessionPresent := false, reasonCode := ReasonCode.success, props := props }

/-- Two QoS 2 messages wait for their PUBREL. -/
theorem receptions_real_two :
    ∃ steps sys, (machine .dynamic).Run (fun sys l => sys.receivesCleanly .dynamic l = true) steps sys ∧
      sys.client.recvOps.map (·.packetId) = [1, 2] ∧
      ∀ op ∈ sys.client.recvOps, ∃ x ∈ steps, Received op x := by
  obtain ⟨sys, hreach, hids⟩ := exists_reach_ok .dynamic
    (fun sys l => sys.receivesCleanly .dynamic l = true)
    (connectedCalls {} [] ++ [(packet (published ['t'] .exactlyOnceDelivery (some 1) false), 5),
      (packet (published ['t'] .atLeastOnceDelivery (some 7) false), 5),
      (packet (published ['t'] .exactlyOnceDelivery (some 2) false), 5)])
    (fun sys => sys.client.recvOps.map (·.packetId) = [1, 2]) (by decide +kernel)
  obtain ⟨steps, hrun⟩ := hreach.exists_run
  exact ⟨steps, sys, hrun, hids, fun op hop => ((receptions_real hrun).1 op hop).2.1⟩

/-- A message with an invalid topic ends the connection, and its reception stays with the session. -/
theorem reception_leftover :
    ∃ sys, (machine .dynamic).Reach (fun _ _ => True) sys ∧ sys.pending = [] ∧
      ∃ op ∈ sys.client.recvOps, op.packetId = 0 := by
  obtain ⟨sys, hreach, hpending, hops⟩ := exists_reach_fresh .dynamic
    (connectedCalls { sessionExpiryInterval := 100 } [] ++
      [(packet (published ['#'] .atLeastOnceDelivery (some 1) false), 5)])
    (fun sys => sys.pending = [] ∧ sys.client.recvOps.any (·.packetId == 0) = true) (by decide +kernel)
  obtain ⟨op, hop, hpid⟩ := List.any_eq_true.mp hops
  exact ⟨sys, hreach, hpending, op, hop, beq_iff_eq.mp hpid⟩

/-! ## Duplicates -/

/-- The step hands a QoS 2 PUBLISH with a packet identifier to the handlers. -/
def HandsOver (pid : Nat) (msg : RecvPublishMsg) (x : Machine.Step Sys Label) : Prop :=
  x.before.inMsg x.label = some (.publish msg) ∧ msg.qos = some .exactlyOnceDelivery ∧
    msg.packetId = some pid

/-- The PUBREC that answers a message whose reception is in progress. -/
def RecvPublishMsg.duplicateAck (msg : RecvPublishMsg) : AckMsg :=
  if msg.dup then { packetId := msg.packetId.getD 0 }
  else
    { packetId := msg.packetId.getD 0, reasonCode := some ReasonCode.packetIdInUse, props := some [] }

variable (env) in
/-- A message whose reception is in progress is answered and not reported. An answer that does not fit is
refused, which is logged. -/
theorem handlePublish_duplicate {msg : RecvPublishMsg} {op : RecvOp}
    (hdis : s.sessionState.disconnecting = false) (hqos : msg.qos = some .exactlyOnceDelivery)
    (hfind : s.recvOps.find? (·.packetId == msg.packetId.getD 0) = some op) :
    (s.handlePublish env msg).reports = s.reports ∧
      (s.fits env (.pubrec msg.duplicateAck) = true → (s.handlePublish env msg).log =
        s.log ++ [.output (.pubrec msg.duplicateAck) none]) ∧
      (s.fits env (.pubrec msg.duplicateAck) = false →
        ∃ text, (s.handlePublish env msg).log = s.log ++ [.errorLog text]) := by
  set u := s.keepAliveMessageReceived with hu
  have hrecv : u = { s with timerMgr := u.timerMgr } := keepAliveMessageReceived_eq s
  -- the timer of the reception may be cancelled before the answer
  obtain ⟨m, heq⟩ : ∃ m, s.handlePublish env msg =
      ({ s with timerMgr := m } : Client).post env (.pubrec msg.duplicateAck) := by
    unfold handlePublish
    rw [if_neg (by rw [hdis]; simp)]
    dsimp only
    rw [if_neg (by rw [hqos]; simp), ← hu, show u.recvOps = s.recvOps by rw [hrecv], hfind]
    unfold RecvPublishMsg.duplicateAck
    cases msg.dup with
    | true =>
      refine ⟨u.timerMgr.cancel op.responseTimer, ?_⟩
      dsimp only
      rw [hrecv]
      rfl
    | false =>
      refine ⟨u.timerMgr, ?_⟩
      dsimp only
      rw [hrecv]
      rfl
  rw [heq]
  refine ⟨reports_post env _ _, fun hfits => ?_, fun hfits => ?_⟩
  · have hfits' : ({ s with timerMgr := m } : Client).fits env (.pubrec msg.duplicateAck) = true := hfits
    unfold Client.post
    rw [sendMessage_of_fits hfits', keepAliveMessageSent_eq]
    rfl
  · have hfits' : ({ s with timerMgr := m } : Client).fits env (.pubrec msg.duplicateAck) = false := hfits
    obtain ⟨text, ec, -, hsend⟩ := sendMessage_error (o := none) hfits'
    refine ⟨text, ?_⟩
    unfold Client.post
    rw [hsend]
    rfl

/-- The step that reports a QoS 2 message keeps its reception. -/
theorem step_reported (hw : SysWf sys) (hreg : Registered sys.client)
    (hstep : sys.step env l = some sys') {pid : Nat} {msg : RecvPublishMsg} {info : MessageInfo}
    (hx : HandsOver pid msg ⟨sys, l, sys'⟩)
    (hreports : sys'.client.reports = sys.client.reports ++ [info]) :
    beginsReception env msg sys.client = true ∧ sys'.client.recvOps = sys.client.recvOps ++
      [{ sys.client.newRecvOp env with packetId := pid }] := by
  obtain ⟨hin, hqos, hpid⟩ := hx
  have hne : sys'.client.reports ≠ sys.client.reports := by
    rw [hreports]
    simp
  have hsame : ∀ {m : RecvPublishMsg}, sys.inMsg l = some (.publish m) → m = msg := by
    intro m hm
    rw [hin] at hm
    simpa using hm.symm
  cases step_recvStep hw hreg hstep with
  | rests hrecv hreports => exact absurd hreports hne
  | left m reason hin' hbegins hv hexpiry hrecv hreports => exact absurd hreports hne
  | reported m info hin' hbegins hv hq hrecv hreports =>
    obtain rfl := hsame hin'
    rw [hqos] at hq
    exact absurd rfl hq
  | received m info hin' hbegins hv hq hsome hrecv hreports hlog =>
    obtain rfl := hsame hin'
    rw [hpid] at hrecv
    exact ⟨hbegins, hrecv⟩

/-- A reception that a step adds is new, and it has the packet identifier of a QoS 2 message received
while the client is connected, or none. -/
theorem step_recvOps (hw : SysWf sys) (hreg : Registered sys.client)
    (hstep : sys.step env l = some sys') {op : RecvOp} (hop : op ∈ sys'.client.recvOps) :
    op ∈ sys.client.recvOps ∨ op.id = sys.client.nextOpId ∧ (op.packetId ≠ 0 →
      sys.client.sessionState.connected = true ∧ ∃ msg, HandsOver op.packetId msg ⟨sys, l, sys'⟩) := by
  cases step_recvStep hw hreg hstep with
  | rests hrecv hreports => exact Or.inl (hrecv.subset hop)
  | left msg reason hin hbegins hv hexpiry hrecv hreports =>
    rw [hrecv] at hop
    refine (List.mem_append.mp hop).imp_right fun hnew => ?_
    obtain rfl := List.mem_singleton.mp hnew
    exact ⟨rfl, fun hne => absurd rfl hne⟩
  | reported msg info hin hbegins hv hqos hrecv hreports =>
    rw [hrecv] at hop
    exact Or.inl hop
  | received msg info hin hbegins hv hqos hpid hrecv hreports hlog =>
    rw [hrecv] at hop
    refine (List.mem_append.mp hop).imp_right fun hnew => ?_
    obtain rfl := List.mem_singleton.mp hnew
    refine ⟨rfl, fun _ => ⟨?_, msg, hin, qos_of_report hv hqos, ?_⟩⟩
    · -- a message that comes before the connection is refused
      by_contra hcon
      unfold verdictOn publishVerdict at hv
      rw [qos_of_report hv hqos] at hv
      dsimp only at hv
      unfold recvVerdict at hv
      dsimp only at hv
      split at hv
      · cases hv
      · rw [if_pos (by rw [beginRecv_eq]; simpa using hcon)] at hv
        cases hv
    · obtain ⟨pid, hpid⟩ := Option.isSome_iff_exists.mp hpid
      show msg.packetId = some (msg.packetId.getD 0)
      rw [hpid]
      rfl

/-! ## Exactly-once reception -/

section Run

variable {ok : Sys → Label → Prop} {pre mid : List (Machine.Step Sys Label)}
  {x : Machine.Step Sys Label} {pid : Nat} {msg : RecvPublishMsg} {info : MessageInfo}

theorem step_nextOpId (hw : SysWf sys) (hstep : sys.step env l = some sys') :
    sys.client.nextOpId ≤ sys'.client.nextOpId :=
  MicroRun.nextOpId (MacroRun.run (step_effects (a := false) (b := .begins) hw hstep (by simp)
    (.begins _)) hw.reg)

/-- The reception of a reported message is the one with its identity, and keeps its packet identifier. -/
theorem reception_packetId (h : (machine env).Run ok (pre ++ x :: mid) sys)
    (hx : HandsOver pid msg x) (hreports : x.after.client.reports = x.before.client.reports ++ [info]) :
    x.before.client.nextOpId < sys.client.nextOpId ∧
      ∀ op ∈ sys.client.recvOps, op.id = x.before.client.nextOpId → op.packetId = pid := by
  refine Machine.Run.after (P := fun _ sys => x.before.client.nextOpId < sys.client.nextOpId ∧
    ∀ op ∈ sys.client.recvOps, op.id = x.before.client.nextOpId → op.packetId = pid) h
    (fun hrun _ hstep => ?_) (fun mid y hrun hinv _ hstep => ?_)
  · have hreg := reach_registered hrun.reach
    obtain ⟨-, hrecv⟩ := step_reported (reach_wf hrun.reach) hreg hstep hx hreports
    have hreg' := reach_registered (hrun.step ‹_› hstep).reach
    refine ⟨hreg'.lt .recv _ (List.mem_map.mpr ⟨_, hrecv ▸ List.mem_append_right _ List.mem_cons_self,
      rfl⟩), fun op hop hid => ?_⟩
    rw [hrecv] at hop
    rcases List.mem_append.mp hop with hop | hop
    · exact absurd hid (Nat.ne_of_lt (hreg.lt .recv op.id (List.mem_map.mpr ⟨op, hop, rfl⟩)))
    · rw [List.mem_singleton.mp hop]
  · have hw := reach_wf hrun.reach
    refine ⟨Nat.lt_of_lt_of_le hinv.1 (step_nextOpId hw hstep), fun op hop hid => ?_⟩
    rcases step_recvOps hw (reach_registered hrun.reach) hstep hop with hold | ⟨hnew, -⟩
    · exact hinv.2 op hold hid
    · exact absurd (hnew.symm.trans hid) (Nat.ne_of_gt hinv.1)

/-- No message with the packet identifier is handed over to a connected client once its reception is
gone. -/
def QuietSince (pid : Nat) (id : OpId) (mid : List (Machine.Step Sys Label)) : Prop :=
  ∀ z ∈ mid, id ∉ z.before.client.ids .recv → ∀ m, HandsOver pid m z →
    z.before.client.sessionState.connected = false

/-- No other reception gets the packet identifier in the meantime. -/
theorem reception_alone (h : (machine env).Run ok (pre ++ x :: mid) sys) (hpid : pid ≠ 0)
    (hx : HandsOver pid msg x) (hreports : x.after.client.reports = x.before.client.reports ++ [info])
    (hquiet : QuietSince pid x.before.client.nextOpId mid) :
    ∀ op ∈ sys.client.recvOps, op.packetId = pid → op.id = x.before.client.nextOpId := by
  refine Machine.Run.after (P := fun mid sys => QuietSince pid x.before.client.nextOpId mid →
    ∀ op ∈ sys.client.recvOps, op.packetId = pid → op.id = x.before.client.nextOpId) h
    (fun hrun _ hstep _ => ?_) (fun mid y hrun hinv hok hstep hquiet => ?_) hquiet
  · have hreg := reach_registered hrun.reach
    obtain ⟨hbegins, hrecv⟩ := step_reported (reach_wf hrun.reach) hreg hstep hx hreports
    obtain ⟨-, hqos, hmpid⟩ := hx
    intro op hop heq
    rw [hrecv] at hop
    rcases List.mem_append.mp hop with hop | hop
    · have hnone := List.find?_eq_none.mp (find?_of_begins hbegins hqos) op hop
      rw [hmpid] at hnone
      exact absurd (beq_iff_eq.mpr heq) hnone
    · rw [List.mem_singleton.mp hop]
      rfl
  · have hw := reach_wf hrun.reach
    -- the step that reported created the one reception with this identifier
    have hreg := reach_registered hrun.reach
    have hinv := hinv fun z hz => hquiet z (List.mem_append_left _ hz)
    intro op hop heq
    rcases step_recvOps hw hreg hstep hop with hold | ⟨hnew, hadds⟩
    · exact hinv op hold heq
    · obtain ⟨hcon, m, hm⟩ := hadds (heq ▸ hpid)
      rw [heq] at hm
      by_cases hmem : x.before.client.nextOpId ∈ y.before.client.ids .recv
      · -- the message finds the reception in progress, so it adds none
        obtain ⟨o, ho, hid⟩ := List.mem_map.mp hmem
        have hfound := (reception_packetId hrun hx hreports).2 o ho hid
        obtain ⟨hin, hqos, hmpid⟩ := hm
        cases step_recvStep hw hreg hstep with
        | rests hrecv _ =>
          exact absurd hnew (Nat.ne_of_lt (hreg.lt .recv _ (List.mem_map.mpr ⟨op, hrecv.subset hop, rfl⟩)))
        | left m' _ hin' hbegins _ _ _ _ =>
          rw [hin] at hin'
          obtain rfl : m' = m := by simpa using hin'.symm
          have hnone := List.find?_eq_none.mp (find?_of_begins hbegins hqos) o ho
          rw [hmpid] at hnone
          exact absurd (beq_iff_eq.mpr hfound) hnone
        | reported _ _ _ _ _ _ hrecv _ =>
          rw [hrecv] at hop
          exact absurd hnew (Nat.ne_of_lt (hreg.lt .recv _ (List.mem_map.mpr ⟨op, hop, rfl⟩)))
        | received m' _ hin' hbegins _ _ _ _ _ _ =>
          rw [hin] at hin'
          obtain rfl : m' = m := by simpa using hin'.symm
          have hnone := List.find?_eq_none.mp (find?_of_begins hbegins hqos) o ho
          rw [hmpid] at hnone
          exact absurd (beq_iff_eq.mpr hfound) hnone
      · exact absurd hcon (by rw [hquiet y (by simp) hmem m hm]; simp)

/-- From the step that reports a QoS 2 message until its reception is gone, no message with its packet
identifier is reported, and each one received while connected is answered with one PUBREC; a PUBREC that
does not fit is refused, and nothing is sent. The first such message received while connected after that is
reported, if an operation can be allocated for it and it passes the checks. -/
theorem exactly_once (h : (machine env).Run ok (pre ++ x :: mid) sys) (hpid : pid ≠ 0)
    (hx : HandsOver pid msg x)
    (hreports : x.after.client.reports = x.before.client.reports ++ [info]) :
    (∃ op ∈ x.after.client.recvOps, op.id = x.before.client.nextOpId ∧ op.packetId = pid) ∧
      (∀ y ∈ mid, x.before.client.nextOpId ∈ y.before.client.ids .recv → ∀ m, HandsOver pid m y →
        y.after.client.reports = y.before.client.reports ∧
          (y.before.client.sessionState.connected = true →
            (y.before.client.fits env (.pubrec m.duplicateAck) = true →
              y.after.client.log = y.before.client.log ++ [.output (.pubrec m.duplicateAck) none]) ∧
            (y.before.client.fits env (.pubrec m.duplicateAck) = false →
              ∃ text, y.after.client.log = y.before.client.log ++ [.errorLog text]))) ∧
      ∀ mid₁ y mid₂, mid = mid₁ ++ y :: mid₂ →
        x.before.client.nextOpId ∉ y.before.client.ids .recv →
        QuietSince pid x.before.client.nextOpId mid₁ →
        ∀ m info', HandsOver pid m y → y.before.client.sessionState.connected = true →
          isFull env.cfg.recvOpsLimit y.before.client.recvOps.length = false →
          y.before.client.verdictOn env m = .report info' →
          y.after.client.reports = y.before.client.reports ++ [info'] := by
  refine ⟨?_, fun y hy hmem m hm => ?_, fun mid₁ y mid₂ heq hgone hquiet m info' hm hcon hroom hv => ?_⟩
  · obtain ⟨hrun, -, hstep⟩ := h.split
    obtain ⟨-, hrecv⟩ := step_reported (reach_wf hrun.reach) (reach_registered hrun.reach) hstep hx hreports
    exact ⟨_, hrecv ▸ List.mem_append_right _ List.mem_cons_self, rfl, rfl⟩
  · obtain ⟨mid₁, mid₂, rfl⟩ := List.append_of_mem hy
    rw [← List.cons_append, ← List.append_assoc] at h
    obtain ⟨hrun, -, hstep⟩ := h.split
    -- the message finds a reception with its packet identifier
    obtain ⟨o, ho, hid⟩ := List.mem_map.mp hmem
    have ho' := (reception_packetId hrun hx hreports).2 o ho hid
    obtain ⟨hin, hqos, hmpid⟩ := hm
    obtain ⟨op, hfind⟩ : ∃ op, y.before.client.recvOps.find? (·.packetId == m.packetId.getD 0) = some op := by
      rw [hmpid]
      exact Option.isSome_iff_exists.mp (List.find?_isSome.mpr ⟨o, ho, beq_iff_eq.mpr ho'⟩)
    obtain ⟨rest, -, -, hclient⟩ := inMsg_step hstep hin
    have hclient : y.after.client = y.before.client.handlePublish env m := hclient
    rw [hclient]
    cases hdis : y.before.client.sessionState.disconnecting with
    | true =>
      have hsame : y.before.client.handlePublish env m = y.before.client := by
        unfold handlePublish
        rw [if_pos hdis]
      rw [hsame]
      refine ⟨rfl, fun hcon => ?_⟩
      rw [reach_disconnecting hrun.reach hdis] at hcon
      cases hcon
    | false =>
      obtain ⟨hsame, hlog⟩ := handlePublish_duplicate env hdis hqos hfind
      exact ⟨hsame, fun _ => hlog⟩
  · subst heq
    rw [← List.cons_append, ← List.append_assoc] at h
    obtain ⟨hrun, -, hstep⟩ := h.split
    have halone := reception_alone hrun hpid hx hreports hquiet
    obtain ⟨hin, hqos, hmpid⟩ := hm
    have hdis : y.before.client.sessionState.disconnecting = false := by
      by_contra hdis
      rw [reach_disconnecting hrun.reach (by simpa using hdis)] at hcon
      cases hcon
    have hnone : y.before.client.recvOps.find? (·.packetId == m.packetId.getD 0) = none := by
      refine List.find?_eq_none.mpr fun o ho heq => hgone ?_
      rw [hmpid] at heq
      exact List.mem_map.mpr ⟨o, ho, halone o ho (beq_iff_eq.mp heq)⟩
    have hbegins : beginsReception env m y.before.client = true := by
      unfold beginsReception
      rw [hdis, hnone, hroom]
      simp
    obtain ⟨rest, -, -, hclient⟩ := inMsg_step hstep hin
    rw [hclient]
    exact (publish_reported (reach_registered hrun.reach) hbegins hv).1

end Run

/-! ### Two messages with one packet identifier -/

def qos2Publish (packetId : Nat) (dup : Bool) : RecvPublishMsg :=
  { topic := ['t'], qos := some .exactlyOnceDelivery, dup := dup, retain := false,
    packetId := some packetId, props := [], payload := [] }

def qos2Info : MessageInfo :=
  { topic := ['t'], data := [], responseTopic := none, correlationData := none, userProps := [],
    contentType := none, subIds := [], messageExpiryInterval := 0, qos := .exactlyOnceDelivery,
    format := 0, retained := false }

/-- A message is reported, and one with its packet identifier comes behind the steps of `calls`; `p` is what
is known of the states before the messages, of the steps between them and of the state in the end. -/
theorem exists_second (env : Env) (props : PropsList) (calls : List (Api × Nat)) (dup : Bool)
    (p : Client → List (Machine.Step Sys Label) → Client → Client → Bool)
    (h : ((machine env).exec (fun _ _ => true) Sys.fresh
      (script (connectedCalls {} props ++ [(packet (.publish (qos2Publish 1 false)), 2)]))).any
      (fun sys₁ => sys₁.inMsg .run = some (.publish (qos2Publish 1 false)) ∧
        (sys₁.step env .run).any (fun sys₂ =>
          sys₂.client.reports = sys₁.client.reports ++ [qos2Info] ∧
          let labels := [.run, .run] ++ script (calls ++ [(packet (.publish (qos2Publish 1 dup)), 2)])
          ((machine env).exec (fun _ _ => true) sys₂ labels).any fun sys₃ =>
            sys₃.inMsg .run = some (.publish (qos2Publish 1 dup)) ∧
            sys₃.client.sessionState.connected = true ∧
            (sys₃.step env .run).any fun sys₄ =>
              p sys₁.client ((machine env).trace sys₂ labels) sys₃.client sys₄.client)) = true) :
    ∃ pre x mid y, (machine env).Run (fun _ _ => True) (pre ++ x :: (mid ++ [y])) y.after ∧
      HandsOver 1 (qos2Publish 1 false) x ∧
      x.after.client.reports = x.before.client.reports ++ [qos2Info] ∧
      HandsOver 1 (qos2Publish 1 dup) y ∧ y.before.client.sessionState.connected = true ∧
      p x.before.client mid y.before.client y.after.client = true := by
  obtain ⟨sys₁, hreach, hin₁, h₁⟩ := exists_reach_fresh env _ _ h
  obtain ⟨sys₂, hstep₂, h₂⟩ := (Option.any_eq_true _ _).mp h₁
  obtain ⟨hreports, h₂⟩ := of_decide_eq_true h₂
  obtain ⟨sys₃, hexec, h₃⟩ := (Option.any_eq_true _ _).mp h₂
  obtain ⟨hin₃, hcon, h₄⟩ := of_decide_eq_true h₃
  obtain ⟨sys₄, hstep₄, hp⟩ := (Option.any_eq_true _ _).mp h₄
  have hstep₂ : (machine env).step sys₁ .run = some sys₂ := hstep₂
  have hstep₄ : (machine env).step sys₃ .run = some sys₄ := hstep₄
  obtain ⟨pre, hrun₁⟩ := hreach.exists_run
  have hrun₃ := (hrun₁.step trivial hstep₂).exec (fun _ _ _ => trivial) hexec
  have hrun := hrun₃.step trivial hstep₄
  rw [List.append_assoc, List.append_assoc] at hrun
  exact ⟨pre, ⟨sys₁, .run, sys₂⟩, _, ⟨sys₃, .run, sys₄⟩, hrun, ⟨hin₁, rfl, rfl⟩, hreports,
    ⟨hin₃, rfl, rfl⟩, hcon, hp⟩

/-- A duplicate that is answered while the reception waits for PUBREL. -/
theorem exactly_once_dup :
    ∃ pre x mid y, (machine .dynamic).Run (fun _ _ => True) (pre ++ x :: (mid ++ [y])) y.after ∧
      HandsOver 1 (qos2Publish 1 true) y ∧ y.after.client.reports = y.before.client.reports ∧
      y.after.client.log = y.before.client.log ++ [.output (.pubrec { packetId := 1 }) none] := by
  obtain ⟨pre, x, mid, y, hrun, hx, hreports, hy, hcon, hp⟩ := exists_second .dynamic [] [] true
    (fun s _ t _ => (t.ids .recv).contains s.nextOpId && t.fits .dynamic (.pubrec { packetId := 1 }))
    (by decide +kernel)
  obtain ⟨hmem, hfits⟩ := Bool.and_eq_true_iff.mp hp
  obtain ⟨-, hdup, -⟩ := exactly_once hrun (by simp) hx hreports
  obtain ⟨hsame, hlog⟩ := hdup y (by simp) (by simpa using hmem) _ hy
  exact ⟨pre, x, mid, y, hrun, hy, hsame, (hlog hcon).1 hfits⟩

def Event.isPubrec : Event → Bool
  | .output (.pubrec _) _ => true
  | _ => false

/-- The step hands over no QoS 2 message with the packet identifier while the client is connected, unless the
reception is there. -/
def quietStep (pid : Nat) (id : OpId) (z : Machine.Step Sys Label) : Bool :=
  (z.before.client.ids .recv).contains id || !z.before.client.sessionState.connected ||
    match z.before.inMsg z.label with
    | some (.publish m) => !decide (m.qos = some .exactlyOnceDelivery ∧ m.packetId = some pid)
    | _ => true

theorem quietSince_of_all {id : OpId} (h : mid.all (quietStep pid id) = true) : QuietSince pid id mid := by
  intro z hz hgone m hm
  obtain ⟨hin, hqos, hpid⟩ := hm
  have hquiet := List.all_eq_true.mp h z hz
  unfold quietStep at hquiet
  rw [hin] at hquiet
  simpa [hgone, hqos, hpid] using hquiet

/-- The broker takes no packet of four bytes: neither the message nor its duplicate is answered. And with the
smallest pools two receptions leave no room for a third: the message that comes again behind its PUBREL passes
the checks and is not reported. -/
theorem pubrec_missing :
    (∃ pre x mid y, (machine .dynamic).Run (fun _ _ => True) (pre ++ x :: (mid ++ [y])) y.after ∧
      HandsOver 1 (qos2Publish 1 false) x ∧
      x.after.client.reports = x.before.client.reports ++ [qos2Info] ∧
      HandsOver 1 (qos2Publish 1 true) y ∧ x.before.client.nextOpId ∈ y.before.client.ids .recv ∧
      y.before.client.sessionState.connected = true ∧ y.after.client.log.any (·.isPubrec) = false) ∧
    ∃ pre x mid y, (machine .static).Run (fun _ _ => True) (pre ++ x :: (mid ++ [y])) y.after ∧
      HandsOver 1 (qos2Publish 1 false) x ∧
      x.after.client.reports = x.before.client.reports ++ [qos2Info] ∧
      HandsOver 1 (qos2Publish 1 false) y ∧ x.before.client.nextOpId ∉ y.before.client.ids .recv ∧
      QuietSince 1 x.before.client.nextOpId mid ∧ y.before.client.sessionState.connected = true ∧
      y.before.client.verdictOn .static (qos2Publish 1 false) = .report qos2Info ∧
      y.after.client.reports = y.before.client.reports := by
  refine ⟨?_, ?_⟩
  · obtain ⟨pre, x, mid, y, hrun, hx, hreports, hy, hcon, hp⟩ := exists_second .dynamic
      [.maxPacketSize 3] [] true
      (fun s _ t u => (t.ids .recv).contains s.nextOpId && !u.log.any (·.isPubrec)) (by decide +kernel)
    obtain ⟨hmem, hlog⟩ := Bool.and_eq_true_iff.mp hp
    exact ⟨pre, x, mid, y, hrun, hx, hreports, hy, by simpa using hmem, hcon, by simpa using hlog⟩
  · obtain ⟨pre, x, mid, y, hrun, hx, hreports, hy, hcon, hp⟩ := exists_second .static []
      [(packet (.pubrel { packetId := 1 } true), 5), (packet (.publish (qos2Publish 2 false)), 5),
        (packet (.publish (qos2Publish 3 false)), 5)] false
      (fun s mid t u => !(t.ids .recv).contains s.nextOpId && mid.all (quietStep 1 s.nextOpId) &&
        decide (t.verdictOn .static (qos2Publish 1 false) = .report qos2Info ∧ u.reports = t.reports))
      (by decide +kernel)
    simp only [Bool.and_eq_true, Bool.not_eq_true', decide_eq_true_eq] at hp
    obtain ⟨⟨hgone, hquiet⟩, hverdict, hsame⟩ := hp
    exact ⟨pre, x, mid, y, hrun, hx, hreports, hy, by simpa using hgone, quietSince_of_all hquiet, hcon,
      hverdict, hsame⟩

end Mqtt5
