import Mqtt5Client.Connack

/-!
# Mqtt5Client — what every step and every run keeps

Every step of the machine, the handling of CONNACK included, is a run of steps on publishes
(`step_effects`) and a step of the preparation lock (`step_lock`). From them: the registries of the
operations and the place of a pending `send` call are as they should be in every reachable state
(`reach_wf`).
-/

namespace Mqtt5

open Client

variable {env : Env} {G : Guard} {a : Bool} {b : Scope} [b.Wide] {s t u : Client} {op : SendOp} {sys sys' : Sys}
  {l : Label}

/-! ## CONNACK -/

/-- The changes of the session a CONNACK makes. -/
inductive ConnackStep (env : Env) (msg : ConnackMsg) (ops : List ConnectOp) : SessionStep → Prop
  | reset (op : ConnectOp) (hop : op ∈ ops) (h : connackAccepted env op msg = false) :
      ConnackStep env msg ops .reset
  | aliasMax (op : ConnectOp) (hop : op ∈ ops) (h : connackAccepted env op msg = true) :
      ConnackStep env msg ops (.aliasMax (connackAnswer env op msg).topicAliasMax)
  | accept (op : ConnectOp) (hop : op ∈ ops) (h : connackAccepted env op msg = true) :
      ConnackStep env msg ops (acceptStep env (connackAnswer env op msg))
  | connected (op : ConnectOp) (hop : op ∈ ops) (h : connackAccepted env op msg = true) :
      ConnackStep env msg ops .connected
  | clearAliases (op : ConnectOp) (hop : op ∈ ops) (h : connackAccepted env op msg = true) :
      ConnackStep env msg ops .clearAliases

/-- What has to be known to handle a CONNACK. -/
structure Guard.Connack (env : Env) (msg : ConnackMsg) (ops : List ConnectOp) (G : Guard) :
    Prop where
  session : ∀ s c, ConnackStep env msg ops c → G.session s c
  resends : msg.sessionPresent = true → (∃ op ∈ ops, connackAccepted env op msg = true) → G.Resends
  leave : msg.sessionPresent = false → (∃ op ∈ ops, connackAccepted env op msg = true) →
    ∀ s op, op ∈ s.sendOps → G.leave s op

/-- What a message does about receptions and the keep alive, which begins with the CONNACK. -/
def InMsg.recv (env : Env) (msg : InMsg) (s : Client) : Recv :=
  match msg with
  | .publish m => publishRecv env m s
  | .connack m =>
    if !s.sessionState.disconnecting && s.connectOps.any (connackAccepted env · m) then .begins
    else .rests
  | _ => .rests

theorem connectHandleConnack_refused_run {op : ConnectOp} {msg : ConnackMsg} {ops : List ConnectOp}
    (hG : G.Connack env msg ops) (hop : op ∈ ops) (hmem : op ∈ s.connectOps)
    (hacc : connackAccepted env op msg = false) :
    MacroRun env G a b s (s.connectHandleConnack env op msg) := by
  rcases connectHandleConnack_refused (a := a) (b := b) (s := s) hmem hacc with h | h
  · exact .frame h
  · exact .micro (.session .reset (hG.session _ _ (.reset op hop hacc)) h)

/-- The keep alive begins at the end of an accepted CONNACK. -/
theorem connectHandleConnack_accepted_run {op : ConnectOp} {msg : ConnackMsg} {ops : List ConnectOp}
    (hb : Recv.Le .aborts b) (hG : G.Connack env msg ops) (hop : op ∈ ops) (hmem : op ∈ s.connectOps)
    (hr : Reg s) (hacc : connackAccepted env op msg = true) :
    ∃ u, MacroRun env G a b s u ∧ u.sessionState.connected = true ∧
      op ∈ (u.createKeepAliveOpIfNeeded env).connectOps ∧ s.connectHandleConnack env op msg =
      (u.createKeepAliveOpIfNeeded env).connectComplete op .complete
        (some (connackAnswer env op msg)) := by
  have h₁ : MacroRun env G a b s (s.connackConnected env op msg) :=
    connackConnected_run hmem msg (fun s => hG.session _ _ (.aliasMax op hop hacc))
      (fun s => hG.session _ _ (.accept op hop hacc))
      (fun s => hG.session _ _ (.connected op hop hacc))
  have h₂ : Reg (s.connackConnected env op msg) → MacroRun env G a b (s.connackConnected env op msg)
      (if msg.sessionPresent then (s.connackConnected env op msg).resumeSession env
        else (s.connackConnected env op msg).abortStoredSession env) := by
    intro hr'
    split
    · rename_i hsp
      exact resumeSession_run (hG.resends hsp ⟨op, hop, hacc⟩) hr'
    · rename_i hsp
      exact abortStoredSession_run hb (hG.leave (by simpa using hsp) ⟨op, hop, hacc⟩) hr'
  refine ⟨_, (h₁.bind hr h₂).trans (MacroRun.micro (.session .clearAliases
    (hG.session _ _ (.clearAliases op hop hacc)) clearSendAliases_eff)), ?_,
    (connackConnected_connectOps env op msg s).symm ▸ hmem, ?_⟩
  · have hr' : Reg (s.connackConnected env op msg) := MacroRun.reg h₁ hr
    split
    · exact resumeSession_connected hr' rfl
    · exact abortStoredSession_connected hr' rfl
  · rw [connectHandleConnack_accepted hacc]
    rfl

theorem connectHandleConnack_run {op : ConnectOp} {msg : ConnackMsg} {ops : List ConnectOp}
    (hb : Recv.Le .begins b) (hG : G.Connack env msg ops) (hop : op ∈ ops) (hmem : op ∈ s.connectOps)
    (hr : Reg s) : MacroRun env G a b s (s.connectHandleConnack env op msg) := by
  cases hacc : connackAccepted env op msg with
  | false => exact connectHandleConnack_refused_run hG hop hmem hacc
  | true =>
    obtain ⟨u, hu, hcon, hlive, heq⟩ :=
      connectHandleConnack_accepted_run (a := a) hb.of_begins hG hop hmem hr hacc
    rw [heq]
    exact hu.trans (MacroRun.frame (((Frame.refl a b u).createKeepAliveOpIfNeeded (hb _ rfl) env
      hcon).connectComplete (.connect hlive) _ _))

theorem Dispatched.run {msg : ConnackMsg} (h : Dispatched env msg s t) (hr : Reg s)
    (hG : G.Connack env msg s.connectOps) (hb : ((InMsg.connack msg).recv env s).Le b) :
    MacroRun env G a b s t := by
  have hrests : Scope.Le .bare b := Scope.bare_le b
  cases h with
  | before h heq => exact .frame (h.forget hrests)
  | handled u op hop hpre heq hcon hpost hgone =>
    refine (MacroRun.frame (hpre.forget hrests)).trans ?_
    refine Relation.ReflTransGen.trans ?_ (MacroRun.frame (hpost.forget hrests))
    have hmem : op ∈ u.connectOps := by rw [heq]; exact hop
    cases hacc : connackAccepted env op msg with
    | false => exact connectHandleConnack_refused_run hG hop hmem hacc
    | true =>
      have hany : (s.connectOps.any fun op => connackAccepted env op msg) = true :=
        List.any_eq_true.mpr ⟨op, hop, hacc⟩
      have hbegins : Recv.Le .begins b := by
        simpa [InMsg.recv, hcon, hany] using hb
      exact connectHandleConnack_run hbegins hG hop hmem (hpre.reg hr)

/-- What is known in a step that handles CONNACK. -/
def connackGuard (env : Env) (sys : Sys) (l : Label) : Guard where
  resume := fun _ _ => False
  first := fun _ _ => False
  dup := fun s op => op ∈ s.sendOps ∧ op.paused = false ∧ ∃ msg,
    sys.inMsg l = some (.connack msg) ∧ msg.sessionPresent = true
  leave := fun s op => op ∈ s.sendOps ∧ ∃ msg, sys.inMsg l = some (.connack msg) ∧
    (∃ op ∈ sys.client.connectOps, connackAccepted env op msg = true) ∧
    (msg.sessionPresent = true → op.paused = false)
  create := fun _ => False
  start := fun _ _ => False
  config := fun _ _ _ => False
  ack := fun _ _ => False
  alloc := fun _ _ => False
  session := fun _ c => ∃ msg, sys.inMsg l = some (.connack msg) ∧
    ConnackStep env msg sys.client.connectOps c
  reconnect := fun _ => ∃ msg, sys.inMsg l = some (.connack msg) ∧ msg.sessionPresent = true
  stray := fun _ _ => False

theorem connackGuard_connack {msg : ConnackMsg} (h : sys.inMsg l = some (.connack msg)) :
    (connackGuard env sys l).Connack env msg sys.client.connectOps where
  session := fun _ _ hc => ⟨msg, h, hc⟩
  resends := fun hsp hacc =>
    ⟨fun _ => ⟨msg, h, hsp⟩, fun _ _ hop hp => ⟨hop, hp, msg, h, hsp⟩,
      fun _ _ hop hp => ⟨hop, msg, h, hacc, fun _ => hp⟩⟩
  leave := fun hsp hacc _ _ hop => ⟨hop, msg, h, hacc, fun h => by rw [hsp] at h; cases h⟩

/-- A step that hands a message to the handlers does nothing else. -/
theorem inMsg_step (hstep : sys.step env l = some sys') {msg : InMsg}
    (hin : sys.inMsg l = some msg) :
    ∃ rest, l = .run ∧ sys.pending.head? = some (.frames rest) ∧
      sys'.client = sys.client.handle env msg := by
  unfold Sys.inMsg at hin
  split at hin
  · rename_i frame frames rest hpending
    refine ⟨_, rfl, by rw [hpending]; rfl, ?_⟩
    unfold Sys.step at hstep
    dsimp only at hstep
    rw [hpending] at hstep
    dsimp only at hstep
    cases hstep
    unfold frameMsg at hin
    split at hin
    · rename_i m len
      split at hin
      · cases hin
      · rename_i hlen
        cases hin
        show (sys.client.processFrame env (.complete msg len)).1 = _
        unfold processFrame
        dsimp only
        rw [if_neg hlen]
    · cases hin
  · cases hin

theorem connack_of_isConnack (hc : sys.isConnack l = true) :
    ∃ msg, sys.inMsg l = some (.connack msg) := by
  unfold Sys.isConnack at hc
  cases hin : sys.inMsg l with
  | none => simp [hin] at hc
  | some m =>
    rw [hin] at hc
    cases m <;> first | exact ⟨_, rfl⟩ | cases hc

/-! ## Every step -/

/-- What is known in a step. -/
def stepGuard (env : Env) (sys : Sys) (l : Label) : Guard :=
  if sys.isConnack l then connackGuard env sys l else labelGuard env sys l

/-- The registries of a state. -/
structure SysWf (sys : Sys) : Prop where
  reg : Reg sys.client
  lock : LockReg sys.client
  pend : Pend sys
  pending : Pending sys

/-- CONNECT is prepared by an initialised client. -/
theorem SysWf.preparing (hw : SysWf sys) (hk : sys.keepsLock .run = false) :
    sys.client.clientState.initialized = true := by
  have hhead : sys.pending.head? = some .connectPrepare := by simpa [Sys.keepsLock] using hk
  exact hw.pending.initialized (List.mem_of_head? hhead)

theorem LockReg.connect_registered (hl : LockReg s) :
    ∀ op ∈ s.connectOps, some ⟨.connect, op.id⟩ ∈ s.ops :=
  fun op hop => hl.registered _ (mem_lockKeys.mpr (Or.inl ⟨op, hop, rfl⟩))

theorem SysWf.connect_registered (hw : SysWf sys) {op : ConnectOp} {id : OpId}
    (hop : sys.client.connectOp? id = some op) : some ⟨.connect, id⟩ ∈ sys.client.ops :=
  (Keyed.mem_of_find hop).2 ▸ hw.lock.connect_registered op (Keyed.mem_of_find hop).1

def Sys.recv (env : Env) (sys : Sys) (l : Label) : Recv :=
  match sys.inMsg l with
  | some msg => msg.recv env sys.client
  | none => .rests

/-- A step in a scope that need not admit what is done to operations that are gone. -/
theorem step_effects_of (hw : SysWf sys) (hstep : sys.step env l = some sys')
    (ha : a = true → sys.keepsLock l = true) (hb : (sys.recv env l).Le b)
    (hs : sys.strays l = true → b.admits .stray = true) :
    MacroRun env (stepGuard env sys l) a b sys.client sys'.client := by
  unfold stepGuard
  cases hc : sys.isConnack l with
  | false =>
    rw [if_neg (by simp)]
    refine step_run hw.reg hw.pend hw.pending hw.lock.connect_registered hstep hc ha hs fun m hm => ?_
    unfold Sys.recv at hb
    rw [hm] at hb
    exact hb
  | true =>
    rw [if_pos rfl]
    obtain ⟨msg, hin⟩ := connack_of_isConnack hc
    obtain ⟨rest, -, -, hclient⟩ := inMsg_step hstep hin
    unfold Sys.recv at hb
    rw [hin] at hb
    rw [hclient]
    exact (handleConnack_dispatched env hw.reg hw.lock msg).run hw.reg (connackGuard_connack hin) hb

theorem step_effects [b.Strays] (hw : SysWf sys) (hstep : sys.step env l = some sys')
    (ha : a = true → sys.keepsLock l = true) (hb : (sys.recv env l).Le b) :
    MacroRun env (stepGuard env sys l) a b sys.client sys'.client :=
  step_effects_of hw hstep ha hb fun _ => Scope.Strays.stray

/-- A step is a sequence of updates. -/
theorem step_acts_of (hw : SysWf sys) (hstep : sys.step env l = some sys')
    (ha : a = true → sys.keepsLock l = true) (hb : (sys.recv env l).Le b)
    (hs : sys.strays l = true → b.admits .stray = true) : Acts a b sys.client sys'.client := by
  refine MacroRun.acts (step_effects_of hw hstep ha hb hs) hw.reg fun h s op hstart => ?_
  have hk := ha h
  unfold stepGuard at hstart
  split at hstart
  · exact hstart
  · obtain ⟨cb, elapsed, rfl⟩ := hstart
    cases hk

theorem step_acts [b.Strays] (hw : SysWf sys) (hstep : sys.step env l = some sys')
    (ha : a = true → sys.keepsLock l = true) (hb : (sys.recv env l).Le b) :
    Acts a b sys.client sys'.client :=
  step_acts_of hw hstep ha hb fun _ => Scope.Strays.stray

/-- A step that does not carry on with an operation that is gone. -/
theorem step_acts_kept (hw : SysWf sys) (hstep : sys.step env l = some sys')
    (hs : sys.strays l = false) : Acts false .kept sys.client sys'.client :=
  step_acts_of hw hstep (by simp) (.kept _) (by simp [hs])

/-! ## The preparation lock -/

/-- The operation whose preparation a call is to end. -/
def Label.ends : Label → Option OpRef
  | .call (.connectSend id _ _) | .call (.connectCancel id) => some ⟨.connect, id⟩
  | .call (.disconnectSend id _) | .call (.disconnectCancel id) => some ⟨.disconnect, id⟩
  | .call (.subscribeSend id _ _) | .call (.subscribeCancel id) => some ⟨.subscribe, id⟩
  | .call (.unsubscribeSend id _ _) | .call (.unsubscribeCancel id) => some ⟨.unsubscribe, id⟩
  | .call (.publishSend id _ _) | .call (.publishCancel id) => some ⟨.send, id⟩
  | .call (.reauthSend id _ _) | .call (.reauthCancel id) => some ⟨.reauth, id⟩
  | _ => none

/-- An operation in preparation was not sent and has no callback. -/
theorem LockReg.prep_of_mem (hl : LockReg s) {r : OpRef} (sent cb : Bool)
    (href : r ∈ s.unsentRefs) (hkey : (r, Prep.of sent cb) ∈ s.lockKeys) :
    sent = false ∧ cb = false := by
  rcases mem_unsentRefs.mp href with ⟨p, hp, hk⟩ | ⟨o, ho, hs, rfl⟩
  · have heq : (r, p) = (r, Prep.of sent cb) :=
      List.inj_on_of_nodup_map hl.distinct hk hkey rfl
    rw [Prod.mk.injEq] at heq
    rw [heq.2] at hp
    have hodd := hl.sane _ hkey
    cases sent with
    | true => exact absurd (Prep.of_done.mpr rfl) hp
    | false =>
      cases cb with
      | true => exact absurd rfl hodd
      | false => exact ⟨rfl, rfl⟩
  · exact absurd rfl (lockKeys_type hkey).2.2

/-- A handle that may be sent. -/
theorem exists_of_unsent {α : Type} {x : Option α} {sent : α → Bool} (h : unsentOp x sent = true) :
    ∃ y, x = some y ∧ sent y = false := by
  cases x with
  | none => cases h
  | some y => exact ⟨y, rfl, by simpa [unsentOp] using h⟩

/-- A handle that may be cancelled. -/
theorem exists_of_live {α : Type} {x : Option α} {sent cb : α → Bool}
    (h : liveOp x sent cb = true) : ∃ y, x = some y ∧ (sent y = true → cb y = true) := by
  cases x with
  | none => cases h
  | some y =>
    refine ⟨y, rfl, fun hs => ?_⟩
    simpa [liveOp, hs] using h

/-- A call in a step. -/
theorem call_step {api : Api} (hstep : sys.step env (.call api) = some sys') :
    sys.pending = [] ∧ api.legal sys.client = true ∧ sys' = ⟨(sys.client.call env api).1,
      (sys.client.call env api).2⟩ := by
  unfold Sys.step at hstep
  dsimp only at hstep
  split at hstep
  · rename_i h
    obtain ⟨hp, hlegal⟩ := Bool.and_eq_true_iff.mp h
    cases hstep
    exact ⟨List.isEmpty_iff.mp hp, hlegal, rfl⟩
  · cases hstep

/-- A task in a step. -/
theorem run_step (hstep : sys.step env .run = some sys') :
    ∃ task rest, sys.pending = task :: rest ∧
      sys' = ⟨(sys.client.runTask env task).1, (sys.client.runTask env task).2 ++ rest⟩ := by
  unfold Sys.step at hstep
  dsimp only at hstep
  split at hstep
  · cases hstep
  · rename_i task rest hpending
    cases hstep
    exact ⟨task, rest, hpending, rfl⟩

section

variable {api : Api} (hw : SysWf sys) (hlegal : api.legal sys.client = true)

include hw hlegal

variable (env) in
/-- `send` and `cancel` of an operation in preparation. -/
theorem call_released {ref : OpRef} (hl : (Label.call api).ends = some ref)
    (href : ref ∈ sys.client.unsentRefs) : Released ref sys.client (sys.client.call env api).1 := by
  cases api
  all_goals first
    | cases hl
      done
    | skip
  -- `send` and `cancel` take the operation out of its preparation
  case connectSend id cb elapsed =>
    cases hl
    obtain ⟨op, hop, hsent⟩ := exists_of_unsent hlegal
    have h := connectSend_released env hw.lock hw.reg hop hsent cb
    simpa [Client.call, callConnect, sendHandle, hop] using h
  case connectCancel id =>
    cases hl
    obtain ⟨op, hop, -⟩ := exists_of_live hlegal
    obtain ⟨hmem, rfl⟩ := Keyed.mem_of_find hop
    obtain ⟨hsent, hcb⟩ := hw.lock.prep_of_mem op.sent op.cb href
      (mem_lockKeys.mpr (Or.inl ⟨op, hmem, rfl⟩))
    have h := connectCancel_released hw.lock hop hsent hcb
    simpa [Client.call, callConnect, cancelHandle, onHandle, returning, hop] using h
  case disconnectSend id elapsed =>
    cases hl
    obtain ⟨op, hop, hsent⟩ := exists_of_unsent hlegal
    have h := disconnectSend_released hw.lock.distinct hop hsent
    simpa [Client.call, callConnect, sendHandle, hop] using h
  case disconnectCancel id =>
    cases hl
    obtain ⟨op, hop, hsent⟩ := exists_of_unsent hlegal
    have h := disconnectCancel_released hw.lock hop hsent
    simpa [Client.call, callConnect, cancelHandle, onHandle, returning, hop] using h
  case subscribeSend id cb elapsed =>
    cases hl
    obtain ⟨op, hop, hsent⟩ := exists_of_unsent hlegal
    have h := subscribeSend_released env hw.lock.distinct hop hsent cb
    simpa [Client.call, callSubscribe, sendHandle, hop] using h
  case subscribeCancel id =>
    cases hl
    obtain ⟨op, hop, -⟩ := exists_of_live hlegal
    obtain ⟨hmem, rfl⟩ := Keyed.mem_of_find hop
    obtain ⟨hsent, hcb⟩ := hw.lock.prep_of_mem op.sent op.cb href
      (mem_lockKeys.mpr (Or.inr (Or.inr (Or.inl ⟨op, hmem, rfl⟩))))
    have h := subscribeCancel_released hw.lock hop hsent hcb
    simpa [Client.call, callSubscribe, cancelHandle, onHandle, returning, hop] using h
  case unsubscribeSend id cb elapsed =>
    cases hl
    obtain ⟨op, hop, hsent⟩ := exists_of_unsent hlegal
    have h := unsubscribeSend_released env hw.lock.distinct hop hsent cb
    simpa [Client.call, callSubscribe, sendHandle, hop] using h
  case unsubscribeCancel id =>
    cases hl
    obtain ⟨op, hop, -⟩ := exists_of_live hlegal
    obtain ⟨hmem, rfl⟩ := Keyed.mem_of_find hop
    obtain ⟨hsent, hcb⟩ := hw.lock.prep_of_mem op.sent op.cb href
      (mem_lockKeys.mpr (Or.inr (Or.inr (Or.inr (Or.inl ⟨op, hmem, rfl⟩)))))
    have h := unsubscribeCancel_released hw.lock hop hsent hcb
    simpa [Client.call, callSubscribe, cancelHandle, onHandle, returning, hop] using h
  case publishSend id cb elapsed =>
    cases hl
    obtain ⟨op, hop, hsent⟩ := exists_of_unsent hlegal
    obtain ⟨hmem, rfl⟩ := mem_of_sendOp? hop
    have h := publishSend_released env hw.reg hmem hsent cb
    simpa [Client.call, callPublish, sendHandle, hop] using h
  case publishCancel id =>
    cases hl
    obtain ⟨op, hop⟩ := Option.isSome_iff_exists.mp hlegal
    obtain ⟨hmem, rfl⟩ := mem_of_sendOp? hop
    have hsent : op.sent = false := by
      rcases mem_unsentRefs.mp href with ⟨p, hp, hk⟩ | ⟨o, ho, hs, heq⟩
      · exact absurd rfl (lockKeys_type hk).2.2
      · rw [OpRef.mk.injEq] at heq
        rw [hw.reg.distinct.eq hmem ho heq.2, hs]
    -- only a publish that was sent may have a callback
    have hcb : op.cb = false := by
      cases hcb : op.cb with
      | false => rfl
      | true => rw [(hw.reg.wf op hmem).cb hcb] at hsent; cases hsent
    have h := publishCancel_released env hw.reg hmem hsent hcb
    simpa [Client.call, callPublish, cancelHandle, onHandle, returning, hop] using h
  case reauthSend id cb elapsed =>
    cases hl
    obtain ⟨op, hop, hsent⟩ := exists_of_unsent hlegal
    have h := reauthSend_released env hw.lock.distinct hop hsent cb
    simpa [Client.call, callConnect, sendHandle, hop] using h
  case reauthCancel id =>
    cases hl
    obtain ⟨op, hop, -⟩ := exists_of_live hlegal
    obtain ⟨hmem, rfl⟩ := Keyed.mem_of_find hop
    obtain ⟨hsent, hcb⟩ := hw.lock.prep_of_mem op.sent op.cb href
      (mem_lockKeys.mpr (Or.inr (Or.inr (Or.inr (Or.inr ⟨op, hmem, rfl⟩)))))
    have h := reauthCancel_released hw.lock hop hsent hcb
    simpa [Client.call, callConnect, cancelHandle, onHandle, returning, hop] using h

/-- The calls that take or release the lock. -/
theorem call_lock (hk : api.keepsLock = false) :
    LockStep (fun op => Label.call api = .call (.publishCancel op.id)) sys.client
      (sys.client.call env api).1 := by
  have hrel : ∀ {ref}, (Label.call api).ends = some ref → ref ∈ sys.client.unsentRefs →
      LockStep (fun op => Label.call api = .call (.publishCancel op.id)) sys.client
        (sys.client.call env api).1 := fun hl href =>
    .release _ (call_released env hw hlegal hl href)
  have hprep : ∀ {k : OpRef} {sent cb : Bool}, (k, Prep.of sent cb) ∈ sys.client.lockKeys →
      sent = false → k ∈ sys.client.unsentRefs := fun hkey hs =>
    mem_unsentRefs.mpr (Or.inl ⟨_, prep_ne hs, hkey⟩)
  cases api
  all_goals first
    | cases hk
      done
    | skip
  -- sending releases the lock; cancelling does when nothing was sent
  case connectSend id cb elapsed =>
    obtain ⟨op, hop, hsent⟩ := exists_of_unsent hlegal
    obtain ⟨hmem, rfl⟩ := Keyed.mem_of_find hop
    exact hrel rfl (hprep (mem_lockKeys.mpr (Or.inl ⟨op, hmem, rfl⟩)) hsent)
  case connectCancel id =>
    obtain ⟨op, hop, hcb⟩ := exists_of_live hlegal
    obtain ⟨hmem, rfl⟩ := Keyed.mem_of_find hop
    cases hsent : op.sent with
    | false => exact hrel rfl (hprep (mem_lockKeys.mpr (Or.inl ⟨op, hmem, rfl⟩)) hsent)
    | true =>
      have hf := connectCancel_frame (a := true) (b := .begins) (s := sys.client) hmem
      rw [hcb hsent] at hf
      have h : LockStep (fun o => Label.call (.connectCancel op.id) = .call (.publishCancel o.id)) sys.client
          (sys.client.connectCancel op) := .of_frame hw.reg hf
      simpa [Client.call, callConnect, cancelHandle, onHandle, returning, hop] using h
  case disconnectSend id elapsed =>
    obtain ⟨op, hop, hsent⟩ := exists_of_unsent hlegal
    obtain ⟨hmem, rfl⟩ := Keyed.mem_of_find hop
    exact hrel rfl (hprep (mem_lockKeys.mpr (Or.inr (Or.inl ⟨op, hmem, rfl⟩))) hsent)
  case disconnectCancel id =>
    obtain ⟨op, hop, hsent⟩ := exists_of_unsent hlegal
    obtain ⟨hmem, rfl⟩ := Keyed.mem_of_find hop
    exact hrel rfl (hprep (mem_lockKeys.mpr (Or.inr (Or.inl ⟨op, hmem, rfl⟩))) hsent)
  case subscribeSend id cb elapsed =>
    obtain ⟨op, hop, hsent⟩ := exists_of_unsent hlegal
    obtain ⟨hmem, rfl⟩ := Keyed.mem_of_find hop
    exact hrel rfl (hprep (mem_lockKeys.mpr (Or.inr (Or.inr (Or.inl ⟨op, hmem, rfl⟩)))) hsent)
  case subscribeCancel id =>
    obtain ⟨op, hop, hcb⟩ := exists_of_live hlegal
    obtain ⟨hmem, rfl⟩ := Keyed.mem_of_find hop
    cases hsent : op.sent with
    | false => exact hrel rfl (hprep (mem_lockKeys.mpr (Or.inr (Or.inr (Or.inl ⟨op, hmem, rfl⟩)))) hsent)
    | true =>
      have hf := subscribeCancel_frame (a := true) (b := .begins) (s := sys.client) hmem
      rw [hcb hsent] at hf
      have h : LockStep (fun o => Label.call (.subscribeCancel op.id) = .call (.publishCancel o.id)) sys.client
          (sys.client.subscribeCancel op) := .of_frame hw.reg hf
      simpa [Client.call, callSubscribe, cancelHandle, onHandle, returning, hop] using h
  case unsubscribeSend id cb elapsed =>
    obtain ⟨op, hop, hsent⟩ := exists_of_unsent hlegal
    obtain ⟨hmem, rfl⟩ := Keyed.mem_of_find hop
    exact hrel rfl (hprep (mem_lockKeys.mpr (Or.inr (Or.inr (Or.inr (Or.inl ⟨op, hmem, rfl⟩))))) hsent)
  case unsubscribeCancel id =>
    obtain ⟨op, hop, hcb⟩ := exists_of_live hlegal
    obtain ⟨hmem, rfl⟩ := Keyed.mem_of_find hop
    cases hsent : op.sent with
    | false => exact hrel rfl (hprep (mem_lockKeys.mpr (Or.inr (Or.inr (Or.inr (Or.inl ⟨op, hmem, rfl⟩))))) hsent)
    | true =>
      have hf := unsubscribeCancel_frame (a := true) (b := .begins) (s := sys.client) hmem
      rw [hcb hsent] at hf
      have h : LockStep (fun o => Label.call (.unsubscribeCancel op.id) = .call (.publishCancel o.id)) sys.client
          (sys.client.unsubscribeCancel op) := .of_frame hw.reg hf
      simpa [Client.call, callSubscribe, cancelHandle, onHandle, returning, hop] using h
  case reauthSend id cb elapsed =>
    obtain ⟨op, hop, hsent⟩ := exists_of_unsent hlegal
    obtain ⟨hmem, rfl⟩ := Keyed.mem_of_find hop
    exact hrel rfl (hprep (mem_lockKeys.mpr (Or.inr (Or.inr (Or.inr (Or.inr ⟨op, hmem, rfl⟩))))) hsent)
  case reauthCancel id =>
    obtain ⟨op, hop, hcb⟩ := exists_of_live hlegal
    obtain ⟨hmem, rfl⟩ := Keyed.mem_of_find hop
    cases hsent : op.sent with
    | false => exact hrel rfl (hprep (mem_lockKeys.mpr (Or.inr (Or.inr (Or.inr (Or.inr ⟨op, hmem, rfl⟩))))) hsent)
    | true =>
      have hf := reauthCancel_frame (a := true) (b := .begins) (s := sys.client) hmem
      rw [hcb hsent] at hf
      have h : LockStep (fun o => Label.call (.reauthCancel op.id) = .call (.publishCancel o.id)) sys.client
          (sys.client.reauthCancel op) := .of_frame hw.reg hf
      simpa [Client.call, callConnect, cancelHandle, onHandle, returning, hop] using h
  case publishSend id cb elapsed =>
    obtain ⟨op, hop, hsent⟩ := exists_of_unsent hlegal
    obtain ⟨hmem, rfl⟩ := mem_of_sendOp? hop
    exact hrel rfl (mem_unsentRefs_of_mem hmem hsent)
  case publishCancel id =>
    obtain ⟨op, hop⟩ := Option.isSome_iff_exists.mp hlegal
    obtain ⟨hmem, rfl⟩ := mem_of_sendOp? hop
    cases hsent : op.sent with
    | false => exact hrel rfl (mem_unsentRefs_of_mem hmem hsent)
    | true =>
      have h : LockStep (fun o => Label.call (.publishCancel op.id) = .call (.publishCancel o.id)) sys.client
          (sys.client.sendOpCancel env op) := publishCancel_lock hw.reg hmem hsent rfl
      simpa [Client.call, callPublish, cancelHandle, onHandle, returning, hop] using h
  -- the `…Prepare` functions take it
  case disconnectPrepare =>
    exact prepareWith_lock hw.reg "disconnect" (by simp) (by simp) createDisconnectOp_created
  case subscribePrepare =>
    exact prepareWith_lock hw.reg "subscribe" (by simp) (by simp) createSubscribeOp_created
  case unsubscribePrepare =>
    exact prepareWith_lock hw.reg "unsubscribe" (by simp) (by simp) createUnsubscribeOp_created
  case reauthPrepare =>
    exact prepareWith_lock hw.reg "reauth" (by simp) (by simp) createReauthOp_created
  case publishPrepare => exact publishPrepare_lock hw.reg

end

/-- The only task that takes or releases the lock. -/
theorem connectPrepare_step (hk : sys.keepsLock .run = false)
    (hstep : sys.step env .run = some sys') :
    sys'.client = (sys.client.connectPrepare env).1 := by
  have hhead : sys.pending.head? = some .connectPrepare := by simpa [Sys.keepsLock] using hk
  obtain ⟨task, rest, hpending, rfl⟩ := run_step hstep
  rw [hpending] at hhead
  cases hhead
  rfl

/-- Every step is a step of the lock. -/
theorem step_lock (hw : SysWf sys) (hstep : sys.step env l = some sys') :
    LockStep (fun op => l = .call (.publishCancel op.id)) sys.client sys'.client := by
  cases hk : sys.keepsLock l with
  | true =>
    refine .of_run hw.reg (fun s hG => ?_) (fun s op hG => ?_)
      (step_effects (b := .begins) hw hstep (fun _ => hk) (.begins _))
    · unfold stepGuard at hG
      split at hG
      · exact hG
      · rw [hG.2] at hk
        cases hk
    · unfold stepGuard at hG
      split at hG
      · exact hG
      · obtain ⟨cb, elapsed, rfl⟩ := hG
        cases hk
  | false =>
    cases l with
    | call api =>
      obtain ⟨-, hlegal, rfl⟩ := call_step hstep
      exact call_lock hw hlegal hk
    | run =>
      rw [connectPrepare_step hk hstep]
      exact prepareWith_lock hw.reg "connect" (by simp)
        (fun _ => ⟨"Another connect operation is in progress.", .busy, by simp⟩)
        createConnectOp_created

/-! ## A pending `send` -/

/-- A publish whose `send` call is on its way makes no progress meanwhile. -/
theorem Change.on_way {x : SendOp} (h : Change env G s op x) (hfirst : ∀ s op, ¬G.first s op)
    (hstart : ∀ s op, ¬G.start s op) (hsent : op.sent = true) (hfresh : op.fresh = true) :
    x.sent = true ∧ x.fresh = true := by
  have hpaused : op.paused = false := by
    unfold SendOp.fresh at hfresh
    simp only [Bool.and_eq_true, Bool.not_eq_true'] at hfresh
    exact hfresh.2
  cases h with
  | config x c hG hsent' hsame =>
    rw [hsent] at hsent'
    cases hsent'
  | start cb pid hG hsent' => exact absurd hG (hstart s op)
  | pause hG hsent' hpub hcan => exact absurd hG (hstart s op)
  | transmit hwhy hqos hfits =>
    rcases hwhy with ⟨hp, -, -⟩ | ⟨-, -, -, hG⟩
    · rw [hpaused] at hp
      cases hp
    · exact absurd hG (hfirst s op)
  | _ => exact ⟨hsent, hfresh⟩

omit [b.Wide] in
theorem MicroRun.on_way {id : OpId} (h : MicroRun env G a b s t) (hcreate : ∀ s, ¬G.create s)
    (hfirst : ∀ s op, ¬G.first s op) (hstart : ∀ s op, ¬G.start s op)
    (hs : ∀ op ∈ s.sendOps, op.id = id → op.sent = true ∧ op.fresh = true) :
    ∀ op ∈ t.sendOps, op.id = id → op.sent = true ∧ op.fresh = true := by
  induction h with
  | refl => exact hs
  | tail _ h ih =>
    intro o ho hid
    cases h.queue with
    | same h => exact ih o (h ▸ ho) hid
    | change op x hop hc h =>
      rw [h] at ho
      rcases (Keyed.mem_set (List.mem_map.mpr ⟨op, hop, hc.id.symm⟩)).mp ho with rfl | ⟨ho, -⟩
      · obtain ⟨hsent, hfresh⟩ := ih op hop (hc.id ▸ hid)
        exact hc.on_way hfirst hstart hsent hfresh
      · exact ih o ho hid
    | leave op hop hG h =>
      rw [h] at ho
      exact ih o (Keyed.mem_of_mem_erase ho) hid
    | create timer hc h => exact absurd hc (hcreate _)

/-- The only task that leaves one that carries on with an operation. -/
theorem runTask_member {task t : Task} {ref : OpRef} (h : t ∈ (s.runTask env task).2)
    (ht : t.member = some ref) : ∃ op, task = .publishDoSend op ∧ t = .publishAbandon op := by
  have hnone : ∀ {l : List Task}, t ∈ l → (∀ x ∈ l, x.member = none) → False := by
    intro l hmem hl
    rw [hl t hmem] at ht
    cases ht
  cases task with
  | enter elapsed =>
    have hentry := runTask_entry env (show Task.isEntry (.enter elapsed) = true from rfl) t h
    cases t <;> first | (cases ht; done) | cases hentry
  | exit | timeout cb | networkDown | startTimer ref timer ms | disconnectSend op | publishAbandon op
      | ret ec => cases h
  | input frames =>
    have h : t ∈ (s.processInput frames).2 := h
    unfold processInput at h
    dsimp only at h
    split at h
    · cases h
    · exact (hnone h (by simp [Task.member])).elim
  | frames frames =>
    cases frames with
    | nil => cases h
    | cons frame frames =>
      have h : t ∈ (if (s.processFrame env frame).2 then [Task.frames frames] else []) := h
      split at h
      · exact (hnone h (by simp [Task.member])).elim
      · cases h
  | initInternal =>
    have h : t ∈ (if (s.initInternal env).2 = .success then [Task.exit, Task.connectPrepare]
        else [Task.exit, Task.ret (s.initInternal env).2]) := h
    split at h
    · exact (hnone h (by simp [Task.member])).elim
    · exact (hnone h (by simp [Task.member])).elim
  | connectPrepare => exact (hnone (l := [_]) h (by simp [Task.member])).elim
  | publishDoSend op =>
    have h : t ∈ (s.publishDoSend env op).2 := h
    rcases publishDoSend_tasks env op s with heq | ⟨ec, heq⟩ <;> rw [heq] at h
    · exact (hnone h (by simp [Task.member])).elim
    · simp only [List.mem_cons, List.not_mem_nil, or_false] at h
      rcases h with rfl | rfl | rfl
      · cases ht
      · exact ⟨op, rfl, rfl⟩
      · cases ht

theorem SysWf.sendable_lt (hw : SysWf sys) {ref : OpRef} (h : sys.client.Sendable ref) :
    ref.id < sys.client.nextOpId := by
  obtain ⟨type, id⟩ := ref
  have hkey : ∀ p, (⟨type, id⟩, p) ∈ sys.client.lockKeys → id < sys.client.nextOpId :=
    fun p hp => hw.lock.lt _ hp
  have hlive : id ∈ sys.client.ids type := h.live
  cases type with
  | keepAlive => exact absurd rfl h.keepAlive
  | recv => exact absurd rfl h.recv
  | send =>
    obtain ⟨op, hop, rfl⟩ := List.mem_map.mp hlive
    exact hw.reg.lt op hop
  | connect =>
    obtain ⟨op, hop, rfl⟩ := List.mem_map.mp hlive
    exact hkey _ (mem_lockKeys.mpr (Or.inl ⟨op, hop, rfl⟩))
  | disconnect =>
    obtain ⟨op, hop, rfl⟩ := List.mem_map.mp hlive
    exact hkey _ (mem_lockKeys.mpr (Or.inr (Or.inl ⟨op, hop, rfl⟩)))
  | subscribe =>
    obtain ⟨op, hop, rfl⟩ := List.mem_map.mp hlive
    exact hkey _ (mem_lockKeys.mpr (Or.inr (Or.inr (Or.inl ⟨op, hop, rfl⟩))))
  | unsubscribe =>
    obtain ⟨op, hop, rfl⟩ := List.mem_map.mp hlive
    exact hkey _ (mem_lockKeys.mpr (Or.inr (Or.inr (Or.inr (Or.inl ⟨op, hop, rfl⟩)))))
  | reauth =>
    obtain ⟨op, hop, rfl⟩ := List.mem_map.mp hlive
    exact hkey _ (mem_lockKeys.mpr (Or.inr (Or.inr (Or.inr (Or.inr ⟨op, hop, rfl⟩)))))

/-- Only a `send` call leaves a task that carries on with an operation, which is there before the call. -/
theorem call_member {api : Api} {task : Task} {ref : OpRef} (h : task ∈ (s.call env api).2)
    (href : task.member = some ref) :
    s.Sendable ref ∧ (∀ op, task = .publishDoSend op → LeavesSend env s api op) ∧
      ∀ op, task ≠ .publishAbandon op := by
  have hleaves := call_leaves h
  clear h
  cases hleaves with
  | startTimer hlive =>
    cases href
    exact ⟨hlive, fun op h => Task.noConfusion h, fun op h => Task.noConfusion h⟩
  | disconnectSend hop =>
    cases href
    exact ⟨⟨List.mem_map_of_mem hop, nofun, nofun⟩, fun op h => Task.noConfusion h,
      fun op h => Task.noConfusion h⟩
  | publishDoSend hlive hleaves =>
    cases href
    refine ⟨⟨hlive, nofun, nofun⟩, fun x hx => ?_, fun op h => Task.noConfusion h⟩
    cases hx
    exact hleaves
  | _ => cases href

/-- A `send` call that is to transmit leaves the publish without progress. -/
theorem LeavesSend.fresh {api : Api} (h : LeavesSend env s api op) (hr : Reg s)
    (hlegal : api.legal s = true) (hr' : Reg (s.call env api).1) :
    (∃ elapsed, (s.call env api).2 = [.enter elapsed, .publishDoSend op]) ∧
      op.published = false ∧ ∀ x ∈ (s.call env api).1.sendOps, x.id = op.id →
        x.sent = true ∧ x.fresh = true := by
  obtain ⟨cb, elapsed, x, rfl, hmem, hx, hcan, rfl, hcall⟩ := h.call
  have hsent : x.sent = false := unsent_of_legal hlegal hx
  obtain ⟨y, hy, hyid, hysent, -, hfresh, -⟩ := sendOpSend_ready hr hmem hsent hcan
  rw [hcall] at hr' ⊢
  have hfind : (s.sendOpSend env x cb).1.sendOp? x.id = some y := by
    rw [← hyid]
    exact sendOp?_eq hr'.distinct hy
  refine ⟨⟨elapsed, rfl⟩, ?_, fun o ho hid => ?_⟩
  · rw [hfind]
    unfold SendOp.fresh at hfresh
    simp only [Bool.and_eq_true, Bool.not_eq_true'] at hfresh
    exact hfresh.1
  · rw [hfind] at hid
    rw [hr'.distinct.eq ho hy hid]
    exact ⟨hysent, hfresh⟩

/-- A transmission that is pending stays in its place, and its publish makes no progress. -/
theorem step_pendSend {task : Task} {rest : List Task} {x : SendOp} (hp : Pend sys)
    (hpending : sys.pending = task :: rest) (hx : .publishDoSend x ∈ rest)
    (hrun : MicroRun env ((stepGuard env sys .run).woken env) false .begins sys.client t) :
    (∃ ts, (sys.client.runTask env task).2 ++ rest = ts ++ [.publishDoSend x] ∧
        ∀ t ∈ ts, t.isEntry = true) ∧
      x.published = false ∧ ∀ op ∈ t.sendOps, op.id = x.id → op.sent = true ∧ op.fresh = true := by
  obtain ⟨⟨ts, hts, hentry⟩, hpub, hway⟩ :=
    hp.send x (hpending ▸ List.mem_cons_of_mem _ hx)
  cases ts with
  | nil =>
    -- the transmission itself leaves nothing to be transmitted
    rw [hpending, List.nil_append] at hts
    rw [(List.cons.inj hts).2] at hx
    cases hx
  | cons t ts =>
    rw [hpending, List.cons_append] at hts
    obtain ⟨rfl, rfl⟩ := List.cons.inj hts
    have htask : task.isEntry = true := hentry task List.mem_cons_self
    refine ⟨⟨(sys.client.runTask env task).2 ++ ts, by simp, fun t ht => ?_⟩, hpub, ?_⟩
    · rcases List.mem_append.mp ht with ht | ht
      · exact runTask_entry env htask t ht
      · exact hentry t (List.mem_cons_of_mem _ ht)
    · have hin : sys.inMsg .run = none := by
        unfold Sys.inMsg
        rw [hpending]
        cases task <;> first | rfl | cases htask
      have hguard : stepGuard env sys .run = labelGuard env sys .run := by
        unfold stepGuard Sys.isConnack
        rw [hin]
        rfl
      rw [hguard] at hrun
      refine MicroRun.on_way hrun ?_ ?_ ?_ hway
      · rintro s ⟨-, hl⟩
        cases hl
      · rintro s op ⟨-, -, y, -, hhead⟩
        rw [hpending] at hhead
        cases Option.some.inj hhead
        cases htask
      · rintro s op ⟨cb, elapsed, hl⟩
        cases hl

/-- Every step keeps the tasks behind an API guard in their place. -/
theorem step_pend (hw : SysWf sys) (hstep : sys.step env l = some sys') : Pend sys' := by
  have hrun := (step_effects (a := false) (b := .begins) hw hstep (by simp) (.begins _)).run hw.reg
  have hr' := hrun.reg hw.reg
  cases l with
  | call api =>
    obtain ⟨-, hlegal, rfl⟩ := call_step hstep
    refine ⟨fun op hop => ?_, fun op hop => ?_, fun task htask ref href => ?_⟩
    · obtain ⟨-, hsend, -⟩ := call_member hop rfl
      obtain ⟨⟨elapsed, htasks⟩, hfresh⟩ := (hsend op rfl).fresh hw.reg hlegal hr'
      exact ⟨⟨[.enter elapsed], htasks, by simp [Task.isEntry]⟩, hfresh⟩
    · exact absurd rfl ((call_member hop rfl).2.2 op)
    · have hold := hw.sendable_lt (call_member htask href).1
      exact Nat.lt_of_lt_of_le hold hrun.nextOpId
  | run =>
    obtain ⟨task, rest, hpending, rfl⟩ := run_step hstep
    have hrest : ∀ {t : Task}, t ∈ (sys.client.runTask env task).2 ++ rest → ∀ {ref : OpRef},
        t.member = some ref → (∀ op, t ≠ .publishAbandon op) → t ∈ rest := by
      intro t ht ref href hne
      refine (List.mem_append.mp ht).resolve_left fun hnew => ?_
      obtain ⟨op, -, heq⟩ := runTask_member hnew href
      exact hne op heq
    refine ⟨fun op hop => ?_, fun op hop => ?_, fun t ht ref href => ?_⟩
    · exact step_pendSend hw.pend hpending (hrest hop rfl fun op heq => by cases heq) hrun
    · rcases List.mem_append.mp hop with hnew | hold
      · obtain ⟨x, rfl, heq⟩ := runTask_member hnew rfl
        cases heq
        exact (hw.pend.send op (by rw [hpending]; exact List.mem_cons_self)).2.1
      · exact hw.pend.abandon op (hpending ▸ List.mem_cons_of_mem _ hold)
    · refine Nat.lt_of_lt_of_le ?_ hrun.nextOpId
      rcases List.mem_append.mp ht with hnew | hold
      · obtain ⟨x, rfl, rfl⟩ := runTask_member hnew href
        exact hw.pend.old (.publishDoSend x) (by rw [hpending]; exact List.mem_cons_self) ref href
      · exact hw.pend.old t (hpending ▸ List.mem_cons_of_mem _ hold) ref href

/-! ## Every run -/

theorem step_wf (hw : SysWf sys) (hstep : sys.step env l = some sys') : SysWf sys' where
  reg := (step_effects (a := false) (b := .begins) hw hstep (by simp) (.begins _)).reg hw.reg
  lock := (step_lock hw hstep).lockReg hw.lock
  pend := step_pend hw hstep
  pending := step_pending hw.pending hstep

theorem init_wf (h : Sys.Init sys) : SysWf sys := by
  obtain ⟨cbs, config, rfl⟩ := h
  refine ⟨⟨List.Pairwise.nil, ?_, rfl, ?_, Nat.le_refl _, ?_⟩,
    ⟨List.nodup_nil, ?_, ?_, Nat.zero_le _, ?_⟩, ⟨?_, ?_, ?_⟩,
    ⟨.rest .done, fun h => absurd h List.not_mem_nil⟩⟩
  all_goals intro x hx
  all_goals cases hx

/-- The registries are as they should be in every reachable state. -/
theorem reach_wf {ok : Sys → Label → Prop} (h : (machine env).Reach ok sys) : SysWf sys := by
  have hinit : ∀ sys, (machine env).init sys → SysWf sys := fun _ => init_wf
  exact h.invariant hinit fun _ _ _ _ hw _ hstep => step_wf hw hstep

end Mqtt5
