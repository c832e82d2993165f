import Mqtt5Client.Invariants

/-!
# Mqtt5Client — the updates of a step that create operations

A step creates at most one operation (`Creates`): a `…Prepare` function creates the operation it
prepares, a PUBLISH its reception and an accepted CONNACK the keep alive. What a step does before and
after it is a sequence of updates that create nothing.
-/

namespace Mqtt5

open Client

variable {env : Env} {a : Bool} {b : Scope} {s t u : Client} {sys sys' : Sys} {l : Label}

/-! ## Updates that create nothing -/

def Act.creates : Act → Bool
  | .create _ => true
  | _ => false

/-- Any number of updates that create nothing. -/
abbrev Uncreated : Client → Client → Prop :=
  Relation.ReflTransGen fun s t => ∃ act : Act, act.creates = false ∧ Prim act s t

/-- One update. -/
theorem Uncreated.of {act : Act} (h : Prim act s t) (ha : act.creates = false) : Uncreated s t :=
  .single ⟨act, ha, h⟩

/-- What every update but a creation keeps, a sequence of them keeps. -/
theorem Uncreated.invariant {inv : Client → Prop}
    (hstep : ∀ {act s t}, Prim act s t → act.creates = false → inv s → inv t)
    (h : Uncreated s t) (hs : inv s) : inv t := by
  induction h with
  | refl => exact hs
  | tail _ h ih =>
    obtain ⟨act, ha, hp⟩ := h
    exact hstep hp ha ih

/-- A sequence of updates that admits no creation. -/
theorem Acts.uncreated (hb : b.admits (.create .recv) = false ∧ b.admits (.create .keepAlive) = false)
    (h : Acts true b s t) : Uncreated s t := by
  have hnot : ∀ act : Act, act.allowed true b = true → act.creates = false := by
    intro act hact
    cases act with
    | create type => cases type <;> simp [Act.allowed, Act.locks, Act.notable, hb] at hact
    | _ => rfl
  exact Relation.ReflTransGen.mono (fun _ _ ⟨act, hact, hp⟩ => ⟨act, hnot act hact, hp⟩) _ _ h

/-- The lock is released. -/
theorem Uncreated.cancelLock (cb : Bool) : Uncreated s (s.cancelLock cb) := by
  unfold Client.cancelLock
  split
  · exact .refl
  · exact .of .unlock rfl

section Send

variable {id : OpId}

variable (env)

/-- `send` creates nothing: it works on the operation that was prepared. -/
theorem connectSend_uncreated (hr : Reg s) {op : ConnectOp} (hop : s.connectOp? id = some op)
    (href : some ⟨.connect, id⟩ ∈ s.ops) (cb : Bool) : Uncreated s (s.connectSend env op cb).1 := by
  have hmem := (Keyed.mem_of_find hop).1
  have hlists := Prim.sameOps (.unlock (s := s)) rfl
  rcases connectSend_cases env hop href cb with ⟨msg, heq⟩ | ⟨htimer, hrun⟩
  · rw [heq]
    exact (Uncreated.of .unlock rfl).trans
      ((((Frame.refl true .rests s.allowNextPrepare).errorLog msg).opCompleteConnect
        ((SameOps.cancelLock false s).live (.connect hmem))).acts.uncreated ⟨rfl, rfl⟩)
  · have hmark : Uncreated s (s.allowNextPrepare.setConnectOp { op with sent := true, cb := true }) :=
      (Uncreated.of .unlock rfl).tail ⟨_, rfl, .markConnect op (hlists.connectOps ▸ hmem) htimer⟩
    have hrun : MacroRun env .none true .rests _ _ := hrun
    exact hmark.trans ((MacroRun.acts hrun ((markConnectOp_frame (b := .rests) hmem htimer).reg hr)
      fun _ _ _ h => h).uncreated ⟨rfl, rfl⟩)

theorem reauthSend_uncreated {op : ReauthOp} (hop : s.reauthOp? id = some op) (cb : Bool) :
    Uncreated s (s.reauthSend env op cb).1 := by
  have hmem := (Keyed.mem_of_find hop).1
  have hlists := Prim.sameOps (.unlock (s := s)) rfl
  have hmark : Uncreated s (s.allowNextPrepare.setReauthOp { op with sent := true }) :=
    (Uncreated.of .unlock rfl).tail ⟨_, rfl, .markReauth op (hlists.reauthOps ▸ hmem)⟩
  exact hmark.trans
    ((reauthSend_frame env (a := true) (b := .rests) hop cb).acts.uncreated ⟨rfl, rfl⟩)

theorem subscribeSend_uncreated {op : SubscribeOp} (hop : s.subscribeOp? id = some op) (cb : Bool) :
    Uncreated s (s.subscribeSend env op cb).1 := by
  have hlists := Prim.sameOps (.unlock (s := s)) rfl
  obtain ⟨t, u, rfl, hstored, hu, hf⟩ := subscribeSend_cases env hop cb
  have hmark : Uncreated s (s.allowNextPrepare.setSubscribeOp { op with sent := true }) :=
    (Uncreated.of .unlock rfl).tail
      ⟨_, rfl, .markSubscribe op (hlists.subscribeOps ▸ (Keyed.mem_of_find hop).1)⟩
  refine Relation.ReflTransGen.trans ?_ ((hf true .rests).acts.uncreated ⟨rfl, rfl⟩)
  rcases hu with ⟨rfl, -⟩ | ⟨rfl, -⟩
  · exact hmark
  · exact hmark.tail ⟨_, rfl, .takeSubscribe env _ (Keyed.mem_of_find hstored).1⟩

theorem unsubscribeSend_uncreated {op : UnsubscribeOp} (hop : s.unsubscribeOp? id = some op)
    (cb : Bool) : Uncreated s (s.unsubscribeSend env op cb).1 := by
  have hlists := Prim.sameOps (.unlock (s := s)) rfl
  obtain ⟨t, u, rfl, hstored, hu, hf⟩ := unsubscribeSend_cases env hop cb
  have hmark : Uncreated s (s.allowNextPrepare.setUnsubscribeOp { op with sent := true }) :=
    (Uncreated.of .unlock rfl).tail
      ⟨_, rfl, .markUnsubscribe op (hlists.unsubscribeOps ▸ (Keyed.mem_of_find hop).1)⟩
  refine Relation.ReflTransGen.trans ?_ ((hf true .rests).acts.uncreated ⟨rfl, rfl⟩)
  rcases hu with ⟨rfl, -⟩ | ⟨rfl, -⟩
  · exact hmark
  · exact hmark.tail ⟨_, rfl, .takeUnsubscribe env _ (Keyed.mem_of_find hstored).1⟩

theorem sendOpSend_uncreated (hr : Reg s) {op : SendOp} (hop : op ∈ s.sendOps)
    (hsent : op.sent = false) (cb : Bool) : Uncreated s (s.sendOpSend env op cb).1 := by
  have hlists := Prim.sameOps (.unlock (s := s)) rfl
  have hrl : Reg s.allowNextPrepare := (Frame.refl false .rests s).allowNextPrepare.reg hr
  have hmark : Uncreated s ((s.allowNextPrepare.emit (.publishSend op.id op.qos)).modifySendOp op.id
      fun _ => { op with sent := true }) :=
    ((Uncreated.of .unlock rfl).tail ⟨_, rfl, .emit (.publishSend op.id op.qos) rfl⟩).tail
      ⟨_, rfl, .markSend op (hlists.sendOps ▸ hop)⟩
  rcases sendOpSend_cases hr hop env cb with ⟨text, ec, hres⟩ | ⟨pid, u, hu, hacts, hstore, hres⟩
  · obtain ⟨hmicro, hop'⟩ : Micro env Guard.any.plain true .rests _ _ ∧ _ :=
      sendMark_micro (G := .any) hr hop hsent (fun _ _ _ => trivial) text
    have hr' := hmicro.reg hrl
    have hrun : MacroRun env cancelGuard true .rests _ _ :=
      sendOpComplete_run hr' hop' trivial ((Frame.refl true .rests _).toSet hr' hop') rfl rfl rfl rfl
    rw [hres]
    refine (hmark.tail ⟨_, rfl, .emit (.errorLog text) rfl⟩).trans ?_
    exact (MacroRun.acts hrun hr' fun _ _ _ h => h).uncreated ⟨rfl, rfl⟩
  · obtain ⟨hmicro, hmem⟩ : Micro env Guard.any.plain false .rests _ _ ∧ _ :=
      sendMark_micro (G := .any) hr hop hsent (fun _ _ _ => trivial) ""
    have hu' : Uncreated s u := by
      cases hstore with
      | plain hqos =>
        refine hmark.tail ⟨_, rfl, .setSend op.id _ fun x hx hid => ?_⟩
        obtain rfl := (hmicro.reg hrl).distinct.eq hx hmem hid
        exact ⟨rfl, rfl, rfl, rfl, fun _ => rfl, rfl⟩
      | taken hqos htimer htopic =>
        exact hmark.tail ⟨_, rfl, .takeSend env { op with sent := true } _ hmem
          ⟨rfl, rfl, rfl, rfl, fun _ => rfl, rfl⟩⟩
    rw [hres]
    split
    · rw [unpaused_assert hsent (hr.wf op hop)]
      exact hu'.tail ⟨_, rfl, .setSend op.id _ fun _ _ _ => ⟨rfl, rfl, rfl, rfl, fun _ => rfl, rfl⟩⟩
    · exact hu'

end Send

/-! ## Calls that create nothing -/

/-- The operation a call prepares. -/
def Api.prepares : Api → Option OpType
  | .disconnectPrepare => some .disconnect
  | .subscribePrepare => some .subscribe
  | .unsubscribePrepare => some .unsubscribe
  | .publishPrepare => some .send
  | .reauthPrepare => some .reauth
  | _ => none

/-- The other calls that take or release the preparation lock create nothing. -/
theorem call_uncreated {api : Api} (hw : SysWf sys) (hlegal : api.legal sys.client = true)
    (hk : api.keepsLock = false) (hprep : api.prepares = none) :
    Uncreated sys.client (sys.client.call env api).1 := by
  have hlists := Prim.sameOps (.unlock (s := sys.client)) rfl
  cases api
  all_goals first
    | (cases hk; done)
    | (cases hprep; done)
    | skip
  -- the calls left are `send` and `cancel`
  case connectSend id cb elapsed =>
    obtain ⟨op, hop, -⟩ := exists_of_unsent hlegal
    have hc : Uncreated _ _ := connectSend_uncreated env hw.reg hop (hw.connect_registered hop) cb
    simpa [Client.call, callConnect, sendHandle, hop] using hc
  case connectCancel id =>
    obtain ⟨op, hop, -⟩ := exists_of_live hlegal
    have hc : Uncreated sys.client (sys.client.connectCancel op) :=
      (Uncreated.cancelLock op.cb).tail ⟨_, rfl, .complete ⟨.connect, op.id⟩
        ((SameOps.cancelLock op.cb _).live (.connect (Keyed.mem_of_find hop).1))⟩
    simpa [Client.call, callConnect, cancelHandle, onHandle, returning, hop] using hc
  case disconnectSend id elapsed =>
    obtain ⟨op, hop, -⟩ := exists_of_unsent hlegal
    have hc : Uncreated sys.client
        (sys.client.allowNextPrepare.setDisconnectOp { op with sent := true }) :=
      (Uncreated.of .unlock rfl).tail
        ⟨_, rfl, .markDisconnect op (hlists.disconnectOps ▸ (Keyed.mem_of_find hop).1)⟩
    simpa [Client.call, callConnect, sendHandle, hop] using hc
  case disconnectCancel id =>
    obtain ⟨op, hop, -⟩ := exists_of_unsent hlegal
    have hc : Uncreated sys.client (sys.client.disconnectCancel op) :=
      (Uncreated.cancelLock false).tail ⟨_, rfl, .complete ⟨.disconnect, op.id⟩
        ((SameOps.cancelLock false _).live (.disconnect (Keyed.mem_of_find hop).1))⟩
    simpa [Client.call, callConnect, cancelHandle, onHandle, returning, hop] using hc
  case reauthSend id cb elapsed =>
    obtain ⟨op, hop, -⟩ := exists_of_unsent hlegal
    have hc : Uncreated _ _ := reauthSend_uncreated env hop cb
    simpa [Client.call, callConnect, sendHandle, hop] using hc
  case reauthCancel id =>
    obtain ⟨op, hop, -⟩ := exists_of_live hlegal
    have hc : Uncreated sys.client (sys.client.reauthCancel op) :=
      (Uncreated.cancelLock op.cb).tail ⟨_, rfl, .complete ⟨.reauth, op.id⟩
        ((SameOps.cancelLock op.cb _).live (.reauth (Keyed.mem_of_find hop).1))⟩
    simpa [Client.call, callConnect, cancelHandle, onHandle, returning, hop] using hc
  case subscribeSend id cb elapsed =>
    obtain ⟨op, hop, -⟩ := exists_of_unsent hlegal
    have hc : Uncreated _ _ := subscribeSend_uncreated env hop cb
    simpa [Client.call, callSubscribe, sendHandle, hop] using hc
  case subscribeCancel id =>
    obtain ⟨op, hop, -⟩ := exists_of_live hlegal
    have hc : Uncreated sys.client (sys.client.subscribeCancel op) :=
      (Uncreated.cancelLock op.cb).tail ⟨_, rfl, .complete ⟨.subscribe, op.id⟩
        ((SameOps.cancelLock op.cb _).live (.subscribe (Keyed.mem_of_find hop).1))⟩
    simpa [Client.call, callSubscribe, cancelHandle, onHandle, returning, hop] using hc
  case unsubscribeSend id cb elapsed =>
    obtain ⟨op, hop, -⟩ := exists_of_unsent hlegal
    have hc : Uncreated _ _ := unsubscribeSend_uncreated env hop cb
    simpa [Client.call, callSubscribe, sendHandle, hop] using hc
  case unsubscribeCancel id =>
    obtain ⟨op, hop, -⟩ := exists_of_live hlegal
    have hc : Uncreated sys.client (sys.client.unsubscribeCancel op) :=
      (Uncreated.cancelLock op.cb).tail ⟨_, rfl, .complete ⟨.unsubscribe, op.id⟩
        ((SameOps.cancelLock op.cb _).live (.unsubscribe (Keyed.mem_of_find hop).1))⟩
    simpa [Client.call, callSubscribe, cancelHandle, onHandle, returning, hop] using hc
  case publishSend id cb elapsed =>
    obtain ⟨op, hop, hsent⟩ := exists_of_unsent hlegal
    have hc : Uncreated _ _ :=
      sendOpSend_uncreated env hw.reg (mem_of_sendOp? hop).1 hsent cb
    simpa [Client.call, callPublish, sendHandle, hop] using hc
  case publishCancel id =>
    obtain ⟨op, hop⟩ := Option.isSome_iff_exists.mp hlegal
    have hrun : MacroRun env cancelGuard true .rests (sys.client.cancelLock op.cb) _ :=
      sendOpCancel_run hw.reg (mem_of_sendOp? hop).1 trivial
    have hr : Reg (sys.client.cancelLock op.cb) := (Frame.cancelLock (b := .rests) _).reg hw.reg
    have hc := (Uncreated.cancelLock op.cb).trans
      ((MacroRun.acts hrun hr fun _ _ _ h => h).uncreated ⟨rfl, rfl⟩)
    simpa [Client.call, callPublish, cancelHandle, onHandle, returning, hop] using hc

/-! ## The creation of a step -/

/-- The number of operations of a type that fit into its pool. -/
def Config.opLimit (cfg : Config) : OpType → Nat
  | .connect | .keepAlive | .disconnect | .reauth => cfg.singleOpLimit
  | .subscribe => cfg.subscribeOpsLimit
  | .unsubscribe => cfg.unsubscribeOpsLimit
  | .recv => cfg.recvOpsLimit
  | .send => cfg.sendOpsLimit

/-- The number of live operations of a type. -/
def Client.opCount (s : Client) : OpType → Nat
  | .connect => s.connectOps.length
  | .keepAlive => s.keepAliveOps.length
  | .disconnect => s.disconnectOps.length
  | .subscribe => s.subscribeOps.length
  | .unsubscribe => s.unsubscribeOps.length
  | .recv => s.recvOps.length
  | .send => s.sendOps.length
  | .reauth => s.reauthOps.length

/-- The pool of the type takes one more operation. -/
def Client.hasSlot (env : Env) (type : OpType) (s : Client) : Prop :=
  isFull (env.cfg.opLimit type) (s.opCount type) = false

/-- What a step creates. A prepared operation is created when `m_ops` has room for it. -/
inductive Creates (env : Env) (sys : Sys) (l : Label) (t : Client) : Prop
  | nothing (h : Uncreated sys.client t)
  | prepared (type : OpType) (u : Client) (hk : sys.keepsLock l = false)
      (hslot : sys.client.hasSlot env type)
      (hops : sys.client.opsFull env = false) (hu : Prim (.create type) sys.client u)
      (ht : Prim .lock u t)
  | begun (type : OpType) (u v : Client) (hrecv : sys.recv env l = .begins)
      (hu : Uncreated sys.client u) (hslot : u.hasSlot env type) (hv : Prim (.create type) u v)
      (ht : Uncreated v t)

/-- A `…Prepare` function creates its operation when no check fails. -/
theorem prepareWith_created {checks : List PrepareCheck} {create : Client → Client} (type : OpType)
    (hk : sys.keepsLock l = false)
    (hcreate : (∀ c ∈ checks, c.fails = false) → Prim (.create type) sys.client (create sys.client))
    (name : String)
    (hops : sys.client.opsFullCheck env name ∈ checks)
    (hslot : ∃ name, allocCheck name (env.cfg.opLimit type) (sys.client.opCount type) ∈ checks) :
    Creates env sys l (sys.client.prepareWith checks create).1 := by
  obtain ⟨name', hslot⟩ := hslot
  unfold prepareWith
  split
  · exact .nothing (.of (.emit (.errorLog _) rfl) rfl)
  · rename_i hnone
    have hpass : ∀ c ∈ checks, c.fails = false := fun c hc => by
      simpa using List.find?_eq_none.mp hnone c hc
    exact .prepared type _ hk (hpass _ hslot) (hpass _ hops) (hcreate hpass) .lock

/-- A publish is created in the same way, and one that is refused for the lock comes and goes. -/
theorem publishPrepare_created (hk : sys.keepsLock l = false) :
    Creates env sys l (sys.client.publishPrepare env).1 := by
  unfold publishPrepare
  dsimp only
  split
  · exact .nothing (.of (.emit (.errorLog _) rfl) rfl)
  · rename_i hnone
    split
    · exact .nothing ((Uncreated.of (.probe env) rfl).tail ⟨_, rfl, .emit (.errorLog _) rfl⟩)
    · have hslot := List.find?_eq_none.mp hnone
        (allocCheck "publish" env.cfg.sendOpsLimit sys.client.sendOps.length) (by simp)
      have hops := List.find?_eq_none.mp hnone (sys.client.opsFullCheck env "publish") (by simp)
      have hon : sys.client.Online := online_of_checks fun c hc =>
        Bool.eq_false_iff.mpr (List.find?_eq_none.mp hnone c (List.mem_append_left _ hc))
      exact .prepared .send _ hk (Bool.eq_false_iff.mpr hslot) (Bool.eq_false_iff.mpr hops)
        (.createSend env hon) .lock

/-- The calls that take the lock. -/
theorem call_created {api : Api} (hw : SysWf sys) (hlegal : api.legal sys.client = true)
    (hk : sys.keepsLock (.call api) = false) :
    Creates env sys (.call api) (sys.client.call env api).1 := by
  cases hprep : api.prepares with
  | none => exact .nothing (call_uncreated hw hlegal hk hprep)
  | some type =>
    cases api
    all_goals first
      | (cases hprep; done)
      | skip
    case disconnectPrepare =>
      refine prepareWith_created .disconnect hk (fun hpass => .createDisconnect ?_ ?_) "disconnect" (by simp)
        ⟨"disconnect", by simp [Config.opLimit, Client.opCount]⟩
      all_goals simp only [List.forall_mem_cons, Bool.not_eq_false'] at hpass
      · exact ⟨hpass.1, hpass.2.2.1, hpass.2.2.2.1⟩
      · exact List.isEmpty_iff.mp hpass.2.1
    case subscribePrepare =>
      exact prepareWith_created .subscribe hk (fun hpass => .createSubscribe env (online_of_checks
        fun c hc => hpass c (List.mem_append_left _ hc))) "subscribe" (by simp)
        ⟨"subscribe", by simp [Config.opLimit, Client.opCount]⟩
    case unsubscribePrepare =>
      exact prepareWith_created .unsubscribe hk (fun hpass => .createUnsubscribe env (online_of_checks
        fun c hc => hpass c (List.mem_append_left _ hc))) "subscribe" (by simp)
        ⟨"unsubscribe", by simp [Config.opLimit, Client.opCount]⟩
    case reauthPrepare =>
      exact prepareWith_created .reauth hk (fun hpass => .createReauth env
        (online_of_checks fun c hc =>
          hpass c (List.mem_append_left _ (List.mem_append_right _ hc)))
        (List.isEmpty_iff.mp (by simpa using hpass _ List.mem_cons_self))) "reauth" (by simp)
        ⟨"reauth", by simp [Config.opLimit, Client.opCount]⟩
    case publishPrepare => exact publishPrepare_created hk

/-- A PUBLISH creates its reception at once, if it begins one. -/
theorem publish_acts (hw : SysWf sys) (hstep : sys.step env l = some sys') {msg : RecvPublishMsg}
    (hin : sys.inMsg l = some (.publish msg)) :
    if beginsReception env msg sys.client then
      Acts true .goes sys.client sys.client.keepAliveMessageReceived ∧
        Acts true .goes (sys.client.keepAliveMessageReceived.registerRecvOp env) sys'.client
    else Acts true .goes sys.client sys'.client := by
  obtain ⟨rest, rfl, -, hclient⟩ := inMsg_step hstep hin
  have hstart : true = true → ∀ s op, ¬(labelGuard env sys .run).start s op := by
    rintro - s op ⟨cb, elapsed, h⟩
    cases h
  have hends : (labelGuard env sys .run).Ends := labelGuard_ends
  have hrun := handlePublish_begins (G := labelGuard env sys .run) env (a := true) (b := .goes)
    (s := sys.client) msg (fun _ => .goes) (Or.inr inferInstance) fun _ _ _ => rfl
  have hf : Frame true .goes sys.client sys.client.keepAliveMessageReceived :=
    (Frame.refl true .goes sys.client).keepAliveMessageReceived
  rw [hclient, show sys.client.handle env (.publish msg) = sys.client.handlePublish env msg from rfl]
  split at hrun
  · rename_i hbegins
    rw [if_pos hbegins]
    have hr : Reg (sys.client.keepAliveMessageReceived.registerRecvOp env) :=
      (hf.weaken.update (Still.registerRecvOp env) (.createRecv env) rfl).reg hw.reg
    exact ⟨hf.acts, MacroRun.acts (hrun.run hends hr) hr hstart⟩
  · rename_i hbegins
    rw [if_neg hbegins]
    exact MacroRun.acts (hrun.run hends hw.reg) hw.reg hstart

/-- A PUBLISH may create a reception. -/
theorem publish_created (hw : SysWf sys) (hstep : sys.step env l = some sys') {msg : RecvPublishMsg}
    (hin : sys.inMsg l = some (.publish msg)) : Creates env sys l sys'.client := by
  have hacts := publish_acts hw hstep hin
  split at hacts
  · rename_i hbegins
    refine .begun .recv _ _ ?_ (hacts.1.uncreated ⟨rfl, rfl⟩) ?_ (.createRecv env)
      (hacts.2.uncreated ⟨rfl, rfl⟩)
    · simp [Sys.recv, hin, InMsg.recv, publishRecv, hbegins]
    · unfold beginsReception at hbegins
      unfold Client.hasSlot
      rw [keepAliveMessageReceived_eq]
      simp only [Bool.and_eq_true, Bool.not_eq_true'] at hbegins
      exact hbegins.2
  · exact .nothing (hacts.uncreated ⟨rfl, rfl⟩)

/-- A CONNACK aborts what is stored at most, but for the keep alive an accepted one creates. -/
theorem connack_acts (hw : SysWf sys) (hstep : sys.step env l = some sys') {msg : ConnackMsg}
    (hin : sys.inMsg l = some (.connack msg)) :
    Acts true .aborts sys.client sys'.client ∨
      (sys.recv env l = .begins ∧ ∃ v, Acts true .aborts sys.client v ∧ v.keepAliveOps = [] ∧
        v.sessionState.connected = true ∧
        Acts true .aborts (v.createKeepAliveOpIfNeeded env) sys'.client) := by
  obtain ⟨rest, -, -, hclient⟩ := inMsg_step hstep hin
  have hG : (connackGuard env sys l).Connack env msg _ := connackGuard_connack hin
  have hstart : true = true → ∀ s op, ¬(connackGuard env sys l).start s op := fun _ _ _ h => h
  have hrests : Scope.Le .bare .aborts := Scope.bare_le _
  rw [hclient]
  cases handleConnack_dispatched env hw.reg hw.lock msg with
  | before h heq => exact Or.inl (h.acts.mono id hrests)
  | handled u op hop hpre hsame hcon hpost hgone =>
    have hu : Acts true .aborts sys.client u := hpre.acts.mono id hrests
    have hmem : op ∈ u.connectOps := by rw [hsame]; exact hop
    have hru := hpre.reg hw.reg
    have ht : Acts true .aborts (u.connectHandleConnack env op msg)
        (sys.client.handle env (.connack msg)) := hpost.acts.mono id hrests
    cases hacc : connackAccepted env op msg with
    | false =>
      have hrun : MacroRun env (connackGuard env sys l) true .aborts u _ :=
        connectHandleConnack_refused_run hG hop hmem hacc
      exact Or.inl ((hu.trans (MacroRun.acts hrun hru hstart)).trans ht)
    | true =>
      obtain ⟨v, hv, hup, hlive, heq⟩ :=
        connectHandleConnack_accepted_run (a := true) (b := .aborts) .aborts hG hop hmem hru hacc
      have hv : Acts true .aborts sys.client v := hu.trans (MacroRun.acts hv hru hstart)
      have hend : Acts true .aborts (v.createKeepAliveOpIfNeeded env)
          (u.connectHandleConnack env op msg) := by
        rw [heq]
        exact ((Frame.refl true .aborts _).connectComplete (.connect hlive) _ _).acts
      have hany : (sys.client.connectOps.any fun op => connackAccepted env op msg) = true :=
        List.any_eq_true.mpr ⟨op, hop, hacc⟩
      -- the keep alive of an earlier connection would do
      cases hka : v.keepAliveOps with
      | nil =>
        refine Or.inr ⟨?_, v, hv, hka, hup, hend.trans ht⟩
        simp [Sys.recv, hin, InMsg.recv, hcon, hany]
      | cons op ops =>
        have hsame : v.createKeepAliveOpIfNeeded env = v := by
          unfold createKeepAliveOpIfNeeded
          rw [if_pos (by simp [hka])]
        rw [hsame] at hend
        exact Or.inl (hv.trans (hend.trans ht))

/-- An accepted CONNACK creates the keep alive once the stored operations are dealt with. -/
theorem connack_created (hw : SysWf sys) (hstep : sys.step env l = some sys') {msg : ConnackMsg}
    (hin : sys.inMsg l = some (.connack msg)) : Creates env sys l sys'.client := by
  rcases connack_acts hw hstep hin with h | ⟨hrecv, v, hv, hka, hup, hend⟩
  · exact .nothing (h.uncreated ⟨rfl, rfl⟩)
  · refine .begun .keepAlive v _ hrecv (hv.uncreated ⟨rfl, rfl⟩) ?_ (.createKeepAlive env hka hup)
      (hend.uncreated ⟨rfl, rfl⟩)
    unfold Client.hasSlot
    simp only [Config.opLimit, Client.opCount, hka, Config.singleOpLimit, isFull]
    split <;> rfl

/-- Every step creates at most one operation, and says of which type. -/
theorem step_creates (hw : SysWf sys) (hstep : sys.step env l = some sys') :
    Creates env sys l sys'.client := by
  cases hk : sys.keepsLock l with
  | false =>
    cases l with
    | call api =>
      obtain ⟨-, hlegal, rfl⟩ := call_step hstep
      exact call_created hw hlegal hk
    | run =>
      rw [connectPrepare_step hk hstep]
      refine prepareWith_created .connect hk (fun hpass => .createConnect env ?_ ?_) "connect" (by simp)
        ⟨"connect", by simp [Config.opLimit, Client.opCount]⟩
      all_goals simp only [List.forall_mem_cons, Bool.not_eq_false'] at hpass
      · exact ⟨hpass.2.2.1, hpass.2.1, hw.preparing hk⟩
      · exact List.isEmpty_iff.mp hpass.1
  | true =>
    have hrests : (sys.recv env l).Le .rests → Creates env sys l sys'.client := fun hle =>
      .nothing ((step_acts hw hstep (fun _ => hk) hle).uncreated ⟨rfl, rfl⟩)
    cases hin : sys.inMsg l with
    | none => exact hrests (by simp [Sys.recv, hin, Recv.Le.rests])
    | some m =>
      cases m with
      | publish m => exact publish_created hw hstep hin
      | connack m => exact connack_created hw hstep hin
      | _ => exact hrests (by simp [Sys.recv, hin, InMsg.recv, Recv.Le.rests])

end Mqtt5
