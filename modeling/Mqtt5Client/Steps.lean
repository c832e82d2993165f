import Mqtt5Client.CallSteps
import Mqtt5Client.Strays
import Mqtt5Client.Pending

/-!
# Mqtt5Client — what a step of the machine does

Every step of the machine but the handling of CONNACK is a run of steps on publishes. What is known when
one of them happens is read off the label and the pending task (`labelGuard`).
-/

namespace Mqtt5

open Client

variable {env : Env} {a : Bool} {b : Scope} {sys sys' : Sys} {l : Label}

/-! ## What a step handles -/

/-- The message a step hands to the handlers. -/
def Sys.inMsg (sys : Sys) (l : Label) : Option InMsg :=
  match l, sys.pending with
  | .run, .frames (frame :: _) :: _ => sys.client.frameMsg frame
  | _, _ => none

/-- A step that handles CONNACK. -/
def Sys.isConnack (sys : Sys) (l : Label) : Bool := (sys.inMsg l).any InMsg.isConnack

/-- The operation whose member function a task carries on with. -/
def Task.member : Task → Option OpRef
  | .startTimer ref _ _ => some ref
  | .disconnectSend op => some ⟨.disconnect, op.id⟩
  | .publishDoSend op | .publishAbandon op => some ⟨.send, op.id⟩
  | _ => none

/-- A `send` function carries on with an operation that its API guard destroyed. -/
def Sys.strays (sys : Sys) : Label → Bool
  | .call _ => false
  | .run => sys.pending.head?.any fun task =>
      task.member.any fun ref => !(sys.client.ids ref.type).contains ref.id

/-- What is known in a step that does not handle CONNACK. -/
def labelGuard (env : Env) (sys : Sys) (l : Label) : Guard where
  resume := fun _ _ => False
  first := fun s op => s = sys.client ∧ l = .run ∧
    ∃ x, x.id = op.id ∧ sys.pending.head? = some (.publishDoSend x)
  dup := fun s op =>
    (s = sys.client ∧ l = .run ∧ sys.pending.head? = some (.timeout (.sendTimeout op.id)) ∧
      op.sendAttempts < op.totalSendAttempts) ∨
    (∃ msg x, sys.inMsg l = some msg ∧ sys.client.acks msg false x ∧ op.paused = false ∧
      (sys.client.ackSafe env x.packetId = true → op.published = true))
  leave := fun _ _ => True
  create := fun s => s = sys.client ∧ l = .call .publishPrepare
  start := fun _ op => ∃ cb elapsed, l = .call (.publishSend op.id cb elapsed)
  config := fun s op c => s = sys.client ∧
    ∀ config, c = some config → l = .call (.publishConfigBasic op.id config)
  ack := fun s op => ∃ m, sys.inMsg l = some (.pubrec m) ∧ m.isError = false ∧
    s.sendOps = sys.client.sendOps ∧ sys.client.acks (.pubrec m) true op
  alloc := fun s topic => s = sys.client ∧
    ((∃ count, l = .call (.pubTopicAliasAlloc (some topic) count)) ∨
      l = .call (.pubTopicAliasFree (some topic)))
  session := fun s c =>
    match c with
    | .disconnecting => True
    | .reset => s.view = sys.client.view ∧ l = .run ∧ sys.pending.head? = some .initInternal
    | .ordering o => s = sys.client ∧ l = .call (.publishSetOrdering o)
    | _ => False
  reconnect := fun _ => False
  stray := fun s op => s.view = sys.client.view ∧ sys.strays l = true ∧ l = .run ∧
    sys.pending.head? = some (.publishDoSend op)

/-- A label does not forbid the end of the connection. -/
theorem labelGuard_ends : (labelGuard env sys l).Ends := ⟨fun _ _ _ => trivial, fun _ => trivial⟩

/-- A step hands over no message but those of publishes and CONNECT. -/
def Sys.mutes (env : Env) (sys : Sys) : Label → Bool
  | .call (.subscribeSend ..) => sys.client.subscribeOps.isEmpty
  | .call (.unsubscribeSend ..) => sys.client.unsubscribeOps.isEmpty
  | .call (.reauthSend ..) => sys.client.reauthOps.isEmpty
  | .call _ => true
  | .run =>
    match sys.pending with
    | .timeout cb :: _ => !cb.isKeepAlive || sys.client.keepAliveOps.isEmpty
    | .frames (frame :: _) :: _ => sys.client.mutesFrame env frame
    | .disconnectSend _ :: _ => false
    | _ => true

/-- A step looks for expired timers. -/
def Sys.expires (sys : Sys) : Label → Bool
  | .call (.tick _) => true
  | .call _ => false
  | .run => sys.pending.head?.any fun
    | .enter _ => true
    | _ => false

/-- The state of the network a step reports. -/
def Sys.switches (sys : Sys) : Label → Option Bool
  | .call (.connectPrepare _) => some false
  | .call _ => none
  | .run => if sys.pending.head? = some .networkDown then some true else none

/-- Calls that configure or send a connect operation. -/
def Api.configures : Api → Bool
  | .connectConfigBasic .. | .connectConfigWill .. | .connectConfigExtra .. | .connectConfigAuth ..
  | .connectAddUserProp .. | .connectAddWillUserProp .. | .connectSetResponseTimeout ..
  | .connectSend .. => true
  | _ => false

def Sys.configures : Label → Bool
  | .call api => api.configures
  | .run => false

/-- The scope of a step that does not handle CONNACK. -/
structure Sys.Admits (env : Env) (sys : Sys) (l : Label) (b : Scope) : Prop where
  talks : sys.mutes env l = true ∨ b.Talks
  expire : sys.expires l = true → b.admits .expire = true
  network : ∀ down, sys.switches l = some down → b.admits (.network down) = true
  stops : ∀ msg cb, sys.inMsg l = some msg → sys.client.stops msg cb → b.admits (.disarm cb) = true
  filters : ∀ msg, sys.inMsg l = some msg → msg.isGrant = true → b.Grants
  configures : Sys.configures l = true → b.Configures
  ends : l = .run → sys.pending.head? = some .initInternal → b.Ends
  recv : ∀ msg, sys.inMsg l = some (.publish msg) → (publishRecv env msg sys.client).Le b
  strays : sys.strays l = true → b.admits .stray = true

/-- A scope that leaves out nothing but what concerns receptions and operations that are gone. -/
theorem Sys.Admits.of_wide [b.Wide] (hs : sys.strays l = true → b.admits .stray = true)
    (hb : ∀ msg, sys.inMsg l = some (.publish msg) → (publishRecv env msg sys.client).Le b) :
    sys.Admits env l b where
  talks := Or.inr inferInstance
  expire _ := Scope.Wide.admits _ rfl
  network _ _ := Scope.Wide.admits _ rfl
  stops _ _ _ _ := Scope.Wide.admits _ rfl
  filters _ _ _ := inferInstance
  configures _ := inferInstance
  ends _ _ := inferInstance
  recv := hb
  strays := hs

/-- Calls that neither take nor release the preparation lock. -/
def Api.keepsLock : Api → Bool
  | .connectSend .. | .connectCancel _ | .disconnectPrepare | .disconnectSend ..
  | .disconnectCancel _ | .subscribePrepare | .subscribeSend .. | .subscribeCancel _
  | .unsubscribePrepare | .unsubscribeSend .. | .unsubscribeCancel _ | .publishPrepare
  | .publishSend .. | .publishCancel _ | .reauthPrepare | .reauthSend .. | .reauthCancel _ => false
  | _ => true

/-- Steps that neither take nor release the preparation lock. -/
def Sys.keepsLock (sys : Sys) : Label → Bool
  | .call api => api.keepsLock
  | .run => sys.pending.head? != some .connectPrepare

/-! ## Calls -/

section Call

variable {api : Api} (hl : l = .call api) (hr : Reg sys.client)
  (hlegal : api.legal sys.client = true) (ha : a = true → api.keepsLock = true)
  (hb : sys.Admits env l b)

/-- A live handle that was not sent. -/
theorem unsent_of_legal {α : Type} {x : Option α} {sent : α → Bool} {y : α}
    (h : unsentOp x sent = true) (hy : x = some y) : sent y = false := by
  unfold unsentOp at h
  rw [hy] at h
  simpa using h

/-- A change of the settings. -/
theorem modifyConfig_frame {s : Client} {f : ConfigState → ConfigState}
    (hf : ∀ c, (f c).publishOrdering = c.publishOrdering) : Frame a b s (s.modifyConfig f) :=
  (Frame.refl a b s).update (.of_eq (by simp [Client.view, modifyConfig, hf]) rfl rfl rfl rfl rfl
    fun h => h)
    (.config f) rfl

/-- The settings are not looked at by what is shown of publishes, except for their order. -/
theorem callSetting_frame {s : Client} {supported : Bool} {f : ConfigState → ConfigState}
    (hf : ∀ c, (f c).publishOrdering = c.publishOrdering) :
    Frame a b s (s.callSetting supported f).1 := by
  unfold callSetting
  split
  · exact modifyConfig_frame hf
  · exact .refl a b s

include hl ha

section

include hr hlegal

/-- The calls on the handle of a publish. -/
theorem callPublish_run :
    MacroRun env (labelGuard env sys l) a b sys.client (sys.client.callPublish env api).1 := by
  subst hl
  have hsend : ∀ {id f}, (∀ op ∈ sys.client.sendOps, op.id = id →
      MacroRun env (labelGuard env sys (.call api)) a b sys.client (f op sys.client).1) →
      MacroRun env (labelGuard env sys (.call api)) a b sys.client
        (sys.client.onHandle (sys.client.sendOp? id) f).1 := by
    intro id f hf
    refine onHandle_run fun op hop => ?_
    obtain ⟨hmem, hid⟩ := mem_of_sendOp? hop
    exact hf op hmem hid
  have hfind : ∀ {op : SendOp}, op ∈ sys.client.sendOps → sys.client.sendOp? op.id = some op :=
    fun hop => sendOp?_eq hr.distinct hop
  -- a configuration may not touch the aliases
  have hconfig : ∀ {op}, (labelGuard env sys (.call api)).plain.config sys.client op none :=
    ⟨rfl, fun _ h => by cases h⟩
  unfold callPublish
  split
  · cases a with
    | true => exact absurd (ha rfl) (by simp [Api.keepsLock])
    | false => exact publishPrepare_run fun _ => ⟨rfl, rfl⟩
  · refine hsend fun op hop hid => ?_
    subst hid
    exact .micro (sendConfigBasic_micro hr hop (unsent_of_legal hlegal (hfind hop)) _
      ⟨rfl, fun _ h => by rw [Option.some.inj h]⟩)
  · refine hsend fun op hop hid => ?_
    subst hid
    exact .micro (sendConfigExtra_micro hr hop (unsent_of_legal hlegal (hfind hop)) hconfig _)
  · refine hsend fun op hop hid => ?_
    subst hid
    exact .micro (sendAddUserProp_micro hr hop (unsent_of_legal hlegal (hfind hop))
      hconfig _ _)
  · refine hsend fun op hop hid => ?_
    subst hid
    have hlegal := (Bool.and_eq_true_iff.mp hlegal).1
    exact .micro (sendSetResendAttempts_micro hr hop (unsent_of_legal hlegal (hfind hop)) hconfig _)
  · refine sendHandle_run fun op hop => ?_
    obtain ⟨hmem, hid⟩ := mem_of_sendOp? hop
    subst hid
    cases a with
    | true => exact absurd (ha rfl) (by simp [Api.keepsLock])
    | false =>
      refine (MacroRun.frame (Frame.refl false b _).allowNextPrepare).trans
        (sendOpSend_run hr hmem (unsent_of_legal hlegal (hfind hmem)) (fun t o ho => ?_)
          (fun _ _ _ => trivial) _)
      exact ⟨_, _, by rw [ho]⟩
  · refine hsend fun op hop _ => ?_
    cases a with
    | true => exact absurd (ha rfl) (by simp [Api.keepsLock])
    | false =>
      exact (MacroRun.frame (Frame.cancelLock op.cb)).trans (sendOpCancel_run hr hop trivial)
  · refine .micro (allocPubTopicAlias_micro (fun x hx => ?_) _)
    exact ⟨rfl, Or.inl ⟨_, by rw [hx]⟩⟩
  · refine .micro (freePubTopicAlias_micro fun x hx => ?_)
    exact ⟨rfl, Or.inr (by rw [hx])⟩
  · rename_i ordering
    refine .micro (.session (.ordering ordering) ⟨rfl, rfl⟩ ?_)
    exact ⟨⟨rfl, fun _ h => Or.inr h, Nat.le_refl _, fun _ => .of_ops rfl rfl (fun _ h => h) fun h => h⟩,
      .of (.config ({ · with publishOrdering := ordering })) rfl⟩
  · exact .refl

end

include hb

/-- The calls on the handle of a subscription or of its opposite. -/
theorem callSubscribe_run :
    MacroRun env (labelGuard env sys l) a b sys.client
      (sys.client.callSubscribe env api).1 := by
  subst hl
  have hlock : ∀ {P : Bool → Prop}, api.keepsLock = false → P false → P a := by
    intro P hk hP
    cases a with
    | true => rw [hk] at ha; exact absurd (ha rfl) (by simp)
    | false => exact hP
  -- an operation that is sent may talk
  have htalks : ∀ {α : Type} {l : List α} {op : α}, op ∈ l → l.isEmpty = true ∨ b.Talks → b.Talks :=
    fun hop h => h.resolve_left fun hempty => by
      rw [List.isEmpty_iff] at hempty
      rw [hempty] at hop
      cases hop
  unfold callSubscribe
  split
  · exact hlock (P := fun a => MacroRun env _ a b _ _) rfl
      (.frame (prepareWith_frame fun hpass => createSubscribeOp_frame
        (online_of_checks fun c hc => hpass c (List.mem_append_left _ hc))))
  · exact onHandle_run fun op hop => .frame (subscribeConfigTopic_frame hop _)
  · exact onHandle_run fun op hop => .frame (subscribeConfigExtra_frame hop _)
  · exact onHandle_run fun op hop => .frame (subscribeAddUserProp_frame hop _ _)
  · exact onHandle_run fun op hop =>
      .frame ((Quiet.refl _).setSubscribeOp hop ⟨rfl, rfl, rfl⟩ rfl)
  · exact hlock (P := fun a => MacroRun env _ a b _ _) rfl
      (sendHandle_run fun op hop =>
        have := htalks (Keyed.mem_of_find hop).1 hb.talks
        .frame (subscribeSend_frame hop _))
  · exact hlock (P := fun a => MacroRun env _ a b _ _) rfl
      (onHandle_run fun op hop => .frame
        ((Frame.cancelLock op.cb).trans (subscribeCancel_frame (Keyed.mem_of_find hop).1)))
  · exact hlock (P := fun a => MacroRun env _ a b _ _) rfl
      (.frame (prepareWith_frame fun hpass => createUnsubscribeOp_frame
        (online_of_checks fun c hc => hpass c (List.mem_append_left _ hc))))
  · exact onHandle_run fun op hop => .frame (unsubscribeConfigTopic_frame hop _)
  · exact onHandle_run fun op hop => .frame (unsubscribeAddUserProp_frame hop _ _)
  · exact onHandle_run fun op hop =>
      .frame ((Quiet.refl _).setUnsubscribeOp hop ⟨rfl, rfl, rfl⟩ rfl)
  · exact hlock (P := fun a => MacroRun env _ a b _ _) rfl
      (sendHandle_run fun op hop =>
        have := htalks (Keyed.mem_of_find hop).1 hb.talks
        .frame (unsubscribeSend_frame hop _))
  · exact hlock (P := fun a => MacroRun env _ a b _ _) rfl
      (onHandle_run fun op hop => .frame
        ((Frame.cancelLock op.cb).trans (unsubscribeCancel_frame (Keyed.mem_of_find hop).1)))
  · exact .refl

/-- The calls on the handles of the other types. -/
theorem callConnect_run (hcon : ∀ op ∈ sys.client.connectOps, some ⟨.connect, op.id⟩ ∈ sys.client.ops) :
    MacroRun env (labelGuard env sys l) a b sys.client (sys.client.callConnect env api).1 := by
  subst hl
  -- calls that use the lock are none of those that keep it
  have hlock : ∀ {P : Bool → Prop}, api.keepsLock = false → P false → P a := by
    intro P hk hP
    cases a with
    | true => rw [hk] at ha; exact absurd (ha rfl) (by simp)
    | false => exact hP
  unfold callConnect
  split
  · unfold beginConnectPrepare
    dsimp only
    have hf : Frame a b sys.client { sys.client with
        clientState := { sys.client.clientState with networkDisconnected := false } } :=
      (Frame.refl a b _).update (.of_eq rfl rfl rfl rfl rfl rfl fun h => h) (.network false)
        (Act.allowed_of rfl fun _ => hb.network false rfl)
    split
    · exact .frame hf
    · split
      · exact .frame (hf.errorLog _)
      · exact .frame hf
  · have := hb.configures rfl
    exact onHandle_run fun op hop => .frame (connectConfigBasic_frame hop _)
  · have := hb.configures rfl
    exact onHandle_run fun op hop => .frame (connectConfigWill_frame hop _)
  · have := hb.configures rfl
    exact onHandle_run fun op hop => .frame (connectConfigExtra_frame hop _)
  · have := hb.configures rfl
    exact onHandle_run fun op hop => .frame (connectConfigAuth_frame hop _)
  · have := hb.configures rfl
    exact onHandle_run fun op hop => .frame (connectAddUserProp_frame hop _ _)
  · have := hb.configures rfl
    exact onHandle_run fun op hop => .frame (connectAddWillUserProp_frame hop _ _)
  · have := hb.configures rfl
    exact onHandle_run fun op hop =>
      .frame ((Quiet.refl _).setConnectOp hop ⟨rfl, rfl, rfl⟩ rfl)
  · have := hb.configures rfl
    exact hlock (P := fun a => MacroRun env _ a b _ _) rfl
      (sendHandle_run fun op hop => connectSend_run hop
        ((Keyed.mem_of_find hop).2 ▸ hcon op (Keyed.mem_of_find hop).1) _)
  · exact hlock (P := fun a => MacroRun env _ a b _ _) rfl
      (onHandle_run fun op hop => .frame
        ((Frame.cancelLock op.cb).trans (connectCancel_frame (Keyed.mem_of_find hop).1)))
  · exact hlock (P := fun a => MacroRun env _ a b _ _) rfl
      (.frame (prepareWith_frame fun hpass => by
        simp only [List.forall_mem_cons, Bool.not_eq_false'] at hpass
        exact createDisconnectOp_frame ⟨hpass.1, hpass.2.2.1, hpass.2.2.2.1⟩
          (List.isEmpty_iff.mp hpass.2.1)))
  · exact onHandle_run fun op hop => .frame (disconnectConfigBasic_frame hop _)
  · exact onHandle_run fun op hop => .frame (disconnectAddUserProp_frame hop _ _)
  · exact hlock (P := fun a => MacroRun env _ a b _ _) rfl
      (sendHandle_run fun op hop => .frame (markDisconnectOp_frame (Keyed.mem_of_find hop).1))
  · exact hlock (P := fun a => MacroRun env _ a b _ _) rfl
      (onHandle_run fun op hop => .frame
        ((Frame.cancelLock false).trans (disconnectCancel_frame (Keyed.mem_of_find hop).1)))
  · exact hlock (P := fun a => MacroRun env _ a b _ _) rfl
      (.frame (prepareWith_frame fun hpass => createReauthOp_frame
        (online_of_checks fun c hc =>
          hpass c (List.mem_append_left _ (List.mem_append_right _ hc)))
        (List.isEmpty_iff.mp (by simpa using hpass _ List.mem_cons_self))))
  · exact onHandle_run fun op hop => .frame (reauthConfigAuth_frame hop _)
  · exact onHandle_run fun op hop => .frame (reauthAddUserProp_frame hop _ _)
  · exact onHandle_run fun op hop =>
      .frame ((Quiet.refl _).setReauthOp hop ⟨rfl, rfl⟩ rfl)
  · exact hlock (P := fun a => MacroRun env _ a b _ _) rfl
      (sendHandle_run fun op hop =>
        have : b.Talks := hb.talks.resolve_left fun hempty =>
          List.ne_nil_of_mem (Keyed.mem_of_find hop).1 (List.isEmpty_iff.mp hempty)
        .frame
          ((markReauthOp_frame (Keyed.mem_of_find hop).1).trans (reauthSend_frame env hop _)))
  · exact hlock (P := fun a => MacroRun env _ a b _ _) rfl
      (onHandle_run fun op hop => .frame
        ((Frame.cancelLock op.cb).trans (reauthCancel_frame (Keyed.mem_of_find hop).1)))
  · exact .refl

include hr hlegal

/-- Every call of the API, up to what it puts off. -/
theorem call_run (hcon : ∀ op ∈ sys.client.connectOps, some ⟨.connect, op.id⟩ ∈ sys.client.ops) :
    MacroRun env (labelGuard env sys l) a b sys.client (sys.client.call env api).1 := by
  have hp : MacroRun env (labelGuard env sys l) a b sys.client
      (sys.client.callPublish env api).1 := callPublish_run hl hr hlegal ha
  have hs : MacroRun env (labelGuard env sys l) a b sys.client
      (sys.client.callSubscribe env api).1 := callSubscribe_run hl ha hb
  have hc : MacroRun env (labelGuard env sys l) a b sys.client
      (sys.client.callConnect env api).1 := callConnect_run hl ha hb hcon
  subst hl
  unfold Client.call
  split
  · exact .frame (tick_frame (hb.expire rfl) _)
  · exact .refl
  · exact .refl
  · split
    · exact .refl
    · exact .frame (callSetting_frame fun _ => rfl)
  · exact .frame (callSetting_frame fun _ => rfl)
  · exact .frame (callSetting_frame fun _ => rfl)
  · exact .frame (callSetting_frame fun _ => rfl)
  all_goals first | exact hp | exact hs | exact hc

end Call

/-! ## A `send` call on its way -/

/-- What is known of the tasks behind an API guard: they concern operations that were there before. Where
a `send` call has still to transmit its publish, it does so next but for the beginning of the call, and
the publish has made no progress. -/
structure Pend (sys : Sys) : Prop where
  send : ∀ op, .publishDoSend op ∈ sys.pending →
    (∃ ts, sys.pending = ts ++ [.publishDoSend op] ∧ ∀ t ∈ ts, t.isEntry = true) ∧
    op.published = false ∧ ∀ x ∈ sys.client.sendOps, x.id = op.id → x.sent = true ∧ x.fresh = true
  abandon : ∀ op, .publishAbandon op ∈ sys.pending → op.published = false
  old : ∀ task ∈ sys.pending, ∀ ref, task.member = some ref → ref.id < sys.client.nextOpId

/-- A publish that is about to be sent was marked and has not been transmitted. -/
theorem Pend.head (hp : Pend sys) {x : SendOp} {rest : List Task}
    (h : sys.pending = .publishDoSend x :: rest) {op : SendOp} (hop : op ∈ sys.client.sendOps)
    (hid : op.id = x.id) : op.sent = true ∧ op.published = false ∧ op.paused = false := by
  obtain ⟨-, -, hlive⟩ := hp.send x (by rw [h]; exact List.mem_cons_self)
  obtain ⟨hsent, hfresh⟩ := hlive op hop hid
  unfold SendOp.fresh at hfresh
  simp only [Bool.and_eq_true, Bool.not_eq_true'] at hfresh
  exact ⟨hsent, hfresh⟩

/-- An operation a task carries on with is in the list of its type, or the step goes astray. -/
theorem Sys.strays_iff {task : Task} {rest : List Task} {ref : OpRef} (h : sys.pending = task :: rest)
    (href : task.member = some ref) :
    sys.strays .run = true ↔ ref.id ∉ sys.client.ids ref.type := by
  unfold Sys.strays
  rw [h]
  simp [href]

/-! ## Tasks -/

section Task

variable {task : Task} {rest : List Task}

/-- The rest of `SendOp::send` behind its API guard. The operation may be gone by then, which only a step
that strays admits. -/
theorem publishDoSend_run {x : SendOp} (hr : Reg sys.client) (hp : Pend sys)
    (hb : sys.strays .run = true → b.admits .stray = true)
    (h : sys.pending = .publishDoSend x :: rest) :
    MacroRun env (labelGuard env sys .run) a b sys.client
      (sys.client.publishDoSend env x).1 := by
  suffices hrun : MacroRun env (labelGuard env sys .run) a b sys.client
      (sys.client.onMembers (sys.client.sendOp? x.id) x (sendOpDoSend env)).1 by
    unfold Client.publishDoSend
    dsimp only
    split <;> exact hrun
  unfold onMembers
  cases hop : sys.client.sendOp? x.id with
  | some op =>
    obtain ⟨hmem, hid⟩ := mem_of_sendOp? hop
    obtain ⟨hsent, hpub, hpaused⟩ := hp.head h hmem hid
    exact sendOpDoSend_run hr hmem trivial ⟨rfl, rfl, x, hid.symm, by rw [h]; rfl⟩ hpaused hpub hsent
  | none =>
    have hgone := sendOp?_none_iff.mp hop
    have hf : Frame a b sys.client (sys.client.fault (.useAfterFree .send)) :=
      (Frame.refl a b _).fault _ rfl
    have hmem : .publishDoSend x ∈ sys.pending := by
      rw [h]
      exact List.mem_cons_self
    have hstrays : sys.strays .run = true := (Sys.strays_iff h rfl).mpr hgone
    exact (MacroRun.frame hf).trans (sendOpDoSend_stray (hf.reg hr) hgone (hp.send x hmem).2.1
      (hb hstrays) (hp.old _ hmem _ rfl) ⟨hf.view, hstrays, rfl, by rw [h]; rfl⟩)

/-- What a label admits is what its acknowledgement is for. -/
theorem labelGuard_acks {msg : InMsg} (h : sys.inMsg l = some msg) :
    Guard.Acks env msg sys.client (labelGuard env sys l) where
  toEnds := labelGuard_ends
  dup := fun x hacks _ _ _ hp hsafe => Or.inr ⟨msg, x, h, hacks, hp, hsafe⟩
  ack := fun m op hmsg herr hacks t hops => by
    subst hmsg
    exact ⟨m, h, herr, hops, hacks⟩

/-- Every piece of a call, the end of the connection included. -/
theorem runTask_end (hr : Reg sys.client) (hp : Pend sys) (hinit : Pending sys)
    (h : sys.pending = task :: rest)
    (hc : sys.isConnack .run = false) (ha : a = true → task ≠ .connectPrepare)
    (hb : sys.Admits env .run b) :
    EndRun env (labelGuard env sys .run) a b sys.client (sys.client.runTask env task).1 := by
  have hhead : sys.pending.head? = some task := by rw [h]; rfl
  -- the operation of a pending task was created before
  have hold : ∀ ref, task.member = some ref → ref.id < sys.client.nextOpId :=
    hp.old task (by rw [h]; exact List.mem_cons_self)
  have htalks := hb.talks
  unfold Sys.mutes at htalks
  rw [h] at htalks
  unfold runTask
  split
  · exact .frame (doApiEnter_frame (hb.expire (by simp [Sys.expires, hhead])) _)
  · exact .frame (Frame.refl a b _).doApiExit
  · refine handleTimeout_end (fun _ _ _ => trivial) hr
      (fun op _ hcb hlt => Or.inl ⟨rfl, rfl, by rw [hhead, hcb], hlt⟩) fun hka hne => htalks.resolve_left ?_
    simpa [hka] using hne
  · unfold processInput
    dsimp only
    split
    · exact .frame (((Frame.refl a b _).assert _ _ rfl).errorLog _)
    · exact .frame ((Frame.refl a b _).assert _ _ rfl)
  · exact .refl
  · rename_i frame frames
    refine processFrame_end hr htalks fun msg hmsg => ?_
    have hin : sys.inMsg .run = some msg := by
      unfold Sys.inMsg
      rw [h]
      exact hmsg
    refine ⟨?_, fun m hm => hb.recv m (hm ▸ hin), fun cb hcb => hb.stops msg cb hin hcb,
      hb.filters msg hin, fun _ => labelGuard_acks hin⟩
    simpa [Sys.isConnack, hin] using hc
  · exact networkDown_end (hb.network true (by simp [Sys.switches, hhead]))
  · have := hb.ends rfl hhead
    exact .goes (initInternal_run fun t ht => ⟨ht, rfl, hhead⟩)
  · cases a with
    | true => exact absurd rfl (ha rfl)
    | false =>
      refine .frame (prepareWith_frame fun hpass => ?_)
      simp only [List.forall_mem_cons, Bool.not_eq_false'] at hpass
      exact createConnectOp_frame
        ⟨hpass.2.2.1, hpass.2.1, hinit.initialized (by rw [h]; exact List.mem_cons_self)⟩
        (List.isEmpty_iff.mp hpass.1)
  · refine .frame ((Frame.refl a b _).startTimer _ _ _ (hold _ rfl) fun hgone => ?_)
    exact hb.strays ((Sys.strays_iff h rfl).mpr hgone)
  · rename_i x
    have : b.Talks := htalks.resolve_left nofun
    dsimp only
    unfold onMembers
    split
    · rename_i op hop
      exact disconnectSend_end (Keyed.mem_of_find hop).1
    · rename_i hop
      have hgone : x.id ∉ sys.client.ids .disconnect := by
        intro hmem
        obtain ⟨op, hmem, hid⟩ := List.mem_map.mp hmem
        exact absurd (List.find?_eq_none.mp hop op hmem) (by simp [hid])
      exact .after (MacroRun.frame ((Frame.refl a b _).fault _ rfl))
        (disconnectSend_gone x (hb.strays ((Sys.strays_iff h rfl).mpr hgone)))
  · exact .goes (publishDoSend_run hr hp hb.strays h)
  · rename_i x
    refine .goes ?_
    dsimp only
    unfold onMembers
    split
    · rename_i op hop
      exact sendOpComplete_run hr (mem_of_sendOp? hop).1 trivial
        ((Frame.refl a b _).toSet hr (mem_of_sendOp? hop).1) rfl rfl rfl rfl
    · rename_i hop
      have hgone := sendOp?_none_iff.mp hop
      have hf : Frame a b sys.client (sys.client.fault (.useAfterFree .send)) :=
        (Frame.refl a b _).fault _ rfl
      have hmem : .publishAbandon x ∈ sys.pending := by
        rw [h]
        exact List.mem_cons_self
      exact (MacroRun.frame hf).trans (publishAbandon_gone (hf.reg hr) hgone (hp.abandon x hmem)
        (hb.strays ((Sys.strays_iff h rfl).mpr hgone)))
  · exact .frame ((Frame.refl a b _).emit rfl rfl rfl)

end Task

/-- Every step but the handling of CONNACK. The end of the connection comes last. -/
theorem step_end (hr : Reg sys.client) (hp : Pend sys) (hinit : Pending sys)
    (hcon : ∀ op ∈ sys.client.connectOps, some ⟨.connect, op.id⟩ ∈ sys.client.ops)
    (hstep : sys.step env l = some sys') (hc : sys.isConnack l = false) (ha : a = true → sys.keepsLock l = true)
    (hb : sys.Admits env l b) :
    EndRun env (labelGuard env sys l) a b sys.client sys'.client := by
  unfold Sys.step at hstep
  cases l with
  | call api =>
    dsimp only at hstep
    split at hstep
    · rename_i hlegal
      obtain ⟨-, hlegal⟩ := Bool.and_eq_true_iff.mp hlegal
      cases hstep
      exact .goes (call_run rfl hr hlegal ha hb hcon)
    · cases hstep
  | run =>
    dsimp only at hstep
    split at hstep
    · cases hstep
    · rename_i task rest hpending
      cases hstep
      refine runTask_end hr hp hinit hpending hc (fun h htask => ?_) hb
      have := ha h
      simp [Sys.keepsLock, hpending, htask] at this

/-- A step other than CONNACK is a run of elementary steps that its label admits. -/
theorem step_run [b.Wide] (hr : Reg sys.client) (hp : Pend sys) (hinit : Pending sys)
    (hcon : ∀ op ∈ sys.client.connectOps, some ⟨.connect, op.id⟩ ∈ sys.client.ops)
    (hstep : sys.step env l = some sys') (hc : sys.isConnack l = false) (ha : a = true → sys.keepsLock l = true)
    (hs : sys.strays l = true → b.admits .stray = true)
    (hb : ∀ m, sys.inMsg l = some (.publish m) → (publishRecv env m sys.client).Le b) :
    MacroRun env (labelGuard env sys l) a b sys.client sys'.client :=
  (step_end hr hp hinit hcon hstep hc ha (.of_wide hs hb)).run labelGuard_ends hr

end Mqtt5
