import Mqtt5Client.Handles

/-!
# Mqtt5Client — the full calls of the C layer

The C interface has calls that do all of an operation at once: `connect_full`, `subscribe_full`,
`publish_full` and their like prepare an operation, configure it, and send it, or cancel it when a
configuration fails. They are modelled as compositions of the calls of the machine, carried out from
beginning to return. An application that uses nothing else never holds a handle: its runs are runs of the
machine, no operation stays in preparation between two calls, and so none of its calls is refused for the
preparation lock, which an application that prepares operations itself may lose.
-/

namespace Mqtt5

open Client

variable {env : Env} {s t u : Client} {sys sys' : Sys} {l : Label} {api : Api} {ref : OpRef}
  {type : OpType} {task : Task} {tasks rest : List Task}

/-! ## The calls -/

/-- A call composed of others: `configs` are carried out in order, and `cancel` when one of them fails. -/
structure FullCall where
  type : OpType
  prepare : Api
  configs : OpId → List Api
  send : OpId → Api
  cancel : OpId → Api

namespace FullCall

/-- `connect_full`: a configuration is left out when its pointer is null. -/
def connectFull (elapsed elapsed' : Nat) (basic : Option ConnectBasicConfig)
    (will : Option ConnectWillConfig) (extra : Option ConnectExtraConfig) (auth : Option AuthConfig)
    (cb : Bool) : FullCall where
  type := .connect
  prepare := .connectPrepare elapsed
  configs op := (basic.map (.connectConfigBasic op)).toList ++ (will.map (.connectConfigWill op)).toList ++
    (extra.map (.connectConfigExtra op)).toList ++ (auth.map (.connectConfigAuth op)).toList
  send op := .connectSend op cb elapsed'
  cancel op := .connectCancel op

def connectSimple (elapsed elapsed' : Nat) (basic : Option ConnectBasicConfig) (cb : Bool) : FullCall :=
  connectFull elapsed elapsed' basic none none none cb

def disconnect (elapsed : Nat) (config : Option DisconnectConfig) : FullCall where
  type := .disconnect
  prepare := .disconnectPrepare
  configs op := (config.map (.disconnectConfigBasic op)).toList
  send op := .disconnectSend op elapsed
  cancel op := .disconnectCancel op

def subscribeFull (elapsed : Nat) (topics : List SubscribeTopicConfig) (extra : Option Nat) (cb : Bool) :
    FullCall where
  type := .subscribe
  prepare := .subscribePrepare
  configs op := topics.map (.subscribeConfigTopic op) ++ (extra.map (.subscribeConfigExtra op)).toList
  send op := .subscribeSend op cb elapsed
  cancel op := .subscribeCancel op

def subscribeSimple (elapsed : Nat) (topic : SubscribeTopicConfig) (cb : Bool) : FullCall :=
  subscribeFull elapsed [topic] none cb

def unsubscribeFull (elapsed : Nat) (topics : List (Option Str)) (cb : Bool) : FullCall where
  type := .unsubscribe
  prepare := .unsubscribePrepare
  configs op := topics.map (.unsubscribeConfigTopic op)
  send op := .unsubscribeSend op cb elapsed
  cancel op := .unsubscribeCancel op

def unsubscribeSimple (elapsed : Nat) (topic : Option Str) (cb : Bool) : FullCall :=
  unsubscribeFull elapsed [topic] cb

def publishFull (elapsed : Nat) (basic : Option PublishBasicConfig) (extra : Option PublishExtraConfig)
    (cb : Bool) : FullCall where
  type := .send
  prepare := .publishPrepare
  configs op := (basic.map (.publishConfigBasic op)).toList ++ (extra.map (.publishConfigExtra op)).toList
  send op := .publishSend op cb elapsed
  cancel op := .publishCancel op

def publishSimple (elapsed : Nat) (basic : Option PublishBasicConfig) (cb : Bool) : FullCall :=
  publishFull elapsed basic none cb

def reauth (elapsed : Nat) (config : Option AuthConfig) (cb : Bool) : FullCall where
  type := .reauth
  prepare := .reauthPrepare
  configs op := (config.map (.reauthConfigAuth op)).toList
  send op := .reauthSend op cb elapsed
  cancel op := .reauthCancel op

end FullCall

/-- The code the last call returned. -/
def Client.returned (s : Client) : ErrorCode :=
  match s.log.getLast? with
  | some (.apiReturn ec) => ec
  | _ => .success

/-- The configurations up to the first that fails. -/
def Client.configure (env : Env) : List Api → Client → Client × ErrorCode
  | [], s => (s, .success)
  | api :: rest, s =>
    let t := s.performCall env api
    if t.returned = .success then configure env rest t else (t, t.returned)

/-- A full call, from its beginning to its return; the handle is that of the operation made last. -/
def FullCall.perform (env : Env) (call : FullCall) (s : Client) : Client × ErrorCode :=
  let s := s.performCall env call.prepare
  if s.returned = .success then
    let op := s.nextOpId - 1
    let r := s.configure env (call.configs op)
    if r.2 = .success then
      let s := r.1.performCall env (call.send op)
      (s, s.returned)
    else (r.1.performCall env (call.cancel op), r.2)
  else (s, s.returned)

/-- The calls that work on no handle. -/
def Api.handleless : Api → Bool
  | .tick _ | .processData .. | .notifyNetworkDisconnected _ => true
  | .pubTopicAliasAlloc .. | .pubTopicAliasFree _ | .publishSetOrdering _ => true
  | .setDefaultResponseTimeout _ => true
  | .setVerifyOutgoingTopic _ | .setVerifyIncomingTopic _ | .setVerifySubFilter _ => true
  | _ => false

/-- What an application calls that holds no handles. -/
inductive FullApi where
  | plain (api : Api)
  | connectFull (elapsed elapsed' : Nat) (basic : Option ConnectBasicConfig)
      (will : Option ConnectWillConfig) (extra : Option ConnectExtraConfig) (auth : Option AuthConfig)
      (cb : Bool)
  | connectSimple (elapsed elapsed' : Nat) (basic : Option ConnectBasicConfig) (cb : Bool)
  | disconnect (elapsed : Nat) (config : Option DisconnectConfig)
  | subscribeFull (elapsed : Nat) (topics : List SubscribeTopicConfig) (extra : Option Nat) (cb : Bool)
  | subscribeSimple (elapsed : Nat) (topic : SubscribeTopicConfig) (cb : Bool)
  | unsubscribeFull (elapsed : Nat) (topics : List (Option Str)) (cb : Bool)
  | unsubscribeSimple (elapsed : Nat) (topic : Option Str) (cb : Bool)
  | publishFull (elapsed : Nat) (basic : Option PublishBasicConfig) (extra : Option PublishExtraConfig)
      (cb : Bool)
  | publishSimple (elapsed : Nat) (basic : Option PublishBasicConfig) (cb : Bool)
  | reauth (elapsed : Nat) (config : Option AuthConfig) (cb : Bool)

/-- The composition behind a call. -/
def FullApi.full : FullApi → Option FullCall
  | plain _ => none
  | connectFull e e' basic will extra auth cb => some (.connectFull e e' basic will extra auth cb)
  | connectSimple e e' basic cb => some (.connectSimple e e' basic cb)
  | disconnect e config => some (.disconnect e config)
  | subscribeFull e topics extra cb => some (.subscribeFull e topics extra cb)
  | subscribeSimple e topic cb => some (.subscribeSimple e topic cb)
  | unsubscribeFull e topics cb => some (.unsubscribeFull e topics cb)
  | unsubscribeSimple e topic cb => some (.unsubscribeSimple e topic cb)
  | publishFull e basic extra cb => some (.publishFull e basic extra cb)
  | publishSimple e basic cb => some (.publishSimple e basic cb)
  | reauth e config cb => some (.reauth e config cb)

/-- A step is a whole call. -/
def FullApi.step (env : Env) (s : Client) : FullApi → Option Client
  | plain api => if api.handleless then some (s.performCall env api) else none
  | api => api.full.map fun call => (call.perform env s).1

/-- The library as such an application sees it. -/
def fullMachine (env : Env) : Machine Client FullApi :=
  ⟨fun s => ∃ cbs config, s = Client.init cbs config, FullApi.step env⟩

/-! ## Full calls -/

@[simp] theorem returned_emit (ec : ErrorCode) : (s.emit (.apiReturn ec)).returned = ec := by
  simp [Client.returned, Client.emit]

/-- What a call that prepares an operation comes to: that operation is the only one in preparation, or none
is, and it was not the lock that refused it. -/
inductive Begun (env : Env) (type : OpType) (s : Client) : Prop
  | made (hret : s.returned = .success) (h : Held env [⟨type, s.nextOpId - 1⟩] ⟨s, []⟩)
  | refused (hret : s.returned ≠ .success) (hlock : s.returned ≠ .preparationLocked)
      (h : Held env [] ⟨s, []⟩)

/-- A `…Prepare` function begins a full call. -/
theorem begun_of_prepares {r : Client × ErrorCode} (h : Held env [] sys)
    (hcancels : sys.cancelsSilent l = false) (hstep : sys.step env l = some ⟨r.1, [.ret r.2]⟩)
    (hmem : r ∈ sys.client.prepareCalls env) (hp : Prepares type sys.client r) :
    Begun env type (r.1.emit (.apiReturn r.2)) := by
  have hheld := h.prepare hcancels hstep hp
  split at hheld
  · rename_i hec
    exact .made (by rw [returned_emit, hec]) hheld.ret
  · rename_i hec
    refine .refused (by rwa [returned_emit]) ?_ hheld.ret
    rw [returned_emit]
    intro hlock
    have hheldLock := prepareCalls_refused r hmem hlock
    rw [h.free] at hheldLock
    cases hheldLock

/-- `connectPrepare` begins a full call of an initialised client. -/
theorem begun_connectPrepare (h : Held env [] ⟨s, [.connectPrepare]⟩) :
    Begun env .connect (s.perform env .connectPrepare) :=
  begun_of_prepares (l := .run) h rfl (piece_step env s .connectPrepare [])
    (by simp [prepareCalls]) (connectPrepare_prepares env s)

/-- So it does when it initialises the client first. -/
theorem begun_initInternal (h : Held env [] ⟨s, [.initInternal]⟩) :
    Begun env .connect (s.perform env .initInternal) := by
  have hstep := h.keep_nil rfl rfl (piece_step env s .initInternal [])
  have hrun : s.runTask env .initInternal = ((s.initInternal env).1,
      if (s.initInternal env).2 = .success then [.exit, .connectPrepare]
      else [.exit, .ret (s.initInternal env).2]) := rfl
  rw [hrun, List.append_nil] at hstep
  have hexit : ∀ {u : Client} {rest : List Task}, Held env [] ⟨u, .exit :: rest⟩ →
      Held env [] ⟨u.doApiExit, rest⟩ :=
    fun {u rest} h => h.keep_nil rfl rfl (piece_step env u .exit rest)
  unfold perform
  dsimp only
  split
  · rename_i hinit
    rw [if_pos hinit] at hstep
    exact begun_connectPrepare (hexit hstep)
  · rename_i hinit
    rw [if_neg hinit] at hstep
    have hec : (s.initInternal env).2 ≠ .preparationLocked := by
      unfold Client.initInternal
      split
      · simp [Client.fail]
      · split
        · simp [Client.fail]
        · simp
    exact .refused (by rwa [returned_emit]) (by rwa [returned_emit]) (hexit hstep).ret

/-- And when the API guard comes in front. -/
theorem begun_enter {elapsed : Nat} (h : Held env [] ⟨s, [.enter elapsed, .initInternal]⟩) :
    Begun env .connect (s.performAll env [.enter elapsed, .initInternal]) := by
  have hp : Pieces env [.enter elapsed] s (s.perform env (.enter elapsed)) := pieces_perform _ s
  have h : Held env [] ⟨s, [.enter elapsed] ++ [.initInternal]⟩ := h
  exact begun_initInternal (h.pieces (by simp [Task.quiet]) hp)

/-- A call that prepares an operation, with nothing in preparation before it. -/
theorem begun_of_call (h : Held env [] ⟨s, []⟩) (hp : api.prepares? = some type) :
    Begun env type (s.performCall env api) := by
  have hlegal : api.legal s = true := by cases api <;> first | rfl | cases hp
  have hstep : Sys.step env ⟨s, []⟩ (.call api) =
      some ⟨(s.call env api).1, (s.call env api).2⟩ := by
    simp [Sys.step, hlegal]
  by_cases htype : type = .connect
  · subst htype
    cases api <;> first | (cases hp; done) | skip
    rename_i elapsed
    -- CONNECT is prepared behind the initialisation of the client
    have hbegin := h.keep_nil (l := .call (.connectPrepare elapsed)) rfl rfl hstep
    show Begun env .connect
      ((s.beginConnectPrepare elapsed).1.performAll env (s.beginConnectPrepare elapsed).2)
    change Held env [] ⟨(s.beginConnectPrepare elapsed).1, (s.beginConnectPrepare elapsed).2⟩ at hbegin
    unfold beginConnectPrepare at hbegin ⊢
    dsimp only at hbegin ⊢
    split
    · rename_i hinit
      rw [if_pos hinit] at hbegin
      exact begun_connectPrepare hbegin
    · rename_i hinit
      rw [if_neg hinit] at hbegin
      split
      · rename_i hcount
        rw [if_pos hcount] at hbegin
        exact .refused (by simp [performAll, perform, runTask]) (by simp [performAll, perform, runTask])
          hbegin.ret
      · rename_i hcount
        rw [if_neg hcount] at hbegin
        exact begun_enter hbegin
  · obtain ⟨r, hmem, hcall, hprep⟩ := prepare_call env s hp htype
    have hperform : s.performCall env api = r.1.emit (.apiReturn r.2) := by
      unfold performCall
      rw [hcall]
      rfl
    rw [hperform]
    rw [hcall] at hstep
    refine begun_of_prepares h ?_ hstep hmem hprep
    cases api <;> first | rfl | cases hp

/-- A configuration of an operation in preparation returns at once. -/
theorem config_call (env : Env) (h : api.configures? = some ref) (hlegal : api.legal s = true) :
    ∃ r, s.call env api = returning r := by
  have hhandle : ∀ {α : Type} {op : Option α} {sent : α → Bool}
      {f : α → Client → Client × ErrorCode}, unsentOp op sent = true →
      ∃ r, s.onHandle op f = returning r := by
    intro α op sent f hunsent
    obtain ⟨x, rfl, -⟩ := exists_of_unsent hunsent
    exact ⟨f x s, rfl⟩
  cases api <;> first | (cases h; done) | exact hhandle hlegal

namespace Held

/-- A full call only uses the handle it holds. -/
theorem legal (h : Held env [ref] ⟨s, []⟩)
    (hapi : api.configures? = some ref ∨ (Label.call api).ends = some ref) : api.legal s = true := by
  have href : ref ∈ s.unsentRefs := (h.mem ref).mpr List.mem_cons_self
  exact legal_of_unsent h.wf.reg h.wf.lock href hapi

/-- So its calls are steps of the client. -/
theorem call_step (h : Held env [ref] ⟨s, []⟩)
    (hapi : api.configures? = some ref ∨ (Label.call api).ends = some ref) :
    Sys.step env ⟨s, []⟩ (.call api) = some ⟨(s.call env api).1, (s.call env api).2⟩ := by
  simp [Sys.step, h.legal hapi]

/-- A configuration keeps the operation in preparation, whether it succeeds or not. -/
theorem config (h : Held env [ref] ⟨s, []⟩) (hapi : api.configures? = some ref) :
    Held env [ref] ⟨s.performCall env api, []⟩ := by
  obtain ⟨r, hcall⟩ := config_call env hapi (h.legal (Or.inl hapi))
  have hstep : Sys.step env ⟨s, []⟩ (.call api) = some ⟨r.1, [.ret r.2]⟩ := by
    rw [h.call_step (Or.inl hapi), hcall]
    rfl
  have hperform : s.performCall env api = r.1.emit (.apiReturn r.2) := by
    unfold performCall
    rw [hcall]
    rfl
  rw [hperform]
  have hk : Sys.keepsLock ⟨s, []⟩ (.call api) = true := by
    cases api <;> first | rfl | cases hapi
  have hends : (Label.call api).ends = none := by
    cases api <;> first | rfl | cases hapi
  exact ret (h.keep hk hends rfl hstep)

/-- Configurations keep the operation in preparation. -/
theorem configure {apis : List Api} (h : Held env [ref] ⟨s, []⟩)
    (hapis : ∀ api ∈ apis, api.configures? = some ref) :
    Held env [ref] ⟨(s.configure env apis).1, []⟩ := by
  induction apis generalizing s with
  | nil => exact h
  | cons api apis ih =>
    have hfirst := h.config (hapis api List.mem_cons_self)
    unfold Client.configure
    dsimp only
    split
    · exact ih hfirst fun api hapi => hapis api (List.mem_cons_of_mem _ hapi)
    · exact hfirst

/-- `send` and `cancel`: nothing is in preparation when they return. -/
theorem finish (h : Held env [ref] ⟨s, []⟩) (hends : (Label.call api).ends = some ref) :
    Held env [] ⟨s.performCall env api, []⟩ := by
  refine (h.release hends (h.call_step (Or.inr hends))).returns ?_
  cases api <;> first | (intro hprep; cases hprep; done) | cases hends

end Held

/-! ## Runs of full calls -/

/-- The calls a full call is composed of work on the operation it prepares. -/
structure FullCall.Composed (call : FullCall) : Prop where
  prepare : call.prepare.prepares? = some call.type
  configs : ∀ op, ∀ api ∈ call.configs op, api.configures? = some ⟨call.type, op⟩
  send : ∀ op, (Label.call (call.send op)).ends = some ⟨call.type, op⟩
  cancel : ∀ op, (Label.call (call.cancel op)).ends = some ⟨call.type, op⟩

/-- What an optional configuration contributes. -/
theorem configures_toList {α : Type} {x : Option α} {f : α → Api}
    (hf : ∀ c, (f c).configures? = some ref) : ∀ api ∈ (x.map f).toList, api.configures? = some ref := by
  cases x with
  | none => exact fun _ h => by cases h
  | some c =>
    intro api hapi
    rw [List.mem_singleton.mp hapi]
    exact hf c

theorem configures_append {xs ys : List Api} (hxs : ∀ api ∈ xs, api.configures? = some ref)
    (hys : ∀ api ∈ ys, api.configures? = some ref) : ∀ api ∈ xs ++ ys, api.configures? = some ref :=
  fun api hapi => (List.mem_append.mp hapi).elim (hxs api) (hys api)

theorem configures_map {α : Type} {xs : List α} {f : α → Api}
    (hf : ∀ c, (f c).configures? = some ref) : ∀ api ∈ xs.map f, api.configures? = some ref := by
  intro api hapi
  obtain ⟨c, -, rfl⟩ := List.mem_map.mp hapi
  exact hf c

/-- Every full call of the interface configures nothing but its own operation. -/
theorem FullApi.composed {call : FullCall} {fapi : FullApi} (h : fapi.full = some call) :
    call.Composed := by
  have hconnect : ∀ e e' basic will extra auth cb,
      (FullCall.connectFull e e' basic will extra auth cb).Composed := fun e e' basic will extra auth cb =>
    ⟨rfl, fun op => configures_append (configures_append (configures_append
      (configures_toList fun _ => rfl) (configures_toList fun _ => rfl)) (configures_toList fun _ => rfl))
      (configures_toList fun _ => rfl), fun _ => rfl, fun _ => rfl⟩
  have hsubscribe : ∀ e topics extra cb, (FullCall.subscribeFull e topics extra cb).Composed :=
    fun e topics extra cb => ⟨rfl, fun op => configures_append (configures_map fun _ => rfl)
      (configures_toList fun _ => rfl), fun _ => rfl, fun _ => rfl⟩
  have hunsubscribe : ∀ e topics cb, (FullCall.unsubscribeFull e topics cb).Composed :=
    fun e topics cb => ⟨rfl, fun op => configures_map fun _ => rfl, fun _ => rfl, fun _ => rfl⟩
  have hpublish : ∀ e basic extra cb, (FullCall.publishFull e basic extra cb).Composed :=
    fun e basic extra cb => ⟨rfl, fun op => configures_append (configures_toList fun _ => rfl)
      (configures_toList fun _ => rfl), fun _ => rfl, fun _ => rfl⟩
  cases fapi <;> first | (cases h; done) | skip
  all_goals cases h
  case connectFull => exact hconnect ..
  case connectSimple => exact hconnect ..
  case disconnect => exact ⟨rfl, fun op => configures_toList fun _ => rfl, fun _ => rfl, fun _ => rfl⟩
  case subscribeFull => exact hsubscribe ..
  case subscribeSimple => exact hsubscribe ..
  case unsubscribeFull => exact hunsubscribe ..
  case unsubscribeSimple => exact hunsubscribe ..
  case publishFull => exact hpublish ..
  case publishSimple => exact hpublish ..
  case reauth => exact ⟨rfl, fun op => configures_toList fun _ => rfl, fun _ => rfl, fun _ => rfl⟩

/-- A full call ends what it began. -/
theorem Held.perform {call : FullCall} (h : Held env [] ⟨s, []⟩) (hc : call.Composed) :
    Held env [] ⟨(call.perform env s).1, []⟩ := by
  unfold FullCall.perform
  dsimp only
  cases begun_of_call h hc.prepare with
  | refused hret hlock h =>
    rw [if_neg hret]
    exact h
  | made hret h =>
    rw [if_pos hret]
    have hconfigured := h.configure (hc.configs _)
    split
    · exact hconfigured.finish (hc.send _)
    · exact hconfigured.finish (hc.cancel _)

/-- A call without a handle prepares nothing. -/
theorem Held.handleless (h : Held env [] ⟨s, []⟩) (hapi : api.handleless = true) :
    Held env [] ⟨s.performCall env api, []⟩ := by
  have hlegal : api.legal s = true := by cases api <;> first | rfl | cases hapi
  have hk : Sys.keepsLock ⟨s, []⟩ (.call api) = true := by cases api <;> first | rfl | cases hapi
  have hstep : Sys.step env ⟨s, []⟩ (.call api) =
      some ⟨(s.call env api).1, (s.call env api).2⟩ := by
    simp [Sys.step, hlegal]
  have hends : (Label.call api).ends = none := by cases api <;> first | rfl | cases hapi
  refine (h.keep_nil hk hends hstep).returns ?_
  cases api <;> first | (intro hprep; cases hprep; done) | cases hapi

/-- A full call leaves the lock free. -/
theorem Held.fullStep {fapi : FullApi} (h : Held env [] ⟨s, []⟩) (hstep : fapi.step env s = some t) :
    Held env [] ⟨t, []⟩ := by
  have hfull : ∀ {call : FullCall}, fapi.full = some call →
      fapi.step env s = fapi.full.map (fun call => (call.perform env s).1) → Held env [] ⟨t, []⟩ := by
    intro call hcall heq
    rw [heq, hcall] at hstep
    cases hstep
    exact h.perform (FullApi.composed hcall)
  cases fapi with
  | plain api =>
    unfold FullApi.step at hstep
    dsimp only at hstep
    split at hstep
    · rename_i hapi
      cases hstep
      exact h.handleless hapi
    · cases hstep
  | _ => exact hfull rfl rfl

/-- So does every run of full calls. -/
theorem reach_full (h : (fullMachine env).Reach (fun _ _ => True) s) : Held env [] ⟨s, []⟩ := by
  have hinit : ∀ s, (fullMachine env).init s → Held env [] ⟨s, []⟩ := by
    rintro _ ⟨cbs, config, rfl⟩
    exact ⟨.start ⟨cbs, config, rfl⟩, fun r => Iff.rfl⟩
  exact h.invariant hinit fun s fapi t _ hs _ hstep => hs.fullStep hstep

/-- An application that uses full calls alone: what it does is a run of the library in which operations
leave their preparation through `send` or `cancel` only, nothing is in preparation between its calls, the
lock is free and was never released twice, and no call is refused for it. -/
theorem full_calls_free (h : (fullMachine env).Reach (fun _ _ => True) s) :
    (machine env).Reach (fun sys l => sys.keepsPreparation env l = true) ⟨s, []⟩ ∧
      s.preparationLocked = false ∧ s.unsentRefs = [] ∧
      .assertFailed .allowNextPrepare ∉ s.faults ∧
      ∀ fapi call, FullApi.full fapi = some call →
        (s.performCall env call.prepare).returned ≠ .preparationLocked := by
  have hheld := reach_full h
  refine ⟨hheld.reach, hheld.free, ?_, (reach_lockExact hheld.reach).sound, fun fapi call hcall => ?_⟩
  · exact List.eq_nil_iff_forall_not_mem.mpr fun r hr => by cases (hheld.mem r).mp hr
  · cases begun_of_call hheld (FullApi.composed hcall).prepare with
    | made hret _ =>
      rw [hret]
      simp
    | refused _ hlock _ => exact hlock

/-- A connection, a subscription without a topic, which is cancelled, and a publish that is on its way when
the connection is lost. The connection is started again. -/
def fullRun : List FullApi :=
  [.connectSimple 0 0 (some { clientId := some ['c'], keepAlive := 0, cleanStart := true }) true,
   .plain (packet (.connack { sessionPresent := false, reasonCode := ReasonCode.success })),
   .subscribeSimple 0 {} true,
   .publishSimple 0 (some { topic := some ['t'], qos := .atLeastOnceDelivery }) true,
   .plain (.notifyNetworkDisconnected 0),
   .connectSimple 0 0 (some { clientId := some ['c'], keepAlive := 0, cleanStart := true }) true]

/-- The application of the run connects again. -/
theorem full_calls_free_again :
    ∃ s, (fullMachine .dynamic).Reach (fun _ _ => True) s ∧ s.connectOps.length = 1 ∧
      s.preparationLocked = false ∧ s.unsentRefs = [] := by
  have hinit : (fullMachine .dynamic).init (Client.init {} {}) := ⟨{}, {}, rfl⟩
  have hexec : ((fullMachine .dynamic).exec (fun _ _ => true) (Client.init {} {}) fullRun).any
      (fun s => s.connectOps.length == 1) = true := by decide +kernel
  have hok : ∀ (s : Client) (fapi : FullApi), true = true → True := fun _ _ _ => trivial
  obtain ⟨s, hreach, hp⟩ := Machine.exists_reach_of_exec hok hinit hexec
  obtain ⟨-, hfree, hnone, -, -⟩ := full_calls_free hreach
  exact ⟨s, hreach, beq_iff_eq.mp hp, hfree, hnone⟩

end Mqtt5
