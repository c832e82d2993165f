import Mqtt5Client.Registered
import Mqtt5Client.Survival

/-!
# Mqtt5Client — who holds the preparation lock

`m_preparationLocked` is one bit for all operation types: set by a `…Prepare` function, cleared by `send`
and `cancel` of whatever operation they are called for. It stands for "one operation is in preparation"
as long as operations leave that state through their own `send` or `cancel` (`LockExact`): an operation
that is destroyed meanwhile takes the lock with it, and `SendOp::cancel`, which takes a publish without a
callback for one that was not sent, releases the lock of another. What an operation in preparation does not
survive is read off the state and the input (`Sys.abandons`); everything else, and every call on another
handle, leaves it in `m_ops`.
-/

namespace Mqtt5

open Client

variable {env : Env} {s t : Client} {sys sys' : Sys} {l : Label} {drops : SendOp → Prop}

/-! ## The invariant -/

/-- The lock is held exactly while one operation is in preparation, and no release found it free. -/
structure LockExact (s : Client) : Prop where
  locked : s.preparationLocked = true → ∃ ref, s.unsentRefs = [ref]
  free : s.preparationLocked = false → s.unsentRefs = []
  sound : s.LockSound

/-- The operations in preparation are told apart by their pointers. -/
theorem unsentRefs_nodup (hr : Reg s) (hl : LockReg s) : s.unsentRefs.Nodup := by
  unfold Client.unsentRefs
  refine List.nodup_append.mpr ⟨?_, ?_, fun r hr' r' hs heq => ?_⟩
  · exact (List.filter_sublist.map Prod.fst).nodup hl.distinct
  · have hd : (s.sendOps.map SendOp.id).Nodup := hr.distinct
    have hsub := (List.filter_sublist (p := fun op : SendOp => !op.sent) (l := s.sendOps)).map SendOp.id
    have hinj : Function.Injective fun id => (⟨.send, id⟩ : OpRef) := fun x y h => by
      rw [OpRef.mk.injEq] at h
      exact h.2
    have := (hsub.nodup hd).map hinj
    rwa [List.map_map] at this
  · -- a publish is not among the operations of the other types
    obtain ⟨k, hk, rfl⟩ := List.mem_map.mp hr'
    obtain ⟨op, -, rfl⟩ := List.mem_map.mp hs
    exact (lockKeys_type (List.mem_filter.mp hk).1).2.2 (by rw [heq])

/-! ## A configuration leaves `m_ops` -/

namespace Client

/-- What only logs leaves `m_ops`. -/
theorem Quiet.ops (h : Quiet .begins s t) : t.ops = s.ops := by
  rw [h.eq]

theorem ops_fail (m : String) (ec : ErrorCode) : (s.fail m ec).1.ops = s.ops := rfl

theorem ops_verifyPubTopic (topic : Str) (outgoing : Bool) :
    (s.verifyPubTopic env topic outgoing).1.ops = s.ops :=
  ((Quiet.refl s).verifyPubTopic env topic outgoing).ops

theorem ops_verifySubFilter (filter : Str) : (s.verifySubFilter env filter).1.ops = s.ops :=
  ((Quiet.refl s).verifySubFilter env filter).ops

theorem ops_addPropTo (props : PropsList) (p : Property) (full : String) (tooLong : Option String) :
    (s.addPropTo env props p full tooLong).1.1.ops = s.ops :=
  ((Quiet.refl s).addPropTo env props p full tooLong).ops

/-- The parts of a `config` function, one after the other. -/
theorem ops_andThenConfig {α : Type} {r : (Client × ErrorCode) × α}
    {next : α → Client → (Client × ErrorCode) × α} (hr : r.1.1.ops = s.ops)
    (hnext : ∀ x t, t.ops = s.ops → (next x t).1.1.ops = s.ops) :
    (andThenConfig r next).1.1.ops = s.ops := by
  unfold andThenConfig
  split
  · exact hnext _ _ hr
  · exact hr

section Connect

variable (op : ConnectOp)

theorem ops_storeConnect (r : (Client × ErrorCode) × ConnectOp) :
    (storeConnect r).1.ops = r.1.1.ops :=
  rfl

/-- A `config` function stores the operation in its place. -/
theorem connectConfigBasic_ops (config : ConnectBasicConfig) :
    (s.connectConfigBasic op config).1.ops = s.ops := by
  unfold connectConfigBasic storeConnect
  grind [ops_fail, setConnectOp]

theorem connectConfigWill_ops (config : ConnectWillConfig) :
    (s.connectConfigWill env op config).1.ops = s.ops := by
  have hprops := fun props => (connectWillProps_quiet (b := .begins) (s := s) env config props).ops
  unfold connectConfigWill storeConnect
  grind [ops_fail, setConnectOp, ops_addPropTo, ops_verifyPubTopic]

/-- Its six parts, of which the alias maximum touches the session. -/
theorem connectConfigExtra_ops (config : ConnectExtraConfig) :
    (s.connectConfigExtra env op config).1.ops = s.ops := by
  have hadd : ∀ {t : Client} {x : ConnectOp} {p : Property} {f : ConnectOp → ConnectOp},
      t.ops = s.ops → (t.connectAddProp env x p f).1.1.ops = s.ops := by
    intro t x p f ht
    unfold connectAddProp
    dsimp only
    split
    · exact (ops_addPropTo _ _ _ _).trans ht
    · exact (ops_addPropTo _ _ _ _).trans ht
  have hmax : ∀ {t : Client} {x : ConnectOp} {n : Nat}, t.ops = s.ops →
      (t.connectAliasMaximum env x n).1.1.ops = s.ops := by
    intro t x n ht
    unfold connectAliasMaximum
    split
    · exact ht
    · split
      · exact ht
      · dsimp only
        split
        · exact hadd ht
        · exact hadd ht
  unfold connectConfigExtra
  refine (ops_storeConnect _).trans ?_
  refine ops_andThenConfig (ops_andThenConfig (ops_andThenConfig (ops_andThenConfig
    (ops_andThenConfig ?_ ?_) ?_) ?_) ?_) ?_
  · split
    · exact hadd rfl
    · rfl
  · intro x t ht
    dsimp only
    split
    · exact hadd ht
    · exact ht
  · intro x t ht
    dsimp only
    split
    · split
      · exact ht
      · exact hadd ht
    · exact ht
  · intro x t ht
    dsimp only
    split
    · exact hmax ht
    · exact ht
  · intro x t ht
    dsimp only
    split
    · exact hadd ht
    · exact ht
  · intro x t ht
    dsimp only
    split
    · exact hadd ht
    · exact ht

theorem connectConfigAuth_ops (config : AuthConfig) :
    (s.connectConfigAuth env op config).1.ops = s.ops := by
  unfold connectConfigAuth storeConnect
  grind [ops_fail, setConnectOp, ops_addPropTo]

end Connect

theorem disconnectConfigBasic_ops (op : DisconnectOp) (config : DisconnectConfig) :
    (s.disconnectConfigBasic env op config).1.ops = s.ops := by
  unfold disconnectConfigBasic
  refine (show (Client.ops (Prod.fst (Prod.fst _))) = s.ops from ?_)
  refine ops_andThenConfig ?_ fun _ _ h => ?_
  · split
    · rfl
    · split
      · rfl
      · exact ops_addPropTo _ _ _ _
  · split
    · exact h
    · exact (ops_addPropTo _ _ _ _).trans h

theorem subscribeConfigTopic_ops (op : SubscribeOp) (config : SubscribeTopicConfig) :
    (s.subscribeConfigTopic env op config).1.ops = s.ops := by
  unfold subscribeConfigTopic
  grind [ops_fail, setSubscribeOp, ops_verifySubFilter]

theorem subscribeConfigExtra_ops (op : SubscribeOp) (subId : Nat) :
    (s.subscribeConfigExtra env op subId).1.ops = s.ops := by
  unfold subscribeConfigExtra
  split
  · rfl
  · split
    · rfl
    · split
      · rfl
      · exact ops_addPropTo _ _ _ _

theorem unsubscribeConfigTopic_ops (op : UnsubscribeOp) (topic : Option Str) :
    (s.unsubscribeConfigTopic env op topic).1.ops = s.ops := by
  unfold unsubscribeConfigTopic
  grind [ops_fail, setUnsubscribeOp, ops_verifySubFilter]

theorem reauthConfigAuth_ops (op : ReauthOp) (config : AuthConfig) :
    (s.reauthConfigAuth env op config).1.ops = s.ops := by
  unfold reauthConfigAuth
  grind [ops_fail, setReauthOp, ops_addPropTo, andThenConfig]

theorem sendConfigBasic_ops (op : SendOp) (config : PublishBasicConfig) :
    (s.sendConfigBasic env op config).1.ops = s.ops := by
  unfold sendConfigBasic configPayload
  grind [ops_fail, modifySendOp, ops_verifyPubTopic]

/-- The properties of a publish are added one by one. -/
theorem sendConfigExtra_ops (op : SendOp) (config : PublishExtraConfig) :
    (s.sendConfigExtra env op config).1.ops = s.ops := by
  have hadd : ∀ (t : Client) (x : SendOp) (p : Property) (full : String) (tooLong : Option String),
      (t.sendAddProp env x p full tooLong).1.1.ops = t.ops := by
    intro t x p full tooLong
    unfold sendAddProp
    grind [ops_fail, modifySendOp]
  unfold sendConfigExtra
  refine ops_andThenConfig (ops_andThenConfig (ops_andThenConfig (ops_andThenConfig ?_ ?_) ?_) ?_) ?_ <;>
    grind [ops_fail, ops_verifyPubTopic]

end Client

namespace Client

theorem ops_addUserPropToList (props : PropsList) (key value : Option Str) :
    (s.addUserPropToList env props key value).1.1.ops = s.ops :=
  ((Quiet.refl s).addUserPropToList env props key value).ops

theorem connectAddUserProp_ops (op : ConnectOp) (key value : Option Str) :
    (s.connectAddUserProp env op key value).1.ops = s.ops :=
  ops_addUserPropToList _ _ _

theorem connectAddWillUserProp_ops (op : ConnectOp) (key value : Option Str) :
    (s.connectAddWillUserProp env op key value).1.ops = s.ops := by
  unfold connectAddWillUserProp
  split
  · rfl
  · exact ops_addUserPropToList _ _ _

/-- The alias tables are apart from the operations. -/
theorem allocPubTopicAlias_ops (topic : Option Str) (count : Nat) :
    (s.allocPubTopicAlias env topic count).1.ops = s.ops := by
  unfold allocPubTopicAlias addTopicAlias Client.assert
  grind [ops_fail, setSendAliases, setFreeAliases, fault]

theorem freePubTopicAlias_ops (topic : Option Str) : (s.freePubTopicAlias env topic).1.ops = s.ops := by
  unfold freePubTopicAlias
  grind [ops_fail, setSendAliases, setFreeAliases]

theorem callSetting_ops (supported : Bool) (f : ConfigState → ConfigState) :
    (s.callSetting supported f).1.ops = s.ops := by
  unfold callSetting
  split
  · rfl
  · rfl

end Client

/-! ## Calls -/

namespace Waits

variable {ref : OpRef} {n : Nat}

theorem allowNextPrepare (h : Waits ref n s) : Waits ref n s.allowNextPrepare := by
  obtain ⟨faults, heq⟩ := allowNextPrepare_eq s
  rw [heq]
  exact h.same rfl rfl rfl

/-- `cancel` of another operation. -/
theorem cancel (h : Waits ref n s) {r : OpRef} (hne : ref ≠ r) (cb : Bool) :
    Waits ref n ((if cb then s else s.allowNextPrepare).completeRef r) := by
  split
  · exact h.completeRef hne
  · exact h.allowNextPrepare.completeRef hne

/-- The last part of a `send` function of another operation: the request, or the completion when it cannot
be sent. -/
theorem request (h : Waits ref n s) {complete : Client → Client}
    (hcomplete : ∀ u, Waits ref n u → Waits ref n (complete u)) {msg : OutMsg} (hops : t.ops = s.ops)
    (hsend : t.sendOps = s.sendOps)
    (hexpiry : t.sessionState.sessionExpiryIntervalMs = s.sessionState.sessionExpiryIntervalMs) :
    Waits ref n (if (t.sendMessage env msg none).2 ≠ .success then
      (complete (t.sendMessage env msg none).1, (t.sendMessage env msg none).2, false)
      else ((t.sendMessage env msg none).1, .success, true)).1 := by
  have hsent := (h.same hops hsend hexpiry).sendMessage env msg none
  split
  · exact hcomplete _ hsent
  · exact hsent

theorem allocPacketId (h : Waits ref n s) : Waits ref n (s.allocPacketId env).1 := by
  unfold Client.allocPacketId
  dsimp only
  split
  · exact h.errorLog _
  · exact h.same rfl rfl rfl

/-- The three checks of a `send` function of another operation, which completes it when one fails. -/
theorem checks (h : Waits ref n s) {complete : Client → Client}
    (hcomplete : ∀ u, Waits ref n u → Waits ref n (complete u)) {c c' c'' : Prop} [Decidable c]
    [Decidable c'] [Decidable c''] {m m' m'' : String} {ec ec' ec'' : ErrorCode}
    {x : Client × ErrorCode × Bool} (hx : Waits ref n x.1) :
    Waits ref n (if c then s.abandon complete m ec else if c' then s.abandon complete m' ec'
      else if c'' then s.abandon complete m'' ec'' else x).1 := by
  have habandon : ∀ m ec, Waits ref n (s.abandon complete m ec).1 := fun m _ => hcomplete _ (h.errorLog m)
  split
  · exact habandon _ _
  · split
    · exact habandon _ _
    · split
      · exact habandon _ _
      · exact hx

/-- `send` of another operation marks it, and completes it when it cannot be sent. -/
theorem connectSend (h : Waits ref n s) {op : ConnectOp} (hne : ref ≠ ⟨.connect, op.id⟩) (cb : Bool) :
    Waits ref n (s.connectSend env op cb).1 := by
  have hmarked : Waits ref n (s.allowNextPrepare.setConnectOp { op with sent := true }) :=
    h.allowNextPrepare.same rfl rfl rfl
  have hdone : ∀ u, Waits ref n u → Waits ref n (u.opCompleteConnect op.id) :=
    fun u hu => hu.completeRef hne
  exact hmarked.checks hdone (hmarked.request hdone rfl rfl rfl)

/-- `send` of another subscription. -/
theorem subscribeSend (h : Waits ref n s) {op : SubscribeOp} (hne : ref ≠ ⟨.subscribe, op.id⟩) (cb : Bool) :
    Waits ref n (s.subscribeSend env op cb).1 := by
  have hmarked : Waits ref n (s.allowNextPrepare.setSubscribeOp { op with sent := true }) :=
    h.allowNextPrepare.same rfl rfl rfl
  have hdone : ∀ u, Waits ref n u → Waits ref n (u.opCompleteSubscribe op.id) :=
    fun u hu => hu.completeRef hne
  exact hmarked.checks hdone (hmarked.allocPacketId.request hdone rfl rfl rfl)

theorem unsubscribeSend (h : Waits ref n s) {op : UnsubscribeOp} (hne : ref ≠ ⟨.unsubscribe, op.id⟩)
    (cb : Bool) : Waits ref n (s.unsubscribeSend env op cb).1 := by
  have hmarked : Waits ref n (s.allowNextPrepare.setUnsubscribeOp { op with sent := true }) :=
    h.allowNextPrepare.same rfl rfl rfl
  have hdone : ∀ u, Waits ref n u → Waits ref n (u.opCompleteUnsubscribe op.id) :=
    fun u hu => hu.completeRef hne
  exact hmarked.checks hdone (hmarked.allocPacketId.request hdone rfl rfl rfl)

theorem reauthSend (h : Waits ref n s) {op : ReauthOp} (hne : ref ≠ ⟨.reauth, op.id⟩) (cb : Bool) :
    Waits ref n (s.reauthSend env op cb).1 := by
  have hmarked : Waits ref n (s.allowNextPrepare.setReauthOp { op with sent := true }) :=
    h.allowNextPrepare.same rfl rfl rfl
  have hdone : ∀ u, Waits ref n u → Waits ref n (u.opCompleteReauth op.id) :=
    fun u hu => hu.completeRef hne
  exact hmarked.checks hdone (hmarked.request hdone rfl rfl rfl)

/-- `send` of another publish may have to wait its turn. -/
theorem sendOpSend (h : Waits ref n s) (hr : Reg s) {op : SendOp} (hop : op ∈ s.sendOps)
    (hne : ref ≠ ⟨.send, op.id⟩) (cb : Bool) : Waits ref n (s.sendOpSend env op cb).1 := by
  have hset : ∀ {u : Client} {x : SendOp}, x.id = op.id → Waits ref n u →
      Waits ref n (u.modifySendOp op.id fun _ => x) := fun hx hu =>
    hu.modifySendOp hne fun y _ hy => hx.trans hy.symm
  have hmarked : Waits ref n ((s.allowNextPrepare.emit (.publishSend op.id op.qos)).modifySendOp op.id
      fun _ => { op with sent := true }) := hset rfl (h.allowNextPrepare.emit _)
  rcases sendOpSend_cases hr hop env cb with ⟨text, ec, hres⟩ | ⟨pid, u, -, -, hstored, hres⟩
  · rw [hres]
    exact (hmarked.errorLog text).sendOpComplete hne
  · have hu : Waits ref n u := by
      cases hstored with
      | plain hqos => exact hset rfl hmarked
      | taken hqos htimer htopic => exact hset rfl hmarked.allocPacketId
    rw [hres]
    split
    · exact (hu.assert _ _).modifySendOp (f := ({ · with paused := true })) hne fun _ _ _ => rfl
    · exact hu

/-- A publish is added behind the operations there are. -/
theorem publishPrepare (h : Waits ref n s) (env : Env) : some ref ∈ (s.publishPrepare env).1.ops := by
  have halloc := SameOps.timerAlloc env s (s.timerAlloc env).2.isSome
  have hassert : some ref ∈ ((s.timerAlloc env).1.assert .timer (s.timerAlloc env).2.isSome).ops := by
    rw [halloc.ops]
    exact h.mem
  unfold Client.publishPrepare
  dsimp only
  split
  · exact h.mem
  · split
    · show some ref ∈ (s.probeSendOp env).ops
      unfold probeSendOp
      rw [timerFree_eq]
      exact hassert
    · exact List.mem_append_left _ hassert

/-- A call leaves an operation in preparation alone, unless it is its own `send` or `cancel`. -/
theorem call (h : Waits ref n s) (hr : Reg s) {api : Api} (hends : (Label.call api).ends ≠ some ref) :
    some ref ∈ (s.call env api).1.ops := by
  have hhandle : ∀ {α : Type} {x : Option α} {f : α → Client → Client × ErrorCode},
      (∀ op, x = some op → some ref ∈ (f op s).1.ops) → some ref ∈ (s.onHandle x f).1.ops := by
    intro α x f hf
    cases x with
    | none => exact h.mem
    | some op => exact hf op rfl
  -- a configuration leaves the pointers, a `cancel` or `send` is about another operation
  have hconfig : ∀ {α : Type} {x : Option α} {f : α → Client → Client × ErrorCode},
      (∀ op, (f op s).1.ops = s.ops) → some ref ∈ (s.onHandle x f).1.ops :=
    fun hf => hhandle fun op _ => (hf op).symm ▸ h.mem
  have hcancel : ∀ {α : Type} {x : Option α} {f : α → Client → Client},
      (∀ op, x = some op → Waits ref n (f op s)) → some ref ∈ (s.cancelHandle x f).1.ops :=
    fun hf => hhandle fun op hop => (hf op hop).mem
  have hsend : ∀ {α : Type} {x : Option α} {f : α → Client → Client × ErrorCode × Bool}
      {next : α → Client → List Task}, (∀ op, x = some op → Waits ref n (f op s).1) →
      some ref ∈ (s.sendHandle x f next).1.ops := by
    intro α x f next hf
    cases x with
    | none => exact h.mem
    | some op => exact (hf op rfl).mem
  have hother : ∀ {type : OpType} {id id' : OpId}, some (⟨type, id⟩ : OpRef) ≠ some ref → id' = id →
      ref ≠ ⟨type, id'⟩ := fun hne hid heq => hne (by rw [heq, hid])
  cases api
  case tick ms =>
    show some ref ∈ (s.tick ms).1.ops
    exact Waits.mem (Waits.same (h.assert .tick (s.apiEnterCount == 0)) rfl rfl rfl)
  case processData | notifyNetworkDisconnected => exact h.mem
  case connectPrepare elapsed =>
    show some ref ∈ (s.beginConnectPrepare elapsed).1.ops
    unfold beginConnectPrepare
    dsimp only
    split
    · exact h.mem
    · split
      · exact h.mem
      · exact h.mem
  case disconnectPrepare => exact h.prepareWith ⟨⟨.disconnect, _⟩, rfl⟩
  case subscribePrepare => exact h.prepareWith ⟨⟨.subscribe, _⟩, rfl⟩
  case unsubscribePrepare => exact h.prepareWith ⟨⟨.unsubscribe, _⟩, rfl⟩
  case reauthPrepare => exact h.prepareWith ⟨⟨.reauth, _⟩, rfl⟩
  case publishPrepare => exact h.publishPrepare env
  case connectConfigBasic => exact hconfig fun op => connectConfigBasic_ops op _
  case connectConfigWill => exact hconfig fun op => connectConfigWill_ops op _
  case connectConfigExtra => exact hconfig fun op => connectConfigExtra_ops op _
  case connectConfigAuth => exact hconfig fun op => connectConfigAuth_ops op _
  case connectAddUserProp => exact hconfig fun op => connectAddUserProp_ops op _ _
  case connectAddWillUserProp => exact hconfig fun op => connectAddWillUserProp_ops op _ _
  case disconnectConfigBasic => exact hconfig fun op => disconnectConfigBasic_ops op _
  case subscribeConfigTopic => exact hconfig fun op => subscribeConfigTopic_ops op _
  case subscribeConfigExtra => exact hconfig fun op => subscribeConfigExtra_ops op _
  case unsubscribeConfigTopic => exact hconfig fun op => unsubscribeConfigTopic_ops op _
  case reauthConfigAuth => exact hconfig fun op => reauthConfigAuth_ops op _
  case publishConfigBasic => exact hconfig fun op => sendConfigBasic_ops op _
  case publishConfigExtra => exact hconfig fun op => sendConfigExtra_ops op _
  case publishSetResendAttempts =>
    refine hconfig fun op => ?_
    unfold sendSetResendAttempts
    split
    · rfl
    · rfl
  case disconnectAddUserProp | subscribeAddUserProp | unsubscribeAddUserProp | reauthAddUserProp |
      publishAddUserProp =>
    exact hconfig fun op => ops_addUserPropToList _ _ _
  case connectSetResponseTimeout | subscribeSetResponseTimeout | unsubscribeSetResponseTimeout |
      reauthSetResponseTimeout =>
    exact hconfig fun op => rfl
  case connectSend id cb elapsed =>
    exact hsend fun op hop => h.connectSend (hother hends (Keyed.mem_of_find hop).2) cb
  case subscribeSend id cb elapsed =>
    exact hsend fun op hop => h.subscribeSend (hother hends (Keyed.mem_of_find hop).2) cb
  case unsubscribeSend id cb elapsed =>
    exact hsend fun op hop => h.unsubscribeSend (hother hends (Keyed.mem_of_find hop).2) cb
  case reauthSend id cb elapsed =>
    exact hsend fun op hop => h.reauthSend (hother hends (Keyed.mem_of_find hop).2) cb
  case disconnectSend id elapsed =>
    exact hsend fun op _ => h.allowNextPrepare.same rfl rfl rfl
  case publishSend id cb elapsed =>
    exact hsend fun op hop => h.sendOpSend hr (mem_of_sendOp? hop).1 (hother hends (mem_of_sendOp? hop).2) cb
  case connectCancel id => exact hcancel fun op hop => h.cancel (hother hends (Keyed.mem_of_find hop).2) op.cb
  case subscribeCancel id =>
    exact hcancel fun op hop => h.cancel (hother hends (Keyed.mem_of_find hop).2) op.cb
  case unsubscribeCancel id =>
    exact hcancel fun op hop => h.cancel (hother hends (Keyed.mem_of_find hop).2) op.cb
  case reauthCancel id => exact hcancel fun op hop => h.cancel (hother hends (Keyed.mem_of_find hop).2) op.cb
  case disconnectCancel id =>
    exact hcancel fun op hop => h.cancel (hother hends (Keyed.mem_of_find hop).2) false
  case publishCancel id =>
    refine hcancel fun op hop => Waits.sendOpComplete ?_ (hother hends (mem_of_sendOp? hop).2)
    split
    · exact h
    · exact h.allowNextPrepare
  case pubTopicAliasAlloc => exact (allocPubTopicAlias_ops _ _).symm ▸ h.mem
  case pubTopicAliasFree => exact (freePubTopicAlias_ops _).symm ▸ h.mem
  case publishSetOrdering => exact h.mem
  case setDefaultResponseTimeout ms =>
    show some ref ∈ (s.call env (.setDefaultResponseTimeout ms)).1.ops
    unfold Client.call
    dsimp only
    split
    · exact h.mem
    · exact h.mem
  case setVerifyOutgoingTopic | setVerifyIncomingTopic | setVerifySubFilter =>
    exact (callSetting_ops _ _).symm ▸ h.mem

end Waits

/-! ## Steps -/

/-- The step is not survived by an operation in preparation: it carries on with a call, and what it is
about takes the operation or ends the connection or the session it depends on. -/
def Sys.abandons (env : Env) (sys : Sys) (l : Label) : Bool :=
  match l, sys.pending with
  | .run, task :: _ => sys.client.unsentRefs.any fun ref => sys.client.taskLoses env task ref
  | _, _ => false

/-- The step cancels a publish that was sent without a callback. -/
def Sys.cancelsSilent (sys : Sys) : Label → Bool
  | .call (.publishCancel id) => (sys.client.sendOp? id).any fun op => op.sent && !op.cb
  | _ => false

/-- Operations leave their preparation through their own `send` or `cancel` only. -/
def Sys.keepsPreparation (env : Env) (sys : Sys) (l : Label) : Bool :=
  !sys.abandons env l && !sys.cancelsSilent l

/-- An operation can be used as long as it is in `m_ops`. -/
theorem mem_liveRefs_iff {ref : OpRef} : ref ∈ s.liveRefs ↔
    (ref.type ≠ .keepAlive ∧ ref.type ≠ .recv) ∧ ref.id ∈ s.ids ref.type := by
  obtain ⟨type, id⟩ := ref
  cases type <;> simp [liveRefs, lockKeys, ids]

/-- An operation in preparation can be used. -/
theorem liveRefs_of_unsent {ref : OpRef} (h : ref ∈ s.unsentRefs) : ref ∈ s.liveRefs := by
  rcases mem_unsentRefs.mp h with ⟨p, -, hkey⟩ | ⟨op, hop, -, rfl⟩
  · exact mem_liveRefs.mpr (Or.inl ⟨p, hkey⟩)
  · exact mem_liveRefs.mpr (Or.inr ⟨op, hop, rfl⟩)

/-- An operation in preparation is registered and waits. -/
theorem waits_of_unsent (hr : Reg s) (hreg : Registered s) {ref : OpRef} (href : ref ∈ s.unsentRefs) :
    Waits ref s.sessionState.sessionExpiryIntervalMs s := by
  have hid := (mem_liveRefs_iff.mp (liveRefs_of_unsent href)).2
  refine ⟨hreg.mem.mpr hid, fun htype => ?_, fun op hop heq => ?_, rfl⟩
  · rw [htype] at hid
    exact List.mem_map.mp hid
  · rcases mem_unsentRefs.mp href with ⟨p, -, hkey⟩ | ⟨x, hx, hsent, hxref⟩
    · rw [heq] at hkey
      exact absurd rfl (lockKeys_type hkey).2.2
    · rw [heq, OpRef.mk.injEq] at hxref
      obtain rfl := hr.distinct.eq hop hx hxref.2
      obtain ⟨hpublished, -, hpaused⟩ := (hr.wf op hop).of_unsent hsent
      unfold SendOp.fresh
      rw [hpublished, hpaused]
      rfl

/-- A step that an operation in preparation survives leaves it there, unless it is its own `send` or
`cancel`. -/
theorem mem_liveRefs_of_step (hw : SysWf sys) (hreg : Registered sys.client) (hreg' : Registered sys'.client)
    (hstep : sys.step env l = some sys') (hok : sys.abandons env l = false) {ref : OpRef}
    (href : ref ∈ sys.client.unsentRefs) : l.ends = some ref ∨ ref ∈ sys'.client.liveRefs := by
  have hwaits := waits_of_unsent hw.reg hreg href
  have htypes := (mem_liveRefs_iff.mp (liveRefs_of_unsent href)).1
  refine or_iff_not_imp_left.mpr fun hends => mem_liveRefs_iff.mpr ⟨htypes, hreg'.mem.mp ?_⟩
  cases l with
  | call api =>
    obtain ⟨-, -, rfl⟩ := call_step hstep
    exact hwaits.call hw.reg hends
  | run =>
    obtain ⟨task, rest, hpending, rfl⟩ := run_step hstep
    refine hwaits.runTask hw.reg htypes.2 ?_
    unfold Sys.abandons at hok
    rw [hpending] at hok
    exact Bool.eq_false_iff.mpr (List.any_eq_false.mp hok ref href)

/-- A step keeps the lock exact: it leaves the preparations alone, ends the only one, or begins one while
there is none. -/
theorem step_lockExact (hw : SysWf sys) (hreg : Registered sys.client) (hreg' : Registered sys'.client)
    (hstep : sys.step env l = some sys')
    (hok : sys.keepsPreparation env l = true) (h : LockExact sys.client) :
    LockExact sys'.client := by
  unfold Sys.keepsPreparation at hok
  rw [Bool.and_eq_true, Bool.not_eq_true', Bool.not_eq_true'] at hok
  obtain ⟨habandons, hcancels⟩ := hok
  have hlock := step_lock hw hstep
  have hlt : LockReg sys'.client := hlock.lockReg hw.lock
  have hrt : Reg sys'.client :=
    (step_effects (a := false) (b := .begins) hw hstep (by simp) (.begins _)).reg hw.reg
  have hnd := unsentRefs_nodup hrt hlt
  cases hlock with
  | keep hrefs hlocked hunsent hlive hsound =>
    refine ⟨fun hl => ?_, fun hf => ?_, hsound h.sound⟩
    · rw [hlocked] at hl
      obtain ⟨ref, href⟩ := h.locked hl
      have hmem : ref ∈ sys.client.unsentRefs := by rw [href]; exact List.mem_singleton.mpr rfl
      -- it is still there: its own call would have released the lock
      have hin : ref ∈ sys'.client.unsentRefs := by
        refine hlive hw.lock.distinct ref hmem ?_
        refine (mem_liveRefs_of_step hw hreg hreg' hstep habandons hmem).resolve_left fun hends => ?_
        cases l with
        | run => cases hends
        | call api =>
          obtain ⟨-, hlegal, rfl⟩ := call_step hstep
          have hrel := (call_released env hw hlegal hends hmem).lock
          rw [show sys.client.preparationLocked = true from hl] at hlocked
          rw [show (sys.client.call env api).1.preparationLocked = true from hlocked] at hrel
          cases hrel
      refine ⟨ref, List.perm_singleton.mp ((List.perm_ext_iff_of_nodup hnd (by simp)).mpr fun r => ?_)⟩
      rw [List.mem_singleton]
      refine ⟨fun hr => ?_, fun hr => hr ▸ hin⟩
      have := hunsent r hr
      rwa [href, List.mem_singleton] at this
    · rw [hlocked] at hf
      refine List.eq_nil_iff_forall_not_mem.mpr fun r hr => ?_
      have := hunsent r hr
      rw [h.free hf] at this
      cases this
  | release ref hrel =>
    have hlocked : sys.client.preparationLocked = true := by
      cases hl : sys.client.preparationLocked with
      | true => rfl
      | false => have := hrel.mem; rw [h.free hl] at this; cases this
    obtain ⟨ref', href'⟩ := h.locked hlocked
    have hmem := hrel.mem
    rw [href', List.mem_singleton] at hmem
    refine ⟨fun hl => ?_, fun _ => ?_, hrel.sound hlocked h.sound⟩
    · rw [hrel.lock] at hl
      cases hl
    · refine List.eq_nil_iff_forall_not_mem.mpr fun r hr => ?_
      obtain ⟨hr, hne⟩ := hrel.unsent r hr
      rw [href', List.mem_singleton] at hr
      exact hne (hr.trans hmem.symm)
  | drop op hop hsent hcb hdrops hrefs =>
    subst hdrops
    have hfind : sys.client.sendOp? op.id = some op := sendOp?_eq hw.reg.distinct hop
    simp [Sys.cancelsSilent, hfind, hsent, hcb] at hcancels
  | prepare ref hfree hlocked hid hlt' hrefs hops hconnect hunsent hmem hsane hsound =>
    refine ⟨fun _ => ⟨ref, ?_⟩, fun hf => absurd (hlocked.symm.trans hf) (by simp), hsound h.sound⟩
    refine List.perm_singleton.mp ((List.perm_ext_iff_of_nodup hnd (by simp)).mpr fun r => ?_)
    rw [List.mem_singleton]
    refine ⟨fun hr => (hunsent r hr).resolve_left fun hs => ?_, fun hr => hr ▸ hmem⟩
    rw [h.free hfree] at hs
    cases hs

/-- The lock is exact in every state of such a run. -/
theorem reach_lockExact (h : (machine env).Reach (fun sys l => sys.keepsPreparation env l = true) sys) :
    LockExact sys.client := by
  have hinit : ∀ sys, (machine env).init sys → LockExact sys.client := by
    rintro _ ⟨cbs, config, rfl⟩
    exact ⟨fun h => absurd h Bool.false_ne_true, fun _ => rfl, List.not_mem_nil⟩
  exact h.invariant hinit fun sys l sys' hs hinv hok hstep =>
    step_lockExact (reach_wf hs) (reach_registered hs) (reach_registered (hs.step hok hstep)) hstep hok hinv

/-! ## Refusals -/

/-- What the six `…Prepare` functions do and return. -/
def Client.prepareCalls (env : Env) (s : Client) : List (Client × ErrorCode) :=
  [s.connectPrepare env, s.disconnectPrepare env, s.subscribePrepare env, s.unsubscribePrepare env,
    s.publishPrepare env, s.reauthPrepare env]

/-- A `…Prepare` function that is refused for the lock finds it held. -/
theorem prepareWith_refused {checks : List PrepareCheck} {create : Client → Client}
    (hchecks : ∀ c ∈ checks, c.ec = .preparationLocked → c.fails = s.preparationLocked)
    (h : (s.prepareWith checks create).2 = .preparationLocked) : s.preparationLocked = true := by
  unfold prepareWith at h
  split at h
  · rename_i c hc
    rw [← hchecks c (List.mem_of_find?_eq_some hc) h]
    exact List.find?_some hc
  · cases h

/-- The refusal for the lock is the check of the lock. -/
theorem prepareCalls_refused : ∀ r ∈ s.prepareCalls env, r.2 = .preparationLocked →
    s.preparationLocked = true := by
  intro r hr h
  simp only [prepareCalls, List.mem_cons, List.not_mem_nil, or_false] at hr
  rcases hr with rfl | rfl | rfl | rfl | rfl | rfl
  case inr.inr.inr.inr.inl =>
    unfold publishPrepare at h
    dsimp only at h
    split at h
    · rename_i c hc
      have hmem := List.mem_of_find?_eq_some hc
      have h : c.ec = .preparationLocked := h
      simp only [connectionChecks, List.cons_append, List.nil_append, List.mem_cons,
        List.not_mem_nil, or_false] at hmem
      rcases hmem with rfl | rfl | rfl | rfl | rfl <;> cases h
    · split at h
      · assumption
      · cases h
  all_goals
    refine prepareWith_refused (fun c hc hec => ?_) h
    simp only [connectionChecks, List.cons_append, List.nil_append, List.mem_cons, List.not_mem_nil,
      or_false] at hc
  · rcases hc with rfl | rfl | rfl | rfl | rfl | rfl <;> first | rfl | cases hec
  · rcases hc with rfl | rfl | rfl | rfl | rfl | rfl | rfl <;> first | rfl | cases hec
  · rcases hc with rfl | rfl | rfl | rfl | rfl | rfl <;> first | rfl | cases hec
  · rcases hc with rfl | rfl | rfl | rfl | rfl | rfl <;> first | rfl | cases hec
  · rcases hc with rfl | rfl | rfl | rfl | rfl | rfl | rfl | rfl <;> first | rfl | cases hec

/-- While operations leave their preparation through their own `send` or `cancel` only, the lock is held
if and only if exactly one operation is in preparation and otherwise none is, no release finds the lock
free, and no `…Prepare` function is refused for the lock without an operation in preparation. -/
theorem preparation_lock_exact
    (h : (machine env).Reach (fun sys l => sys.keepsPreparation env l = true) sys) :
    (sys.client.preparationLocked = true ↔ ∃ ref, sys.client.unsentRefs = [ref]) ∧
      (sys.client.preparationLocked = false → sys.client.unsentRefs = []) ∧
      .assertFailed .allowNextPrepare ∉ sys.client.faults ∧
      ∀ r ∈ sys.client.prepareCalls env, r.2 = .preparationLocked → sys.client.unsentRefs ≠ [] := by
  have hinv := reach_lockExact h
  refine ⟨⟨hinv.locked, fun ⟨ref, href⟩ => ?_⟩, hinv.free, hinv.sound, fun r hr hec => ?_⟩
  · cases hl : sys.client.preparationLocked with
    | true => rfl
    | false => rw [hinv.free hl] at href; cases href
  · obtain ⟨ref, href⟩ := hinv.locked (prepareCalls_refused r hr hec)
    rw [href]
    exact List.cons_ne_nil _ _

/-- A subscription in preparation holds the lock. -/
theorem preparation_lock_exact_subscribe :
    ∃ sys, (machine .dynamic).Reach (fun sys l => sys.keepsPreparation .dynamic l = true) sys ∧
      sys.client.unsentRefs = [⟨.subscribe, 2⟩] ∧ sys.client.preparationLocked = true := by
  obtain ⟨sys, hreach, hp⟩ := exists_reach_ok .dynamic
    (fun sys l => sys.keepsPreparation .dynamic l = true)
    (connectCalls true {} { sessionPresent := false, reasonCode := ReasonCode.success } ++
      [(.subscribePrepare, 1)]) (fun sys => sys.client.unsentRefs = [⟨.subscribe, 2⟩])
    (by decide +kernel)
  exact ⟨sys, hreach, hp, (preparation_lock_exact hreach).1.mpr ⟨_, hp⟩⟩

/-- A subscription is in preparation when the connection is lost. -/
def lostPreparation : List (Api × Nat) :=
  connectCalls true {} { sessionPresent := false, reasonCode := ReasonCode.success } ++
    [(.subscribePrepare, 1), (.notifyNetworkDisconnected 0, 3), (.connectPrepare 0, 5)]

/-- A publish is sent without a callback and cancelled. -/
def silentPublish : List (Api × Nat) :=
  connectCalls true {} { sessionPresent := false, reasonCode := ReasonCode.success } ++
    [(.publishPrepare, 1),
     (.publishConfigBasic 2 { topic := some ['t'], qos := .atLeastOnceDelivery }, 1),
     (.publishSend 2 false 0, 4), (.publishCancel 2, 1)]

/-- The lock stays held without an operation in preparation, so that a connection cannot be prepared;
and a release finds the lock free. -/
theorem preparation_lock_lost :
    (∃ sys, (machine .dynamic).Reach (fun _ _ => True) sys ∧ sys.pending = [] ∧
      sys.client.preparationLocked = true ∧ sys.client.unsentRefs = [] ∧
      sys.client.log.getLast? = some (.apiReturn .preparationLocked)) ∧
    ∃ sys, (machine .dynamic).Reach (fun _ _ => True) sys ∧ sys.pending = [] ∧
      .assertFailed .allowNextPrepare ∈ sys.client.faults :=
  ⟨exists_reach_fresh .dynamic lostPreparation (fun sys => sys.pending = [] ∧
      sys.client.preparationLocked = true ∧ sys.client.unsentRefs = [] ∧
      sys.client.log.getLast? = some (.apiReturn .preparationLocked)) (by decide +kernel),
    exists_reach_fresh .dynamic silentPublish (fun sys => sys.pending = [] ∧
      .assertFailed .allowNextPrepare ∈ sys.client.faults) (by decide +kernel)⟩

end Mqtt5
