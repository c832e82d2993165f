import Mqtt5Client.Traffic

/-!
# Mqtt5Client — the negotiated limits

What CONNECT and CONNACK settle for a connection. Most of it waits in the connect operation until the
CONNACK is accepted. The Topic Alias Maximum of the application goes to the session state as soon as it
is configured, and outlives an attempt that is given up.
-/

namespace Mqtt5

open Client

variable {env : Env} {a : Bool} {b : Scope} {act : Act} {s t u : Client} {sys sys' : Sys} {l : Label}

/-! ## What the packets say -/

/-- The last value found in a list. -/
def lastOf {α β : Type} (f : α → Option β) (l : List α) : Option β := (l.filterMap f).getLast?

/-- The last value of a longer list. -/
theorem lastOf_append {α β : Type} (f : α → Option β) (l : List α) (x : α) :
    lastOf f (l ++ [x]) = (f x).or (lastOf f l) := by
  unfold lastOf
  rw [List.filterMap_append]
  cases h : f x <;> simp [h]

theorem lastOf_append_none {α β : Type} {f : α → Option β} {l' : List α} (h : ∀ x ∈ l', f x = none)
    (l : List α) : lastOf f (l ++ l') = lastOf f l := by
  unfold lastOf
  rw [List.filterMap_append, List.filterMap_eq_nil_iff.mpr h, List.append_nil]

namespace Property

def asSessionExpiry : Property → Option Nat
  | .sessionExpiryInterval v => some v
  | _ => none

def asReceiveMax : Property → Option Nat
  | .receiveMax v => some v
  | _ => none

def asMaxPacketSize : Property → Option Nat
  | .maxPacketSize v => some v
  | _ => none

def asTopicAliasMax : Property → Option Nat
  | .topicAliasMax v => some v
  | _ => none

def asRequestProblemInfo : Property → Option Bool
  | .requestProblemInfo v => some v
  | _ => none

def asAuthMethod : Property → Option Str
  | .authMethod v => some v
  | _ => none

end Property

/-- The limits of `SessionState`. -/
@[ext]
structure Limits where
  maxRecvTopicAlias : Nat
  maxSendTopicAlias : Nat
  maxRecvPacketSize : Nat
  maxSendPacketSize : Nat
  highQosRecvLimit : Nat
  highQosSendLimit : Nat
  keepAliveMs : Nat
  sessionExpiryIntervalMs : Nat
  connectSessionExpiryInterval : Nat
  authMethod : Str
  pubMaxQos : Qos
  wildcardSubAvailable : Bool
  subIdsAvailable : Bool
  retainAvailable : Bool
  sharedSubsAvailable : Bool
  problemInfoAllowed : Bool
  deriving DecidableEq, Repr

def SessionState.limits (s : SessionState) : Limits where
  maxRecvTopicAlias := s.maxRecvTopicAlias
  maxSendTopicAlias := s.maxSendTopicAlias
  maxRecvPacketSize := s.maxRecvPacketSize
  maxSendPacketSize := s.maxSendPacketSize
  highQosRecvLimit := s.highQosRecvLimit
  highQosSendLimit := s.highQosSendLimit
  keepAliveMs := s.keepAliveMs
  sessionExpiryIntervalMs := s.sessionExpiryIntervalMs
  connectSessionExpiryInterval := s.connectSessionExpiryInterval
  authMethod := s.authMethod
  pubMaxQos := s.pubMaxQos
  wildcardSubAvailable := s.wildcardSubAvailable
  subIdsAvailable := s.subIdsAvailable
  retainAvailable := s.retainAvailable
  sharedSubsAvailable := s.sharedSubsAvailable
  problemInfoAllowed := s.problemInfoAllowed

/-- The session expiry interval a CONNECT asks for. -/
def ConnectMsg.sessionExpiry (msg : ConnectMsg) : Nat :=
  (lastOf Property.asSessionExpiry msg.props).getD 0

/-- The session expiry interval in force: that of CONNACK, or else that of CONNECT. -/
def agreedExpiry (cfg : Config) (connect : ConnectMsg) (connack : ConnackMsg) : Nat :=
  (PropsHandler.ofProps cfg connack.props).sessionExpiryInterval.getD connect.sessionExpiry

/-- The keep alive in force: that of CONNACK, or else that of CONNECT. -/
def agreedKeepAlive (cfg : Config) (connect : ConnectMsg) (connack : ConnackMsg) : Nat :=
  (PropsHandler.ofProps cfg connack.props).serverKeepAlive.getD connect.keepAlive

/-- What the two packets say about the connection; a property that is absent has its default. Where there is
no default but no limit either, as for the packet size, it is 0. -/
def negotiated (cfg : Config) (connect : ConnectMsg) (connack : ConnackMsg) : Limits :=
  let h := PropsHandler.ofProps cfg connack.props
  { maxRecvTopicAlias := (lastOf Property.asTopicAliasMax connect.props).getD 0
    maxSendTopicAlias :=
      if cfg.hasTopicAliases then (h.topicAliasMax.map (limited cfg.topicAliasesLimit)).getD 0 else 0
    maxRecvPacketSize := (lastOf Property.asMaxPacketSize connect.props).getD 0
    maxSendPacketSize :=
      (h.maxPacketSize.map (limited cfg.maxOutputPacketSize)).getD cfg.maxOutputPacketSize
    highQosRecvLimit := (lastOf Property.asReceiveMax connect.props).getD 65535
    highQosSendLimit := limited cfg.sendMaxLimit (h.receiveMax.getD 65535)
    keepAliveMs := agreedKeepAlive cfg connect connack * 1000
    sessionExpiryIntervalMs := agreedExpiry cfg connect connack * 1000
    connectSessionExpiryInterval := connect.sessionExpiry
    authMethod := (lastOf Property.asAuthMethod connect.props).getD []
    pubMaxQos := Qos.ofValue (h.maxQos.getD 2)
    wildcardSubAvailable := h.wildcardSubAvail.getD 1 == 1
    subIdsAvailable := h.subIdAvail.getD 1 == 1
    retainAvailable := h.retainAvailable.getD 1 == 1
    sharedSubsAvailable := h.sharedSubAvail.getD 1 == 1
    problemInfoAllowed := (lastOf Property.asRequestProblemInfo connect.props).getD true }

/-! ## What the operation remembers -/

/-- The Topic Alias Maximum of the CONNECT. -/
def ConnectOp.aliasMax (op : ConnectOp) : Option Nat :=
  lastOf Property.asTopicAliasMax op.connectMsg.props

/-- The operation remembers what its CONNECT says. -/
structure ConnectOp.Faithful (op : ConnectOp) : Prop where
  expiry : op.sessionExpiryInterval = op.connectMsg.sessionExpiry
  packetSize : op.maxRecvPacketSize = (lastOf Property.asMaxPacketSize op.connectMsg.props).getD 0
  problemInfo :
    op.requestProblemInfo = (lastOf Property.asRequestProblemInfo op.connectMsg.props).getD false
  method : op.authMethod = (lastOf Property.asAuthMethod op.connectMsg.props).getD []

/-- Only other parts of the CONNECT change. -/
structure ConnectOp.SameProps (op x : ConnectOp) : Prop where
  id : x.id = op.id
  sent : x.sent = op.sent
  props : x.connectMsg.props = op.connectMsg.props
  expiry : x.sessionExpiryInterval = op.sessionExpiryInterval
  packetSize : x.maxRecvPacketSize = op.maxRecvPacketSize
  problemInfo : x.requestProblemInfo = op.requestProblemInfo
  method : x.authMethod = op.authMethod

/-- What an operation remembers of its properties stays right when neither changes. -/
theorem ConnectOp.SameProps.faithful {op x : ConnectOp} (h : op.SameProps x) (hf : op.Faithful) :
    x.Faithful where
  expiry := by
    rw [h.expiry, hf.expiry, ConnectMsg.sessionExpiry, ConnectMsg.sessionExpiry, h.props]
  packetSize := by rw [h.packetSize, hf.packetSize, h.props]
  problemInfo := by rw [h.problemInfo, hf.problemInfo, h.props]
  method := by rw [h.method, hf.method, h.props]

theorem ConnectOp.SameProps.aliasMax {op x : ConnectOp} (h : op.SameProps x) :
    x.aliasMax = op.aliasMax := by
  rw [ConnectOp.aliasMax, ConnectOp.aliasMax, h.props]

/-! ## Configuration -/

/-- Only error texts are logged. -/
def LogsErrors (s t : Client) : Prop :=
  ∃ (texts : List String) (counts : List (Nat × Nat)),
    t = { s with log := s.log ++ texts.map Event.errorLog, counts := counts }

theorem LogsErrors.refl (s : Client) : LogsErrors s s := ⟨[], s.counts, by simp⟩

/-- An entry of the error log. -/
theorem LogsErrors.errorLog (h : LogsErrors s t) (text : String) : LogsErrors s (t.errorLog text) := by
  obtain ⟨texts, counts, rfl⟩ := h
  exact ⟨texts ++ [text], _, by simp [Client.errorLog, Client.emit]; rfl⟩

/-- Entries behind entries. -/
theorem LogsErrors.trans (h : LogsErrors s t) (h' : LogsErrors t u) : LogsErrors s u := by
  obtain ⟨texts, counts, rfl⟩ := h
  obtain ⟨texts', counts', rfl⟩ := h'
  exact ⟨texts ++ texts', counts', by simp⟩

/-- The alias maximum is as it was, or it is what the operation says now. -/
def AliasFollows (old n : Nat) (op x : ConnectOp) : Prop :=
  (x.aliasMax = op.aliasMax ∧ n = old) ∨ x.aliasMax = some n

/-- What a configuration function leaves: the operation, and the alias maximum in the session. -/
inductive Reconfigured (s : Client) (op : ConnectOp) (t : Client) : Prop
  | same (log : List Event) (counts : List (Nat × Nat)) (h : t = { s with log := log, counts := counts })
  | stored (x : ConnectOp) (log : List Event) (counts : List (Nat × Nat)) (n : Nat)
      (h : t = { s.setConnectOp x with
        log := log, counts := counts, sessionState := { s.sessionState with maxRecvTopicAlias := n } })
      (hid : x.id = op.id) (hsent : x.sent = op.sent) (hf : op.Faithful → x.Faithful)
      (ha : AliasFollows s.sessionState.maxRecvTopicAlias n op x)

/-- A configuration that leaves the properties. -/
theorem Reconfigured.of_sameProps {op x : ConnectOp} (h : op.SameProps x) (log : List Event)
    (counts : List (Nat × Nat)) (ht : t = { s.setConnectOp x with log := log, counts := counts }) :
    Reconfigured s op t :=
  .stored x log counts s.sessionState.maxRecvTopicAlias ht h.id h.sent h.faithful (Or.inl ⟨h.aliasMax, rfl⟩)

/-- A stage of a configuration function. -/
structure Configured (s : Client) (op : ConnectOp) (r : (Client × ErrorCode) × ConnectOp) : Prop where
  client : ∃ log counts n, r.1.1 = { s with
    log := log, counts := counts, sessionState := { s.sessionState with maxRecvTopicAlias := n } } ∧
      AliasFollows s.sessionState.maxRecvTopicAlias n op r.2
  id : r.2.id = op.id
  sent : r.2.sent = op.sent
  faithful : op.Faithful → r.2.Faithful

variable {op : ConnectOp}

theorem Configured.refl (s : Client) (op : ConnectOp) (ec : ErrorCode) :
    Configured s op ((s, ec), op) :=
  ⟨⟨s.log, s.counts, s.sessionState.maxRecvTopicAlias, rfl, Or.inl ⟨rfl, rfl⟩⟩, rfl, rfl, fun h => h⟩

/-- A stage that fails logs. -/
theorem Configured.fail {x : ConnectOp} {ec : ErrorCode} (h : Configured s op ((t, ec), x))
    (text : String) (ec' : ErrorCode) : Configured s op (t.fail text ec', x) := by
  obtain ⟨log, counts, n, ht, ha⟩ := h.client
  have ht : t = _ := ht
  refine ⟨⟨log ++ [.errorLog text], (t.fail text ec').1.counts, n, ?_, ha⟩, h.id, h.sent, h.faithful⟩
  rw [ht]
  rfl

/-- A part of the configuration behind another. -/
theorem Configured.andThen {r : (Client × ErrorCode) × ConnectOp} (h : Configured s op r)
    {next : ConnectOp → Client → (Client × ErrorCode) × ConnectOp}
    (hnext : ∀ x t, Configured s op ((t, .success), x) → Configured s op (next x t)) :
    Configured s op (andThenConfig r next) := by
  unfold Client.andThenConfig
  split
  · exact hnext _ _ ⟨h.client, h.id, h.sent, h.faithful⟩
  · exact h

/-- The stored operation remembers its properties. -/
theorem Configured.store {r : (Client × ErrorCode) × ConnectOp} (h : Configured s op r) :
    Reconfigured s op (storeConnect r).1 := by
  obtain ⟨log, counts, n, ht, ha⟩ := h.client
  refine .stored r.2 log counts n ?_ h.id h.sent h.faithful ha
  unfold storeConnect
  rw [ht]
  rfl

/-- A property that is added is remembered. -/
structure Remembers (p : Property) (f : ConnectOp → ConnectOp) : Prop where
  id : ∀ op, (f op).id = op.id
  sent : ∀ op, (f op).sent = op.sent
  msg : ∀ op, (f op).connectMsg = op.connectMsg
  faithful : ∀ op : ConnectOp, op.Faithful →
    (f { op with connectMsg := { op.connectMsg with props := op.connectMsg.props ++ [p] } }).Faithful

/-- A property is added, or its text is refused. -/
theorem addPropTo_cases (env : Env) (props : PropsList) (p : Property) (full : String)
    (tooLong : Option String) (s : Client) :
    (s.addPropTo env props p full tooLong = ((s, .success), props ++ [p])) ∨
      ∃ text ec, ec ≠ .success ∧ s.addPropTo env props p full tooLong = (s.fail text ec, props) := by
  unfold addPropTo addProp
  cases isFull env.cfg.propsLimit props.length with
  | true => exact Or.inr ⟨full, .outOfMemory, by simp, rfl⟩
  | false =>
    cases tooLong with
    | none => exact Or.inl rfl
    | some text => exact Or.inr ⟨text, .badParam, by simp, rfl⟩

/-- One property of `configExtra`. -/
theorem Configured.addProp {x : ConnectOp} (h : Configured s op ((t, .success), x)) {p : Property}
    {f : ConnectOp → ConnectOp} (hp : Remembers p f) (hnone : p.asTopicAliasMax = none) :
    Configured s op (t.connectAddProp env x p f) := by
  unfold connectAddProp
  dsimp only
  rcases addPropTo_cases env x.connectMsg.props p
    "Cannot add connect property, reached available limit." none t with heq | ⟨text, ec, hec, heq⟩
  · rw [heq, if_pos rfl]
    obtain ⟨log, counts, n, ht, ha⟩ := h.client
    refine ⟨⟨log, counts, n, ht, ?_⟩, (hp.id _).trans h.id, (hp.sent _).trans h.sent,
      fun hf => hp.faithful _ (h.faithful hf)⟩
    have halias : (f { x with connectMsg := { x.connectMsg with
        props := x.connectMsg.props ++ [p] } }).aliasMax = x.aliasMax := by
      unfold ConnectOp.aliasMax
      rw [hp.msg, lastOf_append, hnone]
      rfl
    unfold AliasFollows at ha ⊢
    rw [halias]
    exact ha
  · rw [heq, if_neg (show ¬(t.fail text ec).2 = .success from hec)]
    exact h.fail text ec

/-- The session expiry interval is remembered as it is written. -/
theorem remembers_expiry (v : Nat) :
    Remembers (.sessionExpiryInterval v) ({ · with sessionExpiryInterval := v }) where
  id _ := rfl
  sent _ := rfl
  msg _ := rfl
  faithful op h := by
    refine ⟨?_, ?_, ?_, ?_⟩
    · unfold ConnectMsg.sessionExpiry
      rw [lastOf_append]
      rfl
    all_goals rw [lastOf_append]
    · exact h.packetSize
    · exact h.problemInfo
    · exact h.method

/-- The receive maximum is remembered before it is cut to the field. -/
theorem remembers_receiveMax (v field : Nat) :
    Remembers (.receiveMax field) ({ · with highQosRecvLimit := v }) where
  id _ := rfl
  sent _ := rfl
  msg _ := rfl
  faithful op h := by
    refine ⟨?_, ?_, ?_, ?_⟩
    · unfold ConnectMsg.sessionExpiry
      rw [lastOf_append]
      exact h.expiry
    all_goals rw [lastOf_append]
    · exact h.packetSize
    · exact h.problemInfo
    · exact h.method

theorem remembers_maxPacketSize (v : Nat) :
    Remembers (.maxPacketSize v) ({ · with maxRecvPacketSize := v }) where
  id _ := rfl
  sent _ := rfl
  msg _ := rfl
  faithful op h := by
    refine ⟨?_, ?_, ?_, ?_⟩
    · unfold ConnectMsg.sessionExpiry
      rw [lastOf_append]
      exact h.expiry
    all_goals rw [lastOf_append]
    · rfl
    · exact h.problemInfo
    · exact h.method

theorem remembers_problemInfo :
    Remembers (.requestProblemInfo true) ({ · with requestProblemInfo := true }) where
  id _ := rfl
  sent _ := rfl
  msg _ := rfl
  faithful op h := by
    refine ⟨?_, ?_, ?_, ?_⟩
    · unfold ConnectMsg.sessionExpiry
      rw [lastOf_append]
      exact h.expiry
    all_goals rw [lastOf_append]
    · exact h.packetSize
    · rfl
    · exact h.method

/-- A property nothing is remembered of. -/
structure Property.Unremembered (p : Property) : Prop where
  expiry : p.asSessionExpiry = none
  packetSize : p.asMaxPacketSize = none
  problemInfo : p.asRequestProblemInfo = none
  method : p.asAuthMethod = none

/-- Properties that are not remembered may be added. -/
theorem ConnectOp.Faithful.append {op : ConnectOp} (h : op.Faithful) {ps : PropsList}
    (hp : ∀ p ∈ ps, p.Unremembered) : ConnectOp.Faithful
      { op with connectMsg := { op.connectMsg with props := op.connectMsg.props ++ ps } } := by
  refine ⟨?_, ?_, ?_, ?_⟩
  · unfold ConnectMsg.sessionExpiry
    rw [lastOf_append_none fun p hmem => (hp p hmem).expiry]
    exact h.expiry
  · rw [lastOf_append_none fun p hmem => (hp p hmem).packetSize]
    exact h.packetSize
  · rw [lastOf_append_none fun p hmem => (hp p hmem).problemInfo]
    exact h.problemInfo
  · rw [lastOf_append_none fun p hmem => (hp p hmem).method]
    exact h.method

theorem Property.Unremembered.remembers {p : Property} (hp : p.Unremembered) : Remembers p id :=
  ⟨fun _ => rfl, fun _ => rfl, fun _ => rfl, fun _ h => h.append (List.forall_mem_singleton.mpr hp)⟩

/-- The Topic Alias Maximum goes to the session. -/
theorem Configured.aliasMaximum {x : ConnectOp} (h : Configured s op ((t, .success), x))
    (maximum : Nat) : Configured s op (t.connectAliasMaximum env x maximum) := by
  unfold connectAliasMaximum
  split
  · exact h.fail _ _
  · split
    · exact h.fail _ _
    · dsimp only
      unfold connectAddProp
      dsimp only
      rcases addPropTo_cases env x.connectMsg.props (.topicAliasMax maximum)
        "Cannot add connect property, reached available limit." none t with heq | ⟨text, ec, hec, heq⟩
      · rw [heq, if_pos rfl, if_pos rfl]
        obtain ⟨log, counts, n, ht, -⟩ := h.client
        have ht : t = _ := ht
        refine ⟨⟨log, counts, maximum, ?_, Or.inr ?_⟩, h.id, h.sent, fun hf => (h.faithful hf).append
          (List.forall_mem_singleton.mpr ⟨rfl, rfl, rfl, rfl⟩)⟩
        · rw [ht]
        · show lastOf Property.asTopicAliasMax (x.connectMsg.props ++ [.topicAliasMax maximum]) = _
          rw [lastOf_append]
          rfl
      · rw [heq, if_neg (show ¬(t.fail text ec).2 = .success from hec),
          if_neg (show ¬(t.fail text ec).2 = .success from hec)]
        exact h.fail text ec

/-- The six properties of `configExtra`. -/
theorem connectConfigExtra_reconfigured (config : ConnectExtraConfig) :
    Reconfigured s op (s.connectConfigExtra env op config).1 := by
  have h₀ : Configured s op ((s, .success), op) := .refl s op _
  unfold connectConfigExtra
  refine (show Configured s op _ from ?_).store
  refine ((((Configured.andThen ?_ ?_).andThen ?_).andThen ?_).andThen ?_).andThen ?_
  · split
    · exact h₀.addProp (remembers_expiry _) rfl
    · exact h₀
  · intro x t h
    dsimp only
    split
    · exact h.addProp (remembers_receiveMax _ _) rfl
    · exact h
  · intro x t h
    dsimp only
    split
    · split
      · exact h.fail _ _
      · exact h.addProp (remembers_maxPacketSize _) rfl
    · exact h
  · intro x t h
    dsimp only
    split
    · exact h.aliasMaximum _
    · exact h
  · intro x t h
    dsimp only
    split
    · exact h.addProp (Property.Unremembered.remembers ⟨rfl, rfl, rfl, rfl⟩) rfl
    · exact h
  · intro x t h
    dsimp only
    split
    · exact h.addProp remembers_problemInfo rfl
    · exact h

/-- `configBasic` writes no property. -/
theorem connectConfigBasic_reconfigured (config : ConnectBasicConfig) :
    Reconfigured s op (s.connectConfigBasic op config).1 := by
  have hset : ∀ msg : ConnectMsg, msg.props = op.connectMsg.props → ∀ log counts, Reconfigured s op
      { s.setConnectOp { op with connectMsg := msg } with log := log, counts := counts } :=
    fun msg hprops log counts => .of_sameProps (x := { op with connectMsg := msg })
      ⟨rfl, rfl, hprops, rfl, rfl, rfl, rfl⟩ log counts rfl
  have hdone : ∀ (msg : ConnectMsg) (text : String), msg.props = op.connectMsg.props →
      Reconfigured s op (storeConnect (s.fail text .badParam, { op with connectMsg := msg })).1 :=
    fun msg text hprops => hset msg hprops _ _
  have hplain : ∀ msg : ConnectMsg, msg.props = op.connectMsg.props →
      Reconfigured s op (s.setConnectOp { op with connectMsg := msg }) :=
    fun msg hprops => hset msg hprops s.log s.counts
  unfold connectConfigBasic
  dsimp only
  split
  · exact .same _ _ rfl
  · split
    · exact .same _ _ rfl
    · split
      · exact hdone _ _ rfl
      · split
        · exact hdone _ _ rfl
        · split
          · exact hdone _ _ rfl
          · -- the password, which is there or not, and the keep alive
            repeat' split
            all_goals first | exact hdone _ _ rfl | exact hplain _ rfl

/-- A refused property is an entry of the error log. -/
theorem LogsErrors.addPropTo (h : LogsErrors s t) (env : Env) (props : PropsList) (p : Property)
    (full : String) (tooLong : Option String) :
    LogsErrors s (t.addPropTo env props p full tooLong).1.1 := by
  rcases addPropTo_cases env props p full tooLong t with heq | ⟨text, ec, -, heq⟩
  · rw [heq]
    exact h
  · rw [heq]
    exact h.errorLog text

theorem LogsErrors.addUserPropToList (h : LogsErrors s t) (env : Env) (props : PropsList)
    (key value : Option Str) : LogsErrors s (t.addUserPropToList env props key value).1.1 := by
  unfold Client.addUserPropToList Client.fail
  repeat' split
  all_goals first | exact h | exact h.errorLog _

theorem LogsErrors.verifyPubTopic (h : LogsErrors s t) (env : Env) (topic : Str) (outgoing : Bool) :
    LogsErrors s (t.verifyPubTopic env topic outgoing).1 := by
  unfold Client.verifyPubTopic
  repeat' split
  all_goals first | exact h | exact h.errorLog _

theorem LogsErrors.andThenConfig {α : Type} {r : (Client × ErrorCode) × α} (h : LogsErrors s r.1.1)
    {next : α → Client → (Client × ErrorCode) × α}
    (hnext : ∀ x t, LogsErrors s t → LogsErrors s (next x t).1.1) :
    LogsErrors s (andThenConfig r next).1.1 := by
  unfold Client.andThenConfig
  split
  · exact hnext _ _ h
  · exact h

/-- The properties of the will are not those of CONNECT. -/
theorem connectWillProps_logs (env : Env) (config : ConnectWillConfig) (props : PropsList)
    (s : Client) : LogsErrors s (s.connectWillProps env config props).1.1 := by
  have h₀ := LogsErrors.refl s
  unfold connectWillProps
  refine ((((LogsErrors.andThenConfig ?_ ?_).andThenConfig ?_).andThenConfig ?_).andThenConfig
    ?_).andThenConfig ?_
  · split
    · exact h₀.addPropTo _ _ _ _ _
    · exact h₀
  · intro x t h
    dsimp only
    split
    · exact h.addPropTo _ _ _ _ _
    · exact h
  · intro x t h
    dsimp only
    split
    · exact h.addPropTo _ _ _ _ _
    · exact h
  · intro x t h
    dsimp only
    split
    · exact h
    · exact h.addPropTo _ _ _ _ _
  · intro x t h
    dsimp only
    split
    · exact h
    · split
      · exact (h.verifyPubTopic env _ _).errorLog _
      · exact h.addPropTo _ _ _ _ _
  · intro x t h
    dsimp only
    split
    · split
      · exact h.errorLog _
      · exact h
    · exact h.addPropTo _ _ _ _ _

/-- Storing the operation with other parts of its CONNECT. -/
theorem Reconfigured.store {x : ConnectOp} {ec : ErrorCode} (h : op.SameProps x) (ht : LogsErrors s t) :
    Reconfigured s op (storeConnect ((t, ec), x)).1 := by
  obtain ⟨texts, counts, rfl⟩ := ht
  exact .of_sameProps h _ _ rfl

theorem connectConfigWill_reconfigured (config : ConnectWillConfig) :
    Reconfigured s op (s.connectConfigWill env op config).1 := by
  have hwill : ∀ will, op.SameProps { op with connectMsg := { op.connectMsg with will := will } } :=
    fun will => ⟨rfl, rfl, rfl, rfl, rfl, rfl, rfl⟩
  have hfail : ∀ text, LogsErrors s (s.errorLog text) := (LogsErrors.refl s).errorLog
  unfold connectConfigWill
  dsimp only
  split
  · exact .same _ _ rfl
  · split
    · exact .same _ _ rfl
    · exact .same _ _ rfl
    · split
      · exact .store (hwill _) (hfail _)
      · generalize (if 0 < config.dataLen then config.data.getD []
          else (op.connectMsg.will.map (·.payload)).getD []) = data
        split
        · exact .store (hwill _) (hfail _)
        · exact .store (hwill _) (connectWillProps_logs env config _ s)

/-- Storing the operation with more properties. -/
theorem Reconfigured.append {ps : PropsList} {x : ConnectOp} {ec : ErrorCode} (ht : LogsErrors s t)
    (hid : x.id = op.id) (hsent : x.sent = op.sent) (hf : op.Faithful → x.Faithful)
    (hprops : x.connectMsg.props = op.connectMsg.props ++ ps)
    (hnone : ∀ p ∈ ps, p.asTopicAliasMax = none) :
    Reconfigured s op (storeConnect ((t, ec), x)).1 := by
  obtain ⟨texts, counts, rfl⟩ := ht
  refine .stored x _ _ s.sessionState.maxRecvTopicAlias rfl hid hsent hf (Or.inl ⟨?_, rfl⟩)
  unfold ConnectOp.aliasMax
  rw [hprops, lastOf_append_none hnone]

/-- The method is remembered, whatever data follows it. -/
theorem ConnectOp.Faithful.auth {op : ConnectOp} (h : op.Faithful) (method : Str) {ps : PropsList}
    (hp : ∀ p ∈ ps, p.Unremembered) : ConnectOp.Faithful
      { op with
        authCb := true, authMethod := method, connectMsg := { op.connectMsg with
          props := op.connectMsg.props ++ [.authMethod method] ++ ps } } := by
  refine ⟨?_, ?_, ?_, ?_⟩
  · unfold ConnectMsg.sessionExpiry
    rw [lastOf_append_none fun p hmem => (hp p hmem).expiry, lastOf_append]
    exact h.expiry
  · rw [lastOf_append_none fun p hmem => (hp p hmem).packetSize, lastOf_append]
    exact h.packetSize
  · rw [lastOf_append_none fun p hmem => (hp p hmem).problemInfo, lastOf_append]
    exact h.problemInfo
  · rw [lastOf_append_none fun p hmem => (hp p hmem).method, lastOf_append]
    rfl

/-- The method and the data of the authentication are not negotiated. -/
theorem connectConfigAuth_reconfigured (config : AuthConfig) :
    Reconfigured s op (s.connectConfigAuth env op config).1 := by
  have hcb : op.SameProps { op with authCb := true } := ⟨rfl, rfl, rfl, rfl, rfl, rfl, rfl⟩
  have hfail : ∀ text, LogsErrors s (s.errorLog text) := (LogsErrors.refl s).errorLog
  unfold connectConfigAuth
  dsimp only
  split
  · rename_i method _ _
    rcases addPropTo_cases env op.connectMsg.props (.authMethod method)
      "Cannot add connect auth property, reached available limit."
      (tooLongMsg method "Auth method value is too big.") s with heq | ⟨text, ec, hec, heq⟩
    · rw [heq, if_neg (by simp)]
      have hnone : ∀ p ∈ ([] : PropsList), p.Unremembered := fun p hp => nomatch hp
      have hmethod : ∀ p ∈ [Property.authMethod method], p.asTopicAliasMax = none :=
        List.forall_mem_singleton.mpr rfl
      have hplain : op.Faithful → _ := fun hf => hf.auth method hnone
      rw [List.append_nil] at hplain
      split
      · split
        · exact .append (hfail _) rfl rfl hplain rfl hmethod
        · rename_i data _
          dsimp only
          rcases addPropTo_cases env (op.connectMsg.props ++ [.authMethod method]) (.authData data)
            "Cannot add connect auth property, reached available limit."
            (tooLongMsg data "Auth data value is too big.") s with heq | ⟨text, ec, hec, heq⟩
          · rw [heq]
            refine .append (.refl s) rfl rfl (fun hf => hf.auth method
              (List.forall_mem_singleton.mpr ⟨rfl, rfl, rfl, rfl⟩))
              (List.append_assoc _ _ _) fun p hp => ?_
            rcases List.mem_cons.mp hp with rfl | hp
            · rfl
            · rw [List.mem_singleton.mp hp]
              rfl
          · rw [heq]
            exact .append (hfail _) rfl rfl hplain rfl hmethod
      · exact .append (.refl s) rfl rfl hplain rfl hmethod
    · rw [heq, if_pos (show (s.fail text ec).2 ≠ .success from hec)]
      exact .store hcb (hfail text)
  · exact .same _ _ rfl

/-- A user property is added or not. -/
theorem addUserPropToList_props (env : Env) (props : PropsList) (key value : Option Str) (s : Client) :
    (s.addUserPropToList env props key value).2 = props ∨
      ∃ k v, (s.addUserPropToList env props key value).2 = props ++ [.userProperty k v] := by
  unfold Client.addUserPropToList
  repeat' split
  all_goals try exact Or.inl rfl
  rename_i hadd _ _
  unfold addProp at hadd
  split at hadd
  · cases hadd
  · cases hadd
    exact Or.inr ⟨_, _, rfl⟩

theorem connectAddUserProp_reconfigured (key value : Option Str) :
    Reconfigured s op (s.connectAddUserProp env op key value).1 := by
  have hlogs := (LogsErrors.refl s).addUserPropToList env op.connectMsg.props key value
  unfold connectAddUserProp
  dsimp only
  rcases addUserPropToList_props env op.connectMsg.props key value s with heq | ⟨k, v, heq⟩
  · rw [heq]
    exact .store ⟨rfl, rfl, rfl, rfl, rfl, rfl, rfl⟩ hlogs
  · rw [heq]
    exact .append hlogs rfl rfl
      (fun hf => hf.append (List.forall_mem_singleton.mpr ⟨rfl, rfl, rfl, rfl⟩)) rfl
      (List.forall_mem_singleton.mpr rfl)

theorem connectAddWillUserProp_reconfigured (key value : Option Str) :
    Reconfigured s op (s.connectAddWillUserProp env op key value).1 := by
  unfold connectAddWillUserProp
  split
  · exact .same _ _ rfl
  · exact .store ⟨rfl, rfl, rfl, rfl, rfl, rfl, rfl⟩ ((LogsErrors.refl s).addUserPropToList env _ _ _)

/-! ## Other updates -/

/-- Another operation goes. -/
theorem eraseRef_connectOps {ref : OpRef} (h : ref.type ≠ .connect) :
    (eraseRef ref s).connectOps = s.connectOps := by
  obtain ⟨type, id⟩ := ref
  unfold eraseRef
  cases type with
  | connect => exact absurd rfl h
  | send => rfl
  | keepAlive =>
    dsimp only
    unfold Client.eraseKeepAliveOp
    split <;> rfl
  | disconnect =>
    dsimp only
    unfold Client.eraseDisconnectOp
    split <;> rfl
  | subscribe =>
    dsimp only
    unfold Client.eraseSubscribeOp
    split
    · rfl
    · rw [releasePacketId_eq]
      rfl
  | unsubscribe =>
    dsimp only
    unfold Client.eraseUnsubscribeOp
    split
    · rfl
    · rw [releasePacketId_eq]
      rfl
  | recv =>
    dsimp only
    unfold Client.eraseRecvOp
    split <;> rfl
  | reauth =>
    dsimp only
    unfold Client.eraseReauthOp
    split <;> rfl

/-- The kinds that change a connect operation. -/
def Act.writesConnect : Act → Bool
  | .set .connect | .mark .connect => true
  | _ => false

/-- An operation nothing was configured for. -/
structure ConnectOp.Fresh (op : ConnectOp) : Prop where
  sent : op.sent = false
  props : op.connectMsg.props = []
  faithful : op.Faithful

/-- Other updates only add operations and remove them. -/
theorem Prim.connectOps (h : Prim act s t) (hact : act.writesConnect = false) :
    ∀ op ∈ t.connectOps, op ∈ s.connectOps ∨ op.Fresh := by
  have hsame : t.connectOps = s.connectOps → ∀ op ∈ t.connectOps, op ∈ s.connectOps ∨ op.Fresh :=
    fun heq op hop => Or.inl (heq ▸ hop)
  have halloc : ∀ env : Env, (s.allocPacketId env).1.connectOps = s.connectOps := fun env => by
    rw [allocPacketId_same]
  -- updates that write no connect operation keep them, creation and completion apart
  cases hplain : act.plain with
  | true => exact hsame (h.sameOps hplain).connectOps
  | false =>
    cases h with
    | createConnect env =>
      intro op hop
      rcases List.mem_append.mp hop with hop | hop
      · exact Or.inl hop
      · rw [List.mem_singleton.mp hop]
        exact Or.inr ⟨rfl, rfl, ⟨rfl, rfl, rfl, rfl⟩⟩
    | setConnect => cases hact
    | markConnect => cases hact
    | createKeepAlive env hnil =>
      rcases createKeepAliveOpIfNeeded_cases env hnil with heq | ⟨c, m, op, -, heq⟩
      · rw [heq]
        exact fun op hop => Or.inl hop
      · rw [heq]
        exact fun op hop => Or.inl ((SameOps.assert s .timer c).connectOps ▸ hop)
    | createSend env => exact hsame (SameOps.timerAlloc env s (s.timerAlloc env).2.isSome).connectOps
    | createRecv env => exact hsame (SameOps.timerAlloc env s (s.timerAlloc env).2.isSome).connectOps
    | takeSubscribe env op hop => exact hsame (halloc env)
    | takeUnsubscribe env op hop => exact hsame (halloc env)
    | takeSend env op x hop hx => exact hsame (halloc env)
    | complete ref =>
      rcases completeRef_cases ref s with heq | heq | ⟨-, heq⟩
      · rw [heq]
        exact fun op hop => Or.inl hop
      · rw [heq]
        exact fun op hop => Or.inl hop
      · rw [heq]
        refine fun op hop => Or.inl ?_
        obtain ⟨type, id⟩ := ref
        cases type with
        | connect =>
          have hop : op ∈ (eraseConnectOp id { s with
              ops := nullify ⟨.connect, id⟩ s.ops, opsDeleted := true }).connectOps := hop
          unfold Client.eraseConnectOp at hop
          split at hop
          · exact hop
          · exact List.mem_of_mem_eraseP hop
        | _ =>
          rw [eraseRef_connectOps (by simp)] at hop
          exact hop
    | completeSend op hop href =>
      unfold Client.destroySendOp Client.eraseSendOp
      rw [releasePacketId_eq]
      exact fun op hop => Or.inl hop
    | clean =>
      unfold Client.cleanOps
      split <;> exact fun op hop => Or.inl hop
    | _ => first | (cases hplain; done) | exact fun op hop => Or.inl hop

end Mqtt5
