import Mqtt5Client.AckSteps

/-!
# Mqtt5Client — configuration as steps

The configuration functions log, and store the operation they configure. Those of the other operations
are frames; those of a publish change the publish alone.
-/

namespace Mqtt5

namespace Client

variable {env : Env} {G : Guard} {a : Bool} {b : Scope} {s t u : Client}

/-! ## Functions that only log -/

/-- The log has grown by events publishes do not read, or the session has changed where they do not
look. -/
structure Quiet (b : Scope) (s t : Client) : Prop where
  eq : t = { s with log := t.log, counts := t.counts, sessionState := t.sessionState }
  view : t.view = s.view
  acts : Acts true b s t

/-- Nothing happened. -/
theorem Quiet.refl (s : Client) : Quiet b s s := ⟨rfl, rfl, .refl⟩

/-- Functions that only log may be chained. -/
theorem Quiet.trans (h : Quiet b s t) (h' : Quiet b t u) : Quiet b s u where
  eq := by
    have h₁ := h'.eq
    rw [h.eq] at h₁
    exact h₁
  view := h'.view.trans h.view
  acts := Relation.ReflTransGen.trans h.acts h'.acts

/-- They leave the publishes, the lock and the operations alone. -/
theorem Quiet.still (h : Quiet b s t) : Still a s t := by
  rw [h.eq]
  refine .of_eq ?_ rfl rfl rfl rfl rfl fun h => h
  rw [← h.eq]
  exact h.view

theorem Quiet.frame (h : Quiet b s t) : Frame a b s t :=
  ⟨h.still, h.acts.mono (fun _ => rfl) (.refl b)⟩

/-- An entry of the error log. -/
@[grind ←]
theorem Quiet.errorLog (h : Quiet b s t) (m : String) : Quiet b s (t.errorLog m) :=
  h.trans ⟨rfl, by simp [Client.view, Client.errorLog, Client.emit, Event.isPub], .of (.emit _ rfl) rfl⟩

/-- A check of a `config` function that fails. -/
@[grind ←]
theorem Quiet.fail (h : Quiet b s t) (m : String) (ec : ErrorCode) : Quiet b s (t.fail m ec).1 :=
  h.errorLog m

/-- The verification of a topic. -/
@[grind ←]
theorem Quiet.verifyPubTopic (h : Quiet b s t) (env : Env) (topic : Str) (outgoing : Bool) :
    Quiet b s (t.verifyPubTopic env topic outgoing).1 := by
  unfold Client.verifyPubTopic
  grind

/-- The verification of a filter. -/
@[grind ←]
theorem Quiet.verifySubFilter (h : Quiet b s t) (env : Env) (filter : Str) :
    Quiet b s (t.verifySubFilter env filter).1 := by
  unfold Client.verifySubFilter
  grind

/-- A property is added to a list that is not stored yet. -/
@[grind ←]
theorem Quiet.addPropTo (h : Quiet b s t) (env : Env) (props : PropsList) (p : Property)
    (full : String) (tooLong : Option String) :
    Quiet b s (t.addPropTo env props p full tooLong).1.1 := by
  unfold Client.addPropTo
  grind

/-- And a user property. -/
@[grind ←]
theorem Quiet.addUserPropToList (h : Quiet b s t) (env : Env) (props : PropsList)
    (key value : Option Str) : Quiet b s (t.addUserPropToList env props key value).1.1 := by
  unfold Client.addUserPropToList
  grind

/-- A stage of a configuration function after the previous one. -/
theorem Quiet.andThenConfig {α : Type} {r : (Client × ErrorCode) × α} (h : Quiet b s r.1.1)
    {next : α → Client → (Client × ErrorCode) × α}
    (hnext : ∀ x t, Quiet b s t → Quiet b s (next x t).1.1) :
    Quiet b s (andThenConfig r next).1.1 := by
  unfold Client.andThenConfig
  split
  · exact hnext _ _ h
  · exact h

/-- A PUBLISH with an alias changes the alias table at most. -/
theorem Frame.resolveRecvTopic (h : Frame a b s t) (hb : b.admits .recvAliases = true)
    {topic topic' : Str} {aliasId : Option Nat}
    (hu : t.resolveRecvTopic topic aliasId = .ok (topic', u)) : Frame a b s u := by
  unfold Client.resolveRecvTopic at hu
  split at hu
  · cases hu
    exact h
  · split at hu
    · cases hu
    · split at hu
      · cases hu
        exact h.update (.of_eq rfl rfl rfl rfl rfl rfl fun h => h) (.recvAliases _)
          (Act.allowed_of rfl fun _ => hb)
      · split at hu
        · cases hu
        · cases hu
        · cases hu
          exact h

/-! ## Storing the operation -/

/-- Storing an operation in its list does not change the keys of the list. -/
theorem map_store {α β : Type} {id : α → OpId} {g : α → β} {l : List α} {op x : α} {k : OpId}
    (hop : l.find? (fun y => id y == k) = some op) (hx : id x = k) (hg : g x = g op) :
    (modifyFirst (fun y => id y == id x) (fun _ => x) l).map g = l.map g := by
  rw [hx]
  exact map_modifyFirst hop hg

/-- Operations that have come as far as each other are both sent or both unsent. -/
theorem Prep.sent_eq {sent cb sent' cb' : Bool} (h : Prep.of sent' cb' = Prep.of sent cb) :
    sent' = sent := by
  rw [Bool.eq_iff_iff, ← Prep.of_done, ← Prep.of_done, h]

/-- An operation is stored that has come as far as before. -/
theorem Still.setConnectOp (h : Still a s t) {op x : ConnectOp} {id : OpId}
    (hop : t.connectOp? id = some op) (hid : x.id = op.id) (hprep : x.prep = op.prep) :
    Still a s (t.setConnectOp x) := by
  have hid' : op.id = id := (Keyed.mem_of_find hop).2
  refine h.trans (.of_eq rfl rfl rfl rfl ?_ rfl fun h => h)
  have hmap := map_store (g := fun op : ConnectOp => ((⟨.connect, op.id⟩ : OpRef), op.prep))
    (x := x) hop (hid.trans hid') (by simp [hid, hprep])
  unfold lockKeys Client.setConnectOp
  rw [hmap]

/-- A `config` function of a connect operation: log entries, then the stored operation. -/
theorem Quiet.setConnectOp [b.Configures] (h : Quiet b s t) {op x : ConnectOp} {id : OpId}
    (hop : s.connectOp? id = some op) (hk : op.Keeps x) (hprep : x.prep = op.prep) :
    Frame a b s (t.setConnectOp x) := by
  have hops : t.connectOps = s.connectOps := by rw [h.eq]
  have hop' : t.connectOp? id = some op := by
    unfold connectOp?
    rw [hops]
    exact hop
  exact h.frame.update ((Still.refl a t).setConnectOp hop' hk.id hprep)
    (.setConnect op x (Keyed.mem_of_find hop').1 hk (Prep.sent_eq hprep))
    (Act.allowed_of rfl fun _ => Scope.Configures.connect)

theorem Still.setDisconnectOp (h : Still a s t) {op x : DisconnectOp} {id : OpId}
    (hop : t.disconnectOp? id = some op) (hid : x.id = op.id) (hprep : x.prep = op.prep) :
    Still a s (t.setDisconnectOp x) := by
  have hid' : op.id = id := (Keyed.mem_of_find hop).2
  refine h.trans (.of_eq rfl rfl rfl rfl ?_ rfl fun h => h)
  have hmap := map_store (g := fun op : DisconnectOp => ((⟨.disconnect, op.id⟩ : OpRef), op.prep))
    (x := x) hop (hid.trans hid') (by simp [hid, hprep])
  unfold lockKeys Client.setDisconnectOp
  rw [hmap]

/-- The same for a disconnect operation. -/
theorem Quiet.setDisconnectOp (h : Quiet b s t) {op x : DisconnectOp} {id : OpId}
    (hop : s.disconnectOp? id = some op) (hk : op.Keeps x) (hprep : x.prep = op.prep) :
    Frame a b s (t.setDisconnectOp x) := by
  have hops : t.disconnectOps = s.disconnectOps := by rw [h.eq]
  have hop' : t.disconnectOp? id = some op := by
    unfold disconnectOp?
    rw [hops]
    exact hop
  exact h.frame.update ((Still.refl a t).setDisconnectOp hop' hk.id hprep)
    (.setDisconnect op x (Keyed.mem_of_find hop').1 hk (Prep.sent_eq hprep)) rfl

theorem Still.setSubscribeOp (h : Still a s t) {op x : SubscribeOp} {id : OpId}
    (hop : t.subscribeOp? id = some op) (hid : x.id = op.id) (hprep : x.prep = op.prep) :
    Still a s (t.setSubscribeOp x) := by
  have hid' : op.id = id := (Keyed.mem_of_find hop).2
  refine h.trans (.of_eq rfl rfl rfl rfl ?_ rfl fun h => h)
  have hmap := map_store (g := fun op : SubscribeOp => ((⟨.subscribe, op.id⟩ : OpRef), op.prep))
    (x := x) hop (hid.trans hid') (by simp [hid, hprep])
  unfold lockKeys Client.setSubscribeOp
  rw [hmap]

/-- For a subscription. -/
theorem Quiet.setSubscribeOp (h : Quiet b s t) {op x : SubscribeOp} {id : OpId}
    (hop : s.subscribeOp? id = some op) (hk : op.Keeps x) (hprep : x.prep = op.prep) :
    Frame a b s (t.setSubscribeOp x) := by
  have hops : t.subscribeOps = s.subscribeOps := by rw [h.eq]
  have hop' : t.subscribeOp? id = some op := by
    unfold subscribeOp?
    rw [hops]
    exact hop
  exact h.frame.update ((Still.refl a t).setSubscribeOp hop' hk.id hprep)
    (.setSubscribe op x (Keyed.mem_of_find hop').1 hk (Prep.sent_eq hprep)) rfl

theorem Still.setUnsubscribeOp (h : Still a s t) {op x : UnsubscribeOp} {id : OpId}
    (hop : t.unsubscribeOp? id = some op) (hid : x.id = op.id) (hprep : x.prep = op.prep) :
    Still a s (t.setUnsubscribeOp x) := by
  have hid' : op.id = id := (Keyed.mem_of_find hop).2
  refine h.trans (.of_eq rfl rfl rfl rfl ?_ rfl fun h => h)
  have hmap := map_store (g := fun op : UnsubscribeOp => ((⟨.unsubscribe, op.id⟩ : OpRef), op.prep))
    (x := x) hop (hid.trans hid') (by simp [hid, hprep])
  unfold lockKeys Client.setUnsubscribeOp
  rw [hmap]

/-- For the opposite of a subscription. -/
theorem Quiet.setUnsubscribeOp (h : Quiet b s t) {op x : UnsubscribeOp} {id : OpId}
    (hop : s.unsubscribeOp? id = some op) (hk : op.Keeps x) (hprep : x.prep = op.prep) :
    Frame a b s (t.setUnsubscribeOp x) := by
  have hops : t.unsubscribeOps = s.unsubscribeOps := by rw [h.eq]
  have hop' : t.unsubscribeOp? id = some op := by
    unfold unsubscribeOp?
    rw [hops]
    exact hop
  exact h.frame.update ((Still.refl a t).setUnsubscribeOp hop' hk.id hprep)
    (.setUnsubscribe op x (Keyed.mem_of_find hop').1 hk (Prep.sent_eq hprep)) rfl

theorem Still.setReauthOp (h : Still a s t) {op x : ReauthOp} {id : OpId}
    (hop : t.reauthOp? id = some op) (hid : x.id = op.id) (hprep : x.prep = op.prep) :
    Still a s (t.setReauthOp x) := by
  have hid' : op.id = id := (Keyed.mem_of_find hop).2
  refine h.trans (.of_eq rfl rfl rfl rfl ?_ rfl fun h => h)
  have hmap := map_store (g := fun op : ReauthOp => ((⟨.reauth, op.id⟩ : OpRef), op.prep))
    (x := x) hop (hid.trans hid') (by simp [hid, hprep])
  unfold lockKeys Client.setReauthOp
  rw [hmap]

/-- And for a reauthentication. -/
theorem Quiet.setReauthOp (h : Quiet b s t) {op x : ReauthOp} {id : OpId}
    (hop : s.reauthOp? id = some op) (hk : op.Keeps x) (hprep : x.prep = op.prep) :
    Frame a b s (t.setReauthOp x) := by
  have hops : t.reauthOps = s.reauthOps := by rw [h.eq]
  have hop' : t.reauthOp? id = some op := by
    unfold reauthOp?
    rw [hops]
    exact hop
  exact h.frame.update ((Still.refl a t).setReauthOp hop' hk.id hprep)
    (.setReauth op x (Keyed.mem_of_find hop').1 hk (Prep.sent_eq hprep)) rfl

/-! ## Configuration of the other operations -/

section Connect

variable {op : ConnectOp} {id : OpId}

/-- A stage of the configuration of a connect operation. -/
structure ConnectStage (b : Scope) (s : Client) (op : ConnectOp) (r : (Client × ErrorCode) × ConnectOp) :
    Prop where
  quiet : Quiet b s r.1.1
  keeps : op.Keeps r.2
  prep : r.2.prep = op.prep

/-- The operation is stored in the end, whether a part of the configuration failed or not. -/
theorem ConnectStage.store [b.Configures] {r : (Client × ErrorCode) × ConnectOp} (h : ConnectStage b s op r)
    (hop : s.connectOp? id = some op) : Frame a b s (storeConnect r).1 :=
  h.quiet.setConnectOp hop h.keeps h.prep

/-- One part of the configuration behind another. -/
theorem ConnectStage.andThen {r : (Client × ErrorCode) × ConnectOp} (h : ConnectStage b s op r)
    {next : ConnectOp → Client → (Client × ErrorCode) × ConnectOp}
    (hnext : ∀ x t, ConnectStage b s op ((t, .success), x) → ConnectStage b s op (next x t)) :
    ConnectStage b s op (andThenConfig r next) := by
  unfold Client.andThenConfig
  split
  · exact hnext _ _ ⟨h.quiet, h.keeps, h.prep⟩
  · exact h

/-- A property is added to CONNECT or to its will. -/
theorem ConnectStage.addProp {x : ConnectOp} (h : ConnectStage b s op ((t, .success), x))
    (p : Property) {f : ConnectOp → ConnectOp}
    (hr : ∀ y, (f y).id = y.id ∧ (f y).timer = y.timer ∧ (f y).cb = y.cb ∧ (f y).prep = y.prep) :
    ConnectStage b s op (t.connectAddProp env x p f) := by
  have hq := h.quiet.addPropTo env x.connectMsg.props p
    "Cannot add connect property, reached available limit." none
  unfold connectAddProp
  dsimp only
  split
  · exact ⟨hq, ⟨(hr _).1.trans h.keeps.id, (hr _).2.1.trans h.keeps.timer,
      (hr _).2.2.1.trans h.keeps.cb⟩, (hr _).2.2.2.trans h.prep⟩
  · exact ⟨hq, h.keeps, h.prep⟩

/-- The alias maximum also changes the session state. -/
theorem ConnectStage.aliasMaximum [b.Configures] {x : ConnectOp} (h : ConnectStage b s op ((t, .success), x))
    (maximum : Nat) : ConnectStage b s op (t.connectAliasMaximum env x maximum) := by
  have hp : ConnectStage b s op (t.connectAddProp env x (.topicAliasMax maximum) fun y => y) :=
    h.addProp _ fun _ => ⟨rfl, rfl, rfl, rfl⟩
  unfold connectAliasMaximum
  split
  · exact ⟨h.quiet.fail _ _, h.keeps, h.prep⟩
  · split
    · exact ⟨h.quiet.fail _ _, h.keeps, h.prep⟩
    · dsimp only
      split
      · exact ⟨hp.quiet.trans ⟨rfl, rfl, .of (.aliasMax maximum)
          (Act.allowed_of rfl fun _ => Scope.Configures.aliasMax)⟩,
          hp.keeps, hp.prep⟩
      · exact hp

variable [b.Configures] (hop : s.connectOp? id = some op)

include hop

/-- `configBasic` writes the client identifier, the credentials, the keep alive and the clean start flag. -/
theorem connectConfigBasic_frame (config : ConnectBasicConfig) :
    Frame a b s (s.connectConfigBasic op config).1 := by
  have hid : op.id = id := (Keyed.mem_of_find hop).2
  have hq : Quiet b s s := .refl s
  have hset : ∀ {t msg}, Quiet b s t → Frame a b s (t.setConnectOp { op with connectMsg := msg }) :=
    fun h => h.setConnectOp hop ⟨rfl, rfl, rfl⟩ rfl
  unfold connectConfigBasic storeConnect
  grind [Quiet.frame, ConnectOp.prep, DisconnectOp.prep, SubscribeOp.prep, UnsubscribeOp.prep, ReauthOp.prep]

omit hop [b.Configures] in
/-- The properties of the will are collected before anything is stored. -/
theorem connectWillProps_quiet (env : Env) (config : ConnectWillConfig) (props : PropsList) :
    Quiet b s (s.connectWillProps env config props).1.1 := by
  have hq : Quiet b s s := .refl s
  unfold connectWillProps
  refine ((((Quiet.andThenConfig ?_ ?_).andThenConfig ?_).andThenConfig ?_).andThenConfig
    ?_).andThenConfig ?_
  all_goals grind

/-- `configWill` checks the topic of the will first. -/
theorem connectConfigWill_frame (config : ConnectWillConfig) :
    Frame a b s (s.connectConfigWill env op config).1 := by
  have hid : op.id = id := (Keyed.mem_of_find hop).2
  have hq : Quiet b s s := .refl s
  have hset : ∀ {t msg}, Quiet b s t → Frame a b s (t.setConnectOp { op with connectMsg := msg }) :=
    fun h => h.setConnectOp hop ⟨rfl, rfl, rfl⟩ rfl
  have hprops := fun props => connectWillProps_quiet (b := b) (s := s) env config props
  unfold connectConfigWill storeConnect
  grind [Quiet.frame, ConnectOp.prep, DisconnectOp.prep, SubscribeOp.prep, UnsubscribeOp.prep, ReauthOp.prep]

/-- `configExtra` adds up to six properties, one after the other. -/
theorem connectConfigExtra_frame (config : ConnectExtraConfig) :
    Frame a b s (s.connectConfigExtra env op config).1 := by
  have h₀ : ConnectStage b s op ((s, .success), op) := ⟨Quiet.refl s, ⟨rfl, rfl, rfl⟩, rfl⟩
  unfold connectConfigExtra
  refine (show ConnectStage b s op _ from ?_).store hop
  refine ((((ConnectStage.andThen ?_ ?_).andThen ?_).andThen ?_).andThen ?_).andThen ?_
  · split
    · exact h₀.addProp _ fun _ => ⟨rfl, rfl, rfl, rfl⟩
    · exact h₀
  · intro x t h
    dsimp only
    split
    · exact h.addProp _ fun _ => ⟨rfl, rfl, rfl, rfl⟩
    · exact h
  · intro x t h
    dsimp only
    split
    · split
      · exact ⟨h.quiet.fail _ _, h.keeps, h.prep⟩
      · exact h.addProp _ fun _ => ⟨rfl, rfl, rfl, rfl⟩
    · exact h
  · intro x t h
    dsimp only
    split
    · exact h.aliasMaximum _
    · exact h
  · intro x t h
    dsimp only
    split
    · exact h.addProp _ fun _ => ⟨rfl, rfl, rfl, rfl⟩
    · exact h
  · intro x t h
    dsimp only
    split
    · exact h.addProp _ fun _ => ⟨rfl, rfl, rfl, rfl⟩
    · exact h

/-- `configAuth` sets the method and the callback of the authentication. -/
theorem connectConfigAuth_frame (config : AuthConfig) :
    Frame a b s (s.connectConfigAuth env op config).1 := by
  have hid : op.id = id := (Keyed.mem_of_find hop).2
  have hq : Quiet b s s := .refl s
  have hset : ∀ {t : Client} {x : ConnectOp}, Quiet b s t → x.id = op.id → x.timer = op.timer →
      x.cb = op.cb → x.prep = op.prep → Frame a b s (t.setConnectOp x) := fun h hx h0 hcb hs =>
    h.setConnectOp hop ⟨hx, h0, hcb⟩ hs
  unfold connectConfigAuth storeConnect
  grind [Quiet.frame, ConnectOp.prep, DisconnectOp.prep, SubscribeOp.prep, UnsubscribeOp.prep, ReauthOp.prep]

theorem connectAddUserProp_frame (key value : Option Str) :
    Frame a b s (s.connectAddUserProp env op key value).1 :=
  ((Quiet.refl s).addUserPropToList env _ key value).setConnectOp hop
    ⟨rfl, rfl, rfl⟩ rfl

theorem connectAddWillUserProp_frame (key value : Option Str) :
    Frame a b s (s.connectAddWillUserProp env op key value).1 := by
  have hid : op.id = id := (Keyed.mem_of_find hop).2
  unfold connectAddWillUserProp
  split
  · exact ((Quiet.refl s).fail _ _).frame
  · exact ((Quiet.refl s).addUserPropToList env _ key value).setConnectOp hop ⟨rfl, rfl, rfl⟩ rfl

end Connect

/-- The reason code, the reason string and the expiry interval of DISCONNECT. -/
theorem disconnectConfigBasic_frame {op : DisconnectOp} {id : OpId}
    (hop : s.disconnectOp? id = some op) (config : DisconnectConfig) :
    Frame a b s (s.disconnectConfigBasic env op config).1 := by
  have hid : op.id = id := (Keyed.mem_of_find hop).2
  have hq : Quiet b s s := .refl s
  have hset : ∀ {t : Client} {x : DisconnectOp}, Quiet b s t → x.id = op.id →
      x.prep = op.prep → Frame a b s (t.setDisconnectOp x) := fun h hx hs =>
    h.setDisconnectOp hop ⟨hx⟩ hs
  unfold disconnectConfigBasic
  refine hset (Quiet.andThenConfig ?_ fun _ _ h => ?_) rfl rfl
  · split
    · exact hq
    · split
      · exact hq.fail _ _
      · exact hq.addPropTo _ _ _ _ _
  · split
    · exact h
    · exact h.addPropTo _ _ _ _ _

theorem disconnectAddUserProp_frame {op : DisconnectOp} {id : OpId}
    (hop : s.disconnectOp? id = some op) (key value : Option Str) :
    Frame a b s (s.disconnectAddUserProp env op key value).1 :=
  ((Quiet.refl s).addUserPropToList env _ key value).setDisconnectOp hop
    ⟨rfl⟩ rfl

/-- A filter with its options is added to SUBSCRIBE. -/
theorem subscribeConfigTopic_frame {op : SubscribeOp} {id : OpId}
    (hop : s.subscribeOp? id = some op) (config : SubscribeTopicConfig) :
    Frame a b s (s.subscribeConfigTopic env op config).1 := by
  have hid : op.id = id := (Keyed.mem_of_find hop).2
  have hq : Quiet b s s := .refl s
  have hset : ∀ {t : Client} {x : SubscribeOp}, Quiet b s t → x.id = op.id → x.timer = op.timer →
      x.subMsg.packetId = op.subMsg.packetId → x.prep = op.prep →
      Frame a b s (t.setSubscribeOp x) := fun h hx h0 h1 hs =>
    h.setSubscribeOp hop ⟨hx, h0, h1⟩ hs
  unfold subscribeConfigTopic
  grind [Quiet.frame, ConnectOp.prep, DisconnectOp.prep, SubscribeOp.prep, UnsubscribeOp.prep, ReauthOp.prep]

/-- The subscription identifier, which the broker may not support. -/
theorem subscribeConfigExtra_frame {op : SubscribeOp} {id : OpId}
    (hop : s.subscribeOp? id = some op) (subId : Nat) :
    Frame a b s (s.subscribeConfigExtra env op subId).1 := by
  have hid : op.id = id := (Keyed.mem_of_find hop).2
  have hq : Quiet b s s := .refl s
  have hset : ∀ {t : Client} {x : SubscribeOp}, Quiet b s t → x.id = op.id → x.timer = op.timer →
      x.subMsg.packetId = op.subMsg.packetId → x.prep = op.prep →
      Frame a b s (t.setSubscribeOp x) := fun h hx h0 h1 hs =>
    h.setSubscribeOp hop ⟨hx, h0, h1⟩ hs
  unfold subscribeConfigExtra
  grind [Quiet.frame, ConnectOp.prep, DisconnectOp.prep, SubscribeOp.prep, UnsubscribeOp.prep, ReauthOp.prep]

theorem subscribeAddUserProp_frame {op : SubscribeOp} {id : OpId}
    (hop : s.subscribeOp? id = some op) (key value : Option Str) :
    Frame a b s (s.subscribeAddUserProp env op key value).1 :=
  ((Quiet.refl s).addUserPropToList env _ key value).setSubscribeOp hop
    ⟨rfl, rfl, rfl⟩ rfl

/-- A filter is added to UNSUBSCRIBE. -/
theorem unsubscribeConfigTopic_frame {op : UnsubscribeOp} {id : OpId}
    (hop : s.unsubscribeOp? id = some op) (topic : Option Str) :
    Frame a b s (s.unsubscribeConfigTopic env op topic).1 := by
  have hid : op.id = id := (Keyed.mem_of_find hop).2
  have hq : Quiet b s s := .refl s
  have hset : ∀ {t : Client} {x : UnsubscribeOp}, Quiet b s t → x.id = op.id → x.timer = op.timer →
      x.unsubMsg.packetId = op.unsubMsg.packetId → x.prep = op.prep →
      Frame a b s (t.setUnsubscribeOp x) := fun h hx h0 h1 hs =>
    h.setUnsubscribeOp hop ⟨hx, h0, h1⟩ hs
  unfold unsubscribeConfigTopic
  grind [Quiet.frame, ConnectOp.prep, DisconnectOp.prep, SubscribeOp.prep, UnsubscribeOp.prep, ReauthOp.prep]

theorem unsubscribeAddUserProp_frame {op : UnsubscribeOp} {id : OpId}
    (hop : s.unsubscribeOp? id = some op) (key value : Option Str) :
    Frame a b s (s.unsubscribeAddUserProp env op key value).1 :=
  ((Quiet.refl s).addUserPropToList env _ key value).setUnsubscribeOp hop
    ⟨rfl, rfl, rfl⟩ rfl

/-- The data and the callback of a reauthentication. -/
theorem reauthConfigAuth_frame {op : ReauthOp} {id : OpId} (hop : s.reauthOp? id = some op)
    (config : AuthConfig) : Frame a b s (s.reauthConfigAuth env op config).1 := by
  have hid : op.id = id := (Keyed.mem_of_find hop).2
  have hq : Quiet b s s := .refl s
  have hset : ∀ {t : Client} {x : ReauthOp}, Quiet b s t → x.id = op.id → x.timer = op.timer →
      x.prep = op.prep → Frame a b s (t.setReauthOp x) := fun h hx h0 hs =>
    h.setReauthOp hop ⟨hx, h0⟩ hs
  unfold reauthConfigAuth
  dsimp only
  split
  · exact (hq.fail _ _).frame
  · split
    · exact (hq.fail _ _).frame
    · refine hset (Quiet.andThenConfig (hq.addPropTo _ _ _ _ _) fun _ _ h => ?_) rfl rfl rfl
      grind

theorem reauthAddUserProp_frame {op : ReauthOp} {id : OpId} (hop : s.reauthOp? id = some op)
    (key value : Option Str) : Frame a b s (s.reauthAddUserProp env op key value).1 :=
  ((Quiet.refl s).addUserPropToList env _ key value).setReauthOp hop
    ⟨rfl, rfl⟩ rfl

end Client

end Mqtt5
