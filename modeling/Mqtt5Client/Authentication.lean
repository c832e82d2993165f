import Mqtt5Client.Timers
import Mqtt5Client.Negotiation

/-!
# Mqtt5Client — authentication while connecting

A connect operation that was sent waits for CONNACK with its response timer, and the broker may ask it to
authenticate before. It then either goes on waiting, or ends with a completion. The answer is what the
application returns; the handler releases its scope guard before it asks.
-/

namespace Mqtt5

open Client

variable {env : Env} {a : Bool} {b : Scope} {act : Act} {s t u : Client} {sys sys' : Sys} {l : Label}

/-! ## A connect operation in flight -/

/-- A connect operation that was sent has its timer and its callback. -/
def ConnectSent (s : Client) : Prop :=
  ∀ op ∈ s.connectOps, op.sent = true → op.timer.isSome = true ∧ op.cb = true

/-- A connect operation is marked and given its callback in one update. -/
theorem Prim.connectSent (h : Prim act s t) (hreg : Registered s) (hs : ConnectSent s) :
    ConnectSent t := by
  have hd : Keyed.Distinct ConnectOp.id s.connectOps := hreg.nodup .connect
  have hset : ∀ x : ConnectOp, (x.sent = true → x.timer.isSome = true ∧ x.cb = true) →
      ConnectSent (s.setConnectOp x) := by
    intro x hx y hy
    rcases hd.mem_modifyFirst hy with rfl | ⟨hy, -⟩
    · exact hx
    · exact hs y hy
  cases hwrites : act.writesConnect with
  | false =>
    intro op hop hsent
    rcases h.connectOps hwrites op hop with hop | ⟨hfresh, -⟩
    · exact hs op hop hsent
    · rw [hfresh] at hsent
      cases hsent
  | true =>
    cases h with
    | setConnect op x hop hx hsent =>
      refine hset x fun hxs => ?_
      rw [hx.timer, hx.cb]
      exact hs op hop (hsent ▸ hxs)
    | markConnect op hop htimer => exact hset _ fun _ => ⟨htimer, rfl⟩
    | _ => cases hwrites

/-- A sent connect operation has a callback. -/
theorem reach_connectSent {ok : Sys → Label → Prop} (h : (machine env).Reach ok sys) :
    ConnectSent sys.client := by
  have hinit : ∀ sys, (machine env).init sys → ConnectSent sys.client := by
    rintro _ ⟨cbs, config, rfl⟩
    exact fun op hop => nomatch hop
  refine h.invariant hinit fun sys l sys' hs hinv _ hstep => ?_
  have hacts := step_acts (a := false) (b := .begins) (reach_wf hs) hstep (by simp) (.begins _)
  have hrun : ∀ {s t : Client}, Acts false .begins s t → Registered s → ConnectSent s →
      ConnectSent t := by
    intro s t hacts hreg hs
    induction hacts with
    | refl => exact hs
    | tail hacts hprim ih =>
      obtain ⟨act, -, hprim⟩ := hprim
      exact hprim.connectSent (Acts.registered hacts hreg) ih
  exact hrun hacts (reach_registered hs) hinv

/-- An initialised client is not disconnecting. -/
def FreshSession (s : Client) : Prop :=
  s.clientState.initialized = true → s.sessionState.disconnecting = false

theorem FreshSession.of_eq (h : FreshSession s) (hi : t.clientState.initialized = s.clientState.initialized)
    (hd : t.sessionState.disconnecting = s.sessionState.disconnecting) : FreshSession t := by
  unfold FreshSession
  rw [hi, hd]
  exact h

/-- Nothing is asked of a client that was not initialised. -/
theorem FreshSession.of_off (h : t.clientState.initialized = false) : FreshSession t := fun hi => by
  rw [h] at hi
  cases hi

/-- Within a connection the flags stay. -/
theorem Steady.freshSession (h : Steady s t) (hs : FreshSession s) : FreshSession t :=
  hs.of_eq h.initialized h.disconnecting

/-- The initialisation forgets that the last session was being ended. -/
theorem step_freshSession (hw : SysWf sys) (hreg : Registered sys.client)
    (hstep : sys.step env l = some sys') (hs : FreshSession sys.client) : FreshSession sys'.client := by
  cases step_conn hw hreg hstep with
  | keeps hk => exact hk.steady.freshSession hs
  | ends u reason status info hu hd ht => exact .of_off hd.initialized
  | connack msg hin hc =>
    cases hc with
    | keeps hk => exact hk.steady.freshSession hs
    | refused op u hop hacc hu ht hgone => exact ht.steady.freshSession fun _ => rfl
    | accepted op u hop hacc hu ht hgone =>
      obtain ⟨-, hd, hi, -⟩ := connackConnected_flags env op msg u
      exact ht.steady.freshSession ((hu.steady.freshSession hs).of_eq hi hd)
  | network hl hhead ht =>
    rw [ht]
    unfold networkDown
    dsimp only
    split
    · exact hs.of_eq rfl rfl
    · obtain ⟨v, hv, heq⟩ := brokerDisconnected_same env (s := { sys.client with clientState :=
        { sys.client.clientState with networkDisconnected := true } }) none .brokerDisconnected none
      rw [heq]
      exact .of_off hv.initialized
  | prepare elapsed hl ht =>
    obtain ⟨log, counts, heq⟩ := beginConnectPrepare_client elapsed sys.client
    rw [ht, heq]
    exact hs.of_eq rfl rfl
  | initial hl hhead ht =>
    rw [ht]
    unfold initInternal
    split
    · exact hs.of_eq rfl rfl
    · split
      · exact hs.of_eq rfl rfl
      · exact fun _ => rfl

theorem reach_freshSession {ok : Sys → Label → Prop} (h : (machine env).Reach ok sys) :
    FreshSession sys.client := by
  have hinit : ∀ sys, (machine env).init sys → FreshSession sys.client := by
    rintro _ ⟨cbs, config, rfl⟩
    exact .of_off rfl
  exact h.invariant hinit fun sys l sys' hs hinv _ hstep =>
    step_freshSession (reach_wf hs) (reach_registered hs) hstep hinv

/-- What is known while a connect operation waits for its CONNACK. -/
structure Connecting (s : Client) (op : ConnectOp) : Prop where
  mem : op ∈ s.connectOps
  alone : s.connectOps = [op]
  timer : ∃ i info, op.timer = some i ∧ s.timerMgr.timers[i]? = some info ∧ info.allocated = true
  cb : op.cb = true
  connected : s.sessionState.connected = false
  disconnecting : s.sessionState.disconnecting = false
  offline : ∀ type, type.isOnline = true → s.opCount type = 0
  registered : Registered s

/-- What the handler of AUTH relies on holds in every reachable state. -/
theorem reach_connecting {ok : Sys → Label → Prop} (h : (machine env).Reach ok sys) {op : ConnectOp}
    (hop : op ∈ sys.client.connectOps) (hsent : op.sent = true) : Connecting sys.client op := by
  have hw := reach_wf h
  have hin := reach_inSession h
  obtain ⟨htimer, hcb⟩ := reach_connectSent h op hop hsent
  have halone : sys.client.connectOps = [op] := by
    have hpos := List.length_pos_of_mem hop
    obtain ⟨x, hx⟩ := List.length_eq_one_iff.mp (Nat.le_antisymm hw.lock.connect hpos)
    rw [hx, List.mem_singleton] at hop
    rw [hx, hop]
  have hcount : sys.client.opCount .connect ≠ 0 := by
    show sys.client.connectOps.length ≠ 0
    rw [halone]
    exact Nat.one_ne_zero
  have hoff : sys.client.sessionState.connected = false := by
    cases hcon : sys.client.sessionState.connected with
    | false => rfl
    | true => exact absurd (hin.apart.online hcon) hcount
  obtain ⟨i, hi⟩ := Option.isSome_iff_exists.mp htimer
  have hown : sys.client.owns (some i) (.connectTimeout op.id) := ⟨op, hop, rfl, hi⟩
  obtain ⟨info, hinfo⟩ := SlotsOk.slot (reach_timersOk h) hown
  exact ⟨hop, halone, ⟨i, info, hi, hinfo⟩, hcb, hoff,
    reach_freshSession h (hin.apart.initialized (Or.inr hcount)), hin.apart.offline hoff,
    reach_registered h⟩

/-! ## The answer of the application -/

/-- A list with a capacity takes that many elements. -/
def Room (limit n : Nat) : Prop := limit = 0 ∨ n ≤ limit

/-- Room for more properties is room for fewer. -/
theorem Room.mono {limit m n : Nat} (h : Room limit n) (hle : m ≤ n) : Room limit m :=
  h.imp_right (Nat.le_trans hle)

theorem isFull_eq_false {limit n : Nat} : isFull limit n = false ↔ Room limit (n + 1) := by
  unfold isFull Room
  simp only [Bool.and_eq_false_imp, bne_iff_ne, ne_eq, decide_eq_false_iff_not]
  omega

/-- A property is added while there is room. -/
theorem addProp_of_room {limit : Nat} {props : PropsList} (h : Room limit (props.length + 1))
    (p : Property) : addProp limit props p = some (props ++ [p]) := by
  unfold addProp
  rw [isFull_eq_false.mpr h]
  rfl

/-- And refused when there is none. -/
theorem addProp_of_full {limit : Nat} {props : PropsList} (h : ¬Room limit (props.length + 1))
    (p : Property) : addProp limit props p = none := by
  unfold addProp
  rw [← isFull_eq_false, Bool.not_eq_false] at h
  rw [h]
  rfl

/-- The authentication data of an answer as properties. -/
def AuthInfo.dataProps (out : AuthInfo) : PropsList :=
  if out.authDataLen = 0 then [] else [.authData (out.authData.getD [])]

def AuthInfo.reasonProps (out : AuthInfo) : PropsList := (out.reasonStr.map Property.reasonStr).toList

/-- The user properties the application counts. -/
def AuthInfo.counted (out : AuthInfo) : List (Option Str × Option Str) :=
  if out.userPropsCount = 0 then [] else (out.userProps.getD []).take out.userPropsCount

def userProperty (p : Option Str × Option Str) : Property := .userProperty (p.1.getD []) (p.2.getD [])

/-- The properties of the AUTH that answers. -/
def authAnswer (method : Str) (out : AuthInfo) : PropsList :=
  [.authMethod method] ++ out.dataProps ++ out.reasonProps ++ out.counted.map userProperty

/-- A user property that can be sent. -/
structure GoodUserProp (env : Env) (p : Option Str × Option Str) : Prop where
  supported : env.cfg.hasUserProps = true
  key : ∃ key, p.1 = some key ∧ key.length ≤ maxStringLen
  value : (p.2.getD []).length ≤ maxStringLen

/-- What the application returns can be sent. -/
structure GoodAnswer (env : Env) (method : Str) (out : AuthInfo) : Prop where
  data : out.authDataLen ≠ 0 → ∃ data, out.authData = some data ∧ data.length ≤ maxStringLen
  reason : ∀ text, out.reasonStr = some text → text.length ≤ maxStringLen
  list : out.userPropsCount ≠ 0 → out.userProps.isSome = true
  userProps : ∀ p ∈ out.counted, GoodUserProp env p
  room : Room env.cfg.propsLimit (authAnswer method out).length

/-- A part of the answer: it is built when it is good, and else there is a status. -/
structure Built (good : Prop) (props : PropsList) (s : Client)
    (r : (Client × Option AsyncOpStatus) × PropsList) : Prop where
  ok : good → r = ((s, none), props)
  bad : ¬good → r.1.2.isSome = true ∧ LogsErrors s r.1.1

variable {texts : AuthTexts} {out : AuthInfo} {props : PropsList}

/-- The authentication data of the answer. -/
theorem authDataProp_built (env : Env) (texts : AuthTexts) (out : AuthInfo) (props : PropsList)
    (s : Client) :
    Built ((out.authDataLen ≠ 0 → ∃ data, out.authData = some data ∧ data.length ≤ maxStringLen) ∧
        (out.dataProps = [] ∨ Room env.cfg.propsLimit (props ++ out.dataProps).length))
      (props ++ out.dataProps) s (s.authDataProp env texts out props) := by
  unfold Client.authDataProp AuthInfo.dataProps
  by_cases hlen : out.authDataLen = 0
  · rw [if_pos hlen, if_pos hlen, List.append_nil]
    exact ⟨fun _ => rfl, fun h => absurd ⟨fun h => absurd hlen h, Or.inl rfl⟩ h⟩
  · rw [if_neg hlen, if_neg hlen]
    cases hdata : out.authData with
    | none =>
      refine ⟨fun h => ?_, fun _ => ⟨rfl, .refl s⟩⟩
      obtain ⟨data, heq, -⟩ := h.1 hlen
      cases heq
    | some data =>
      have hlength : (props ++ [Property.authData data]).length = props.length + 1 := by simp
      dsimp only [Option.getD_some]
      rw [hlength]
      by_cases hroom : Room env.cfg.propsLimit (props.length + 1)
      · rw [addProp_of_room hroom]
        dsimp only
        by_cases hlong : maxStringLen < data.length
        · rw [if_pos hlong]
          refine ⟨fun h => ?_, fun _ => ⟨rfl, (LogsErrors.refl s).errorLog _⟩⟩
          obtain ⟨data', heq, hle⟩ := h.1 hlen
          obtain rfl := Option.some.inj heq
          omega
        · rw [if_neg hlong]
          exact ⟨fun _ => rfl, fun h => absurd ⟨fun _ => ⟨data, rfl, by omega⟩, Or.inr hroom⟩ h⟩
      · rw [addProp_of_full hroom]
        refine ⟨fun h => ?_, fun _ => ⟨rfl, (LogsErrors.refl s).errorLog _⟩⟩
        rcases h.2 with h | h
        · cases h
        · exact absurd h hroom

/-- Its reason string. -/
theorem authReasonProp_built (env : Env) (texts : AuthTexts) (out : AuthInfo) (props : PropsList)
    (s : Client) :
    Built ((∀ text, out.reasonStr = some text → text.length ≤ maxStringLen) ∧
        (out.reasonProps = [] ∨ Room env.cfg.propsLimit (props ++ out.reasonProps).length))
      (props ++ out.reasonProps) s (s.authReasonProp env texts out props) := by
  unfold Client.authReasonProp AuthInfo.reasonProps
  cases htext : out.reasonStr with
  | none =>
    refine ⟨fun _ => by simp, fun h => absurd ⟨fun _ h => (nomatch h), Or.inl rfl⟩ h⟩
  | some text =>
    have hlength : (props ++ [Property.reasonStr text]).length = props.length + 1 := by simp
    dsimp only [Option.map_some, Option.toList_some]
    rw [hlength]
    by_cases hroom : Room env.cfg.propsLimit (props.length + 1)
    · rw [addProp_of_room hroom]
      dsimp only
      by_cases hlong : maxStringLen < text.length
      · rw [if_pos hlong]
        refine ⟨fun h => ?_, fun _ => ⟨rfl, (LogsErrors.refl s).errorLog _⟩⟩
        have hle := h.1 text rfl
        omega
      · rw [if_neg hlong]
        refine ⟨fun _ => rfl, fun h => absurd ⟨fun text' heq => ?_, Or.inr hroom⟩ h⟩
        obtain rfl := Option.some.inj heq
        omega
    · rw [addProp_of_full hroom]
      refine ⟨fun h => ?_, fun _ => ⟨rfl, (LogsErrors.refl s).errorLog _⟩⟩
      rcases h.2 with h | h
      · cases h
      · exact absurd h hroom

/-- One user property. -/
theorem addUserProp_cases (env : Env) (s : Client) (props : PropsList) (p : Option Str × Option Str) :
    (GoodUserProp env p ∧ Room env.cfg.propsLimit (props.length + 1) ∧
        s.addUserPropToList env props p.1 p.2 = ((s, .success), props ++ [userProperty p])) ∨
      ¬(GoodUserProp env p ∧ Room env.cfg.propsLimit (props.length + 1)) ∧
        (s.addUserPropToList env props p.1 p.2).1.2 ≠ .success ∧
        LogsErrors s (s.addUserPropToList env props p.1 p.2).1.1 := by
  obtain ⟨key, value⟩ := p
  have hlog : ∀ text, LogsErrors s (s.errorLog text) := (LogsErrors.refl s).errorLog
  unfold Client.addUserPropToList Client.fail
  cases hsup : env.cfg.hasUserProps with
  | false =>
    refine Or.inr ⟨fun h => ?_, by simp, hlog _⟩
    rw [h.1.supported] at hsup
    cases hsup
  | true =>
    simp only [Bool.not_true, Bool.false_eq_true, if_false]
    cases key with
    | none =>
      refine Or.inr ⟨fun h => ?_, by simp, hlog _⟩
      obtain ⟨key, heq, -⟩ := h.1.key
      cases heq
    | some k =>
      -- the list is asked for room before the lengths are checked
      by_cases hroom : Room env.cfg.propsLimit (props.length + 1)
      · dsimp only
        rw [addProp_of_room hroom]
        dsimp only
        by_cases hkey : maxStringLen < k.length
        · rw [if_pos hkey]
          refine Or.inr ⟨fun h => ?_, by simp, hlog _⟩
          obtain ⟨key, heq, hle⟩ := h.1.key
          obtain rfl := Option.some.inj heq
          omega
        · rw [if_neg hkey]
          by_cases hvalue : maxStringLen < (value.getD []).length
          · rw [if_pos hvalue]
            refine Or.inr ⟨fun h => ?_, by simp, hlog _⟩
            have hle := h.1.value
            dsimp only at hle
            omega
          · rw [if_neg hvalue]
            exact Or.inl ⟨⟨hsup, ⟨k, rfl, by omega⟩, by dsimp only; omega⟩, hroom, rfl⟩
      · dsimp only
        rw [addProp_of_full hroom]
        exact Or.inr ⟨fun h => hroom h.2, by simp, hlog _⟩

/-- The loop over the user properties. -/
theorem authUserProps_built (env : Env) (list : List (Option Str × Option Str)) (s : Client)
    (props : PropsList) :
    Built ((∀ p ∈ list, GoodUserProp env p) ∧
        (list = [] ∨ Room env.cfg.propsLimit (props ++ list.map userProperty).length))
      (props ++ list.map userProperty) s (s.authUserProps env list props) := by
  induction list generalizing s props with
  | nil =>
    refine ⟨fun _ => by simp [Client.authUserProps], fun h => absurd ⟨?_, Or.inl rfl⟩ h⟩
    exact fun p hp => nomatch hp
  | cons p list ih =>
    have hlength : (props ++ (p :: list).map userProperty).length =
        ((props ++ [userProperty p]) ++ list.map userProperty).length := by simp
    unfold Client.authUserProps
    dsimp only
    -- the first property goes in and the loop goes on, or all ends here
    rcases addUserProp_cases env s props p with ⟨hgood, hroom, heq⟩ | ⟨hbad, hec, hlogs⟩
    · rw [heq]
      dsimp only
      rw [if_pos rfl]
      obtain ⟨hok, hfail⟩ := ih s (props ++ [userProperty p])
      have hprops : props ++ (p :: list).map userProperty =
          (props ++ [userProperty p]) ++ list.map userProperty := by simp
      rw [hprops]
      refine ⟨fun h => hok ⟨fun q hq => h.1 q (List.mem_cons_of_mem _ hq), ?_⟩,
        fun h => hfail fun h' => h ⟨fun q hq => ?_, Or.inr ?_⟩⟩
      · rcases h.2 with h | h
        · cases h
        · exact Or.inr h
      · rcases List.mem_cons.mp hq with rfl | hq
        · exact hgood
        · exact h'.1 q hq
      · rcases h'.2 with h | h
        · rw [h]
          simpa using hroom
        · exact h
    · rw [if_neg hec]
      refine ⟨fun h => absurd ⟨h.1 p List.mem_cons_self, ?_⟩ hbad, fun _ => ⟨rfl, hlogs⟩⟩
      rcases h.2 with h | h
      · cases h
      · refine h.mono ?_
        simp

/-- Its user properties. -/
theorem authUserPropsPart_built (env : Env) (texts : AuthTexts) (s : Client) :
    Built ((out.userPropsCount ≠ 0 → out.userProps.isSome = true) ∧
        (∀ p ∈ out.counted, GoodUserProp env p) ∧
        (out.counted = [] ∨
          Room env.cfg.propsLimit (props ++ out.counted.map userProperty).length))
      (props ++ out.counted.map userProperty) s (s.authUserPropsPart env texts out props) := by
  unfold Client.authUserPropsPart AuthInfo.counted
  by_cases hcount : out.userPropsCount = 0
  · rw [if_pos hcount, if_pos hcount, List.map_nil, List.append_nil]
    refine ⟨fun _ => rfl, fun h => absurd ⟨fun h => absurd hcount h, ?_, Or.inl rfl⟩ h⟩
    exact fun p hp => nomatch hp
  · rw [if_neg hcount, if_neg hcount]
    cases hlist : out.userProps with
    | none =>
      have hempty : ¬(none : Option (List (Option Str × Option Str))).isSome = true := nofun
      dsimp only
      split
      · exact ⟨fun h => absurd (h.1 hcount) hempty, fun _ => ⟨rfl, .refl s⟩⟩
      · exact ⟨fun h => absurd (h.1 hcount) hempty, fun _ => ⟨rfl, (LogsErrors.refl s).errorLog _⟩⟩
    | some list =>
      obtain ⟨hok, hbad⟩ := authUserProps_built env (list.take out.userPropsCount) s props
      exact ⟨fun h => hok h.2, fun h => hbad fun h' => h ⟨fun _ => rfl, h'⟩⟩

/-- The properties are built one part after the other, up to the first that fails. -/
theorem Built.seq {good good' : Prop} {props props' : PropsList}
    {r : (Client × Option AsyncOpStatus) × PropsList}
    (next : (Client × Option AsyncOpStatus) × PropsList → (Client × Option AsyncOpStatus) × PropsList)
    (h : Built good props s r) (hnext : Built good' props' s (next ((s, none), props))) :
    Built (good ∧ good') props' s (if r.1.2.isSome then r else next r) := by
  by_cases hgood : good
  · rw [h.ok hgood]
    exact ⟨fun h => hnext.ok h.2, fun h => hnext.bad fun h' => h ⟨hgood, h'⟩⟩
  · obtain ⟨hsome, hlogs⟩ := h.bad hgood
    rw [if_pos hsome]
    exact ⟨fun h => absurd h.1 hgood, fun _ => ⟨hsome, hlogs⟩⟩

/-- The answer is built when it is good. -/
theorem authResponseProps_built (env : Env) (texts : AuthTexts) (out : AuthInfo) (method : Str)
    (s : Client) :
    Built (GoodAnswer env method out) (authAnswer method out) s
      (s.authResponseProps env texts method out) := by
  have hlog : ∀ text, LogsErrors s (s.errorLog text) := (LogsErrors.refl s).errorLog
  unfold Client.authResponseProps
  by_cases hroom : Room env.cfg.propsLimit 1
  · rw [addProp_of_room (show Room _ ([].length + 1) from hroom)]
    have htail := Built.seq (fun r => r.1.1.authUserPropsPart env texts out r.2)
      (authReasonProp_built env texts out ([] ++ [Property.authMethod method] ++ out.dataProps) s)
      (authUserPropsPart_built env texts s)
    have h := Built.seq (fun r => if (r.1.1.authReasonProp env texts out r.2).1.2.isSome then
          r.1.1.authReasonProp env texts out r.2
        else (r.1.1.authReasonProp env texts out r.2).1.1.authUserPropsPart env texts out
          (r.1.1.authReasonProp env texts out r.2).2)
      (authDataProp_built env texts out ([] ++ [Property.authMethod method]) s) htail
    have hlength : ∀ l l' : PropsList, ([Property.authMethod method] ++ l).length ≤
        ([Property.authMethod method] ++ l ++ l').length := fun l l' => by simp
    refine ⟨fun hg => h.ok ⟨⟨hg.data, Or.inr (hg.room.mono ?_)⟩, ⟨hg.reason, Or.inr (hg.room.mono ?_)⟩,
      hg.list, hg.userProps, Or.inr hg.room⟩, fun hg => h.bad fun hall => hg ?_⟩
    · unfold authAnswer
      simp
    · unfold authAnswer
      simp
    · obtain ⟨⟨hdata, hr₁⟩, ⟨hreason, hr₂⟩, hlist, hprops, hr₃⟩ := hall
      refine ⟨hdata, hreason, hlist, hprops, ?_⟩
      -- the last part that adds something has seen the whole list
      unfold authAnswer
      rcases hr₃ with hnil | hr₃
      · rw [hnil, List.map_nil, List.append_nil]
        rcases hr₂ with hnil | hr₂
        · rw [hnil, List.append_nil]
          rcases hr₁ with hnil | hr₁
          · rw [hnil]
            exact hroom
          · exact hr₁
        · exact hr₂
      · exact hr₃
  · rw [addProp_of_full (show ¬Room _ ([].length + 1) from hroom)]
    refine ⟨fun h => absurd (h.room.mono ?_) hroom, fun _ => ⟨rfl, hlog _⟩⟩
    unfold authAnswer
    simp

/-! ## The handler -/

/-- The completion of a connect operation is reported. -/
def Event.isConnectCb : Event → Bool
  | .connectCb .. => true
  | _ => false

/-- The exchange goes on: an AUTH was sent, and the operation waits with its timer. -/
structure AuthContinues (op : ConnectOp) (s t : Client) : Prop where
  sent : ∃ msg source, .output (.auth msg) source ∈ eventsSince s t ∧
    msg.reasonCode = some ReasonCode.continueAuth
  alive : ∃ x ∈ t.connectOps, x.id = op.id
  active : t.timerMgr.isActive op.timer = true

/-- The exchange has ended: a DISCONNECT was sent, and the operation is gone and was completed once, as
aborted when the application wanted to disconnect. -/
structure AuthEnds (op : ConnectOp) (reply : AuthReply) (s t : Client) : Prop where
  sent : ∃ msg source, .output (.disconnect msg) source ∈ eventsSince s t
  removed : ∀ x ∈ t.connectOps, x.id ≠ op.id
  completed : ∃ status response, status ≠ .complete ∧
    (eventsSince s t).filter Event.isConnectCb = [.connectCb status response] ∧
    ((∃ report, .authCb report ∈ eventsSince s t) → reply = .disconnect → status = .aborted)

def AuthProgress (op : ConnectOp) (reply : AuthReply) (s t : Client) : Prop :=
  (AuthContinues op s t ∧ ¬AuthEnds op reply s t) ∨ (¬AuthContinues op s t ∧ AuthEnds op reply s t)

/-- The AUTH that answers. -/
def continueAuthMsg (props : PropsList) : ReasonMsg :=
  { reasonCode := some ReasonCode.continueAuth, props := some props }

/-- The message is in error, or it is answered. -/
def AuthSettles (env : Env) (op : ConnectOp) (msg : ReasonMsg) (valid : Bool) (reply : AuthReply)
    (s : Client) : Prop :=
  (∃ text reason, connectAuthError env op msg valid = some (text, reason) ∧
    s.fits env (.disconnect { reasonCode := some reason, props := some [] }) = true) ∨
  (connectAuthError env op msg valid = none ∧ ∃ out, reply = .continue out ∧
    GoodAnswer env op.authMethod out ∧
      s.fits env (.auth (continueAuthMsg (authAnswer op.authMethod out))) = true)

/-- The events of a step are what it adds to the log. -/
theorem eventsSince_of {events : List Event} (h : t.log = s.log ++ events) :
    eventsSince s t = events := by
  unfold eventsSince
  rw [h]
  exact List.drop_left

/-- The events count from the same place. -/
theorem authProgress_congr {op : ConnectOp} {reply : AuthReply} (h : t.log = s.log) :
    AuthProgress op reply t u ↔ AuthProgress op reply s u := by
  have hevents : eventsSince t u = eventsSince s u := by
    unfold eventsSince
    rw [h]
  have hcont : AuthContinues op t u ↔ AuthContinues op s u :=
    ⟨fun hc => ⟨hevents ▸ hc.sent, hc.alive, hc.active⟩,
      fun hc => ⟨hevents ▸ hc.sent, hc.alive, hc.active⟩⟩
  have hends : AuthEnds op reply t u ↔ AuthEnds op reply s u :=
    ⟨fun he => ⟨hevents ▸ he.sent, he.removed, hevents ▸ he.completed⟩,
      fun he => ⟨hevents ▸ he.sent, he.removed, hevents ▸ he.completed⟩⟩
  unfold AuthProgress
  rw [hcont, hends]

/-- Nothing is sent. -/
def Silent (s t : Client) : Prop :=
  ∃ events, t.log = s.log ++ events ∧ ∀ msg source, .output msg source ∉ events

theorem Silent.refl (s : Client) : Silent s s := ⟨[], by simp⟩

/-- Nothing is sent in either part. -/
theorem Silent.trans (h : Silent s t) (h' : Silent t u) : Silent s u := by
  obtain ⟨events, hlog, hout⟩ := h
  obtain ⟨events', hlog', hout'⟩ := h'
  refine ⟨events ++ events', by rw [hlog', hlog, List.append_assoc], fun msg source hmem => ?_⟩
  rcases List.mem_append.mp hmem with hmem | hmem
  · exact hout _ _ hmem
  · exact hout' _ _ hmem

theorem Silent.of_log (h : t.log = s.log) : Silent s t := ⟨[], by simp [h]⟩

/-- An event that is no output. -/
theorem Silent.emit (s : Client) {e : Event} (h : ∀ msg source, .output msg source ≠ e) :
    Silent s (s.emit e) :=
  ⟨[e], rfl, fun msg source hmem => h msg source (List.mem_singleton.mp hmem)⟩

/-- Entries of the error log are no output. -/
theorem LogsErrors.silent (h : LogsErrors s t) : Silent s t := by
  obtain ⟨texts, counts, rfl⟩ := h
  refine ⟨texts.map Event.errorLog, rfl, fun msg source hmem => ?_⟩
  obtain ⟨text, -, heq⟩ := List.mem_map.mp hmem
  cases heq

/-- Either way something is sent. -/
theorem Silent.not_authProgress {op : ConnectOp} {reply : AuthReply} (h : Silent s t) :
    ¬AuthProgress op reply s t := by
  obtain ⟨events, hlog, hsilent⟩ := h
  have hevents := eventsSince_of hlog
  rintro (⟨h, -⟩ | ⟨-, h⟩)
  · obtain ⟨msg, source, hmem, -⟩ := h.sent
    rw [hevents] at hmem
    exact hsilent _ _ hmem
  · obtain ⟨msg, source, hmem⟩ := h.sent
    rw [hevents] at hmem
    exact hsilent _ _ hmem

/-- A message that fits goes out where nothing else is to be done. -/
theorem post_of_fits (hkeep : s.keepAliveOps = []) {msg : OutMsg} (h : s.fits env msg = true) :
    s.post env msg = s.emit (.output msg none) := by
  unfold Client.post
  rw [sendMessage_of_fits h]
  unfold Client.keepAliveMessageSent
  rw [show (s.emit (.output msg none)).keepAliveOps = [] from hkeep]
  rfl

/-- A message that is too large is not sent. -/
theorem post_of_not_fits {msg : OutMsg} (h : s.fits env msg = false) :
    LogsErrors s (s.post env msg) := by
  obtain ⟨text, ec, -, heq⟩ := sendMessage_error (o := none) h
  unfold Client.post
  rw [heq]
  exact (LogsErrors.refl s).errorLog text

variable {op : ConnectOp} {msg : ReasonMsg} {valid : Bool} {reply : AuthReply}

/-- The completion of the only connect operation. -/
theorem Connecting.complete (h : Connecting s op) (status : AsyncOpStatus) :
    ∃ m counts, s.connectComplete op status none = { s with
      ops := nullify ⟨.connect, op.id⟩ s.ops, opsDeleted := true, connectOps := [], timerMgr := m,
      log := s.log ++ [.connectCb status none], counts := counts } := by
  have href : some ⟨.connect, op.id⟩ ∈ s.ops :=
    h.registered.mem.mpr (List.mem_map.mpr ⟨op, h.mem, rfl⟩)
  have hfind : s.connectOps.find? (·.id == op.id) = some op := by
    rw [h.alone]
    simp
  have herase : s.connectOps.eraseP (·.id == op.id) = [] := by
    rw [h.alone]
    simp
  unfold Client.connectComplete Client.opCompleteConnect Client.opCompleteWith Client.unregisterOp
    Client.eraseConnectOp
  rw [if_pos href]
  dsimp only
  rw [hfind, h.cb, if_pos rfl]
  dsimp only
  rw [herase]
  exact ⟨_, _, rfl⟩

/-- A change of the timers and the log. -/
theorem Connecting.congr (h : Connecting s op) (m : TimerMgr) (log : List Event)
    (counts : List (Nat × Nat))
    (hlen : ∀ (i : Nat) (info : TimerInfo), s.timerMgr.timers[i]? = some info →
      ∃ info' : TimerInfo, m.timers[i]? = some info' ∧ info'.allocated = info.allocated) :
    Connecting { s with timerMgr := m, log := log, counts := counts } op := by
  obtain ⟨i, info, hi, hget, halloc⟩ := h.timer
  obtain ⟨info', hget', halloc'⟩ := hlen i info hget
  refine ⟨h.mem, h.alone, ⟨i, info', hi, hget', halloc'.trans halloc⟩, h.cb, h.connected,
    h.disconnecting, fun type htype => ?_, h.registered.same rfl (fun type => ?_) (Nat.le_refl _)⟩
  · have hcount := h.offline type htype
    cases type <;> exact hcount
  · cases type <;> rfl

theorem Connecting.log (h : Connecting s op) (log : List Event) (counts : List (Nat × Nat)) :
    Connecting { s with log := log, counts := counts } op :=
  h.congr s.timerMgr log counts fun _ info hget => ⟨info, hget, rfl⟩

/-- Entries of the error log. -/
theorem Connecting.errors (h : Connecting s op) (hlogs : LogsErrors s t) : Connecting t op := by
  obtain ⟨texts, counts, rfl⟩ := hlogs
  exact h.log _ _

/-- A change of the slot of a timer. -/
theorem getElem?_modifySlot (m : TimerMgr) (idx : Nat) {f : TimerInfo → TimerInfo}
    (hf : ∀ info, (f info).allocated = info.allocated) (i : Nat) (info : TimerInfo)
    (h : m.timers[i]? = some info) :
    ∃ info' : TimerInfo, (m.modifySlot idx f).timers[i]? = some info' ∧
      info'.allocated = info.allocated := by
  refine ⟨if idx = i then f info else info, ?_, ?_⟩
  · show (m.timers.modify idx f)[i]? = _
    rw [List.getElem?_modify, h]
    rfl
  · split
    · exact hf info
    · rfl

/-- The timer of the operation is not looked at. -/
theorem Connecting.timerCancel (h : Connecting s op) : Connecting (s.timerCancel op.timer) op := by
  refine h.congr _ s.log s.counts fun i info hget => ?_
  cases op.timer with
  | none => exact ⟨info, hget, rfl⟩
  | some idx =>
    exact getElem?_modifySlot s.timerMgr idx (fun info => show info.cancel.allocated = _ from rfl) i
      info hget

theorem Connecting.timerWait (h : Connecting s op) (ms : Nat) (cb : TimeoutCb) :
    Connecting (s.timerWait op.timer ms cb) op := by
  refine h.congr _ s.log s.counts fun i info hget => ?_
  cases op.timer with
  | none => exact ⟨info, hget, rfl⟩
  | some idx =>
    exact getElem?_modifySlot s.timerMgr idx
      (fun info => show ({ info with timeoutMs := ms, timeoutCb := some cb } : TimerInfo).allocated = _
        from rfl) i info hget

/-- The restarted timer is active. -/
theorem Connecting.isActive (h : Connecting s op) (ms : Nat) (cb : TimeoutCb) :
    (s.timerMgr.wait op.timer ms cb).isActive op.timer = true := by
  obtain ⟨i, info, hi, hget, -⟩ := h.timer
  rw [hi]
  unfold TimerMgr.isActive TimerMgr.wait TimerMgr.modifySlot
  simp [List.getElem?_modify, hget]

/-- There is no keep alive before the connection. -/
theorem Connecting.keepAliveOps (h : Connecting s op) : s.keepAliveOps = [] :=
  List.length_eq_zero_iff.mp (h.offline .keepAlive rfl)

/-- Whether a message fits does not depend on the log. -/
theorem LogsErrors.fits (h : LogsErrors s t) (m : OutMsg) : t.fits env m = s.fits env m := by
  obtain ⟨texts, counts, rfl⟩ := h
  rfl

/-- A message that is answered with DISCONNECT. -/
theorem Connecting.error_progress (env : Env) (reply : AuthReply) (h : Connecting s op) (reason : ReasonCode)
    (hlogs : LogsErrors s t) :
    AuthProgress op reply s ((t.sendDisconnectMsg env reason).connectComplete op .protocolError none) ↔
      s.fits env (.disconnect { reasonCode := some reason, props := some [] }) = true := by
  have ht := h.errors hlogs
  unfold Client.sendDisconnectMsg
  rw [← hlogs.fits]
  -- without DISCONNECT in the log it is not one of the two ends
  cases hfits : t.fits env (.disconnect { reasonCode := some reason, props := some [] }) with
  | false =>
    refine iff_of_false (Silent.not_authProgress ?_) (by simp)
    have hpost := post_of_not_fits hfits
    obtain ⟨m, counts, heq⟩ := (ht.errors hpost).complete .protocolError
    rw [heq]
    exact (hlogs.trans hpost).silent.trans
      ⟨[.connectCb .protocolError none], rfl, fun _ _ hmem => by simp at hmem⟩
  | true =>
    refine iff_of_true (Or.inr ?_) rfl
    rw [post_of_fits ht.keepAliveOps hfits]
    obtain ⟨m, counts', heq⟩ := (ht.log (t.log ++ [.output (.disconnect
      { reasonCode := some reason, props := some [] }) none]) _).complete .protocolError
    have heq : (t.emit (.output (.disconnect { reasonCode := some reason, props := some [] })
        none)).connectComplete op .protocolError none = _ := heq
    rw [heq]
    obtain ⟨texts, counts, rfl⟩ := hlogs
    dsimp only
    -- the log since the AUTH: error texts, DISCONNECT and the callback
    have hevents : eventsSince s { s with
        ops := nullify ⟨.connect, op.id⟩ s.ops, opsDeleted := true, connectOps := [], timerMgr := m,
        log := s.log ++ texts.map Event.errorLog ++ [.output (.disconnect
          { reasonCode := some reason, props := some [] }) none] ++ [.connectCb .protocolError none],
        counts := counts' } =
        texts.map Event.errorLog ++ [.output (.disconnect
          { reasonCode := some reason, props := some [] }) none, .connectCb .protocolError none] :=
      eventsSince_of (by simp)
    refine ⟨fun hc => ?_, ⟨⟨{ reasonCode := some reason, props := some [] }, none, ?_⟩, ?_,
      .protocolError, none, by simp, ?_, ?_⟩⟩
    · obtain ⟨x, hx, -⟩ := hc.alive
      cases hx
    · rw [hevents]
      exact List.mem_append_right _ List.mem_cons_self
    · intro x hx
      cases hx
    · rw [hevents, List.filter_append]
      have hnil : (texts.map Event.errorLog).filter Event.isConnectCb = [] := by
        rw [List.filter_eq_nil_iff]
        intro e he
        obtain ⟨text, -, rfl⟩ := List.mem_map.mp he
        simp [Event.isConnectCb]
      rw [hnil]
      rfl
    · rintro ⟨report, hmem⟩
      rw [hevents] at hmem
      simp at hmem

/-- Authentication goes on or ends exactly when the message is in error or the application answers with
something that can be sent, and what is sent fits. -/
theorem Connecting.auth_progress (h : Connecting s op) :
    AuthProgress op reply s (s.connectHandleAuth env op msg valid reply) ↔
      AuthSettles env op msg valid reply s := by
  have h₀ := h.timerCancel
  have hs₀ : Silent s (s.timerCancel op.timer) := .of_log rfl
  unfold connectHandleAuth AuthSettles
  cases herr : connectAuthError env op msg valid with
  | some e =>
    obtain ⟨text, reason⟩ := e
    -- the events of the handler are those since the timer was cancelled
    have hiff : ∀ t, LogsErrors (s.timerCancel op.timer) t →
        (AuthProgress op reply s
            ((t.sendDisconnectMsg env reason).connectComplete op .protocolError none) ↔
          (∃ text' reason', some (text, reason) = some (text', reason') ∧
            s.fits env (.disconnect { reasonCode := some reason', props := some [] }) = true) ∨
          (some (text, reason) = none ∧ ∃ out, reply = .continue out ∧
            GoodAnswer env op.authMethod out ∧
              s.fits env (.auth (continueAuthMsg (authAnswer op.authMethod out))) = true)) := by
      intro t hlogs
      have hprogress : AuthProgress op reply s
          ((t.sendDisconnectMsg env reason).connectComplete op .protocolError none) ↔
          s.fits env (.disconnect { reasonCode := some reason, props := some [] }) = true := by
        rw [← authProgress_congr (s := s) (t := s.timerCancel op.timer) rfl]
        have hcancel := h₀.error_progress env reply reason hlogs
        exact hcancel
      rw [hprogress]
      refine ⟨fun hfits => Or.inl ⟨text, reason, rfl, hfits⟩, ?_⟩
      rintro (⟨text', reason', heq, hfits⟩ | ⟨heq, -⟩)
      · cases heq
        exact hfits
      · cases heq
    cases text with
    | none => exact hiff _ (.refl _)
    | some text => exact hiff _ ((LogsErrors.refl _).errorLog text)
  | none =>
    have hs₁ := hs₀.trans (Silent.emit (s.timerCancel op.timer)
      (e := .authCb (authReport env (PropsHandler.ofProps env.cfg (msg.props.getD [])))) (by simp))
    cases reply with
    | disconnect =>
      refine iff_of_false hs₁.not_authProgress ?_
      rintro (⟨text, reason, heq, -⟩ | ⟨-, out, heq, -⟩)
      · cases heq
      · cases heq
    | «continue» out =>
      dsimp only
      obtain ⟨hok, hbad⟩ := authResponseProps_built env
        { full := "Cannot add connect auth property, reached available limit.",
          reasonTooLong := "Reason string in CONNECT auth info too long", badUserProps := none }
        out op.authMethod ((s.timerCancel op.timer).emit (.authCb (authReport env
          (PropsHandler.ofProps env.cfg (msg.props.getD [])))))
      by_cases hgood : GoodAnswer env op.authMethod out
      · rw [hok hgood]
        dsimp only
        rw [if_neg (by simp)]
        have hs₂ := hs₁.trans (Silent.of_log (t := ((s.timerCancel op.timer).emit (.authCb (authReport
          env (PropsHandler.ofProps env.cfg (msg.props.getD []))))).restartConnectTimer op) rfl)
        cases hfits : s.fits env (.auth (continueAuthMsg (authAnswer op.authMethod out))) with
        | false =>
          have hpost := post_of_not_fits (s := ((s.timerCancel op.timer).emit (.authCb (authReport
            env (PropsHandler.ofProps env.cfg (msg.props.getD []))))).restartConnectTimer op) hfits
          refine iff_of_false (hs₂.trans hpost.silent).not_authProgress ?_
          rintro (⟨text, reason, heq, -⟩ | ⟨-, out', heq, -, hfits'⟩)
          · cases heq
          · cases heq
            rw [hfits] at hfits'
            cases hfits'
        | true =>
          refine iff_of_true (Or.inl ?_) (Or.inr ⟨rfl, out, rfl, hgood, hfits⟩)
          have hpost := post_of_fits (s := ((s.timerCancel op.timer).emit (.authCb (authReport
            env (PropsHandler.ofProps env.cfg (msg.props.getD []))))).restartConnectTimer op)
            h.keepAliveOps hfits
          unfold continueAuthMsg at hpost
          rw [hpost]
          refine ⟨⟨⟨continueAuthMsg (authAnswer op.authMethod out), none, ?_, rfl⟩,
            ⟨op, ?_, rfl⟩, ?_⟩, fun hends => ?_⟩
          · obtain ⟨events, hlog, -⟩ := hs₂
            rw [eventsSince_of ((congrArg (· ++ _) hlog).trans (List.append_assoc _ _ _))]
            exact List.mem_append_right _ List.mem_cons_self
          · exact h.mem
          · exact h₀.isActive _ _
          · exact hends.removed op h.mem rfl
      · obtain ⟨hsome, hlogs⟩ := hbad hgood
        rw [if_pos hsome]
        refine iff_of_false (hs₁.trans hlogs.silent).not_authProgress ?_
        rintro (⟨text, reason, heq, -⟩ | ⟨-, out', heq, hgood', -⟩)
        · cases heq
        · cases heq
          exact hgood hgood'

/-! ## The dispatch -/

/-- A loop in which only one round does something. -/
theorem foldl_range_single {α : Type} {f : α → Nat → α} {x y : α} {k n : Nat} (hk : k < n)
    (hbefore : ∀ i, i < k → f x i = x) (hat : f x k = y) (hafter : ∀ i, k < i → i < n → f y i = y) :
    (List.range n).foldl f x = y := by
  have hstart : ∀ m, m ≤ k → (List.range m).foldl f x = x := by
    intro m
    induction m with
    | zero => exact fun _ => rfl
    | succ m ih =>
      intro hm
      rw [List.range_succ, List.foldl_append, ih (by omega)]
      exact hbefore m (by omega)
  induction n with
  | zero => omega
  | succ n ih =>
    rw [List.range_succ, List.foldl_append]
    show f ((List.range n).foldl f x) n = y
    rcases Nat.lt_succ_iff_lt_or_eq.mp hk with hlt | rfl
    · rw [ih hlt fun i hi hin => hafter i hi (by omega)]
      exact hafter n hlt (by omega)
    · rw [hstart k (Nat.le_refl k)]
      exact hat

/-- A reference stands in the list once. -/
theorem index_unique {α β : Type} {f : α → Option β} {l : List α} {i k : Nat} {x : α} {y : β}
    (hd : (l.filterMap f).Nodup) (hi : l[i]? = some x) (hk : l[k]? = some x) (hx : f x = some y) :
    i = k := by
  have hlt : ∀ i k : Nat, l[i]? = some x → l[k]? = some x → ¬i < k := by
    intro i k hi hk hik
    rw [← List.take_append_drop k l, List.filterMap_append, List.nodup_append] at hd
    refine hd.2.2 y (List.mem_filterMap.mpr ⟨x, ?_, hx⟩) y (List.mem_filterMap.mpr ⟨x, ?_, hx⟩) rfl
    · exact List.mem_of_getElem? (by rw [List.getElem?_take_of_lt hik, hi])
    · have hdrop : (l.drop k)[0]? = some x := by rw [List.getElem?_drop, Nat.add_zero, hk]
      exact List.mem_of_getElem? hdrop
  have h₁ := hlt i k hi hk
  have h₂ := hlt k i hk hi
  omega

/-- The other operations do not look at an AUTH while the client is connecting. -/
theorem Connecting.other (h : Connecting s op) {ref : OpRef} (href : some ref ∈ s.ops)
    (hne : ref ≠ ⟨.connect, op.id⟩) : ref.type = .send ∨ ref.type = .recv := by
  have hid := h.registered.mem.mp href
  have honline : ref.type.isOnline = true → False := by
    intro htype
    have hcount := h.offline ref.type htype
    rw [← length_ids] at hcount
    rw [List.length_eq_zero_iff.mp hcount] at hid
    cases hid
  obtain ⟨type, id⟩ := ref
  cases type with
  | send => exact Or.inl rfl
  | recv => exact Or.inr rfl
  | connect =>
    have hid : id ∈ s.connectOps.map (·.id) := hid
    rw [h.alone, List.map_singleton, List.mem_singleton] at hid
    rw [hid] at hne
    exact absurd rfl hne
  | keepAlive | disconnect | subscribe | unsubscribe | reauth => exact (honline rfl).elim

theorem LogsErrors.ops (h : LogsErrors s t) : t.ops = s.ops := by
  obtain ⟨texts, counts, rfl⟩ := h
  rfl

/-- The handler only takes its own operation out of the list. -/
theorem Connecting.post_ops (h : Connecting s op) (m : OutMsg) : (s.post env m).ops = s.ops := by
  cases hfits : s.fits env m with
  | true =>
    rw [post_of_fits h.keepAliveOps hfits]
    rfl
  | false => exact (post_of_not_fits hfits).ops

/-- A message is sent. -/
theorem Connecting.post (env : Env) (h : Connecting s op) (m : OutMsg) : Connecting (s.post env m) op := by
  cases hfits : s.fits env m with
  | true =>
    rw [post_of_fits h.keepAliveOps hfits]
    exact h.log _ _
  | false => exact h.errors (post_of_not_fits hfits)

/-- The handler takes at most its own operation out of `m_ops`. -/
theorem Connecting.auth_ops (h : Connecting s op) :
    InPlace s.ops (s.connectHandleAuth env op msg valid reply).ops := by
  have h₀ := h.timerCancel
  unfold connectHandleAuth
  cases connectAuthError env op msg valid with
  | some e =>
    obtain ⟨text, reason⟩ := e
    have hdone : ∀ t, LogsErrors (s.timerCancel op.timer) t →
        InPlace s.ops ((t.sendDisconnectMsg env reason).connectComplete op .protocolError none).ops := by
      intro t hlogs
      obtain ⟨m, counts, heq⟩ := ((h₀.errors hlogs).post env (.disconnect
        { reasonCode := some reason, props := some [] })).complete .protocolError
      unfold Client.sendDisconnectMsg
      rw [heq]
      show InPlace s.ops (nullify _ (Client.post env _ t).ops)
      rw [(h₀.errors hlogs).post_ops, hlogs.ops]
      exact .nullify _ _
    cases text with
    | none => exact hdone _ (.refl _)
    | some text => exact hdone _ ((LogsErrors.refl _).errorLog text)
  | none =>
    cases reply with
    | disconnect => exact .refl _
    | «continue» out =>
      dsimp only
      obtain ⟨hok, hbad⟩ := authResponseProps_built env
        { full := "Cannot add connect auth property, reached available limit.",
          reasonTooLong := "Reason string in CONNECT auth info too long", badUserProps := none }
        out op.authMethod ((s.timerCancel op.timer).emit (.authCb (authReport env
          (PropsHandler.ofProps env.cfg (msg.props.getD [])))))
      by_cases hgood : GoodAnswer env op.authMethod out
      · rw [hok hgood]
        dsimp only
        rw [if_neg (by simp)]
        have hwait : Connecting (((s.timerCancel op.timer).emit (.authCb (authReport env
            (PropsHandler.ofProps env.cfg (msg.props.getD []))))).restartConnectTimer op) op :=
          (h₀.log _ _).timerWait _ _
        rw [hwait.post_ops]
        exact .refl _
      · obtain ⟨hsome, hlogs⟩ := hbad hgood
        rw [if_pos hsome, hlogs.ops]
        exact .refl _

/-- Only the connect operation takes an AUTH. -/
theorem Connecting.handle_auth (h : Connecting s op) :
    s.handle env (.auth msg valid reply) = s.connectHandleAuth env op msg valid reply := by
  have href : some ⟨.connect, op.id⟩ ∈ s.ops :=
    h.registered.mem.mpr (List.mem_map.mpr ⟨op, h.mem, rfl⟩)
  obtain ⟨k, hk, hget⟩ := List.mem_iff_getElem.mp href
  have hget : s.ops[k]? = some (some ⟨.connect, op.id⟩) := by
    rw [List.getElem?_eq_getElem hk, hget]
  have hfind : s.connectOp? op.id = some op := by
    unfold Client.connectOp?
    rw [h.alone]
    simp
  -- the operation is registered once
  have hother : ∀ i ref, s.ops[i]? = some (some ref) → i ≠ k → ref ≠ ⟨.connect, op.id⟩ := by
    rintro i ref hi hne rfl
    refine hne (index_unique ?_ hi hget (idOf_pos rfl))
    rw [h.registered.refs .connect]
    exact h.registered.nodup .connect
  have hquiet : ∀ (t : Client) (i : Nat), InPlace s.ops t.ops → i ≠ k →
      t.dispatchAt env (.auth msg valid reply) i = t := by
    intro t i hin hne
    unfold dispatchAt visitOp
    split
    · rfl
    · split
      · rename_i ref hi
        have hi := hin.2 i ref hi
        have htype := h.other (List.mem_of_getElem? hi) (hother i ref hi hne)
        obtain ⟨type, id⟩ := ref
        rcases htype with rfl | rfl <;> rfl
      · rfl
  show s.handleProtMessage env (.auth msg valid reply) = _
  unfold handleProtMessage
  rw [h.disconnecting, if_neg Bool.false_ne_true]
  refine foldl_range_single hk (fun i hi => hquiet s i (.refl _) (by omega)) ?_
    fun i hi _ => hquiet _ i h.auth_ops (by omega)
  unfold dispatchAt visitOp
  rw [h.disconnecting, if_neg Bool.false_ne_true, hget]
  show s.withOp (s.connectOp? op.id) .opComplete (connectHandleAuth env · msg valid reply) = _
  rw [hfind]
  rfl

/-- Authentication while connecting makes progress exactly when the message is in error or the
application answers with something that can be sent, and what is to be sent fits. -/
theorem connectAuth_progress {ok : Sys → Label → Prop} (h : (machine env).Reach ok sys)
    (hstep : sys.step env l = some sys') (hin : sys.inMsg l = some (.auth msg valid reply))
    (hop : op ∈ sys.client.connectOps) (hsent : op.sent = true) :
    AuthProgress op reply sys.client sys'.client ↔ AuthSettles env op msg valid reply sys.client := by
  have hcon := reach_connecting h hop hsent
  obtain ⟨-, -, -, hclient⟩ := inMsg_step hstep hin
  rw [hclient, hcon.handle_auth]
  exact hcon.auth_progress

/-- The broker asks to go on. -/
def authRequest : ReasonMsg :=
  { reasonCode := some ReasonCode.continueAuth, props := some [.authMethod ['m']] }

/-- A client that authenticates receives an AUTH while it connects. -/
def authCalls (reply : AuthReply) : List (Api × Nat) :=
  [(.connectPrepare 0, 5),
   (.connectConfigBasic 0 { clientId := some ['c'], keepAlive := 0, cleanStart := true }, 1),
   (.connectConfigAuth 0 { authCb := true, authMethod := some ['m'] }, 1), (.connectSend 0 true 0, 4),
   (packet (.auth authRequest true reply), 2)]

/-- A run up to the handling of the AUTH. -/
theorem exists_auth_step (reply : AuthReply) (p : Sys → Sys → Bool)
    (h : ((machine .dynamic).exec (fun _ _ => true) Sys.fresh (script (authCalls reply))).any
      (fun sys => decide (sys.inMsg .run = some (.auth authRequest true reply) ∧
        sys.client.connectOps.any (·.sent) = true ∧
        (sys.step .dynamic .run).any (p sys) = true)) = true) :
    ∃ sys sys' op, (machine .dynamic).Reach (fun _ _ => True) sys ∧
      sys.step .dynamic .run = some sys' ∧ sys.inMsg .run = some (.auth authRequest true reply) ∧
      op ∈ sys.client.connectOps ∧ op.sent = true ∧ p sys sys' = true := by
  obtain ⟨sys, hreach, hin, hops, hstep⟩ := exists_reach_fresh .dynamic (authCalls reply)
    (fun sys => sys.inMsg .run = some (.auth authRequest true reply) ∧
      sys.client.connectOps.any (·.sent) = true ∧ (sys.step .dynamic .run).any (p sys) = true) h
  obtain ⟨op, hop, hsent⟩ := List.any_eq_true.mp hops
  obtain ⟨sys', hstep, hp⟩ := (Option.any_eq_true _ _).mp hstep
  exact ⟨sys, sys', op, hreach, hstep, hin, hop, hsent, hp⟩

/-- An answer with authentication data. -/
def authReplyInfo : AuthInfo := { authData := some [7], authDataLen := 1 }

theorem authReplyInfo_good (method : Str) : GoodAnswer .dynamic method authReplyInfo where
  data := fun _ => ⟨[7], rfl, by decide⟩
  reason := fun _ h => nomatch h
  list := fun h => absurd rfl h
  userProps := fun _ h => nomatch h
  room := Or.inl rfl

/-- The answer can be sent, and the exchange goes on. -/
theorem connectAuth_progress_continue :
    ∃ (sys sys' : Sys) (op : ConnectOp), op ∈ sys.client.connectOps ∧ op.sent = true ∧
      sys.inMsg .run = some (.auth authRequest true (.continue authReplyInfo)) ∧
      sys.step .dynamic .run = some sys' ∧
      AuthSettles .dynamic op authRequest true (.continue authReplyInfo) sys.client ∧
      AuthProgress op (.continue authReplyInfo) sys.client sys'.client := by
  obtain ⟨sys, sys', op, hreach, hstep, hin, hop, hsent, hp⟩ :=
    exists_auth_step (.continue authReplyInfo)
      (fun sys _ => sys.client.connectOps.all fun op =>
        decide (connectAuthError .dynamic op authRequest true = none) &&
          sys.client.fits .dynamic (.auth (continueAuthMsg (authAnswer op.authMethod authReplyInfo))))
      (by decide +kernel)
  have hall := List.all_eq_true.mp hp op hop
  rw [Bool.and_eq_true, decide_eq_true_eq] at hall
  have hsettles : AuthSettles .dynamic op authRequest true (.continue authReplyInfo) sys.client :=
    Or.inr ⟨hall.1, authReplyInfo, rfl, authReplyInfo_good _, hall.2⟩
  exact ⟨sys, sys', op, hop, hsent, hin, hstep, hsettles,
    (connectAuth_progress hreach hstep hin hop hsent).mpr hsettles⟩

/-- The application wants to disconnect: nothing is sent, and the operation waits without a timer. -/
theorem connectAuth_disconnect_hangs :
    ∃ sys sys' op, (machine .dynamic).Reach (fun _ _ => True) sys ∧
      sys.step .dynamic .run = some sys' ∧
      sys.inMsg .run = some (.auth authRequest true .disconnect) ∧
      op ∈ sys.client.connectOps ∧ op.sent = true ∧
      ¬AuthProgress op .disconnect sys.client sys'.client ∧
      sys'.client.connectOps = sys.client.connectOps ∧
      sys'.client.connectOps.all (fun op => !sys'.client.timerMgr.isActive op.timer) = true := by
  obtain ⟨sys, sys', op, hreach, hstep, hin, hop, hsent, hp⟩ :=
    exists_auth_step .disconnect (fun sys sys' => decide (
      eventsSince sys.client sys'.client = [.authCb {}] ∧
        sys'.client.connectOps = sys.client.connectOps ∧
        sys'.client.connectOps.all (fun op => !sys'.client.timerMgr.isActive op.timer) = true))
      (by decide +kernel)
  obtain ⟨hevents, hops, htimers⟩ := of_decide_eq_true hp
  refine ⟨sys, sys', op, hreach, hstep, hin, hop, hsent, ?_, hops, htimers⟩
  rintro (⟨hc, -⟩ | ⟨-, he⟩)
  · obtain ⟨msg, source, hmem, -⟩ := hc.sent
    rw [hevents] at hmem
    simp at hmem
  · exact he.removed op (hops ▸ hop) rfl

end Mqtt5
