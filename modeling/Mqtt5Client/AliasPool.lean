import Mqtt5Client.SendAliases

/-!
# Mqtt5Client — the numbers of the topic aliases

`allocPubTopicAlias` takes the number of a new alias from `m_sendTopicFreeAliases`, or else from the length
of that very list, which is empty then: the number is 1, whatever the table holds. So two topics share an
alias as soon as both have one, and the numbers are in order only while one topic at a time has an alias
(`sendAliases_sound`). The free list belongs to `SessionState` and the table to `ClientState`, so an alias
that is freed between `connect_prepare` and CONNACK outlives the connection it was meant for.
-/

namespace Mqtt5

open Client

variable {env : Env} {G : Guard} {a : Bool} {b : Scope} {s t u : Client} {sys sys' : Sys} {l : Label}
  {table table' : List TopicAliasInfo} {topic : Str}

/-- The aliases that belong to a topic, and those that were freed. -/
def Client.aliasPool (s : Client) : List Nat :=
  s.clientState.sendTopicAliases.map (·.aliasId) ++ s.sessionState.sendTopicFreeAliases

/-! ## What the steps do to the pool -/

theorem map_aliasId (table : List TopicAliasInfo) :
    table.map (·.aliasId) = (aliasEntries table).map Prod.snd := by
  unfold aliasEntries
  rw [List.map_map]
  rfl

/-- The free list is only touched by the two calls, and dropped with the session. -/
theorem Micro.freeAliases (h : Micro env G a b s t) (hG : ∀ topic, ¬G.alloc s topic) :
    t.sessionState.sendTopicFreeAliases.Sublist s.sessionState.sendTopicFreeAliases := by
  have hsame : ∀ {v : PubView}, t.view = v → v.sendTopicFreeAliases = s.view.sendTopicFreeAliases →
      t.sessionState.sendTopicFreeAliases.Sublist s.sessionState.sendTopicFreeAliases := fun hv hf => by
    rw [show t.sessionState.sendTopicFreeAliases = s.sessionState.sendTopicFreeAliases from
      (congrArg PubView.sendTopicFreeAliases hv).trans hf]
  cases h with
  | frame h => exact hsame h.view rfl
  | aliasNew topic count hA => exact absurd hA (hG topic)
  | aliasFree topic info hA => exact absurd hA (hG topic)
  | leave op hop hL h =>
    cases h with
    | erase h => exact hsame h.view rfl
    | deliver hwhy hqos hfits h => exact hsame h.view rfl
  | session c hc h =>
    cases c with
    | reset =>
      rw [show t.sessionState.sendTopicFreeAliases = [] from congrArg PubView.sendTopicFreeAliases h.view]
      exact List.nil_sublist _
    | _ => exact hsame h.view rfl
  | _ =>
    rename_i h
    exact hsame h.view rfl

/-- Apart from the two calls on aliases a step never makes one. -/
theorem Micro.aliasPool (h : Micro env G a b s t) (hG : ∀ topic, ¬G.alloc s topic) :
    t.aliasPool.Sublist s.aliasPool := by
  refine List.Sublist.append ?_ (h.freeAliases hG)
  cases h.aliasEffect with
  | keeps h =>
    rw [map_aliasId, h, ← map_aliasId]
  | adds topic aliasId n hA => exact absurd hA (hG topic)
  | frees topic info hA => exact absurd hA (hG topic)
  | accepts limit size keep hA h =>
    rw [h]
    exact (List.take_sublist _ _).map _
  | clears hA h =>
    rw [h]
    exact List.nil_sublist _

/-- Only the two calls may change the aliases. -/
theorem stepGuard_alloc (hcall : ∀ topic, (∀ count, l ≠ .call (.pubTopicAliasAlloc (some topic) count)) ∧
    l ≠ .call (.pubTopicAliasFree (some topic))) (u : Client) (topic : Str) :
    ¬((stepGuard env sys l).woken env).alloc u topic := by
  intro hG
  unfold stepGuard at hG
  split at hG
  · exact hG
  · rcases hG.2 with ⟨count, hl⟩ | hl
    · exact (hcall topic).1 count hl
    · exact (hcall topic).2 hl

/-! ## Aliases in order -/

/-- At most one number is in use or free, and the broker of the connection accepts it. -/
structure AliasPoolOk (s : Client) : Prop where
  one : s.aliasPool.Sublist [1]
  range : s.sessionState.connected = true → ∀ x ∈ s.aliasPool, x ≤ s.sessionState.maxSendTopicAlias

/-- The pool is empty, or it is the number 1. -/
theorem AliasPoolOk.cases (h : AliasPoolOk s) : s.aliasPool = [] ∨ s.aliasPool = [1] := by
  have hlen := h.one.length_le
  match hp : s.aliasPool with
  | [] => exact Or.inl rfl
  | [x] =>
    have hmem : x ∈ [1] := h.one.subset (by rw [hp]; exact List.mem_singleton_self x)
    rw [List.mem_singleton.mp hmem]
    exact Or.inr rfl
  | x :: y :: rest =>
    rw [hp] at hlen
    exact absurd hlen (by simp)

theorem AliasPoolOk.of_sublist (h : AliasPoolOk s) (hsub : t.aliasPool.Sublist s.aliasPool)
    (hrange : t.sessionState.connected = true → s.sessionState.connected = true ∧
      t.sessionState.maxSendTopicAlias = s.sessionState.maxSendTopicAlias) : AliasPoolOk t where
  one := hsub.trans h.one
  range := fun hup x hx => by
    obtain ⟨hcon, hmax⟩ := hrange hup
    rw [hmax]
    exact h.range hcon x (hsub.subset hx)

/-- A step within a connection keeps it. -/
theorem Micro.aliasPoolOk (h : Micro env ((labelGuard env sys l).woken env) a b s t)
    (hG : ∀ topic, ¬((labelGuard env sys l).woken env).alloc s topic) (hs : AliasPoolOk s) :
    AliasPoolOk t := by
  refine hs.of_sublist (h.aliasPool hG) fun hup => ?_
  rcases h.aliasLimit with ⟨hc, hm⟩ | ⟨c, hc, hview⟩
  · exact ⟨hc.symm.trans hup, hm⟩
  · have hup' : t.view.connected = true := hup
    rw [hview] at hup'
    cases c with
    | disconnecting => cases hup'
    | reset => cases hup'
    | ordering o => exact ⟨hup', congrArg PubView.maxSendTopicAlias hview⟩
    | _ => exact hc.elim

/-! ## The two calls -/

/-- `allocPubTopicAlias` gets as far as choosing the number of a new alias. -/
def Client.choosesAlias (env : Env) (topic : Str) (qos0RegsCount : Nat) (s : Client) : Bool :=
  env.cfg.hasTopicAliases && topic != [] && s.sessionState.connected && !s.sessionState.disconnecting &&
    decide (s.clientState.sendTopicAliases.length < s.sessionState.maxSendTopicAlias) &&
    !isFull env.cfg.topicAliasesLimit s.clientState.sendTopicAliases.length &&
    decide (qos0RegsCount ≤ 255) && (findTopicAlias s.clientState.sendTopicAliases topic).isNone

/-- A call that chooses no new number changes no number. -/
theorem allocPubTopicAlias_cases (env : Env) (topic : Option Str) (count : Nat) (s : Client) :
    ((s.allocPubTopicAlias env topic count).1.aliasPool = s.aliasPool ∧
      (s.allocPubTopicAlias env topic count).1.faults = s.faults ∧
      (s.allocPubTopicAlias env topic count).1.sessionState = s.sessionState) ∨
    ∃ x, topic = some x ∧ s.choosesAlias env x count = true ∧
      (s.allocPubTopicAlias env topic count).1 = s.addTopicAlias x count := by
  unfold allocPubTopicAlias
  dsimp only
  split
  · exact Or.inl ⟨rfl, rfl, rfl⟩
  rename_i hcfg
  split
  · exact Or.inl ⟨rfl, rfl, rfl⟩
  · exact Or.inl ⟨rfl, rfl, rfl⟩
  rename_i x hx
  repeat' split
  case h_1 =>
    refine Or.inl ⟨?_, rfl, rfl⟩
    unfold Client.aliasPool
    rw [map_aliasId, map_aliasId]
    exact congrArg (List.map Prod.snd · ++ _) (aliasEntries_modify fun _ => ⟨rfl, rfl⟩)
  case h_2 hcon hdis hmax hfull hcount _ hnone =>
    refine Or.inr ⟨x, rfl, ?_, rfl⟩
    have hne : x ≠ [] := fun h => hx (by rw [h])
    have hcfg : env.cfg.hasTopicAliases = true := by simpa using hcfg
    have hcon : s.sessionState.connected = true := by simpa using hcon
    have hfull : isFull env.cfg.topicAliasesLimit s.clientState.sendTopicAliases.length = false := by
      simpa using hfull
    have hdis : s.sessionState.disconnecting = false := by simpa using hdis
    simp [Client.choosesAlias, hne, hcfg, hcon, hdis, hfull, hnone, Nat.lt_of_not_le hmax,
      Nat.le_of_not_lt hcount]
  all_goals exact Or.inl ⟨rfl, rfl, rfl⟩

/-- The next number is 1, and no freed one is left then. -/
theorem AliasPoolOk.next (h : AliasPoolOk s) :
    nextTopicAlias s.sessionState.sendTopicFreeAliases = (1, []) := by
  have hsub : s.sessionState.sendTopicFreeAliases.Sublist [1] := (List.sublist_append_right _ _).trans h.one
  rcases List.sublist_cons_iff.mp hsub with hnil | ⟨rest, heq, hrest⟩
  · rw [List.sublist_nil.mp hnil]
    rfl
  · rw [heq, List.sublist_nil.mp hrest]
    rfl

theorem room_of_choosesAlias {x : Str} {count : Nat} (h : s.choosesAlias env x count = true) :
    s.clientState.sendTopicAliases.length < s.sessionState.maxSendTopicAlias := by
  simp only [Client.choosesAlias, Bool.and_eq_true, decide_eq_true_eq] at h
  exact h.1.1.1.2

/-- A new alias, number by number. -/
theorem AliasPoolOk.addTopicAlias (h : AliasPoolOk s) (topic : Str) (count : Nat)
    (hroom : s.clientState.sendTopicAliases.length < s.sessionState.maxSendTopicAlias) :
    s.addTopicAlias topic count = (s.setFreeAliases []).setSendAliases
      (insertTopicAlias s.clientState.sendTopicAliases ⟨topic, 1, max count 1⟩) := by
  unfold Client.addTopicAlias
  dsimp only
  rw [h.next]
  unfold Client.assert
  rw [if_pos (by simp; omega)]

/-- The assertion of `allocPubTopicAlias` holds. -/
theorem AliasPoolOk.asserted (h : AliasPoolOk s) (env : Env) (topic : Option Str) (count : Nat) :
    (s.allocPubTopicAlias env topic count).1.faults = s.faults := by
  rcases allocPubTopicAlias_cases env topic count s with ⟨-, hf, -⟩ | ⟨x, -, hx, heq⟩
  · exact hf
  · rw [heq, h.addTopicAlias x count (room_of_choosesAlias hx)]
    rfl

/-- An allocation keeps the numbers in order when it chooses the only one. -/
theorem AliasPoolOk.alloc (h : AliasPoolOk s) (env : Env) (topic : Option Str) (count : Nat)
    (hone : ∀ x, topic = some x → s.choosesAlias env x count = true →
      s.clientState.sendTopicAliases = []) :
    AliasPoolOk (s.allocPubTopicAlias env topic count).1 := by
  rcases allocPubTopicAlias_cases env topic count s with ⟨hpool, -, hsession⟩ | ⟨x, hx, hchoose, heq⟩
  · refine h.of_sublist (by rw [hpool]) fun hup => ?_
    rw [hsession] at hup ⊢
    exact ⟨hup, rfl⟩
  · have hroom := room_of_choosesAlias hchoose
    rw [heq, h.addTopicAlias x count hroom, hone x hx hchoose]
    refine ⟨List.Sublist.refl [1], fun _ y hy => ?_⟩
    have hy : y = 1 := List.mem_singleton.mp hy
    show y ≤ s.sessionState.maxSendTopicAlias
    omega

/-- A freed alias stays in the pool. -/
theorem freePubTopicAlias_pool (env : Env) (topic : Option Str) (s : Client) :
    (s.freePubTopicAlias env topic).1.aliasPool.Perm s.aliasPool ∧
      (s.freePubTopicAlias env topic).1.sessionState.connected = s.sessionState.connected ∧
      (s.freePubTopicAlias env topic).1.sessionState.maxSendTopicAlias =
        s.sessionState.maxSendTopicAlias := by
  unfold freePubTopicAlias
  dsimp only
  split
  · exact ⟨.refl _, rfl, rfl⟩
  split
  · exact ⟨.refl _, rfl, rfl⟩
  · exact ⟨.refl _, rfl, rfl⟩
  rename_i x _
  split
  · exact ⟨.refl _, rfl, rfl⟩
  · rename_i info hsome
    refine ⟨?_, rfl, rfl⟩
    -- the entry that goes is the one that was found
    obtain ⟨hlt, hinfo⟩ : ∃ hlt : lowerBound s.clientState.sendTopicAliases x <
        s.clientState.sendTopicAliases.length,
        s.clientState.sendTopicAliases[lowerBound s.clientState.sendTopicAliases x] = info := by
      unfold findTopicAlias at hsome
      split at hsome
      · rename_i found hfound
        split at hsome
        · cases hsome
          exact List.getElem?_eq_some_iff.mp hfound
        · cases hsome
      · cases hsome
    have hperm := (List.getElem_cons_eraseIdx_perm hlt).map (·.aliasId)
    rw [hinfo, List.map_cons] at hperm
    show ((s.clientState.sendTopicAliases.eraseIdx _).map (·.aliasId) ++
      (s.sessionState.sendTopicFreeAliases ++ [info.aliasId])).Perm s.aliasPool
    unfold Client.aliasPool
    rw [← List.append_assoc]
    refine List.perm_append_comm.trans ?_
    rw [List.singleton_append, ← List.cons_append]
    exact hperm.append_right _

/-- A release keeps the numbers in order. -/
theorem AliasPoolOk.free (h : AliasPoolOk s) (env : Env) (topic : Option Str) :
    AliasPoolOk (s.freePubTopicAlias env topic).1 := by
  obtain ⟨hperm, hcon, hmax⟩ := freePubTopicAlias_pool env topic s
  refine ⟨?_, fun hup x hx => ?_⟩
  · rcases h.cases with hp | hp
    · rw [hp, List.perm_nil] at hperm
      rw [hperm]
      exact List.nil_sublist _
    · rw [hp, List.perm_singleton] at hperm
      rw [hperm]
  · rw [hmax]
    exact h.range (hcon.symm.trans hup) x (hperm.mem_iff.mp hx)

/-! ## CONNACK -/

/-- What a CONNACK makes of `m_maxSendTopicAlias`. -/
def Client.nextAliasMax (env : Env) (op : ConnectOp) (msg : ConnackMsg) (s : Client) : Nat :=
  if env.cfg.hasTopicAliases && (PropsHandler.ofProps env.cfg msg.props).topicAliasMax.isSome then
    (connackAnswer env op msg).topicAliasMax
  else s.sessionState.maxSendTopicAlias

theorem connackConnected_aliasMax (env : Env) (op : ConnectOp) (msg : ConnackMsg) (s : Client) :
    (s.connackConnected env op msg).sessionState.maxSendTopicAlias = s.nextAliasMax env op msg := by
  have hstore : ((s.timerCancel op.timer).storeAliasMax env (PropsHandler.ofProps env.cfg msg.props)
      (connackAnswer env op msg)).sessionState.maxSendTopicAlias = s.nextAliasMax env op msg := by
    unfold storeAliasMax Client.nextAliasMax
    split <;> rfl
  exact hstore

/-- The connection that begins has the maximum of its CONNACK. -/
theorem connectHandleConnack_aliasMax (hr : Reg s) {op : ConnectOp} (hop : op ∈ s.connectOps)
    {msg : ConnackMsg} (hacc : connackAccepted env op msg = true) :
    (s.connectHandleConnack env op msg).sessionState.maxSendTopicAlias = s.nextAliasMax env op msg := by
  have hsteady : Steady (s.connackConnected env op msg) (s.connectHandleConnack env op msg) :=
    Acts.steady (connectHandleConnack_within (b := .within) hr hop hacc)
  rw [← connackConnected_aliasMax, hsteady.session]

/-! ## Runs -/

/-- The call chooses the number of a new alias. -/
def Sys.choosesAlias (env : Env) (sys : Sys) : Label → Bool
  | .call (.pubTopicAliasAlloc (some topic) count) => sys.client.choosesAlias env topic count
  | _ => false

/-- Topics have an alias one at a time, and an alias that was freed before CONNACK is one that the broker
accepts. -/
structure OneAlias (env : Env) (sys : Sys) (l : Label) : Prop where
  alloc : sys.choosesAlias env l = true → sys.client.clientState.sendTopicAliases = []
  connack : ∀ msg ∈ sys.connack l, ∀ op ∈ sys.client.connectOps, connackAccepted env op msg = true →
    ∀ x ∈ sys.client.sessionState.sendTopicFreeAliases, x ≤ sys.client.nextAliasMax env op msg

instance (env : Env) (sys : Sys) (l : Label) : Decidable (OneAlias env sys l) :=
  decidable_of_iff ((sys.choosesAlias env l = true → sys.client.clientState.sendTopicAliases = []) ∧
    ∀ msg ∈ sys.connack l, ∀ op ∈ sys.client.connectOps, connackAccepted env op msg = true →
      ∀ x ∈ sys.client.sessionState.sendTopicFreeAliases, x ≤ sys.client.nextAliasMax env op msg)
    ⟨fun h => ⟨h.1, h.2⟩, fun h => ⟨h.alloc, h.connack⟩⟩

/-- A run of steps without the two calls leaves at most the numbers there were. -/
theorem MicroRun.aliasPool (h : MicroRun env G a b s t) (hG : ∀ u topic, ¬G.alloc u topic) :
    t.aliasPool.Sublist s.aliasPool ∧
      t.sessionState.sendTopicFreeAliases.Sublist s.sessionState.sendTopicFreeAliases := by
  induction h with
  | refl => exact ⟨.refl _, .refl _⟩
  | tail _ h ih => exact ⟨(h.aliasPool (hG _)).trans ih.1, (h.freeAliases (hG _)).trans ih.2⟩

/-- A CONNACK keeps the numbers in order: when it is accepted, no topic has one. -/
theorem connack_aliasPoolOk (hw : SysWf sys) (hapart : Apart sys.client)
    (hstep : sys.step env l = some sys') {msg : ConnackMsg} (hin : sys.inMsg l = some (.connack msg))
    (hok : OneAlias env sys l) (hs : AliasPoolOk sys.client) : AliasPoolOk sys'.client := by
  obtain ⟨rest, rfl, -, hclient⟩ := inMsg_step hstep hin
  obtain ⟨hpool, hfree⟩ := MicroRun.aliasPool (MacroRun.run
    (step_effects (a := false) (b := .begins) hw hstep (by simp) (.begins _)) hw.reg)
    (stepGuard_alloc fun topic => ⟨fun _ => by simp, by simp⟩)
  have hframe : ∀ {u v : Client}, Frame true .bare u v →
      v.sessionState.connected = u.sessionState.connected ∧
        v.sessionState.maxSendTopicAlias = u.sessionState.maxSendTopicAlias ∧
        v.clientState.sendTopicAliases = u.clientState.sendTopicAliases := fun h =>
    ⟨congrArg PubView.connected h.view, congrArg PubView.maxSendTopicAlias h.view,
      congrArg PubView.sendTopicAliases h.view⟩
  refine ⟨hpool.trans hs.one, fun hup x hx => ?_⟩
  rw [hclient] at hup
  cases handleConnack_dispatched env hw.reg hw.lock msg with
  | before h heq =>
    obtain ⟨hcon, hmax, -⟩ := hframe h
    rw [hclient, hmax]
    exact hs.range (hcon.symm.trans hup) x (hpool.subset hx)
  | handled u op hop hpre heq hcon hpost hgone =>
    obtain ⟨hpcon, hpmax, hptable⟩ := hframe hpost
    have hmem : op ∈ u.connectOps := by rw [heq]; exact hop
    cases hacc : connackAccepted env op msg with
    | false =>
      have hoff : u.sessionState.connected = false := by rw [heq]; exact hapart.off_of_mem hop
      rw [hpcon, connectHandleConnack_off hmem hacc hoff] at hup
      cases hup
    | true =>
      have hnext : u.nextAliasMax env op msg = sys.client.nextAliasMax env op msg := by rw [heq]; rfl
      have hempty : sys'.client.clientState.sendTopicAliases = [] := by
        rw [hclient, hptable, connectHandleConnack_aliases hacc]
      have hx : x ∈ sys'.client.sessionState.sendTopicFreeAliases := by
        unfold Client.aliasPool at hx
        rwa [hempty] at hx
      rw [hclient, hpmax, connectHandleConnack_aliasMax (hpre.reg hw.reg) hmem hacc, hnext]
      have hmsg : msg ∈ sys.connack .run := by
        unfold Sys.connack
        rw [hin]
        rfl
      exact hok.connack msg hmsg op hop hacc x (hfree.subset hx)

/-- Every step that gives a number to one topic at a time keeps the numbers in order. -/
theorem step_aliasPoolOk (hw : SysWf sys) (hapart : Apart sys.client) (hstep : sys.step env l = some sys')
    (hok : OneAlias env sys l) (hs : AliasPoolOk sys.client) : AliasPoolOk sys'.client := by
  cases hc : sys.isConnack l with
  | true =>
    obtain ⟨msg, hin⟩ := connack_of_isConnack hc
    exact connack_aliasPoolOk hw hapart hstep hin hok hs
  | false =>
    have hother : (∀ topic, (∀ count, l ≠ .call (.pubTopicAliasAlloc (some topic) count)) ∧
        l ≠ .call (.pubTopicAliasFree (some topic))) → AliasPoolOk sys'.client := by
      intro hcall
      have hrun := MacroRun.run (step_effects (a := false) (b := .begins) hw hstep (by simp) (.begins _))
        hw.reg
      have hG : ∀ u topic, ¬((stepGuard env sys l).woken env).alloc u topic := stepGuard_alloc hcall
      unfold stepGuard at hrun hG
      rw [hc, if_neg (by simp)] at hrun
      simp only [hc, Bool.false_eq_true, if_false] at hG
      exact MicroRun.invariant (fun h _ hu => h.aliasPoolOk (hG _) hu) hrun hw.reg hs
    cases l with
    | run => exact hother fun topic => ⟨fun _ => by simp, by simp⟩
    | call api =>
      cases api with
      | pubTopicAliasAlloc topic count =>
        obtain ⟨-, -, rfl⟩ := call_step hstep
        refine hs.alloc env topic count fun x hx hchoose => ?_
        subst hx
        exact hok.alloc hchoose
      | pubTopicAliasFree topic =>
        obtain ⟨-, -, rfl⟩ := call_step hstep
        exact hs.free env topic
      | _ => exact hother fun topic => ⟨fun _ => by simp, by simp⟩

/-- The table of aliases and the free list: the table is sorted, no alias is used twice, none is both used
and free, all are numbers the broker of the connection accepts, and an allocation asserts nothing that
fails. -/
structure SendAliasesSound (env : Env) (s : Client) : Prop where
  sorted : s.clientState.sendTopicAliases.Pairwise (·.topic < ·.topic)
  distinct : (s.clientState.sendTopicAliases.map (·.aliasId)).Nodup
  range : s.sessionState.connected = true → ∀ info ∈ s.clientState.sendTopicAliases,
    1 ≤ info.aliasId ∧ info.aliasId ≤ s.sessionState.maxSendTopicAlias
  freeDistinct : s.sessionState.sendTopicFreeAliases.Nodup
  freeRange : s.sessionState.connected = true → ∀ x ∈ s.sessionState.sendTopicFreeAliases,
    1 ≤ x ∧ x ≤ s.sessionState.maxSendTopicAlias
  disjoint : ∀ info ∈ s.clientState.sendTopicAliases,
    info.aliasId ∉ s.sessionState.sendTopicFreeAliases
  asserted : ∀ topic count, (s.allocPubTopicAlias env topic count).1.faults = s.faults

/-- What the numbers in order come to. -/
theorem AliasPoolOk.sound (h : AliasPoolOk s) (ht : AliasTable s.clientState.sendTopicAliases) :
    SendAliasesSound env s := by
  have hnodup : s.aliasPool.Nodup := h.one.nodup (List.nodup_singleton 1)
  have hrange : s.sessionState.connected = true → ∀ x ∈ s.aliasPool,
      1 ≤ x ∧ x ≤ s.sessionState.maxSendTopicAlias := by
    intro hup x hx
    have hone : x = 1 := List.mem_singleton.mp (h.one.subset hx)
    exact ⟨by omega, h.range hup x hx⟩
  have hused : ∀ info ∈ s.clientState.sendTopicAliases, info.aliasId ∈ s.aliasPool := fun info hinfo =>
    List.mem_append_left _ (List.mem_map_of_mem hinfo)
  unfold Client.aliasPool at hnodup
  rw [List.nodup_append] at hnodup
  obtain ⟨hdistinct, hfree, hdisjoint⟩ := hnodup
  have hstrict := ht.strict
  unfold aliasEntries Sorted.Strict at hstrict
  rw [List.pairwise_map] at hstrict
  exact
    { sorted := hstrict
      distinct := hdistinct
      range := fun hup info hinfo => hrange hup _ (hused info hinfo)
      freeDistinct := hfree
      freeRange := fun hup x hx => hrange hup x (List.mem_append_right _ hx)
      disjoint := fun info hinfo hx => hdisjoint _ (List.mem_map_of_mem hinfo) _ hx rfl
      asserted := h.asserted env }

/-- While one topic at a time has an alias, the table and the free list are in order. -/
theorem sendAliases_sound (h : (machine env).Reach (OneAlias env) sys) :
    SendAliasesSound env sys.client := by
  have hinit : ∀ sys, (machine env).init sys → AliasPoolOk sys.client := by
    rintro _ ⟨cbs, config, rfl⟩
    exact ⟨List.nil_sublist _, fun _ x hx => by cases hx⟩
  have hpool : AliasPoolOk sys.client := h.invariant hinit fun sys l sys' hs hinv hok hstep =>
    step_aliasPoolOk (reach_wf hs) (reach_inSession hs).apart hstep hok hinv
  exact hpool.sound (reach_aliasTable h)

/-- A CONNACK that allows up to `n` aliases. -/
def aliasConnack (n : Nat) : ConnackMsg :=
  { sessionPresent := false, reasonCode := ReasonCode.success, props := [.topicAliasMax n] }

/-- The alias of a lost connection is freed before the next CONNACK, and another topic gets its number. -/
theorem sendAliases_sound_reused : ∃ sys, (machine .dynamic).Reach (OneAlias .dynamic) sys ∧
    sys.client.sessionState.connected = true ∧
    sys.client.clientState.sendTopicAliases = [⟨['b'], 1, 2⟩] ∧
    SendAliasesSound .dynamic sys.client := by
  obtain ⟨sys, hreach, hup, htable⟩ := exists_reach_ok .dynamic (OneAlias .dynamic)
    (connectCalls true {} (aliasConnack 5) ++
      [(.pubTopicAliasAlloc (some ['a']) 1, 1), (.notifyNetworkDisconnected 0, 3)] ++
      reconnectCalls 2 true {} ++
      [(.pubTopicAliasFree (some ['a']), 1), (packet (.connack (aliasConnack 5)), 5),
       (.pubTopicAliasAlloc (some ['b']) 2, 1)])
    (fun sys => sys.client.sessionState.connected = true ∧
      sys.client.clientState.sendTopicAliases = [⟨['b'], 1, 2⟩]) (by decide +kernel)
  exact ⟨sys, hreach, hup, htable, sendAliases_sound hreach⟩

/-- Two topics get the same number. And an alias freed between `connect_prepare` and CONNACK is still free
in a connection that allows none. -/
theorem sendAliases_shared :
    (∃ sys, (machine .dynamic).Reach (fun _ _ => True) sys ∧
      sys.client.clientState.sendTopicAliases = [⟨['a'], 1, 1⟩, ⟨['b'], 1, 1⟩] ∧
      ¬SendAliasesSound .dynamic sys.client) ∧
    ∃ sys, (machine .dynamic).Reach (fun _ _ => True) sys ∧
      sys.client.sessionState.connected = true ∧ sys.client.sessionState.maxSendTopicAlias = 0 ∧
      sys.client.sessionState.sendTopicFreeAliases = [1] ∧ ¬SendAliasesSound .dynamic sys.client := by
  constructor
  · obtain ⟨sys, hreach, htable⟩ := exists_reach_fresh .dynamic
      (connectCalls true {} (aliasConnack 5) ++
        [(.pubTopicAliasAlloc (some ['a']) 1, 1), (.pubTopicAliasAlloc (some ['b']) 1, 1)])
      (fun sys => sys.client.clientState.sendTopicAliases = [⟨['a'], 1, 1⟩, ⟨['b'], 1, 1⟩])
      (by decide +kernel)
    refine ⟨sys, hreach, htable, fun h => ?_⟩
    have hdistinct := h.distinct
    rw [htable] at hdistinct
    exact absurd hdistinct (by decide)
  · obtain ⟨sys, hreach, hup, hmax, hfree⟩ := exists_reach_fresh .dynamic
      (connectCalls true {} (aliasConnack 5) ++
        [(.pubTopicAliasAlloc (some ['a']) 1, 1), (.notifyNetworkDisconnected 0, 3)] ++
        reconnectCalls 2 true {} ++
        [(.pubTopicAliasFree (some ['a']), 1), (packet (.connack plainConnack), 5)])
      (fun sys => sys.client.sessionState.connected = true ∧
        sys.client.sessionState.maxSendTopicAlias = 0 ∧
        sys.client.sessionState.sendTopicFreeAliases = [1]) (by decide +kernel)
    refine ⟨sys, hreach, hup, hmax, hfree, fun h => ?_⟩
    have hrange := (h.freeRange hup 1 (by rw [hfree]; exact List.mem_singleton_self 1)).2
    omega

end Mqtt5
