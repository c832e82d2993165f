import Mqtt5Client.Phases
import Mqtt5Client.TopicAliases
import Mqtt5Client.Lib.Sorted

/-!
# Mqtt5Client — the table of topic aliases

`m_sendTopicAliases` is a vector that is searched with `std::lower_bound`. In every reachable state it is
strictly sorted by topic, so the search is right (`sendAliases_kept`), and what it stands for is a map from
topics to aliases that changes in three ways only: `allocPubTopicAlias` adds a topic, `freePubTopicAlias`
removes one, and an accepted CONNACK empties it (`sendAliases_refine`). Publishes only use up the
registrations of an alias.
-/

namespace Mqtt5

open Client

variable {env : Env} {G : Guard} {a : Bool} {b : Scope} {s t u : Client} {sys sys' : Sys} {l : Label}
  {table table' : List TopicAliasInfo} {topic : Str}

/-! ## The table as a map -/

/-- What the table says about aliases, without the registrations that are left. -/
def aliasEntries (table : List TopicAliasInfo) : List (Str × Nat) :=
  table.map fun info => (info.topic, info.aliasId)

/-- The alias of a topic, by a plain search. -/
def aliasOf (table : List TopicAliasInfo) (topic : Str) : Option Nat :=
  (Sorted.lookup Prod.fst (aliasEntries table) topic).map Prod.snd

/-- The aliases of a client. -/
def Client.aliases (s : Client) : Str → Option Nat := aliasOf s.clientState.sendTopicAliases

/-- The table is sorted, and it names topics and aliases. -/
structure AliasTable (table : List TopicAliasInfo) : Prop where
  strict : Sorted.Strict Prod.fst (aliasEntries table)
  named : ∀ e ∈ aliasEntries table, e.1 ≠ [] ∧ e.2 ≠ 0

theorem lowerBound_eq (table : List TopicAliasInfo) (topic : Str) :
    lowerBound table topic = Sorted.place Prod.fst (aliasEntries table) topic := by
  unfold lowerBound Sorted.place aliasEntries
  rw [List.findIdx_map]
  rfl

theorem getElem?_aliasEntries (i : Nat) :
    (aliasEntries table)[i]? = table[i]?.map fun info => (info.topic, info.aliasId) :=
  List.getElem?_map ..

/-- The search of the library finds what the table says. -/
theorem findTopicAlias_eq (h : AliasTable table) (topic : Str) :
    (findTopicAlias table topic).map TopicAliasInfo.aliasId = aliasOf table topic := by
  unfold aliasOf
  rw [← Sorted.lookup_place h.strict, ← lowerBound_eq, getElem?_aliasEntries]
  unfold findTopicAlias
  cases table[lowerBound table topic]? with
  | none => rfl
  | some info =>
    dsimp only
    by_cases htopic : info.topic = topic
    · simp [htopic, Option.filter]
    · simp [htopic, Option.filter]

theorem aliasEntries_modify {i : Nat} {f : TopicAliasInfo → TopicAliasInfo}
    (hf : ∀ info, (f info).topic = info.topic ∧ (f info).aliasId = info.aliasId) :
    aliasEntries (table.modify i f) = aliasEntries table := by
  unfold aliasEntries
  refine List.ext_getElem? fun j => ?_
  rw [List.getElem?_map, List.getElem?_map, List.getElem?_modify]
  cases table[j]? with
  | none => rfl
  | some info =>
    split
    · simp [hf]
    · simp

/-- The topic of an entry that is not found has none. -/
theorem ne_of_findTopicAlias_none (h : AliasTable table) (hnone : findTopicAlias table topic = none) :
    ∀ e ∈ aliasEntries table, e.1 ≠ topic := by
  have halias : aliasOf table topic = none := by
    rw [← findTopicAlias_eq h, hnone]
    rfl
  unfold aliasOf at halias
  rw [Option.map_eq_none_iff] at halias
  exact Sorted.lookup_eq_none.mp halias

/-- The next alias is not zero. -/
theorem nextTopicAlias_ne_zero (free : List Nat) : (nextTopicAlias free).1 ≠ 0 := by
  unfold nextTopicAlias
  split
  · split
    · exact Nat.succ_ne_zero _
    · assumption
  · exact Nat.succ_ne_zero _

/-- A topic without an alias gets one. -/
theorem AliasTable.insert (h : AliasTable table) (hnone : findTopicAlias table topic = none)
    (htopic : topic ≠ []) {aliasId n : Nat} (hid : aliasId ≠ 0) :
    AliasTable (insertTopicAlias table ⟨topic, aliasId, n⟩) ∧
      aliasOf (insertTopicAlias table ⟨topic, aliasId, n⟩) =
        Function.update (aliasOf table) topic (some aliasId) := by
  have hentries : aliasEntries (insertTopicAlias table ⟨topic, aliasId, n⟩) =
      (aliasEntries table).insertIdx (Sorted.place Prod.fst (aliasEntries table) topic) (topic, aliasId) := by
    unfold insertTopicAlias
    rw [lowerBound_eq]
    exact List.map_insertIdx _ _ _ _
  have hnew := ne_of_findTopicAlias_none h hnone
  refine ⟨⟨?_, fun e he => ?_⟩, funext fun x => ?_⟩
  · rw [hentries]
    exact Sorted.insertIdx_strict h.strict hnew
  · rw [hentries] at he
    rcases (Sorted.mem_insertIdx _).mp he with rfl | he
    · exact ⟨htopic, hid⟩
    · exact h.named e he
  · unfold aliasOf
    have hlookup : Sorted.lookup Prod.fst ((aliasEntries table).insertIdx
        (Sorted.place Prod.fst (aliasEntries table) topic) (topic, aliasId)) =
        Function.update (Sorted.lookup Prod.fst (aliasEntries table)) topic (some (topic, aliasId)) :=
      Sorted.lookup_insertIdx h.strict hnew
    rw [hentries, hlookup]
    by_cases hx : x = topic
    · rw [hx, Function.update_self, Function.update_self]
      rfl
    · rw [Function.update_of_ne hx, Function.update_of_ne hx]

/-- The alias of a topic is freed. -/
theorem AliasTable.erase (h : AliasTable table) {info : TopicAliasInfo}
    (hsome : findTopicAlias table topic = some info) :
    AliasTable (table.eraseIdx (lowerBound table topic)) ∧ aliasOf table topic = some info.aliasId ∧
      aliasOf (table.eraseIdx (lowerBound table topic)) = Function.update (aliasOf table) topic none := by
  have halias : aliasOf table topic = some info.aliasId := by
    rw [← findTopicAlias_eq h, hsome]
    rfl
  have hentries : aliasEntries (table.eraseIdx (lowerBound table topic)) =
      (aliasEntries table).eraseIdx (Sorted.place Prod.fst (aliasEntries table) topic) := by
    rw [← lowerBound_eq]
    exact (List.eraseIdx_map ..).symm
  obtain ⟨e, he, -⟩ := Option.map_eq_some_iff.mp halias
  obtain ⟨hmem, hkey⟩ := (Sorted.lookup_eq_some h.strict).mp he
  refine ⟨⟨?_, fun e' he' => ?_⟩, halias, funext fun x => ?_⟩
  · rw [hentries]
    exact Sorted.eraseIdx_strict h.strict _
  · rw [hentries] at he'
    exact h.named e' (List.mem_of_mem_eraseIdx he')
  · unfold aliasOf
    rw [hentries, Sorted.lookup_eraseIdx h.strict hmem hkey]
    by_cases hx : x = topic
    · rw [hx, Function.update_self, Function.update_self]
      rfl
    · rw [Function.update_of_ne hx, Function.update_of_ne hx]

/-! ## Elementary steps -/

/-- The alias part of a configuration uses up a registration at most. -/
theorem chooseAlias_entries {cfg : Config} {pref : TopicAliasPreference} {aliasId : Nat} {assign : Bool}
    (h : chooseAlias cfg table topic pref = .ok (aliasId, assign, table')) :
    aliasEntries table' = aliasEntries table := by
  unfold chooseAlias at h
  split at h
  · split at h
    · cases h
      rfl
    · split at h
      · split at h
        · cases h
        · cases h
          rfl
      · split at h
        · cases h
          rfl
        · split at h
          · cases h
            rfl
          · split at h
            · cases h
              rfl
            · cases h
              exact aliasEntries_modify fun _ => ⟨rfl, rfl⟩
  · split at h
    · cases h
    · cases h
      rfl

theorem sendConfigBasic_entries (env : Env) (op : SendOp) (config : PublishBasicConfig) (s : Client) :
    aliasEntries (s.sendConfigBasic env op config).1.clientState.sendTopicAliases =
      aliasEntries s.clientState.sendTopicAliases := by
  have hfail : ∀ (u : Client) (text : String) (ec : ErrorCode),
      (u.fail text ec).1.clientState = u.clientState := fun _ _ _ => rfl
  have hpayload : ∀ (o : SendOp) (u : Client) (registered : Bool) (topic : Str),
      (u.configPayload o config topic registered).1.clientState.sendTopicAliases =
        u.clientState.sendTopicAliases := by
    intro o u registered topic
    unfold configPayload
    dsimp only
    split <;> split <;> rfl
  have hverify : ∀ topic, (s.verifyPubTopic env topic true).1.clientState.sendTopicAliases =
      s.clientState.sendTopicAliases := fun topic =>
    congrArg PubView.sendTopicAliases ((Frame.refl true .bare s).verifyPubTopic env topic true).view
  unfold sendConfigBasic
  split
  · rfl
  · rfl
  · dsimp only
    split
    · rw [hfail, hverify]
    · split
      · rfl
      · split
        · rfl
        · split
          · rfl
          · rename_i htable
            have hentries := chooseAlias_entries htable
            split
            · exact hentries
            · split
              · split
                · exact hentries
                · rw [hpayload]
                  exact hentries
              · rw [hpayload]
                exact hentries

/-- What an elementary step does to the table. -/
inductive AliasEffect (G : Guard) (s t : Client) : Prop
  | keeps (h : aliasEntries t.clientState.sendTopicAliases = aliasEntries s.clientState.sendTopicAliases)
  | adds (topic : Str) (aliasId n : Nat) (hG : G.alloc s topic) (htopic : topic ≠ []) (hid : aliasId ≠ 0)
      (hmax : s.clientState.sendTopicAliases.length < s.sessionState.maxSendTopicAlias)
      (hnone : findTopicAlias s.clientState.sendTopicAliases topic = none)
      (h : t.clientState.sendTopicAliases =
        insertTopicAlias s.clientState.sendTopicAliases ⟨topic, aliasId, n⟩)
  | frees (topic : Str) (info : TopicAliasInfo) (hG : G.alloc s topic)
      (hsome : findTopicAlias s.clientState.sendTopicAliases topic = some info)
      (h : t.clientState.sendTopicAliases =
        s.clientState.sendTopicAliases.eraseIdx (lowerBound s.clientState.sendTopicAliases topic))
  | accepts (limit size keep : Nat) (hG : G.session s (.accept limit size keep))
      (h : t.clientState.sendTopicAliases = s.clientState.sendTopicAliases.take keep)
  | clears (hG : G.session s .clearAliases) (h : t.clientState.sendTopicAliases = [])

theorem Client.Shows.sendAliases {v : PubView} {ids : List OpId} (h : Shows a s t v ids) :
    t.clientState.sendTopicAliases = v.sendTopicAliases :=
  congrArg PubView.sendTopicAliases h.view

theorem Micro.aliasEffect (h : Micro env G a b s t) : AliasEffect G s t := by
  cases h with
  | frame h => exact .keeps (congrArg aliasEntries (congrArg PubView.sendTopicAliases h.view))
  | configBasic op op' config table hop hG hsent hs ht h =>
    refine .keeps ?_
    rw [ht]
    exact sendConfigBasic_entries env op config s
  | confirm op hop hreg h =>
    refine .keeps ?_
    rw [h.sendAliases]
    exact aliasEntries_modify fun _ => ⟨rfl, rfl⟩
  | aliasAgain topic count hsome h =>
    refine .keeps ?_
    rw [h.sendAliases]
    exact aliasEntries_modify fun _ => ⟨rfl, rfl⟩
  | aliasNew topic count hG htopic hconn hmax hnone h =>
    exact .adds topic _ _ hG htopic (nextTopicAlias_ne_zero _) hmax hnone h.sendAliases
  | aliasFree topic info hG hsome h => exact .frees topic info hG hsome h.sendAliases
  | leave op hop hG h =>
    cases h with
    | erase h => exact .keeps (congrArg aliasEntries h.sendAliases)
    | deliver hwhy hqos hfits h => exact .keeps (congrArg aliasEntries h.sendAliases)
  | session c hG h =>
    cases c with
    | accept limit size keep => exact .accepts limit size keep hG h.sendAliases
    | clearAliases => exact .clears hG h.sendAliases
    | _ => exact .keeps (congrArg aliasEntries h.sendAliases)
  | _ =>
    rename_i h
    exact .keeps (congrArg aliasEntries h.sendAliases)

theorem AliasTable.congr (h : aliasEntries table' = aliasEntries table) (ht : AliasTable table) :
    AliasTable table' where
  strict := by rw [h]; exact ht.strict
  named := by rw [h]; exact ht.named

/-- Every step keeps the table in order. -/
theorem AliasEffect.aliasTable (h : AliasEffect G s t) (ht : AliasTable s.clientState.sendTopicAliases) :
    AliasTable t.clientState.sendTopicAliases := by
  cases h with
  | keeps h => exact ht.congr h
  | adds topic aliasId n hG htopic hid hmax hnone h =>
    rw [h]
    exact (ht.insert hnone htopic hid).1
  | frees topic info hG hsome h =>
    rw [h]
    exact (ht.erase hsome).1
  | accepts limit size keep hG h =>
    have htake : aliasEntries (s.clientState.sendTopicAliases.take keep) =
        (aliasEntries s.clientState.sendTopicAliases).take keep := List.map_take ..
    refine ⟨?_, fun e he => ?_⟩
    · rw [h, htake]
      exact ht.strict.sublist (List.take_sublist _ _)
    · rw [h, htake] at he
      exact ht.named e (List.mem_of_mem_take he)
  | clears hG h =>
    rw [h]
    exact ⟨List.Pairwise.nil, fun e he => by cases he⟩

/-! ## Moves of the map -/

/-- What a step of the library may do to the aliases. -/
inductive AliasMove (env : Env) (sys : Sys) (l : Label) (f : Str → Option Nat) :
    (Str → Option Nat) → Prop
  | keeps : AliasMove env sys l f f
  | alloc (topic : Str) (count aliasId : Nat) (hl : l = .call (.pubTopicAliasAlloc (some topic) count))
      (htopic : topic ≠ []) (hnone : f topic = none) (hid : aliasId ≠ 0) :
      AliasMove env sys l f (Function.update f topic (some aliasId))
  | free (topic : Str) (hl : l = .call (.pubTopicAliasFree (some topic))) (hsome : f topic ≠ none) :
      AliasMove env sys l f (Function.update f topic none)
  | connected (msg : ConnackMsg) (op : ConnectOp) (hin : sys.inMsg l = some (.connack msg))
      (hop : op ∈ sys.client.connectOps) (hacc : connackAccepted env op msg = true) :
      AliasMove env sys l f fun _ => none

theorem aliases_congr
    (h : aliasEntries t.clientState.sendTopicAliases = aliasEntries s.clientState.sendTopicAliases) :
    t.aliases = s.aliases := by
  unfold Client.aliases aliasOf
  rw [h]

/-- `allocPubTopicAlias` adds the topic, or it leaves the aliases as they are. -/
theorem allocPubTopicAlias_aliases (env : Env) (ht : AliasTable s.clientState.sendTopicAliases)
    (topic : Option Str)
    (count : Nat) : (s.allocPubTopicAlias env topic count).1.aliases = s.aliases ∨
      ∃ x aliasId, topic = some x ∧ x ≠ [] ∧ s.aliases x = none ∧ aliasId ≠ 0 ∧
        (s.allocPubTopicAlias env topic count).1.aliases = Function.update s.aliases x (some aliasId) := by
  unfold allocPubTopicAlias
  dsimp only
  split
  · exact Or.inl rfl
  split
  · exact Or.inl rfl
  · exact Or.inl rfl
  rename_i x hx
  repeat' split
  case h_1 => exact Or.inl (aliases_congr (aliasEntries_modify fun _ => ⟨rfl, rfl⟩))
  case h_2 hnone =>
    have hne : x ≠ [] := fun h => hx (by rw [h])
    obtain ⟨-, hinsert⟩ := ht.insert (n := max count 1) hnone hne (nextTopicAlias_ne_zero
      s.sessionState.sendTopicFreeAliases)
    have hlookup : s.aliases x = none := by
      have h := findTopicAlias_eq ht x
      rw [hnone] at h
      exact h.symm
    refine Or.inr ⟨x, _, rfl, hne, hlookup, nextTopicAlias_ne_zero s.sessionState.sendTopicFreeAliases, ?_⟩
    exact hinsert
  all_goals exact Or.inl rfl

/-- `freePubTopicAlias` removes the topic, or it leaves the aliases as they are. -/
theorem freePubTopicAlias_aliases (env : Env) (ht : AliasTable s.clientState.sendTopicAliases)
    (topic : Option Str) :
    (s.freePubTopicAlias env topic).1.aliases = s.aliases ∨
      ∃ x, topic = some x ∧ s.aliases x ≠ none ∧
        (s.freePubTopicAlias env topic).1.aliases = Function.update s.aliases x none := by
  unfold freePubTopicAlias
  dsimp only
  split
  · exact Or.inl rfl
  split
  · exact Or.inl rfl
  · exact Or.inl rfl
  rename_i x hx
  split
  · exact Or.inl rfl
  · rename_i info hsome
    obtain ⟨-, hlookup, herase⟩ := ht.erase hsome
    refine Or.inr ⟨x, rfl, ?_, herase⟩
    rw [show s.aliases x = some info.aliasId from hlookup]
    simp

/-- Any other step but the handling of an accepted CONNACK leaves the aliases as they are. -/
theorem AliasEffect.aliases (h : AliasEffect ((stepGuard env sys l).woken env) s t)
    (hcall : ∀ topic, (∀ count, l ≠ .call (.pubTopicAliasAlloc (some topic) count)) ∧
      l ≠ .call (.pubTopicAliasFree (some topic)))
    (hacc : ∀ msg, sys.inMsg l = some (.connack msg) → ∀ op ∈ sys.client.connectOps,
      connackAccepted env op msg = false) : t.aliases = s.aliases := by
  have halloc : ∀ topic, ¬((stepGuard env sys l).woken env).alloc s topic := by
    intro topic hG
    unfold stepGuard at hG
    split at hG
    · exact hG
    · rcases hG.2 with ⟨count, hl⟩ | hl
      · exact (hcall topic).1 count hl
      · exact (hcall topic).2 hl
  have hsession : ∀ c, ((stepGuard env sys l).woken env).session s c →
      ¬(c = .clearAliases ∨ ∃ limit size keep, c = .accept limit size keep) := by
    intro c hG hc
    unfold stepGuard at hG
    split at hG
    · obtain ⟨msg, hin, hstep⟩ := hG
      have hfalse : ∀ op, op ∈ sys.client.connectOps → connackAccepted env op msg ≠ true := by
        intro op hop h
        rw [hacc msg hin op hop] at h
        cases h
      cases hstep with
      | reset => simp at hc
      | aliasMax => simp at hc
      | accept op hop h => exact hfalse op hop h
      | connected => simp at hc
      | clearAliases op hop h => exact hfalse op hop h
    · rcases hc with rfl | ⟨limit, size, keep, rfl⟩
      · exact hG
      · exact hG
  cases h with
  | keeps h => exact aliases_congr h
  | adds topic aliasId n hG => exact absurd hG (halloc topic)
  | frees topic info hG => exact absurd hG (halloc topic)
  | accepts limit size keep hG h => exact absurd (Or.inr ⟨_, _, _, rfl⟩) (hsession _ hG)
  | clears hG h => exact absurd (Or.inl rfl) (hsession _ hG)

theorem sendAliases_assert (site : Site) (c : Bool) (s : Client) :
    (s.assert site c).clientState.sendTopicAliases = s.clientState.sendTopicAliases := by
  unfold Client.assert
  split <;> rfl

/-- An accepted CONNACK empties the table. -/
theorem connectHandleConnack_aliases {op : ConnectOp} {msg : ConnackMsg}
    (h : connackAccepted env op msg = true) :
    (s.connectHandleConnack env op msg).clientState.sendTopicAliases = [] := by
  rw [connectHandleConnack_accepted h]
  generalize (if msg.sessionPresent then (s.connackConnected env op msg).resumeSession env
    else (s.connackConnected env op msg).abortStoredSession env) = u
  have hcreate : ∀ v : Client, (v.createKeepAliveOpIfNeeded env).clientState.sendTopicAliases =
      v.clientState.sendTopicAliases := by
    intro v
    by_cases hnil : v.keepAliveOps = []
    · rcases createKeepAliveOpIfNeeded_cases env hnil with heq | ⟨c, m, op, -, heq⟩
      · rw [heq]
        rfl
      · rw [heq]
        exact sendAliases_assert .timer c v
    · unfold createKeepAliveOpIfNeeded
      rw [if_pos (by simpa using hnil)]
  have hcomplete : ∀ v : Client, (v.opCompleteConnect op.id).clientState.sendTopicAliases =
      v.clientState.sendTopicAliases := by
    intro v
    unfold opCompleteConnect opCompleteWith unregisterOp
    split
    · rfl
    · rename_i w hw
      split at hw
      · cases hw
        unfold eraseConnectOp
        split
        · rfl
        · rw [timerFree_eq]
      · cases hw
  unfold connackDone connectComplete
  dsimp only
  have hempty : (u.clearSendAliases.createKeepAliveOpIfNeeded env).clientState.sendTopicAliases = [] :=
    hcreate _
  split
  · exact (hcomplete _).trans hempty
  · exact (hcomplete _).trans hempty

/-! ## Runs -/

/-- The table of every reachable client: it is sorted, a search finds what it says, it holds a topic only
once, and while the client is connected it has no more aliases than the broker allows. -/
structure SendAliasesOk (env : Env) (s : Client) : Prop where
  table : AliasTable s.clientState.sendTopicAliases
  found : ∀ topic, (findTopicAlias s.clientState.sendTopicAliases topic).map TopicAliasInfo.aliasId =
    s.aliases topic
  allocated : env.cfg.hasTopicAliases = true →
    ∀ topic, s.pubTopicAliasIsAllocated env (some topic) = (s.aliases topic).isSome
  count : env.cfg.hasTopicAliases = true → ∃ topics : List Str, topics.Nodup ∧
    (∀ topic, topic ∈ topics ↔ (s.aliases topic).isSome = true) ∧ s.pubTopicAliasCount env = topics.length
  room : s.sessionState.connected = true →
    s.clientState.sendTopicAliases.length ≤ s.sessionState.maxSendTopicAlias

/-- A topic is in the table when it has an alias. -/
theorem AliasTable.mem_topics (h : AliasTable table) :
    topic ∈ table.map TopicAliasInfo.topic ↔ (aliasOf table topic).isSome = true := by
  unfold aliasOf
  rw [Option.isSome_map, Option.isSome_iff_exists, List.mem_map]
  constructor
  · rintro ⟨info, hinfo, rfl⟩
    exact ⟨(info.topic, info.aliasId), (Sorted.lookup_eq_some h.strict).mpr
      ⟨List.mem_map_of_mem hinfo, rfl⟩⟩
  · rintro ⟨e, he⟩
    obtain ⟨hmem, hkey⟩ := (Sorted.lookup_eq_some h.strict).mp he
    obtain ⟨info, hinfo, rfl⟩ := List.mem_map.mp hmem
    exact ⟨info, hinfo, hkey⟩

theorem AliasTable.nodup_topics (h : AliasTable table) : (table.map TopicAliasInfo.topic).Nodup := by
  have hstrict : ((aliasEntries table).map Prod.fst).Pairwise (· < ·) := List.pairwise_map.mpr h.strict
  have htopics : (aliasEntries table).map Prod.fst = table.map TopicAliasInfo.topic := by
    unfold aliasEntries
    rw [List.map_map]
    rfl
  rw [← htopics]
  exact hstrict.imp Sorted.ne_of_lt

theorem reach_aliasTable {ok : Sys → Label → Prop} (h : (machine env).Reach ok sys) :
    AliasTable sys.client.clientState.sendTopicAliases := by
  have hinit : ∀ sys, (machine env).init sys → AliasTable sys.client.clientState.sendTopicAliases := by
    rintro _ ⟨cbs, config, rfl⟩
    refine ⟨List.Pairwise.nil, fun e he => ?_⟩
    cases he
  refine h.invariant hinit fun sys l sys' hs hinv _ hstep => ?_
  have hw := reach_wf hs
  have hrun := MacroRun.run (step_effects (a := false) (b := .begins) hw hstep (by simp) (.begins _)) hw.reg
  exact MicroRun.invariant (fun h _ ht => h.aliasEffect.aliasTable ht) hrun hw.reg hinv

/-- The limits of a step that does not change the session. -/
theorem Micro.aliasLimit (h : Micro env G a b s t) :
    (t.sessionState.connected = s.sessionState.connected ∧
        t.sessionState.maxSendTopicAlias = s.sessionState.maxSendTopicAlias) ∨
      ∃ c, G.session s c ∧ t.view = c.apply s.view := by
  have hsame : ∀ {v : PubView}, t.view = v → v.connected = s.view.connected →
      v.maxSendTopicAlias = s.view.maxSendTopicAlias → t.sessionState.connected = s.sessionState.connected ∧
        t.sessionState.maxSendTopicAlias = s.sessionState.maxSendTopicAlias := fun hv hc hm =>
    ⟨(congrArg PubView.connected hv).trans hc, (congrArg PubView.maxSendTopicAlias hv).trans hm⟩
  cases h with
  | session c hG h => exact Or.inr ⟨c, hG, h.view⟩
  | frame h => exact Or.inl (hsame h.view rfl rfl)
  | leave op hop hG h =>
    cases h with
    | erase h => exact Or.inl (hsame h.view rfl rfl)
    | deliver hwhy hqos hfits h => exact Or.inl (hsame h.view rfl rfl)
  | _ =>
    rename_i h
    exact Or.inl (hsame h.view rfl rfl)

/-- The client has no more aliases than the broker allows. -/
def AliasRoom (s : Client) : Prop := s.sessionState.connected = true →
  s.clientState.sendTopicAliases.length ≤ s.sessionState.maxSendTopicAlias

theorem length_aliasEntries (table : List TopicAliasInfo) : (aliasEntries table).length = table.length :=
  List.length_map ..

theorem Micro.aliasRoom (h : Micro env ((labelGuard env sys l).woken env) a b s t) (hs : AliasRoom s) :
    AliasRoom t := by
  intro hcon
  rcases h.aliasLimit with ⟨hc, hm⟩ | ⟨c, hG, hview⟩
  · have hroom := hs (hc.symm.trans hcon)
    rw [hm]
    cases h.aliasEffect with
    | keeps h =>
      rw [← length_aliasEntries, h, length_aliasEntries]
      exact hroom
    | adds topic aliasId n hG htopic hid hmax hnone h =>
      rw [h]
      unfold insertTopicAlias
      rw [List.length_insertIdx]
      split <;> omega
    | frees topic info hG hsome h =>
      rw [h]
      exact Nat.le_trans (List.length_eraseIdx_le _ _) hroom
    | accepts limit size keep hG h => exact hG.elim
    | clears hG h =>
      rw [h]
      exact Nat.zero_le _
  · -- the changes of the session without a CONNACK end the connection, or they are about the ordering
    have hcon' : t.view.connected = true := hcon
    rw [hview] at hcon'
    cases c with
    | disconnecting => cases hcon'
    | reset => cases hcon'
    | ordering o =>
      show t.view.sendTopicAliases.length ≤ t.view.maxSendTopicAlias
      rw [hview]
      exact hs hcon'
    | _ => exact hG.elim

/-- The connect operation a CONNACK is handled by is the only one. -/
theorem connectOps_unique (h : Single s) {op op' : ConnectOp} (hop : op ∈ s.connectOps)
    (hop' : op' ∈ s.connectOps) : op' = op := by
  have hle : s.connectOps.length ≤ 1 := h .connect rfl
  match hl : s.connectOps with
  | [] => rw [hl] at hop; cases hop
  | [x] =>
    rw [hl] at hop hop'
    rw [List.mem_singleton.mp hop, List.mem_singleton.mp hop']
  | x :: y :: rest =>
    rw [hl] at hle
    exact absurd hle (by simp)

/-- A CONNACK that is not accepted, like any other message, leaves the aliases as they are. -/
theorem step_aliases_kept (hw : SysWf sys) (hstep : sys.step env l = some sys')
    (hcall : ∀ topic, (∀ count, l ≠ .call (.pubTopicAliasAlloc (some topic) count)) ∧
      l ≠ .call (.pubTopicAliasFree (some topic)))
    (hacc : ∀ msg, sys.inMsg l = some (.connack msg) → ∀ op ∈ sys.client.connectOps,
      connackAccepted env op msg = false) : sys'.client.aliases = sys.client.aliases := by
  have hrun := MacroRun.run (step_effects (a := false) (b := .begins) hw hstep (by simp) (.begins _)) hw.reg
  exact MicroRun.invariant (fun h _ ht => (h.aliasEffect.aliases hcall hacc).trans ht) hrun hw.reg rfl

/-- What a CONNACK that is handled by a connect operation leaves. -/
theorem connack_aliases (hw : SysWf sys) (hsingle : Single sys.client)
    (hstep : sys.step env l = some sys') {msg : ConnackMsg} (hin : sys.inMsg l = some (.connack msg)) :
    (∀ op ∈ sys.client.connectOps, connackAccepted env op msg = false) ∨
      sys'.client.aliases = sys.client.aliases ∨
      ∃ op ∈ sys.client.connectOps, connackAccepted env op msg = true ∧
        sys'.client.clientState.sendTopicAliases = [] := by
  obtain ⟨rest, -, -, hclient⟩ := inMsg_step hstep hin
  rw [hclient]
  cases handleConnack_dispatched env hw.reg hw.lock msg with
  | before h heq =>
    exact Or.inr (Or.inl (aliases_congr (congrArg aliasEntries (congrArg PubView.sendTopicAliases h.view))))
  | handled u op hop hpre heq hcon hpost hgone =>
    cases hacc : connackAccepted env op msg with
    | false =>
      left
      intro op' hop'
      rw [connectOps_unique hsingle hop hop', hacc]
    | true =>
      refine Or.inr (Or.inr ⟨op, hop, hacc, ?_⟩)
      have hpost' : (sys.client.handle env (.connack msg)).clientState.sendTopicAliases =
          (u.connectHandleConnack env op msg).clientState.sendTopicAliases :=
        congrArg PubView.sendTopicAliases hpost.view
      rw [hpost', connectHandleConnack_aliases hacc]

/-- The aliases of a client are a map of topics that changes in three ways only: an allocation adds a topic
that has no alias, a release removes one, and an accepted CONNACK empties the map. In particular an alias
stays the same as long as its topic is not released and the connection lasts. -/
theorem sendAliases_refine (h : (machine env).Reach (fun _ _ => True) sys)
    (hstep : sys.step env l = some sys') :
    AliasMove env sys l sys.client.aliases sys'.client.aliases := by
  have hw := reach_wf h
  have htable := reach_aliasTable h
  have hkeeps : sys'.client.aliases = sys.client.aliases →
      AliasMove env sys l sys.client.aliases sys'.client.aliases := fun heq => by
    rw [heq]
    exact .keeps
  -- a CONNACK empties the map when it is accepted
  cases hc : sys.isConnack l with
  | true =>
    obtain ⟨msg, hin⟩ := connack_of_isConnack hc
    have hcall : ∀ api, l ≠ .call api := by
      rintro api rfl
      cases hin
    rcases connack_aliases hw (reach_single h) hstep hin with hacc | heq | ⟨op, hop, hacc, hempty⟩
    · refine hkeeps (step_aliases_kept hw hstep (fun topic => ⟨fun _ => hcall _, hcall _⟩) fun m hm => ?_)
      rw [hin] at hm
      cases hm
      exact hacc
    · exact hkeeps heq
    · have hnone : sys'.client.aliases = fun _ => none := by
        unfold Client.aliases
        rw [hempty]
        rfl
      rw [hnone]
      exact .connected msg op hin hop hacc
  | false =>
    have hacc : ∀ msg, sys.inMsg l = some (.connack msg) → ∀ op ∈ sys.client.connectOps,
        connackAccepted env op msg = false := by
      intro msg hin
      unfold Sys.isConnack at hc
      rw [hin] at hc
      cases hc
    -- otherwise only the two calls on aliases change it
    cases l with
    | run => exact hkeeps (step_aliases_kept hw hstep (fun topic => ⟨fun _ => by simp, by simp⟩) hacc)
    | call api =>
      cases api with
      | pubTopicAliasAlloc topic count =>
        obtain ⟨-, -, rfl⟩ := call_step hstep
        rcases allocPubTopicAlias_aliases env htable topic count with heq | ⟨x, aliasId, rfl, hne, hnone,
          hid, heq⟩
        · exact hkeeps heq
        · show AliasMove env sys _ _ ((sys.client.allocPubTopicAlias env (some x) count).1.aliases)
          rw [heq]
          exact .alloc x count aliasId rfl hne hnone hid
      | pubTopicAliasFree topic =>
        obtain ⟨-, -, rfl⟩ := call_step hstep
        rcases freePubTopicAlias_aliases env htable topic with heq | ⟨x, rfl, hsome, heq⟩
        · exact hkeeps heq
        · show AliasMove env sys _ _ ((sys.client.freePubTopicAlias env (some x)).1.aliases)
          rw [heq]
          exact .free x rfl hsome
      | _ => exact hkeeps (step_aliases_kept hw hstep (fun topic => ⟨fun _ => by simp, by simp⟩) hacc)

/-- An allocation of an alias. -/
theorem sendAliases_refine_alloc : ∃ sys sys', (machine .dynamic).Reach (fun _ _ => True) sys ∧
    sys.step .dynamic (.call (.pubTopicAliasAlloc (some ['t']) 0)) = some sys' ∧
    sys'.client.aliases ['t'] = some 1 ∧
    AliasMove .dynamic sys (.call (.pubTopicAliasAlloc (some ['t']) 0)) sys.client.aliases
      sys'.client.aliases := by
  obtain ⟨sys, hreach, hp⟩ := exists_reach_fresh .dynamic
    (connectCalls true {} { sessionPresent := false, reasonCode := ReasonCode.success,
                            props := [.topicAliasMax 3] })
    (fun sys => (sys.step .dynamic (.call (.pubTopicAliasAlloc (some ['t']) 0))).any
      (fun sys' => sys'.client.aliases ['t'] = some 1) = true) (by decide +kernel)
  obtain ⟨sys', hstep, halias⟩ := (Option.any_eq_true _ _).mp hp
  exact ⟨sys, sys', hreach, hstep, by simpa using halias, sendAliases_refine hreach hstep⟩

/-- A CONNACK that is not accepted does not make a client connected. -/
theorem connectHandleConnack_off {op : ConnectOp} {msg : ConnackMsg} (hop : op ∈ s.connectOps)
    (hacc : connackAccepted env op msg = false) (hoff : s.sessionState.connected = false) :
    (s.connectHandleConnack env op msg).sessionState.connected = false := by
  have hcases : Acts true .within s (s.connectHandleConnack env op msg) ∨ ∃ u, Acts true .within s u ∧
      Acts true .within { u with sessionState := {} } (s.connectHandleConnack env op msg) :=
    connectHandleConnack_unaccepted hop hacc
  rcases hcases with h | ⟨u, -, h⟩
  · exact (Acts.steady h).connected.trans hoff
  · exact (Acts.steady h).connected

theorem step_aliasRoom (hw : SysWf sys) (hapart : Apart sys.client)
    (hstep : sys.step env l = some sys') (hs : AliasRoom sys.client) : AliasRoom sys'.client := by
  cases hc : sys.isConnack l with
  | false =>
    have hrun := MacroRun.run (step_effects (a := false) (b := .begins) hw hstep (by simp) (.begins _)) hw.reg
    unfold stepGuard at hrun
    rw [hc, if_neg (by simp)] at hrun
    exact MicroRun.invariant (fun h _ hu => h.aliasRoom hu) hrun hw.reg hs
  | true =>
    obtain ⟨msg, hmsg⟩ := connack_of_isConnack hc
    obtain ⟨rest, -, -, hclient⟩ := inMsg_step hstep hmsg
    rw [hclient]
    have hframe : ∀ {u v : Client}, Frame true .bare u v → AliasRoom u → AliasRoom v := by
      intro u v h hu
      show v.view.connected = true → v.view.sendTopicAliases.length ≤ v.view.maxSendTopicAlias
      rw [h.view]
      exact hu
    cases handleConnack_dispatched env hw.reg hw.lock msg with
    | before h heq => exact hframe h hs
    | handled u op hop hpre heq hcon hpost hgone =>
      refine hframe hpost fun hup => ?_
      cases hacc : connackAccepted env op msg with
      | false =>
        have hmem : op ∈ u.connectOps := by rw [heq]; exact hop
        have hoff : u.sessionState.connected = false := by rw [heq]; exact hapart.off_of_mem hop
        rw [connectHandleConnack_off hmem hacc hoff] at hup
        cases hup
      | true =>
        rw [connectHandleConnack_aliases hacc]
        exact Nat.zero_le _

/-- Every reachable client has its aliases in order. -/
theorem sendAliases_kept (h : (machine env).Reach (fun _ _ => True) sys) :
    SendAliasesOk env sys.client := by
  have htable := reach_aliasTable h
  have hinit : ∀ sys, (machine env).init sys → AliasRoom sys.client := by
    rintro _ ⟨cbs, config, rfl⟩ hup
    cases hup
  have hroom : AliasRoom sys.client := h.invariant hinit fun sys l sys' hs hinv _ hstep =>
    step_aliasRoom (reach_wf hs) (reach_inSession hs).apart hstep hinv
  have hfound := findTopicAlias_eq htable
  refine ⟨htable, hfound, fun hcfg topic => ?_, fun hcfg => ?_, hroom⟩
  · show (if env.cfg.hasTopicAliases then
      (findTopicAlias sys.client.clientState.sendTopicAliases topic).isSome else false) = _
    rw [if_pos hcfg, ← Option.isSome_map, hfound]
    rfl
  · refine ⟨sys.client.clientState.sendTopicAliases.map TopicAliasInfo.topic, htable.nodup_topics,
      fun topic => htable.mem_topics, ?_⟩
    unfold pubTopicAliasCount
    rw [if_pos hcfg, List.length_map]

theorem topic_trichotomy (x y : Str) : x < y ∨ x = y ∨ y < x := by
  by_cases hlt : x < y
  · exact Or.inl hlt
  · by_cases hgt : y < x
    · exact Or.inr (Or.inr hgt)
    · exact Or.inr (Or.inl (Std.Trichotomous.trichotomous x y hlt hgt))

/-- The search for a topic ends at its own entry, or else at the next topic above it. -/
theorem getElem?_lowerBound (h : AliasTable table) {info : TopicAliasInfo} :
    table[lowerBound table topic]? = some info ↔ info ∈ table ∧ ¬info.topic < topic ∧
      ∀ other ∈ table, other.topic < info.topic → other.topic < topic := by
  have hentries := h.strict
  unfold aliasEntries Sorted.Strict at hentries
  rw [List.pairwise_map] at hentries
  have hstrict : Sorted.Strict TopicAliasInfo.topic table := hentries
  have hplace : lowerBound table topic = Sorted.place TopicAliasInfo.topic table topic := rfl
  rw [hplace]
  exact Sorted.getElem?_place_iff hstrict

/-- In a reachable client the confirmation for a publish touches its own entry only, exactly when its
topic has an alias, or none above it has one, or the next one above it has no registration left. -/
theorem reach_confirmsOwn (h : (machine env).Reach (fun _ _ => True) sys) (op : SendOp) :
    ConfirmsOwn op sys.client ↔
      (∃ info ∈ sys.client.clientState.sendTopicAliases, info.topic = op.pubMsg.topic) ∨
      ∀ info ∈ sys.client.clientState.sendTopicAliases, op.pubMsg.topic < info.topic →
        (∀ other ∈ sys.client.clientState.sendTopicAliases, op.pubMsg.topic < other.topic →
          ¬other.topic < info.topic) → info.lowQosRegRemCount = 0 := by
  have htable := reach_aliasTable h
  constructor
  · intro hown
    by_cases hentry : ∃ info ∈ sys.client.clientState.sendTopicAliases, info.topic = op.pubMsg.topic
    · exact Or.inl hentry
    · right
      intro info hmem habove hnext
      have hbelow : ∀ other ∈ sys.client.clientState.sendTopicAliases, other.topic < info.topic →
          other.topic < op.pubMsg.topic := by
        intro other hother hlt
        rcases topic_trichotomy other.topic op.pubMsg.topic with hbelow | heq | habove'
        · exact hbelow
        · exact absurd ⟨other, hother, heq⟩ hentry
        · exact absurd hlt (hnext other hother habove')
      have hget : sys.client.clientState.sendTopicAliases[lowerBound
          sys.client.clientState.sendTopicAliases op.pubMsg.topic]? = some info :=
        (getElem?_lowerBound htable).mpr ⟨hmem, fun hlt => List.lt_asymm habove hlt, hbelow⟩
      exact (hown.entry hget).resolve_left fun heq => hentry ⟨info, hmem, heq⟩
  · intro hcond
    refine confirmsOwn_of_entry fun info hget => ?_
    obtain ⟨hmem, hnot, hleast⟩ := (getElem?_lowerBound htable).mp hget
    rcases topic_trichotomy info.topic op.pubMsg.topic with hbelow | heq | habove
    · exact absurd hbelow hnot
    · exact Or.inl heq
    · right
      rcases hcond with ⟨own, hown, heq⟩ | hnext
      · -- its own entry would be the smaller one
        have hlt := hleast own hown (heq ▸ habove)
        rw [heq] at hlt
        exact absurd hlt (List.lt_irrefl _)
      · refine hnext info hmem habove fun other hother habove' hlt => ?_
        exact List.lt_asymm (hleast other hother hlt) habove'

/-- A client that allocates aliases for three topics and frees the first. -/
def aliasedCalls : List (Api × Nat) :=
  connectCalls true {} { sessionPresent := false, reasonCode := ReasonCode.success,
                         props := [.topicAliasMax 3] } ++
  [(.pubTopicAliasAlloc (some ['t']) 0, 1), (.pubTopicAliasAlloc (some ['a']) 0, 1),
   (.pubTopicAliasAlloc (some ['m']) 0, 1), (.pubTopicAliasFree (some ['t']), 1)]

theorem sendAliases_kept_two : ∃ sys, (machine .dynamic).Reach (fun _ _ => True) sys ∧
    sys.client.clientState.sendTopicAliases.map (·.topic) = [['a'], ['m']] ∧
    SendAliasesOk .dynamic sys.client := by
  obtain ⟨sys, hreach, htopics⟩ := exists_reach_fresh .dynamic aliasedCalls
    (fun sys => sys.client.clientState.sendTopicAliases.map (·.topic) = [['a'], ['m']]) (by decide +kernel)
  exact ⟨sys, hreach, htopics, sendAliases_kept hreach⟩

end Mqtt5
