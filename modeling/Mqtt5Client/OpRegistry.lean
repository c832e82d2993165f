import Mqtt5Client.Capacity
import Mqtt5Client.Registered

/-!
# Mqtt5Client — the operation registry

`m_ops` points to every live operation once, whatever list owns it. `Registered` has the pointers of each
type; here the types are taken together: no two pointers lead to one operation, the operations that exist
once only are never created twice, a null pointer is always noted for `cleanOps`, and no completion misses
its operation in `m_ops` or in the list that owns it.
-/

namespace Mqtt5

open Client

variable {env : Env} {s t : Client} {sys sys' : Sys} {l : Label} {act : Act} {ref : OpRef}
  {type : OpType}

/-! ## What an update does to `m_ops` -/

/-- The operations that are created only where there is none. -/
def OpType.isSingle : OpType → Bool
  | .connect | .keepAlive | .disconnect | .reauth => true
  | _ => false

/-- The identities behind the pointers, whatever the type. -/
def entryIds (ops : List (Option OpRef)) : List OpId := ops.filterMap (·.map (·.id))

/-- The four things that happen to `m_ops`. -/
inductive OpsStep (s t : Client) : Prop
  | same (hops : t.ops = s.ops) (hdeleted : t.opsDeleted = s.opsDeleted)
      (hnext : t.nextOpId = s.nextOpId)
  | push (type : OpType) (hops : t.ops = s.ops ++ [some ⟨type, s.nextOpId⟩])
      (hdeleted : t.opsDeleted = s.opsDeleted) (hnext : t.nextOpId = s.nextOpId + 1)
  | nullify (ref : OpRef) (hops : t.ops = nullify ref s.ops) (hdeleted : t.opsDeleted = true)
      (hnext : t.nextOpId = s.nextOpId)
  | clean (hops : t.ops = s.ops.filter (·.isSome)) (hnext : t.nextOpId = s.nextOpId)

theorem SameOps.opsStep (h : SameOps s t) : OpsStep s t := .same h.ops h.opsDeleted h.nextOpId

/-- An update leaves `m_ops`, appends a pointer, nullifies one or removes the null ones. -/
theorem Prim.opsStep (h : Prim act s t) : OpsStep s t := by
  have halloc : ∀ env, (s.allocPacketId env).1.ops = s.ops ∧
      (s.allocPacketId env).1.opsDeleted = s.opsDeleted ∧
      (s.allocPacketId env).1.nextOpId = s.nextOpId := by
    intro env
    rw [allocPacketId_same]
    exact ⟨rfl, rfl, rfl⟩
  -- most updates do not touch `m_ops`
  cases hplain : act.plain with
  | true => exact (h.sameOps hplain).opsStep
  | false =>
    cases h with
    | createConnect env => exact .push .connect rfl rfl rfl
    | createDisconnect => exact .push .disconnect rfl rfl rfl
    | createSubscribe env => exact .push .subscribe rfl rfl rfl
    | createUnsubscribe env => exact .push .unsubscribe rfl rfl rfl
    | createReauth env => exact .push .reauth rfl rfl rfl
    | createSend env =>
      have hsame := SameOps.timerAlloc env s (s.timerAlloc env).2.isSome
      exact .push .send (by rw [← hsame.ops, ← hsame.nextOpId]; rfl) hsame.opsDeleted
        (congrArg (· + 1) hsame.nextOpId)
    | createRecv env =>
      have hsame := SameOps.timerAlloc env s (s.timerAlloc env).2.isSome
      exact .push .recv (by rw [← hsame.ops, ← hsame.nextOpId]; rfl) hsame.opsDeleted
        (congrArg (· + 1) hsame.nextOpId)
    | createKeepAlive env hnil =>
      rcases createKeepAliveOpIfNeeded_cases env hnil with heq | ⟨c, m, op, -, heq⟩
      · rw [heq]
        exact .same rfl rfl rfl
      · rw [heq]
        exact .push .keepAlive rfl (SameOps.assert s .timer c).opsDeleted rfl
    | takeSubscribe env | takeUnsubscribe env | takeSend env =>
      obtain ⟨hops, hdeleted, hnext⟩ := halloc env
      exact .same hops hdeleted hnext
    | complete ref =>
      rcases completeRef_cases ref s with heq | heq | ⟨-, heq⟩
      · rw [heq]
        exact .same rfl rfl rfl
      · rw [heq]
        exact .same rfl rfl rfl
      · rw [heq, eraseRef_eq]
        exact .nullify ref rfl rfl rfl
    | completeSend op =>
      unfold destroySendOp eraseSendOp
      rw [timerFree_eq, releasePacketId_eq]
      exact .nullify ⟨.send, op.id⟩ rfl rfl rfl
    | clean =>
      unfold cleanOps
      split
      · exact .clean rfl rfl
      · exact .same rfl rfl rfl
    | _ => first | exact .same rfl rfl rfl | cases hplain

/-! ## The pointers -/

/-- A pointer that is nullified drops out. -/
theorem nullify_sublist (ref : OpRef) (ops : List (Option OpRef)) :
    (entryIds (nullify ref ops)).Sublist (entryIds ops) := by
  induction ops with
  | nil => exact .slnil
  | cons p ops ih =>
    unfold nullify
    split
    · -- the null pointer has no identity
      show (entryIds ops).Sublist (entryIds ([p] ++ ops))
      unfold entryIds
      rw [List.filterMap_append]
      exact List.sublist_append_right _ _
    · show (entryIds ([p] ++ nullify ref ops)).Sublist (entryIds ([p] ++ ops))
      unfold entryIds at ih ⊢
      rw [List.filterMap_append, List.filterMap_append]
      exact ih.append_left _

theorem filter_sublist (ops : List (Option OpRef)) :
    (entryIds (ops.filter (·.isSome))).Sublist (entryIds ops) :=
  List.filter_sublist.filterMap _

/-- The pointers lead to different operations, in the order of their creation, and a null pointer is
noted. -/
structure EntriesOk (s : Client) : Prop where
  sorted : (entryIds s.ops).Pairwise (· < ·)
  lt : ∀ id ∈ entryIds s.ops, id < s.nextOpId
  deleted : none ∈ s.ops → s.opsDeleted = true

/-- The pointers stay in order, without a repetition. -/
theorem OpsStep.entries (h : OpsStep s t) (hs : EntriesOk s) : EntriesOk t := by
  cases h with
  | same hops hdeleted hnext =>
    refine ⟨?_, ?_, ?_⟩
    · rw [hops]
      exact hs.sorted
    · rw [hops, hnext]
      exact hs.lt
    · rw [hops, hdeleted]
      exact hs.deleted
  | push type hops hdeleted hnext =>
    have hids : entryIds t.ops = entryIds s.ops ++ [s.nextOpId] := by
      rw [hops]
      unfold entryIds
      rw [List.filterMap_append]
      rfl
    refine ⟨?_, ?_, ?_⟩
    · rw [hids]
      refine List.pairwise_append.mpr ⟨hs.sorted, List.pairwise_singleton _ _, ?_⟩
      intro id hid id' hid'
      rw [List.mem_singleton.mp hid']
      exact hs.lt id hid
    · rw [hids, hnext]
      intro id hid
      rcases List.mem_append.mp hid with hid | hid
      · exact Nat.lt_succ_of_lt (hs.lt id hid)
      · rw [List.mem_singleton.mp hid]
        exact Nat.lt_succ_self _
    · rw [hops, hdeleted]
      intro hnone
      exact hs.deleted (by simpa using hnone)
  | nullify ref hops hdeleted hnext =>
    have hsub := nullify_sublist ref s.ops
    refine ⟨?_, ?_, fun _ => hdeleted⟩
    · rw [hops]
      exact hs.sorted.sublist hsub
    · rw [hops, hnext]
      exact fun id hid => hs.lt id (hsub.subset hid)
  | clean hops hnext =>
    have hsub := filter_sublist s.ops
    refine ⟨?_, ?_, ?_⟩
    · rw [hops]
      exact hs.sorted.sublist hsub
    · rw [hops, hnext]
      exact fun id hid => hs.lt id (hsub.subset hid)
    · rw [hops]
      intro hnone
      simp at hnone

/-! ## The operations that exist once -/

/-- No operation of these types is created beside another one. -/
def Single (s : Client) : Prop := ∀ type, type.isSingle = true → s.opCount type ≤ 1

/-- The operations that exist once are created where there is none. -/
theorem Prim.single (h : Prim act s t) (hs : Single s) : Single t := by
  intro type htype
  cases hcreates : act.creates with
  | false => exact Nat.le_trans ((h.shrinks hcreates).count type) (hs type htype)
  | true =>
    obtain ⟨created, rfl⟩ : ∃ type, act = .create type := by
      cases act <;> first | exact ⟨_, rfl⟩ | cases hcreates
    have hcount := h.grows.count type
    by_cases heq : type = created
    · subst heq
      -- the checks of the call, or of the keep alive
      have hnone : s.opCount type = 0 := by
        cases h with
        | createConnect env _ he => exact List.length_eq_zero_iff.mpr he
        | createDisconnect _ he => exact List.length_eq_zero_iff.mpr he
        | createReauth env _ he => exact List.length_eq_zero_iff.mpr he
        | createKeepAlive env he => exact List.length_eq_zero_iff.mpr he
        | createSubscribe | createUnsubscribe | createSend | createRecv => cases htype
      rw [if_pos rfl, hnone] at hcount
      exact hcount
    · rw [if_neg heq] at hcount
      exact Nat.le_trans hcount (hs type htype)

/-! ## The assertions of a completion -/

/-- An operation in the list of its type is erased. -/
theorem eraseRef_raises (h : ref.id ∈ s.ids ref.type) :
    Raises [.assertFailed .releasePacketId] s (eraseRef ref s) := by
  have hfound : ∀ {α : Type} (key : α → OpId) (ops : List α), ref.id ∈ ops.map key →
      ops.find? (fun op => key op == ref.id) ≠ none := by
    intro α key ops hmem hnone
    obtain ⟨op, hop, hid⟩ := List.mem_map.mp hmem
    have := List.find?_eq_none.mp hnone op hop
    simp [hid] at this
  have hrelease : ∀ (v : Client) (id : Nat), v.faults = s.faults →
      Raises [.assertFailed .releasePacketId] s (v.releasePacketId id) := fun v id h =>
    (Raises.of_eq h).trans (.releasePacketId (by simp) id)
  obtain ⟨type, id⟩ := ref
  unfold eraseRef
  cases type <;> dsimp only
  case connect =>
    unfold eraseConnectOp
    split
    · rename_i hnone
      exact absurd hnone (hfound ConnectOp.id _ h)
    · exact .of_eq rfl
  case keepAlive =>
    unfold eraseKeepAliveOp
    split
    · rename_i hnone
      exact absurd hnone (hfound KeepAliveOp.id _ h)
    · exact .of_eq rfl
  case disconnect =>
    unfold eraseDisconnectOp
    split
    · rename_i hnone
      exact absurd hnone (hfound DisconnectOp.id _ h)
    · exact .of_eq rfl
  case subscribe =>
    unfold eraseSubscribeOp
    split
    · rename_i hnone
      exact absurd hnone (hfound SubscribeOp.id _ h)
    · exact (hrelease { s with subscribeOps := s.subscribeOps.eraseP (·.id == id) } _ rfl).trans
        (.of_eq rfl)
  case unsubscribe =>
    unfold eraseUnsubscribeOp
    split
    · rename_i hnone
      exact absurd hnone (hfound UnsubscribeOp.id _ h)
    · exact (hrelease { s with unsubscribeOps := s.unsubscribeOps.eraseP (·.id == id) } _ rfl).trans
        (.of_eq rfl)
  case recv =>
    unfold eraseRecvOp
    split
    · rename_i hnone
      exact absurd hnone (hfound RecvOp.id _ h)
    · exact .of_eq rfl
  case send => exact .refl s
  case reauth =>
    unfold eraseReauthOp
    split
    · rename_i hnone
      exact absurd hnone (hfound ReauthOp.id _ h)
    · exact .of_eq rfl

/-- A live operation is registered and in its list. -/
theorem Registered.live (h : Registered s) (hlive : s.Live ref) :
    some ref ∈ s.ops ∧ ref.id ∈ s.ids ref.type := by
  rcases hlive with href | hid
  · exact ⟨href, h.mem.mp href⟩
  · exact ⟨h.mem.mpr hid, hid⟩

/-- The failures of the assertions in `opComplete` and in `eraseFromList`. -/
def Fault.isMissing : Fault → Bool
  | .assertFailed .opComplete | .assertFailed .eraseFromList => true
  | _ => false

/-- A completion finds the pointer of its operation. -/
theorem Prim.noMissing (h : Prim act s t) (ha : act ≠ .stray) (hr : Registered s)
    (hs : ∀ f ∈ s.faults, f.isMissing = false) : ∀ f ∈ t.faults, f.isMissing = false := by
  have hplain : ∀ f : Fault, f.plain = true → f.isMissing = false := by
    intro f hf
    unfold Fault.isMissing
    split
    · cases hf
    · cases hf
    · rfl
  have hraises : ∀ fs : List Fault, (∀ f ∈ fs, f.isMissing = false) → Raises fs s t →
      ∀ f ∈ t.faults, f.isMissing = false := by
    intro fs hfs h f hf
    rcases h f hf with hf | hf | hf
    · exact hs f hf
    · exact hplain f hf
    · exact hfs f hf
  have hrelease : ∀ f ∈ [Fault.assertFailed .releasePacketId], f.isMissing = false := by
    intro f hf
    rw [List.mem_singleton.mp hf]
    rfl
  have hall := h.raises
  cases h with
  | complete ref hlive =>
    obtain ⟨hmem, hid⟩ := hr.live hlive
    refine hraises _ hrelease ?_
    rw [completeRef_eq]
    split
    · exact .refl s
    · unfold opCompleteWith unregisterOp
      rw [if_pos hmem]
      exact (Raises.of_eq rfl).trans (eraseRef_raises (s := { s with
        ops := nullify ref s.ops, opsDeleted := true }) hid)
  | completeSend op =>
    refine hraises _ hrelease ?_
    unfold destroySendOp eraseSendOp
    have hreleases : ∀ u : Client, Raises [.assertFailed .releasePacketId] u
        (u.releasePacketId op.packetId) := fun u => .releasePacketId (by simp) _
    exact Raises.trans (.of_eq rfl) ((hreleases (Client.emit (.sendOpErased op.id) { s.releaseSendOp op with
      sendOps := s.sendOps.eraseP (·.id == op.id) })).trans (.of_eq rfl))
  | strayCount | strayMiss | strayArm => exact absurd rfl ha
  | _ => exact hraises _ (by simp [Act.raises, Fault.isMissing]) hall

/-! ## The registry -/

/-- The operations of the eight lists. -/
def Client.owned (s : Client) : List OpRef :=
  [.connect, .keepAlive, .disconnect, .subscribe, .unsubscribe, .recv, .send, .reauth].flatMap
    fun type => (s.ids type).map (OpRef.mk type)

/-- A list owns the operations it has. -/
theorem mem_owned : ref ∈ s.owned ↔ ref.id ∈ s.ids ref.type := by
  unfold Client.owned
  rw [List.mem_flatMap]
  constructor
  · rintro ⟨type, -, href⟩
    obtain ⟨id, hid, rfl⟩ := List.mem_map.mp href
    exact hid
  · intro hid
    obtain ⟨type, id⟩ := ref
    refine ⟨type, ?_, List.mem_map_of_mem hid⟩
    cases type <;> simp

/-- No operation is in two lists, or in one list twice. -/
theorem Registered.nodup_owned (h : Registered s) : s.owned.Nodup := by
  unfold Client.owned
  rw [List.nodup_flatMap]
  refine ⟨fun type _ => ?_, ?_⟩
  · refine (h.nodup type).map fun id id' heq => ?_
    cases heq
    rfl
  · refine List.Pairwise.imp ?_ (show List.Nodup _ by decide)
    intro type type' hne ref href href'
    -- an operation has one type
    obtain ⟨id, -, rfl⟩ := List.mem_map.mp href
    obtain ⟨id', -, heq⟩ := List.mem_map.mp href'
    cases heq
    exact hne rfl

/-- What holds of `m_ops` and the lists between two calls. `entries` and `distinct`: the pointers that
are not null are those to the operations of the eight lists, each once, and no two lead to one object. -/
structure OpRegistry (s : Client) : Prop where
  entries : (s.ops.filterMap id).Perm s.owned
  distinct : ((s.ops.filterMap id).map (·.id)).Nodup
  connect : s.connectOps.length ≤ 1
  keepAlive : s.keepAliveOps.length ≤ 1
  disconnect : s.disconnectOps.length ≤ 1
  reauth : s.reauthOps.length ≤ 1
  deleted : none ∈ s.ops → s.opsDeleted = true
  opComplete : .assertFailed .opComplete ∉ s.faults
  eraseFromList : .assertFailed .eraseFromList ∉ s.faults

theorem map_id_filterMap (ops : List (Option OpRef)) :
    (ops.filterMap id).map (·.id) = entryIds ops := by
  unfold entryIds
  rw [List.map_filterMap]
  rfl

/-- The invariant behind the registry. -/
structure RegistryOk (s : Client) : Prop where
  entries : EntriesOk s
  single : Single s
  noMissing : ∀ f ∈ s.faults, f.isMissing = false

/-- Together with the lists the pointers are the registry. -/
theorem RegistryOk.registry (h : RegistryOk s) (hr : Registered s) : OpRegistry s := by
  have hdistinct : ((s.ops.filterMap id).map (·.id)).Nodup := by
    rw [map_id_filterMap]
    exact h.entries.sorted.imp Nat.ne_of_lt
  refine ⟨?_, hdistinct, h.single .connect rfl, h.single .keepAlive rfl, h.single .disconnect rfl,
    h.single .reauth rfl, h.entries.deleted, fun hf => ?_, fun hf => ?_⟩
  · refine (List.perm_ext_iff_of_nodup (hdistinct.of_map _) hr.nodup_owned).mpr fun ref => ?_
    rw [mem_owned, ← hr.mem, List.mem_filterMap]
    simp
  · cases h.noMissing _ hf
  · cases h.noMissing _ hf

/-- Every step keeps it whose `send` does not carry on with a destroyed operation. -/
theorem step_registryOk (hw : SysWf sys) (hr : Registered sys.client)
    (hstep : sys.step env l = some sys') (hs : sys.strays l = false) (h : RegistryOk sys.client) :
    RegistryOk sys'.client := by
  have hinv : RegistryOk sys'.client ∧ Registered sys'.client := by
    refine (step_acts_kept hw hstep hs).invariant (P := fun s => RegistryOk s ∧ Registered s)
      (fun hp ha hs => ?_) ⟨h, hr⟩
    exact ⟨⟨hp.opsStep.entries hs.1.entries, hp.single hs.1.single,
      hp.noMissing (Act.ne_stray ha) hs.2 hs.1.noMissing⟩, hp.registered hs.2⟩
  exact hinv.1

/-- What a step must not do: carry on with a `send` call whose own API guard destroyed the operation, or
open an operation for a message when `m_ops` of a build without dynamic memory is full. -/
structure Sys.KeepsRegistry (env : Env) (sys : Sys) (l : Label) : Prop where
  sends : sys.strays l = false
  room : env.cfg.hasOpsLimit = true → sys.recv env l = .begins →
    sys.client.ops.length < env.cfg.opsLimit

instance (env : Env) (sys : Sys) (l : Label) : Decidable (sys.KeepsRegistry env l) :=
  decidable_of_iff (sys.strays l = false ∧ (env.cfg.hasOpsLimit = true → sys.recv env l = .begins →
    sys.client.ops.length < env.cfg.opsLimit)) ⟨fun h => ⟨h.1, h.2⟩, fun h => ⟨h.sends, h.room⟩⟩

/-- In the runs whose steps keep to this, the registry and the lists agree in every state, and `m_ops` is
within its capacity. -/
theorem opRegistry_kept (h : (machine env).Reach (Sys.KeepsRegistry env) sys) :
    OpRegistry sys.client ∧
      (env.cfg.hasOpsLimit = true → sys.client.ops.length ≤ env.cfg.opsLimit) := by
  have hinit : ∀ sys, (machine env).init sys → RegistryOk sys.client ∧
      (env.cfg.hasOpsLimit = true → sys.client.ops.length ≤ env.cfg.opsLimit) := by
    rintro _ ⟨cbs, config, rfl⟩
    refine ⟨⟨⟨List.Pairwise.nil, ?_, ?_⟩, ?_, ?_⟩, fun _ => Nat.zero_le _⟩
    · intro id hid
      cases hid
    · intro hnone
      cases hnone
    · intro type _
      cases type <;> exact Nat.zero_le 1
    · intro f hf
      cases hf
  have hok : RegistryOk sys.client ∧
      (env.cfg.hasOpsLimit = true → sys.client.ops.length ≤ env.cfg.opsLimit) := by
    refine h.invariant hinit fun sys l sys' hs hinv hok hstep => ⟨?_, fun hcfg => ?_⟩
    · exact step_registryOk (reach_wf hs) (reach_registered hs) hstep hok.sends hinv.1
    · exact step_capacity hcfg (reach_wf hs) hstep (hok.room hcfg) (hinv.2 hcfg)
  exact ⟨hok.1.registry (reach_registered h), hok.2⟩

/-- A connection with a publish in flight and a prepared SUBSCRIBE. -/
theorem opRegistry_kept_three : ∃ sys, (machine .dynamic).Reach (Sys.KeepsRegistry .dynamic) sys ∧
    sys.client.ops = [some ⟨.keepAlive, 1⟩, some ⟨.send, 2⟩, some ⟨.subscribe, 3⟩] ∧
    OpRegistry sys.client := by
  obtain ⟨sys, hreach, hops⟩ := exists_reach_ok .dynamic (Sys.KeepsRegistry .dynamic)
    (connectCalls true {} { sessionPresent := false, reasonCode := ReasonCode.success } ++
      publishCalls 2 .atLeastOnceDelivery 4 ++ [(.subscribePrepare, 1)])
    (fun sys => sys.client.ops = [some ⟨.keepAlive, 1⟩, some ⟨.send, 2⟩, some ⟨.subscribe, 3⟩])
    (by decide +kernel)
  exact ⟨sys, hreach, hops, (opRegistry_kept hreach).1⟩

/-- A publish of QoS 0 whose own API guard ends the connection is completed twice; no timer ran a callback
of an operation that was gone. -/
theorem opRegistry_missed : ∃ sys, (machine .dynamic).Reach (fun _ _ => True) sys ∧
    sys.pending = [] ∧ .useAfterFree .tick ∉ sys.client.faults ∧
    .assertFailed .opComplete ∈ sys.client.faults ∧ ¬OpRegistry sys.client := by
  obtain ⟨sys, hreach, hpending, htick, hmissed⟩ := exists_reach_fresh .dynamic
    (lateSendCalls .atMostOnceDelivery)
    (fun sys => sys.pending = [] ∧ .useAfterFree .tick ∉ sys.client.faults ∧
      .assertFailed .opComplete ∈ sys.client.faults) (by decide +kernel)
  exact ⟨sys, hreach, hpending, htick, hmissed, fun h => h.opComplete hmissed⟩

end Mqtt5
