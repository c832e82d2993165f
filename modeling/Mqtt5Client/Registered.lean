import Mqtt5Client.Updates

/-!
# Mqtt5Client — `m_ops` and the lists of operations

For every type the pointers in `m_ops` are those to the operations in the list of the type, in the same
order.
-/

namespace Mqtt5

open Client

variable {env : Env} {a : Bool} {b : Scope} {s t u : Client} {sys sys' : Sys} {l : Label} {act : Act}
  {ref : OpRef} {type : OpType} {id : OpId}

/-! ## The registry -/

/-- The identity behind a pointer to an operation of a type. -/
def OpRef.idOf (type : OpType) : Option OpRef → Option OpId
  | some ref => if ref.type = type then some ref.id else none
  | none => none

structure Registered (s : Client) : Prop where
  refs : ∀ type, s.ops.filterMap (OpRef.idOf type) = s.ids type
  sorted : ∀ type, (s.ids type).Pairwise (· < ·)
  lt : ∀ type, ∀ id ∈ s.ids type, id < s.nextOpId

theorem idOf_pos (h : ref.type = type) : OpRef.idOf type (some ref) = some ref.id := if_pos h

theorem idOf_neg (h : ref.type ≠ type) : OpRef.idOf type (some ref) = none := if_neg h

/-- The identifiers of a type are those of its pointers. -/
theorem mem_filterMap_idOf {ops : List (Option OpRef)} :
    id ∈ ops.filterMap (OpRef.idOf type) ↔ some ⟨type, id⟩ ∈ ops := by
  rw [List.mem_filterMap]
  constructor
  · rintro ⟨p, hp, hid⟩
    unfold OpRef.idOf at hid
    split at hid
    · rename_i ref
      split at hid
      · rename_i htype
        obtain rfl := htype
        obtain rfl := Option.some.inj hid
        exact hp
      · cases hid
    · cases hid
  · intro hp
    exact ⟨_, hp, if_pos rfl⟩

/-- A pointer in `m_ops` points to a live operation. -/
theorem Registered.mem (h : Registered s) : some ref ∈ s.ops ↔ ref.id ∈ s.ids ref.type := by
  rw [← h.refs, mem_filterMap_idOf]

theorem Registered.nodup (h : Registered s) (type : OpType) : (s.ids type).Nodup :=
  (h.sorted type).imp Nat.ne_of_lt

/-- A cleared pointer takes its identifier from its type. -/
theorem filterMap_nullify (ref : OpRef) (type : OpType) (ops : List (Option OpRef)) :
    (nullify ref ops).filterMap (OpRef.idOf type) =
      if ref.type = type then (ops.filterMap (OpRef.idOf type)).erase ref.id
      else ops.filterMap (OpRef.idOf type) := by
  induction ops with
  | nil =>
    split <;> rfl
  | cons p ps ih =>
    unfold nullify
    by_cases hp : p = some ref
    · rw [if_pos hp, hp, List.filterMap_cons_none rfl]
      by_cases htype : ref.type = type
      · rw [if_pos htype, List.filterMap_cons_some (idOf_pos htype), List.erase_cons_head]
      · rw [if_neg htype, List.filterMap_cons_none (idOf_neg htype)]
    · rw [if_neg hp, List.filterMap_cons, List.filterMap_cons, ih]
      cases hid : OpRef.idOf type p with
      | none => rfl
      | some id =>
        dsimp only
        split
        · rename_i htype
          have hne : id ≠ ref.id := by
            rintro rfl
            have hmem : ref.id ∈ [p].filterMap (OpRef.idOf type) := by
              rw [List.filterMap_cons_some hid]
              exact List.mem_cons_self
            have := mem_filterMap_idOf.mp hmem
            rw [List.mem_singleton] at this
            exact hp (by rw [← this, ← htype])
          rw [List.erase_cons_tail (by simpa using hne)]
        · rfl

/-! ## Updates of the registry -/

/-- The pointers and the identities are the same. -/
theorem Registered.same (h : Registered s) (hops : t.ops = s.ops) (hids : ∀ type, t.ids type = s.ids type)
    (hnext : s.nextOpId ≤ t.nextOpId) : Registered t where
  refs := fun type => by rw [hops, hids, h.refs]
  sorted := fun type => hids type ▸ h.sorted type
  lt := fun type id hid => Nat.lt_of_lt_of_le (h.lt type id (hids type ▸ hid)) hnext

/-- An operation is created with the next identity. -/
theorem Registered.create (h : Registered s) (type : OpType)
    (hops : t.ops = s.ops ++ [some ⟨type, s.nextOpId⟩]) (hids : t.ids type = s.ids type ++ [s.nextOpId])
    (hsame : ∀ type', type' ≠ type → t.ids type' = s.ids type')
    (hnext : t.nextOpId = s.nextOpId + 1) : Registered t := by
  have hall : ∀ type', t.ids type' = s.ids type' ++ if type' = type then [s.nextOpId] else [] := by
    intro type'
    split
    · rename_i heq
      exact heq ▸ hids
    · rename_i hne
      rw [hsame type' hne, List.append_nil]
  refine ⟨fun type' => ?_, fun type' => ?_, fun type' id hid => ?_⟩
  · rw [hops, List.filterMap_append, h.refs, hall]
    by_cases heq : type' = type
    · rw [if_pos heq, List.filterMap_cons_some (idOf_pos heq.symm)]
      rfl
    · rw [if_neg heq, List.filterMap_cons_none (idOf_neg fun h => heq h.symm)]
      rfl
  · rw [hall]
    split
    · refine List.pairwise_append.mpr ⟨h.sorted type', List.pairwise_singleton _ _, ?_⟩
      intro id hid id' hid'
      rw [List.mem_singleton.mp hid']
      exact h.lt type' id hid
    · rw [List.append_nil]
      exact h.sorted type'
  · rw [hall] at hid
    rw [hnext]
    rcases List.mem_append.mp hid with hid | hid
    · exact Nat.lt_succ_of_lt (h.lt type' id hid)
    · split at hid
      · rw [List.mem_singleton.mp hid]
        exact Nat.lt_succ_self _
      · cases hid

/-- An operation is completed. -/
theorem Registered.complete (h : Registered s) (ref : OpRef) (hops : t.ops = nullify ref s.ops)
    (hids : ∀ type, t.ids type = if ref.type = type then (s.ids type).erase ref.id else s.ids type)
    (hnext : t.nextOpId = s.nextOpId) : Registered t where
  refs := fun type => by rw [hops, filterMap_nullify, h.refs, hids]
  sorted := fun type => by
    rw [hids]
    split
    · exact (h.sorted type).sublist List.erase_sublist
    · exact h.sorted type
  lt := fun type id hid => by
    rw [hnext]
    rw [hids] at hid
    split at hid
    · exact h.lt type id (List.mem_of_mem_erase hid)
    · exact h.lt type id hid

/-- Storing an element in the place of the one with its identity. -/
theorem map_id_modifyFirst {α : Type} (key : α → OpId) (x : α) (l : List α) :
    (modifyFirst (fun y => key y == key x) (fun _ => x) l).map key = l.map key := by
  induction l with
  | nil => rfl
  | cons y l ih =>
    unfold modifyFirst
    split
    · rename_i hy
      rw [List.map_cons, List.map_cons, beq_iff_eq.mp hy]
    · rw [List.map_cons, List.map_cons, ih]

/-- An erasure removes the identity from the list of its type. -/
theorem eraseRef_ids (hsend : ref.type ≠ .send) (s : Client) (type : OpType) :
    (eraseRef ref s).ids type = if ref.type = type then (s.ids type).erase ref.id else s.ids type := by
  have hmap : ∀ {α : Type} (key : α → OpId) (l : List α),
      (l.eraseP (fun op => key op == ref.id)).map key = (l.map key).erase ref.id :=
    fun key l => Keyed.map_key_erase ref.id l
  have hnone : ∀ {α : Type} (key : α → OpId) (l : List α),
      l.find? (fun op => key op == ref.id) = none → (l.map key).erase ref.id = l.map key := by
    intro α key l hfind
    refine List.erase_of_not_mem fun hmem => ?_
    obtain ⟨op, hop, hid⟩ := List.mem_map.mp hmem
    have := List.find?_eq_none.mp hfind op hop
    simp [hid] at this
  obtain ⟨rtype, id⟩ := ref
  cases rtype
  case send => exact absurd rfl hsend
  all_goals
    unfold eraseRef
    dsimp only
  case connect =>
    unfold eraseConnectOp
    split
    · rename_i hfind
      cases type <;> first | rfl | exact (hnone ConnectOp.id _ hfind).symm
    · rw [timerFree_eq]
      cases type <;> first | rfl | exact hmap ConnectOp.id _
  case keepAlive =>
    unfold eraseKeepAliveOp
    split
    · rename_i hfind
      cases type <;> first | rfl | exact (hnone KeepAliveOp.id _ hfind).symm
    · rw [timerFree_eq, timerFree_eq _ (KeepAliveOp.recvTimer _),
        timerFree_eq _ (KeepAliveOp.respTimer _)]
      cases type <;> first | rfl | exact hmap KeepAliveOp.id _
  case disconnect =>
    unfold eraseDisconnectOp
    split
    · rename_i hfind
      cases type <;> first | rfl | exact (hnone DisconnectOp.id _ hfind).symm
    · cases type <;> first | rfl | exact hmap DisconnectOp.id _
  case subscribe =>
    unfold eraseSubscribeOp
    split
    · rename_i hfind
      cases type <;> first | rfl | exact (hnone SubscribeOp.id _ hfind).symm
    · rw [timerFree_eq, releasePacketId_eq]
      cases type <;> first | rfl | exact hmap SubscribeOp.id _
  case unsubscribe =>
    unfold eraseUnsubscribeOp
    split
    · rename_i hfind
      cases type <;> first | rfl | exact (hnone UnsubscribeOp.id _ hfind).symm
    · rw [timerFree_eq, releasePacketId_eq]
      cases type <;> first | rfl | exact hmap UnsubscribeOp.id _
  case recv =>
    unfold eraseRecvOp
    split
    · rename_i hfind
      cases type <;> first | rfl | exact (hnone RecvOp.id _ hfind).symm
    · rw [timerFree_eq]
      cases type <;> first | rfl | exact hmap RecvOp.id _
  case reauth =>
    unfold eraseReauthOp
    split
    · rename_i hfind
      cases type <;> first | rfl | exact (hnone ReauthOp.id _ hfind).symm
    · rw [timerFree_eq]
      cases type <;> first | rfl | exact hmap ReauthOp.id _

/-- Publishes and receptions are changed in place. -/
theorem map_id_map {α : Type} {key : α → OpId} {id : OpId} {f : α → α} {l : List α}
    (hf : ∀ x ∈ l, key x = id → key (f x) = key x) :
    (l.map fun x => if key x == id then f x else x).map key = l.map key := by
  rw [List.map_map]
  refine List.map_congr_left fun x hx => ?_
  show key (if key x == id then f x else x) = key x
  split
  · rename_i hid
    exact hf x hx (beq_iff_eq.mp hid)
  · rfl

/-- The search for a packet identifier changes neither `m_ops` nor a list. -/
theorem allocPacketId_same (env : Env) (s : Client) : (s.allocPacketId env).1 =
    { s with clientState := (s.allocPacketId env).1.clientState, log := (s.allocPacketId env).1.log,
             counts := (s.allocPacketId env).1.counts } := by
  unfold allocPacketId
  dsimp only
  split <;> rfl

/-- The new operation is registered under the next pointer. -/
theorem Prim.registered_create {type : OpType} (h : Prim (.create type) s t) (hr : Registered s) :
    Registered t := by
  have halloc : ∀ env, Registered ((s.timerAlloc env).1.assert .timer (s.timerAlloc env).2.isSome) := by
    intro env
    have hsame := SameOps.timerAlloc env s (s.timerAlloc env).2.isSome
    exact hr.same hsame.ops hsame.ids (Nat.le_of_eq hsame.nextOpId.symm)
  cases h with
  | createConnect env =>
    refine hr.create .connect rfl (List.map_append ..) (fun type hne => ?_) rfl
    cases type <;> first | rfl | exact absurd rfl hne
  | createDisconnect =>
    refine hr.create .disconnect rfl (List.map_append ..) (fun type hne => ?_) rfl
    cases type <;> first | rfl | exact absurd rfl hne
  | createSubscribe env =>
    refine hr.create .subscribe rfl (List.map_append ..) (fun type hne => ?_) rfl
    cases type <;> first | rfl | exact absurd rfl hne
  | createUnsubscribe env =>
    refine hr.create .unsubscribe rfl (List.map_append ..) (fun type hne => ?_) rfl
    cases type <;> first | rfl | exact absurd rfl hne
  | createReauth env =>
    refine hr.create .reauth rfl (List.map_append ..) (fun type hne => ?_) rfl
    cases type <;> first | rfl | exact absurd rfl hne
  | createSend env =>
    refine (halloc env).create .send rfl (List.map_append ..) (fun type hne => ?_) rfl
    cases type <;> first | rfl | exact absurd rfl hne
  | createRecv env =>
    refine (halloc env).create .recv rfl (List.map_append ..) (fun type hne => ?_) rfl
    cases type <;> first | rfl | exact absurd rfl hne
  | createKeepAlive env hnil =>
    rcases createKeepAliveOpIfNeeded_cases env hnil with heq | ⟨c, m, op, hid, heq⟩
    · rw [heq]
      refine hr.same rfl (fun type => ?_) (Nat.le_refl s.nextOpId)
      cases type <;> rfl
    · have hsame := SameOps.assert s .timer c
      have hr' : Registered _ := hr.same hsame.ops hsame.ids (Nat.le_of_eq hsame.nextOpId.symm)
      rw [heq]
      refine hr'.create .keepAlive (by rw [hsame.ops, hsame.nextOpId]) ?_ (fun type hne => ?_)
        (by rw [hsame.nextOpId])
      · show [op.id] = (s.assert .timer c).keepAliveOps.map (·.id) ++ [_]
        rw [hsame.keepAliveOps, hnil, hsame.nextOpId, hid]
        rfl
      · cases type <;> first | rfl | exact absurd rfl hne

/-- The pointers and the identities of the operations are the same. -/
structure SameIds (s t : Client) : Prop where
  ops : t.ops = s.ops
  ids : ∀ type, t.ids type = s.ids type
  nextOpId : t.nextOpId = s.nextOpId

/-- Updates that keep the identifiers keep the registry. -/
theorem Registered.sameIds (h : Registered s) (hsame : SameIds s t) : Registered t :=
  h.same hsame.ops hsame.ids (Nat.le_of_eq hsame.nextOpId.symm)

/-- An operation is changed in its place. -/
theorem Prim.sameIds_set {type : OpType} (h : Prim (.set type) s t) : SameIds s t := by
  cases h with
  | setConnect op x =>
    refine ⟨rfl, fun type => ?_, rfl⟩
    cases type <;> first | rfl | exact map_id_modifyFirst ConnectOp.id x _
  | setDisconnect op x =>
    refine ⟨rfl, fun type => ?_, rfl⟩
    cases type <;> first | rfl | exact map_id_modifyFirst DisconnectOp.id x _
  | setSubscribe op x =>
    refine ⟨rfl, fun type => ?_, rfl⟩
    cases type <;> first | rfl | exact map_id_modifyFirst SubscribeOp.id x _
  | setUnsubscribe op x =>
    refine ⟨rfl, fun type => ?_, rfl⟩
    cases type <;> first | rfl | exact map_id_modifyFirst UnsubscribeOp.id x _
  | setReauth op x =>
    refine ⟨rfl, fun type => ?_, rfl⟩
    cases type <;> first | rfl | exact map_id_modifyFirst ReauthOp.id x _
  | setSend id f hf =>
    refine ⟨rfl, fun type => ?_, rfl⟩
    cases type <;> first | rfl | exact map_id_map fun x hx hid => (hf x hx hid).id
  | publish op =>
    refine ⟨rfl, fun type => ?_, rfl⟩
    cases type <;> first | rfl | exact map_id_map fun x hx hid => rfl
  | setRecv id packetId =>
    refine ⟨rfl, fun type => ?_, rfl⟩
    cases type <;> first | rfl | exact map_id_map fun x hx hid => rfl

theorem Prim.sameIds_mark {type : OpType} (h : Prim (.mark type) s t) : SameIds s t := by
  cases h with
  | markConnect op =>
    refine ⟨rfl, fun type => ?_, rfl⟩
    cases type <;>
      first | rfl | exact map_id_modifyFirst ConnectOp.id { op with sent := true, cb := true } _
  | markDisconnect op =>
    refine ⟨rfl, fun type => ?_, rfl⟩
    cases type <;> first | rfl | exact map_id_modifyFirst DisconnectOp.id { op with sent := true } _
  | markSubscribe op =>
    refine ⟨rfl, fun type => ?_, rfl⟩
    cases type <;> first | rfl | exact map_id_modifyFirst SubscribeOp.id { op with sent := true } _
  | markUnsubscribe op =>
    refine ⟨rfl, fun type => ?_, rfl⟩
    cases type <;> first | rfl | exact map_id_modifyFirst UnsubscribeOp.id { op with sent := true } _
  | markReauth op =>
    refine ⟨rfl, fun type => ?_, rfl⟩
    cases type <;> first | rfl | exact map_id_modifyFirst ReauthOp.id { op with sent := true } _
  | markSend op =>
    refine ⟨rfl, fun type => ?_, rfl⟩
    cases type <;> first | rfl | exact map_id_map fun x hx hid => hid.symm

/-- A packet identifier is taken by an operation that is registered. -/
theorem Prim.registered_take {type : OpType} (h : Prim (.take type) s t) (hr : Registered s) :
    Registered t := by
  have halloc : ∀ env, Registered (s.allocPacketId env).1 := by
    intro env
    rw [allocPacketId_same]
    refine hr.same rfl (fun type => ?_) (Nat.le_refl s.nextOpId)
    cases type <;> rfl
  cases h with
  | takeSubscribe env op =>
    have hids := map_id_modifyFirst SubscribeOp.id
      { op with cb := true, subMsg := { op.subMsg with packetId := (s.allocPacketId env).2 } }
    refine (halloc env).sameIds ⟨rfl, fun type => ?_, rfl⟩
    cases type <;> first | rfl | exact hids _
  | takeUnsubscribe env op =>
    have hids := map_id_modifyFirst UnsubscribeOp.id
      { op with cb := true, unsubMsg := { op.unsubMsg with packetId := (s.allocPacketId env).2 } }
    refine (halloc env).sameIds ⟨rfl, fun type => ?_, rfl⟩
    cases type <;> first | rfl | exact hids _
  | takeSend env op x =>
    refine (halloc env).sameIds ⟨rfl, fun type => ?_, rfl⟩
    cases type <;> first | rfl | exact map_id_map fun y hy hid => hid.symm

/-- The completed operation leaves both. -/
theorem Prim.registered_complete (h : Prim (.complete ref) s t) (hr : Registered s) : Registered t := by
  cases h with
  | complete ref =>
    rcases completeRef_cases ref s with heq | heq | ⟨hmem, heq⟩
    · rw [heq]
      exact hr
    · rw [heq]
      refine hr.same rfl (fun type => ?_) (Nat.le_refl s.nextOpId)
      cases type <;> rfl
    · by_cases hsend : ref.type = .send
      · have : s.completeRef ref = s := by rw [completeRef_eq, if_pos hsend]
        rw [this]
        exact hr
      · rw [heq]
        refine hr.complete ref (by rw [eraseRef_eq]) (fun type => ?_) (by rw [eraseRef_eq])
        rw [eraseRef_ids hsend]
        cases type <;> rfl
  | completeSend op hop href =>
    unfold destroySendOp eraseSendOp
    rw [timerFree_eq, releasePacketId_eq]
    refine hr.complete ⟨.send, op.id⟩ rfl (fun type => ?_) rfl
    cases type <;> first | rfl | exact Keyed.map_key_erase op.id s.sendOps

/-- The null entries of `m_ops` point to nothing. -/
theorem Registered.cleanOps (hr : Registered s) : Registered s.cleanOps := by
  unfold Client.cleanOps
  split
  · have hrefs : ∀ type, (s.ops.filter (·.isSome)).filterMap (OpRef.idOf type) =
        s.ops.filterMap (OpRef.idOf type) := by
      intro type
      rw [List.filterMap_filter]
      refine List.filterMap_congr fun p _ => ?_
      cases p <;> rfl
    refine ⟨fun type => ?_, fun type => ?_, fun type => ?_⟩
    · refine (hrefs type).trans ((hr.refs type).trans ?_)
      cases type <;> rfl
    · have := hr.sorted type
      cases type <;> exact this
    · have := hr.lt type
      cases type <;> exact this
  · exact hr

/-- Every update keeps the registry. -/
theorem Prim.registered (h : Prim act s t) (hr : Registered s) : Registered t := by
  cases hplain : act.plain with
  | true =>
    have hsame := h.sameOps hplain
    exact hr.same hsame.ops hsame.ids (Nat.le_of_eq hsame.nextOpId.symm)
  | false =>
    cases act with
    | create type => exact h.registered_create hr
    | set type => exact hr.sameIds h.sameIds_set
    | mark type => exact hr.sameIds h.sameIds_mark
    | take type => exact h.registered_take hr
    | complete ref => exact h.registered_complete hr
    | clean =>
      cases h
      exact hr.cleanOps
    | _ => cases hplain

/-- So does every run of updates. -/
theorem Acts.registered (h : Acts a b s t) (hr : Registered s) : Registered t :=
  h.invariant (fun hp _ hs => hp.registered hs) hr

/-- The registry is kept in every run. -/
theorem reach_registered {ok : Sys → Label → Prop} (h : (machine env).Reach ok sys) :
    Registered sys.client := by
  have hinit : ∀ sys, (machine env).init sys → Registered sys.client := by
    rintro _ ⟨cbs, config, rfl⟩
    refine ⟨fun type => ?_, fun type => ?_, fun type => ?_⟩ <;> cases type
    all_goals first
      | rfl
      | exact List.Pairwise.nil
      | exact fun id hid => nomatch hid
  refine h.invariant hinit fun sys l sys' hs hinv _ hstep => ?_
  exact (step_acts (a := false) (b := .begins) (reach_wf hs) hstep (by simp) (.begins _)).registered hinv

end Mqtt5
