import Mqtt5Client.Updates

/-!
# Mqtt5Client — the capacity of `m_ops`

In a build without dynamic memory `m_ops` has room for as many operations as the pools of all types
together. An operation that is completed leaves a null pointer behind, which is removed when the API is
left; a reception and the keep alive are created without asking whether there is room. So the capacity
is kept as long as the messages of one call open no more operations than `m_ops` had room for when the
call began.
-/

namespace Mqtt5

open Client

variable {env : Env} {s t u : Client} {sys sys' : Sys} {l : Label} {act : Act}

/-! ## Updates -/

theorem length_nullify (ref : OpRef) (ops : List (Option OpRef)) :
    (nullify ref ops).length = ops.length := by
  induction ops with
  | nil => rfl
  | cons p ops ih =>
    unfold nullify
    split
    · rfl
    · rw [List.length_cons, List.length_cons, ih]

/-- No list grows. -/
structure Shrinks (s t : Client) : Prop where
  count : ∀ type, t.opCount type ≤ s.opCount type
  ops : t.ops.length ≤ s.ops.length

theorem Shrinks.refl (s : Client) : Shrinks s s := ⟨fun _ => Nat.le_refl _, Nat.le_refl _⟩

theorem Shrinks.trans (h : Shrinks s t) (h' : Shrinks t u) : Shrinks s u where
  count := fun type => Nat.le_trans (h'.count type) (h.count type)
  ops := Nat.le_trans h'.ops h.ops

/-- A step that changes neither the lengths of the lists nor `m_ops`. -/
theorem Shrinks.of_eq (hcount : ∀ type, t.opCount type = s.opCount type) (hops : t.ops = s.ops) :
    Shrinks s t where
  count := fun type => Nat.le_of_eq (hcount type)
  ops := Nat.le_of_eq (congrArg List.length hops)

/-- A pointer becomes null. -/
theorem Shrinks.of_nullify {ref : OpRef} (hops : t.ops = nullify ref s.ops)
    (hcount : ∀ type, t.opCount type = s.opCount type) : Shrinks s t where
  count := fun type => Nat.le_of_eq (hcount type)
  ops := Nat.le_of_eq (by rw [hops, length_nullify])

theorem Shrinks.timerFree (timer : Option Nat) (s : Client) : Shrinks s (s.timerFree timer) := by
  refine .of_eq (fun type => ?_) ?_ <;> cases timer <;> rfl

theorem Shrinks.releasePacketId (id : Nat) (s : Client) : Shrinks s (s.releasePacketId id) := by
  unfold Client.releasePacketId
  split
  · exact .refl s
  · split <;> exact .of_eq (fun type => by cases type <;> rfl) rfl

/-- One list gets shorter. -/
theorem Shrinks.of_list (type : OpType) (hops : t.ops = s.ops)
    (hcount : t.opCount type ≤ s.opCount type)
    (hsame : ∀ type', type' = type ∨ t.opCount type' = s.opCount type') : Shrinks s t where
  count := fun type' => by
    rcases hsame type' with rfl | h
    · exact hcount
    · exact Nat.le_of_eq h
  ops := Nat.le_of_eq (congrArg List.length hops)

theorem Shrinks.eraseRef (ref : OpRef) (s : Client) : Shrinks s (Mqtt5.eraseRef ref s) := by
  have hnone : Shrinks s (s.fault (.assertFailed .eraseFromList)) := .of_eq (fun _ => rfl) rfl
  unfold Mqtt5.eraseRef
  -- the list of the type gets shorter, the others stay
  cases ref.type with
  | connect =>
    dsimp only
    unfold eraseConnectOp
    split
    · exact hnone
    · refine Shrinks.trans ?_ (.timerFree _ _)
      exact .of_list .connect rfl List.length_eraseP_le fun type => by cases type <;> simp [opCount]
  | keepAlive =>
    dsimp only
    unfold eraseKeepAliveOp
    split
    · exact hnone
    · refine Shrinks.trans (Shrinks.trans (Shrinks.trans ?_ (.timerFree _ _)) (.timerFree _ _))
        (.timerFree _ _)
      exact .of_list .keepAlive rfl List.length_eraseP_le fun type => by
        cases type <;> simp [opCount]
  | disconnect =>
    dsimp only
    unfold eraseDisconnectOp
    split
    · exact hnone
    · exact .of_list .disconnect rfl List.length_eraseP_le fun type => by
        cases type <;> simp [opCount]
  | subscribe =>
    dsimp only
    unfold eraseSubscribeOp
    split
    · exact hnone
    · refine Shrinks.trans (Shrinks.trans ?_ (.releasePacketId _ _)) (.timerFree _ _)
      exact .of_list .subscribe rfl List.length_eraseP_le fun type => by
        cases type <;> simp [opCount]
  | unsubscribe =>
    dsimp only
    unfold eraseUnsubscribeOp
    split
    · exact hnone
    · refine Shrinks.trans (Shrinks.trans ?_ (.releasePacketId _ _)) (.timerFree _ _)
      exact .of_list .unsubscribe rfl List.length_eraseP_le fun type => by
        cases type <;> simp [opCount]
  | recv =>
    dsimp only
    unfold eraseRecvOp
    split
    · exact hnone
    · refine Shrinks.trans ?_ (.timerFree _ _)
      exact .of_list .recv rfl List.length_eraseP_le fun type => by cases type <;> simp [opCount]
  | send => exact .refl s
  | reauth =>
    dsimp only
    unfold eraseReauthOp
    split
    · exact hnone
    · refine Shrinks.trans ?_ (.timerFree _ _)
      exact .of_list .reauth rfl List.length_eraseP_le fun type => by cases type <;> simp [opCount]

theorem Shrinks.fault (f : Fault) : Shrinks s (s.fault f) := .of_eq (fun _ => rfl) rfl

/-- An operation that is not a publish is completed. -/
theorem Shrinks.completeRef (ref : OpRef) : Shrinks s (s.completeRef ref) := by
  rw [completeRef_eq]
  split
  · exact .refl s
  · unfold opCompleteWith unregisterOp
    by_cases hmem : some ref ∈ s.ops
    · rw [if_pos hmem]
      exact Shrinks.trans (.of_nullify rfl fun type => by cases type <;> rfl) (.eraseRef ref _)
    · rw [if_neg hmem]
      exact .fault _

/-- A publish is completed. -/
theorem Shrinks.destroySendOp (op : SendOp) : Shrinks s (s.destroySendOp op) := by
  have hrelease : Shrinks s (s.releaseSendOp op) := .of_nullify rfl fun type => by cases type <;> rfl
  refine hrelease.trans ?_
  unfold Client.destroySendOp eraseSendOp
  refine Shrinks.trans (Shrinks.trans ?_ (.releasePacketId _ _)) (.timerFree _ _)
  refine .of_list .send rfl List.length_eraseP_le fun type => ?_
  cases type <;> first | exact Or.inl rfl | exact Or.inr rfl

theorem length_modifyFirst {α : Type} (p : α → Bool) (f : α → α) (l : List α) :
    (modifyFirst p f l).length = l.length := by
  induction l with
  | nil => rfl
  | cons x l ih =>
    unfold modifyFirst
    split
    · rfl
    · rw [List.length_cons, List.length_cons, ih]

theorem SameOps.opCount (h : SameOps s t) (type : OpType) : t.opCount type = s.opCount type := by
  cases type
  · exact congrArg List.length h.connectOps
  · exact congrArg List.length h.keepAliveOps
  · exact congrArg List.length h.disconnectOps
  · exact congrArg List.length h.subscribeOps
  · exact congrArg List.length h.unsubscribeOps
  · exact congrArg List.length h.recvOps
  · exact congrArg List.length h.sendOps
  · exact congrArg List.length h.reauthOps

/-- An update that creates nothing lets no list grow. -/
theorem Prim.shrinks (h : Prim act s t) (ha : act.creates = false) : Shrinks s t := by
  cases hplain : act.plain with
  | true => exact .of_eq (h.sameOps hplain).opCount (h.sameOps hplain).ops
  | false =>
    have halloc : ∀ env, Shrinks s (s.allocPacketId env).1 := by
      intro env
      unfold allocPacketId
      dsimp only
      split <;> exact .of_eq (fun _ => rfl) rfl
    cases h with
    | setConnect | markConnect | setDisconnect | markDisconnect | setSubscribe | markSubscribe
        | setUnsubscribe | markUnsubscribe | setReauth | markReauth | setSend | markSend | publish
        | setRecv =>
      refine .of_eq (fun type => ?_) rfl
      cases type <;> first | rfl | exact length_modifyFirst _ _ _ | exact List.length_map _
    | takeSubscribe env op hop =>
      refine (halloc env).trans (.of_eq (fun type => ?_) rfl)
      cases type <;> first | rfl | exact length_modifyFirst _ _ _
    | takeUnsubscribe env op hop =>
      refine (halloc env).trans (.of_eq (fun type => ?_) rfl)
      cases type <;> first | rfl | exact length_modifyFirst _ _ _
    | takeSend env op x hop hx =>
      refine (halloc env).trans (.of_eq (fun type => ?_) rfl)
      cases type <;> first | rfl | exact List.length_map _
    | complete ref => exact .completeRef ref
    | completeSend op => exact .destroySendOp op
    | clean =>
      unfold cleanOps
      split
      · exact ⟨fun _ => Nat.le_refl _, List.length_filter_le _ _⟩
      · exact .refl s
    | _ => first | (cases ha; done) | cases hplain

theorem Uncreated.shrinks (h : Uncreated s t) : Shrinks s t :=
  h.invariant (fun hp ha hs => hs.trans (hp.shrinks ha)) (.refl s)

/-- An operation of a type is created. -/
structure Grows (type : OpType) (s t : Client) : Prop where
  count : ∀ type', t.opCount type' ≤ s.opCount type' + if type' = type then 1 else 0
  ops : t.ops.length ≤ s.ops.length + 1

/-- A list and `m_ops` get one more element. -/
theorem Grows.of_append {type : OpType} {ref : OpRef} (hops : t.ops = s.ops ++ [some ref])
    (hcount : t.opCount type = s.opCount type + 1)
    (hsame : ∀ type', type' ≠ type → t.opCount type' = s.opCount type') : Grows type s t where
  count := fun type' => by
    split
    · rename_i h
      exact h ▸ Nat.le_of_eq hcount
    · rename_i h
      exact Nat.le_of_eq (hsame type' h)
  ops := Nat.le_of_eq (by rw [hops, List.length_append, List.length_singleton])

theorem Prim.grows {type : OpType} (h : Prim (.create type) s t) : Grows type s t := by
  cases h with
  | createConnect env =>
    refine .of_append rfl (List.length_append ..) fun type hne => ?_
    cases type <;> first | rfl | exact absurd rfl hne
  | createDisconnect =>
    refine .of_append rfl (List.length_append ..) fun type hne => ?_
    cases type <;> first | rfl | exact absurd rfl hne
  | createSubscribe env =>
    refine .of_append rfl (List.length_append ..) fun type hne => ?_
    cases type <;> first | rfl | exact absurd rfl hne
  | createUnsubscribe env =>
    refine .of_append rfl (List.length_append ..) fun type hne => ?_
    cases type <;> first | rfl | exact absurd rfl hne
  | createReauth env =>
    refine .of_append rfl (List.length_append ..) fun type hne => ?_
    cases type <;> first | rfl | exact absurd rfl hne
  -- here the timer may fail an assertion before the push
  | createSend env =>
    have hsame := SameOps.timerAlloc env s (s.timerAlloc env).2.isSome
    refine .of_append (congrArg (· ++ [_]) hsame.ops)
      ((List.length_append ..).trans (congrArg (· + 1) (hsame.opCount .send))) fun type hne => ?_
    refine Eq.trans ?_ (hsame.opCount type)
    cases type <;> first | rfl | exact absurd rfl hne
  | createRecv env =>
    have hsame := SameOps.timerAlloc env s (s.timerAlloc env).2.isSome
    refine .of_append (congrArg (· ++ [_]) hsame.ops)
      ((List.length_append ..).trans (congrArg (· + 1) (hsame.opCount .recv))) fun type hne => ?_
    refine Eq.trans ?_ (hsame.opCount type)
    cases type <;> first | rfl | exact absurd rfl hne
  | createKeepAlive env hnil =>
    rcases createKeepAliveOpIfNeeded_cases env hnil with heq | ⟨c, m, op, hid, heq⟩
    · rw [heq]
      exact ⟨fun _ => Nat.le_add_right _ _, Nat.le_succ _⟩
    · have hsame := SameOps.assert s .timer c
      rw [heq]
      refine .of_append rfl ?_ fun type hne => ?_
      · show 1 = s.keepAliveOps.length + 1
        rw [hnil]
        rfl
      · refine Eq.trans ?_ (hsame.opCount type)
        cases type <;> first | rfl | exact absurd rfl hne

/-! ## Steps -/

theorem opsLimit_pos {cfg : Config} (h : cfg.hasOpsLimit = true) : 0 < cfg.opsLimit := by
  unfold Config.opsLimit
  rw [if_pos h]
  unfold Config.hasOpsLimit at h
  simp only [Bool.and_eq_true, decide_eq_true_eq] at h
  omega

theorem lt_of_isFull {limit size : Nat} (hpos : 0 < limit) (h : isFull limit size = false) :
    size < limit := by
  unfold isFull at h
  simp only [Bool.and_eq_false_iff, bne_eq_false_iff_eq, decide_eq_false_iff_not] at h
  omega

/-- The prepare functions ask for room themselves; where a message opens an operation there has to be some. -/
theorem step_capacity (hcfg : env.cfg.hasOpsLimit = true) (hw : SysWf sys)
    (hstep : sys.step env l = some sys')
    (hroom : sys.recv env l = .begins → sys.client.ops.length < env.cfg.opsLimit)
    (h : sys.client.ops.length ≤ env.cfg.opsLimit) : sys'.client.ops.length ≤ env.cfg.opsLimit := by
  cases step_creates hw hstep with
  | nothing ht => exact Nat.le_trans ht.shrinks.ops h
  | prepared type u _ hslot hops hu ht =>
    have hlt : sys.client.ops.length < env.cfg.opsLimit := lt_of_isFull (opsLimit_pos hcfg) hops
    exact Nat.le_trans (Nat.le_trans (ht.shrinks rfl).ops hu.grows.ops) hlt
  | begun type u v hrecv hu hslot hv ht =>
    -- what is completed before the creation leaves its null pointer
    have hlt : u.ops.length < env.cfg.opsLimit := Nat.lt_of_le_of_lt hu.shrinks.ops (hroom hrecv)
    exact Nat.le_trans (Nat.le_trans ht.shrinks.ops hv.grows.ops) hlt

/-! ## The operations a call opens -/

/-- The ledger of a call: the entries `m_ops` had when the call began, and one for each message of the call
that has opened an operation since, a PUBLISH its reception or an accepted CONNACK the keep alive. -/
def Sys.ledger (env : Env) (n : Nat) (sys : Sys) : Label → Nat
  | .call _ => sys.client.ops.length
  | .run => if sys.recv env .run = .begins then n + 1 else n

/-- The runs of the client, each with the ledger of the call it is in. -/
def ledgerRuns (env : Env) : Machine (Sys × Nat) Label := (machine env).track 0 (Sys.ledger env)

/-- A message that opens an operation finds fewer entries in the ledger than `m_ops` has room for. -/
def LeavesRoom (env : Env) (p : Sys × Nat) (l : Label) : Prop :=
  p.1.recv env l = .begins → p.2 < env.cfg.opsLimit

instance (env : Env) (p : Sys × Nat) (l : Label) : Decidable (LeavesRoom env p l) :=
  inferInstanceAs (Decidable (_ → _))

/-- The call is given data that was not looked at yet. -/
def Sys.reads (sys : Sys) : Prop := ∃ frames, .input frames ∈ sys.pending ∨ .frames frames ∈ sys.pending

/-- A message opens an operation in a call that reads. -/
theorem Sys.reads_of_begins (hstep : sys.step env l = some sys') (h : sys.recv env l = .begins) :
    sys.reads := by
  unfold Sys.recv at h
  split at h
  · rename_i msg hin
    obtain ⟨rest, -, hhead, -⟩ := inMsg_step hstep hin
    exact ⟨rest, Or.inr (List.mem_of_head? hhead)⟩
  · cases h

/-- Only `processData` begins to read, and it does nothing else at first. -/
theorem call_reads {api : Api} (h : (⟨(s.call env api).1, (s.call env api).2⟩ : Sys).reads) :
    (s.call env api).1 = s := by
  obtain ⟨frames, hmem | hmem⟩ := h
  · cases call_leaves hmem with
    | input => rfl
  · cases call_leaves hmem

/-- Reading goes on in a call that reads. -/
theorem runTask_reads {task : Task} {rest : List Task}
    (h : (⟨(s.runTask env task).1, (s.runTask env task).2 ++ rest⟩ : Sys).reads) :
    (⟨s, task :: rest⟩ : Sys).reads := by
  have hrest : ∀ {t}, t ∈ rest → t ∈ task :: rest := List.mem_cons_of_mem _
  obtain ⟨frames, hmem | hmem⟩ := h
  · rcases List.mem_append.mp hmem with hmem | hmem
    · exact absurd hmem runTask_input
    · exact ⟨frames, Or.inl (hrest hmem)⟩
  · rcases List.mem_append.mp hmem with hmem | hmem
    · rcases runTask_late hmem rfl with ⟨op, heq⟩ | ⟨heq, -⟩ | ⟨frames', -, ⟨fs, heq⟩ | ⟨⟨fs, heq⟩, -⟩⟩
      · cases heq
      · cases heq
      · exact ⟨fs, Or.inr (heq ▸ List.mem_cons_self)⟩
      · exact ⟨fs, Or.inl (heq ▸ List.mem_cons_self)⟩
    · exact ⟨frames, Or.inr (hrest hmem)⟩

/-- CONNECT is not prepared in a call that reads. -/
theorem SysWf.not_reads (hw : SysWf sys) (hk : sys.keepsLock .run = false) : ¬sys.reads := by
  have hhead : sys.pending.head? = some .connectPrepare := by simpa [Sys.keepsLock] using hk
  obtain ⟨client, pending⟩ := sys
  cases pending with
  | nil => cases hhead
  | cons task rest =>
    obtain rfl : task = .connectPrepare := Option.some.inj hhead
    cases hw.pending.shape.front with
    | entry es htask hes hbody => cases htask
    | body hbody => cases hbody
    | rest hrest =>
      cases hrest
      rintro ⟨frames, hmem | hmem⟩ <;> simp at hmem

/-- In a call that reads, `m_ops` has no more entries than the ledger. -/
theorem step_ledger (hw : SysWf sys) (hstep : sys.step env l = some sys') {n : Nat}
    (h : sys.reads → sys.client.ops.length ≤ n) (hreads : sys'.reads) :
    sys'.client.ops.length ≤ sys.ledger env n l := by
  cases l with
  | call api =>
    obtain ⟨-, -, rfl⟩ := call_step hstep
    rw [call_reads hreads]
    exact Nat.le_refl _
  | run =>
    have hbefore : sys.reads := by
      obtain ⟨task, rest, hpending, rfl⟩ := run_step hstep
      have := runTask_reads hreads
      rwa [← hpending] at this
    have hle := h hbefore
    unfold Sys.ledger
    cases step_creates hw hstep with
    | nothing ht =>
      have := ht.shrinks.ops
      dsimp only
      split <;> omega
    | prepared type u hk => exact absurd hbefore (hw.not_reads hk)
    | begun type u v hrecv hu hslot hv ht =>
      have h₁ := hu.shrinks.ops
      have h₂ := hv.grows.ops
      have h₃ := ht.shrinks.ops
      rw [if_pos hrecv]
      show sys'.client.ops.length ≤ n + 1
      omega

/-- The capacity and the ledger together are kept. -/
theorem reach_ledger (hcfg : env.cfg.hasOpsLimit = true) {p : Sys × Nat}
    (h : (ledgerRuns env).Reach (LeavesRoom env) p) :
    p.1.client.ops.length ≤ env.cfg.opsLimit ∧ (p.1.reads → p.1.client.ops.length ≤ p.2) := by
  have hinit : ∀ p, (ledgerRuns env).init p →
      p.1.client.ops.length ≤ env.cfg.opsLimit ∧ (p.1.reads → p.1.client.ops.length ≤ p.2) := by
    rintro ⟨sys, n⟩ ⟨⟨cbs, config, rfl⟩, rfl⟩
    exact ⟨Nat.zero_le _, fun _ => Nat.zero_le _⟩
  refine h.invariant hinit fun p l q hs hinv hroom hstep => ?_
  obtain ⟨hstep, hledger⟩ := Machine.track_step.mp hstep
  have hw : SysWf p.1 := reach_wf hs.forget
  refine ⟨step_capacity hcfg hw hstep (fun hrecv => ?_) hinv.1, fun hreads => ?_⟩
  · exact Nat.lt_of_le_of_lt (hinv.2 (Sys.reads_of_begins hstep hrecv)) (hroom hrecv)
  · rw [hledger]
    exact step_ledger hw hstep hinv.2 hreads

/-! ## The capacity -/

/-- In every run in which the messages of a call open no more operations than `m_ops` had room for when the
call began, `m_ops` keeps to its capacity. -/
theorem ops_capacity_kept (hcfg : env.cfg.hasOpsLimit = true) {p : Sys × Nat}
    (h : (ledgerRuns env).Reach (LeavesRoom env) p) :
    p.1.client.ops.length ≤ env.cfg.opsLimit :=
  (reach_ledger hcfg h).1

/-- A connection, and one buffer with some messages of QoS 0. -/
def publishBurst (count steps : Nat) : List (Api × Nat) :=
  connectCalls true {} { sessionPresent := false, reasonCode := ReasonCode.success } ++
    [(.processData 0 (List.replicate count (.complete (.publish
      { topic := ['t'], qos := some .atMostOnceDelivery, dup := false, retain := false,
        packetId := none, props := [], payload := [] }) 10)), steps)]

/-- Nine messages in one buffer fill `m_ops`. -/
theorem ops_capacity_kept_full : ∃ p, (ledgerRuns .static).Reach (LeavesRoom .static) p ∧
    p.1.client.ops.length = 10 ∧ p.1.client.ops.length ≤ Env.static.cfg.opsLimit := by
  have hinit : (ledgerRuns .static).init (Sys.fresh, 0) := ⟨⟨{}, {}, rfl⟩, rfl⟩
  have hok : ∀ p l, decide (LeavesRoom .static p l) = true → LeavesRoom .static p l :=
    fun _ _ => of_decide_eq_true
  obtain ⟨p, hreach, hp⟩ := Machine.exists_reach_of_exec
    (p := fun p : Sys × Nat => decide (p.1.client.ops.length = 10)) hok hinit
    (show ((ledgerRuns .static).exec _ (Sys.fresh, 0) (script (publishBurst 9 11))).any _ = true
      by decide +kernel)
  exact ⟨p, hreach, of_decide_eq_true hp, ops_capacity_kept (by decide) hreach⟩

/-- The tenth one is stored beyond the capacity. -/
theorem ops_capacity_exceeded : ∃ sys, (machine .static).Reach (fun _ _ => True) sys ∧
    Env.static.cfg.hasOpsLimit = true ∧ Env.static.cfg.opsLimit < sys.client.ops.length := by
  obtain ⟨sys, hreach, hp⟩ := exists_reach_fresh .static (publishBurst 10 12)
    (fun sys => Env.static.cfg.opsLimit < sys.client.ops.length) (by decide +kernel)
  exact ⟨sys, hreach, by decide, hp⟩

end Mqtt5
