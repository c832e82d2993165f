import Mqtt5Client.OpRegistry

/-!
# Mqtt5Client — the in-flight counter

`m_inFlightSends` lives in `ClientState` and survives the sessions, while the publishes it counts come
and go with sends, completions that resume others, timeouts, cancellations and reconnections. The
elementary updates are the right grain to follow it: the counter and the flag of a publish change in one
update, and every callback is an update of its own. So the counter is exact after every update, in
particular wherever the application is called, which the bookkeeping field `counts` records.
-/

namespace Mqtt5

open Client

variable {env : Env} {act : Act} {s t : Client} {sys sys' : Sys} {l : Label}

/-! ## What the counter depends on -/

/-- The counter and what it counts. -/
def Client.flight (s : Client) : Nat × Nat := (s.clientState.inFlightSends, s.publishedCount)

/-- A failed assertion does not count. -/
theorem flight_assert (s : Client) (site : Site) (c : Bool) : (s.assert site c).flight = s.flight := by
  unfold Client.assert
  split <;> rfl

/-- A packet identifier is not counted. -/
theorem flight_releasePacketId (s : Client) (id : Nat) :
    (s.releasePacketId id).flight = s.flight := by
  unfold releasePacketId
  split
  · rfl
  · split <;> rfl

theorem flight_timerFree (s : Client) (timer : Option Nat) : (s.timerFree timer).flight = s.flight := by
  rw [timerFree_eq]
  rfl

theorem flight_allocPacketId (env : Env) (s : Client) : (s.allocPacketId env).1.flight = s.flight := by
  unfold allocPacketId
  dsimp only
  split <;> rfl

/-- The destruction of an operation that is no publish. -/
theorem flight_eraseRef (ref : OpRef) (s : Client) : (eraseRef ref s).flight = s.flight := by
  obtain ⟨type, id⟩ := ref
  unfold eraseRef
  cases type with
  | connect =>
    show (s.eraseConnectOp id).flight = s.flight
    unfold eraseConnectOp
    split
    · rfl
    · exact flight_timerFree _ _
  | keepAlive =>
    show (s.eraseKeepAliveOp id).flight = s.flight
    unfold eraseKeepAliveOp
    split
    · rfl
    · rw [flight_timerFree, flight_timerFree, flight_timerFree]
      rfl
  | disconnect =>
    show (s.eraseDisconnectOp id).flight = s.flight
    unfold eraseDisconnectOp
    split <;> rfl
  | subscribe =>
    show (s.eraseSubscribeOp id).flight = s.flight
    unfold eraseSubscribeOp
    split
    · rfl
    · rw [flight_timerFree, flight_releasePacketId]
      rfl
  | unsubscribe =>
    show (s.eraseUnsubscribeOp id).flight = s.flight
    unfold eraseUnsubscribeOp
    split
    · rfl
    · rw [flight_timerFree, flight_releasePacketId]
      rfl
  | recv =>
    show (s.eraseRecvOp id).flight = s.flight
    unfold eraseRecvOp
    split
    · rfl
    · exact flight_timerFree _ _
  | send => rfl
  | reauth =>
    show (s.eraseReauthOp id).flight = s.flight
    unfold eraseReauthOp
    split
    · rfl
    · exact flight_timerFree _ _

/-- Nor is an operation of another type. -/
theorem flight_completeRef (ref : OpRef) (s : Client) : (s.completeRef ref).flight = s.flight := by
  rcases completeRef_cases ref s with heq | heq | ⟨-, heq⟩
  · rw [heq]
  · rw [heq]
    rfl
  · rw [heq, flight_eraseRef]
    rfl

/-! ## An update keeps the counter exact -/

/-- The counter is the number of published publishes. -/
def Client.Counted (s : Client) : Prop := s.clientState.inFlightSends = s.publishedCount

/-- The counter depends on the publishes. -/
theorem Client.Counted.congr (h : t.flight = s.flight) (hs : s.Counted) : t.Counted := by
  have hn : t.clientState.inFlightSends = s.clientState.inFlightSends := congrArg Prod.fst h
  have hp : t.publishedCount = s.publishedCount := congrArg Prod.snd h
  unfold Client.Counted at hs ⊢
  omega

/-- A change of publishes that leaves the flag. -/
theorem publishedCount_modify {id : OpId} {f : SendOp → SendOp}
    (hf : ∀ op ∈ s.sendOps, op.id = id → (f op).published = op.published) :
    (s.modifySendOp id f).publishedCount = s.publishedCount := by
  show (s.sendOps.map _).countP _ = s.sendOps.countP _
  rw [List.countP_map]
  refine List.countP_congr fun op hop => ?_
  show (if op.id == id then f op else op).published = true ↔ op.published = true
  split
  · rename_i hid
    rw [hf op hop (beq_iff_eq.mp hid)]
  · rfl

/-- The first transmission: the publish is marked and counted. -/
theorem publishedCount_markPublished {op : SendOp} (hd : Keyed.Distinct SendOp.id s.sendOps)
    (hop : op ∈ s.sendOps) (hpub : op.published = false) :
    (s.markPublished op.id).publishedCount = s.publishedCount + 1 := by
  have hset : (s.markPublished op.id).sendOps =
      Keyed.set SendOp.id { op with published := true, sendAttempts := 1 } s.sendOps :=
    hd.map_eq_set hop (f := ({ · with published := true, sendAttempts := 1 })) rfl
  have hcount := hd.countP_set hop (x := { op with published := true, sendAttempts := 1 }) rfl
    (·.published)
  rw [hpub] at hcount
  simp only [Bool.false_eq_true, ↓reduceIte, Nat.add_zero] at hcount
  unfold publishedCount
  rw [hset]
  exact hcount

/-- The end of a publish: it is no longer counted. -/
theorem flight_destroySendOp (op : SendOp) (s : Client) :
    (s.destroySendOp op).flight =
      (if op.published then decU32 s.clientState.inFlightSends else s.clientState.inFlightSends,
        (Keyed.erase SendOp.id op.id s.sendOps).countP (·.published)) := by
  unfold destroySendOp eraseSendOp
  rw [flight_timerFree, flight_releasePacketId]
  rfl

/-- The counter changes with the publishes that are in flight. -/
theorem Prim.counted (h : Prim act s t) (ha : act ≠ .stray) (hr : Registered s) (hs : s.Counted) :
    t.Counted := by
  have hd : Keyed.Distinct SendOp.id s.sendOps := hr.nodup .send
  cases h with
  | publish op hop hpub =>
    have hcount := publishedCount_markPublished hd hop hpub
    have hn : (s.markPublished op.id).clientState.inFlightSends = s.clientState.inFlightSends + 1 := rfl
    unfold Client.Counted at hs ⊢
    omega
  | completeSend op hop href =>
    -- the counter goes down with the publish it counts
    have hflight := flight_destroySendOp op s
    have hcount := Keyed.countP_erase hop hd (·.published)
    have hn := congrArg Prod.fst hflight
    have hp := congrArg Prod.snd hflight
    unfold Client.Counted at hs ⊢
    show (s.destroySendOp op).flight.1 = (s.destroySendOp op).flight.2
    rw [hn, hp]
    unfold publishedCount at hs
    cases hpub : op.published with
    | false =>
      rw [hpub] at hcount
      simp only [Bool.false_eq_true, ↓reduceIte] at hcount ⊢
      omega
    | true =>
      rw [hpub] at hcount
      simp only [↓reduceIte] at hcount ⊢
      have hdec : decU32 s.clientState.inFlightSends = s.clientState.inFlightSends - 1 := by
        unfold decU32
        rw [if_neg (by omega)]
      omega
  | setSend id f hf =>
    exact hs.trans (publishedCount_modify fun op hop hid => (hf op hop hid).published).symm
  | markSend op hop =>
    refine hs.trans (publishedCount_modify fun x hx hid => ?_).symm
    rw [hd.eq hx hop hid]
  | takeSend env op x hop hx =>
    have hops : (s.allocPacketId env).1.sendOps = s.sendOps := by rw [allocPacketId_same]
    refine (hs.congr (flight_allocPacketId env s)).trans (publishedCount_modify fun y hy hid => ?_).symm
    rw [hops] at hy
    rw [hd.eq hy hop (hid.trans hx.id)]
    exact hx.published
  | createSend env h =>
    have hflight : ((s.timerAlloc env).1.assert .timer (s.timerAlloc env).2.isSome).flight = s.flight := by
      rw [flight_assert]
      rfl
    have hcounted := hs.congr hflight
    refine hcounted.trans ?_
    -- the new publish is not published
    show _ = List.countP _ (_ ++ [_])
    rw [List.countP_append]
    rfl
  | complete ref => exact hs.congr (flight_completeRef ref s)
  | takeSubscribe env op hop => exact hs.congr (flight_allocPacketId env s)
  | takeUnsubscribe env op hop => exact hs.congr (flight_allocPacketId env s)
  | probe env => exact hs.congr (flight_assert (s.timerAlloc env).1 .timer _)
  | createRecv env => exact hs.congr (flight_assert (s.timerAlloc env).1 .timer _)
  | unlock => exact hs.congr (flight_assert s .allowNextPrepare _)
  | createKeepAlive env hnil =>
    rcases createKeepAliveOpIfNeeded_cases env hnil with heq | ⟨c, m, op, -, heq⟩
    · rw [heq]
      exact hs
    · rw [heq]
      exact hs.congr (flight_assert s .timer c)
  | clean =>
    unfold cleanOps
    split <;> exact hs
  | strayCount | strayMiss | strayArm => exact absurd rfl ha
  | _ => exact hs

/-! ## The callbacks -/

/-- The new entries of the log come with the counter and what it counts, before the update or behind
it. -/
def Noted (s t : Client) : Prop :=
  ∃ (events : List Event) (pairs : List (Nat × Nat)), t.log = s.log ++ events ∧
    t.counts = s.counts ++ pairs ∧ pairs.length = events.length ∧
    ∀ c ∈ pairs, c = s.flight ∨ c = t.flight

/-- No event, nothing to note. -/
theorem Noted.of_eq (hlog : t.log = s.log) (hcounts : t.counts = s.counts) : Noted s t :=
  ⟨[], [], by rw [hlog, List.append_nil], by rw [hcounts, List.append_nil], rfl, nofun⟩

/-- One entry. -/
theorem Noted.of_emit {e : Event} {c : Nat × Nat} (hlog : t.log = s.log ++ [e])
    (hcounts : t.counts = s.counts ++ [c]) (hc : c = s.flight ∨ c = t.flight) : Noted s t := by
  refine ⟨[e], [c], hlog, hcounts, rfl, fun c' hc' => ?_⟩
  rw [List.mem_singleton.mp hc']
  exact hc

theorem noted_assert (s : Client) (site : Site) (c : Bool) :
    (s.assert site c).log = s.log ∧ (s.assert site c).counts = s.counts := by
  unfold Client.assert
  split <;> exact ⟨rfl, rfl⟩

theorem noted_releasePacketId (s : Client) (id : Nat) :
    (s.releasePacketId id).log = s.log ∧ (s.releasePacketId id).counts = s.counts := by
  rw [releasePacketId_eq]
  exact ⟨rfl, rfl⟩

/-- A completion writes no event. -/
theorem noted_completeRef (ref : OpRef) (s : Client) : Noted s (s.completeRef ref) := by
  refine .of_eq (log_completeRef ref s) ?_
  rcases completeRef_cases ref s with heq | heq | ⟨-, heq⟩
  · rw [heq]
  · rw [heq]
    rfl
  · rw [heq, eraseRef_eq]

/-- The allocation of a packet identifier may log an error. -/
theorem noted_allocPacketId (env : Env) (s : Client) :
    (s.allocPacketId env).1.log = s.log ∧ (s.allocPacketId env).1.counts = s.counts ∨
      ∃ e, (s.allocPacketId env).1.log = s.log ++ [e] ∧
        (s.allocPacketId env).1.counts = s.counts ++ [s.flight] := by
  unfold allocPacketId
  dsimp only
  split
  · exact Or.inr ⟨_, rfl, rfl⟩
  · exact Or.inl ⟨rfl, rfl⟩

/-- Every event is noted with the number of publishes at that moment. -/
theorem Prim.noted (h : Prim act s t) : Noted s t := by
  -- the operation takes the identifier behind the allocation
  have htake : ∀ (env : Env) (u : Client), u.log = (s.allocPacketId env).1.log →
      u.counts = (s.allocPacketId env).1.counts → Noted s u := by
    intro env u hlog hcounts
    rcases noted_allocPacketId env s with ⟨hl, hc⟩ | ⟨e, hl, hc⟩
    · exact .of_eq (hlog.trans hl) (hcounts.trans hc)
    · exact .of_emit (hlog.trans hl) (hcounts.trans hc) (Or.inl rfl)
  cases h with
  | emit e => exact .of_emit rfl rfl (Or.inl rfl)
  | report info => exact .of_emit rfl rfl (Or.inl rfl)
  | completeSend op hop href =>
    have hflight := flight_destroySendOp op s
    refine .of_emit (e := .sendOpErased op.id) (c := (s.destroySendOp op).flight) ?_ ?_ (Or.inr rfl)
    · unfold destroySendOp eraseSendOp
      rw [timerFree_eq]
      exact (noted_releasePacketId _ _).1
    · rw [hflight]
      unfold destroySendOp eraseSendOp
      rw [timerFree_eq]
      exact (noted_releasePacketId _ _).2
  | takeSubscribe env op hop => exact htake env _ rfl rfl
  | takeUnsubscribe env op hop => exact htake env _ rfl rfl
  | takeSend env op x hop hx => exact htake env _ rfl rfl
  | complete ref => exact noted_completeRef ref s
  | probe env =>
    exact .of_eq (noted_assert (s.timerAlloc env).1 .timer _).1
      (noted_assert (s.timerAlloc env).1 .timer _).2
  | createSend env h =>
    exact .of_eq (noted_assert (s.timerAlloc env).1 .timer _).1
      (noted_assert (s.timerAlloc env).1 .timer _).2
  | createRecv env =>
    exact .of_eq (noted_assert (s.timerAlloc env).1 .timer _).1
      (noted_assert (s.timerAlloc env).1 .timer _).2
  | unlock =>
    exact .of_eq (noted_assert s .allowNextPrepare _).1 (noted_assert s .allowNextPrepare _).2
  | createKeepAlive env hnil =>
    rcases createKeepAliveOpIfNeeded_cases env hnil with heq | ⟨c, m, op, -, heq⟩
    · rw [heq]
      exact .of_eq rfl rfl
    · rw [heq]
      exact .of_eq (noted_assert s .timer c).1 (noted_assert s .timer c).2
  | clean =>
    unfold cleanOps
    split <;> exact .of_eq rfl rfl
  | _ => exact .of_eq rfl rfl

/-! ## The assertions -/

/-- The assertions about the counter and about the progress of a publish. -/
def Fault.isCounting : Fault → Bool
  | .assertFailed .doSendInternal | .assertFailed .opCompleteInternal | .assertFailed .send => true
  | _ => false

/-- No assertion about the counter fails. -/
theorem Prim.noCounting (h : Prim act s t) (hs : ∀ f ∈ s.faults, f.isCounting = false) :
    ∀ f ∈ t.faults, f.isCounting = false := by
  intro f hf
  rcases h.raises f hf with hf | hf | hf
  · exact hs f hf
  · unfold Fault.isCounting
    split
    · cases hf
    · cases hf
    · cases hf
    · rfl
  · -- none of them belongs to a compound update
    cases act <;> simp only [Act.raises, List.mem_cons, List.not_mem_nil, or_false] at hf
    case null => rw [hf]; rfl
    case unlock => rw [hf]; rfl
    case stray => rw [hf]; rfl
    case complete =>
      rcases hf with hf | hf | hf <;> rw [hf] <;> rfl

/-! ## In every run -/

/-- What holds of the counter between two calls and at every callback. -/
structure InFlight (s : Client) : Prop where
  counted : s.clientState.inFlightSends = s.publishedCount
  callbacks : s.counts.length = s.log.length
  handed : ∀ c ∈ s.counts, c.1 = c.2
  doSendInternal : .assertFailed .doSendInternal ∉ s.faults
  opCompleteInternal : .assertFailed .opCompleteInternal ∉ s.faults
  send : .assertFailed .send ∉ s.faults

/-- The invariant behind it. -/
structure FlightOk (s : Client) : Prop where
  counted : s.Counted
  callbacks : s.counts.length = s.log.length
  handed : ∀ c ∈ s.counts, c.1 = c.2
  noCounting : ∀ f ∈ s.faults, f.isCounting = false

/-- The invariant says what the counter is. -/
theorem FlightOk.inFlight (h : FlightOk s) : InFlight s := by
  have hnone : ∀ f : Fault, f.isCounting = true → f ∉ s.faults := by
    intro f hf hmem
    rw [h.noCounting f hmem] at hf
    cases hf
  exact ⟨h.counted, h.callbacks, h.handed, hnone _ rfl, hnone _ rfl, hnone _ rfl⟩

/-- An update keeps it. -/
theorem Prim.flightOk (h : Prim act s t) (ha : act ≠ .stray) (hr : Registered s) (hs : FlightOk s) :
    FlightOk t := by
  have hcounted := h.counted ha hr hs.counted
  obtain ⟨events, pairs, hlog, hcounts, hlen, hpairs⟩ := h.noted
  refine ⟨hcounted, ?_, ?_, h.noCounting hs.noCounting⟩
  · have hold := hs.callbacks
    rw [hlog, hcounts, List.length_append, List.length_append]
    omega
  · intro c hc
    rw [hcounts] at hc
    rcases List.mem_append.mp hc with hc | hc
    · exact hs.handed c hc
    · -- the application is called in a state where the counter is exact
      rcases hpairs c hc with heq | heq
      · rw [heq]
        exact hs.counted
      · rw [heq]
        exact hcounted

/-- And so does a step whose `send` does not carry on with a destroyed operation. -/
theorem step_flightOk (hw : SysWf sys) (hr : Registered sys.client)
    (hstep : sys.step env l = some sys') (hs : sys.strays l = false) (h : FlightOk sys.client) :
    FlightOk sys'.client := by
  have hinv : FlightOk sys'.client ∧ Registered sys'.client := by
    refine (step_acts_kept hw hstep hs).invariant (P := fun s => FlightOk s ∧ Registered s)
      (fun hp ha hs => ?_) ⟨h, hr⟩
    exact ⟨hp.flightOk (Act.ne_stray ha) hs.2 hs.1, hp.registered hs.2⟩
  exact hinv.1

/-- In the runs in which no `send` call carries on with an operation that its own API guard destroyed, the
counter is the number of published publishes in every state and at every callback on the way, and no
assertion about it has failed. -/
theorem inFlightSends_exact (h : (machine env).Reach (fun sys l => sys.strays l = false) sys) :
    InFlight sys.client := by
  have hinit : ∀ sys, (machine env).init sys → FlightOk sys.client := by
    rintro _ ⟨cbs, config, rfl⟩
    refine ⟨rfl, rfl, ?_, ?_⟩
    · intro c hc
      cases hc
    · intro f hf
      cases hf
  have hok : FlightOk sys.client := h.invariant hinit fun sys l sys' hs hinv hok hstep =>
    step_flightOk (reach_wf hs) (reach_registered hs) hstep hok hinv
  exact hok.inFlight

/-- A connection with a publish in flight. -/
theorem inFlightSends_exact_one :
    ∃ sys, (machine .dynamic).Reach (fun sys l => sys.strays l = false) sys ∧
      sys.client.clientState.inFlightSends = 1 ∧ InFlight sys.client := by
  obtain ⟨sys, hreach, hn⟩ := exists_reach_ok .dynamic (fun sys l => sys.strays l = false)
    (connectCalls true {} { sessionPresent := false, reasonCode := ReasonCode.success } ++
      publishCalls 2 .atLeastOnceDelivery 4)
    (fun sys => sys.client.clientState.inFlightSends = 1)
    (by decide +kernel)
  exact ⟨sys, hreach, hn, inFlightSends_exact hreach⟩

/-- A publish of QoS 1 whose own API guard ends the connection is counted and not there any more; no timer
ran a callback of an operation that was gone. -/
theorem inFlightSends_lost : ∃ sys, (machine .dynamic).Reach (fun _ _ => True) sys ∧
    sys.pending = [] ∧ .useAfterFree .tick ∉ sys.client.faults ∧
    sys.client.clientState.inFlightSends = 1 ∧ sys.client.publishedCount = 0 ∧
    ¬InFlight sys.client := by
  obtain ⟨sys, hreach, hpending, htick, hn, hcount⟩ := exists_reach_fresh .dynamic
    (lateSendCalls .atLeastOnceDelivery)
    (fun sys => sys.pending = [] ∧ .useAfterFree .tick ∉ sys.client.faults ∧
      sys.client.clientState.inFlightSends = 1 ∧ sys.client.publishedCount = 0) (by decide +kernel)
  refine ⟨sys, hreach, hpending, htick, hn, hcount, fun h => ?_⟩
  have hcounted := h.counted
  omega

end Mqtt5
