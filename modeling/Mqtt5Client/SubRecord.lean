import Mathlib.Data.Finset.Card
import Mathlib.Data.Finset.SDiff
import Mqtt5Client.Lib.Sorted
import Mqtt5Client.Limits

/-!
# Mqtt5Client — the record of subscriptions

The handlers of SUBACK and UNSUBACK update the sorted vector of filters one reason code after the other.
Where they complete the request, the vector has become what the codes say; where they fail behind a
change, the change stays. So the record is what a replay of the completed requests gives as long as the
answers are in order (`Orderly`).
-/

namespace Mqtt5

open Client

variable {env : Env} {a : Bool} {b : Scope} {act : Act} {s t u : Client} {sys sys' : Sys} {l : Label}
  {filters : List Str} {f : Str}

/-! ## The loops over the reason codes -/

/-- The topics whose reason code is below `UnspecifiedError`. -/
def confirmed (answers : List (ReasonCode × Str)) : List Str :=
  (answers.filter fun x => decide (x.1 < ReasonCode.unspecifiedError)).map (·.2)

/-- What a SUBACK says about the topics of the request. -/
def subAnswers (answers : List (ReasonCode × SubscribeTopic)) : List (ReasonCode × Str) :=
  answers.map fun x => (x.1, x.2.topic)

/-- The first answer and the others. -/
theorem mem_confirmed_cons {rc : ReasonCode} {topic : Str} {answers : List (ReasonCode × Str)} :
    f ∈ confirmed ((rc, topic) :: answers) ↔
      rc < ReasonCode.unspecifiedError ∧ f = topic ∨ f ∈ confirmed answers := by
  unfold confirmed
  rw [List.filter_cons]
  by_cases h : rc < ReasonCode.unspecifiedError
  · rw [if_pos (by simpa using h), List.map_cons, List.mem_cons]
    simp [h]
  · rw [if_neg (by simpa using h)]
    simp [h]

/-- The search finds what is recorded. -/
theorem hasFilter_iff (hl : Sorted.Strict id filters) : hasFilter filters f = true ↔ f ∈ filters := by
  have h : (∃ y, filters[Sorted.place id filters f]? = some y ∧ id y = f) ↔
      ∃ y ∈ filters, id y = f := Sorted.exists_place_iff hl
  unfold hasFilter
  rw [beq_iff_eq]
  constructor
  · intro hget
    obtain ⟨y, hy, rfl⟩ := h.mp ⟨f, hget, rfl⟩
    exact hy
  · intro hmem
    obtain ⟨y, hy, rfl⟩ := h.mpr ⟨f, hmem, rfl⟩
    exact hy

/-- A filter is inserted where the search for it ends. -/
theorem insertFilter_strict (hl : Sorted.Strict id filters) (hnew : f ∉ filters) :
    Sorted.Strict id (filters.insertIdx (filterIdx filters f) f) :=
  Sorted.insertIdx_strict hl fun y hy heq => hnew ((show y = f from heq) ▸ hy)

theorem mem_insertFilter {g : Str} :
    g ∈ filters.insertIdx (filterIdx filters f) f ↔ g = f ∨ g ∈ filters := Sorted.mem_insertIdx f

/-- A filter that is removed is gone, the others stay. -/
theorem mem_eraseFilter {g : Str} (hl : Sorted.Strict id filters) (hmem : f ∈ filters) :
    g ∈ filters.eraseIdx (filterIdx filters f) ↔ g ∈ filters ∧ g ≠ f :=
  Sorted.mem_eraseIdx hl hmem rfl

/-- The entries are taken one by one: an entry that is recorded or not confirmed changes nothing. -/
theorem subackCodes_strict (hl : Sorted.Strict id filters) (verify : Bool) (idx : Nat)
    (answers : List (ReasonCode × SubscribeTopic)) :
    Sorted.Strict id (subackCodes env verify idx answers filters).1 := by
  induction answers generalizing idx filters with
  | nil => exact hl
  | cons x answers ih =>
    obtain ⟨rc, topic⟩ := x
    unfold subackCodes
    split
    · exact hl
    · split
      · exact hl
      · split
        · exact ih hl _
        · rename_i hnew
          split
          · exact hl
          · refine ih (insertFilter_strict hl fun hmem => ?_) _
            rw [(hasFilter_iff hl).mpr hmem, Bool.or_true] at hnew
            exact hnew rfl

/-- A loop that does not fail records the confirmed topics. -/
theorem subackCodes_mem (hl : Sorted.Strict id filters) {idx : Nat}
    {answers : List (ReasonCode × SubscribeTopic)}
    (hnone : (subackCodes env true idx answers filters).2 = none) :
    f ∈ (subackCodes env true idx answers filters).1 ↔
      f ∈ filters ∨ f ∈ confirmed (subAnswers answers) := by
  induction answers generalizing idx filters with
  | nil =>
    show f ∈ filters ↔ f ∈ filters ∨ f ∈ []
    simp
  | cons x answers ih =>
    obtain ⟨rc, topic⟩ := x
    show _ ↔ f ∈ filters ∨ f ∈ confirmed ((rc, topic.topic) :: subAnswers answers)
    rw [mem_confirmed_cons]
    unfold subackCodes at hnone ⊢
    split
    · rename_i hfull
      rw [if_pos hfull] at hnone
      cases hnone
    · rename_i hfull
      rw [if_neg hfull] at hnone
      split
      · rename_i hqos
        rw [if_pos hqos] at hnone
        cases hnone
      · rename_i hqos
        rw [if_neg hqos] at hnone
        split
        · rename_i hskip
          rw [if_pos hskip] at hnone
          rw [ih hl hnone]
          -- what is skipped is refused, or it is recorded
          simp only [Bool.not_true, Bool.false_or, Bool.or_eq_true, decide_eq_true_eq] at hskip
          rcases hskip with hrefused | hmem
          · have hnot : ¬rc < ReasonCode.unspecifiedError := Nat.not_lt.mpr hrefused
            simp [hnot]
          · rw [hasFilter_iff hl] at hmem
            grind
        · rename_i hnew
          rw [if_neg hnew] at hnone
          have hnotmem : topic.topic ∉ filters := fun hmem => by
            rw [(hasFilter_iff hl).mpr hmem, Bool.or_true] at hnew
            exact hnew rfl
          have hrc : rc < ReasonCode.unspecifiedError := by
            simp only [Bool.not_true, Bool.false_or, Bool.or_eq_true, decide_eq_true_eq] at hnew
            exact Nat.lt_of_not_le fun hle => hnew (Or.inl hle)
          split
          · rename_i hspace
            rw [if_pos hspace] at hnone
            cases hnone
          · rename_i hspace
            rw [if_neg hspace] at hnone
            rw [ih (insertFilter_strict hl hnotmem) hnone, mem_insertFilter]
            grind

/-- The loop over an UNSUBACK keeps the record sorted. -/
theorem unsubackCodes_strict (hl : Sorted.Strict id filters) (idx : Nat)
    (answers : List (ReasonCode × Str)) :
    Sorted.Strict id (unsubackCodes env idx answers filters).1 := by
  induction answers generalizing idx filters with
  | nil => exact hl
  | cons x answers ih =>
    obtain ⟨rc, topic⟩ := x
    unfold unsubackCodes
    split
    · exact hl
    · split
      · exact ih (Sorted.eraseIdx_strict hl _) _
      · exact ih hl _

/-- A loop that does not fail removes the confirmed topics. -/
theorem unsubackCodes_mem (hcfg : env.cfg.hasSubTopicVerification = true)
    (hl : Sorted.Strict id filters) {idx : Nat} {answers : List (ReasonCode × Str)}
    (hnone : (unsubackCodes env idx answers filters).2 = none) :
    f ∈ (unsubackCodes env idx answers filters).1 ↔ f ∈ filters ∧ f ∉ confirmed answers := by
  induction answers generalizing idx filters with
  | nil =>
    show f ∈ filters ↔ f ∈ filters ∧ f ∉ []
    simp
  | cons x answers ih =>
    obtain ⟨rc, topic⟩ := x
    rw [mem_confirmed_cons]
    unfold unsubackCodes at hnone ⊢
    rw [hcfg, Bool.true_and] at hnone ⊢
    split
    · rename_i hfull
      rw [if_pos hfull] at hnone
      cases hnone
    · rename_i hfull
      rw [if_neg hfull] at hnone
      split
      · rename_i hfound
        rw [if_pos hfound] at hnone
        rw [Bool.and_eq_true, decide_eq_true_eq, hasFilter_iff hl] at hfound
        rw [ih (Sorted.eraseIdx_strict hl _) hnone, mem_eraseFilter hl hfound.2]
        grind
      · rename_i hskip
        rw [if_neg hskip] at hnone
        rw [Bool.and_eq_true, decide_eq_true_eq, hasFilter_iff hl] at hskip
        rw [ih hl hnone]
        grind

/-! ## Answers in order -/

/-- An entry of a SUBACK ends the loop for its own sake. -/
def subRejected (env : Env) (idx : Nat) (x : ReasonCode × SubscribeTopic) : Bool :=
  isFull env.cfg.subTopicsLimit idx ||
    (decide (x.1 ≤ ReasonCode.grantedQos2) && decide (x.2.maxQos.toNat < x.1))

/-- The entries in front of the first one that is rejected. -/
def subReached (env : Env) : Nat → List (ReasonCode × SubscribeTopic) →
    List (ReasonCode × SubscribeTopic)
  | _, [] => []
  | idx, x :: answers => if subRejected env idx x then [] else x :: subReached env (idx + 1) answers

/-- The entries of an UNSUBACK the response has room for. -/
def unsubReached (env : Env) : Nat → List (ReasonCode × Str) → List (ReasonCode × Str)
  | _, [] => []
  | idx, x :: answers =>
    if isFull env.cfg.unsubTopicsLimit idx then [] else x :: unsubReached env (idx + 1) answers

/-- The confirmed topics that are not recorded yet. -/
def unrecorded (filters : List Str) (answers : List (ReasonCode × Str)) : Finset Str :=
  (confirmed answers).toFinset \ filters.toFinset

/-- The properties of the answer are accepted. -/
def CodesMsg.Welcome (env : Env) (msg : CodesMsg) (s : Client) : Prop :=
  let h := PropsHandler.ofProps env.cfg msg.props
  s.sessionState.problemInfoAllowed = true ∨ h.reasonStr = none ∧ h.userProps = []

/-- A SUBACK that is rejected at once, adds nothing, or is accepted to its end. -/
def SubscribeOp.Orderly (env : Env) (op : SubscribeOp) (msg : CodesMsg) (s : Client) : Prop :=
  let answers := msg.list.zip op.subMsg.list
  let filters := s.reuseState.subFilters
  (PropsHandler.ofProps env.cfg msg.props).protocolError = true ∨
    op.subMsg.list.length ≠ msg.list.length ∨
    (∀ f ∈ confirmed (subAnswers (subReached env 0 answers)), f ∈ filters) ∨
    isFull env.cfg.subFiltersLimit filters.length = true ∨
    subReached env 0 answers = answers ∧
      Room env.cfg.subFiltersLimit (filters.length + (unrecorded filters (subAnswers answers)).card) ∧
      msg.Welcome env s

/-- An UNSUBACK that is rejected at once, removes nothing, or is accepted to its end. -/
def UnsubscribeOp.Orderly (env : Env) (op : UnsubscribeOp) (msg : CodesMsg) (s : Client) : Prop :=
  let answers := msg.list.zip op.unsubMsg.list
  op.unsubMsg.list.length ≠ msg.list.length ∨
    (PropsHandler.ofProps env.cfg msg.props).protocolError = true ∨
    (∀ f ∈ confirmed (unsubReached env 0 answers), f ∉ s.reuseState.subFilters) ∨
    unsubReached env 0 answers = answers ∧ msg.Welcome env s

instance (env : Env) (msg : CodesMsg) (s : Client) : Decidable (msg.Welcome env s) :=
  inferInstanceAs (Decidable (_ ∨ _))

instance (limit n : Nat) : Decidable (Room limit n) := inferInstanceAs (Decidable (_ ∨ _))

instance (env : Env) (op : SubscribeOp) (msg : CodesMsg) (s : Client) :
    Decidable (op.Orderly env msg s) := inferInstanceAs (Decidable (_ ∨ _))

instance (env : Env) (op : UnsubscribeOp) (msg : CodesMsg) (s : Client) :
    Decidable (op.Orderly env msg s) := inferInstanceAs (Decidable (_ ∨ _))

/-- Nothing that is reached is new. -/
theorem subackCodes_idle (hl : Sorted.Strict id filters) {idx : Nat}
    {answers : List (ReasonCode × SubscribeTopic)}
    (h : (∀ f ∈ confirmed (subAnswers (subReached env idx answers)), f ∈ filters) ∨
      isFull env.cfg.subFiltersLimit filters.length = true) :
    (subackCodes env true idx answers filters).1 = filters := by
  induction answers generalizing idx with
  | nil => rfl
  | cons x answers ih =>
    obtain ⟨rc, topic⟩ := x
    unfold subackCodes
    split
    · rfl
    · rename_i hfull
      split
      · rfl
      · rename_i hqos
        have hreached : subReached env idx ((rc, topic) :: answers) =
            (rc, topic) :: subReached env (idx + 1) answers := by
          have hrejected : subRejected env idx (rc, topic) = false := by
            unfold subRejected
            rw [Bool.not_eq_true] at hfull
            rw [hfull, Bool.false_or, Bool.and_eq_false_iff, decide_eq_false_iff_not,
              decide_eq_false_iff_not]
            exact not_and_or.mp hqos
          show (if subRejected env idx (rc, topic) then [] else _) = _
          rw [hrejected]
          rfl
        have hrest : (∀ f ∈ confirmed (subAnswers (subReached env (idx + 1) answers)), f ∈ filters) ∨
            isFull env.cfg.subFiltersLimit filters.length = true :=
          h.imp_left fun hall f hf => hall f (by
            rw [hreached]
            exact mem_confirmed_cons.mpr (Or.inr hf))
        split
        · exact ih hrest
        · rename_i hnew
          -- the entry is confirmed and new, so there is no room for it
          have hfull : isFull env.cfg.subFiltersLimit filters.length = true := by
            refine h.resolve_left fun hall => hnew ?_
            simp only [Bool.not_true, Bool.false_or, Bool.or_eq_true, decide_eq_true_eq]
            by_cases hrc : ReasonCode.unspecifiedError ≤ rc
            · exact Or.inl hrc
            · refine Or.inr ((hasFilter_iff hl).mpr (hall _ ?_))
              rw [hreached]
              exact mem_confirmed_cons.mpr (Or.inl ⟨Nat.lt_of_not_le hrc, rfl⟩)
          rw [if_pos hfull]

/-- An answer that is an error, or for a filter that is recorded, adds nothing. -/
theorem unrecorded_skip {rc : ReasonCode} {topic : Str} {answers : List (ReasonCode × Str)}
    (h : ReasonCode.unspecifiedError ≤ rc ∨ topic ∈ filters) :
    unrecorded filters ((rc, topic) :: answers) = unrecorded filters answers := by
  ext g
  simp only [unrecorded, Finset.mem_sdiff, List.mem_toFinset, mem_confirmed_cons]
  constructor
  · rintro ⟨⟨hrc, rfl⟩ | hg, hnot⟩
    · rcases h with h | h
      · exact absurd hrc (Nat.not_lt.mpr h)
      · exact absurd h hnot
    · exact ⟨hg, hnot⟩
  · rintro ⟨hg, hnot⟩
    exact ⟨Or.inr hg, hnot⟩

/-- A new topic that is recorded is one less to record. -/
theorem card_unrecorded_new {rc : ReasonCode} {topic : Str} {answers : List (ReasonCode × Str)}
    (hrc : rc < ReasonCode.unspecifiedError) (hnew : topic ∉ filters) :
    (unrecorded filters ((rc, topic) :: answers)).card =
      (unrecorded (filters.insertIdx (filterIdx filters topic) topic) answers).card + 1 := by
  have heq : unrecorded filters ((rc, topic) :: answers) =
      insert topic (unrecorded (filters.insertIdx (filterIdx filters topic) topic) answers) := by
    ext g
    simp only [unrecorded, Finset.mem_sdiff, List.mem_toFinset, mem_confirmed_cons, Finset.mem_insert,
      mem_insertFilter]
    grind
  have hnot : topic ∉ unrecorded (filters.insertIdx (filterIdx filters topic) topic) answers := by
    simp only [unrecorded, Finset.mem_sdiff, List.mem_toFinset, mem_insertFilter]
    grind
  rw [heq, Finset.card_insert_of_notMem hnot]

/-- An entry that is reached is not rejected. -/
theorem subReached_cons {idx : Nat} {x : ReasonCode × SubscribeTopic}
    {answers : List (ReasonCode × SubscribeTopic)}
    (h : subReached env idx (x :: answers) = x :: answers) :
    subRejected env idx x = false ∧ subReached env (idx + 1) answers = answers := by
  have h : (if subRejected env idx x then [] else x :: subReached env (idx + 1) answers) =
      x :: answers := h
  split at h
  · cases h
  · rename_i hx
    exact ⟨Bool.not_eq_true _ ▸ hx, (List.cons.inj h).2⟩

/-- Nothing is rejected, and there is room for everything new. -/
theorem subackCodes_ok (hl : Sorted.Strict id filters) {idx : Nat}
    {answers : List (ReasonCode × SubscribeTopic)} (hreached : subReached env idx answers = answers)
    (hroom : Room env.cfg.subFiltersLimit
      (filters.length + (unrecorded filters (subAnswers answers)).card)) :
    (subackCodes env true idx answers filters).2 = none := by
  induction answers generalizing idx filters with
  | nil => rfl
  | cons x answers ih =>
    obtain ⟨rc, topic⟩ := x
    obtain ⟨hx, hrest⟩ := subReached_cons hreached
    unfold subRejected at hx
    rw [Bool.or_eq_false_iff] at hx
    have hqos : ¬(rc ≤ ReasonCode.grantedQos2 ∧ topic.maxQos.toNat < rc) := by
      have h := hx.2
      rw [Bool.and_eq_false_iff, decide_eq_false_iff_not, decide_eq_false_iff_not] at h
      exact not_and_or.mpr h
    have hroom : Room env.cfg.subFiltersLimit (filters.length +
        (unrecorded filters ((rc, topic.topic) :: subAnswers answers)).card) := hroom
    unfold subackCodes
    rw [if_neg (by rw [hx.1]; exact Bool.false_ne_true), if_neg hqos]
    -- a filter that is there or refused takes no room
    split
    · rename_i hskip
      simp only [Bool.not_true, Bool.false_or, Bool.or_eq_true, decide_eq_true_eq,
        hasFilter_iff hl] at hskip
      rw [unrecorded_skip hskip] at hroom
      exact ih hl hrest hroom
    · rename_i hnew
      simp only [Bool.not_true, Bool.false_or, Bool.or_eq_true, decide_eq_true_eq,
        hasFilter_iff hl, not_or] at hnew
      have hcard : (unrecorded filters ((rc, topic.topic) :: subAnswers answers)).card = _ + 1 :=
        card_unrecorded_new (Nat.lt_of_not_le hnew.1) hnew.2
      have hspace : isFull env.cfg.subFiltersLimit filters.length = false :=
        isFull_eq_false.mpr (hroom.mono (by omega))
      rw [if_neg (by rw [hspace]; exact Bool.false_ne_true)]
      refine ih (insertFilter_strict hl hnew.2) hrest (hroom.mono ?_)
      have hlen : (filters.insertIdx (filterIdx filters topic.topic) topic.topic).length =
          filters.length + 1 :=
        List.length_insertIdx_of_le_length (Sorted.place_le id filters topic.topic) _
      rw [hlen, hcard]
      omega

theorem unsubReached_cons {idx : Nat} {x : ReasonCode × Str} {answers : List (ReasonCode × Str)} :
    unsubReached env idx (x :: answers) =
      if isFull env.cfg.unsubTopicsLimit idx then [] else x :: unsubReached env (idx + 1) answers := rfl

/-- Nothing that is reached is recorded. -/
theorem unsubackCodes_idle (hl : Sorted.Strict id filters) {idx : Nat}
    {answers : List (ReasonCode × Str)}
    (h : ∀ f ∈ confirmed (unsubReached env idx answers), f ∉ filters) :
    (unsubackCodes env idx answers filters).1 = filters := by
  induction answers generalizing idx with
  | nil => rfl
  | cons x answers ih =>
    obtain ⟨rc, topic⟩ := x
    rw [unsubReached_cons] at h
    unfold unsubackCodes
    split
    · rfl
    · rename_i hfull
      rw [if_neg hfull] at h
      have hrest := ih fun f hf => h f (mem_confirmed_cons.mpr (Or.inr hf))
      split
      · rename_i hfound
        simp only [Bool.and_eq_true, decide_eq_true_eq, hasFilter_iff hl] at hfound
        exact absurd hfound.2 (h topic (mem_confirmed_cons.mpr (Or.inl ⟨hfound.1.2, rfl⟩)))
      · exact hrest

/-- It ends without an error when every code finds room. -/
theorem unsubackCodes_ok {idx : Nat} {answers : List (ReasonCode × Str)}
    (hreached : unsubReached env idx answers = answers) :
    (unsubackCodes env idx answers filters).2 = none := by
  induction answers generalizing idx filters with
  | nil => rfl
  | cons x answers ih =>
    obtain ⟨rc, topic⟩ := x
    rw [unsubReached_cons] at hreached
    unfold unsubackCodes
    split at hreached
    · cases hreached
    · rename_i hfull
      have hrest := (List.cons.inj hreached).2
      rw [if_neg hfull]
      split <;> exact ih hrest

/-! ## Outcomes of the handlers -/

/-- A welcome answer gives a response. -/
theorem codesResponse_ok (env : Env) (name : String) {msg : CodesMsg} (h : msg.Welcome env s) :
    s.codesResponse env name msg.list (PropsHandler.ofProps env.cfg msg.props) = .ok
      { reasonCodes := msg.list, reasonStr := (PropsHandler.ofProps env.cfg msg.props).reasonStr,
        userProps := fillUserProps env.cfg (PropsHandler.ofProps env.cfg msg.props) } := by
  have h : s.sessionState.problemInfoAllowed = true ∨
      (PropsHandler.ofProps env.cfg msg.props).reasonStr = none ∧
        (PropsHandler.ofProps env.cfg msg.props).userProps = [] := h
  unfold codesResponse
  rcases h with h | ⟨hreason, hprops⟩
  · rw [h]
    simp
  · rw [hreason, hprops]
    simp

/-- The handler fails without a change of the record, or completes the request. -/
inductive SubOutcome (env : Env) (op : SubscribeOp) (msg : CodesMsg) (s t : Client) : Prop
  | fails (text : String) (status : AsyncOpStatus) (reason : ReasonCode)
      (h : t = (((s.timerCancel op.timer).errorLog text).subscribeComplete op status
        none).terminationWithReason env reason)
  | completes (filters : List Str) (response : CodesResponse) (hl : Sorted.Strict id filters)
      (hmem : ∀ f, f ∈ filters ↔ f ∈ s.reuseState.subFilters ∨
        f ∈ confirmed (msg.list.zip (op.subMsg.list.map (·.topic))))
      (h : t = ((s.timerCancel op.timer).setSubFilters filters).subscribeComplete op .complete
        (some response))

/-- An answer is a reason code with the filter it is for. -/
theorem subAnswers_zip (codes : List ReasonCode) (topics : List SubscribeTopic) :
    subAnswers (codes.zip topics) = codes.zip (topics.map (·.topic)) := by
  unfold subAnswers
  rw [List.zip_map_right]
  rfl

/-- `SubscribeOp::handle(SubackMsg&)` records what the answer confirms, or nothing. -/
theorem subscribeHandleSuback_outcome {op : SubscribeOp} {msg : CodesMsg}
    (hverify : (env.cfg.hasSubTopicVerification && s.configState.verifySubFilter) = true)
    (hl : Sorted.Strict id s.reuseState.subFilters) (hid : msg.packetId = op.subMsg.packetId)
    (h : op.Orderly env msg s) : SubOutcome env op msg s (s.subscribeHandleSuback env op msg) := by
  have hverify' : (env.cfg.hasSubTopicVerification &&
      (s.timerCancel op.timer).configState.verifySubFilter) = true := hverify
  unfold subscribeHandleSuback
  rw [if_neg (not_not.mpr hid)]
  dsimp only
  split
  · exact .fails _ _ _ rfl
  · rename_i hprot
    split
    · exact .fails _ _ _ rfl
    · rename_i hlen
      rw [hverify']
      have hfilters : (s.timerCancel op.timer).reuseState.subFilters = s.reuseState.subFilters := rfl
      rw [hfilters]
      -- what is left of being in order: nothing is added, or nothing fails
      have h := (h.resolve_left hprot).resolve_left hlen
      have hcases : (subackCodes env true 0 (msg.list.zip op.subMsg.list) s.reuseState.subFilters).1 =
            s.reuseState.subFilters ∨
          (subackCodes env true 0 (msg.list.zip op.subMsg.list) s.reuseState.subFilters).2 = none ∧
            msg.Welcome env s := by
        rcases h with h | h | ⟨hreached, hroom, hwelcome⟩
        · exact Or.inl (subackCodes_idle hl (Or.inl h))
        · exact Or.inl (subackCodes_idle hl (Or.inr h))
        · exact Or.inr ⟨subackCodes_ok hl hreached hroom, hwelcome⟩
      split
      · rename_i e he
        rcases hcases with hsame | ⟨hnone, -⟩
        · rw [hsame]
          exact .fails _ _ _ rfl
        · rw [hnone] at he
          cases he
      · rename_i hnone
        split
        · rename_i e he
          rcases hcases with hsame | ⟨-, hwelcome⟩
          · rw [hsame]
            exact .fails _ _ _ rfl
          · rw [codesResponse_ok (s := (s.timerCancel op.timer).setSubFilters _) env "SUBACK" hwelcome] at he
            cases he
        · refine .completes _ _ (subackCodes_strict hl _ _ _) (fun f => ?_) rfl
          rw [← subAnswers_zip]
          exact subackCodes_mem hl hnone

inductive UnsubOutcome (env : Env) (op : UnsubscribeOp) (msg : CodesMsg) (s t : Client) : Prop
  | fails (text : String) (status : AsyncOpStatus) (reason : ReasonCode)
      (h : t = (((s.timerCancel op.timer).errorLog text).unsubscribeComplete op status
        none).terminationWithReason env reason)
  | completes (filters : List Str) (response : CodesResponse) (hl : Sorted.Strict id filters)
      (hmem : ∀ f, f ∈ filters ↔ f ∈ s.reuseState.subFilters ∧
        f ∉ confirmed (msg.list.zip op.unsubMsg.list))
      (h : t = ((s.timerCancel op.timer).setSubFilters filters).unsubscribeComplete op .complete
        (some response))

/-- And its opposite takes what is confirmed out of the record. -/
theorem unsubscribeHandleUnsuback_outcome {op : UnsubscribeOp} {msg : CodesMsg}
    (hcfg : env.cfg.hasSubTopicVerification = true)
    (hl : Sorted.Strict id s.reuseState.subFilters) (hid : msg.packetId = op.unsubMsg.packetId)
    (h : op.Orderly env msg s) : UnsubOutcome env op msg s (s.unsubscribeHandleUnsuback env op msg) := by
  unfold unsubscribeHandleUnsuback
  rw [if_neg (not_not.mpr hid)]
  dsimp only
  split
  · exact .fails _ _ _ rfl
  · rename_i hlen
    split
    · exact .fails _ _ _ rfl
    · rename_i hprot
      have hfilters : (s.timerCancel op.timer).reuseState.subFilters = s.reuseState.subFilters := rfl
      rw [hfilters]
      have h := (h.resolve_left hlen).resolve_left hprot
      have hcases : (unsubackCodes env 0 (msg.list.zip op.unsubMsg.list) s.reuseState.subFilters).1 =
            s.reuseState.subFilters ∨
          (unsubackCodes env 0 (msg.list.zip op.unsubMsg.list) s.reuseState.subFilters).2 = none ∧
            msg.Welcome env s := by
        rcases h with h | ⟨hreached, hwelcome⟩
        · exact Or.inl (unsubackCodes_idle hl h)
        · exact Or.inr ⟨unsubackCodes_ok hreached, hwelcome⟩
      split
      · rename_i e he
        rcases hcases with hsame | ⟨hnone, -⟩
        · rw [hsame]
          exact .fails _ _ _ rfl
        · rw [hnone] at he
          cases he
      · rename_i hnone
        split
        · rename_i e he
          rcases hcases with hsame | ⟨-, hwelcome⟩
          · rw [hsame]
            exact .fails _ _ _ rfl
          · rw [codesResponse_ok (s := (s.timerCancel op.timer).setSubFilters _) env "UNSUBACK" hwelcome] at he
            cases he
        · exact .completes _ _ (unsubackCodes_strict hl _ _) (fun f => unsubackCodes_mem hcfg hl hnone) rfl

/-! ## Updates without an answer -/

namespace Scope

/-- Everything but the answers to requests for topic filters. -/
def unfiltered : Scope where
  admits
    | .filters | .emit (.subscribeCb ..) | .emit (.unsubscribeCb ..) => false
    | _ => true

instance : Stays unfiltered where
  admits act h := by
    cases act with
    | filters => cases h
    | emit e => cases e <;> first | rfl | cases h
    | _ => rfl

instance : Ends unfiltered where
  suspend := rfl
  disarm _ := rfl
  session := rfl
  arm := rfl
  expiry := rfl
  keepAlive _ := rfl
  report _ _ := rfl
  connectivity _ := rfl

instance : Configures unfiltered := ⟨rfl, rfl, rfl⟩

end Scope

theorem Recv.Le.unfiltered (r : Recv) : r.Le .unfiltered := by
  intro act h
  unfold Recv.needs at h
  split at h <;> first | rfl | contradiction

/-- The answer of the broker to a request. -/
def Event.isAnswer : Event → Bool
  | .subscribeCb _ _ (some _) | .unsubscribeCb _ _ (some _) => true
  | _ => false

/-- No request is answered, and the record stays. -/
structure Unanswered (s t : Client) : Prop where
  record : t.reuseState = s.reuseState
  log : ∃ es, t.log = s.log ++ es ∧ ∀ e ∈ es, e.isAnswer = false

theorem Unanswered.refl (s : Client) : Unanswered s s :=
  ⟨rfl, [], by rw [List.append_nil], fun e he => nomatch he⟩

/-- Two parts without an answer. -/
theorem Unanswered.trans (h : Unanswered s t) (h' : Unanswered t u) : Unanswered s u where
  record := h'.record.trans h.record
  log := by
    obtain ⟨es, hlog, hes⟩ := h.log
    obtain ⟨es', hlog', hes'⟩ := h'.log
    refine ⟨es ++ es', by rw [hlog', hlog, List.append_assoc], fun e he => ?_⟩
    exact (List.mem_append.mp he).elim (hes e) (hes' e)

/-- Only an answer and a new connection change the record. -/
theorem Prim.reuseState (h : Prim act s t) (hact : act.allowed a .unfiltered = true) :
    t.reuseState = s.reuseState := by
  have hassert : ∀ (u : Client) (site : Site) (c : Bool), (u.assert site c).reuseState = u.reuseState := by
    intro u site c
    unfold Client.assert
    split <;> rfl
  have halloc : ∀ env : Env, (s.allocPacketId env).1.reuseState = s.reuseState := fun env => by
    rw [allocPacketId_same]
  cases h with
  | filters => cases (Act.allowed_iff.mp hact).2 rfl
  | probe env => exact hassert (s.timerAlloc env).1 _ _
  | createSend env h => exact hassert (s.timerAlloc env).1 _ _
  | createRecv env => exact hassert (s.timerAlloc env).1 _ _
  | createKeepAlive env hnil hcon =>
    rcases createKeepAliveOpIfNeeded_cases env hnil with heq | ⟨c, m, op, -, heq⟩
    · rw [heq]
      rfl
    · rw [heq]
      exact hassert s .timer c
  | unlock => exact hassert s _ _
  | takeSubscribe env op hop => exact halloc env
  | takeUnsubscribe env op hop => exact halloc env
  | takeSend env op x hop hx => exact halloc env
  | complete ref => exact (SameSession.completeRef ref s).reuse
  | completeSend op hop href =>
    exact (((SameSession.refl _).releasePacketId op.packetId).timerFree op.responseTimer).reuse
  | clean =>
    unfold cleanOps
    split <;> rfl
  | _ => rfl

/-- The updates that are admitted without an answer report none. -/
theorem Prim.unanswered (h : Prim act s t) (hact : act.allowed a .unfiltered = true) :
    Unanswered s t := by
  refine ⟨h.reuseState hact, ?_⟩
  cases h.entries with
  | emits e heq hlog =>
    subst heq
    refine ⟨[e], hlog, fun e' he' => ?_⟩
    rw [List.mem_singleton.mp he']
    have hn := (Act.allowed_iff.mp hact).2
    cases e with
    | subscribeCb op status response =>
      cases response with
      | none => rfl
      | some response => cases hn rfl
    | unsubscribeCb op status response =>
      cases response with
      | none => rfl
      | some response => cases hn rfl
    | _ => rfl
  | notes es _ hlog hes =>
    refine ⟨es, hlog, fun e he => ?_⟩
    have hnote := hes e he
    cases e <;> first | rfl | cases hnote

/-- And sequences of them. -/
theorem Acts.unanswered (h : Acts a .unfiltered s t) : Unanswered s t :=
  h.invariant (P := Unanswered s) (fun hp hact hs => hs.trans (hp.unanswered hact)) (.refl s)

/-! ## One round -/

/-- The answers to the two requests for topic filters. -/
inductive Ack where
  | suback
  | unsuback

/-- A request that waits for its answer. -/
structure Request where
  id : OpId
  packetId : Nat
  topics : List Str
  deriving DecidableEq

def SubscribeOp.request (op : SubscribeOp) : Request :=
  ⟨op.id, op.subMsg.packetId, op.subMsg.list.map (·.topic)⟩

def UnsubscribeOp.request (op : UnsubscribeOp) : Request :=
  ⟨op.id, op.unsubMsg.packetId, op.unsubMsg.list⟩

namespace Ack

def inMsg : Ack → CodesMsg → InMsg
  | .suback, msg => .suback msg
  | .unsuback, msg => .unsuback msg

def requests : Ack → Client → List Request
  | .suback, s => s.subscribeOps.map SubscribeOp.request
  | .unsuback, s => s.unsubscribeOps.map UnsubscribeOp.request

/-- The request an event reports as complete. -/
def completed : Ack → Event → Option OpId
  | .suback, .subscribeCb id .complete (some _) => some id
  | .unsuback, .unsubscribeCb id .complete (some _) => some id
  | _, _ => none

/-- What the confirmed topics make of the record. -/
def apply : Ack → List Str → Finset Str → Finset Str
  | .suback, topics, record => record ∪ topics.toFinset
  | .unsuback, topics, record => record \ topics.toFinset

end Ack

variable {k : Ack} {msg : CodesMsg}

theorem Ack.completed_of_unanswered {e : Event} (h : e.isAnswer = false) : k.completed e = none := by
  unfold Ack.completed
  split <;> first | cases h | rfl

/-- A round of the dispatch loop touches timers only, ends the connection, or completes a request. -/
inductive AckRound (k : Ack) (msg : CodesMsg) (s t : Client) : Prop
  | passes (faults : List Fault) (m : TimerMgr) (h : t = { s with faults := faults, timerMgr := m })
  | fails (hmatch : ∃ r ∈ k.requests s, r.packetId = msg.packetId)
      (hdis : t.sessionState.disconnecting = true) (h : Unanswered s t)
  | answers (r : Request) (e : Event) (hr : r ∈ k.requests s) (hid : r.packetId = msg.packetId)
      (he : k.completed e = some r.id) (hlog : t.log = s.log ++ [e])
      (hl : Sorted.Strict id t.reuseState.subFilters)
      (hset : t.reuseState.subFilters.toFinset =
        k.apply (confirmed (msg.list.zip r.topics)) s.reuseState.subFilters.toFinset)
      (hreq : ∀ r' ∈ k.requests t, r' ∈ k.requests s ∧ r'.id ≠ r.id)

theorem AckRound.refl : AckRound k msg s s := .passes s.faults s.timerMgr rfl

/-- A pointer without its operation is a fault. -/
theorem AckRound.withOp {α : Type} {x : Option α} {site : Site} {f : α → Client → Client}
    (hf : ∀ y, x = some y → AckRound k msg s (f y s)) : AckRound k msg s (s.withOp x site f) := by
  unfold Client.withOp
  split
  · exact .passes _ s.timerMgr rfl
  · exact hf _ rfl

/-- The completion of a subscription leaves the record. -/
theorem opCompleteSubscribe_eq {op : SubscribeOp} (hop : s.subscribeOp? op.id = some op)
    (hmem : some ⟨.subscribe, op.id⟩ ∈ s.ops) :
    ∃ ops faults cs m, s.opCompleteSubscribe op.id = { s with
      ops := ops, opsDeleted := true, subscribeOps := s.subscribeOps.eraseP (·.id == op.id),
      faults := faults, clientState := cs, timerMgr := m } := by
  have hop : s.subscribeOps.find? (·.id == op.id) = some op := hop
  unfold opCompleteSubscribe opCompleteWith unregisterOp
  rw [if_pos hmem]
  dsimp only
  unfold eraseSubscribeOp
  dsimp only
  rw [hop]
  dsimp only
  rw [timerFree_eq, releasePacketId_eq]
  exact ⟨_, _, _, _, rfl⟩

/-- So does that of its opposite. -/
theorem opCompleteUnsubscribe_eq {op : UnsubscribeOp} (hop : s.unsubscribeOp? op.id = some op)
    (hmem : some ⟨.unsubscribe, op.id⟩ ∈ s.ops) :
    ∃ ops faults cs m, s.opCompleteUnsubscribe op.id = { s with
      ops := ops, opsDeleted := true, unsubscribeOps := s.unsubscribeOps.eraseP (·.id == op.id),
      faults := faults, clientState := cs, timerMgr := m } := by
  have hop : s.unsubscribeOps.find? (·.id == op.id) = some op := hop
  unfold opCompleteUnsubscribe opCompleteWith unregisterOp
  rw [if_pos hmem]
  dsimp only
  unfold eraseUnsubscribeOp
  dsimp only
  rw [hop]
  dsimp only
  rw [timerFree_eq, releasePacketId_eq]
  exact ⟨_, _, _, _, rfl⟩

/-- What is known of a request that waits for the answer. -/
structure Ready (env : Env) (cb orderly : Prop) (s : Client) : Prop where
  cb : cb
  orderly : orderly
  supported : env.cfg.hasSubTopicVerification = true
  verify : s.configState.verifySubFilter = true
  strict : Sorted.Strict id s.reuseState.subFilters

/-- One round of the loop with a SUBACK: for the subscription that waits for it, or for another operation.
-/
theorem suback_round (hr : Reg s) (hreg : Registered s) (hok : ∀ op ∈ s.subscribeOps,
      msg.packetId = op.subMsg.packetId → Ready env (op.cb = true) (op.Orderly env msg s) s)
    (idx : Nat) : AckRound .suback msg s (s.dispatchAt env (.suback msg) idx) := by
  unfold dispatchAt
  split
  · exact .refl
  · unfold visitOp
    split
    · rename_i ref hget
      have href := List.mem_of_getElem? hget
      obtain ⟨type, id⟩ := ref
      cases type with
      | keepAlive =>
        refine AckRound.withOp (f := restartRecvTimer) fun op hop => ?_
        exact .passes s.faults _ (restartRecvTimer_eq s op)
      | subscribe =>
        refine AckRound.withOp (f := (subscribeHandleSuback env · msg)) fun op hop => ?_
        obtain ⟨hmem, rfl⟩ := Keyed.mem_of_find hop
        -- only the operation the identifier belongs to handles it
        by_cases hid : msg.packetId = op.subMsg.packetId
        · have hready := hok op hmem hid
          have hverify : (env.cfg.hasSubTopicVerification && s.configState.verifySubFilter) = true := by
            rw [hready.supported, hready.verify]
            rfl
          cases subscribeHandleSuback_outcome hverify hready.strict hid hready.orderly with
          | fails text status reason h =>
            show AckRound _ _ s (s.subscribeHandleSuback env op msg)
            have howns : s.owns op.timer (.subscribeTimeout op.id) := ⟨op, hmem, rfl, rfl⟩
            have hlive : op ∈ ((s.timerCancel op.timer).errorLog text).subscribeOps := hmem
            have hf : Frame false .unfiltered s (((s.timerCancel op.timer).errorLog
                text).subscribeComplete op status none) :=
              (((Frame.refl _ _ s).timerCancel howns nofun).errorLog text).subscribeComplete
                (.subscribe hlive) status
            rw [h]
            refine .fails ⟨_, List.mem_map_of_mem hmem, hid.symm⟩ ?_
              (MacroRun.acts ((terminationWithReason_end hf reason).run any_ends hr) hr (by simp)).unanswered
            unfold terminationWithReason
            rw [brokerDisconnected_session]
          | completes filters response hl hset h =>
            show AckRound _ _ s (s.subscribeHandleSuback env op msg)
            set v := (s.timerCancel op.timer).setSubFilters filters with hv
            obtain ⟨ops, faults, cs, m, heq⟩ := opCompleteSubscribe_eq (s := v) hop href
            rw [h]
            unfold subscribeComplete
            dsimp only
            rw [if_pos hready.cb, heq]
            refine .answers op.request (.subscribeCb op.id .complete (some response))
              (List.mem_map_of_mem hmem) hid.symm rfl rfl hl ?_ fun r' hr' => ?_
            · ext f
              show f ∈ filters.toFinset ↔
                f ∈ s.reuseState.subFilters.toFinset ∪ (confirmed _).toFinset
              rw [Finset.mem_union, List.mem_toFinset, List.mem_toFinset, List.mem_toFinset]
              exact hset f
            · obtain ⟨x, hx, rfl⟩ := List.mem_map.mp hr'
              have hd : Keyed.Distinct SubscribeOp.id s.subscribeOps := hreg.nodup .subscribe
              obtain ⟨hx, hne⟩ := hd.mem_erase.mp hx
              exact ⟨List.mem_map_of_mem hx, hne⟩
        · show AckRound _ _ s (s.subscribeHandleSuback env op msg)
          unfold subscribeHandleSuback
          rw [if_pos hid]
          exact .refl
      | _ => exact .refl
    · exact .refl

/-- One round of the loop with an UNSUBACK. -/
theorem unsuback_round (hr : Reg s) (hreg : Registered s) (hok : ∀ op ∈ s.unsubscribeOps,
      msg.packetId = op.unsubMsg.packetId → Ready env (op.cb = true) (op.Orderly env msg s) s)
    (idx : Nat) : AckRound .unsuback msg s (s.dispatchAt env (.unsuback msg) idx) := by
  unfold dispatchAt
  split
  · exact .refl
  · unfold visitOp
    split
    · rename_i ref hget
      have href := List.mem_of_getElem? hget
      obtain ⟨type, id⟩ := ref
      cases type with
      | keepAlive =>
        refine AckRound.withOp (f := restartRecvTimer) fun op hop => ?_
        exact .passes s.faults _ (restartRecvTimer_eq s op)
      | unsubscribe =>
        refine AckRound.withOp (f := (unsubscribeHandleUnsuback env · msg)) fun op hop => ?_
        obtain ⟨hmem, rfl⟩ := Keyed.mem_of_find hop
        -- only the operation the identifier belongs to handles it
        by_cases hid : msg.packetId = op.unsubMsg.packetId
        · have hready := hok op hmem hid
          cases unsubscribeHandleUnsuback_outcome hready.supported hready.strict hid hready.orderly with
          | fails text status reason h =>
            show AckRound _ _ s (s.unsubscribeHandleUnsuback env op msg)
            have howns : s.owns op.timer (.unsubscribeTimeout op.id) := ⟨op, hmem, rfl, rfl⟩
            have hlive : op ∈ ((s.timerCancel op.timer).errorLog text).unsubscribeOps := hmem
            have hf : Frame false .unfiltered s (((s.timerCancel op.timer).errorLog
                text).unsubscribeComplete op status none) :=
              (((Frame.refl _ _ s).timerCancel howns nofun).errorLog text).unsubscribeComplete
                (.unsubscribe hlive) status
            rw [h]
            refine .fails ⟨_, List.mem_map_of_mem hmem, hid.symm⟩ ?_
              (MacroRun.acts ((terminationWithReason_end hf reason).run any_ends hr) hr
                (by simp)).unanswered
            unfold terminationWithReason
            rw [brokerDisconnected_session]
          | completes filters response hl hset h =>
            show AckRound _ _ s (s.unsubscribeHandleUnsuback env op msg)
            set v := (s.timerCancel op.timer).setSubFilters filters with hv
            obtain ⟨ops, faults, cs, m, heq⟩ := opCompleteUnsubscribe_eq (s := v) hop href
            rw [h]
            unfold unsubscribeComplete
            dsimp only
            rw [if_pos hready.cb, heq]
            refine .answers op.request (.unsubscribeCb op.id .complete (some response))
              (List.mem_map_of_mem hmem) hid.symm rfl rfl hl ?_ fun r' hr' => ?_
            · ext f
              show f ∈ filters.toFinset ↔
                f ∈ s.reuseState.subFilters.toFinset \ (confirmed _).toFinset
              rw [Finset.mem_sdiff, List.mem_toFinset, List.mem_toFinset, List.mem_toFinset]
              exact hset f
            · obtain ⟨x, hx, rfl⟩ := List.mem_map.mp hr'
              have hd : Keyed.Distinct UnsubscribeOp.id s.unsubscribeOps := hreg.nodup .unsubscribe
              obtain ⟨hx, hne⟩ := hd.mem_erase.mp hx
              exact ⟨List.mem_map_of_mem hx, hne⟩
        · show AckRound _ _ s (s.unsubscribeHandleUnsuback env op msg)
          unfold unsubscribeHandleUnsuback
          rw [if_pos hid]
          exact .refl
      | _ => exact .refl
    · exact .refl

/-! ## The loop -/

/-- Rounds that touch timers come to nothing. -/
theorem AckRound.after {faults : List Fault} {m : TimerMgr}
    (h : AckRound k msg { s with faults := faults, timerMgr := m } t) : AckRound k msg s t := by
  have hreq : k.requests { s with faults := faults, timerMgr := m } = k.requests s := by
    cases k <;> rfl
  cases h with
  | passes faults' m' h => exact .passes faults' m' h
  | fails hmatch hdis h => exact .fails (hreq ▸ hmatch) hdis ⟨h.record, h.log⟩
  | answers r e hr hid he hlog hl hset hreq' =>
    rw [hreq] at hr hreq'
    exact .answers r e hr hid he hlog hl hset hreq'

/-- A round without a request for it touches timers only. -/
theorem AckRound.quiet (h : AckRound k msg s t) (hnone : ∀ r ∈ k.requests s, r.packetId ≠ msg.packetId) :
    ∃ faults m, t = { s with faults := faults, timerMgr := m } := by
  cases h with
  | passes faults m h => exact ⟨faults, m, h⟩
  | fails hmatch _ _ =>
    obtain ⟨r, hr, hid⟩ := hmatch
    exact absurd hid (hnone r hr)
  | answers r e hr hid _ _ _ _ _ => exact absurd hid (hnone r hr)

/-- A round keeps the registries. -/
theorem dispatchAt_wf {msg : InMsg} (hmsg : msg.isConnack = false) (hr : Reg s) (hreg : Registered s)
    (idx : Nat) : Reg (s.dispatchAt env msg idx) ∧ Registered (s.dispatchAt env msg idx) := by
  have hend : EndRun env .any false .begins s (s.dispatchAt env msg idx) := by
    unfold dispatchAt
    split
    · exact .refl
    · unfold visitOp
      split
      · exact dispatchTo_end hmsg (fun _ _ _ => rfl) (fun _ => inferInstance) _
      · exact .refl
  have hrun := hend.run any_ends hr
  exact ⟨MacroRun.reg hrun hr, (MacroRun.acts hrun hr (by simp)).registered hreg⟩

/-- A request with the packet identifier of the answer is the only one, and the answer is in order. -/
structure AckReady (k : Ack) (msg : CodesMsg) (ready : Client → Prop) (s : Client) : Prop where
  ready : (∃ r ∈ k.requests s, r.packetId = msg.packetId) → ready s
  one : ∀ r ∈ k.requests s, ∀ r' ∈ k.requests s, r.packetId = msg.packetId →
    r'.packetId = msg.packetId → r.id = r'.id

/-- The loop over `m_ops` finds at most one operation that takes the answer. -/
theorem ack_loop (ready : Client → Prop)
    (hsame : ∀ (s : Client) faults m, ready s → ready { s with faults := faults, timerMgr := m })
    (hround : ∀ s idx, Reg s → Registered s →
      ((∃ r ∈ k.requests s, r.packetId = msg.packetId) → ready s) →
      AckRound k msg s (s.dispatchAt env (k.inMsg msg) idx))
    (hr : Reg s) (hreg : Registered s) (h : AckReady k msg ready s) (l : List Nat) :
    AckRound k msg s (l.foldl (dispatchAt env (k.inMsg msg)) s) := by
  have hmsg : (k.inMsg msg).isConnack = false := by cases k <;> rfl
  induction l generalizing s with
  | nil => exact .refl
  | cons idx l ih =>
    have ⟨hr', hreg'⟩ : Reg (s.dispatchAt env _ idx) ∧ Registered (s.dispatchAt env _ idx) :=
      dispatchAt_wf hmsg hr hreg idx
    rw [List.foldl_cons]
    cases hround s idx hr hreg h.ready with
    | passes faults m heq =>
      rw [heq] at hr' hreg' ⊢
      have hreq : k.requests { s with faults := faults, timerMgr := m } = k.requests s := by
        cases k <;> rfl
      refine (ih hr' hreg' ⟨fun hmatch => ?_, ?_⟩).after
      · exact hsame s faults m (h.ready (hreq ▸ hmatch))
      · rw [hreq]
        exact h.one
    | fails hmatch hdis hun =>
      rw [dispatch_of_disconnecting l hdis]
      exact .fails hmatch hdis hun
    | answers r e hmem hid he hlog hl hset hreq =>
      -- nothing is left that waits for the answer
      have hnone : ∀ r' ∈ k.requests (s.dispatchAt env (k.inMsg msg) idx), r'.packetId ≠ msg.packetId := by
        intro r' hr' hid'
        obtain ⟨hr', hne⟩ := hreq r' hr'
        exact hne (h.one r' hr' r hmem hid' hid)
      have hrest := ih hr' hreg' ⟨fun ⟨r', hr', hid'⟩ => absurd hid' (hnone r' hr'),
        fun r' hr' _ _ hid' _ => absurd hid' (hnone r' hr')⟩
      obtain ⟨faults, m, heq⟩ := hrest.quiet hnone
      rw [heq]
      refine .answers r e hmem hid he hlog hl hset ?_
      have hsame' : ∀ v : Client, k.requests { v with faults := faults, timerMgr := m } = k.requests v := by
        intro v
        cases k <;> rfl
      rw [hsame']
      exact hreq

/-! ## The replay -/

/-- A CONNACK begins a connection in this step. -/
def begins (st : Machine.Step Sys Label) : Bool :=
  !st.before.client.sessionState.connected && st.after.client.sessionState.connected

/-- The confirmed topics of the requests an answer completes. -/
def Ack.topics (k : Ack) (msg : CodesMsg) (st : Machine.Step Sys Label) : List Str :=
  ((k.requests st.before.client).filter fun r =>
    (eventsSince st.before.client st.after.client).any fun e => k.completed e == some r.id).flatMap
      fun r => confirmed (msg.list.zip r.topics)

/-- A CONNACK without a session clears the record, a completed request changes it. -/
def replayStep (record : Finset Str) (st : Machine.Step Sys Label) : Finset Str :=
  match st.before.inMsg st.label with
  | some (.connack msg) => if begins st && !msg.sessionPresent then ∅ else record
  | some (.suback msg) => Ack.suback.apply (Ack.suback.topics msg st) record
  | some (.unsuback msg) => Ack.unsuback.apply (Ack.unsuback.topics msg st) record
  | _ => record

/-- The filters confirmed and not removed since the last CONNACK without a session. -/
def replay (steps : List (Machine.Step Sys Label)) : Finset Str := steps.foldl replayStep ∅

/-- An answer is applied as a set of filters. -/
theorem Ack.apply_congr {topics topics' : List Str} {record : Finset Str}
    (h : ∀ f, f ∈ topics ↔ f ∈ topics') : k.apply topics record = k.apply topics' record := by
  have heq : topics.toFinset = topics'.toFinset := by
    ext f
    rw [List.mem_toFinset, List.mem_toFinset, h]
  unfold Ack.apply
  split <;> rw [heq]

theorem Ack.apply_nil (record : Finset Str) : k.apply [] record = record := by
  cases k <;> simp [Ack.apply]

/-- Without a completion nothing is replayed. -/
theorem Ack.topics_nil {st : Machine.Step Sys Label}
    (h : ∀ e ∈ eventsSince st.before.client st.after.client, k.completed e = none) :
    k.topics msg st = [] := by
  unfold Ack.topics
  rw [List.filter_eq_nil_iff.mpr]
  · rfl
  · intro r hr hany
    obtain ⟨e, he, hc⟩ := List.any_eq_true.mp hany
    rw [h e he] at hc
    cases hc

/-- The events of a step are what it adds to the log. -/
theorem log_eventsSince {es : List Event} (h : t.log = s.log ++ es) : eventsSince s t = es := by
  unfold eventsSince
  rw [h, List.drop_left]

/-- What an answer makes of the record is what the replay makes of it. -/
theorem AckRound.replay {st : Machine.Step Sys Label}
    (h : AckRound k msg st.before.client st.after.client)
    (hd : ((k.requests st.before.client).map Request.id).Nodup)
    (hl : Sorted.Strict id st.before.client.reuseState.subFilters) :
    Sorted.Strict id st.after.client.reuseState.subFilters ∧
      st.after.client.reuseState.subFilters.toFinset =
        k.apply (k.topics msg st) st.before.client.reuseState.subFilters.toFinset := by
  cases h with
  | passes faults m heq =>
    have hlog : st.after.client.log = st.before.client.log ++ [] := by rw [heq, List.append_nil]
    have hnil : k.topics msg st = [] := Ack.topics_nil fun e he => by
      rw [log_eventsSince hlog] at he
      cases he
    rw [hnil, Ack.apply_nil, heq]
    exact ⟨hl, rfl⟩
  | fails _ _ hun =>
    obtain ⟨es, hlog, hes⟩ := hun.log
    have hnil : k.topics msg st = [] := Ack.topics_nil fun e he => by
      rw [log_eventsSince hlog] at he
      exact Ack.completed_of_unanswered (hes e he)
    rw [hnil, Ack.apply_nil, hun.record]
    exact ⟨hl, rfl⟩
  | answers r e hr _ he hlog hl' hset _ =>
    refine ⟨hl', hset.trans (Ack.apply_congr fun f => ?_)⟩
    unfold Ack.topics
    rw [List.mem_flatMap, log_eventsSince hlog]
    constructor
    · intro hf
      refine ⟨r, List.mem_filter.mpr ⟨hr, ?_⟩, hf⟩
      simp [he]
    · rintro ⟨r', hr', hf⟩
      obtain ⟨hr', hany⟩ := List.mem_filter.mp hr'
      -- the event belongs to one request
      have hid : r.id = r'.id := by simpa [he] using hany
      have hd : Keyed.Distinct Request.id (k.requests st.before.client) := hd
      rw [hd.eq hr hr' hid]
      exact hf

/-! ## Every step -/

/-- The request an answer is for was sent, no other has its packet identifier, and the answer is in
order. -/
def AckOk (env : Env) (s : Client) : InMsg → Prop
  | .suback msg =>
    (∀ op ∈ s.subscribeOps, msg.packetId = op.subMsg.packetId → op.cb = true ∧ op.Orderly env msg s) ∧
      ((Ack.suback.requests s).filter (·.packetId == msg.packetId)).length ≤ 1
  | .unsuback msg =>
    (∀ op ∈ s.unsubscribeOps, msg.packetId = op.unsubMsg.packetId →
      op.cb = true ∧ op.Orderly env msg s) ∧
      ((Ack.unsuback.requests s).filter (·.packetId == msg.packetId)).length ≤ 1
  | _ => True

/-- The verification is enabled, and answers to requests for topic filters are in order. -/
def Recorded (env : Env) (sys : Sys) (l : Label) : Prop :=
  env.cfg.hasSubTopicVerification = true ∧ sys.client.configState.verifySubFilter = true ∧
    ∀ msg ∈ sys.inMsg l, AckOk env sys.client msg

instance (env : Env) (s : Client) : ∀ msg, Decidable (AckOk env s msg)
  | .suback _ | .unsuback _ => inferInstanceAs (Decidable (_ ∧ _))
  | .connack _ | .publish _ | .puback _ | .pubrec _ | .pubrel .. | .pubcomp _ | .pingresp
  | .disconnect .. | .auth .. => inferInstanceAs (Decidable True)

instance (env : Env) (sys : Sys) (l : Label) : Decidable (Recorded env sys l) :=
  inferInstanceAs (Decidable (_ ∧ _ ∧ _))

/-- At most one request has the packet identifier. -/
theorem one_of_length {s : Client}
    (h : ((k.requests s).filter (·.packetId == msg.packetId)).length ≤ 1) :
    ∀ r ∈ k.requests s, ∀ r' ∈ k.requests s, r.packetId = msg.packetId →
      r'.packetId = msg.packetId → r.id = r'.id := by
  intro r hr r' hr' hid hid'
  rw [eq_of_length_le_one h (List.mem_filter.mpr ⟨hr, by simpa using hid⟩)
    (List.mem_filter.mpr ⟨hr', by simpa using hid'⟩)]

/-- SUBACK as a whole. -/
theorem handleProtMessage_suback (hw : Reg s) (hreg : Registered s)
    (hcfg : env.cfg.hasSubTopicVerification = true) (hverify : s.configState.verifySubFilter = true)
    (hl : Sorted.Strict id s.reuseState.subFilters) (hok : AckOk env s (.suback msg)) :
    AckRound .suback msg s (s.handle env (.suback msg)) := by
  show AckRound _ _ s (if s.sessionState.disconnecting then s
    else (List.range s.ops.length).foldl (dispatchAt env (.suback msg)) s)
  split
  · exact .refl
  · refine ack_loop (k := .suback) (fun s => ∀ op ∈ s.subscribeOps,
      msg.packetId = op.subMsg.packetId → Ready env (op.cb = true) (op.Orderly env msg s) s) ?_ ?_
      hw hreg ⟨?_, one_of_length hok.2⟩ _
    · intro s faults m h op hop hid
      have hready := h op hop hid
      exact ⟨hready.cb, hready.orderly, hready.supported, hready.verify, hready.strict⟩
    · intro s idx hr hreg h
      exact suback_round hr hreg (fun op hop hid =>
        h ⟨op.request, List.mem_map_of_mem hop, hid.symm⟩ op hop hid) idx
    · intro _ op hop hid
      obtain ⟨hcb, hord⟩ := hok.1 op hop hid
      exact ⟨hcb, hord, hcfg, hverify, hl⟩

/-- UNSUBACK as a whole. -/
theorem handleProtMessage_unsuback (hw : Reg s) (hreg : Registered s)
    (hcfg : env.cfg.hasSubTopicVerification = true) (hverify : s.configState.verifySubFilter = true)
    (hl : Sorted.Strict id s.reuseState.subFilters) (hok : AckOk env s (.unsuback msg)) :
    AckRound .unsuback msg s (s.handle env (.unsuback msg)) := by
  show AckRound _ _ s (if s.sessionState.disconnecting then s
    else (List.range s.ops.length).foldl (dispatchAt env (.unsuback msg)) s)
  split
  · exact .refl
  · refine ack_loop (k := .unsuback) (fun s => ∀ op ∈ s.unsubscribeOps,
      msg.packetId = op.unsubMsg.packetId → Ready env (op.cb = true) (op.Orderly env msg s) s) ?_ ?_
      hw hreg ⟨?_, one_of_length hok.2⟩ _
    · intro s faults m h op hop hid
      have hready := h op hop hid
      exact ⟨hready.cb, hready.orderly, hready.supported, hready.verify, hready.strict⟩
    · intro s idx hr hreg h
      exact unsuback_round hr hreg (fun op hop hid =>
        h ⟨op.request, List.mem_map_of_mem hop, hid.symm⟩ op hop hid) idx
    · intro _ op hop hid
      obtain ⟨hcb, hord⟩ := hok.1 op hop hid
      exact ⟨hcb, hord, hcfg, hverify, hl⟩

/-- A new session begins with an empty record. -/
theorem connackConnected_record (env : Env) (op : ConnectOp) (msg : ConnackMsg) (s : Client) :
    (s.connackConnected env op msg).reuseState.subFilters =
      if msg.sessionPresent then s.reuseState.subFilters else [] := by
  have halias : ∀ (h : PropsHandler) (r : ConnectResponse) (u : Client),
      (u.storeAliasMax env h r).reuseState = u.reuseState := by
    intro h r u
    unfold storeAliasMax
    split <;> rfl
  show (if msg.sessionPresent then ((s.timerCancel op.timer).storeAliasMax env _ _).reuseState
    else {}).subFilters = _
  rw [halias]
  cases msg.sessionPresent <;> rfl

/-- Without a request that is answered the record stays. -/
theorem Conn.record (hr : Reg sys.client) (hreg : Registered sys.client)
    (h : Conn env .unfiltered sys l t) (hconnack : sys.isConnack l = false) :
    t.reuseState = sys.client.reuseState := by
  cases h with
  | keeps hk => exact hk.unanswered.record
  | ends u reason status info hu hd ht => exact hd.reuse.trans hu.unanswered.record
  | connack msg hin hc =>
    unfold Sys.isConnack at hconnack
    rw [hin] at hconnack
    cases hconnack
  | network hl hhead ht =>
    rw [ht]
    rcases networkDown_cases env hr hreg with ⟨-, heq⟩ | hd
    · rw [heq]
      rfl
    · exact hd.reuse
  | prepare elapsed hl ht =>
    obtain ⟨log, counts, heq⟩ := beginConnectPrepare_client elapsed sys.client
    rw [ht, heq]
  | initial hl hhead ht =>
    rw [ht]
    unfold initInternal
    split
    · rfl
    · split
      · rfl
      · have hf : Frame true .unfiltered sys.client (sys.client.terminateOps env .aborted true) :=
          terminateOps_keep_frame .aborted
        exact hf.acts.unanswered.record

theorem Registered.requests (h : Registered s) : ((k.requests s).map Request.id).Nodup := by
  cases k with
  | suback =>
    have hd := h.nodup .subscribe
    rwa [show (Ack.suback.requests s).map Request.id = s.ids .subscribe from List.map_map]
  | unsuback =>
    have hd := h.nodup .unsubscribe
    rwa [show (Ack.unsuback.requests s).map Request.id = s.ids .unsubscribe from List.map_map]

/-- The CONNACK of a run that stays within the connection, or begins one. -/
theorem ConnackRun.record {msg : ConnackMsg} (h : ConnackRun env .unread msg s t) :
    (t.sessionState.connected = s.sessionState.connected ∨ t.sessionState.connected = false) ∧
        t.reuseState = s.reuseState ∨
      t.sessionState.connected = true ∧ s.connectOps ≠ [] ∧ t.reuseState.subFilters =
        if msg.sessionPresent then s.reuseState.subFilters else [] := by
  have hsteady : ∀ {s t : Client}, Acts true .unread s t → Steady s t := fun h =>
    Acts.steady (h.mono id Scope.unread_le)
  have hrecord : ∀ {s t : Client}, Acts true .unread s t → t.reuseState = s.reuseState := fun h =>
    (Acts.unanswered (h.mono id Scope.Stays.admits)).record
  cases h with
  | keeps h => exact Or.inl ⟨Or.inl (hsteady h).connected, hrecord h⟩
  | refused op u hop hacc hu ht hgone =>
    have hrec : u.reuseState = s.reuseState := hrecord hu
    exact Or.inl ⟨Or.inr ((hsteady ht).connected.trans rfl), (hrecord ht).trans hrec⟩
  | accepted op u hop hacc hu ht hgone =>
    refine Or.inr ⟨(hsteady ht).connected.trans (connackConnected_flags env op msg u).1,
      List.ne_nil_of_mem hop, ?_⟩
    rw [hrecord ht, connackConnected_record, hrecord hu]

/-- A step does to the record what the replay does. -/
theorem step_record {ok : Sys → Label → Prop} (h : (machine env).Reach ok sys) (hok : Recorded env sys l)
    (hstep : sys.step env l = some sys') (hl : Sorted.Strict id sys.client.reuseState.subFilters) :
    Sorted.Strict id sys'.client.reuseState.subFilters ∧
      sys'.client.reuseState.subFilters.toFinset =
        replayStep sys.client.reuseState.subFilters.toFinset ⟨sys, l, sys'⟩ := by
  have hw := reach_wf h
  have hreg := reach_registered h
  obtain ⟨hcfg, hverify, hack⟩ := hok
  -- most steps leave the record alone
  have hother : (∀ m ∈ sys.inMsg l, m.isConnack = false ∧ m.isGrant = false) →
      replayStep sys.client.reuseState.subFilters.toFinset ⟨sys, l, sys'⟩ =
        sys.client.reuseState.subFilters.toFinset →
      Sorted.Strict id sys'.client.reuseState.subFilters ∧
        sys'.client.reuseState.subFilters.toFinset =
          replayStep sys.client.reuseState.subFilters.toFinset ⟨sys, l, sys'⟩ := by
    intro hmsg hreplay
    have hnot : sys.isConnack l = false := by
      unfold Sys.isConnack
      cases hin : sys.inMsg l with
      | none => rfl
      | some m => exact (hmsg m hin).1
    have hconn : Conn env .unfiltered sys l sys'.client :=
      step_conn_of hw hreg hstep (fun _ _ => .unfiltered _)
        (fun m hin hgrant => by
          rw [(hmsg m hin).2] at hgrant
          cases hgrant) fun _ => inferInstance
    rw [hreplay, hconn.record hw.reg hreg hnot]
    exact ⟨hl, rfl⟩
  cases hin : sys.inMsg l with
  | none =>
    refine hother (fun m hm => ?_) ?_
    · rw [hin] at hm
      cases hm
    · unfold replayStep
      dsimp only
      rw [hin]
  | some m =>
    obtain ⟨rest, rfl, -, hclient⟩ := inMsg_step hstep hin
    cases m with
    | suback msg =>
      have hround := handleProtMessage_suback hw.reg hreg hcfg hverify hl (hack _ hin)
      rw [← hclient] at hround
      unfold replayStep
      dsimp only
      rw [hin]
      exact @AckRound.replay _ _ ⟨sys, .run, sys'⟩ hround hreg.requests hl
    | unsuback msg =>
      have hround := handleProtMessage_unsuback hw.reg hreg hcfg hverify hl (hack _ hin)
      rw [← hclient] at hround
      unfold replayStep
      dsimp only
      rw [hin]
      exact @AckRound.replay _ _ ⟨sys, .run, sys'⟩ hround hreg.requests hl
    | connack msg =>
      unfold replayStep
      dsimp only
      rw [hin]
      dsimp only
      unfold begins
      dsimp only
      have hrun : ConnackRun env .unread msg sys.client sys'.client :=
        hclient ▸ handleConnack_run hw.reg hw.lock msg
      rcases hrun.record with ⟨hcon, hrecord⟩ | ⟨hcon, hne, hrecord⟩
      · have hnot : (!sys.client.sessionState.connected && sys'.client.sessionState.connected) = false := by
          rcases hcon with hcon | hcon <;> rw [hcon]
          · cases sys.client.sessionState.connected <;> rfl
          · exact Bool.and_false _
        rw [hnot, Bool.false_and, hrecord]
        exact ⟨hl, rfl⟩
      · have hoff : sys.client.sessionState.connected = false := by
          by_contra hon
          rw [Bool.not_eq_false] at hon
          exact hne (connectOps_of_apart (reach_inSession h).apart hon)
        rw [hoff, hcon, hrecord]
        cases msg.sessionPresent with
        | true => exact ⟨hl, rfl⟩
        | false => exact ⟨List.Pairwise.nil, rfl⟩
    | _ =>
      refine hother (fun m hm => ?_) ?_
      · rw [hin] at hm
        cases hm
        exact ⟨rfl, rfl⟩
      · unfold replayStep
        dsimp only
        rw [hin]

/-- The record is in order and agrees with the replay. -/
structure Replayed (steps : List (Machine.Step Sys Label)) (s : Client) : Prop where
  strict : Sorted.Strict id s.reuseState.subFilters
  record : s.reuseState.subFilters.toFinset = replay steps

/-- The record of a run is what its answers replay to. -/
theorem run_replayed {steps : List (Machine.Step Sys Label)}
    (h : (machine env).Run (Recorded env) steps sys) : Replayed steps sys.client := by
  induction h with
  | start h =>
    obtain ⟨cbs, config, rfl⟩ := h
    exact ⟨List.Pairwise.nil, rfl⟩
  | step hs hok hstep ih =>
    obtain ⟨hl, hset⟩ := step_record hs.reach hok hstep ih.strict
    refine ⟨hl, ?_⟩
    unfold replay
    rw [List.foldl_append, hset, ih.record]
    rfl

/-- The record is sorted, and it is what the replay of the answers gives. -/
theorem subFilters_replayed {steps : List (Machine.Step Sys Label)}
    (h : (machine env).Run (Recorded env) steps sys) :
    Sorted.Strict id sys.client.reuseState.subFilters ∧
      sys.client.reuseState.subFilters.toFinset = replay steps :=
  ⟨(run_replayed h).strict, (run_replayed h).record⟩

/-! ## Two answers -/

/-- The verification is enabled. -/
def Verifying (env : Env) (sys : Sys) (_ : Label) : Prop :=
  env.cfg.hasSubTopicVerification = true ∧ sys.client.configState.verifySubFilter = true

instance (env : Env) (sys : Sys) (l : Label) : Decidable (Verifying env sys l) :=
  inferInstanceAs (Decidable (_ ∧ _))

/-- The answer to a request for two topics. -/
def twoCodes (second : ReasonCode) : CodesMsg := { packetId := 1, props := [], list := [1, second] }

/-- Two topics are asked for with QoS 1, up to the frame with the answer. -/
def subscribeCalls (second : ReasonCode) : List (Api × Nat) :=
  let topic (ch : Char) : SubscribeTopicConfig := { topic := some [ch], maxQos := .atLeastOnceDelivery }
  connectCalls true {} plainConnack ++
    [(.subscribePrepare, 1), (.subscribeConfigTopic 2 (topic 'a'), 1),
      (.subscribeConfigTopic 2 (topic 'b'), 1), (.subscribeSend 2 true 0, 4),
      (packet (.suback (twoCodes second)), 2)]

/-- A run of some calls that ends with a message. -/
theorem exists_message_step (ok : Sys → Label → Prop) [∀ sys l, Decidable (ok sys l)]
    (calls : List (Api × Nat)) (m : InMsg) (p : Sys → Sys → Bool)
    (h : ((machine .dynamic).exec (fun sys l => decide (ok sys l)) Sys.fresh
      (script calls)).any (fun sys => decide (ok sys .run ∧ sys.inMsg .run = some m ∧
        (sys.step .dynamic .run).any (p sys) = true)) = true) :
    ∃ (pre : List (Machine.Step Sys Label)) (st : Machine.Step Sys Label),
      (machine .dynamic).Run ok pre st.before ∧ (machine .dynamic).Run ok (pre ++ [st]) st.after ∧
        st.before.inMsg st.label = some m ∧ p st.before st.after = true := by
  obtain ⟨sys, hreach, hok, hin, hstep⟩ := exists_reach_ok .dynamic ok calls
    (fun sys => ok sys .run ∧ sys.inMsg .run = some m ∧ (sys.step .dynamic .run).any (p sys) = true) h
  obtain ⟨sys', hstep, hp⟩ := (Option.any_eq_true _ _).mp hstep
  obtain ⟨pre, hrun⟩ := hreach.exists_run
  exact ⟨pre, ⟨sys, .run, sys'⟩, hrun, .step hrun hok hstep, hin, hp⟩

/-- Both topics are granted. -/
theorem subFilters_replayed_two :
    ∃ (steps : List (Machine.Step Sys Label)) (sys : Sys),
      (machine .dynamic).Run (Recorded .dynamic) steps sys ∧
        sys.client.reuseState.subFilters = [['a'], ['b']] ∧ replay steps = {['a'], ['b']} := by
  obtain ⟨pre, st, -, hrun, -, hp⟩ := exists_message_step (Recorded .dynamic)
    (subscribeCalls 0) (.suback (twoCodes 0))
    (fun _ sys' => decide (sys'.client.reuseState.subFilters = [['a'], ['b']])) (by decide +kernel)
  have hfilters := of_decide_eq_true hp
  refine ⟨pre ++ [st], st.after, hrun, hfilters, ?_⟩
  rw [← (subFilters_replayed hrun).2, hfilters]
  rfl

/-- The second topic is granted with more than was asked for: the request fails, and the first one
stays in the record. -/
theorem subFilters_left_over :
    ¬∀ (steps : List (Machine.Step Sys Label)) (sys : Sys),
      (machine .dynamic).Run (Verifying .dynamic) steps sys →
        Sorted.Strict id sys.client.reuseState.subFilters ∧
          sys.client.reuseState.subFilters.toFinset = replay steps := by
  intro hall
  obtain ⟨pre, st, hpre, hrun, hin, hp⟩ := exists_message_step (Verifying .dynamic)
    (subscribeCalls 2) (.suback (twoCodes 2)) (fun sys sys' => decide (sys.client.reuseState.subFilters = [] ∧
      sys'.client.reuseState.subFilters = [['a']] ∧
      Ack.suback.topics (twoCodes 2) ⟨sys, .run, sys'⟩ = [])) (by decide +kernel)
  obtain ⟨hbefore, hafter, htopics⟩ := of_decide_eq_true hp
  have hset := (hall _ _ hrun).2
  unfold replay at hset
  rw [List.foldl_append, hafter] at hset
  have hstep : replayStep (pre.foldl replayStep ∅) st = pre.foldl replayStep ∅ := by
    unfold replayStep
    rw [hin]
    exact (congrArg (Ack.suback.apply · _) htopics).trans (Ack.apply_nil _)
  have hpreset := (hall _ _ hpre).2
  unfold replay at hpreset
  rw [hbefore] at hpreset
  rw [List.foldl_cons, List.foldl_nil, hstep, ← hpreset] at hset
  have hmem : ['a'] ∈ ([] : List Str).toFinset := hset ▸ List.mem_toFinset.mpr List.mem_cons_self
  cases List.mem_toFinset.mp hmem

end Mqtt5
