import Mqtt5Client.OpRegistry
import Mqtt5Client.TimerHandles

/-!
# Mqtt5Client — the timers and their owners

Every operation owns the slots of its timers: no slot has two owners, an owned slot is allocated, and an
armed slot calls its owner back. So a timer can be armed, cancelled or suspended on behalf of one
operation without a look at the others. The exception is a `send` function whose own API guard destroyed
the operation: it arms the slot the operation had, and the callback finds nobody.
-/

namespace Mqtt5

open Client

variable {env : Env} {a : Bool} {b : Scope} {act : Act} {s t u : Client} {sys sys' : Sys}
  {gone gone' : TimeoutCb → Prop}

/-! ## Slots -/

/-- The slots and their owners, given as the timer behind each callback. A slot may also be armed for an
owner that is gone. -/
structure SlotsOk (owns : Option Nat → TimeoutCb → Prop) (gone : TimeoutCb → Prop) (m : TimerMgr) :
    Prop where
  func : ∀ {t t' : Option Nat} {cb : TimeoutCb}, owns t cb → owns t' cb → t = t'
  inj : ∀ {i : Nat} {cb cb' : TimeoutCb}, owns (some i) cb → owns (some i) cb' → cb = cb'
  slot : ∀ {i : Nat} {cb : TimeoutCb}, owns (some i) cb →
    ∃ info, m.timers[i]? = some info ∧ info.allocated = true
  armed : ∀ {i : Nat} {info : TimerInfo} {cb : TimeoutCb}, m.timers[i]? = some info →
    info.timeoutCb = some cb → owns (some i) cb ∨ gone cb
  used : ∀ {i : Nat} {info : TimerInfo}, m.timers[i]? = some info → info.allocated = true →
    ∃ cb, owns (some i) cb
  counted : m.allocatedTimers = m.allocCount

section Slots

variable {owns owns' : Option Nat → TimeoutCb → Prop} {m m' : TimerMgr} {timer : Option Nat}
  {cb : TimeoutCb}

/-- Only what is owned matters. -/
theorem SlotsOk.congr (h : SlotsOk owns gone m) (heq : ∀ timer cb, owns' timer cb ↔ owns timer cb) :
    SlotsOk owns' gone m where
  func := fun h₁ h₂ => h.func ((heq _ _).mp h₁) ((heq _ _).mp h₂)
  inj := fun h₁ h₂ => h.inj ((heq _ _).mp h₁) ((heq _ _).mp h₂)
  slot := fun h₁ => h.slot ((heq _ _).mp h₁)
  armed := fun hget hcb => (h.armed hget hcb).imp_left (heq _ _).mpr
  used := fun hget halloc => (h.used hget halloc).imp fun _ hown => (heq _ _).mpr hown
  counted := h.counted

/-- The slots after a change of the ones that are allocated. -/
theorem SlotsOk.map (h : SlotsOk owns gone m) (hget : ∀ i info', m'.timers[i]? = some info' →
      ∃ info, m.timers[i]? = some info ∧ info'.allocated = info.allocated ∧
        ∀ cb, info'.timeoutCb = some cb → owns (some i) cb ∨ gone cb)
    (hlen : m'.timers.length = m.timers.length) (hcount : m'.allocatedTimers = m.allocatedTimers) :
    SlotsOk owns gone m' where
  func := h.func
  inj := h.inj
  slot := fun {i cb} hown => by
    obtain ⟨info, hi, halloc⟩ := h.slot hown
    have hlt : i < m'.timers.length := by
      rw [hlen]
      exact (List.getElem?_eq_some_iff.mp hi).1
    obtain ⟨info₀, hi₀, heq, -⟩ := hget i _ (List.getElem?_eq_getElem hlt)
    rw [hi] at hi₀
    obtain rfl := Option.some.inj hi₀
    exact ⟨_, List.getElem?_eq_getElem hlt, heq.trans halloc⟩
  armed := fun {i info cb} hi hcb => by
    obtain ⟨-, -, -, harmed⟩ := hget i info hi
    exact harmed cb hcb
  used := fun {i info} hi halloc => by
    obtain ⟨info₀, hi₀, heq, -⟩ := hget i info hi
    exact h.used hi₀ (heq.symm.trans halloc)
  counted := by
    have hsame : m'.timers.map (·.allocated) = m.timers.map (·.allocated) := by
      refine List.ext_getElem (by simpa using hlen) fun i hi' hi => ?_
      rw [List.length_map] at hi' hi
      obtain ⟨info, hget, heq, -⟩ := hget i _ (List.getElem?_eq_getElem hi')
      rw [List.getElem?_eq_getElem hi] at hget
      rw [List.getElem_map, List.getElem_map, heq, Option.some.inj hget]
    have hcountP : ∀ l : List TimerInfo, l.countP (·.allocated) = (l.map (·.allocated)).countP id := by
      intro l
      rw [List.countP_map]
      rfl
    rw [hcount, h.counted]
    unfold TimerMgr.allocCount
    rw [hcountP, hcountP, hsame]

/-- A change of a slot on behalf of its owner, or of one that is gone. -/
theorem SlotsOk.modifySlot {idx : Nat} (h : SlotsOk owns gone m)
    (hown : owns (some idx) cb ∨ gone cb) {f : TimerInfo → TimerInfo}
    (halloc : ∀ info, (f info).allocated = info.allocated)
    (hcb : ∀ info, (f info).timeoutCb = none ∨ (f info).timeoutCb = some cb ∨
      (f info).timeoutCb = info.timeoutCb) : SlotsOk owns gone (m.modifySlot idx f) := by
  refine h.map (fun i info' hi => ?_) (List.length_modify ..) rfl
  have hi : (m.timers.modify idx f)[i]? = some info' := hi
  rw [List.getElem?_modify] at hi
  obtain ⟨info, hget, rfl⟩ := Option.map_eq_some_iff.mp hi
  refine ⟨info, hget, ?_, fun cb' hcb' => ?_⟩
  · split
    · exact halloc info
    · rfl
  · split at hcb'
    · rename_i heq
      subst heq
      rcases hcb info with h' | h' | h'
      · rw [h'] at hcb'
        cases hcb'
      · rw [h'] at hcb'
        obtain rfl := Option.some.inj hcb'
        exact hown
      · exact h.armed hget (h' ▸ hcb')
    · exact h.armed hget hcb'

/-- A slot is armed with the callback of its owner, or with one that may be left over. -/
theorem SlotsOk.wait (h : SlotsOk owns gone m) (hown : owns timer cb ∨ gone cb) (ms : Nat) :
    SlotsOk owns gone (m.wait timer ms cb) := by
  cases timer with
  | none => exact h
  | some idx => exact h.modifySlot hown (fun _ => rfl) fun _ => Or.inr (Or.inl rfl)

/-- A timer is cancelled by its owner. -/
theorem SlotsOk.cancel (h : SlotsOk owns gone m) (hown : owns timer cb) : SlotsOk owns gone (m.cancel timer) := by
  cases timer with
  | none => exact h
  | some idx => exact h.modifySlot (Or.inl hown) (fun _ => rfl) fun _ => Or.inl rfl

/-- A timer is suspended and resumed by its owner. -/
theorem SlotsOk.setSuspended (h : SlotsOk owns gone m) (hown : owns timer cb) (down : Bool) :
    SlotsOk owns gone (m.setSuspended timer down) := by
  cases timer with
  | none => exact h
  | some idx =>
    unfold TimerMgr.setSuspended
    dsimp only
    split
    · exact h.modifySlot (Or.inl hown) (fun _ => rfl) fun _ => Or.inr (Or.inr rfl)
    · exact h

/-- Reported time keeps the slots. -/
theorem SlotsOk.expire (h : SlotsOk owns gone m) (ms : Nat) : SlotsOk owns gone (m.expire ms).1 := by
  refine h.map (fun i info' hi => ?_) (List.length_map _) rfl
  have hi : (m.timers.map (·.advance ms))[i]? = some info' := hi
  rw [List.getElem?_map] at hi
  obtain ⟨info, hget, rfl⟩ := Option.map_eq_some_iff.mp hi
  obtain ⟨halloc, -, hcb⟩ := TimerInfo.advance_cases ms info
  refine ⟨info, hget, halloc, fun cb hcb' => ?_⟩
  rcases hcb with hnone | hsame
  · rw [hnone] at hcb'
    cases hcb'
  · exact h.armed hget (hsame ▸ hcb')

/-- The slots of an allocation: the new one was free, the others are the same. -/
theorem TimerMgr.allocTimer_cases (limit : Nat) (m : TimerMgr) :
    ((m.allocTimer limit).2 = none ∧ (m.allocTimer limit).1 = m) ∨
      ∃ idx, (m.allocTimer limit).2 = some idx ∧
        (∀ info, m.timers[idx]? = some info → info.allocated = false) ∧
        (∃ info, (m.allocTimer limit).1.timers[idx]? = some info ∧ info.allocated = true ∧
          (m.timers[idx]? = none ∧ info.timeoutCb = none ∨
            ∃ old, m.timers[idx]? = some old ∧ info = { old with allocated := true })) ∧
        ∀ i, i ≠ idx → (m.allocTimer limit).1.timers[i]? = m.timers[i]? := by
  unfold TimerMgr.allocTimer
  dsimp only
  set idx := m.timers.findIdx (fun info => !info.allocated) with hidx
  split
  · rename_i hroom
    have hfree := List.findIdx_getElem (p := fun info : TimerInfo => !info.allocated) (w := hroom.2)
    simp only [Bool.not_eq_true'] at hfree
    refine Or.inr ⟨idx, rfl, fun info hi => ?_, ?_, fun i hne => ?_⟩
    · rw [List.getElem?_eq_getElem hroom.2] at hi
      obtain rfl := Option.some.inj hi
      exact hfree
    · refine ⟨_, by rw [List.getElem?_modify_eq, List.getElem?_eq_getElem hroom.2]; rfl, rfl,
        Or.inr ⟨_, List.getElem?_eq_getElem hroom.2, rfl⟩⟩
    · exact List.getElem?_modify_ne _ _ (Ne.symm hne)
  · split
    · exact Or.inl ⟨rfl, rfl⟩
    · refine Or.inr ⟨m.timers.length, rfl, fun info hi => ?_, ?_, fun i hne => ?_⟩
      · rw [List.getElem?_eq_none (Nat.le_refl _)] at hi
        cases hi
      · refine ⟨{ allocated := true }, ?_, rfl, Or.inl ⟨List.getElem?_eq_none (Nat.le_refl _), rfl⟩⟩
        exact List.getElem?_concat_length
      · rcases Nat.lt_or_gt_of_ne hne with hlt | hgt
        · exact List.getElem?_append_left hlt
        · rw [List.getElem?_eq_none (by simp; omega), List.getElem?_eq_none (by omega)]

/-- A new owner gets a slot nobody owns, or none. -/
theorem SlotsOk.alloc (h : SlotsOk owns gone m) (limit : Nat) (cb : TimeoutCb)
    (hnew : ∀ timer, ¬owns timer cb) :
    SlotsOk (fun timer cb' => owns timer cb' ∨ timer = (m.allocTimer limit).2 ∧ cb' = cb) gone
      (m.allocTimer limit).1 := by
  rcases TimerMgr.allocTimer_cases limit m with ⟨hnone, hm⟩ | ⟨idx, hidx, hfree, hslot, hrest⟩
  · rw [hnone, hm]
    refine ⟨?_, ?_, ?_, fun hi hcb => (h.armed hi hcb).imp_left Or.inl,
      fun hi halloc => (h.used hi halloc).imp fun _ => Or.inl, h.counted⟩
    · rintro t t' cb' (h₁ | ⟨rfl, rfl⟩) (h₂ | ⟨rfl, h₂⟩)
      · exact h.func h₁ h₂
      · exact absurd (h₂ ▸ h₁) (hnew _)
      · exact absurd h₂ (hnew _)
      · rfl
    · rintro i cb' cb'' (h₁ | ⟨h₁, -⟩) (h₂ | ⟨h₂, -⟩)
      · exact h.inj h₁ h₂
      · cases h₂
      · cases h₁
      · cases h₁
    · rintro i cb' (h₁ | ⟨h₁, -⟩)
      · exact h.slot h₁
      · cases h₁
  · rw [hidx]
    have hunowned : ∀ cb', ¬owns (some idx) cb' := fun cb' hown => by
      obtain ⟨info, hi, halloc⟩ := h.slot hown
      rw [hfree info hi] at halloc
      cases halloc
    obtain ⟨info, hget, halloc, hold⟩ := hslot
    refine ⟨?_, ?_, ?_, ?_, ?_, TimerMgr.allocCount_allocTimer h.counted⟩
    · rintro t t' cb' (h₁ | ⟨rfl, rfl⟩) (h₂ | ⟨rfl, h₂⟩)
      · exact h.func h₁ h₂
      · exact absurd (h₂ ▸ h₁) (hnew _)
      · exact absurd h₂ (hnew _)
      · rfl
    · rintro i cb' cb'' (h₁ | ⟨h₁, rfl⟩) (h₂ | ⟨h₂, rfl⟩)
      · exact h.inj h₁ h₂
      · rw [h₂] at h₁
        exact absurd h₁ (hunowned _)
      · rw [h₁] at h₂
        exact absurd h₂ (hunowned _)
      · rfl
    · rintro i cb' (h₁ | ⟨h₁, -⟩)
      · have hne : i ≠ idx := by
          rintro rfl
          exact hunowned cb' h₁
        rw [hrest i hne]
        exact h.slot h₁
      · rw [Option.some.inj h₁]
        exact ⟨info, hget, halloc⟩
    · intro i info' cb' hi hcb
      by_cases heq : i = idx
      · subst heq
        rw [hget] at hi
        obtain rfl := Option.some.inj hi
        rcases hold with ⟨-, hnone⟩ | ⟨old, hget', rfl⟩
        · rw [hnone] at hcb
          cases hcb
        · exact (h.armed hget' hcb).imp_left Or.inl
      · exact (h.armed (hrest i heq ▸ hi) hcb).imp_left Or.inl
    · intro i info' hi htrue
      by_cases heq : i = idx
      · exact ⟨cb, Or.inr ⟨congrArg some heq, rfl⟩⟩
      · exact (h.used (hrest i heq ▸ hi) htrue).imp fun _ => Or.inl

/-- An owner gives its slot back. -/
theorem SlotsOk.freeTimer (h : SlotsOk owns gone m) (timer : Option Nat) (cb : TimeoutCb)
    (hown : owns timer cb) :
    SlotsOk (fun timer cb' => owns timer cb' ∧ cb' ≠ cb) gone (m.freeTimer timer) := by
  cases timer with
  | none =>
    -- no slot belongs to an owner whose timer is invalid
    have hother : ∀ {i : Nat} {cb' : TimeoutCb}, owns (some i) cb' → cb' ≠ cb := by
      rintro i _ hown' rfl
      have heq := h.func hown hown'
      cases heq
    exact ⟨fun h₁ h₂ => h.func h₁.1 h₂.1, fun h₁ h₂ => h.inj h₁.1 h₂.1, fun h₁ => h.slot h₁.1,
      fun hi hcb => (h.armed hi hcb).imp_left fun hown' => ⟨hown', hother hown'⟩,
      fun hi halloc => (h.used hi halloc).imp fun _ hown' => ⟨hown', hother hown'⟩, h.counted⟩
  | some idx =>
    obtain ⟨info, hget, halloc⟩ := h.slot hown
    have hcount := TimerMgr.allocCount_freeTimer h.counted (TimerMgr.inUse_iff.mpr ⟨info, hget, halloc⟩)
    have hlt : idx < m.timers.length := (List.getElem?_eq_some_iff.mp hget).1
    have hm : m.freeTimer (some idx) =
        { timers := m.timers.set idx {}, allocatedTimers := m.allocatedTimers - 1 } := by
      unfold TimerMgr.freeTimer
      dsimp only
      rw [if_neg (by omega)]
    rw [hm] at hcount ⊢
    refine ⟨fun h₁ h₂ => h.func h₁.1 h₂.1, fun h₁ h₂ => h.inj h₁.1 h₂.1, ?_, ?_, ?_, hcount⟩
    · rintro i cb' ⟨h₁, hne⟩
      have hi : idx ≠ i := by
        rintro rfl
        exact hne (h.inj h₁ hown)
      rw [List.getElem?_set_ne hi]
      exact h.slot h₁
    · intro i info' cb' hi hcb
      by_cases heq : idx = i
      · subst heq
        rw [List.getElem?_set_self hlt] at hi
        obtain rfl := Option.some.inj hi
        cases hcb
      · rw [List.getElem?_set_ne heq] at hi
        refine (h.armed hi hcb).imp_left fun hown' => ⟨hown', ?_⟩
        rintro rfl
        exact heq (Option.some.inj (h.func hown hown'))
    · intro i info' hi htrue
      by_cases heq : idx = i
      · subst heq
        rw [List.getElem?_set_self hlt] at hi
        obtain rfl := Option.some.inj hi
        cases htrue
      · rw [List.getElem?_set_ne heq] at hi
        obtain ⟨cb', hown'⟩ := h.used hi htrue
        refine ⟨cb', hown', ?_⟩
        rintro rfl
        exact heq (Option.some.inj (h.func hown hown'))

end Slots

/-! ## The timers of a client -/

def TimersOk (gone : TimeoutCb → Prop) (s : Client) : Prop := SlotsOk s.owns gone s.timerMgr

/-- The operations have the same timers. -/
structure SameTimers (s t : Client) : Prop where
  session : t.sessionExpiryTimer = s.sessionExpiryTimer
  connect : t.connectOps.map (fun op => (op.id, op.timer)) =
    s.connectOps.map fun op => (op.id, op.timer)
  keepAlive : t.keepAliveOps.map (fun op => (op.id, op.pingTimer, op.recvTimer, op.respTimer)) =
    s.keepAliveOps.map fun op => (op.id, op.pingTimer, op.recvTimer, op.respTimer)
  subscribe : t.subscribeOps.map (fun op => (op.id, op.timer)) =
    s.subscribeOps.map fun op => (op.id, op.timer)
  unsubscribe : t.unsubscribeOps.map (fun op => (op.id, op.timer)) =
    s.unsubscribeOps.map fun op => (op.id, op.timer)
  recv : t.recvOps.map (fun op => (op.id, op.responseTimer)) =
    s.recvOps.map fun op => (op.id, op.responseTimer)
  send : t.sendOps.map (fun op => (op.id, op.responseTimer)) =
    s.sendOps.map fun op => (op.id, op.responseTimer)
  reauth : t.reauthOps.map (fun op => (op.id, op.timer)) =
    s.reauthOps.map fun op => (op.id, op.timer)

theorem exists_mem_of_map {α β : Type} {f : α → β} {l l' : List α} (h : l'.map f = l.map f)
    (p : β → Prop) : (∃ x ∈ l', p (f x)) ↔ ∃ x ∈ l, p (f x) := by
  have hmap : ∀ l : List α, (∃ x ∈ l, p (f x)) ↔ ∃ y ∈ l.map f, p y := fun l => by
    simp only [List.mem_map]
    exact ⟨fun ⟨x, hx, hp⟩ => ⟨f x, ⟨x, hx, rfl⟩, hp⟩, fun ⟨y, ⟨x, hx, hy⟩, hp⟩ => ⟨x, hx, hy ▸ hp⟩⟩
  rw [hmap, hmap, h]

/-- The same timers are owned by the same operations. -/
theorem SameTimers.owns (h : SameTimers s t) (timer : Option Nat) (cb : TimeoutCb) :
    t.owns timer cb ↔ s.owns timer cb := by
  cases cb with
  | sessionExpiry =>
    show timer = _ ↔ timer = _
    rw [h.session]
  | connectTimeout id => exact exists_mem_of_map h.connect fun p => p.1 = id ∧ p.2 = timer
  | keepAlivePing id => exact exists_mem_of_map h.keepAlive fun p => p.1 = id ∧ p.2.1 = timer
  | keepAliveRecv id => exact exists_mem_of_map h.keepAlive fun p => p.1 = id ∧ p.2.2.1 = timer
  | keepAliveResp id => exact exists_mem_of_map h.keepAlive fun p => p.1 = id ∧ p.2.2.2 = timer
  | subscribeTimeout id => exact exists_mem_of_map h.subscribe fun p => p.1 = id ∧ p.2 = timer
  | unsubscribeTimeout id => exact exists_mem_of_map h.unsubscribe fun p => p.1 = id ∧ p.2 = timer
  | recvTimeout id => exact exists_mem_of_map h.recv fun p => p.1 = id ∧ p.2 = timer
  | sendTimeout id => exact exists_mem_of_map h.send fun p => p.1 = id ∧ p.2 = timer
  | reauthTimeout id => exact exists_mem_of_map h.reauth fun p => p.1 = id ∧ p.2 = timer

/-- Operations that are the same have the same timers. -/
theorem SameTimers.of_same (h : SameOps s t) (hs : t.sessionExpiryTimer = s.sessionExpiryTimer) :
    SameTimers s t where
  session := hs
  connect := by rw [h.connectOps]
  keepAlive := by rw [h.keepAliveOps]
  subscribe := by rw [h.subscribeOps]
  unsubscribe := by rw [h.unsubscribeOps]
  recv := by rw [h.recvOps]
  send := by rw [h.sendOps]
  reauth := by rw [h.reauthOps]

/-- The timers and the slots are the same. -/
theorem TimersOk.same (h : TimersOk gone s) (hsame : SameTimers s t) (hm : t.timerMgr = s.timerMgr) :
    TimersOk gone t := by
  unfold TimersOk
  rw [hm]
  exact SlotsOk.congr h hsame.owns

/-- The slots change, the timers do not. -/
theorem TimersOk.slots {m : TimerMgr} (h : SlotsOk s.owns gone m) : TimersOk gone { s with timerMgr := m } :=
  SlotsOk.congr h fun timer cb => by cases cb <;> exact Iff.rfl

/-! ### One list -/

/-- The owners after an operation was added; `cb` gives the callback of an operation. -/
theorem exists_append_iff {α : Type} {key : α → OpId} {timerOf : α → Option Nat} {l : List α} {x : α}
    (cb : OpId → TimeoutCb) (hcb : ∀ {i j}, cb i = cb j → i = j) {id : OpId} {timer : Option Nat} :
    (∃ op ∈ l ++ [x], key op = id ∧ timerOf op = timer) ↔
      (∃ op ∈ l, key op = id ∧ timerOf op = timer) ∨ timer = timerOf x ∧ cb id = cb (key x) := by
  simp only [List.mem_append, List.mem_singleton]
  constructor
  · rintro ⟨op, hop | rfl, rfl, rfl⟩
    · exact Or.inl ⟨op, hop, rfl, rfl⟩
    · exact Or.inr ⟨rfl, rfl⟩
  · rintro (⟨op, hop, h⟩ | ⟨rfl, h⟩)
    · exact ⟨op, Or.inl hop, h⟩
    · exact ⟨x, Or.inr rfl, (hcb h).symm, rfl⟩

/-- The owners after an operation was removed. -/
theorem exists_erase_iff {α : Type} {key : α → OpId} {timerOf : α → Option Nat} {l : List α}
    {k : OpId} (cb : OpId → TimeoutCb) (hcb : ∀ {i j}, cb i = cb j → i = j) {id : OpId}
    {timer : Option Nat} (hd : Keyed.Distinct key l) :
    (∃ op ∈ l.eraseP (fun op => key op == k), key op = id ∧ timerOf op = timer) ↔
      (∃ op ∈ l, key op = id ∧ timerOf op = timer) ∧ cb id ≠ cb k := by
  have hmem : ∀ op, op ∈ l.eraseP (fun op => key op == k) ↔ op ∈ l ∧ key op ≠ k :=
    fun op => hd.mem_erase
  simp only [hmem]
  constructor
  · rintro ⟨op, ⟨hop, hne⟩, rfl, ht⟩
    exact ⟨⟨op, hop, rfl, ht⟩, fun h => hne (hcb h)⟩
  · rintro ⟨⟨op, hop, rfl, ht⟩, hne⟩
    exact ⟨op, ⟨hop, fun h => hne (h ▸ rfl)⟩, rfl, ht⟩

theorem exists_erased {α : Type} {key : α → OpId} (timerOf : α → Option Nat) {l : List α} {op : α}
    {k : OpId} (h : l.find? (fun op => key op == k) = some op) :
    ∃ x ∈ l, key x = k ∧ timerOf x = timerOf op :=
  ⟨op, (Keyed.mem_of_find h).1, (Keyed.mem_of_find h).2, rfl⟩

/-! ## Creation -/

/-- The operation behind a callback. -/
def TimeoutCb.ref : TimeoutCb → Option OpRef
  | .sessionExpiry => none
  | .connectTimeout id => some ⟨.connect, id⟩
  | .keepAlivePing id | .keepAliveRecv id | .keepAliveResp id => some ⟨.keepAlive, id⟩
  | .subscribeTimeout id => some ⟨.subscribe, id⟩
  | .unsubscribeTimeout id => some ⟨.unsubscribe, id⟩
  | .recvTimeout id => some ⟨.recv, id⟩
  | .sendTimeout id => some ⟨.send, id⟩
  | .reauthTimeout id => some ⟨.reauth, id⟩

/-- The owner of a timer is there. -/
theorem mem_ids_of_owns {timer : Option Nat} {cb : TimeoutCb} (h : s.owns timer cb) {ref : OpRef}
    (href : cb.ref = some ref) : ref.id ∈ s.ids ref.type := by
  cases cb <;> cases href <;> obtain ⟨op, hop, hid, -⟩ := h <;>
    exact List.mem_map.mpr ⟨op, hop, hid⟩

/-- The next identifier has no timer yet. -/
theorem Registered.no_owner (h : Registered s) {cb : TimeoutCb} (ref : OpRef) (href : cb.ref = some ref)
    (hid : ref.id = s.nextOpId) (timer : Option Nat) : ¬s.owns timer cb := fun hown => by
  have hlt := h.lt ref.type ref.id (mem_ids_of_owns hown href)
  rw [hid] at hlt
  exact Nat.lt_irrefl _ hlt

/-- A new operation has one timer, which is new. -/
theorem TimersOk.create (h : TimersOk gone s) (hreg : Registered s) (limit : Nat) (cb : TimeoutCb)
    {ref : OpRef} (href : cb.ref = some ref) (hid : ref.id = s.nextOpId)
    (hm : t.timerMgr = (s.timerMgr.allocTimer limit).1)
    (howns : ∀ timer cb', t.owns timer cb' ↔
      s.owns timer cb' ∨ timer = (s.timerMgr.allocTimer limit).2 ∧ cb' = cb) : TimersOk gone t := by
  unfold TimersOk
  rw [hm]
  exact (SlotsOk.alloc h limit cb (hreg.no_owner _ href hid)).congr howns

/-! ## Completion -/

/-- An operation goes with its timer. -/
theorem TimersOk.free (h : TimersOk gone s) (timer : Option Nat) (cb : TimeoutCb) (hown : s.owns timer cb)
    (hm : t.timerMgr = s.timerMgr.freeTimer timer)
    (howns : ∀ timer cb', t.owns timer cb' ↔ s.owns timer cb' ∧ cb' ≠ cb) : TimersOk gone t := by
  unfold TimersOk
  rw [hm]
  exact (SlotsOk.freeTimer h timer cb hown).congr howns

theorem assert_eq (site : Site) (c : Bool) (s : Client) :
    ∃ faults, s.assert site c = { s with faults := faults } := by
  unfold Client.assert
  split
  · exact ⟨s.faults, rfl⟩
  · exact ⟨_, rfl⟩

/-- Another callback has the owners it had. -/
theorem or_new_iff {p q : Prop} (h : ¬q) : p ↔ p ∨ q := (or_iff_left h).symm

/-- The creation of an operation keeps the account. -/
theorem Prim.timersOk_create (type : OpType) (h : Prim (.create type) s t) (hreg : Registered s)
    (hs : TimersOk gone s) : TimersOk gone t := by
  cases h with
  | createConnect env =>
    refine hs.create hreg env.cfg.timersLimit (.connectTimeout s.nextOpId) rfl rfl rfl
      fun timer cb => ?_
    cases cb with
    | connectTimeout id => exact exists_append_iff .connectTimeout TimeoutCb.connectTimeout.inj
    | _ => exact or_new_iff fun h => nomatch h.2
  | createDisconnect => exact hs.same ⟨rfl, rfl, rfl, rfl, rfl, rfl, rfl, rfl⟩ rfl
  | createSubscribe env =>
    refine hs.create hreg env.cfg.timersLimit (.subscribeTimeout s.nextOpId) rfl rfl rfl
      fun timer cb => ?_
    cases cb with
    | subscribeTimeout id => exact exists_append_iff .subscribeTimeout TimeoutCb.subscribeTimeout.inj
    | _ => exact or_new_iff fun h => nomatch h.2
  | createUnsubscribe env =>
    refine hs.create hreg env.cfg.timersLimit (.unsubscribeTimeout s.nextOpId) rfl rfl rfl
      fun timer cb => ?_
    cases cb with
    | unsubscribeTimeout id =>
      exact exists_append_iff .unsubscribeTimeout TimeoutCb.unsubscribeTimeout.inj
    | _ => exact or_new_iff fun h => nomatch h.2
  | createReauth env =>
    refine hs.create hreg env.cfg.timersLimit (.reauthTimeout s.nextOpId) rfl rfl rfl
      fun timer cb => ?_
    cases cb with
    | reauthTimeout id => exact exists_append_iff .reauthTimeout TimeoutCb.reauthTimeout.inj
    | _ => exact or_new_iff fun h => nomatch h.2
  | createSend env =>
    unfold Client.createSendOp Client.assert
    dsimp only
    split
    all_goals
      refine hs.create hreg env.cfg.timersLimit (.sendTimeout s.nextOpId) rfl rfl rfl
        fun timer cb => ?_
      cases cb with
      | sendTimeout id => exact exists_append_iff .sendTimeout TimeoutCb.sendTimeout.inj
      | _ => exact or_new_iff fun h => nomatch h.2
  | createRecv env =>
    unfold Client.registerRecvOp Client.assert
    dsimp only
    split
    all_goals
      refine hs.create hreg env.cfg.timersLimit (.recvTimeout s.nextOpId) rfl rfl rfl
        fun timer cb => ?_
      cases cb with
      | recvTimeout id => exact exists_append_iff .recvTimeout TimeoutCb.recvTimeout.inj
      | _ => exact or_new_iff fun h => nomatch h.2
  | createKeepAlive env hnil =>
    have hping := SlotsOk.alloc hs env.cfg.timersLimit (.keepAlivePing s.nextOpId)
      (hreg.no_owner ⟨.keepAlive, s.nextOpId⟩ rfl rfl)
    have hrecv := hping.alloc env.cfg.timersLimit (.keepAliveRecv s.nextOpId) fun timer hown =>
      hown.elim (hreg.no_owner ⟨.keepAlive, s.nextOpId⟩ rfl rfl timer) fun h => nomatch h.2
    have hresp := hrecv.alloc env.cfg.timersLimit (.keepAliveResp s.nextOpId) fun timer hown =>
      hown.elim (fun hown => hown.elim (hreg.no_owner ⟨.keepAlive, s.nextOpId⟩ rfl rfl timer)
        fun h => nomatch h.2) fun h => nomatch h.2
    set ping := s.timerMgr.allocTimer env.cfg.timersLimit with hpingdef
    set recv := ping.1.allocTimer env.cfg.timersLimit
    set resp := recv.1.allocTimer env.cfg.timersLimit
    have hcreated : ∀ u : Client, u.timerMgr = resp.1 → u.sessionExpiryTimer = s.sessionExpiryTimer →
        SameOps s u → TimersOk gone { u.registerOp .keepAlive with keepAliveOps := u.keepAliveOps ++
          [{ id := u.nextOpId, pingTimer := ping.2, recvTimer := recv.2, respTimer := resp.2 }] } := by
      intro u hm hexp hsame
      have hu := SameTimers.of_same hsame hexp
      unfold TimersOk
      show SlotsOk _ gone u.timerMgr
      rw [hm]
      refine hresp.congr fun timer cb => ?_
      have howns := hu.owns timer cb
      -- each of the three callbacks has one new owner
      cases cb with
      | keepAlivePing id =>
        refine (exists_append_iff .keepAlivePing TimeoutCb.keepAlivePing.inj).trans ?_
        rw [hsame.keepAliveOps, hsame.nextOpId]
        exact (or_new_iff fun h => nomatch h.2).trans (or_new_iff fun h => nomatch h.2)
      | keepAliveRecv id =>
        refine (exists_append_iff .keepAliveRecv TimeoutCb.keepAliveRecv.inj).trans ?_
        rw [hsame.keepAliveOps, hsame.nextOpId]
        exact (or_congr_left (or_new_iff fun h => nomatch h.2)).trans (or_new_iff fun h => nomatch h.2)
      | keepAliveResp id =>
        refine (exists_append_iff .keepAliveResp TimeoutCb.keepAliveResp.inj).trans ?_
        rw [hsame.keepAliveOps, hsame.nextOpId]
        exact or_congr_left
          ((or_new_iff fun h => nomatch h.2).trans (or_new_iff fun h => nomatch h.2))
      | _ =>
        exact howns.trans ((or_new_iff fun h => nomatch h.2).trans
          ((or_new_iff fun h => nomatch h.2).trans (or_new_iff fun h => nomatch h.2)))
    unfold Client.createKeepAliveOpIfNeeded
    rw [if_neg (by simp [hnil])]
    split
    · exact hs.same ⟨rfl, rfl, rfl, rfl, rfl, rfl, rfl, rfl⟩ rfl
    · dsimp only
      obtain ⟨faults, hu⟩ := assert_eq .timer (ping.2.isSome && recv.2.isSome && resp.2.isSome)
        { s with timerMgr := resp.1 }
      have hc := hcreated { s with timerMgr := resp.1, faults := faults } rfl rfl
        ⟨rfl, rfl, rfl, rfl, rfl, rfl, rfl, rfl, rfl, rfl, rfl, rfl⟩
      have hassert : ((((s.timerAlloc env).1.timerAlloc env).1.timerAlloc env).1.assert .timer
          ((s.timerAlloc env).2.isSome && ((s.timerAlloc env).1.timerAlloc env).2.isSome &&
            (((s.timerAlloc env).1.timerAlloc env).1.timerAlloc env).2.isSome)) =
              { s with timerMgr := resp.1, faults := faults } := hu
      rw [hassert]
      unfold Client.restartPingTimer
      split
      · exact hc
      · refine .slots (SlotsOk.wait hc (Or.inl (show Client.owns _ ping.2 (.keepAlivePing s.nextOpId) from ?_)) _)
        exact ⟨_, List.mem_append_right _ (List.mem_singleton.mpr rfl), rfl, rfl⟩

/-! ## Updates of the operations -/

theorem map_modifyFirst_keeps {α β : Type} {key : α → OpId} {f : α → β} {l : List α} {op x : α}
    (hd : Keyed.Distinct key l) (hop : op ∈ l) (hid : key x = key op) (hf : f x = f op) :
    (modifyFirst (fun y => key y == key x) (fun _ => x) l).map f = l.map f := by
  rw [hid]
  exact map_modifyFirst (hd.find hop) hf

theorem map_map_keeps {α β : Type} {key : α → OpId} {id : OpId} {g : α → β} {f : α → α} {l : List α}
    (hf : ∀ x ∈ l, key x = id → g (f x) = g x) :
    (l.map fun x => if key x == id then f x else x).map g = l.map g := by
  rw [List.map_map]
  refine List.map_congr_left fun x hx => ?_
  show g (if key x == id then f x else x) = g x
  split
  · rename_i hid
    exact hf x hx (beq_iff_eq.mp hid)
  · rfl

/-- So does an update of an operation. -/
theorem Prim.timersOk_set (h : Prim act s t) (hact : (∃ type, act = .set type) ∨
      (∃ type, act = .mark type) ∨ ∃ type, act = .take type)
    (hreg : Registered s) (hs : TimersOk gone s) : TimersOk gone t := by
  have hd := fun type => hreg.nodup type
  have halloc : ∀ env, SameTimers s (s.allocPacketId env).1 ∧
      (s.allocPacketId env).1.timerMgr = s.timerMgr := fun env => by
    rw [allocPacketId_same]
    exact ⟨⟨rfl, rfl, rfl, rfl, rfl, rfl, rfl, rfl⟩, rfl⟩
  have hsend : ∀ (op : SendOp), op ∈ s.sendOps → ∀ x ∈ s.sendOps, x.id = op.id → x = op :=
    fun op hop x hx hid => Keyed.Distinct.eq (hd .send) hx hop hid
  cases h with
  | setConnect op x hop hx =>
    exact hs.same ⟨rfl, map_modifyFirst_keeps (hd .connect) hop hx.id (by rw [hx.id, hx.timer]), rfl, rfl,
      rfl, rfl, rfl, rfl⟩ rfl
  | markConnect op hop =>
    exact hs.same ⟨rfl, map_modifyFirst_keeps (hd .connect) hop rfl rfl, rfl, rfl, rfl, rfl, rfl, rfl⟩ rfl
  | setDisconnect => exact hs.same ⟨rfl, rfl, rfl, rfl, rfl, rfl, rfl, rfl⟩ rfl
  | markDisconnect => exact hs.same ⟨rfl, rfl, rfl, rfl, rfl, rfl, rfl, rfl⟩ rfl
  | setSubscribe op x hop hx =>
    exact hs.same ⟨rfl, rfl, rfl, map_modifyFirst_keeps (hd .subscribe) hop hx.id
      (by rw [hx.id, hx.timer]), rfl, rfl, rfl, rfl⟩ rfl
  | markSubscribe op hop =>
    exact hs.same ⟨rfl, rfl, rfl, map_modifyFirst_keeps (hd .subscribe) hop rfl rfl, rfl, rfl, rfl,
      rfl⟩ rfl
  | setUnsubscribe op x hop hx =>
    exact hs.same ⟨rfl, rfl, rfl, rfl, map_modifyFirst_keeps (hd .unsubscribe) hop hx.id
      (by rw [hx.id, hx.timer]), rfl, rfl, rfl⟩ rfl
  | markUnsubscribe op hop =>
    exact hs.same ⟨rfl, rfl, rfl, rfl, map_modifyFirst_keeps (hd .unsubscribe) hop rfl rfl, rfl, rfl,
      rfl⟩ rfl
  | setReauth op x hop hx =>
    exact hs.same ⟨rfl, rfl, rfl, rfl, rfl, rfl, rfl, map_modifyFirst_keeps (hd .reauth) hop hx.id
      (by rw [hx.id, hx.timer])⟩ rfl
  | markReauth op hop =>
    exact hs.same ⟨rfl, rfl, rfl, rfl, rfl, rfl, rfl,
      map_modifyFirst_keeps (hd .reauth) hop rfl rfl⟩ rfl
  | setSend id f hf =>
    exact hs.same ⟨rfl, rfl, rfl, rfl, rfl, rfl, map_map_keeps fun x hx hid => by
      rw [(hf x hx hid).id, (hf x hx hid).responseTimer], rfl⟩ rfl
  | publish op hop hpub =>
    exact hs.same ⟨rfl, rfl, rfl, rfl, rfl, rfl, map_map_keeps fun x hx hid => rfl, rfl⟩ rfl
  | markSend op hop =>
    exact hs.same ⟨rfl, rfl, rfl, rfl, rfl, rfl, map_map_keeps fun x hx hid => by
      rw [hsend op hop x hx hid], rfl⟩ rfl
  | setRecv id packetId =>
    exact hs.same ⟨rfl, rfl, rfl, rfl, rfl, map_map_keeps fun x hx hid => rfl, rfl, rfl⟩ rfl
  | takeSubscribe env op hop =>
    obtain ⟨hsame, hm⟩ := halloc env
    have hops : (s.allocPacketId env).1.subscribeOps = s.subscribeOps := by rw [allocPacketId_same]
    exact (hs.same hsame hm).same ⟨rfl, rfl, rfl, map_modifyFirst_keeps
      (show Keyed.Distinct SubscribeOp.id _ from hops ▸ hd .subscribe) (show op ∈ _ from hops ▸ hop)
      rfl rfl, rfl, rfl, rfl, rfl⟩ rfl
  | takeUnsubscribe env op hop =>
    obtain ⟨hsame, hm⟩ := halloc env
    have hops : (s.allocPacketId env).1.unsubscribeOps = s.unsubscribeOps := by rw [allocPacketId_same]
    exact (hs.same hsame hm).same ⟨rfl, rfl, rfl, rfl, map_modifyFirst_keeps
      (show Keyed.Distinct UnsubscribeOp.id _ from hops ▸ hd .unsubscribe) (show op ∈ _ from hops ▸ hop)
      rfl rfl, rfl, rfl, rfl⟩ rfl
  | takeSend env op x hop hx =>
    obtain ⟨hsame, hm⟩ := halloc env
    have hops : (s.allocPacketId env).1.sendOps = s.sendOps := by rw [allocPacketId_same]
    refine (hs.same hsame hm).same ⟨rfl, rfl, rfl, rfl, rfl, rfl, map_map_keeps fun y hy hid => ?_,
      rfl⟩ rfl
    rw [hops] at hy
    rw [hsend op hop y hy (hid.trans hx.id)]
    show (x.id, x.responseTimer) = _
    rw [hx.id, hx.responseTimer]
  | _ => rcases hact with ⟨type, h⟩ | ⟨type, h⟩ | ⟨type, h⟩ <;> cases h

/-! ## Every update -/

/-- The operation behind a callback was there and is gone. -/
def Client.Gone (s : Client) (cb : TimeoutCb) : Prop :=
  ∃ ref, cb.ref = some ref ∧ ref.id < s.nextOpId ∧ ref.id ∉ s.ids ref.type

/-- The callback of a response timer is that of its operation. -/
theorem ref_responseCb {type : OpType} {id : OpId} {cb : TimeoutCb}
    (h : type.responseCb id = some cb) : cb.ref = some ⟨type, id⟩ := by
  cases type <;> cases h <;> rfl

theorem mem_of_mem_nullify {ref ref' : OpRef} {ops : List (Option OpRef)}
    (h : some ref ∈ nullify ref' ops) : some ref ∈ ops := by
  induction ops with
  | nil => exact h
  | cons p ops ih =>
    unfold nullify at h
    split at h
    · rcases List.mem_cons.mp h with h | h
      · cases h
      · exact List.mem_cons_of_mem _ h
    · rcases List.mem_cons.mp h with h | h
      · exact h ▸ List.mem_cons_self
      · exact List.mem_cons_of_mem _ (ih h)

/-- An operation that is gone does not come back. -/
theorem Prim.gone_of_gone (h : Prim act s t) (hr : Registered s) {cb : TimeoutCb} (hgone : s.Gone cb) :
    t.Gone cb := by
  have ht := h.registered hr
  obtain ⟨ref, href, hlt, hdead⟩ := hgone
  rw [← hr.mem] at hdead
  unfold Client.Gone
  cases h.opsStep with
  | same hops hdeleted hnext =>
    rw [hnext]
    refine ⟨ref, href, hlt, ?_⟩
    rwa [← ht.mem, hops]
  | push type hops hdeleted hnext =>
    rw [hnext]
    refine ⟨ref, href, Nat.lt_succ_of_lt hlt, ?_⟩
    rw [← ht.mem, hops, List.mem_append, List.mem_singleton]
    rintro (hmem | heq)
    · exact hdead hmem
    · obtain rfl := Option.some.inj heq
      exact Nat.lt_irrefl _ hlt
  | nullify ref' hops hdeleted hnext =>
    rw [hnext]
    refine ⟨ref, href, hlt, ?_⟩
    rw [← ht.mem, hops]
    exact fun hmem => hdead (mem_of_mem_nullify hmem)
  | clean hops hnext =>
    rw [hnext]
    refine ⟨ref, href, hlt, ?_⟩
    rw [← ht.mem, hops]
    exact fun hmem => hdead (List.mem_of_mem_filter hmem)

/-- Another callback keeps its owners. -/
theorem and_old_iff {p q : Prop} (h : q) : p ↔ p ∧ q := (and_iff_left h).symm

/-- The erasures free the timers of their operation. -/
theorem TimersOk.eraseRef (ref : OpRef) (hd : ∀ type, (s.ids type).Nodup) (hs : TimersOk gone s) :
    TimersOk gone (eraseRef ref s) := by
  obtain ⟨type, id⟩ := ref
  unfold Mqtt5.eraseRef
  cases type with
  | send => exact hs
  | disconnect =>
    dsimp only
    unfold Client.eraseDisconnectOp
    split
    · exact hs.same ⟨rfl, rfl, rfl, rfl, rfl, rfl, rfl, rfl⟩ rfl
    · exact hs.same ⟨rfl, rfl, rfl, rfl, rfl, rfl, rfl, rfl⟩ rfl
  | connect =>
    dsimp only
    unfold Client.eraseConnectOp
    split
    · exact hs.same ⟨rfl, rfl, rfl, rfl, rfl, rfl, rfl, rfl⟩ rfl
    · rename_i op hop
      refine hs.free op.timer (.connectTimeout id) (exists_erased _ hop) rfl fun timer cb => ?_
      cases cb with
      | connectTimeout id' =>
        exact exists_erase_iff .connectTimeout TimeoutCb.connectTimeout.inj (hd .connect)
      | _ => exact and_old_iff fun h => nomatch h
  | subscribe =>
    dsimp only
    unfold Client.eraseSubscribeOp
    split
    · exact hs.same ⟨rfl, rfl, rfl, rfl, rfl, rfl, rfl, rfl⟩ rfl
    · rename_i op hop
      rw [releasePacketId_eq]
      refine hs.free op.timer (.subscribeTimeout id) (exists_erased _ hop) rfl fun timer cb => ?_
      cases cb with
      | subscribeTimeout id' =>
        exact exists_erase_iff .subscribeTimeout TimeoutCb.subscribeTimeout.inj (hd .subscribe)
      | _ => exact and_old_iff fun h => nomatch h
  | unsubscribe =>
    dsimp only
    unfold Client.eraseUnsubscribeOp
    split
    · exact hs.same ⟨rfl, rfl, rfl, rfl, rfl, rfl, rfl, rfl⟩ rfl
    · rename_i op hop
      rw [releasePacketId_eq]
      refine hs.free op.timer (.unsubscribeTimeout id) (exists_erased _ hop) rfl fun timer cb => ?_
      cases cb with
      | unsubscribeTimeout id' =>
        exact exists_erase_iff .unsubscribeTimeout TimeoutCb.unsubscribeTimeout.inj (hd .unsubscribe)
      | _ => exact and_old_iff fun h => nomatch h
  | recv =>
    dsimp only
    unfold Client.eraseRecvOp
    split
    · exact hs.same ⟨rfl, rfl, rfl, rfl, rfl, rfl, rfl, rfl⟩ rfl
    · rename_i op hop
      refine hs.free op.responseTimer (.recvTimeout id) (exists_erased _ hop) rfl fun timer cb => ?_
      cases cb with
      | recvTimeout id' =>
        exact exists_erase_iff .recvTimeout TimeoutCb.recvTimeout.inj (hd .recv)
      | _ => exact and_old_iff fun h => nomatch h
  | reauth =>
    dsimp only
    unfold Client.eraseReauthOp
    split
    · exact hs.same ⟨rfl, rfl, rfl, rfl, rfl, rfl, rfl, rfl⟩ rfl
    · rename_i op hop
      refine hs.free op.timer (.reauthTimeout id) (exists_erased _ hop) rfl fun timer cb => ?_
      cases cb with
      | reauthTimeout id' =>
        exact exists_erase_iff .reauthTimeout TimeoutCb.reauthTimeout.inj (hd .reauth)
      | _ => exact and_old_iff fun h => nomatch h
  | keepAlive =>
    dsimp only
    unfold Client.eraseKeepAliveOp
    split
    · exact hs.same ⟨rfl, rfl, rfl, rfl, rfl, rfl, rfl, rfl⟩ rfl
    · rename_i op hop
      have hresp := SlotsOk.freeTimer hs op.respTimer (.keepAliveResp id)
        (exists_erased KeepAliveOp.respTimer hop)
      have hrecv := hresp.freeTimer op.recvTimer (.keepAliveRecv id)
        ⟨exists_erased KeepAliveOp.recvTimer hop, fun h => nomatch h⟩
      have hping := hrecv.freeTimer op.pingTimer (.keepAlivePing id)
        ⟨⟨exists_erased KeepAliveOp.pingTimer hop, fun h => nomatch h⟩, fun h => nomatch h⟩
      refine hping.congr fun timer cb => ?_
      have hkeep := hd .keepAlive
      cases cb with
      | keepAlivePing id' =>
        refine (exists_erase_iff .keepAlivePing TimeoutCb.keepAlivePing.inj hkeep).trans ?_
        exact and_congr_left' ((and_old_iff fun h => nomatch h).trans (and_old_iff fun h => nomatch h))
      | keepAliveRecv id' =>
        refine (exists_erase_iff .keepAliveRecv TimeoutCb.keepAliveRecv.inj hkeep).trans ?_
        exact (and_congr_left' (and_old_iff fun h => nomatch h)).trans (and_old_iff fun h => nomatch h)
      | keepAliveResp id' =>
        refine (exists_erase_iff .keepAliveResp TimeoutCb.keepAliveResp.inj hkeep).trans ?_
        exact (and_old_iff fun h => nomatch h).trans (and_old_iff fun h => nomatch h)
      | _ =>
        exact (and_old_iff fun h => nomatch h).trans
          ((and_old_iff fun h => nomatch h).trans (and_old_iff fun h => nomatch h))

/-- Every update keeps the account. -/
theorem Prim.timersOk (h : Prim act s t) (hreg : Registered s)
    (hgone : act = .stray → ∀ cb, s.Gone cb → gone cb) (hs : TimersOk gone s) :
    TimersOk gone t := by
  cases act with
  | create type => exact Prim.timersOk_create type h hreg hs
  | set type => exact h.timersOk_set (Or.inl ⟨type, rfl⟩) hreg hs
  | mark type => exact h.timersOk_set (Or.inr (Or.inl ⟨type, rfl⟩)) hreg hs
  | take type => exact h.timersOk_set (Or.inr (Or.inr ⟨type, rfl⟩)) hreg hs
  | arm cb =>
    cases h with
    | arm timer ms cb hown => exact .slots (SlotsOk.wait hs (Or.inl hown) ms)
  | disarm cb =>
    cases h with
    | disarm timer cb hown => exact .slots (SlotsOk.cancel hs hown)
  | suspend =>
    cases h with
    | suspend timer cb hown => exact .slots (SlotsOk.setSuspended hs hown _)
  | expire =>
    cases h with
    | expire ms => exact .slots (SlotsOk.expire hs ms)
  | probe =>
    cases h with
    | probe env =>
      -- the callback of the operation that is destroyed at once
      have hnew : ∀ timer, ¬s.owns timer (.sendTimeout s.nextOpId) :=
        hreg.no_owner ⟨.send, s.nextOpId⟩ rfl rfl
      have halloc := SlotsOk.alloc hs env.cfg.timersLimit _ hnew
      have hfree := halloc.freeTimer (s.timerMgr.allocTimer env.cfg.timersLimit).2 _
        (Or.inr ⟨rfl, rfl⟩)
      obtain ⟨faults, heq⟩ := assert_eq .timer (s.timerAlloc env).2.isSome (s.timerAlloc env).1
      unfold Client.probeSendOp
      dsimp only
      rw [heq]
      refine hfree.congr fun timer cb => ?_
      have hsame : ({ (s.timerAlloc env).1 with faults := faults }.timerFree
          (s.timerAlloc env).2).owns timer cb ↔ s.owns timer cb := by
        cases cb <;> exact Iff.rfl
      refine hsame.trans ⟨fun hown => ⟨Or.inl hown, ?_⟩, ?_⟩
      · rintro rfl
        exact hnew timer hown
      · rintro ⟨hown | ⟨-, heq⟩, hne⟩
        · exact hown
        · exact absurd heq hne
  | complete ref =>
    cases h with
    | complete ref =>
      rcases completeRef_cases ref s with heq | heq | ⟨hmem, heq⟩
      · rw [heq]
        exact hs
      · rw [heq]
        exact hs.same ⟨rfl, rfl, rfl, rfl, rfl, rfl, rfl, rfl⟩ rfl
      · rw [heq]
        have hs' : TimersOk gone { s with ops := nullify ref s.ops, opsDeleted := true } :=
          hs.same ⟨rfl, rfl, rfl, rfl, rfl, rfl, rfl, rfl⟩ rfl
        refine hs'.eraseRef ref fun type => ?_
        have hd := hreg.nodup type
        cases type <;> exact hd
    | completeSend op hop href =>
      unfold Client.destroySendOp Client.eraseSendOp
      rw [releasePacketId_eq]
      refine hs.free op.responseTimer (.sendTimeout op.id) ⟨op, hop, rfl, rfl⟩ rfl
        fun timer cb => ?_
      cases cb with
      | sendTimeout id =>
        exact exists_erase_iff .sendTimeout TimeoutCb.sendTimeout.inj (hreg.nodup .send)
      | _ => exact and_old_iff fun h => nomatch h
  | clean =>
    cases h with
    | clean =>
      unfold Client.cleanOps
      split
      · exact hs.same ⟨rfl, rfl, rfl, rfl, rfl, rfl, rfl, rfl⟩ rfl
      · exact hs
  | unlock =>
    cases h with
    | unlock =>
      obtain ⟨faults, heq⟩ := allowNextPrepare_eq s
      rw [heq]
      exact hs.same ⟨rfl, rfl, rfl, rfl, rfl, rfl, rfl, rfl⟩ rfl
  | stray =>
    cases h with
    | strayCount | strayMiss => exact hs.same ⟨rfl, rfl, rfl, rfl, rfl, rfl, rfl, rfl⟩ rfl
    | strayArm timer ms type id cb hcb hdead hold =>
      exact .slots (SlotsOk.wait hs (Or.inr (hgone rfl cb ⟨_, ref_responseCb hcb, hold, hdead⟩)) ms)
  | _ => cases h <;> exact hs.same ⟨rfl, rfl, rfl, rfl, rfl, rfl, rfl, rfl⟩ rfl

/-- More callbacks may be left over. -/
theorem SlotsOk.mono {owns : Option Nat → TimeoutCb → Prop} {m : TimerMgr} (h : SlotsOk owns gone m)
    (hle : ∀ cb, gone cb → gone' cb) : SlotsOk owns gone' m where
  func := h.func
  inj := h.inj
  slot := h.slot
  armed := fun hget hcb => (h.armed hget hcb).imp_right (hle _)
  used := h.used
  counted := h.counted

/-- The slots stay in order, and those that are armed for nobody were armed by a `send` function. -/
theorem Acts.timersOk (h : Acts a b s t) (hreg : Registered s) (hs : TimersOk s.Gone s) :
    TimersOk t.Gone t := by
  induction h with
  | refl => exact hs
  | tail hacts hprim ih =>
    obtain ⟨act, -, hprim⟩ := hprim
    have hreg' := Acts.registered hacts hreg
    exact hprim.timersOk hreg' (fun _ _ hgone => hprim.gone_of_gone hreg' hgone)
      (ih.mono fun _ hgone => hprim.gone_of_gone hreg' hgone)

/-! ## Every run -/

/-- The first slot belongs to the session expiry, and nothing is armed. -/
theorem init_timersOk (cbs : Callbacks) (config : ConfigState) :
    TimersOk gone (Client.init cbs config) := by
  have hslot : ∀ {i : Nat} {info : TimerInfo},
      (Client.init cbs config).timerMgr.timers[i]? = some info →
        i = 0 ∧ info = { allocated := true } := fun {i info} hi => by
    cases i with
    | zero => exact ⟨rfl, (Option.some.inj hi).symm⟩
    | succ i => cases hi
  have howns : ∀ {timer : Option Nat} {cb : TimeoutCb}, (Client.init cbs config).owns timer cb →
      timer = some 0 ∧ cb = .sessionExpiry := fun {timer cb} hown => by
    cases cb with
    | sessionExpiry => exact ⟨hown, rfl⟩
    | _ =>
      obtain ⟨op, hop, -⟩ := hown
      cases hop
  refine ⟨fun h₁ h₂ => (howns h₁).1.trans (howns h₂).1.symm,
    fun h₁ h₂ => (howns h₁).2.trans (howns h₂).2.symm, fun {i cb} hown => ?_,
    fun {i info cb} hi hcb => ?_,
    fun {i info} hi _ => ⟨.sessionExpiry, congrArg some (hslot hi).1⟩, rfl⟩
  · obtain rfl := Option.some.inj (howns hown).1
    exact ⟨_, rfl, rfl⟩
  · rw [(hslot hi).2] at hcb
    cases hcb

/-- The account is kept in every run. -/
theorem reach_timersOk {ok : Sys → Label → Prop} (h : (machine env).Reach ok sys) :
    TimersOk sys.client.Gone sys.client := by
  have hinit : ∀ sys, (machine env).init sys → TimersOk sys.client.Gone sys.client := by
    rintro _ ⟨cbs, config, rfl⟩
    exact init_timersOk cbs config
  refine h.invariant hinit fun sys l sys' hs hinv _ hstep => ?_
  exact (step_acts (a := false) (b := .begins) (reach_wf hs) hstep (by simp) (.begins _)).timersOk
    (reach_registered hs) hinv

end Mqtt5
