import Mathlib.Data.List.Basic
import Mathlib.Tactic.Set
import Mqtt5Client.Lib.Machine
import Mqtt5Client.TimerMgr

/-!
# Mqtt5Client — the timer manager by itself

`TimerMgr` as its users drive it: `Timer` objects are allocated, armed, cancelled, suspended and
destroyed, and time is reported, in any order. A callback that `tick` runs is one more user, so its
calls are calls behind the `tick`.
-/

namespace Mqtt5

/-! ## The calls -/

/-- A call of a user of the manager; an invalid `Timer` is `none`. -/
inductive TimerCall where
  | allocTimer
  | destroyTimer (timer : Option Nat)
  | wait (timer : Option Nat) (ms : Nat) (cb : TimeoutCb)
  | cancel (timer : Option Nat)
  | setSuspended (timer : Option Nat) (suspended : Bool)
  | tick (ms : Nat)
  deriving DecidableEq, Repr

/-- The manager with the slots of the valid `Timer` objects that live. -/
structure TimerUse where
  mgr : TimerMgr := {}
  live : List Nat := []
  deriving DecidableEq, Repr

namespace TimerUse

/-- Only an object that lives is used. -/
def holds (s : TimerUse) (timer : Option Nat) : Bool := timer.all fun idx => s.live.contains idx

/-- The state behind a call; `none` when the object the call needs does not live. -/
def step (limit : Nat) (s : TimerUse) : TimerCall → Option TimerUse
  | .allocTimer =>
    let (mgr, timer) := s.mgr.allocTimer limit
    some { mgr, live := s.live ++ timer.toList }
  | .destroyTimer timer =>
    if s.holds timer then
      some { mgr := s.mgr.freeTimer timer, live := s.live.filter fun idx => timer != some idx }
    else none
  | .wait timer ms cb =>
    if s.holds timer then some { s with mgr := s.mgr.wait timer ms cb } else none
  | .cancel timer => if s.holds timer then some { s with mgr := s.mgr.cancel timer } else none
  | .setSuspended timer suspended =>
    if s.holds timer then some { s with mgr := s.mgr.setSuspended timer suspended } else none
  | .tick ms => some { s with mgr := (s.mgr.expire ms).1 }

/-- A manager with the given storage limit. -/
def machine (limit : Nat) : Machine TimerUse TimerCall where
  init := fun s => s = {}
  step := step limit

end TimerUse

/-- What reported time does to a slot. -/
theorem TimerInfo.advance_cases (ms : Nat) (info : TimerInfo) :
    (info.advance ms).allocated = info.allocated ∧ (info.advance ms).suspended = info.suspended ∧
      ((info.advance ms).timeoutCb = none ∨ (info.advance ms).timeoutCb = info.timeoutCb) := by
  unfold TimerInfo.advance
  split
  · split
    · exact ⟨rfl, rfl, Or.inl rfl⟩
    · exact ⟨rfl, rfl, Or.inr rfl⟩
  · exact ⟨rfl, rfl, Or.inr rfl⟩

namespace TimerMgr

variable {m : TimerMgr} {limit idx i : Nat} {info : TimerInfo}

/-- The slot is in use. -/
def inUse (m : TimerMgr) (idx : Nat) : Bool := (m.timers[idx]?).any (·.allocated)

/-- `allocCount`, the number of the slots in use. -/
def allocCount (m : TimerMgr) : Nat := m.timers.countP (·.allocated)

/-- The callback `tick(ms)` collects from the slot `idx`. -/
def fired (m : TimerMgr) (ms idx : Nat) : Option TimeoutCb := (m.timers[idx]?).bind (·.expired ms)

/-! ## Slots in use -/

/-- A slot is in use when there is one and it is allocated. -/
theorem inUse_iff : m.inUse idx = true ↔ ∃ info, m.timers[idx]? = some info ∧ info.allocated = true := by
  unfold inUse
  cases m.timers[idx]? with
  | none => simp
  | some info => simp

theorem inUse_eq (h : m.timers[idx]? = some info) : m.inUse idx = info.allocated := by
  unfold inUse
  rw [h]
  rfl

/-- An element of a list that is changed in place. -/
theorem countP_modify {α : Type} {p : α → Bool} {l : List α} {x : α} (f : α → α) (h : l[i]? = some x) :
    (l.modify i f).countP p + (if p x then 1 else 0) = l.countP p + if p (f x) then 1 else 0 := by
  induction l generalizing i with
  | nil => cases h
  | cons y ys ih =>
    cases i with
    | zero =>
      obtain rfl := Option.some.inj h
      rw [List.modify_zero_cons, List.countP_cons, List.countP_cons]
      omega
    | succ i =>
      have := ih h
      rw [List.modify_succ_cons, List.countP_cons, List.countP_cons]
      omega

/-- A change of one slot that leaves it in use, or out of it. -/
theorem allocCount_modifySlot {f : TimerInfo → TimerInfo}
    (hf : ∀ info, (f info).allocated = info.allocated) : (m.modifySlot idx f).allocCount = m.allocCount := by
  show (m.timers.modify idx f).countP (·.allocated) = m.timers.countP (·.allocated)
  cases hget : m.timers[idx]? with
  | none =>
    have hle : m.timers.length ≤ idx := List.getElem?_eq_none_iff.mp hget
    rw [List.modify_eq_self hle]
  | some info =>
    have := countP_modify (p := (·.allocated)) f hget
    rw [hf] at this
    omega

/-- Arming and cancelling a slot leave it in use. -/
theorem inUse_modifySlot {f : TimerInfo → TimerInfo}
    (hf : ∀ info, (f info).allocated = info.allocated) : (m.modifySlot idx f).inUse i = m.inUse i := by
  show ((m.timers.modify idx f)[i]?).any (·.allocated) = (m.timers[i]?).any (·.allocated)
  rw [List.getElem?_modify]
  cases m.timers[i]? with
  | none => rfl
  | some info =>
    show (if idx = i then f info else info).allocated = info.allocated
    split
    · exact hf info
    · rfl

/-! ## One allocation -/

/-- The slots of an allocation and their number. -/
theorem allocTimer_inv (limit : Nat) (m : TimerMgr) :
    (isFull limit m.timers.length = true ∧ m.allocTimer limit = (m, none) ∧
      (m.allocatedTimers < m.timers.length → ∀ info ∈ m.timers, info.allocated = true)) ∨
    (∃ idx info, m.timers[idx]? = some info ∧ info.allocated = false ∧
      m.allocTimer limit = ({ timers := m.timers.modify idx fun info => { info with allocated := true },
                              allocatedTimers := m.allocatedTimers + 1 }, some idx)) ∨
    (isFull limit m.timers.length = false ∧
      m.allocTimer limit = ({ timers := m.timers ++ [{ allocated := true }],
                              allocatedTimers := m.allocatedTimers + 1 }, some m.timers.length)) := by
  unfold allocTimer
  dsimp only
  set idx := m.timers.findIdx (fun info => !info.allocated) with hidx
  split
  · rename_i hroom
    have hfree := List.findIdx_getElem (p := fun info : TimerInfo => !info.allocated) (w := hroom.2)
    exact Or.inr (Or.inl ⟨idx, _, List.getElem?_eq_getElem hroom.2, by simpa using hfree, rfl⟩)
  · rename_i hroom
    split
    · rename_i hfull
      refine Or.inl ⟨hfull, rfl, fun hlt info hinfo => ?_⟩
      -- the search for a free slot ran to the end
      have hend : ¬idx < m.timers.length := fun hfound => hroom ⟨hlt, hfound⟩
      have hnone : m.timers.findIdx (fun info => !info.allocated) = m.timers.length := by
        have : m.timers.findIdx (fun info => !info.allocated) ≤ m.timers.length :=
          List.findIdx_le_length
        omega
      simpa using (List.findIdx_eq_length.mp hnone) info hinfo
    · rename_i hfull
      exact Or.inr (Or.inr ⟨by simpa using hfull, rfl⟩)

/-- The slot of a new timer was not in use, and it is the only one that changes. -/
theorem inUse_allocTimer {timer : Option Nat} (h : (m.allocTimer limit).2 = timer) (i : Nat) :
    (m.allocTimer limit).1.inUse i = true ↔ m.inUse i = true ∨ timer = some i := by
  obtain ⟨-, heq, -⟩ | ⟨idx, info, hget, -, heq⟩ | ⟨-, heq⟩ := allocTimer_inv limit m
  · rw [heq] at h ⊢
    simp [← h]
  · rw [heq] at h ⊢
    have h : some idx = timer := h
    subst h
    show ((m.timers.modify idx _)[i]?).any (·.allocated) = true ↔ _
    rw [List.getElem?_modify]
    by_cases hi : idx = i
    · subst hi
      simp [hget]
    · simp [hi, inUse]
  · rw [heq] at h ⊢
    have h : some m.timers.length = timer := h
    subst h
    show ((m.timers ++ [({ allocated := true } : TimerInfo)])[i]?).any (·.allocated) = true ↔ _
    rcases Nat.lt_trichotomy i m.timers.length with hlt | rfl | hgt
    · have hne : ¬m.timers.length = i := by omega
      rw [List.getElem?_append_left hlt]
      simp [inUse, hne]
    · rw [List.getElem?_concat_length]
      simp
    · have hne : ¬m.timers.length = i := by omega
      have hout : m.timers.length ≤ i := by omega
      rw [List.getElem?_eq_none (by simp; omega)]
      simp [inUse, hne, hout]

/-- The slot that is returned was free. -/
theorem not_inUse_of_allocTimer (h : (m.allocTimer limit).2 = some idx) : m.inUse idx = false := by
  obtain ⟨-, heq, -⟩ | ⟨idx', info, hget, hfree, heq⟩ | ⟨-, heq⟩ := allocTimer_inv limit m
  · rw [heq] at h
    cases h
  · rw [heq] at h
    obtain rfl := Option.some.inj h
    rw [inUse_eq hget]
    exact hfree
  · rw [heq] at h
    obtain rfl := Option.some.inj h
    unfold inUse
    rw [List.getElem?_eq_none (Nat.le_refl _)]
    rfl

/-- An allocation counts the slot it takes. -/
theorem allocCount_allocTimer (hcount : m.allocatedTimers = m.allocCount) :
    (m.allocTimer limit).1.allocatedTimers = (m.allocTimer limit).1.allocCount := by
  obtain ⟨-, heq, -⟩ | ⟨idx, info, hget, hfree, heq⟩ | ⟨-, heq⟩ := allocTimer_inv limit m
  · rw [heq]
    exact hcount
  · rw [heq]
    show m.allocatedTimers + 1 = (m.timers.modify idx _).countP (·.allocated)
    have hmodify := countP_modify (p := (·.allocated)) (fun info => { info with allocated := true }) hget
    rw [if_neg (by simp [hfree]), if_pos rfl] at hmodify
    rw [hcount]
    exact hmodify.symm
  · rw [heq]
    show m.allocatedTimers + 1 =
      (m.timers ++ [({ allocated := true } : TimerInfo)]).countP (·.allocated)
    rw [List.countP_append, hcount]
    rfl

/-! ## One destruction -/

/-- A timer that is freed leaves its slot as new. -/
theorem freeTimer_eq (h : m.timers[idx]? = some info) : m.freeTimer (some idx) =
    { timers := m.timers.modify idx fun _ => {}, allocatedTimers := m.allocatedTimers - 1 } := by
  have hlt : idx < m.timers.length := (List.getElem?_eq_some_iff.mp h).1
  show (if m.timers.length ≤ idx then m else _) = _
  rw [if_neg (by omega), List.modify_eq_set_getElem?, h]
  rfl

/-- A destruction counts the slot it gives back. -/
theorem allocCount_freeTimer (hcount : m.allocatedTimers = m.allocCount) (h : m.inUse idx = true) :
    (m.freeTimer (some idx)).allocatedTimers = (m.freeTimer (some idx)).allocCount := by
  obtain ⟨info, hget, halloc⟩ := inUse_iff.mp h
  have hmodify := countP_modify (p := (·.allocated)) (fun _ => {}) hget
  rw [halloc, if_pos rfl, if_neg (by decide)] at hmodify
  rw [freeTimer_eq hget]
  show m.allocatedTimers - 1 = (m.timers.modify idx fun _ => {}).countP (·.allocated)
  have hcount : m.allocatedTimers = m.timers.countP (·.allocated) := hcount
  omega

/-- A destruction gives back its slot and no other. -/
theorem inUse_freeTimer (h : m.inUse idx = true) (i : Nat) :
    (m.freeTimer (some idx)).inUse i = true ↔ m.inUse i = true ∧ i ≠ idx := by
  obtain ⟨info, hget, halloc⟩ := inUse_iff.mp h
  rw [freeTimer_eq hget]
  show ((m.timers.modify idx _)[i]?).any (·.allocated) = true ↔ _
  rw [List.getElem?_modify]
  by_cases hi : idx = i
  · subst hi
    simp [hget]
  · simp [hi, inUse, Ne.symm hi]

/-! ## Reported time -/

/-- Reported time gives no slot back. -/
theorem inUse_expire (ms i : Nat) : (m.expire ms).1.inUse i = m.inUse i := by
  show ((m.timers.map (·.advance ms))[i]?).any (·.allocated) = (m.timers[i]?).any (·.allocated)
  rw [List.getElem?_map]
  cases m.timers[i]? with
  | none => rfl
  | some info => exact (TimerInfo.advance_cases ms info).1

theorem allocCount_expire (ms : Nat) : (m.expire ms).1.allocCount = m.allocCount := by
  show (m.timers.map (·.advance ms)).countP (·.allocated) = m.timers.countP (·.allocated)
  rw [List.countP_map]
  refine List.countP_congr fun info _ => ?_
  rw [Function.comp_apply, (TimerInfo.advance_cases ms info).1]

end TimerMgr

namespace TimerInfo

variable {info : TimerInfo} {a b : Nat}

@[simp]
theorem isRunning_cancel (info : TimerInfo) : info.cancel.isRunning = false := by
  simp [cancel, isRunning]

/-- An armed slot whose time has passed is cancelled. -/
theorem advance_of_le (hrun : info.isRunning = true) (h : info.timeoutMs ≤ a) :
    info.advance a = info.cancel := by
  simp [advance, hrun, h]

/-- Two reported times change a slot as their sum does. -/
theorem advance_advance (info : TimerInfo) (a b : Nat) :
    (info.advance a).advance b = info.advance (a + b) := by
  cases hrun : info.isRunning with
  | false => simp [advance, hrun]
  | true =>
    by_cases ha : info.timeoutMs ≤ a
    · -- the first one stops the slot
      have hab : info.timeoutMs ≤ a + b := by omega
      rw [advance_of_le hrun ha, advance_of_le hrun hab]
      simp [advance]
    · have hon : ({ info with timeoutMs := info.timeoutMs - a } : TimerInfo).isRunning = true := hrun
      have hiff : info.timeoutMs - a ≤ b ↔ info.timeoutMs ≤ a + b := by omega
      have hsub : info.timeoutMs - a - b = info.timeoutMs - (a + b) := by omega
      simp only [advance, hrun, if_true, ha, if_false, hon, hiff, hsub]
      split
      · rfl
      · rfl

/-- A slot that fires at the first of two reported times does not fire at the second. -/
theorem expired_advance (h : (info.expired a).isSome = true) : (info.advance a).expired b = none := by
  unfold expired at h
  split at h
  · rename_i hrun
    obtain ⟨hrun, hle⟩ := Bool.and_eq_true_iff.mp hrun
    rw [advance_of_le hrun (by simpa using hle)]
    simp [expired]
  · cases h

/-- The firings at two reported times are those at their sum. -/
theorem expired_add (info : TimerInfo) (a b : Nat) :
    (info.expired a).or ((info.advance a).expired b) = info.expired (a + b) := by
  cases hrun : info.isRunning with
  | false => simp [advance, expired, hrun]
  | true =>
    by_cases ha : info.timeoutMs ≤ a
    · have hab : info.timeoutMs ≤ a + b := by omega
      have hsome : info.timeoutCb.isSome = true := by
        simp only [isRunning, Bool.and_eq_true] at hrun
        exact hrun.1.2
      have hor : ∀ o, info.timeoutCb.or o = info.timeoutCb := fun o => by
        rw [Option.or_of_isSome hsome]
      simp [expired, hrun, ha, hab, hor]
    · have hon : ({ info with timeoutMs := info.timeoutMs - a } : TimerInfo).isRunning = true := hrun
      have hiff : info.timeoutMs - a ≤ b ↔ info.timeoutMs ≤ a + b := by omega
      simp [advance, expired, hrun, ha, hon, hiff]

end TimerInfo

namespace TimerMgr

variable {m : TimerMgr} {limit idx : Nat}

/-- Two reports of time leave the slots as one report of their sum does. -/
theorem expire_expire (m : TimerMgr) (a b : Nat) : ((m.expire a).1.expire b).1 = (m.expire (a + b)).1 := by
  show ({ m with timers := (m.timers.map (·.advance a)).map (·.advance b) } : TimerMgr) =
    { m with timers := m.timers.map (·.advance (a + b)) }
  rw [List.map_map]
  refine congrArg (fun timers => ({ m with timers } : TimerMgr)) (List.map_congr_left fun info _ => ?_)
  exact TimerInfo.advance_advance info a b

/-- The callbacks of two reported times are those of their sum. -/
theorem expire_callbacks (m : TimerMgr) (a b : Nat) :
    ((m.expire a).2 ++ ((m.expire a).1.expire b).2).Perm (m.expire (a + b)).2 := by
  show (m.timers.filterMap (·.expired a) ++ (m.timers.map (·.advance a)).filterMap (·.expired b)).Perm
    (m.timers.filterMap (·.expired (a + b)))
  rw [List.filterMap_map]
  induction m.timers with
  | nil => exact List.Perm.refl _
  | cons info infos ih =>
    have hadd := TimerInfo.expired_add info a b
    cases hfirst : info.expired a with
    | none =>
      rw [hfirst, Option.none_or] at hadd
      rw [List.filterMap_cons_none hfirst]
      cases hsum : info.expired (a + b) with
      | none =>
        have hsecond : (TimerInfo.expired b ∘ TimerInfo.advance a) info = none := hadd.trans hsum
        rw [List.filterMap_cons_none hsecond, List.filterMap_cons_none hsum]
        exact ih
      | some cb =>
        have hsecond : (TimerInfo.expired b ∘ TimerInfo.advance a) info = some cb := hadd.trans hsum
        rw [List.filterMap_cons_some hsecond, List.filterMap_cons_some hsum]
        exact List.perm_middle.trans (ih.cons cb)
    | some cb =>
      -- what fires first does not fire again
      have hsecond : (TimerInfo.expired b ∘ TimerInfo.advance a) info = none :=
        TimerInfo.expired_advance (by rw [hfirst]; rfl)
      rw [hfirst, Option.some_or] at hadd
      rw [List.filterMap_cons_some hfirst, List.filterMap_cons_none hsecond,
        List.filterMap_cons_some hadd.symm]
      exact ih.cons cb

/-- What a second report calls back. -/
theorem fired_expire (m : TimerMgr) (a b i : Nat) :
    (m.expire a).1.fired b i = (m.timers[i]?).bind fun info => (info.advance a).expired b := by
  show ((m.timers.map (·.advance a))[i]?).bind (·.expired b) = _
  rw [List.getElem?_map, Option.bind_map]
  rfl

/-- A timer fires at one of two reported times when it fires at their sum, and then at only one. -/
theorem fired_once (m : TimerMgr) (a b i : Nat) :
    (m.fired a i).toList ++ ((m.expire a).1.fired b i).toList = (m.fired (a + b) i).toList := by
  rw [fired_expire]
  unfold fired
  cases m.timers[i]? with
  | none => rfl
  | some info =>
    show (info.expired a).toList ++ ((info.advance a).expired b).toList = (info.expired (a + b)).toList
    rw [← TimerInfo.expired_add]
    cases hfirst : info.expired a with
    | none => rfl
    | some cb =>
      rw [TimerInfo.expired_advance (by rw [hfirst]; rfl)]
      rfl

end TimerMgr

/-! ## Every sequence of calls -/

/-- What the manager keeps to: its counter, and the slots of the objects that live. -/
structure TimerUse.Ok (limit : Nat) (s : TimerUse) : Prop where
  counted : s.mgr.allocatedTimers = s.mgr.allocCount
  live : ∀ idx, idx ∈ s.live ↔ s.mgr.inUse idx = true
  bounded : limit ≠ 0 → s.mgr.timers.length ≤ limit

namespace TimerUse

variable {limit idx : Nat} {s t : TimerUse} {call : TimerCall}

/-- Arming and cancelling keep the invariant. -/
theorem Ok.modifySlot (h : Ok limit s) {f : TimerInfo → TimerInfo}
    (hf : ∀ info, (f info).allocated = info.allocated) :
    Ok limit { s with mgr := s.mgr.modifySlot idx f } where
  counted := h.counted.trans (TimerMgr.allocCount_modifySlot hf).symm
  live := fun i => by
    rw [TimerMgr.inUse_modifySlot hf]
    exact h.live i
  bounded := fun hlimit => by
    show (s.mgr.timers.modify idx f).length ≤ limit
    rw [List.length_modify]
    exact h.bounded hlimit

/-- An allocation keeps the invariant. -/
theorem Ok.allocTimer (h : Ok limit s) : Ok limit
    { mgr := (s.mgr.allocTimer limit).1, live := s.live ++ (s.mgr.allocTimer limit).2.toList } where
  counted := TimerMgr.allocCount_allocTimer h.counted
  live := fun i => by
    rw [List.mem_append, Option.mem_toList, h.live, TimerMgr.inUse_allocTimer rfl]
  bounded := fun hlimit => by
    have hle := h.bounded hlimit
    obtain ⟨-, heq, -⟩ | ⟨idx, info, -, -, heq⟩ | ⟨hfull, heq⟩ := TimerMgr.allocTimer_inv limit s.mgr
    · rw [heq]
      exact hle
    · rw [heq]
      show (s.mgr.timers.modify idx _).length ≤ limit
      rw [List.length_modify]
      exact hle
    · rw [heq]
      show (s.mgr.timers ++ _).length ≤ limit
      have hlt : ¬limit ≤ s.mgr.timers.length := fun hge => by simp [isFull, hlimit, hge] at hfull
      rw [List.length_append, List.length_singleton]
      omega

/-- A destruction keeps the invariant. -/
theorem Ok.freeTimer (h : Ok limit s) (hlive : idx ∈ s.live) : Ok limit
    { mgr := s.mgr.freeTimer (some idx), live := s.live.filter fun i => some idx != some i } where
  counted := TimerMgr.allocCount_freeTimer h.counted ((h.live idx).mp hlive)
  live := fun i => by
    rw [List.mem_filter, h.live, TimerMgr.inUse_freeTimer ((h.live idx).mp hlive)]
    simp [Ne, @eq_comm _ idx i]
  bounded := fun hlimit => by
    obtain ⟨info, hget, -⟩ := TimerMgr.inUse_iff.mp ((h.live idx).mp hlive)
    rw [TimerMgr.freeTimer_eq hget]
    show (s.mgr.timers.modify idx _).length ≤ limit
    rw [List.length_modify]
    exact h.bounded hlimit

/-- A report of time keeps the invariant. -/
theorem Ok.expire (h : Ok limit s) (ms : Nat) : Ok limit { s with mgr := (s.mgr.expire ms).1 } where
  counted := h.counted.trans (TimerMgr.allocCount_expire ms).symm
  live := fun i => by
    rw [TimerMgr.inUse_expire]
    exact h.live i
  bounded := fun hlimit => by
    show (s.mgr.timers.map _).length ≤ limit
    rw [List.length_map]
    exact h.bounded hlimit

/-- Every call keeps it. -/
theorem Ok.step (h : Ok limit s) (hstep : s.step limit call = some t) : Ok limit t := by
  cases call with
  | allocTimer =>
    obtain rfl := Option.some.inj hstep
    exact h.allocTimer
  | destroyTimer timer =>
    obtain ⟨hlive, hstep⟩ := Option.ite_none_right_eq_some.mp hstep
    obtain rfl := Option.some.inj hstep
    cases timer with
    | none =>
      have hall : s.live.filter (fun idx => (none : Option Nat) != some idx) = s.live :=
        List.filter_eq_self.mpr fun _ _ => rfl
      rw [hall]
      exact h
    | some idx => exact h.freeTimer (by simpa [holds] using hlive)
  | wait timer ms cb =>
    obtain ⟨-, hstep⟩ := Option.ite_none_right_eq_some.mp hstep
    obtain rfl := Option.some.inj hstep
    cases timer with
    | none => exact h
    | some idx => exact h.modifySlot fun _ => rfl
  | cancel timer =>
    obtain ⟨-, hstep⟩ := Option.ite_none_right_eq_some.mp hstep
    obtain rfl := Option.some.inj hstep
    cases timer with
    | none => exact h
    | some idx => exact h.modifySlot fun _ => rfl
  | setSuspended timer suspended =>
    obtain ⟨-, hstep⟩ := Option.ite_none_right_eq_some.mp hstep
    obtain rfl := Option.some.inj hstep
    cases timer with
    | none => exact h
    | some idx =>
      unfold TimerMgr.setSuspended
      dsimp only
      split
      · exact h.modifySlot fun _ => rfl
      · exact h
  | tick ms =>
    obtain rfl := Option.some.inj hstep
    exact h.expire ms

/-- The invariant holds in every use of the manager. -/
theorem reach_ok (h : (machine limit).Reach (fun _ _ => True) s) : Ok limit s :=
  h.invariant (fun _ hinit => by
    obtain rfl := hinit
    exact ⟨rfl, fun idx => by simp [TimerMgr.inUse], fun _ => Nat.zero_le _⟩)
    fun _ _ _ _ hok _ hstep => hok.step hstep

/-- What is promised of a manager: its counter, its allocation, and its reported times. -/
structure Managed (limit : Nat) (m : TimerMgr) : Prop where
  counted : m.allocatedTimers = m.allocCount
  unused : ∀ idx, (m.allocTimer limit).2 = some idx → m.inUse idx = false
  full : (m.allocTimer limit).2 = none →
    limit ≠ 0 ∧ m.timers.length = limit ∧ ∀ idx, idx < limit → m.inUse idx = true
  split : ∀ a b, ((m.expire a).1.expire b).1 = (m.expire (a + b)).1
  callbacks : ∀ a b, ((m.expire a).2 ++ ((m.expire a).1.expire b).2).Perm (m.expire (a + b)).2
  once : ∀ a b idx,
    (m.fired a idx).toList ++ ((m.expire a).1.fired b idx).toList = (m.fired (a + b) idx).toList

/-- The invariant is enough for what is promised. -/
theorem Ok.managed (hok : Ok limit s) : Managed limit s.mgr where
  counted := hok.counted
  unused := fun _ => TimerMgr.not_inUse_of_allocTimer
  full := fun hnone => by
    obtain ⟨hfull, -, hall⟩ | ⟨idx, info, -, -, heq⟩ | ⟨-, heq⟩ := TimerMgr.allocTimer_inv limit s.mgr
    · obtain ⟨hlimit, hle⟩ := Bool.and_eq_true_iff.mp hfull
      have hlimit : limit ≠ 0 := by simpa using hlimit
      have hle : limit ≤ s.mgr.timers.length := by simpa using hle
      have hlen : s.mgr.timers.length = limit := Nat.le_antisymm (hok.bounded hlimit) hle
      refine ⟨hlimit, hlen, fun idx hidx => ?_⟩
      have hidx : idx < s.mgr.timers.length := by omega
      rw [TimerMgr.inUse_eq (List.getElem?_eq_getElem hidx)]
      -- the search starts only while the counter is below the number of the slots
      by_cases hlt : s.mgr.allocatedTimers < s.mgr.timers.length
      · exact hall hlt _ (List.getElem_mem hidx)
      · have hcount : s.mgr.timers.countP (·.allocated) = s.mgr.timers.length := by
          have hcounted : s.mgr.allocatedTimers = s.mgr.timers.countP (·.allocated) := hok.counted
          have := List.countP_le_length (p := (·.allocated)) (l := s.mgr.timers)
          omega
        exact List.countP_eq_length.mp hcount _ (List.getElem_mem hidx)
    · rw [heq] at hnone
      cases hnone
    · rw [heq] at hnone
      cases hnone
  split := s.mgr.expire_expire
  callbacks := s.mgr.expire_callbacks
  once := s.mgr.fired_once

/-- Whatever was done with the timers, the counter of the manager is the number of the slots in
use, a new timer gets a slot that is not in use and an allocation fails only with every slot in
use, and a reported time may be split. The slots in use are those of the timers that live. -/
theorem reach_managed (h : (machine limit).Reach (fun _ _ => True) s) :
    Managed limit s.mgr ∧ ∀ idx, idx ∈ s.live ↔ s.mgr.inUse idx = true := by
  have hok := reach_ok h
  exact ⟨hok.managed, hok.live⟩

/-- Two timers of a manager with room for no third one. The second timer of the use is destroyed, and its
slot is taken again; the first one is cancelled, waits again and is suspended for a while. -/
def twoTimers : TimerUse where
  mgr :=
    { timers := [{ timeoutMs := 4, timeoutCb := some .sessionExpiry, allocated := true },
                 { timeoutMs := 2, timeoutCb := some (.sendTimeout 1), allocated := true }],
      allocatedTimers := 2 }
  live := [0, 1]

/-- Both timers fire within four units of time, which may be reported at once or in two halves. -/
theorem reach_managed_two :
    (Managed 2 twoTimers.mgr ∧ ∀ idx, idx ∈ twoTimers.live ↔ twoTimers.mgr.inUse idx = true) ∧
      (twoTimers.mgr.expire 4).2 = [.sessionExpiry, .sendTimeout 1] ∧
      (twoTimers.mgr.expire 2).2 = [.sendTimeout 1] ∧
      ((twoTimers.mgr.expire 2).1.expire 2).2 = [.sessionExpiry] := by
  have hexec : (machine 2).exec (fun _ _ => true) {}
      [.allocTimer, .wait (some 0) 9 .sessionExpiry, .allocTimer, .wait (some 1) 3 (.recvTimeout 0),
        .tick 1, .allocTimer, .destroyTimer (some 1), .allocTimer, .wait (some 1) 5 (.sendTimeout 1),
        .cancel (some 0), .wait (some 0) 4 .sessionExpiry, .setSuspended (some 0) true, .tick 3,
        .setSuspended (some 0) false] = some twoTimers := by decide
  exact ⟨reach_managed (Machine.exec_reach (fun _ _ _ => trivial) (.start rfl) hexec), by decide, by decide,
    by decide⟩

end TimerUse

end Mqtt5
