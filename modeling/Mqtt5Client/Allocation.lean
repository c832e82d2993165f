import Mathlib.Data.Nat.Find
import Mqtt5Client.Run
import Mqtt5Client.Lib.Sorted

/-!
# Mqtt5Client — the allocation of packet identifiers

`Op::allocPacketId` looks for a free identifier behind the last one, and keeps the allocated ones in a
sorted vector. The search goes up to the largest `std::uint16_t`; behind it comes `0`, which is free.
-/

namespace Mqtt5

open Client

variable {env : Env} {s : Client} {ids : List Nat}

/-! ## The vector -/

/-- What the vector of the allocated identifiers keeps to. -/
structure IdVector (ids : List Nat) : Prop where
  strict : Sorted.Strict id ids
  pos : ∀ n ∈ ids, 1 ≤ n
  le : ∀ n ∈ ids, n ≤ 65535

theorem insertSorted_eq (ids : List Nat) (n : Nat) :
    insertSorted ids n = ids.insertIdx (Sorted.place id ids n) n := by
  unfold insertSorted
  rw [Sorted.insertIdx_eq _ (Sorted.place_le id ids n), ← Sorted.takeWhile_eq, ← Sorted.dropWhile_eq]
  rfl

theorem IdVector.insert {n : Nat} (h : IdVector ids) (hpos : 1 ≤ n) (hle : n ≤ 65535) (hnew : n ∉ ids) :
    IdVector (insertSorted ids n) := by
  rw [insertSorted_eq]
  have hmem : ∀ m ∈ ids.insertIdx (Sorted.place id ids n) n, m = n ∨ m ∈ ids := fun m hm =>
    (Sorted.mem_insertIdx n).mp hm
  refine ⟨Sorted.insertIdx_strict h.strict fun m hm heq => ?_, ?_, ?_⟩
  · have heq : m = n := heq
    exact hnew (heq ▸ hm)
  · intro m hm
    rcases hmem m hm with rfl | hm
    · exact hpos
    · exact h.pos m hm
  · intro m hm
    rcases hmem m hm with rfl | hm
    · exact hle
    · exact h.le m hm

/-- Releasing an identifier that was just inserted restores the vector. -/
theorem erase_insertSorted {n : Nat} (hnew : n ∉ ids) : (insertSorted ids n).erase n = ids := by
  have htake : n ∉ ids.takeWhile (· < n) := fun hm => hnew (List.takeWhile_prefix _ |>.mem hm)
  unfold insertSorted
  rw [List.erase_append_right _ htake, List.erase_cons_head, List.takeWhile_append_dropWhile]

/-- A vector that holds every identifier is full, and a vector that is full holds every one. -/
theorem IdVector.full_iff (h : IdVector ids) :
    65535 ≤ ids.length ↔ ∀ n, 1 ≤ n → n ≤ 65535 → n ∈ ids := by
  have hnodup : ids.Nodup := h.strict.imp fun hlt => Nat.ne_of_lt hlt
  have hsub : ids ⊆ List.range' 1 65535 := fun n hn => by
    have hpos := h.pos n hn
    have hle := h.le n hn
    rw [List.mem_range'_1]
    omega
  have hlen : (List.range' 1 65535).length = 65535 := List.length_range'
  constructor
  · intro hfull n hpos hle
    have hperm : ids.Perm (List.range' 1 65535) :=
      (List.subperm_of_subset hnodup hsub).perm_of_length_le (by rw [hlen]; exact hfull)
    rw [hperm.mem_iff, List.mem_range'_1]
    omega
  · intro hall
    have hsub' : List.range' 1 65535 ⊆ ids := fun n hn => by
      rw [List.mem_range'_1] at hn
      exact hall n hn.1 (by omega)
    have hle := (List.subperm_of_subset List.nodup_range' hsub').length_le
    rw [hlen] at hle
    exact hle

/-! ## The search -/

/-- The search ends at the first free identifier. -/
theorem nextFreePacketId_eq {fuel next k : Nat} (hle : next ≤ k) (hk : k ≤ 65535) (hfree : k ∉ ids)
    (hall : ∀ j, next ≤ j → j < k → j ∈ ids) (hfuel : k < next + fuel) :
    nextFreePacketId ids fuel next = k := by
  induction fuel generalizing next with
  | zero => omega
  | succ fuel ih =>
    unfold nextFreePacketId
    by_cases heq : next = k
    · rw [heq, if_neg hfree]
    · have hmod : (next + 1) % 65536 = next + 1 := Nat.mod_eq_of_lt (by omega)
      rw [if_pos (hall next (Nat.le_refl _) (by omega)), hmod]
      exact ih (by omega) (fun j hj hlt => hall j (by omega) hlt) (by omega)

/-- Without a free identifier it wraps around to `0`. -/
theorem nextFreePacketId_wrap {fuel next : Nat} (hle : next ≤ 65535) (hzero : 0 ∉ ids)
    (hall : ∀ j, next ≤ j → j ≤ 65535 → j ∈ ids) (hfuel : 65536 < next + fuel) :
    nextFreePacketId ids fuel next = 0 := by
  induction fuel generalizing next with
  | zero => omega
  | succ fuel ih =>
    unfold nextFreePacketId
    rw [if_pos (hall next (Nat.le_refl _) hle)]
    rcases Nat.lt_or_ge next 65535 with hlt | hge
    · rw [Nat.mod_eq_of_lt (by omega)]
      exact ih (by omega) (fun j hj hj' => hall j (by omega) hj') (by omega)
    · obtain rfl : next = 65535 := by omega
      cases fuel with
      | zero => omega
      | succ fuel =>
        show nextFreePacketId ids (fuel + 1) 0 = 0
        unfold nextFreePacketId
        rw [if_neg hzero]

/-- The first identifier the search looks at. -/
def firstPacketId (last : Nat) : Nat :=
  if (last + 1) % 65536 = 0 then 1 else (last + 1) % 65536

/-- The search from the identifier behind `last` ends with more rounds as it does with `65536`. -/
theorem search_cases (h : IdVector ids) {last : Nat} (hlast : last ≤ 65535)
    (hroom : ∃ n, 1 ≤ n ∧ n ≤ 65535 ∧ n ∉ ids) :
    (∃ k, firstPacketId last ≤ k ∧ k ≤ 65535 ∧ k ∉ ids ∧
      (∀ j, firstPacketId last ≤ j → j < k → j ∈ ids) ∧
      ∀ fuel, 65536 ≤ fuel → nextFreePacketId ids fuel (firstPacketId last) = k) ∨
    last < 65535 ∧ (∀ j, last < j → j ≤ 65535 → j ∈ ids) ∧
      ∀ fuel, 65536 ≤ fuel → nextFreePacketId ids fuel (firstPacketId last) = 0 := by
  have hfirst : 1 ≤ firstPacketId last ∧ firstPacketId last ≤ 65535 ∧
      (last < 65535 → firstPacketId last = last + 1) ∧ (last = 65535 → firstPacketId last = 1) := by
    unfold firstPacketId
    split <;> omega
  by_cases hfree : ∃ k, firstPacketId last ≤ k ∧ k ≤ 65535 ∧ k ∉ ids
  · left
    have hmin := Nat.find_spec hfree
    refine ⟨Nat.find hfree, hmin.1, hmin.2.1, hmin.2.2, fun j hj hlt => ?_, fun fuel hfuel => ?_⟩
    · by_contra hnot
      exact Nat.find_min hfree hlt ⟨hj, by omega, hnot⟩
    · refine nextFreePacketId_eq hmin.1 hmin.2.1 hmin.2.2 (fun j hj hlt => ?_) (by omega)
      by_contra hnot
      exact Nat.find_min hfree hlt ⟨hj, by omega, hnot⟩
  · right
    have hall : ∀ j, firstPacketId last ≤ j → j ≤ 65535 → j ∈ ids := fun j hj hle => by
      by_contra hnot
      exact hfree ⟨j, hj, hle, hnot⟩
    have hlt : last < 65535 := by
      by_contra hge
      obtain ⟨n, hpos, hle, hnot⟩ := hroom
      exact hnot (hall n (by rw [hfirst.2.2.2 (by omega)]; exact hpos) hle)
    have hzero : 0 ∉ ids := fun hm => absurd (h.pos 0 hm) (by omega)
    refine ⟨hlt, fun j hj hle => hall j (by rw [hfirst.2.2.1 hlt]; omega) hle, fun fuel hfuel => ?_⟩
    exact nextFreePacketId_wrap hfirst.2.1 hzero hall (by omega)

/-! ## Allocation and release -/

/-- How many steps an identifier is behind `last` in the cyclic order `1, …, 65535, 1, …`. -/
def cyclicDistance (last n : Nat) : Nat := if last < n then n - last else n + 65535 - last

/-- An identifier was allocated as it should be: the search ended with the first free one behind the
last one, the vector holds it besides the others, and releasing it restores the vector. -/
structure Allocated (s : Client) (r : Client × Nat) : Prop where
  ends : ∀ fuel, 65536 ≤ fuel → nextFreePacketId s.clientState.allocatedPacketIds fuel
    (firstPacketId s.clientState.lastPacketId) = r.2
  range : 1 ≤ r.2 ∧ r.2 ≤ 65535
  free : r.2 ∉ s.clientState.allocatedPacketIds
  first : ∀ m, 1 ≤ m → m ≤ 65535 → m ∉ s.clientState.allocatedPacketIds →
    cyclicDistance s.clientState.lastPacketId r.2 ≤ cyclicDistance s.clientState.lastPacketId m
  vector : IdVector r.1.clientState.allocatedPacketIds
  mem : ∀ m, m ∈ r.1.clientState.allocatedPacketIds ↔
    m = r.2 ∨ m ∈ s.clientState.allocatedPacketIds
  last : r.1.clientState.lastPacketId = r.2
  release : (r.1.releasePacketId r.2).clientState.allocatedPacketIds =
    s.clientState.allocatedPacketIds

/-- What is asked of `allocPacketId`: it gives up only when all identifiers are taken. -/
def AllocatesFirst (env : Env) (s : Client) : Prop :=
  if 65535 ≤ s.clientState.allocatedPacketIds.length then (s.allocPacketId env).2 = 0
  else Allocated s (s.allocPacketId env)

theorem allocPacketId_eq (env : Env) (hlimit : isFull env.cfg.packetIdsLimit
      s.clientState.allocatedPacketIds.length = false)
    (hroom : s.clientState.allocatedPacketIds.length < 65535) :
    s.allocPacketId env =
      let next := nextFreePacketId s.clientState.allocatedPacketIds 65536
        (firstPacketId s.clientState.lastPacketId)
      ({ s with clientState := { s.clientState with
          allocatedPacketIds := insertSorted s.clientState.allocatedPacketIds next,
          lastPacketId := next } }, next) := by
  unfold Client.allocPacketId
  dsimp only
  rw [hlimit, Bool.false_or, if_neg (by simpa using hroom)]
  rfl

/-- Allocation takes the first free identifier, unless the ones above the last one are all taken while
there are free ones below: then the search runs into `0`. -/
theorem allocPacketId_exact (h : IdVector s.clientState.allocatedPacketIds)
    (hlast : s.clientState.lastPacketId ≤ 65535)
    (hlimit : isFull env.cfg.packetIdsLimit s.clientState.allocatedPacketIds.length = false) :
    AllocatesFirst env s ↔ 65535 ≤ s.clientState.allocatedPacketIds.length ∨
      s.clientState.lastPacketId = 65535 ∨ ∃ n, s.clientState.lastPacketId < n ∧ n ≤ 65535 ∧
        n ∉ s.clientState.allocatedPacketIds := by
  unfold AllocatesFirst
  -- no identifier is left at all
  by_cases hfull : 65535 ≤ s.clientState.allocatedPacketIds.length
  · have hzero : (s.allocPacketId env).2 = 0 := by
      unfold Client.allocPacketId
      dsimp only
      rw [if_pos (by simp [hfull])]
    simp [hfull, hzero]
  rw [if_neg hfull, allocPacketId_eq env hlimit (by omega)]
  have hroom : ∃ n, 1 ≤ n ∧ n ≤ 65535 ∧ n ∉ s.clientState.allocatedPacketIds := by
    by_contra hno
    refine hfull (h.full_iff.mpr fun n hpos hle => ?_)
    by_contra hnot
    exact hno ⟨n, hpos, hle, hnot⟩
  dsimp only
  -- the search stops at the first free identifier, or it runs into the wrapped 0
  rcases search_cases h hlast hroom with ⟨k, hge, hle, hfree, hall, hends⟩ | ⟨hlt, hall, hends⟩
  · rw [hends 65536 (Nat.le_refl _)]
    have hfirst : (s.clientState.lastPacketId < 65535 →
        firstPacketId s.clientState.lastPacketId = s.clientState.lastPacketId + 1) ∧
        (s.clientState.lastPacketId = 65535 → firstPacketId s.clientState.lastPacketId = 1) := by
      unfold firstPacketId
      split <;> omega
    have hpos : 1 ≤ k := by
      rcases Nat.lt_or_ge s.clientState.lastPacketId 65535 with hlt | hge'
      · have := hfirst.1 hlt
        omega
      · have := hfirst.2 (by omega)
        omega
    have halloc : Allocated s ({ s with clientState := { s.clientState with
        allocatedPacketIds := insertSorted s.clientState.allocatedPacketIds k,
        lastPacketId := k } }, k) := by
      refine ⟨hends, ⟨hpos, hle⟩, hfree, fun m hm hm' hnot => ?_, h.insert hpos hle hfree,
        fun m => ?_, rfl, ?_⟩
      · -- a free identifier stands behind `k`, or below the last one
        have hm : m < firstPacketId s.clientState.lastPacketId ∨ k ≤ m := by
          by_contra hcon
          exact hnot (hall m (by omega) (by omega))
        unfold cyclicDistance
        rcases Nat.lt_or_ge s.clientState.lastPacketId 65535 with hlt | hge'
        · have := hfirst.1 hlt
          split <;> split <;> omega
        · have := hfirst.2 (by omega)
          split <;> split <;> omega
      · show m ∈ insertSorted s.clientState.allocatedPacketIds k ↔ _
        rw [insertSorted_eq]
        exact Sorted.mem_insertIdx k
      · have hmem : k ∈ insertSorted s.clientState.allocatedPacketIds k := by
          rw [insertSorted_eq]
          exact (Sorted.mem_insertIdx k).mpr (Or.inl rfl)
        unfold Client.releasePacketId
        rw [if_neg (by omega), if_pos hmem]
        exact erase_insertSorted hfree
    refine iff_of_true halloc (Or.inr ?_)
    rcases Nat.lt_or_ge s.clientState.lastPacketId 65535 with hlt | hge'
    · have := hfirst.1 hlt
      exact Or.inr ⟨k, by omega, hle, hfree⟩
    · exact Or.inl (by omega)
  · rw [hends 65536 (Nat.le_refl _)]
    refine iff_of_false (fun hok => ?_) ?_
    · have hrange := hok.range.1
      exact absurd hrange (by simp)
    · rintro (hfull' | heq | ⟨n, hn, hn', hnot⟩)
      · exact hfull hfull'
      · omega
      · exact hnot (hall n hn hn')

/-- A client whose last packet identifier is `last` while the given ones are allocated. -/
def Client.withPacketIds (ids : List Nat) (last : Nat) : Client :=
  { clientState := { allocatedPacketIds := ids, lastPacketId := last } }

theorem allocPacketId_exact_one : AllocatesFirst .dynamic (.withPacketIds [1] 0) :=
  (allocPacketId_exact (s := .withPacketIds [1] 0) ⟨by decide, by decide, by decide⟩ (by decide)
    rfl).mpr (Or.inr (Or.inr ⟨2, by decide, by decide, by decide⟩))

/-- With `65535` in use the search behind `65534` hands out `0`, although `1` is free. -/
theorem allocPacketId_zero : IdVector [65535] ∧
    isFull Env.dynamic.cfg.packetIdsLimit [65535].length = false ∧
    ¬AllocatesFirst .dynamic (.withPacketIds [65535] 65534) ∧
    ((Client.withPacketIds [65535] 65534).allocPacketId .dynamic).2 = 0 ∧
    ((Client.withPacketIds [65535] 65534).allocPacketId .dynamic).1.clientState.allocatedPacketIds =
      [0, 65535] := by
  have hsearch : nextFreePacketId [65535] 65536 65535 = 0 :=
    nextFreePacketId_wrap (Nat.le_refl _) (by decide) (fun j hj hle => by
      obtain rfl : j = 65535 := by omega
      exact List.mem_cons_self) (by decide)
  have heq := allocPacketId_eq .dynamic (s := .withPacketIds [65535] 65534) rfl (by decide)
  have hnext : nextFreePacketId (Client.withPacketIds [65535] 65534).clientState.allocatedPacketIds
      65536 (firstPacketId (Client.withPacketIds [65535] 65534).clientState.lastPacketId) = 0 := hsearch
  rw [hnext] at heq
  refine ⟨⟨by decide, by decide, by decide⟩, rfl, fun hok => ?_, by rw [heq], by rw [heq]; rfl⟩
  unfold AllocatesFirst at hok
  rw [if_neg (by decide), heq] at hok
  exact absurd hok.range.1 (by simp)

end Mqtt5
