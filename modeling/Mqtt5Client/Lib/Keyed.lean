import Mathlib.Data.List.Nodup
import Mqtt5Client.Lib.ModifyFirst

/-!
# Lists of objects with an identity

A list whose elements are told apart by a key: replacing, removing and finding the element with a
given key, when no key occurs twice.
-/

namespace Keyed

variable {α κ : Type} [DecidableEq κ] (key : α → κ)

/-- No key occurs twice. -/
def Distinct (l : List α) : Prop := (l.map key).Nodup

/-- Replace the element with the key of `x`. -/
def set (x : α) (l : List α) : List α := l.map (fun y => if key y == key x then x else y)

/-- Remove the element with the key `k`. -/
def erase (k : κ) (l : List α) : List α := l.eraseP (fun y => key y == k)

variable {key} {l : List α} {x y : α} {k : κ}

omit [DecidableEq κ] in
theorem Distinct.eq (h : Distinct key l) (hx : x ∈ l) (hy : y ∈ l) (hk : key x = key y) : x = y :=
  List.inj_on_of_nodup_map h hx hy hk

/-! ## Replacing -/

@[simp]
theorem map_key_set (x : α) (l : List α) : (set key x l).map key = l.map key := by
  unfold set
  rw [List.map_map]
  refine List.map_congr_left fun y _ => ?_
  by_cases h : key y = key x <;> simp [h]

theorem Distinct.set (h : Distinct key l) (x : α) : Distinct key (Keyed.set key x l) := by
  unfold Distinct
  rwa [map_key_set]

theorem mem_set (hx : key x ∈ l.map key) : y ∈ set key x l ↔ y = x ∨ y ∈ l ∧ key y ≠ key x := by
  unfold Keyed.set
  constructor
  · intro hy
    obtain ⟨z, hz, rfl⟩ := List.mem_map.mp hy
    by_cases h : key z = key x <;> simp [h, hz]
  · rintro (rfl | ⟨hy, hk⟩)
    · obtain ⟨z, hz, hzk⟩ := List.mem_map.mp hx
      exact List.mem_map.mpr ⟨z, hz, by simp [hzk]⟩
    · exact List.mem_map.mpr ⟨y, hy, by simp [hk]⟩

theorem mem_set_self (hx : key x ∈ l.map key) : x ∈ set key x l := (mem_set hx).mpr (Or.inl rfl)

/-- Replacing the first element with a key. -/
theorem Distinct.mem_modifyFirst (h : Distinct key l)
    (hy : y ∈ modifyFirst (fun z => key z == key x) (fun _ => x) l) :
    y = x ∨ y ∈ l ∧ key y ≠ key x := by
  induction l with
  | nil => cases hy
  | cons z zs ih =>
    have hd : key z ∉ zs.map key ∧ Distinct key zs := List.nodup_cons.mp h
    unfold modifyFirst at hy
    by_cases hz : key z = key x
    · rw [if_pos (by simp [hz])] at hy
      rcases List.mem_cons.mp hy with rfl | hy
      · exact Or.inl rfl
      · refine Or.inr ⟨List.mem_cons_of_mem _ hy, fun hyx => hd.1 ?_⟩
        exact List.mem_map.mpr ⟨y, hy, hyx.trans hz.symm⟩
    · rw [if_neg (by simp [hz])] at hy
      rcases List.mem_cons.mp hy with rfl | hy
      · exact Or.inr ⟨List.mem_cons_self, hz⟩
      · exact (ih hd.2 hy).imp_right fun h => ⟨List.mem_cons_of_mem _ h.1, h.2⟩

/-- Replacing an element by itself. -/
theorem Distinct.set_self (h : Distinct key l) (hx : x ∈ l) : Keyed.set key x l = l := by
  unfold Keyed.set
  conv_rhs => rw [← List.map_id l]
  refine List.map_congr_left fun y hy => ?_
  by_cases hk : key y = key x
  · simp [h.eq hy hx hk]
  · simp [hk]

/-- Changing the elements with a given key by a function is replacing one element. -/
theorem Distinct.map_eq_set (h : Distinct key l) (hx : x ∈ l) {f : α → α} (hf : key (f x) = key x) :
    l.map (fun y => if key y == key x then f y else y) = Keyed.set key (f x) l := by
  unfold Keyed.set
  refine List.map_congr_left fun y hy => ?_
  rw [hf]
  by_cases hk : key y = key x
  · simp [h.eq hy hx hk]
  · simp [hk]

/-- Changing the elements with a given key is changing the first of them. -/
theorem Distinct.map_eq_modifyFirst (h : Distinct key l) (f : α → α) (k : κ) :
    l.map (fun y => if key y == k then f y else y) = modifyFirst (fun y => key y == k) f l := by
  induction l with
  | nil => rfl
  | cons z zs ih =>
    have hd : key z ∉ zs.map key ∧ Distinct key zs := List.nodup_cons.mp h
    unfold modifyFirst
    by_cases hz : key z = k
    · have hrest : zs.map (fun y => if key y == k then f y else y) = zs := by
        conv_rhs => rw [← List.map_id zs]
        refine List.map_congr_left fun y hy => ?_
        have hne : key y ≠ k := fun hy' => hd.1 (List.mem_map.mpr ⟨y, hy, hy'.trans hz.symm⟩)
        simp [hne]
      rw [List.map_cons, hrest, if_pos (by simp [hz]), if_pos (by simp [hz])]
    · rw [List.map_cons, ih hd.2, if_neg (by simp [hz]), if_neg (by simp [hz])]

/-- Of two replacements of one element the second stays. -/
theorem set_set {x' : α} (hk : key x = key x') :
    Keyed.set key x' (Keyed.set key x l) = Keyed.set key x' l := by
  unfold Keyed.set
  rw [List.map_map]
  refine List.map_congr_left fun y _ => ?_
  by_cases h : key y = key x' <;> simp [h, hk]

/-- Nothing to replace. -/
theorem set_of_notMem (hx : key x ∉ l.map key) : Keyed.set key x l = l := by
  unfold Keyed.set
  conv_rhs => rw [← List.map_id l]
  refine List.map_congr_left fun y hy => ?_
  have hyx : key y ≠ key x := fun h => hx (List.mem_map.mpr ⟨y, hy, h⟩)
  simp [hyx]

/-- A count after a replacement. -/
theorem Distinct.countP_set (h : Distinct key l) (hy : y ∈ l) (hk : key x = key y) (p : α → Bool) :
    (Keyed.set key x l).countP p + (if p y then 1 else 0) =
      l.countP p + (if p x then 1 else 0) := by
  induction l with
  | nil => cases hy
  | cons z zs ih =>
    have hd : key z ∉ zs.map key ∧ Distinct key zs := List.nodup_cons.mp h
    have hset : Keyed.set key x (z :: zs) =
        (if key z == key x then x else z) :: Keyed.set key x zs := rfl
    rw [hset, List.countP_cons, List.countP_cons]
    rcases List.mem_cons.mp hy with rfl | hy'
    · simp [set_of_notMem (hk ▸ hd.1), hk]
      omega
    · have hz : key z ≠ key x := by
        intro hzx
        exact hd.1 (List.mem_map.mpr ⟨y, hy', (hzx.trans hk).symm⟩)
      have := ih hd.2 hy'
      simp [hz]
      omega

omit [DecidableEq κ] in
/-- The element between two parts of the list is the only one with its key. -/
theorem Distinct.key_ne_mid {pre post : List α} (h : Distinct key (pre ++ y :: post)) {z : α}
    (hz : z ∈ pre ++ post) : key z ≠ key y := by
  unfold Distinct at h
  rw [List.map_append, List.map_cons, List.nodup_middle, List.nodup_cons, ← List.map_append] at h
  exact fun hk => h.1 (List.mem_map.mpr ⟨z, hz, hk⟩)

/-- Replacing the element between two parts of the list. -/
theorem Distinct.set_mid {pre post : List α} (h : Distinct key (pre ++ y :: post))
    (hk : key x = key y) : Keyed.set key x (pre ++ y :: post) = pre ++ x :: post := by
  have hkeep : ∀ z ∈ pre ++ post, (if key z == key x then x else z) = z := by
    intro z hz
    rw [if_neg]
    simpa [hk] using h.key_ne_mid hz
  unfold Keyed.set
  rw [List.map_append, List.map_cons, if_pos (by simp [hk]),
    List.map_congr_left fun z hz => hkeep z (List.mem_append_left _ hz),
    List.map_congr_left (l := post) fun z hz => hkeep z (List.mem_append_right _ hz),
    List.map_id', List.map_id']

/-! ## Removing -/

theorem Distinct.erase (h : Distinct key l) (k : κ) : Distinct key (Keyed.erase key k l) :=
  h.sublist (List.eraseP_sublist.map key)

@[simp]
theorem map_key_erase (k : κ) (l : List α) : (erase key k l).map key = (l.map key).erase k := by
  have hp : (fun y => key y == k) = (fun x => k == x) ∘ key := by
    funext y
    exact Bool.beq_comm
  unfold erase
  rw [List.erase_eq_eraseP, List.eraseP_map, hp]

theorem mem_of_mem_erase (hy : y ∈ erase key k l) : y ∈ l := List.mem_of_mem_eraseP hy

theorem Distinct.mem_erase (h : Distinct key l) : y ∈ Keyed.erase key k l ↔ y ∈ l ∧ key y ≠ k := by
  induction l with
  | nil => simp [Keyed.erase]
  | cons z zs ih =>
    have hd : key z ∉ zs.map key ∧ Distinct key zs := List.nodup_cons.mp h
    unfold Keyed.erase at ih ⊢
    rw [List.eraseP_cons]
    by_cases hz : key z = k
    · have hzb : (key z == k) = true := by simp [hz]
      rw [hzb]
      constructor
      · intro hy
        refine ⟨List.mem_cons_of_mem _ hy, fun hyk => hd.1 ?_⟩
        exact List.mem_map.mpr ⟨y, hy, hyk.trans hz.symm⟩
      · rintro ⟨hy, hk⟩
        rcases List.mem_cons.mp hy with rfl | hy
        · exact absurd hz hk
        · exact hy
    · have hzb : (key z == k) = false := by simp [hz]
      rw [hzb]
      simp only [cond_false, List.mem_cons, ih hd.2]
      constructor
      · rintro (rfl | ⟨hy, hk⟩)
        · exact ⟨Or.inl rfl, hz⟩
        · exact ⟨Or.inr hy, hk⟩
      · rintro ⟨rfl | hy, hk⟩
        · exact Or.inl rfl
        · exact Or.inr ⟨hy, hk⟩

/-- Removing an element that was replaced before is removing the element. -/
theorem Distinct.erase_set (h : Distinct key l) :
    Keyed.erase key (key x) (Keyed.set key x l) = Keyed.erase key (key x) l := by
  induction l with
  | nil => rfl
  | cons z zs ih =>
    have hd : key z ∉ zs.map key ∧ Distinct key zs := List.nodup_cons.mp h
    have hset : Keyed.set key x (z :: zs) =
        (if key z == key x then x else z) :: Keyed.set key x zs := rfl
    have ih := ih hd.2
    unfold Keyed.erase at ih ⊢
    rw [hset]
    by_cases hz : key z = key x
    · rw [if_pos (by simp [hz]), List.eraseP_cons_of_pos (by simp),
        List.eraseP_cons_of_pos (by simp [hz]), set_of_notMem (hz ▸ hd.1)]
    · rw [if_neg (by simp [hz]), List.eraseP_cons_of_neg (by simp [hz]),
        List.eraseP_cons_of_neg (by simp [hz]), ih]

/-- A count after a removal. -/
theorem countP_erase (hy : y ∈ l) (h : Distinct key l) (p : α → Bool) :
    (Keyed.erase key (key y) l).countP p + (if p y then 1 else 0) = l.countP p := by
  induction l with
  | nil => cases hy
  | cons z zs ih =>
    have hd : key z ∉ zs.map key ∧ Distinct key zs := List.nodup_cons.mp h
    unfold Keyed.erase at ih ⊢
    rcases List.mem_cons.mp hy with rfl | hy'
    · rw [List.eraseP_cons_of_pos (by simp), List.countP_cons]
    · have hz : key z ≠ key y := by
        intro hzy
        exact hd.1 (List.mem_map.mpr ⟨y, hy', hzy.symm⟩)
      have := ih hy' hd.2
      rw [List.eraseP_cons_of_neg (by simp [hz]), List.countP_cons, List.countP_cons]
      omega

/-- Removing the element between two parts of the list. -/
theorem Distinct.erase_mid {pre post : List α} (h : Distinct key (pre ++ y :: post)) :
    Keyed.erase key (key y) (pre ++ y :: post) = pre ++ post := by
  have hpre : ∀ z ∈ pre, ¬(key z == key y) = true := by
    intro z hz
    simpa using h.key_ne_mid (List.mem_append_left _ hz)
  unfold Keyed.erase
  rw [List.eraseP_append_right _ hpre, List.eraseP_cons_of_pos (by simp)]

/-! ## Positions -/

theorem getElem?_set_of_ne {i : Nat} (h : ∀ y, l[i]? = some y → key y ≠ key x) :
    (Keyed.set key x l)[i]? = l[i]? := by
  unfold Keyed.set
  rw [List.getElem?_map]
  cases hy : l[i]? with
  | none => rfl
  | some y => simp [h y hy]

/-- Removing an element behind a position. -/
theorem getElem?_erase_of_lt {i : Nat} (h : ∀ j ≤ i, ∀ y, l[j]? = some y → key y ≠ k) :
    (Keyed.erase key k l)[i]? = l[i]? := by
  induction l generalizing i with
  | nil => rfl
  | cons z zs ih =>
    have hz : key z ≠ k := h 0 (Nat.zero_le _) z rfl
    have hcons : Keyed.erase key k (z :: zs) = z :: Keyed.erase key k zs := by
      unfold Keyed.erase
      rw [List.eraseP_cons_of_neg (by simp [hz])]
    rw [hcons]
    cases i with
    | zero => rfl
    | succ i => exact ih fun j hj y hy => h (j + 1) (by omega) y hy

/-- The position of an element. -/
theorem Distinct.findIdx (h : Distinct key l) {i : Nat} (hx : l[i]? = some x) :
    l.findIdx (fun y => key y == key x) = i := by
  obtain ⟨hi, hix⟩ := List.getElem?_eq_some_iff.mp hx
  refine (List.findIdx_eq hi).mpr ⟨by simp [hix], fun j hj => ?_⟩
  have hne : key l[j] ≠ key l[i] := by
    intro hk
    have hj' : j < (l.map key).length := by
      rw [List.length_map]
      omega
    have hi' : i < (l.map key).length := by rwa [List.length_map]
    have hij : (l.map key)[j] = (l.map key)[i] ↔ j = i := h.getElem_inj_iff
    simp only [List.getElem_map] at hij
    exact absurd (hij.mp hk) (by omega)
  simpa [hix] using hne

/-! ## Finding -/

theorem Distinct.find (h : Distinct key l) (hx : x ∈ l) :
    l.find? (fun y => key y == key x) = some x := by
  obtain ⟨z, hz⟩ : ∃ z, l.find? (fun y => key y == key x) = some z := by
    rw [← Option.isSome_iff_exists, List.find?_isSome]
    exact ⟨x, hx, by simp⟩
  have hzk : key z = key x := by simpa using List.find?_some hz
  rw [hz, h.eq (List.mem_of_find?_eq_some hz) hx hzk]

theorem mem_of_find (h : l.find? (fun y => key y == k) = some x) : x ∈ l ∧ key x = k :=
  ⟨List.mem_of_find?_eq_some h, by simpa using List.find?_some h⟩

end Keyed
