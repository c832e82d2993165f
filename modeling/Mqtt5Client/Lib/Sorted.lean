import Mathlib.Data.List.Basic
import Mathlib.Data.List.InsertIdx
import Mathlib.Data.List.Pairwise
import Mathlib.Logic.Function.Basic

/-!
# Sorted vectors

A set or a map kept as a vector that is strictly sorted by a key: it is searched with a lower bound,
and an element is inserted or erased at the position found. The order is any strict total order with a
decision procedure.
-/

namespace Sorted

variable {α β : Type} [LT α] [DecidableLT α] {key : β → α} {l : List β} {x : α} {y z : β}

/-- The lower bound of `x`: the first position whose key is not below it. -/
def place (key : β → α) (l : List β) (x : α) : Nat := l.findIdx fun y => !decide (key y < x)

/-- Strictly sorted by the key. -/
abbrev Strict (key : β → α) (l : List β) : Prop := l.Pairwise fun y z => key y < key z

/-! ## The position found -/

/-- The position is one at which may be inserted. -/
theorem place_le (key : β → α) (l : List β) (x : α) : place key l x ≤ l.length :=
  List.findIdx_le_length

/-- Everything in front of the position is smaller. -/
theorem lt_of_mem_take (h : y ∈ l.take (place key l x)) : key y < x := by
  obtain ⟨i, hi, rfl⟩ := List.mem_iff_getElem.mp h
  rw [List.length_take] at hi
  rw [List.getElem_take]
  have hlt : i < place key l x := by omega
  simpa using List.not_of_lt_findIdx hlt

/-- The smaller elements are those in front of the position. -/
theorem takeWhile_eq (key : β → α) (l : List β) (x : α) :
    l.takeWhile (fun y => decide (key y < x)) = l.take (place key l x) := by
  induction l with
  | nil => rfl
  | cons z l ih =>
    unfold place at ih ⊢
    rw [List.takeWhile_cons, List.findIdx_cons]
    cases h : decide (key z < x) with
    | true => simp [ih]
    | false => simp

theorem dropWhile_eq (key : β → α) (l : List β) (x : α) :
    l.dropWhile (fun y => decide (key y < x)) = l.drop (place key l x) := by
  induction l with
  | nil => rfl
  | cons z l ih =>
    unfold place at ih ⊢
    rw [List.dropWhile_cons, List.findIdx_cons]
    cases h : decide (key z < x) with
    | true => simp [ih]
    | false => simp

theorem insertIdx_eq (i : Nat) (hi : i ≤ l.length) (z : β) :
    l.insertIdx i z = l.take i ++ z :: l.drop i := by
  induction l generalizing i with
  | nil =>
    obtain rfl : i = 0 := by simpa using hi
    rfl
  | cons y l ih =>
    cases i with
    | zero => rfl
    | succ i =>
      have hi : i ≤ l.length := by simpa using hi
      rw [List.insertIdx_succ_cons, ih i hi]
      rfl

/-! ## Order -/

variable [Std.Irrefl (α := α) (· < ·)] [Trans (α := α) (· < ·) (· < ·) (· < ·)]

omit [DecidableLT α] [Trans (α := α) (· < ·) (· < ·) (· < ·)] in
/-- Different keys of an ordered vector. -/
theorem ne_of_lt {a b : α} (h : a < b) : a ≠ b := by
  rintro rfl
  exact Std.Irrefl.irrefl a h

omit [Std.Irrefl (α := α) (· < ·)] in
/-- Behind the lower bound no key is below. -/
theorem not_lt_of_mem_drop (hl : Strict key l) (h : y ∈ l.drop (place key l x)) : ¬key y < x := by
  obtain ⟨i, hi, rfl⟩ := List.mem_iff_getElem.mp h
  rw [List.length_drop] at hi
  rw [List.getElem_drop]
  have hlen : place key l x < l.length := by omega
  have hfirst : ¬key (l[place key l x]) < x := by
    have h := List.findIdx_getElem (p := fun y => !decide (key y < x)) (w := hlen)
    simp only [Bool.not_eq_true', decide_eq_false_iff_not] at h
    exact h
  intro hlt
  cases i with
  | zero => exact hfirst hlt
  | succ i =>
    have hle := List.pairwise_iff_getElem.mp hl (place key l x) (place key l x + (i + 1)) hlen
      (by omega) (by omega)
    exact hfirst (Trans.trans hle hlt)

/-- At the lower bound of `x` stands the least key that is not below `x`. -/
theorem getElem?_place_iff (hl : Strict key l) :
    l[place key l x]? = some y ↔ y ∈ l ∧ ¬key y < x ∧ ∀ z ∈ l, key z < key y → key z < x := by
  constructor
  · intro hget
    obtain ⟨hlen, rfl⟩ := List.getElem?_eq_some_iff.mp hget
    refine ⟨List.getElem_mem hlen, not_lt_of_mem_drop hl ?_, fun z hz hlt => ?_⟩
    · exact List.mem_drop_iff_getElem.mpr ⟨0, by omega, rfl⟩
    · -- a smaller key stands before it
      obtain ⟨j, hj, rfl⟩ := List.mem_iff_getElem.mp hz
      rcases Nat.lt_or_ge j (place key l x) with hbefore | hge
      · exact lt_of_mem_take (List.mem_take_iff_getElem.mpr ⟨j, by omega, rfl⟩)
      · rcases Nat.eq_or_lt_of_le hge with heq | hgt
        · subst heq
          exact absurd hlt (Std.Irrefl.irrefl _)
        · have hafter := List.pairwise_iff_getElem.mp hl _ _ hlen hj hgt
          exact absurd (Trans.trans hlt hafter) (Std.Irrefl.irrefl _)
  · rintro ⟨hy, hnot, hleast⟩
    obtain ⟨i, hi, rfl⟩ := List.mem_iff_getElem.mp hy
    have hle : place key l x ≤ i := by
      by_contra hlt
      exact hnot (lt_of_mem_take (List.mem_take_iff_getElem.mpr ⟨i, by omega, rfl⟩))
    rcases Nat.eq_or_lt_of_le hle with heq | hlt
    · subst heq
      exact List.getElem?_eq_getElem hi
    · -- the element at the lower bound would be smaller and not below
      have hsmall := List.pairwise_iff_getElem.mp hl _ _ (by omega) hi hlt
      have hmem : l[place key l x] ∈ l.drop (place key l x) :=
        List.mem_drop_iff_getElem.mpr ⟨0, by omega, rfl⟩
      exact absurd (hleast _ (List.getElem_mem _) hsmall) (not_lt_of_mem_drop hl hmem)

/-- A key that is stored stands at its lower bound. -/
theorem getElem?_place (hl : Strict key l) (hy : y ∈ l) (hkey : key y = x) :
    l[place key l x]? = some y :=
  (getElem?_place_iff hl).mpr ⟨hy, fun hlt => ne_of_lt hlt hkey, fun _ _ hlt => hkey ▸ hlt⟩

/-- The search finds the key at its position or nowhere. -/
theorem exists_place_iff (hl : Strict key l) :
    (∃ y, l[place key l x]? = some y ∧ key y = x) ↔ ∃ y ∈ l, key y = x := by
  constructor
  · rintro ⟨y, hy, hkey⟩
    exact ⟨y, List.mem_of_getElem? hy, hkey⟩
  · rintro ⟨y, hy, hkey⟩
    exact ⟨y, getElem?_place hl hy hkey, hkey⟩

/-! ## Insertion and removal -/

omit [Std.Irrefl (α := α) (· < ·)] [Trans (α := α) (· < ·) (· < ·) (· < ·)] in
/-- An insertion adds one element. -/
theorem mem_insertIdx (z : β) : y ∈ l.insertIdx (place key l x) z ↔ y = z ∨ y ∈ l :=
  List.mem_insertIdx (place_le key l x)

omit [Std.Irrefl (α := α) (· < ·)] in
/-- A new element goes to the lower bound of its key. -/
theorem insertIdx_strict [Std.Trichotomous (α := α) (· < ·)] (hl : Strict key l)
    (hnew : ∀ y ∈ l, key y ≠ key z) :
    Strict key (l.insertIdx (place key l (key z)) z) := by
  have hparts : (l.take (place key l (key z)) ++ l.drop (place key l (key z))).Pairwise
      (fun y z => key y < key z) := by rwa [List.take_append_drop]
  obtain ⟨htake, hdrop, hcross⟩ := List.pairwise_append.mp hparts
  rw [insertIdx_eq _ (place_le key l (key z))]
  unfold Strict
  rw [List.pairwise_append, List.pairwise_cons]
  refine ⟨htake, ⟨fun y hy => ?_, hdrop⟩, fun y hy w hw => ?_⟩
  · by_contra hnot
    have hne := hnew y (List.mem_of_mem_drop hy)
    exact hne (Std.Trichotomous.trichotomous _ _ (not_lt_of_mem_drop hl hy) hnot)
  · rcases List.mem_cons.mp hw with rfl | hw
    · exact lt_of_mem_take hy
    · exact hcross y hy w hw

omit [DecidableLT α] [Std.Irrefl (α := α) (· < ·)] [Trans (α := α) (· < ·) (· < ·) (· < ·)] in
/-- A removal keeps the order. -/
theorem eraseIdx_strict (hl : Strict key l) (i : Nat) : Strict key (l.eraseIdx i) :=
  hl.sublist (List.eraseIdx_sublist l i)

/-- Erasing a stored key leaves the others. -/
theorem mem_eraseIdx (hl : Strict key l) (hy : y ∈ l) (hkey : key y = x) :
    z ∈ l.eraseIdx (place key l x) ↔ z ∈ l ∧ key z ≠ x := by
  obtain ⟨hlen, hget⟩ := List.getElem?_eq_some_iff.mp (getElem?_place hl hy hkey)
  rw [List.mem_eraseIdx_iff_getElem]
  constructor
  · rintro ⟨i, hi, hne, rfl⟩
    refine ⟨List.getElem_mem hi, fun heq => ?_⟩
    rcases Nat.lt_or_gt_of_ne hne with hlt | hgt
    · have h := List.pairwise_iff_getElem.mp hl _ _ hi hlen hlt
      rw [hget, hkey, heq] at h
      exact Std.Irrefl.irrefl x h
    · have h := List.pairwise_iff_getElem.mp hl _ _ hlen hi hgt
      rw [hget, hkey, heq] at h
      exact Std.Irrefl.irrefl x h
  · rintro ⟨hz, hne⟩
    obtain ⟨i, hi, rfl⟩ := List.mem_iff_getElem.mp hz
    refine ⟨i, hi, ?_, rfl⟩
    rintro rfl
    rw [hget, hkey] at hne
    exact hne rfl

/-! ## The vector as a map

A plain search says what the vector stands for. The search with the lower bound agrees with it, and an
insertion or a removal at the position found is an update of the map. -/

variable [DecidableEq α]

/-- The element with a given key, by a plain search. -/
def lookup (key : β → α) (l : List β) (x : α) : Option β := l.find? fun y => decide (key y = x)

/-- The search finds an element if and only if it is there. -/
theorem lookup_eq_some (hl : Strict key l) : lookup key l x = some y ↔ y ∈ l ∧ key y = x := by
  unfold lookup
  constructor
  · intro h
    exact ⟨List.mem_of_find?_eq_some h, by simpa using List.find?_some h⟩
  · rintro ⟨hy, hkey⟩
    cases hfind : l.find? fun y => decide (key y = x) with
    | none => exact absurd hkey (by simpa using List.find?_eq_none.mp hfind y hy)
    | some z =>
      have hz : key z = x := by simpa using List.find?_some hfind
      have hplace := getElem?_place hl (List.mem_of_find?_eq_some hfind) hz
      rw [getElem?_place hl hy hkey] at hplace
      exact hplace.symm

omit [LT α] [DecidableLT α] [Std.Irrefl (α := α) (· < ·)] [Trans (α := α) (· < ·) (· < ·) (· < ·)] in
/-- And fails when the key is not there. -/
theorem lookup_eq_none : lookup key l x = none ↔ ∀ y ∈ l, key y ≠ x := by
  unfold lookup
  rw [List.find?_eq_none]
  simp

/-- The search with the lower bound. -/
theorem lookup_place (hl : Strict key l) :
    (l[place key l x]?).filter (fun y => decide (key y = x)) = lookup key l x := by
  refine Option.ext fun y => ?_
  rw [lookup_eq_some hl, Option.filter_eq_some_iff, decide_eq_true_eq]
  constructor
  · rintro ⟨hget, hkey⟩
    exact ⟨List.mem_of_getElem? hget, hkey⟩
  · rintro ⟨hy, hkey⟩
    exact ⟨getElem?_place hl hy hkey, hkey⟩

/-- An insertion is an update of the map. -/
theorem lookup_insertIdx [Std.Trichotomous (α := α) (· < ·)] (hl : Strict key l)
    (hnew : ∀ y ∈ l, key y ≠ key z) :
    lookup key (l.insertIdx (place key l (key z)) z) =
      Function.update (lookup key l) (key z) (some z) := by
  refine funext fun x => Option.ext fun y => ?_
  rw [lookup_eq_some (insertIdx_strict hl hnew), mem_insertIdx]
  by_cases hx : x = key z
  · rw [hx, Function.update_self, Option.some.injEq]
    constructor
    · rintro ⟨rfl | hy, hkey⟩
      · rfl
      · exact absurd hkey (hnew y hy)
    · rintro rfl
      exact ⟨Or.inl rfl, rfl⟩
  · rw [Function.update_of_ne hx, lookup_eq_some hl]
    constructor
    · rintro ⟨rfl | hy, hkey⟩
      · exact absurd hkey.symm hx
      · exact ⟨hy, hkey⟩
    · rintro ⟨hy, hkey⟩
      exact ⟨Or.inr hy, hkey⟩

/-- A removal forgets the key. -/
theorem lookup_eraseIdx (hl : Strict key l) (hy : y ∈ l) (hkey : key y = x) :
    lookup key (l.eraseIdx (place key l x)) = Function.update (lookup key l) x none := by
  refine funext fun x' => Option.ext fun z => ?_
  rw [lookup_eq_some (eraseIdx_strict hl _), mem_eraseIdx hl hy hkey]
  by_cases hx : x' = x
  · rw [hx, Function.update_self]
    constructor
    · rintro ⟨⟨-, hne⟩, hz⟩
      exact absurd hz hne
    · intro hz
      cases hz
  · rw [Function.update_of_ne hx, lookup_eq_some hl]
    constructor
    · rintro ⟨⟨hz, -⟩, hkey'⟩
      exact ⟨hz, hkey'⟩
    · rintro ⟨hz, hkey'⟩
      exact ⟨⟨hz, hkey'.trans_ne hx⟩, hkey'⟩

end Sorted
