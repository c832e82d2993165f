import Mathlib.Data.List.Basic
import Mathlib.Data.List.Perm.Basic

/-!
# Changing one element of a list

`modifyFirst p f` changes the first element that meets `p`: the update of one object in a list of
objects found by identity.
-/

/-- Apply `f` to the first element that meets `p`. -/
def modifyFirst {α : Type} (p : α → Bool) (f : α → α) : List α → List α
  | [] => []
  | x :: xs => if p x then f x :: xs else x :: modifyFirst p f xs

/-- An element is one of those that were there, or the changed one. -/
theorem mem_of_mem_modifyFirst {α : Type} {p : α → Bool} {f : α → α} {l : List α} {x : α}
    (h : x ∈ modifyFirst p f l) : x ∈ l ∨ ∃ y ∈ l, x = f y := by
  induction l with
  | nil => cases h
  | cons y ys ih =>
    unfold modifyFirst at h
    split at h
    · rcases List.mem_cons.mp h with rfl | h
      · exact Or.inr ⟨y, List.mem_cons_self, rfl⟩
      · exact Or.inl (List.mem_cons_of_mem _ h)
    · rcases List.mem_cons.mp h with rfl | h
      · exact Or.inl List.mem_cons_self
      · rcases ih h with h | ⟨z, hz, heq⟩
        · exact Or.inl (List.mem_cons_of_mem _ h)
        · exact Or.inr ⟨z, List.mem_cons_of_mem _ hz, heq⟩

/-- A projection that the change leaves alone on the changed element is left alone on the list. -/
theorem map_modifyFirst {α β : Type} {p : α → Bool} {f : α → α} {g : α → β} {l : List α} {x : α}
    (hx : l.find? p = some x) (hg : g (f x) = g x) : (modifyFirst p f l).map g = l.map g := by
  induction l with
  | nil => cases hx
  | cons y ys ih =>
    rw [List.find?_cons] at hx
    unfold modifyFirst
    cases hy : p y with
    | true =>
      rw [hy] at hx
      have hyx : y = x := by simpa using hx
      simp [hyx, hg]
    | false =>
      rw [hy] at hx
      simpa using ih hx

/-- The element that was put in the place of the found one is found there. -/
theorem find?_modifyFirst {α : Type} {p : α → Bool} {l : List α} {x y : α}
    (hx : l.find? p = some x) (hy : p y = true) :
    (modifyFirst p (fun _ => y) l).find? p = some y := by
  induction l with
  | nil => cases hx
  | cons z zs ih =>
    rw [List.find?_cons] at hx
    unfold modifyFirst
    cases hz : p z with
    | true => simp [hy]
    | false =>
      rw [hz] at hx
      simpa [hz] using ih hx

/-- The last change counts. -/
theorem modifyFirst_modifyFirst {α : Type} {p : α → Bool} {l : List α} {y z : α} (hy : p y = true) :
    modifyFirst p (fun _ => z) (modifyFirst p (fun _ => y) l) = modifyFirst p (fun _ => z) l := by
  induction l with
  | nil => rfl
  | cons x xs ih =>
    cases hx : p x with
    | true => simp [modifyFirst, hx, hy]
    | false => simp [modifyFirst, hx, ih]

/-- The changed element is the one that is erased. -/
theorem eraseP_modifyFirst {α : Type} {p : α → Bool} {l : List α} {y : α} (hy : p y = true) :
    (modifyFirst p (fun _ => y) l).eraseP p = l.eraseP p := by
  induction l with
  | nil => rfl
  | cons z zs ih =>
    unfold modifyFirst
    cases hz : p z with
    | true => rw [if_pos rfl, List.eraseP_cons_of_pos hy, List.eraseP_cons_of_pos hz]
    | false =>
      rw [if_neg (by simp), List.eraseP_cons_of_neg (by simp [hz]), List.eraseP_cons_of_neg (by simp [hz]),
        ih]

/-- The found element in front of the others. -/
theorem perm_eraseP {α : Type} {p : α → Bool} {l : List α} {x : α} (hx : l.find? p = some x) :
    l.Perm (x :: l.eraseP p) := by
  induction l with
  | nil => cases hx
  | cons y ys ih =>
    rw [List.find?_cons] at hx
    cases hy : p y with
    | true =>
      rw [hy] at hx
      have hyx : y = x := by simpa using hx
      rw [List.eraseP_cons_of_pos hy, hyx]
    | false =>
      rw [hy] at hx
      rw [List.eraseP_cons_of_neg (by simp [hy])]
      exact ((ih (by simpa using hx)).cons y).trans (.swap x y _)

/-- What the found element is changed to in front of the others. -/
theorem perm_modifyFirst {α : Type} {p : α → Bool} {f : α → α} {l : List α} {x : α}
    (hx : l.find? p = some x) : (modifyFirst p f l).Perm (f x :: l.eraseP p) := by
  induction l with
  | nil => cases hx
  | cons y ys ih =>
    rw [List.find?_cons] at hx
    unfold modifyFirst
    cases hy : p y with
    | true =>
      rw [hy] at hx
      have hyx : y = x := by simpa using hx
      rw [List.eraseP_cons_of_pos hy, hyx]
      exact .refl _
    | false =>
      rw [hy] at hx
      rw [List.eraseP_cons_of_neg (by simp [hy])]
      exact ((ih (by simpa using hx)).cons y).trans (.swap _ y _)
