import Mathlib.Data.List.Basic

/-!
# Labelled machines

A machine whose steps are determined by a label: the input the environment chose for the step. A
result about runs usually restricts them, so reachability takes the restriction as a parameter: a
predicate on the state before a step and its label. A restriction that depends on earlier steps is one
on a machine that keeps a record of them (`track`).
-/

/-- A machine over states `σ` and labels `L`; a label without a successor is not enabled. -/
structure Machine (σ L : Type) where
  init : σ → Prop
  step : σ → L → Option σ

namespace Machine

variable {σ L : Type} (M : Machine σ L)

/-- The states reached by the runs all of whose steps meet `ok`. -/
inductive Reach (ok : σ → L → Prop) : σ → Prop
  | start {s : σ} (h : M.init s) : Reach ok s
  | step {s t : σ} {l : L} (hs : Reach ok s) (hok : ok s l) (h : M.step s l = some t) : Reach ok t

variable {M}

/-- The invariant rule: what holds initially and is kept by every permitted step from a reachable
state holds in every reachable state. -/
theorem Reach.invariant {ok : σ → L → Prop} {inv : σ → Prop} (hinit : ∀ s, M.init s → inv s)
    (hstep : ∀ s l t, M.Reach ok s → inv s → ok s l → M.step s l = some t → inv t) {s : σ}
    (h : M.Reach ok s) : inv s := by
  induction h with
  | start h => exact hinit _ h
  | step hs hok h ih => exact hstep _ _ _ hs ih hok h

/-- Fewer restrictions, more runs. -/
theorem Reach.mono {ok ok' : σ → L → Prop} (hle : ∀ s l, ok s l → ok' s l) {s : σ}
    (h : M.Reach ok s) : M.Reach ok' s := by
  induction h with
  | start h => exact .start h
  | step _ hok h ih => exact .step ih (hle _ _ hok) h

/-! ## Runs with their steps -/

/-- A step: the state before it, its label and the state after it. -/
structure Step (σ L : Type) where
  before : σ
  label : L
  after : σ

/-- The runs all of whose steps meet `ok`, with their steps in order. -/
inductive Run (M : Machine σ L) (ok : σ → L → Prop) : List (Step σ L) → σ → Prop
  | start {s : σ} (h : M.init s) : Run M ok [] s
  | step {steps : List (Step σ L)} {s t : σ} {l : L} (hs : Run M ok steps s) (hok : ok s l)
      (h : M.step s l = some t) : Run M ok (steps ++ [⟨s, l, t⟩]) t

theorem Run.reach {ok : σ → L → Prop} {steps : List (Step σ L)} {s : σ} (h : M.Run ok steps s) :
    M.Reach ok s := by
  induction h with
  | start h => exact .start h
  | step _ hok h ih => exact .step ih hok h

theorem Reach.exists_run {ok : σ → L → Prop} {s : σ} (h : M.Reach ok s) : ∃ steps, M.Run ok steps s := by
  induction h with
  | start h => exact ⟨[], .start h⟩
  | step _ hok h ih =>
    obtain ⟨steps, hsteps⟩ := ih
    exact ⟨_, .step hsteps hok h⟩

/-- The last step of a run. -/
theorem Run.last {ok : σ → L → Prop} {steps : List (Step σ L)} {x : Step σ L} {s : σ}
    (h : M.Run ok (steps ++ [x]) s) :
    M.Run ok steps x.before ∧ ok x.before x.label ∧ M.step x.before x.label = some x.after ∧
      x.after = s := by
  generalize heq : steps ++ [x] = l at h
  cases h with
  | start h => exact absurd heq (by simp)
  | step hs hok h =>
    obtain ⟨rfl, hx⟩ := List.append_inj' heq rfl
    obtain rfl := List.singleton_inj.mp hx
    exact ⟨hs, hok, h, rfl⟩

/-- A run up to one of its steps. -/
theorem Run.split {ok : σ → L → Prop} {xs ys : List (Step σ L)} {y : Step σ L} {s : σ}
    (h : M.Run ok (xs ++ y :: ys) s) :
    M.Run ok xs y.before ∧ ok y.before y.label ∧ M.step y.before y.label = some y.after := by
  generalize heq : xs ++ y :: ys = l at h
  induction h generalizing ys with
  | start h => exact absurd heq (by simp)
  | @step steps s t l hs hok h ih =>
    -- the last step is the one in question, or it comes behind it
    rcases List.eq_nil_or_concat ys with rfl | ⟨zs, z, rfl⟩
    · obtain ⟨rfl, hy⟩ := List.append_inj' heq rfl
      obtain rfl := List.singleton_inj.mp hy
      exact ⟨hs, hok, h⟩
    · rw [List.concat_eq_append, ← List.cons_append, ← List.append_assoc] at heq
      exact ih (List.append_inj' heq rfl).1

/-- The invariant rule for the steps behind a given one. -/
theorem Run.after {ok : σ → L → Prop} {P : List (Step σ L) → σ → Prop} {pre mid : List (Step σ L)}
    {x : Step σ L} {s : σ} (h : M.Run ok (pre ++ x :: mid) s)
    (hfirst : M.Run ok pre x.before → ok x.before x.label →
      M.step x.before x.label = some x.after → P [] x.after)
    (hnext : ∀ mid y, M.Run ok (pre ++ x :: mid) y.before → P mid y.before → ok y.before y.label →
      M.step y.before y.label = some y.after → P (mid ++ [y]) y.after) : P mid s := by
  induction hlen : mid.length generalizing mid s with
  | zero =>
    obtain rfl := List.length_eq_zero_iff.mp hlen
    obtain ⟨hrun, hok, hstep, rfl⟩ := h.last
    exact hfirst hrun hok hstep
  | succ n ih =>
    rcases List.eq_nil_or_concat mid with rfl | ⟨zs, z, rfl⟩
    · cases hlen
    · rw [List.concat_eq_append] at h hlen ⊢
      rw [← List.cons_append, ← List.append_assoc] at h
      obtain ⟨hrun, hok, hstep, rfl⟩ := h.last
      exact hnext zs z hrun (ih hrun (by simpa using hlen)) hok hstep

/-! ## Executing a list of labels -/

/-- Run the labels in order; `none` when one is not enabled or not permitted. -/
def exec (M : Machine σ L) (ok : σ → L → Bool) : σ → List L → Option σ
  | s, [] => some s
  | s, l :: ls =>
    if ok s l then
      match M.step s l with
      | none => none
      | some t => exec M ok t ls
    else none

theorem exec_reach {ok : σ → L → Bool} {ok' : σ → L → Prop}
    (hok : ∀ s l, ok s l = true → ok' s l) {s t : σ} {ls : List L} (hs : M.Reach ok' s)
    (h : M.exec ok s ls = some t) : M.Reach ok' t := by
  induction ls generalizing s with
  | nil =>
    have hst : s = t := by simpa [exec] using h
    exact hst ▸ hs
  | cons l ls ih =>
    unfold exec at h
    split at h
    · rename_i hl
      split at h
      · cases h
      · rename_i t' ht'
        exact ih (.step hs (hok _ _ hl) ht') h
    · cases h

/-- The steps the labels make, as far as they are enabled. -/
def trace (M : Machine σ L) : σ → List L → List (Step σ L)
  | _, [] => []
  | s, l :: ls =>
    match M.step s l with
    | none => []
    | some t => ⟨s, l, t⟩ :: trace M t ls

/-- A run goes on with the labels. -/
theorem Run.exec {ok : σ → L → Bool} {ok' : σ → L → Prop} (hok : ∀ s l, ok s l = true → ok' s l)
    {steps : List (Step σ L)} {s t : σ} {ls : List L} (hs : M.Run ok' steps s)
    (h : M.exec ok s ls = some t) : M.Run ok' (steps ++ M.trace s ls) t := by
  induction ls generalizing s steps with
  | nil =>
    have hst : s = t := by simpa [Machine.exec] using h
    unfold trace
    rw [List.append_nil]
    exact hst ▸ hs
  | cons l ls ih =>
    unfold Machine.exec at h
    split at h
    · rename_i hl
      split at h
      · cases h
      · rename_i t' ht'
        have hmore := ih (.step hs (hok _ _ hl) ht') h
        unfold trace
        rw [ht']
        rwa [List.append_assoc] at hmore
    · cases h

/-- A concrete run that ends in a state with a decidable property. -/
theorem exists_reach_of_exec {ok : σ → L → Bool} {ok' : σ → L → Prop} {p : σ → Bool}
    (hok : ∀ s l, ok s l = true → ok' s l) {s : σ} {ls : List L} (hs : M.init s)
    (h : (M.exec ok s ls).any p = true) : ∃ t, M.Reach ok' t ∧ p t = true := by
  cases ht : M.exec ok s ls with
  | none => simp [ht] at h
  | some t =>
    rw [ht] at h
    exact ⟨t, exec_reach hok (.start hs) ht, h⟩

/-! ## A record of the run -/

/-- The machine with a record that every step updates, from the state before it and its label. The record
has no influence on the steps. -/
def track {γ : Type} (M : Machine σ L) (first : γ) (next : γ → σ → L → γ) : Machine (σ × γ) L where
  init := fun p => M.init p.1 ∧ p.2 = first
  step := fun p l => (M.step p.1 l).map (·, next p.2 p.1 l)

section Track

variable {γ : Type} {first : γ} {next : γ → σ → L → γ} {p q : σ × γ} {l : L}

theorem track_step : (M.track first next).step p l = some q ↔
    M.step p.1 l = some q.1 ∧ q.2 = next p.2 p.1 l := by
  obtain ⟨t, g⟩ := q
  show (M.step p.1 l).map (·, next p.2 p.1 l) = some (t, g) ↔ _
  rw [Option.map_eq_some_iff]
  constructor
  · rintro ⟨u, hu, heq⟩
    cases heq
    exact ⟨hu, rfl⟩
  · rintro ⟨hstep, hg⟩
    exact ⟨t, hstep, Prod.ext rfl hg.symm⟩

/-- The run without its record. -/
theorem Reach.forget {ok : σ × γ → L → Prop} (h : (M.track first next).Reach ok p) :
    M.Reach (fun _ _ => True) p.1 := by
  induction h with
  | start h => exact .start h.1
  | step _ _ h ih => exact .step ih trivial (track_step.mp h).1

end Track

end Machine
