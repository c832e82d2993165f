import Mathlib.Data.List.Basic

/-!
# Monitors

A safety property of a sequence of events as a machine that reads them: it keeps what it has to know of
the events so far and has no next state where an event is not allowed. A sequence with the property
is one the monitor reads to its end.
-/

/-- A monitor of events `ε` with states `σ`. -/
structure Monitor (ε σ : Type) where
  next : σ → ε → Option σ

namespace Monitor

variable {ε σ : Type} (M : Monitor ε σ) {x y z : σ} {es fs : List ε}

/-- The state behind a sequence of events; `none` when one of them is not allowed. -/
def run (x : σ) (es : List ε) : Option σ := es.foldlM M.next x

/-- The sequence is allowed. -/
def Accepts (x : σ) (es : List ε) : Prop := (M.run x es).isSome = true

instance (x : σ) (es : List ε) : Decidable (M.Accepts x es) := inferInstanceAs (Decidable (_ = true))

variable {M}

@[simp]
theorem run_nil : M.run x [] = some x := rfl

theorem run_cons (e : ε) : M.run x (e :: es) = (M.next x e).bind (M.run · es) := by
  unfold run
  rw [List.foldlM_cons]
  rfl

theorem run_singleton (e : ε) : M.run x [e] = M.next x e := by
  rw [run_cons]
  cases M.next x e <;> rfl

/-- A sequence is read in two parts. -/
theorem run_append : M.run x (es ++ fs) = (M.run x es).bind (M.run · fs) := by
  induction es generalizing x with
  | nil => rfl
  | cons e es ih =>
    rw [List.cons_append, run_cons, run_cons, Option.bind_assoc]
    refine congrArg _ (funext fun y => ?_)
    rw [ih]

theorem run_trans (h : M.run x es = some y) (h' : M.run y fs = some z) : M.run x (es ++ fs) = some z := by
  rw [run_append, h]
  exact h'

/-- The events that never matter may be left out. -/
theorem run_filter {p : ε → Bool} (h : ∀ y e, p e = false → M.next y e = some y) :
    M.run x (es.filter p) = M.run x es := by
  induction es generalizing x with
  | nil => rfl
  | cons e es ih =>
    cases hp : p e with
    | true =>
      rw [List.filter_cons_of_pos hp, run_cons, run_cons]
      exact congrArg _ (funext fun y => ih)
    | false =>
      rw [List.filter_cons_of_neg (by simp [hp]), run_cons, h x e hp]
      exact ih

end Monitor
