/-!
# Agendas

A sequential program that is carried out in pieces: its control is a list of tasks, and a task changes the
state and leaves further tasks, which come before the ones that were left. `Done` is what the tasks amount
to when they are carried out one after the other, and the rules lead from it to the small steps.
-/

namespace Agenda

variable {σ τ : Type} {run : τ → σ → σ × List τ} {task : τ} {ts us : List τ} {s t u : σ}

/-- The tasks, with those they leave, lead from one state to another. -/
inductive Done (run : τ → σ → σ × List τ) : List τ → σ → σ → Prop
  | nil {s : σ} : Done run [] s s
  | cons {task : τ} {ts : List τ} {s t u : σ} (h : Done run (run task s).2 (run task s).1 t)
      (hs : Done run ts t u) : Done run (task :: ts) s u

theorem Done.append (h : Done run ts s t) (hs : Done run us t u) : Done run (ts ++ us) s u := by
  induction h with
  | nil => exact hs
  | cons h _ _ ih => exact .cons h (ih hs)

/-- One task, by the tasks it leaves. -/
theorem Done.single (h : Done run (run task s).2 (run task s).1 t) : Done run [task] s t :=
  .cons h .nil

/-- A task that leaves nothing. -/
theorem Done.leaf (h : (run task s).2 = []) : Done run [task] s (run task s).1 := by
  refine .single ?_
  rw [h]
  exact .nil

/-- What each task amounts to is put together in order. -/
theorem Done.foldl {f : τ → σ → σ} (h : ∀ task ∈ ts, ∀ s, Done run [task] s (f task s)) (s : σ) :
    Done run ts s (ts.foldl (fun s task => f task s) s) := by
  induction ts generalizing s with
  | nil => exact .nil
  | cons task ts ih =>
    have hhead := h task List.mem_cons_self s
    exact hhead.append (ih (fun task htask => h task (List.mem_cons_of_mem _ htask)) (f task s))

/-- The rule for the small steps: what every task of a kind keeps, when it is the first one, holds when
tasks of the kind are done. The kind is closed under leaving tasks. -/
theorem Done.invariant {P : σ → List τ → Prop} {Q : τ → Prop}
    (hleave : ∀ task s, Q task → ∀ task' ∈ (run task s).2, Q task')
    (hstep : ∀ task rest s, Q task → P s (task :: rest) → P (run task s).1 ((run task s).2 ++ rest))
    (h : Done run ts s t) (hts : ∀ task ∈ ts, Q task) {rest : List τ} (hs : P s (ts ++ rest)) :
    P t rest := by
  induction h generalizing rest with
  | nil => exact hs
  | @cons task ts s t u _ _ ih ihs =>
    have htask : Q task := hts task List.mem_cons_self
    refine ihs (fun task htask => hts task (List.mem_cons_of_mem _ htask)) ?_
    refine ih (hleave task s htask) ?_
    exact hstep task (ts ++ rest) s htask hs

end Agenda
