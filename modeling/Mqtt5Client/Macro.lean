import Mqtt5Client.Resume

/-!
# Mqtt5Client — steps that end in a resumption

A publish that leaves the queue wakes postponed ones. `Macro` takes the two together as one step:
there are the elementary steps that wake nothing (`plain`), a publish that leaves with the
resumption that follows (`finish`), and the resumption after a reconnection. The functions on
publishes are sequences of such steps.
-/

namespace Mqtt5

open Client

namespace Guard

/-- No publish is resumed or leaves. -/
def plain (G : Guard) : Guard :=
  { G with resume := fun _ _ => False, leave := fun _ _ => False }

/-- Publishes may also be resumed, or leave, in a resumption. -/
def woken (env : Env) (G : Guard) : Guard :=
  { G with
    resume := fun s op => ∃ idx, FirstFrom idx s op
    leave := fun s op => G.leave s op ∨ ∃ idx, (wakeGuard env idx).leave s op }

/-- What happens in a step without resumptions is allowed with them. -/
theorem plain_le_woken (env : Env) (G : Guard) : G.plain.Le (G.woken env) := by
  constructor <;> intros <;> first | assumption | trivial

/-- So is what a resumption does. -/
theorem wakeGuard_le (env : Env) (G : Guard) (idx : Nat) :
    (wakeGuard env idx).Le (G.woken env) := by
  constructor
  case resume => exact fun s op h => ⟨idx, h⟩
  case leave => exact fun s op h => Or.inr ⟨idx, h⟩
  all_goals intros
  all_goals trivial

end Guard

inductive Macro (env : Env) (G : Guard) (a : Bool) (b : Scope) : Client → Client → Prop
  | plain {s t : Client} (h : Micro env G.plain a b s t) : Macro env G a b s t
  | finish {s u : Client} (op : SendOp) (hop : op ∈ s.sendOps) (hG : G.leave s op)
      (h : Leave env G.plain a b s op u) :
      Macro env G a b s (wakeFrom (resumeSendOpsSince env) (s.sendIdx op.id) u)
  | reconnected {s : Client} (hG : G.reconnect s) :
      Macro env G a b s (s.resumeAfterReconnect env)

/-- Any number of steps. -/
abbrev MacroRun (env : Env) (G : Guard) (a : Bool) (b : Scope) : Client → Client → Prop :=
  Relation.ReflTransGen (Macro env G a b)

variable {env : Env} {G : Guard} {a : Bool} {b : Scope} {s t u : Client} {op op' : SendOp}

/-! ## Elementary steps behind a step -/

/-- The resumption behind a CONNACK begins where the backward scan stopped. -/
theorem resumeAfterReconnect_run (env : Env) (hr : Reg s) :
    ∃ idx, MicroRun env (wakeGuard env idx) a b s (s.resumeAfterReconnect env) := by
  unfold resumeAfterReconnect
  set s₁ := s.assert .brokerConnected (decide (0 < s.sessionState.highQosSendLimit))
  have hf : Frame a b s s₁ := (Frame.refl a b s).assert _ _ rfl
  dsimp only
  refine ⟨resumeFrom s₁.sendOps (min s₁.sessionState.highQosSendLimit s₁.sendOps.length),
    (Relation.ReflTransGen.single (.frame hf)).trans ?_⟩
  split
  · exact resumeSendOpsSince_run (hf.reg hr)
  · exact .refl

/-- A step with the resumptions in it is a run of elementary steps. -/
theorem Macro.run (h : Macro env G a b s t) (hr : Reg s) : MicroRun env (G.woken env) a b s t := by
  cases h with
  | plain h => exact .single (h.mono (G.plain_le_woken env))
  | finish op hop hG h =>
    refine (Relation.ReflTransGen.single
      (.leave op hop (Or.inl hG) (h.mono (G.plain_le_woken env)))).trans ?_
    exact wakeFrom_run (fun hu => (resumeSendOpsSince_run hu).mono (G.wakeGuard_le env _))
      (h.reg hop hr)
  | reconnected hG =>
    obtain ⟨idx, hrun⟩ := resumeAfterReconnect_run (a := a) (b := b) env hr
    exact hrun.mono (G.wakeGuard_le env idx)

/-- The registry of the publishes is kept by a step with its resumptions. -/
theorem Macro.reg (h : Macro env G a b s t) (hr : Reg s) : Reg t := (h.run hr).reg hr

/-- And by a run of them. -/
theorem MacroRun.reg (h : MacroRun env G a b s t) (hr : Reg s) : Reg t := by
  induction h with
  | refl => exact hr
  | tail _ h ih => exact h.reg ih

/-- A run of such steps is a run of elementary steps. -/
theorem MacroRun.run (h : MacroRun env G a b s t) (hr : Reg s) : MicroRun env (G.woken env) a b s t := by
  induction h with
  | refl => exact .refl
  | tail hsu h ih => exact ih.trans (h.run (MacroRun.reg hsu hr))

/-- It is a sequence of updates, too. -/
theorem MacroRun.acts (h : MacroRun env G a b s t) (hr : Reg s)
    (hG : a = true → ∀ s op, ¬G.start s op) : Acts a b s t :=
  MicroRun.acts (h.run hr) hG

/-! ## Chaining -/

/-- What leaves the publishes alone is such a run. -/
theorem MacroRun.frame (h : Frame a b s t) : MacroRun env G a b s t :=
  .single (.plain (.frame h))

/-- So is an elementary step that wakes nothing. -/
theorem MacroRun.micro (h : Micro env G.plain a b s t) : MacroRun env G a b s t :=
  .single (.plain h)

/-- And the callback of a publish. -/
theorem MacroRun.report (cb : Bool) (id : OpId) (status : AsyncOpStatus)
    (response : Option PublishResponse) :
    MacroRun env G a b s (if cb then s.emit (.publishCb id status response) else s) := by
  cases cb with
  | false => exact .refl
  | true => exact .micro (.report id status response (emit_eff rfl))

end Mqtt5
