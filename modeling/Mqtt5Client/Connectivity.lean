import Mqtt5Client.Invariants

/-!
# Mqtt5Client — the state of the connection

The flags `m_connected` and `m_disconnecting` change where the connection ends, where a new one is
initialised and where a CONNACK is handled. While the connection ends the client is not connected
(`reach_disconnecting`).
-/

namespace Mqtt5

open Client

variable {env : Env} {G : Guard} {a : Bool} {b : Scope} {s t : Client} {sys sys' : Sys} {l : Label}

/-- CONNACK is not looked at on the way out. -/
theorem handle_of_disconnecting {msg : ConnackMsg} (h : s.sessionState.disconnecting = true) :
    s.handle env (.connack msg) = s := by
  show s.handleProtMessage env (.connack msg) = s
  unfold handleProtMessage
  rw [if_pos h]

/-- After a step, too, a client on the way out is not connected. -/
theorem step_disconnecting (hw : SysWf sys) (hstep : sys.step env l = some sys')
    (hs : sys.client.sessionState.disconnecting = true → sys.client.sessionState.connected = false) :
    sys'.client.sessionState.disconnecting = true → sys'.client.sessionState.connected = false := by
  cases hc : sys.isConnack l with
  | true =>
    obtain ⟨msg, hin⟩ := connack_of_isConnack hc
    obtain ⟨rest, -, -, hclient⟩ := inMsg_step hstep hin
    rw [hclient]
    cases hdis : sys.client.sessionState.disconnecting with
    | true =>
      rw [handle_of_disconnecting hdis]
      exact hs
    | false =>
      have hrun : MicroRun env ((connackGuard env sys l).woken env) false .begins sys.client
          (sys.client.handle env (.connack msg)) :=
        MacroRun.run ((handleConnack_dispatched env hw.reg hw.lock msg).run hw.reg
          (connackGuard_connack hin) (.begins _)) hw.reg
      -- no part of the handling begins the end of the connection
      have hkeep := hrun.flags (P := fun f => f.2 = false) (fun u c hG hu => ?_) hdis
      · exact fun h => absurd (hkeep.symm.trans h) (by simp)
      · obtain ⟨m, -, hconnack⟩ := hG
        cases hconnack with
        | reset => rfl
        | _ => exact hu
  | false =>
    have hrun := MacroRun.run (step_effects (a := false) (b := .begins) hw hstep (by simp) (.begins _))
      hw.reg
    unfold stepGuard at hrun
    rw [hc, if_neg Bool.false_ne_true] at hrun
    refine hrun.flags (P := fun f => f.2 = true → f.1 = false) (fun u c hG hu => ?_) hs
    cases c with
    | disconnecting => exact fun _ => rfl
    | reset => exact fun _ => rfl
    | ordering o => exact hu
    | _ => exact absurd hG id

/-- While the connection ends the client is not connected. -/
theorem reach_disconnecting {ok : Sys → Label → Prop} (h : (machine env).Reach ok sys) :
    sys.client.sessionState.disconnecting = true → sys.client.sessionState.connected = false := by
  have hinit : ∀ sys, (machine env).init sys →
      sys.client.sessionState.disconnecting = true → sys.client.sessionState.connected = false := by
    rintro _ ⟨cbs, config, rfl⟩
    exact fun _ => rfl
  exact h.invariant hinit fun sys l sys' hs hinv _ hstep => step_disconnecting (reach_wf hs) hstep hinv

end Mqtt5
