import Mqtt5Client.Lib.Monitor
import Mqtt5Client.Sessions

/-!
# Mqtt5Client — what is handed over

Packets, the report that the broker is gone and the changes of `m_connected` in the order of the log
(`Client.traffic`). An update hands over at most one of them, and none is lost: the log only grows
(`Prim.logs`). A property of this traffic is a monitor, which the updates of a step drive from one state
to another (`Reads`).
-/

namespace Mqtt5

open Client

variable {env : Env} {a : Bool} {b : Scope} {act : Act} {s t u : Client} {sys sys' : Sys} {l : Label}

/-! ## The log -/

/-- What an update hands over. -/
def Act.traffic : Act → List Event
  | .emit e => [e].filter Event.isTraffic
  | _ => []

/-- The log grows by entries of which the given ones are traffic. -/
def Logs (out : List Event) (s t : Client) : Prop :=
  ∃ es, t.log = s.log ++ es ∧ es.filter Event.isTraffic = out

theorem Logs.of_eq (h : t.log = s.log) : Logs [] s t := ⟨[], by rw [h, List.append_nil], rfl⟩

/-- One event. -/
theorem Logs.of_emit {e : Event} (h : t.log = s.log ++ [e]) : Logs ([e].filter Event.isTraffic) s t :=
  ⟨[e], h, rfl⟩

/-- What is added to the log is added to the traffic. -/
theorem Logs.traffic {out : List Event} (h : Logs out s t) : t.traffic = s.traffic ++ out := by
  obtain ⟨es, hlog, rfl⟩ := h
  unfold Client.traffic
  rw [hlog, List.filter_append]

/-- Two parts of a step. -/
theorem Logs.trans {out out' : List Event} (h : Logs out s t) (h' : Logs out' t u) :
    Logs (out ++ out') s u := by
  obtain ⟨es, hlog, rfl⟩ := h
  obtain ⟨fs, hlog', rfl⟩ := h'
  exact ⟨es ++ fs, by rw [hlog', hlog, List.append_assoc], List.filter_append ..⟩

/-- Entries of the log that are not handed over on their own. -/
def Event.isNote : Event → Bool
  | .errorLog _ | .sendOpErased _ | .messageReceived _ => true
  | _ => false

/-- What an update adds to the log. -/
inductive Entries (act : Act) (s t : Client) : Prop
  | emits (e : Event) (hact : act = .emit e) (h : t.log = s.log ++ [e])
  | notes (es : List Event) (hact : ∀ e, act ≠ .emit e) (h : t.log = s.log ++ es)
      (hes : ∀ e ∈ es, e.isNote = true)

/-- What an update writes is of its kind. -/
theorem Prim.entries (h : Prim act s t) : Entries act s t := by
  have hnone : (∀ e, act ≠ .emit e) → t.log = s.log → Entries act s t := fun hact heq =>
    .notes [] hact (by rw [heq, List.append_nil]) fun e he => nomatch he
  have hnote : ∀ e : Event, (∀ e, act ≠ .emit e) → e.isNote = true → t.log = s.log ++ [e] →
      Entries act s t := fun e hact he heq =>
    .notes [e] hact heq fun e' he' => by rw [List.mem_singleton.mp he']; exact he
  -- a failed search for an identifier is noted
  have halloc : ∀ env : Env, (∀ e, act ≠ .emit e) → t.log = (s.allocPacketId env).1.log →
      Entries act s t := by
    intro env hact heq
    unfold Client.allocPacketId at heq
    dsimp only at heq
    split at heq
    · exact hnote (.errorLog "No more available packet IDs for allocation") hact rfl heq
    · exact hnone hact heq
  cases h with
  | emit e h hg => exact .emits e rfl rfl
  | report info => exact hnote (.messageReceived info) (fun _ h => nomatch h) rfl rfl
  | probe env => exact hnone (fun _ h => nomatch h) (log_assert (s.timerAlloc env).1 _ _)
  | createSend env h => exact hnone (fun _ h => nomatch h) (log_assert (s.timerAlloc env).1 _ _)
  | createRecv env => exact hnone (fun _ h => nomatch h) (log_assert (s.timerAlloc env).1 _ _)
  | createKeepAlive env hnil hcon =>
    refine hnone (fun _ h => nomatch h) ?_
    rcases createKeepAliveOpIfNeeded_cases env hnil with heq | ⟨c, m, op, -, heq⟩
    · rw [heq]
      rfl
    · rw [heq]
      exact log_assert s _ _
  | unlock => exact hnone (fun _ h => nomatch h) (log_assert s _ _)
  | takeSubscribe env op hop => exact halloc env (fun _ h => nomatch h) rfl
  | takeUnsubscribe env op hop => exact halloc env (fun _ h => nomatch h) rfl
  | takeSend env op x hop hx => exact halloc env (fun _ h => nomatch h) rfl
  | complete ref => exact hnone (fun _ h => nomatch h) (log_completeRef ref s)
  | completeSend op hop href =>
    refine hnote (.sendOpErased op.id) (fun _ h => nomatch h) rfl ?_
    unfold destroySendOp eraseSendOp
    rw [timerFree_eq, releasePacketId_eq]
    rfl
  | clean =>
    refine hnone (fun _ h => nomatch h) ?_
    unfold cleanOps
    split <;> rfl
  | _ => exact hnone (fun _ h => nomatch h) rfl

/-- An update hands over what its kind tells. -/
theorem Prim.logs (h : Prim act s t) : Logs act.traffic s t := by
  cases h.entries with
  | emits e hact heq =>
    rw [hact]
    exact .of_emit heq
  | notes es hact heq hes =>
    have htraffic : act.traffic = [] := by
      cases act <;> first | rfl | exact absurd rfl (hact _)
    rw [htraffic]
    refine ⟨es, heq, List.filter_eq_nil_iff.mpr fun e he => ?_⟩
    have hnote := hes e he
    cases e <;> first | exact Bool.false_ne_true | cases hnote

/-- A sequence of updates writes some traffic. -/
theorem Acts.logs (h : Acts a b s t) : ∃ out, Logs out s t := by
  refine h.invariant (P := fun u => ∃ out, Logs out s u) ?_ ⟨[], .of_eq rfl⟩
  rintro act u v hp - ⟨out, hout⟩
  exact ⟨_, hout.trans hp.logs⟩

/-- Everything a run of updates hands over is permitted, and has what an invariant gives where it is
handed over. -/
theorem Acts.logs_all {P : Event → Prop} {inv : Client → Prop}
    (hinv : ∀ {act u v}, Prim act u v → act.allowed a b = true → inv u → inv v)
    (hP : ∀ u e, inv u → e.Grounded u → (Act.emit e).allowed a b = true → e.isTraffic = true → P e)
    (h : Acts a b s t) (hs : inv s) : ∃ out, Logs out s t ∧ ∀ e ∈ out, P e := by
  have hall : (∃ out, Logs out s t ∧ ∀ e ∈ out, P e) ∧ inv t := by
    refine h.invariant (P := fun u => (∃ out, Logs out s u ∧ ∀ e ∈ out, P e) ∧ inv u) ?_
      ⟨⟨[], .of_eq rfl, fun e he => by cases he⟩, hs⟩
    rintro act u v hp hact ⟨⟨out, hout, hall⟩, hu⟩
    refine ⟨⟨_, hout.trans hp.logs, fun e he => ?_⟩, hinv hp hact hu⟩
    rcases List.mem_append.mp he with he | he
    · exact hall e he
    · cases hp with
      | emit e' hreport hg =>
        obtain ⟨he', htraffic⟩ := List.mem_filter.mp he
        obtain rfl := List.mem_singleton.mp he'
        exact hP u e hu hg hact htraffic
      | _ => cases he
  exact hall.1

/-! ## Monitors -/

/-- The traffic between two states drives a monitor from one of its states to another. -/
def Reads {σ : Type} (M : Monitor Event σ) (x : σ) (s t : Client) (y : σ) : Prop :=
  ∃ out, Logs out s t ∧ M.run x out = some y

section Reads

variable {σ : Type} {M : Monitor Event σ} {x y z : σ}

/-- A monitor reads two parts one after the other. -/
theorem Reads.trans (h : Reads M x s t y) (h' : Reads M y t u z) : Reads M x s u z := by
  obtain ⟨out, hout, hrun⟩ := h
  obtain ⟨out', hout', hrun'⟩ := h'
  exact ⟨_, hout.trans hout', Monitor.run_trans hrun hrun'⟩

/-- It stays where it is when nothing is written. -/
theorem Reads.of_log (h : t.log = s.log) : Reads M x s t x := ⟨[], .of_eq h, rfl⟩

/-- The events of the application in between, for a monitor that looks at the traffic only. -/
theorem Reads.eventsSince (h : Reads M x s t y) (hM : ∀ y e, e.isTraffic = false → M.next y e = some y) :
    M.run x (s.eventsSince t) = some y := by
  obtain ⟨out, ⟨es, hlog, rfl⟩, hrun⟩ := h
  unfold Client.eventsSince
  rw [hlog, List.drop_left]
  rwa [Monitor.run_filter hM] at hrun

/-- A log that grows is described by the traffic in it. -/
theorem Reads.of_traffic {out : List Event} (hlogs : ∃ out, Logs out s t)
    (htraffic : t.traffic = s.traffic ++ out) (hrun : M.run x out = some y) : Reads M x s t y := by
  obtain ⟨out', hout⟩ := hlogs
  have hout' := hout.traffic
  rw [htraffic] at hout'
  rw [← List.append_cancel_left hout'] at hout
  exact ⟨out, hout, hrun⟩

end Reads

/-- What the end of a connection hands over before its report. -/
def Client.farewell (s : Client) : List Event :=
  if s.sessionState.connected then [.connectivity false] else []

/-- The end of the connection hands over the change of `m_connected` and the report. -/
theorem brokerDisconnected_traffic (env : Env) (reason : Option BrokerDisconnectReason)
    (status : AsyncOpStatus) (info : Option DisconnectInfo) (s : Client) :
    (s.brokerDisconnected env reason status info).traffic = s.traffic ++
      (s.farewell ++ (reason.map (.brokerDisconnectReport · info)).toList) := by
  obtain ⟨t, hsame, heq⟩ := brokerDisconnected_same env (s := s) reason status info
  have hmark : s.markDisconnecting.traffic = s.traffic ++ s.farewell := by
    show s.leaveConnection.traffic = _
    unfold leaveConnection Client.farewell
    split
    · exact traffic_emit_pos (s := s) rfl
    · exact (List.append_nil _).symm
  rw [heq]
  cases reason with
  | none =>
    show t.traffic = _
    rw [hsame.traffic, hmark]
    simp
  | some reason =>
    show (t.emit (.brokerDisconnectReport reason info)).traffic = _
    rw [traffic_emit_pos rfl, hsame.traffic, hmark, List.append_assoc]
    simp

end Mqtt5
