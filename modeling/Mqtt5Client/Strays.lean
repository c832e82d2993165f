import Mqtt5Client.HandlerSteps

/-!
# Mqtt5Client — sending an operation that is gone

The API guard of a `send` function reports the elapsed time, and an expired timer may end the connection
and with it the operation that is being sent. The function goes on with what is left of the object: a
publish is transmitted and counted although nothing waits for its acknowledgement, its former slot is
armed, and completing it fails the assertion of `ClientImpl::opComplete`.
-/

namespace Mqtt5

open Client

variable {env : Env} {G : Guard} {a : Bool} {b : Scope} {s t : Client} {op : SendOp}

/-! ## An operation that is not there -/

theorem sendOp?_none_iff {id : OpId} : s.sendOp? id = none ↔ id ∉ s.sendOps.map SendOp.id := by
  unfold sendOp?
  rw [List.find?_eq_none]
  constructor
  · intro h hmem
    obtain ⟨op, hop, hid⟩ := List.mem_map.mp hmem
    exact h op hop (by simp [← hid])
  · intro h op hop hid
    exact h (List.mem_map.mpr ⟨op, hop, by simpa using hid⟩)

/-- Its members are written to memory nobody reads. -/
theorem modifySendOp_gone {id : OpId} (h : id ∉ s.sendOps.map SendOp.id) (f : SendOp → SendOp) :
    s.modifySendOp id f = s := by
  have hmap : s.sendOps.map (fun op => if op.id == id then f op else op) = s.sendOps := by
    refine (List.map_congr_left fun op hop => ?_).trans (List.map_id _)
    have hne : op.id ≠ id := fun heq => h (List.mem_map.mpr ⟨op, hop, heq⟩)
    show (if op.id == id then f op else op) = op
    rw [if_neg (by simpa using hne)]
  show { s with sendOps := _ } = s
  rw [hmap]

/-- A publish that is in no list has no pointer. -/
theorem Reg.unregistered (hr : Reg s) {id : OpId} (h : id ∉ s.sendOps.map SendOp.id) :
    some ⟨.send, id⟩ ∉ s.ops := by
  intro hmem
  refine h (hr.refs ▸ ?_)
  exact List.mem_filterMap.mpr ⟨_, hmem, rfl⟩

/-- `ClientImpl::opComplete` does not find the operation. -/
theorem Client.Frame.miss (h : Frame a b s t) (hb : b.admits .stray = true) :
    Frame a b s (t.fault (.assertFailed .opComplete)) :=
  h.update ((Still.refl a t).fault _ (by simp)) .strayMiss (Act.allowed_of rfl fun _ => hb)

/-- Its completion fails the assertion. -/
theorem opComplete_gone {wake : Nat → Client → Client} {id : OpId} (h : some ⟨.send, id⟩ ∉ s.ops) :
    SendOp.opComplete wake id s = s.fault (.assertFailed .opComplete) := by
  unfold SendOp.opComplete unregisterOp
  rw [if_neg h]

/-! ## A publish -/

section Publish

variable (hr : Reg s) (hop : op.id ∉ s.sendOps.map SendOp.id) (hpub : op.published = false)
  (hb : b.admits .stray = true)

include hr hop hpub

/-- A failed `send` completes a publish that is gone. -/
theorem sendOpComplete_missing : s.sendOpComplete env op = s.fault (.assertFailed .opComplete) := by
  unfold sendOpComplete SendOp.opCompleteInternal
  rw [hpub]
  exact opComplete_gone (hr.unregistered hop)

/-- Transmission and bookkeeping of a publish that is gone. -/
theorem sendOpDoSend_gone (hfits : s.fits env (.publish op.pubMsg) = true) :
    let t := (s.sendMessage env (.publish op.pubMsg) (some op.source)).1
    s.sendOpDoSend env op =
      (if op.qos = .atMostOnceDelivery then
          if op.cb then (t.fault (.assertFailed .opComplete)).emit (.publishCb op.id .complete none)
          else t.fault (.assertFailed .opComplete)
        else { t with clientState := { t.clientState with
          inFlightSends := t.clientState.inFlightSends + 1 } }.restartSendTimer op, .success) := by
  have hsame := SameOps.sendMessage env (.publish op.pubMsg) (some op.source) s
  have hok : (s.sendMessage env (.publish op.pubMsg) (some op.source)).2 = .success := by
    rw [sendMessage_of_fits hfits]
  intro t
  have hgone : op.id ∉ t.sendOps.map SendOp.id := by
    rw [show t.sendOps = s.sendOps from hsame.sendOps]
    exact hop
  have href : some ⟨.send, op.id⟩ ∉ t.ops := by
    rw [show t.ops = s.ops from hsame.ops]
    exact hr.unregistered hop
  set u : Client := { t with clientState := { t.clientState with
    inFlightSends := t.clientState.inFlightSends + 1 } } with hu
  have hmodify : u.modifySendOp op.id ({ · with published := true, sendAttempts := 1 }) = u :=
    modifySendOp_gone (s := u) hgone _
  have hassert : ∀ site, u.assert site (decide (0 < u.clientState.inFlightSends)) = u := fun site => by
    unfold Client.assert
    rw [if_pos (by simp [hu])]
  unfold sendOpDoSend SendOp.doSendInternal
  rw [modifySendOp_gone hop]
  dsimp only
  rw [if_neg (by simp [hok]), hpub]
  show (if op.qos = .atMostOnceDelivery then _ else _) = _
  simp only [Bool.false_eq_true, ↓reduceIte]
  rw [show ({ (s.sendMessage env (.publish op.pubMsg) (some op.source)).1 with
    clientState := { (s.sendMessage env (.publish op.pubMsg) (some op.source)).1.clientState with
      inFlightSends := (s.sendMessage env (.publish op.pubMsg)
        (some op.source)).1.clientState.inFlightSends + 1 } } : Client) = u from rfl, hmodify, hassert]
  split
  · -- the counter goes up and down again
    have hback : ({ u with clientState := { u.clientState with
        inFlightSends := decU32 u.clientState.inFlightSends } } : Client) = t := by
      rw [hu]
      simp [decU32]
    unfold SendOp.completeWithCb SendOp.opCompleteInternal
    dsimp only
    rw [if_pos rfl, hassert, hback, opComplete_gone href]
  · rfl

include hb

/-- A failed `send` of a publish that is gone changes no publish. -/
theorem publishAbandon_gone : MacroRun env G a b s (s.sendOpComplete env op) := by
  rw [sendOpComplete_missing hr hop hpub]
  exact .frame ((Frame.refl a b s).miss hb)

/-- Nor does its transmission, apart from the counter. -/
theorem sendOpDoSend_stray (hold : op.id < s.nextOpId) (hG : G.stray s op) :
    MacroRun env G a b s (s.sendOpDoSend env op).1 := by
  cases hfits : s.fits env (.publish op.pubMsg) with
  | false =>
    obtain ⟨hfail, hf⟩ := sendMessage_of_not_fits (a := a) (b := b) (o := some op.source) hfits
    unfold sendOpDoSend SendOp.doSendInternal
    rw [modifySendOp_gone hop]
    dsimp only
    rw [if_pos hfail]
    exact .frame hf
  | true =>
    have hsent := sendMessage_eff (a := a) (b := b) (o := some op.source) (m := .publish op.pubMsg)
      rfl hfits
    rw [sendOpDoSend_gone hr hop hpub hfits]
    dsimp only
    set t := (s.sendMessage env (.publish op.pubMsg) (some op.source)).1
    split
    · have hout : Micro env G.plain a b s (t.fault (.assertFailed .opComplete)) := by
        refine .stray op s.view.inFlightSends hop hold hG (Or.inl rfl) ?_
        have heff := hsent.frame ((Frame.refl a b t).miss hb)
        exact ⟨⟨heff.view, fun id hid => Or.inr ((heff.timers id hid).resolve_left nofun),
          heff.nextOpId, heff.lockLe⟩, heff.acts⟩
      exact (MacroRun.micro hout).trans (MacroRun.report _ _ _ _)
    · refine .micro (.stray op (s.view.inFlightSends + 1) hop hold hG (Or.inr rfl) ?_)
      have hsame := SameOps.sendMessage env (.publish op.pubMsg) (some op.source) s
      have hflight : t.clientState.inFlightSends = s.view.inFlightSends :=
        congrArg PubView.inFlightSends hsent.view
      have hcount : Eff a b s { t with clientState := { t.clientState with
          inFlightSends := t.clientState.inFlightSends + 1 } }
          ((s.view.push (.output (.publish op.pubMsg) (some op.source))).setInFlight
            (s.view.inFlightSends + 1)) [] := by
        have h := hsent.trans ((setInFlight_shows (a := a) (t.clientState.inFlightSends + 1)).eff
          .strayCount (Act.allowed_of rfl fun _ => hb))
        rw [hsent.view, hflight] at h
        rw [hflight]
        exact h
      have hdead : op.id ∉ Client.ids { t with clientState := { t.clientState with
          inFlightSends := t.clientState.inFlightSends + 1 } } .send := by
        show op.id ∉ t.sendOps.map SendOp.id
        rw [show t.sendOps = s.sendOps from hsame.sendOps]
        exact hop
      have h := hcount.trans ((restartSendTimer_shows (a := a) op).eff
        (.strayArm op.responseTimer _ .send op.id _ rfl hdead (Nat.lt_of_lt_of_le hold hcount.nextOpId))
        (Act.allowed_of rfl fun _ => hb))
      rw [hcount.view] at h
      exact h

end Publish

/-! ## DISCONNECT -/

/-- `DisconnectOp::send` hands over its message and ends the connection all the same. -/
theorem disconnectSend_gone [b.Talks] (op : DisconnectOp) (hb : b.admits .stray = true) :
    EndRun env G a b s (s.disconnectSend env op) := by
  refine brokerDisconnected_end ?_ _ _ _
  have hpost : Frame a b s (s.post env (.disconnect (disconnectMsg op))) :=
    (Frame.refl a b s).post env rfl (by trivial)
  by_cases hlive : (s.post env (.disconnect (disconnectMsg op))).Live ⟨.disconnect, op.id⟩
  · exact hpost.opCompleteDisconnect hlive
  · have hmiss : (s.post env (.disconnect (disconnectMsg op))).opCompleteDisconnect op.id =
        (s.post env (.disconnect (disconnectMsg op))).fault (.assertFailed .opComplete) := by
      unfold opCompleteDisconnect opCompleteWith unregisterOp
      rw [if_neg fun hmem => hlive (Or.inl hmem)]
    rw [hmiss]
    exact hpost.miss hb

end Mqtt5
