import Mqtt5Client.Sender

/-!
# Mqtt5Client — the broker's end of a delivery

What the protocol of a publish (`sender`) is for: a broker that gets its packets, or any of them in their
order, passes the message on as often as its QoS promises. The broker is the receiver of the MQTT rules
(`Inbox`): it passes on every PUBLISH of QoS 0 and 1; with QoS 2 it stores the packet identifier with the
first PUBLISH, answers the others without looking at them, and forgets the identifier with PUBREL. Packets
are lost with their connection, so the ones that arrive are a sublist of those handed over.
-/

namespace Mqtt5

open Client

variable {env : Env} {sys : Sys} {id : OpId} {x y : Stage} {e : Event} {es : List Event}
  {core : PublishMsg} {ps got : List OutMsg}

/-! ## The receiver -/

/-- What a broker keeps of a packet identifier: whether it is in use, and the messages passed on, as they
came. -/
structure Inbox where
  stored : Bool := false
  passedOn : List PublishMsg := []
  deriving DecidableEq, Repr

def Inbox.receive (i : Inbox) : OutMsg → Inbox
  | .publish msg =>
    if msg.qos ≠ .exactlyOnceDelivery then { i with passedOn := i.passedOn ++ [msg.content] }
    else if i.stored then i
    else { stored := true, passedOn := i.passedOn ++ [msg.content] }
  | .pubrel _ => { i with stored := false }
  | _ => i

def OutMsg.isPublish : OutMsg → Bool
  | .publish _ => true
  | _ => false

/-- How often a message is passed on when `n` of its PUBLISH arrive. -/
def Qos.passes : Qos → Nat → Nat
  | .exactlyOnceDelivery, n => min n 1
  | _, n => n

/-- Only PUBREL. -/
def Releases (ps : List OutMsg) : Prop := ∀ p ∈ ps, ∃ msg, p = .pubrel msg

/-- Only PUBLISH of one message; some may leave its topic to an alias. -/
def PublishesAll (core : PublishMsg) (ps : List OutMsg) : Prop :=
  ∀ p ∈ ps, ∃ msg, p = .publish msg ∧ msg.content.Again core

/-- PUBLISH of one message, at most `limit` times with QoS 0, and then only PUBREL. -/
def Delivers (limit : Nat) (core : PublishMsg) (ps : List OutMsg) : Prop :=
  ∃ pubs rels, ps = pubs ++ rels ∧ PublishesAll core pubs ∧
    (core.qos = .atMostOnceDelivery → pubs.length ≤ limit) ∧ Releases rels

/-- One more PUBLISH in front. -/
theorem Delivers.cons {limit : Nat} {msg : PublishMsg} (h : Delivers limit core ps)
    (hmsg : msg.content.Again core) : Delivers (limit + 1) core (.publish msg :: ps) := by
  obtain ⟨pubs, rels, rfl, hpubs, hlen, hrels⟩ := h
  refine ⟨.publish msg :: pubs, rels, rfl, fun p hp => ?_, fun hqos => ?_, hrels⟩
  · rcases List.mem_cons.mp hp with rfl | hp
    · exact ⟨msg, rfl, hmsg⟩
    · exact hpubs p hp
  · have hle := hlen hqos
    simp only [List.length_cons]
    omega

/-- Packets are lost. -/
theorem Delivers.sublist {limit : Nat} (h : Delivers limit core ps) (hgot : got.Sublist ps) :
    Delivers limit core got := by
  obtain ⟨pubs, rels, rfl, hpubs, hlen, hrels⟩ := h
  obtain ⟨got₁, got₂, rfl, h₁, h₂⟩ := List.sublist_append_iff.mp hgot
  refine ⟨got₁, got₂, rfl, fun p hp => hpubs p (h₁.subset hp), fun hqos => ?_, fun p hp => hrels p (h₂.subset hp)⟩
  exact h₁.length_le.trans (hlen hqos)

/-! ## What is passed on -/

theorem receive_releases (h : Releases ps) (i : Inbox) :
    (ps.foldl Inbox.receive i).passedOn = i.passedOn := by
  induction ps generalizing i with
  | nil => rfl
  | cons p ps ih =>
    obtain ⟨msg, rfl⟩ := h p List.mem_cons_self
    rw [List.foldl_cons, ih fun q hq => h q (List.mem_cons_of_mem _ hq)]
    rfl

/-- `n` times the message. -/
def Copies (core : PublishMsg) (n : Nat) (ms : List PublishMsg) : Prop :=
  ms.length = n ∧ ∀ m ∈ ms, m.Again core

/-- With QoS 0 and 1 every PUBLISH that arrives is passed on. -/
theorem receive_plain (hqos : core.qos ≠ .exactlyOnceDelivery) (h : PublishesAll core ps) (i : Inbox) :
    ∃ ms, (ps.foldl Inbox.receive i).passedOn = i.passedOn ++ ms ∧ Copies core ps.length ms := by
  induction ps generalizing i with
  | nil => exact ⟨[], (List.append_nil _).symm, rfl, fun m hm => by cases hm⟩
  | cons p ps ih =>
    obtain ⟨msg, rfl, hcore⟩ := h p List.mem_cons_self
    have hmsg : msg.qos ≠ .exactlyOnceDelivery := fun heq => hqos (hcore.qos.trans heq)
    have hfirst : i.receive (.publish msg) = { i with passedOn := i.passedOn ++ [msg.content] } :=
      if_pos hmsg
    obtain ⟨ms, heq, hlen, hall⟩ :=
      ih (fun q hq => h q (List.mem_cons_of_mem _ hq)) (i.receive (.publish msg))
    refine ⟨msg.content :: ms, ?_, congrArg (· + 1) hlen, fun m hm => ?_⟩
    · rw [List.foldl_cons, heq, hfirst, List.append_assoc]
      rfl
    · rcases List.mem_cons.mp hm with rfl | hm
      · exact hcore
      · exact hall m hm

/-- With QoS 2 only the first one is. -/
theorem receive_stored (hqos : core.qos = .exactlyOnceDelivery) (h : PublishesAll core ps) :
    Copies core (min ps.length 1) (ps.foldl Inbox.receive {}).passedOn := by
  have hmsg : ∀ msg : PublishMsg, msg.content.Again core → ¬msg.qos ≠ .exactlyOnceDelivery :=
    fun msg hagain hne => hne (hagain.qos.symm.trans hqos)
  have hrest : ∀ (i : Inbox) (qs : List OutMsg), i.stored = true → PublishesAll core qs →
      qs.foldl Inbox.receive i = i := by
    intro i qs hi hqs
    induction qs with
    | nil => rfl
    | cons q qs ih =>
      obtain ⟨msg, rfl, hcore⟩ := hqs q List.mem_cons_self
      have hagain : i.receive (.publish msg) = i := by
        unfold Inbox.receive
        dsimp only
        rw [if_neg (hmsg msg hcore), if_pos hi]
      rw [List.foldl_cons, hagain]
      exact ih fun p hp => hqs p (List.mem_cons_of_mem _ hp)
  cases ps with
  | nil => exact ⟨rfl, fun m hm => by cases hm⟩
  | cons p ps =>
    obtain ⟨msg, rfl, hcore⟩ := h p List.mem_cons_self
    have hfirst : Inbox.receive {} (.publish msg) = { stored := true, passedOn := [msg.content] } :=
      if_neg (hmsg msg hcore)
    rw [List.foldl_cons, hfirst, hrest _ ps rfl fun q hq => h q (List.mem_cons_of_mem _ hq)]
    refine ⟨?_, fun m hm => ?_⟩
    · exact (Nat.min_eq_right (Nat.le_add_left 1 ps.length)).symm
    · rw [List.mem_singleton.mp hm]
      exact hcore

/-- The packets of a delivery are passed on as its QoS says. -/
theorem Delivers.receive {limit : Nat} (h : Delivers limit core ps) :
    Copies core (core.qos.passes (ps.countP OutMsg.isPublish)) (ps.foldl Inbox.receive {}).passedOn ∧
      (core.qos = .atMostOnceDelivery → ps.countP OutMsg.isPublish ≤ limit) := by
  obtain ⟨pubs, rels, rfl, hpubs, hlen, hrels⟩ := h
  have hcount : (pubs ++ rels).countP OutMsg.isPublish = pubs.length := by
    rw [List.countP_append, List.countP_eq_length.mpr, List.countP_eq_zero.mpr, Nat.add_zero]
    · intro p hp
      obtain ⟨msg, rfl⟩ := hrels p hp
      exact Bool.false_ne_true
    · intro p hp
      obtain ⟨msg, rfl, -⟩ := hpubs p hp
      rfl
  rw [hcount, List.foldl_append, receive_releases hrels]
  refine ⟨?_, hlen⟩
  cases hqos : core.qos with
  | exactlyOnceDelivery => exact receive_stored hqos hpubs
  | _ =>
    obtain ⟨ms, heq, hcopies⟩ := receive_plain (by simp [hqos]) hpubs {}
    rw [heq]
    exact hcopies

end Mqtt5
