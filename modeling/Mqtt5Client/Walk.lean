import Mqtt5Client.Updates

/-!
# Mqtt5Client — what the functions on publishes consist of

Completion, resumption, transmission and retransmission call one another, and what they do to the client
comes down to a dozen updates (`Walk`). A property of the log, of `m_ops` or of another part of the state
that every one of these updates keeps is kept by all functions, however deep the resumptions are nested,
without a look at the state in which they are called.
-/

namespace Mqtt5

open Client

variable {s t u : Client}

/-- The messages of a publish. -/
@[grind]
def OutMsg.ofPublish : OutMsg → Bool
  | .publish _ | .pubrel _ => true
  | _ => false

/-- Some of the updates the functions on publishes and receptions are made of. -/
inductive Walk (s : Client) : Client → Prop
  | refl : Walk s s
  | errorLog {t : Client} (h : Walk s t) (msg : String) : Walk s (t.errorLog msg)
  | fault {t : Client} (h : Walk s t) (f : Fault) : Walk s (t.fault f)
  | report {t : Client} (h : Walk s t) (id : OpId) (status : AsyncOpStatus)
      (response : Option PublishResponse) : Walk s (t.emit (.publishCb id status response))
  | modifySendOp {t : Client} (h : Walk s t) (id : OpId) (f : SendOp → SendOp) :
      Walk s (t.modifySendOp id f)
  | timerWait {t : Client} (h : Walk s t) (timer : Option Nat) (ms : Nat) (cb : TimeoutCb) :
      Walk s (t.timerWait timer ms cb)
  | timerCancel {t : Client} (h : Walk s t) (timer : Option Nat) : Walk s (t.timerCancel timer)
  | timerSetSuspended {t : Client} (h : Walk s t) (timer : Option Nat) (down : Bool) :
      Walk s (t.timerSetSuspended timer down)
  | inFlight {t : Client} (h : Walk s t) (n : Nat) :
      Walk s { t with clientState := { t.clientState with inFlightSends := n } }
  | sendMessage {t : Client} (h : Walk s t) (env : Env) {msg : OutMsg} (hmsg : msg.ofPublish = true)
      (source : Option PublishSource) : Walk s (t.sendMessage env msg source).1
  | unregister {t u : Client} (h : Walk s t) (id : OpId) (hu : t.unregisterOp ⟨.send, id⟩ = some u) :
      Walk s u
  | erase {t : Client} (h : Walk s t) (op : SendOp) : Walk s (t.eraseSendOp op)
  | recv {t : Client} (h : Walk s t) (id : OpId) : Walk s (t.opCompleteRecv id)

attribute [grind .] Walk.refl
attribute [grind ←] Walk.errorLog Walk.fault Walk.report Walk.modifySendOp Walk.timerWait
  Walk.timerCancel Walk.inFlight Walk.sendMessage

namespace Walk

/-- One part after the other. -/
theorem trans (h : Walk s t) (h' : Walk t u) : Walk s u := by
  induction h' with
  | refl => exact h
  | errorLog _ msg ih => exact ih.errorLog msg
  | fault _ f ih => exact ih.fault f
  | report _ id status response ih => exact ih.report id status response
  | modifySendOp _ id f ih => exact ih.modifySendOp id f
  | timerWait _ timer ms cb ih => exact ih.timerWait timer ms cb
  | timerCancel _ timer ih => exact ih.timerCancel timer
  | timerSetSuspended _ timer down ih => exact ih.timerSetSuspended timer down
  | inFlight _ n ih => exact ih.inFlight n
  | sendMessage _ env hmsg source ih => exact ih.sendMessage env hmsg source
  | unregister _ id hu ih => exact ih.unregister id hu
  | erase _ op ih => exact ih.erase op
  | recv _ id ih => exact ih.recv id

@[grind ←]
theorem assert (h : Walk s t) (site : Site) (c : Bool) : Walk s (t.assert site c) := by
  unfold Client.assert
  split
  · exact h
  · exact h.fault _

/-- A loop whose rounds are walks. -/
theorem foldl {α : Type} {f : Client → α → Client} (hf : ∀ u x, Walk u (f u x)) (l : List α)
    (h : Walk s t) : Walk s (l.foldl f t) := by
  induction l generalizing t with
  | nil => exact h
  | cons x l ih => exact ih (h.trans (hf t x))

section Wake

variable {wake : Nat → Client → Client}

/-- The completion of a publish, with what it wakes. -/
theorem opComplete (hwake : ∀ i u, Walk u (wake i u)) (id : OpId) (s : Client) :
    Walk s (SendOp.opComplete wake id s) := by
  unfold SendOp.opComplete
  split
  · exact refl.fault _
  · rename_i u hu
    have hsame : Walk s u := refl.unregister id hu
    split
    · exact hsame.fault _
    · rename_i op _
      dsimp only
      split
      · exact hsame.erase op
      · exact (hsame.erase op).trans (hwake _ _)

/-- And with its callback. -/
theorem completeWithCb (hwake : ∀ i u, Walk u (wake i u)) (h : Walk s t) (op : SendOp)
    (status : AsyncOpStatus) (response : Option PublishResponse) :
    Walk s (SendOp.completeWithCb wake op status response t) := by
  have hinner : Walk s (SendOp.opCompleteInternal wake op t) := by
    unfold SendOp.opCompleteInternal
    split
    · exact ((h.assert _ _).inFlight _).trans (opComplete hwake _ _)
    · exact h.trans (opComplete hwake _ _)
  unfold SendOp.completeWithCb
  dsimp only
  split
  · exact hinner.report _ _ _
  · exact hinner

/-- A transmission. -/
theorem doSendInternal (hwake : ∀ i u, Walk u (wake i u)) (h : Walk s t) (env : Env)
    (op : SendOp) : Walk s (SendOp.doSendInternal env wake op t).1 := by
  unfold SendOp.doSendInternal
  have hcomplete : ∀ {u : Client} (op : SendOp) (status response), Walk s u →
      Walk s (SendOp.completeWithCb wake op status response u) :=
    fun op status response hu => hu.completeWithCb hwake op status response
  have htimer : ∀ {u : Client} (op : SendOp), Walk s u → Walk s (u.restartSendTimer op) :=
    fun op hu => hu.timerWait _ _ _
  grind

theorem resume (hwake : ∀ i u, Walk u (wake i u)) (env : Env) (op : SendOp) (s : Client) :
    Walk s (SendOp.resume env wake op s).1 := by
  have hsend := (refl.modifySendOp (s := s) op.id ({ · with paused := false })).doSendInternal hwake env
    { op with paused := false }
  unfold SendOp.resume
  split
  · exact refl
  · split
    · exact refl
    · dsimp only
      split
      · exact hsend
      · exact hsend.completeWithCb hwake _ _ _

end Wake

/-- The pass over the postponed publishes. -/
theorem resumeLoop (env : Env) (fuel idx : Nat) (s : Client) :
    Walk s (resumeLoop env fuel idx s) := by
  induction fuel generalizing idx s with
  | zero => exact refl
  | succ fuel ih =>
    unfold Mqtt5.resumeLoop
    split
    · exact refl
    · split
      · exact refl
      · rename_i op _
        have hres := resume ih env op s
        dsimp only
        split
        · exact hres.trans (ih _ _)
        · exact hres

@[grind ←]
theorem sendOpCompleteWithCb (h : Walk s t) (env : Env) (op : SendOp) (status : AsyncOpStatus)
    (response : Option PublishResponse) : Walk s (t.sendOpCompleteWithCb env op status response) :=
  h.completeWithCb (fun _ _ => resumeLoop env _ _ _) op status response

theorem resendDupMsg (h : Walk s t) (env : Env) (op : SendOp) : Walk s (t.resendDupMsg env op) := by
  have htimer : ∀ {u : Client} (op : SendOp), Walk s u → Walk s (u.restartSendTimer op) :=
    fun op hu => hu.timerWait _ _ _
  unfold Client.resendDupMsg
  grind

/-- A publish is sent again behind a CONNACK. -/
theorem postReconnectionResend (env : Env) (op : SendOp) (s : Client) :
    Walk s (s.postReconnectionResend env op) := by
  have hresend : ∀ {u : Client} (op : SendOp), Walk s u → Walk s (u.reconnectionResend env op) := by
    intro u op hu
    unfold Client.reconnectionResend
    exact (((hu.assert _ _).modifySendOp _ _).timerCancel _).resendDupMsg env _
  unfold Client.postReconnectionResend
  split
  · exact refl
  · split
    · dsimp only
      split
      · exact ((((refl (s := s)).assert _ _).assert _ _).errorLog _).sendOpCompleteWithCb env _ _ _
      · exact hresend _ ((refl.assert _ _).modifySendOp _ _)
    · exact hresend _ refl

/-- The end of a publish or of a reception. -/
theorem terminateOp (h : Walk s t) (env : Env) (status : AsyncOpStatus) {ref : OpRef}
    (href : ref.isSendRecv = true) : Walk s (t.terminateOp env status ref) := by
  obtain ⟨type, id⟩ := ref
  unfold Client.terminateOp
  cases type
  case send =>
    unfold withOp
    dsimp only
    split
    · exact h.fault _
    · exact h.sendOpCompleteWithCb env _ _ _
  case recv => exact h.recv id
  all_goals cases href

/-- The session present branch of `brokerConnected`. -/
theorem resumeSession (env : Env) (s : Client) : Walk s (s.resumeSession env) := by
  have hsends : Walk s ((List.range s.sendOps.length).foldl (resendAt env) s) := by
    refine foldl (fun u idx => ?_) _ refl
    unfold resendAt withOp
    split
    · exact refl.fault _
    · exact postReconnectionResend env _ u
  have hrecvs : ∀ (l : List RecvOp) (u : Client), Walk u (l.foldl postReconnectionResume u) :=
    fun l u => foldl (f := postReconnectionResume)
      (fun v op => (refl.timerSetSuspended _ _).timerWait _ _ _) l refl
  have hafter : ∀ u : Client, Walk u (u.resumeAfterReconnect env) := by
    intro u
    unfold resumeAfterReconnect
    dsimp only
    split
    · exact (refl.assert _ _).trans (resumeLoop env _ _ _)
    · exact refl.assert _ _
  exact (hsends.trans (hrecvs _ _)).trans (hafter _)

/-- The other branch: the stored publishes and receptions are dropped. -/
theorem abortStoredSession (env : Env) (s : Client) : Walk s (s.abortStoredSession env) := by
  refine foldl (fun u idx => ?_) _ refl
  unfold abortStoredAt
  split
  · split
    · rename_i hstored
      exact refl.terminateOp env _ hstored
    · exact refl
  · exact refl.fault _

/-- `sessionExpiryTimeoutInternal` does the same to them. -/
theorem sessionExpiryTimeout (env : Env) (s : Client) : Walk s (s.sessionExpiryTimeout env) := by
  refine foldl (fun u idx => ?_) _ (refl.assert _ _)
  unfold visitOp
  split
  · dsimp only
    split
    · rename_i hstored
      exact refl.terminateOp env _ hstored
    · exact refl
  · exact refl

end Walk

end Mqtt5
