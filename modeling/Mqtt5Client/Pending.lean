import Mqtt5Client.Acts

/-!
# Mqtt5Client — what is left of a call

A call is carried out in pieces (`Task`). What is left of it at any time has one of a few forms: some
expired timers of the API guard, and then the rest of the body with the way out (`Rest`). A step keeps
the form, so a property of the pending tasks can be read off the first one.
-/

namespace Mqtt5

open Client

variable {env : Env} {s : Client} {task : Task} {rest ts : List Task}

/-- What may come before the body of a call. -/
def Task.isEntry : Task → Bool
  | .enter _ | .timeout _ => true
  | _ => false

/-- The body of a call that has an API guard. -/
inductive Body : List Task → Prop
  | exit : Body [.exit]
  | input (frames : List InputFrame) : Body [.input frames, .exit]
  | networkDown : Body [.networkDown, .exit]
  | initInternal : Body [.initInternal]
  | startTimer (ref : OpRef) (timer : Option Nat) (ms : Nat) :
      Body [.startTimer ref timer ms, .exit, .ret .success]
  | disconnectSend (op : DisconnectOp) : Body [.disconnectSend op, .exit, .ret .success]
  | publishDoSend (op : SendOp) : Body [.publishDoSend op]

/-- What is left when the body has begun. -/
inductive Rest : List Task → Prop
  | done : Rest []
  | ret (ec : ErrorCode) : Rest [.ret ec]
  | exitRet (ec : ErrorCode) : Rest [.exit, .ret ec]
  | frames (frames : List InputFrame) : Rest [.frames frames, .exit]
  | exitPrepare : Rest [.exit, .connectPrepare]
  | connectPrepare : Rest [.connectPrepare]
  | exitAbandon (op : SendOp) (ec : ErrorCode) : Rest [.exit, .publishAbandon op, .ret ec]
  | abandon (op : SendOp) (ec : ErrorCode) : Rest [.publishAbandon op, .ret ec]

/-- The form of the pending tasks. -/
inductive Shape : List Task → Prop
  | rest {ts : List Task} (h : Rest ts) : Shape ts
  | entered (es : List Task) {ts : List Task} (hes : ∀ task ∈ es, task.isEntry = true) (h : Body ts) :
      Shape (es ++ ts)

/-- Tasks without an entry have the shape. -/
theorem Shape.body (h : Body ts) : Shape ts := .entered [] (by simp) h

/-- So have they behind an entry. -/
theorem Shape.enter {elapsed : Nat} (h : Body ts) : Shape (.enter elapsed :: ts) :=
  .entered [.enter elapsed] (by simp [Task.isEntry]) h

/-- Where the pending tasks begin with an entry, or with the rest of the call. -/
inductive Shape.Front : Task → List Task → Prop
  | entry {task : Task} (es : List Task) {ts : List Task} (htask : task.isEntry = true)
      (hes : ∀ task ∈ es, task.isEntry = true) (h : Body ts) : Front task (es ++ ts)
  | body {task : Task} {ts : List Task} (h : Body (task :: ts)) : Front task ts
  | rest {task : Task} {ts : List Task} (h : Rest (task :: ts)) : Front task ts

/-- What the shape says about the first task. -/
theorem Shape.front (h : Shape (task :: rest)) : Shape.Front task rest := by
  generalize hall : task :: rest = all at h
  cases h with
  | rest h => exact .rest (hall ▸ h)
  | entered es hes h =>
    cases es with
    | nil => exact .body (hall ▸ h)
    | cons e es =>
      rw [List.cons_append, List.cons.injEq] at hall
      obtain ⟨rfl, rfl⟩ := hall
      exact .entry es (hes task List.mem_cons_self) (fun t ht => hes t (List.mem_cons_of_mem _ ht)) h

/-! ## Calls -/

/-- A call on a handle leaves no tasks of its own. -/
theorem onHandle_shape {α : Type} {x : Option α} {f : α → Client → Client × ErrorCode} :
    Shape (s.onHandle x f).2 := by
  unfold Client.onHandle
  split
  · exact .rest .done
  · exact .rest (.ret _)

/-- A `send` call leaves the entry and the rest of the call. -/
theorem sendHandle_shape {α : Type} {x : Option α} {f : α → Client → Client × ErrorCode × Bool}
    {next : α → Client → List Task} (hnext : ∀ op t, Shape (next op t)) :
    Shape (s.sendHandle x f next).2 := by
  unfold Client.sendHandle
  split
  · exact .rest .done
  · dsimp only
    split
    · exact hnext _ _
    · exact .rest (.ret _)

/-- A setting leaves nothing to be done. -/
theorem callSetting_shape {supported : Bool} {f : ConfigState → ConfigState} :
    Shape (s.callSetting supported f).2 := by
  unfold Client.callSetting
  split
  · exact .rest (.ret _)
  · exact .rest (.ret _)

/-- The calls about connecting. -/
theorem callConnect_shape {api : Api} : Shape (s.callConnect env api).2 := by
  unfold Client.callConnect
  split
  · unfold Client.beginConnectPrepare
    dsimp only
    split
    · exact .rest .connectPrepare
    · split
      · exact .rest (.ret _)
      · exact .enter .initInternal
  all_goals first
    | exact onHandle_shape
    | exact sendHandle_shape fun _ _ => .enter (.startTimer _ _ _)
    | exact sendHandle_shape fun _ _ => .enter (.disconnectSend _)
    | exact .rest (.ret _)
    | exact .rest .done

/-- The calls about subscriptions. -/
theorem callSubscribe_shape {api : Api} : Shape (s.callSubscribe env api).2 := by
  unfold Client.callSubscribe
  split
  all_goals first
    | exact onHandle_shape
    | exact sendHandle_shape fun _ _ => .enter (.startTimer _ _ _)
    | exact .rest (.ret _)
    | exact .rest .done

/-- The calls about publishes. -/
theorem callPublish_shape {api : Api} : Shape (s.callPublish env api).2 := by
  unfold Client.callPublish
  split
  all_goals first
    | exact onHandle_shape
    | exact sendHandle_shape fun _ _ => .enter (.publishDoSend _)
    | exact .rest (.ret _)
    | exact .rest .done

/-- Every call leaves tasks of the shape. -/
theorem call_shape (api : Api) : Shape (s.call env api).2 := by
  unfold Client.call
  split
  · -- `tick` runs the expired timers itself
    refine .entered _ (fun task htask => ?_) .exit
    obtain ⟨cb, -, rfl⟩ := List.mem_map.mp htask
    rfl
  · exact .enter (.input _)
  · exact .enter .networkDown
  · split
    · exact .rest (.ret _)
    · exact callSetting_shape
  all_goals first
    | exact callSetting_shape
    | exact callPublish_shape
    | exact callSubscribe_shape
    | exact callConnect_shape

/-! ## Tasks -/

/-- What `send` has still to do behind the transmission. -/
theorem publishDoSend_tasks (env : Env) (op : SendOp) (s : Client) :
    (s.publishDoSend env op).2 = [.exit, .ret .success] ∨
      ∃ ec, (s.publishDoSend env op).2 = [.exit, .publishAbandon op, .ret ec] := by
  unfold Client.publishDoSend
  dsimp only
  split
  · exact Or.inl rfl
  · exact Or.inr ⟨_, rfl⟩

/-- The beginning of a call leaves expired timers only. -/
theorem runTask_entry (env : Env) (htask : task.isEntry = true) :
    ∀ t ∈ (s.runTask env task).2, t.isEntry = true := by
  intro t ht
  cases task with
  | enter elapsed =>
    unfold runTask doApiEnter at ht
    dsimp only at ht
    split at ht
    · cases ht
    · obtain ⟨cb, -, rfl⟩ := List.mem_map.mp ht
      rfl
  | timeout cb => cases ht
  | _ => cases htask

/-- A task leaves tasks of the shape. -/
theorem runTask_shape (h : Shape (task :: rest)) : Shape ((s.runTask env task).2 ++ rest) := by
  cases h.front with
  | entry es htask hes hbody =>
    rw [← List.append_assoc]
    refine .entered _ (fun t ht => ?_) hbody
    rcases List.mem_append.mp ht with ht | ht
    · exact runTask_entry env htask t ht
    · exact hes t ht
  | body h =>
    cases h with
    | exit => exact .rest .done
    | input frames =>
      show Shape ((s.processInput frames).2 ++ [.exit])
      unfold processInput
      dsimp only
      split
      · exact .body .exit
      · exact .rest (.frames frames)
    | networkDown => exact .body .exit
    | initInternal =>
      show Shape ((if (s.initInternal env).2 = .success then [Task.exit, Task.connectPrepare]
        else [Task.exit, Task.ret (s.initInternal env).2]) ++ [])
      split
      · exact .rest .exitPrepare
      · exact .rest (.exitRet _)
    | startTimer ref timer ms => exact .rest (.exitRet _)
    | disconnectSend op => exact .rest (.exitRet _)
    -- a failed transmission is completed behind the exit
    | publishDoSend op =>
      show Shape ((s.publishDoSend env op).2 ++ [])
      rw [List.append_nil]
      rcases publishDoSend_tasks env op s with heq | ⟨ec, heq⟩ <;> rw [heq]
      · exact .rest (.exitRet _)
      · exact .rest (.exitAbandon op ec)
  | rest h =>
    cases h with
    | ret ec => exact .rest .done
    | exitRet ec => exact .rest (.ret ec)
    | frames frames =>
      cases frames with
      | nil => exact .body .exit
      | cons frame frames =>
        show Shape ((if (s.processFrame env frame).2 then [Task.frames frames] else []) ++ [.exit])
        split
        · exact .rest (.frames frames)
        · exact .body .exit
    | exitPrepare => exact .rest .connectPrepare
    | connectPrepare => exact .rest (.ret _)
    | exitAbandon op ec => exact .rest (.abandon op ec)
    | abandon op ec => exact .rest (.ret ec)

/-! ## What a call leaves to be done -/

/-- The operations that are sent. -/
structure Client.Sendable (s : Client) (ref : OpRef) : Prop where
  live : ref.id ∈ s.ids ref.type
  keepAlive : ref.type ≠ .keepAlive
  recv : ref.type ≠ .recv

/-- What a `publishSend` call leaves to be done. -/
structure LeavesSend (env : Env) (s : Client) (api : Api) (op : SendOp) : Prop where
  call : ∃ cb elapsed x, api = .publishSend x.id cb elapsed ∧ x ∈ s.sendOps ∧
    s.sendOp? x.id = some x ∧ (s.sendOpSend env x cb).2.2 = true ∧
    op = ((s.sendOpSend env x cb).1.sendOp? x.id).getD x ∧
    s.call env api = ((s.sendOpSend env x cb).1, [.enter elapsed, .publishDoSend op])

/-- The tasks a call leaves, each with the call that leaves it. -/
inductive Client.Leaves (env : Env) (s : Client) : Api → Task → Prop
  | ret {api : Api} (ec : ErrorCode) : Leaves env s api (.ret ec)
  | exit {api : Api} : Leaves env s api .exit
  | enter {api : Api} (elapsed : Nat) : Leaves env s api (.enter elapsed)
  | timeout {ms : Nat} {cb : TimeoutCb} (h : cb ∈ (s.timerMgr.expire ms).2) :
      Leaves env s (.tick ms) (.timeout cb)
  | input {elapsed : Nat} {frames : List InputFrame} :
      Leaves env s (.processData elapsed frames) (.input frames)
  | networkDown {elapsed : Nat} : Leaves env s (.notifyNetworkDisconnected elapsed) .networkDown
  | initInternal {elapsed : Nat} : Leaves env s (.connectPrepare elapsed) .initInternal
  | connectPrepare {elapsed : Nat} : Leaves env s (.connectPrepare elapsed) .connectPrepare
  | startTimer {api : Api} {ref : OpRef} {timer : Option Nat} {ms : Nat} (h : s.Sendable ref) :
      Leaves env s api (.startTimer ref timer ms)
  | disconnectSend {api : Api} {op : DisconnectOp} (h : op ∈ s.disconnectOps) :
      Leaves env s api (.disconnectSend op)
  | publishDoSend {api : Api} {op : SendOp} (hlive : op.id ∈ s.sendOps.map SendOp.id)
      (h : LeavesSend env s api op) : Leaves env s api (.publishDoSend op)

section Leaves

variable {api : Api}

theorem onHandle_leaves {α : Type} {x : Option α} {f : α → Client → Client × ErrorCode}
    (h : task ∈ (s.onHandle x f).2) : s.Leaves env api task := by
  cases x with
  | none => cases h
  | some y =>
    obtain rfl := List.mem_singleton.mp h
    exact .ret _

theorem callSetting_leaves {supported : Bool} {f : ConfigState → ConfigState}
    (h : task ∈ (s.callSetting supported f).2) : s.Leaves env api task := by
  unfold callSetting at h
  split at h <;> obtain rfl := List.mem_singleton.mp h <;> exact .ret _

/-- A `send` function that leaves more than its code found its operation and was not refused. -/
theorem sendHandle_leaves {α : Type} {x : Option α} {f : α → Client → Client × ErrorCode × Bool}
    {next : α → Client → List Task} (h : task ∈ (s.sendHandle x f next).2) :
    (∃ ec, task = .ret ec) ∨ ∃ y, x = some y ∧ (f y s).2.2 = true ∧ task ∈ next y (f y s).1 ∧
      s.sendHandle x f next = ((f y s).1, next y (f y s).1) := by
  cases x with
  | none => cases h
  | some y =>
    unfold sendHandle at h ⊢
    dsimp only at h ⊢
    split at h
    · rename_i hf
      exact Or.inr ⟨y, rfl, hf, h, by rw [if_pos hf]⟩
    · exact Or.inl ⟨_, List.mem_singleton.mp h⟩

/-- The `send` functions that start a timer, of an operation that is found. -/
theorem startHandle_leaves {α : Type} {key : α → OpId} {l : List α} {id : OpId} {type : OpType}
    {elapsed : Nat} {timer : α → Option Nat} {ms : α → Nat}
    {f : α → Client → Client × ErrorCode × Bool}
    (h : task ∈ (s.sendHandle (l.find? fun op => key op == id) f
      fun op _ => enterAndStart elapsed ⟨type, id⟩ (timer op) (ms op)).2)
    (hl : s.ids type = l.map key) (hkeep : type ≠ .keepAlive) (hrecv : type ≠ .recv) :
    s.Leaves env api task := by
  rcases sendHandle_leaves h with ⟨ec, rfl⟩ | ⟨y, hy, -, hmem, -⟩
  · exact .ret ec
  · have hyl := List.mem_of_find?_eq_some hy
    have hyid : key y = id := by simpa using List.find?_some hy
    simp only [enterAndStart, List.mem_cons, List.not_mem_nil, or_false] at hmem
    rcases hmem with rfl | rfl | rfl | rfl
    · exact .enter _
    · refine .startTimer ⟨?_, hkeep, hrecv⟩
      rw [hl, ← hyid]
      exact List.mem_map_of_mem hyl
    · exact .exit
    · exact .ret _

theorem disconnectSend_leaves {id : OpId} {elapsed : Nat}
    (h : task ∈ (s.call env (.disconnectSend id elapsed)).2) : s.Leaves env api task := by
  have h : task ∈ (s.sendHandle (s.disconnectOp? id)
    (fun op s => (s.allowNextPrepare.setDisconnectOp { op with sent := true }, .success, true))
    fun op _ => [.enter elapsed, .disconnectSend op, .exit, .ret .success]).2 := h
  rcases sendHandle_leaves h with ⟨ec, rfl⟩ | ⟨y, hy, -, hmem, -⟩
  · exact .ret ec
  · simp only [List.mem_cons, List.not_mem_nil, or_false] at hmem
    rcases hmem with rfl | rfl | rfl | rfl
    · exact .enter _
    · exact .disconnectSend (List.mem_of_find?_eq_some hy)
    · exact .exit
    · exact .ret _

/-- `publishSend` leaves its transmission. -/
theorem publishSend_leaves {id : OpId} {cb : Bool} {elapsed : Nat}
    (h : task ∈ (s.call env (.publishSend id cb elapsed)).2) :
    s.Leaves env (.publishSend id cb elapsed) task := by
  have h : task ∈ (s.sendHandle (s.sendOp? id) (sendOpSend env · cb)
    fun op s => [.enter elapsed, .publishDoSend ((s.sendOp? id).getD op)]).2 := h
  rcases sendHandle_leaves h with ⟨ec, rfl⟩ | ⟨x, hx, hcan, hmem, heq⟩
  · exact .ret ec
  · have hxs := List.mem_of_find?_eq_some hx
    obtain rfl : x.id = id := by simpa using List.find?_some hx
    have hid : (((s.sendOpSend env x cb).1.sendOp? x.id).getD x).id = x.id := by
      cases hfind : (s.sendOpSend env x cb).1.sendOp? x.id with
      | none => rfl
      | some y => simpa using List.find?_some hfind
    have hcall : LeavesSend env s (.publishSend x.id cb elapsed)
        (((s.sendOpSend env x cb).1.sendOp? x.id).getD x) :=
      ⟨cb, elapsed, x, rfl, hxs, hx, hcan, rfl, heq⟩
    simp only [List.mem_cons, List.not_mem_nil, or_false] at hmem
    rcases hmem with rfl | htask
    · exact .enter _
    · rw [htask]
      refine .publishDoSend ?_ hcall
      rw [hid]
      exact List.mem_map_of_mem hxs

end Leaves

/-- What a call leaves to be done. -/
theorem call_leaves {api : Api} (h : task ∈ (s.call env api).2) : s.Leaves env api task := by
  have hret : ∀ {ec : ErrorCode}, task ∈ [Task.ret ec] → s.Leaves env api task := by
    intro ec h
    rw [List.mem_singleton.mp h]
    exact .ret ec
  cases api
  case publishSend id cb elapsed => exact publishSend_leaves h
  case disconnectSend id elapsed => exact disconnectSend_leaves h
  case connectSend id cb elapsed => exact startHandle_leaves h rfl nofun nofun
  case subscribeSend id cb elapsed => exact startHandle_leaves h rfl nofun nofun
  case unsubscribeSend id cb elapsed => exact startHandle_leaves h rfl nofun nofun
  case reauthSend id cb elapsed => exact startHandle_leaves h rfl nofun nofun
  case setDefaultResponseTimeout ms =>
    unfold Client.call at h
    dsimp only at h
    split at h
    · exact hret h
    · exact callSetting_leaves h
  case connectPrepare elapsed =>
    have h : task ∈ (s.beginConnectPrepare elapsed).2 := h
    unfold beginConnectPrepare at h
    dsimp only at h
    split at h
    · rw [List.mem_singleton.mp h]
      exact .connectPrepare
    · split at h
      · exact hret h
      · simp only [List.mem_cons, List.not_mem_nil, or_false] at h
        rcases h with rfl | rfl
        · exact .enter _
        · exact .initInternal
  case tick ms =>
    rcases List.mem_append.mp h with h | h
    · obtain ⟨cb, hcb, rfl⟩ := List.mem_map.mp h
      have htimers : (s.assert .tick (s.apiEnterCount == 0)).timerMgr = s.timerMgr := by
        unfold Client.assert
        split <;> rfl
      exact .timeout (htimers ▸ hcb)
    · rw [List.mem_singleton.mp h]
      exact .exit
  case processData elapsed frames =>
    simp only [Client.call, List.mem_cons, List.not_mem_nil, or_false] at h
    rcases h with rfl | rfl | rfl
    · exact .enter _
    · exact .input
    · exact .exit
  case notifyNetworkDisconnected elapsed =>
    simp only [Client.call, List.mem_cons, List.not_mem_nil, or_false] at h
    rcases h with rfl | rfl | rfl
    · exact .enter _
    · exact .networkDown
    · exact .exit
  case setVerifyOutgoingTopic | setVerifyIncomingTopic | setVerifySubFilter =>
    exact callSetting_leaves h
  case disconnectPrepare | subscribePrepare | unsubscribePrepare | publishPrepare | reauthPrepare |
      pubTopicAliasAlloc | pubTopicAliasFree | publishSetOrdering => exact hret h
  all_goals exact onHandle_leaves h

/-! ## Tasks that come late -/

/-- The tasks that are left by other tasks or by `connectPrepare`. -/
def Task.isLate : Task → Bool
  | .frames _ | .initInternal | .connectPrepare | .publishAbandon _ => true
  | _ => false

/-- A body does not prepare CONNECT. -/
theorem Body.connectPrepare (h : Body ts) : .connectPrepare ∉ ts := by
  cases h <;> simp

/-- Input is not split before the tasks in front of it are done. -/
theorem Shape.Front.frames (h : Shape.Front task rest) (frames : List InputFrame) :
    .frames frames ∉ rest := by
  intro hmem
  cases h with
  | entry es htask hes hbody =>
    rcases List.mem_append.mp hmem with hm | hm
    · cases hes _ hm
    · cases hbody <;> simp at hm
  | body hbody => cases hbody <;> simp at hmem
  | rest hrest => cases hrest <;> simp at hmem

/-- Nothing but the beginning of the call is done before the initialisation. -/
theorem Shape.Front.initInternal (h : Shape.Front task rest) (hmem : .initInternal ∈ rest) :
    task.isEntry = true := by
  cases h with
  | entry es htask hes hbody => exact htask
  | body hbody => cases hbody <;> simp at hmem
  | rest hrest => cases hrest <;> simp at hmem

/-- Only `connectPrepare` leaves such a task itself. -/
theorem call_late {api : Api} (hmem : task ∈ (s.call env api).2) (hlate : task.isLate = true) :
    ∃ elapsed, api = .connectPrepare elapsed := by
  cases call_leaves hmem with
  | @initInternal elapsed | @connectPrepare elapsed => exact ⟨elapsed, rfl⟩
  | _ => cases hlate

/-- What a task leaves of this kind. -/
theorem runTask_late {t : Task} (hmem : t ∈ (s.runTask env task).2) (hlate : t.isLate = true) :
    (∃ op, t = .publishAbandon op) ∨
      (t = .connectPrepare ∧ task = .initInternal ∧ (s.initInternal env).2 = .success) ∨
      ∃ frames, t = .frames frames ∧ ((∃ frames, task = .frames frames) ∨
        (∃ frames, task = .input frames) ∧ s.clientState.networkDisconnected = false) := by
  -- a returned code is not such a task
  have hret : ∀ {ec : ErrorCode}, t ∉ [Task.ret ec] := by
    intro ec h
    obtain rfl := List.mem_singleton.mp h
    cases hlate
  cases task with
  | enter elapsed =>
    have hentry := runTask_entry env (show Task.isEntry (.enter elapsed) = true from rfl) t hmem
    cases t <;> first | (cases hlate; done) | cases hentry
  | exit | timeout cb | networkDown | startTimer ref timer ms | disconnectSend op
      | publishAbandon op => cases hmem
  | connectPrepare => exact absurd hmem hret
  | ret ec => cases hmem
  | input frames =>
    have hmem : t ∈ (s.processInput frames).2 := hmem
    have hnet : (s.assert .processData (!s.clientState.networkDisconnected)).clientState =
        s.clientState := by
      unfold Client.assert
      split <;> rfl
    unfold processInput at hmem
    dsimp only at hmem
    rw [hnet] at hmem
    split at hmem
    · cases hmem
    · rename_i hdown
      obtain rfl := List.mem_singleton.mp hmem
      exact Or.inr (Or.inr ⟨frames, rfl, Or.inr ⟨⟨frames, rfl⟩, by simpa using hdown⟩⟩)
  | frames frames =>
    cases frames with
    | nil => cases hmem
    | cons frame frames =>
      have hmem : t ∈ (if (s.processFrame env frame).2 then [Task.frames frames] else []) := hmem
      split at hmem
      · obtain rfl := List.mem_singleton.mp hmem
        exact Or.inr (Or.inr ⟨frames, rfl, Or.inl ⟨_, rfl⟩⟩)
      · cases hmem
  | initInternal =>
    have hmem : t ∈ (if (s.initInternal env).2 = .success then [Task.exit, Task.connectPrepare]
        else [Task.exit, Task.ret (s.initInternal env).2]) := hmem
    split at hmem
    · rename_i hok
      rcases List.mem_cons.mp hmem with rfl | hmem
      · cases hlate
      · exact Or.inr (Or.inl ⟨List.mem_singleton.mp hmem, rfl, hok⟩)
    · rcases List.mem_cons.mp hmem with rfl | hmem
      · cases hlate
      · exact absurd hmem hret
  | publishDoSend op =>
    have hmem : t ∈ (s.publishDoSend env op).2 := hmem
    rcases publishDoSend_tasks env op s with heq | ⟨ec, heq⟩ <;> rw [heq] at hmem
    all_goals
      rcases List.mem_cons.mp hmem with rfl | hmem
      · cases hlate
    · exact absurd hmem hret
    · rcases List.mem_cons.mp hmem with rfl | hmem
      · exact Or.inl ⟨op, rfl⟩
      · exact absurd hmem hret

/-! ## `connectPrepare` -/

/-- The pending tasks have their form, and CONNECT is prepared by an initialised client only. -/
structure Pending (sys : Sys) : Prop where
  shape : Shape sys.pending
  initialized : .connectPrepare ∈ sys.pending → sys.client.clientState.initialized = true

theorem doApiExit_client (s : Client) : s.doApiExit.clientState = s.clientState := by
  unfold doApiExit cleanOps
  dsimp only
  split
  · rfl
  · split <;> split <;> rfl

/-- CONNECT is prepared by an initialised client only. -/
theorem beginConnectPrepare_pending {elapsed : Nat}
    (h : .connectPrepare ∈ (s.beginConnectPrepare elapsed).2) :
    (s.beginConnectPrepare elapsed).1.clientState.initialized = true := by
  unfold beginConnectPrepare at h ⊢
  dsimp only at h ⊢
  split
  · assumption
  · rename_i hinit
    rw [if_neg hinit] at h
    split at h <;> simp at h

/-- Only `connectPrepare` leaves CONNECT to be prepared. -/
theorem call_connectPrepare {api : Api} (h : .connectPrepare ∈ (s.call env api).2) :
    (s.call env api).1.clientState.initialized = true := by
  obtain ⟨elapsed, rfl⟩ := call_late h rfl
  exact beginConnectPrepare_pending h

/-- A successful initialisation says so. -/
theorem initInternal_initialized (h : (s.initInternal env).2 = .success) :
    (s.initInternal env).1.clientState.initialized = true := by
  unfold initInternal at h ⊢
  split
  · rename_i hfail
    rw [if_pos hfail] at h
    cases h
  · rename_i hpass
    rw [if_neg hpass] at h
    split
    · rename_i hfail
      rw [if_pos hfail] at h
      cases h
    · rfl

theorem runTask_connectPrepare (h : Pending ⟨s, task :: rest⟩)
    (hmem : .connectPrepare ∈ (s.runTask env task).2 ++ rest) :
    (s.runTask env task).1.clientState.initialized = true := by
  have hinit := h.initialized
  dsimp only at hinit
  rcases List.mem_append.mp hmem with hm | hm
  · rcases runTask_late hm rfl with ⟨id, heq⟩ | ⟨-, rfl, hok⟩ | ⟨frames, heq, -⟩
    · cases heq
    · exact initInternal_initialized hok
    · cases heq
  · cases h.shape.front with
    | entry es htask hes hbody =>
      exfalso
      rcases List.mem_append.mp hm with hm | hm
      · cases hes _ hm
      · exact hbody.connectPrepare hm
    | body hbody => exact absurd (List.mem_cons_of_mem _ hm) hbody.connectPrepare
    | rest hrest =>
      cases hrest with
      | exitPrepare =>
        show s.doApiExit.clientState.initialized = true
        rw [doApiExit_client]
        exact hinit (by simp)
      | _ => simp at hm

/-- Every step keeps the form of the pending tasks. -/
theorem step_pending {sys sys' : Sys} {l : Label} (h : Pending sys)
    (hstep : sys.step env l = some sys') : Pending sys' := by
  unfold Sys.step at hstep
  cases l with
  | call api =>
    dsimp only at hstep
    split at hstep
    · cases hstep
      exact ⟨call_shape api, call_connectPrepare⟩
    · cases hstep
  | run =>
    dsimp only at hstep
    split at hstep
    · cases hstep
    · rename_i task rest hpending
      cases hstep
      have hpend : Pending ⟨sys.client, task :: rest⟩ := by
        rw [← hpending]
        exact h
      exact ⟨runTask_shape hpend.shape, runTask_connectPrepare hpend⟩

/-! ## Expired timers -/

/-- An expired timer was armed. -/
theorem mem_expire {m : TimerMgr} {ms : Nat} {cb : TimeoutCb} (h : cb ∈ (m.expire ms).2) :
    ∃ info ∈ m.timers, info.timeoutCb = some cb := by
  obtain ⟨info, hinfo, hcb⟩ := List.mem_filterMap.mp h
  refine ⟨info, hinfo, ?_⟩
  unfold TimerInfo.expired at hcb
  split at hcb
  · exact hcb
  · cases hcb

/-- Data is given to a call at its beginning only. -/
theorem runTask_input {task : Task} {frames : List InputFrame} :
    .input frames ∉ (s.runTask env task).2 := by
  intro h
  cases task with
  | enter elapsed =>
    unfold runTask doApiEnter at h
    dsimp only at h
    split at h <;> simp at h
  | input frames =>
    unfold runTask processInput at h
    dsimp only at h
    split at h <;> simp at h
  | frames frames =>
    cases frames with
    | nil => cases h
    | cons frame frames =>
      unfold runTask at h
      dsimp only at h
      split at h <;> simp at h
  | initInternal =>
    unfold runTask at h
    dsimp only at h
    split at h <;> simp at h
  | publishDoSend op =>
    have h : .input frames ∈ (s.publishDoSend env op).2 := h
    rcases publishDoSend_tasks env op s with heq | ⟨ec, heq⟩ <;> rw [heq] at h <;> simp at h
  | connectPrepare => simp [runTask] at h
  | _ => cases h

/-- The expired timers a call runs are those of its beginning. -/
theorem runTask_timeout {task : Task} {cb : TimeoutCb} (h : .timeout cb ∈ (s.runTask env task).2) :
    ∃ ms, cb ∈ (s.timerMgr.expire ms).2 := by
  cases task with
  | enter elapsed =>
    unfold runTask doApiEnter at h
    dsimp only at h
    split at h
    · cases h
    · obtain ⟨cb', hcb, heq⟩ := List.mem_map.mp h
      cases heq
      exact ⟨elapsed, hcb⟩
  | input frames =>
    unfold runTask processInput at h
    dsimp only at h
    split at h <;> simp at h
  | frames frames =>
    cases frames with
    | nil => cases h
    | cons frame frames =>
      unfold runTask at h
      dsimp only at h
      split at h <;> simp at h
  | initInternal =>
    unfold runTask at h
    dsimp only at h
    split at h <;> simp at h
  | publishDoSend op =>
    have h : .timeout cb ∈ (s.publishDoSend env op).2 := h
    rcases publishDoSend_tasks env op s with heq | ⟨ec, heq⟩ <;> rw [heq] at h <;> simp at h
  | connectPrepare => simp [runTask] at h
  | _ => cases h

/-- Only the report of time leaves timeouts, those it collected. -/
theorem call_timeout {api : Api} {cb : TimeoutCb} (h : .timeout cb ∈ (s.call env api).2) :
    ∃ ms, cb ∈ (s.timerMgr.expire ms).2 := by
  cases call_leaves h with
  | @timeout ms _ hcb => exact ⟨ms, hcb⟩

/-- A callback that is pending after a step was pending before, or its timer was armed. -/
theorem step_timeout {sys sys' : Sys} {l : Label} {cb : TimeoutCb} (hstep : sys.step env l = some sys')
    (h : .timeout cb ∈ sys'.pending) :
    .timeout cb ∈ sys.pending ∨ ∃ info ∈ sys.client.timerMgr.timers, info.timeoutCb = some cb := by
  unfold Sys.step at hstep
  cases l with
  | call api =>
    dsimp only at hstep
    split at hstep
    · cases hstep
      obtain ⟨ms, hms⟩ := call_timeout h
      exact Or.inr (mem_expire hms)
    · cases hstep
  | run =>
    dsimp only at hstep
    split at hstep
    · cases hstep
    · rename_i task rest hpending
      cases hstep
      rcases List.mem_append.mp h with h | h
      · obtain ⟨ms, hms⟩ := runTask_timeout h
        exact Or.inr (mem_expire hms)
      · exact Or.inl (by rw [hpending]; exact List.mem_cons_of_mem _ h)

end Mqtt5
