import Mqtt5Client.Run
import Mqtt5Client.Lib.Agenda

/-!
# Mqtt5Client — calls from their beginning to their return

`runTask` carries a call out in pieces, so that invariants can speak of the states between them. Here the
pieces are put together again: `perform` is what a piece comes to with all that it leaves to be done, with
the loops of `TimerMgr::tick` and `ClientImpl::processData` written out, and `performCall` is a call as the
application sees it. Every call returns: the pieces it is cut into lead to that state.
-/

namespace Mqtt5

open Agenda

variable {env : Env}

namespace Client

variable (env)

/-- The loop of `ClientImpl::processData` over the packets of a buffer. -/
def processFrames : List InputFrame → Client → Client
  | [], s => s
  | frame :: rest, s =>
    let r := s.processFrame env frame
    if r.2 then processFrames rest r.1 else r.1

/-- The pieces that leave none: the expired timers of a guard, the way out, the code that is returned. -/
def performLeaves (r : Client × List Task) : Client := r.2.foldl (fun s task => (s.runTask env task).1) r.1

/-- A piece of a call, with all that it leaves to be done. -/
def perform (task : Task) (s : Client) : Client :=
  match task with
  | .enter elapsed => performLeaves env (s.doApiEnter elapsed)
  | .input frames =>
    let r := s.processInput frames
    if r.2.isEmpty then r.1 else processFrames env frames r.1
  | .frames frames => s.processFrames env frames
  | .initInternal =>
    let r := s.initInternal env
    if r.2 = .success then performLeaves env (r.1.doApiExit.runTask env .connectPrepare)
    else r.1.doApiExit.emit (.apiReturn r.2)
  | .connectPrepare => performLeaves env (s.runTask env .connectPrepare)
  | .publishDoSend op => performLeaves env (s.publishDoSend env op)
  | task => (s.runTask env task).1

def performAll (tasks : List Task) (s : Client) : Client := tasks.foldl (fun s task => s.perform env task) s

/-- A call of the API, from its beginning to its return. -/
def performCall (api : Api) (s : Client) : Client :=
  let r := s.call env api
  r.1.performAll env r.2

end Client

/-! ## Pieces -/

/-- The pieces that leave none. -/
def Task.isLeaf : Task → Bool
  | .exit | .timeout _ | .networkDown | .startTimer .. | .disconnectSend _ | .publishAbandon _ | .ret _ => true
  | _ => false

/-- The pieces of a call, as the tasks of an agenda. -/
abbrev Pieces (env : Env) : List Task → Client → Client → Prop := Done fun task s => s.runTask env task

variable {task : Task} {tasks rest : List Task} {s t : Client} {frames : List InputFrame}

/-- A task that leaves no tasks is one piece. -/
theorem pieces_leaf (h : task.isLeaf = true) : Pieces env [task] s (s.runTask env task).1 := by
  refine .leaf ?_
  cases task <;> first | rfl | cases h

/-- So are several such tasks, one after the other. -/
theorem pieces_leaves (h : ∀ task ∈ tasks, task.isLeaf = true) (s : Client) :
    Pieces env tasks s (Client.performLeaves env (s, tasks)) :=
  Done.foldl (f := fun task s => (s.runTask env task).1) (fun task htask _ => pieces_leaf (h task htask)) s

/-- A guard leaves the expired timers. -/
theorem doApiEnter_leaves (elapsed : Nat) (s : Client) :
    ∀ task ∈ (s.doApiEnter elapsed).2, task.isLeaf = true := by
  unfold Client.doApiEnter
  dsimp only
  split
  · intro task htask
    cases htask
  · intro task htask
    obtain ⟨cb, -, rfl⟩ := List.mem_map.mp htask
    rfl

/-- The transmission of a publish leaves such tasks only. -/
theorem publishDoSend_leaves (op : SendOp) (s : Client) :
    ∀ task ∈ (s.publishDoSend env op).2, task.isLeaf = true := by
  unfold Client.publishDoSend
  dsimp only
  split <;> simp [Task.isLeaf]

/-- The loop over the packets, by induction on the buffer. -/
theorem pieces_frames (frames : List InputFrame) (s : Client) :
    Pieces env [.frames frames] s (s.processFrames env frames) := by
  induction frames generalizing s with
  | nil => exact .leaf rfl
  | cons frame frames ih =>
    refine .single ?_
    unfold Client.processFrames
    show Pieces env (if (s.processFrame env frame).2 then [Task.frames frames] else [])
      (s.processFrame env frame).1 _
    dsimp only
    split
    · exact ih (s.processFrame env frame).1
    · exact .nil

/-- Every piece comes to its `perform`. -/
theorem pieces_perform (task : Task) (s : Client) : Pieces env [task] s (s.perform env task) := by
  cases task with
  | enter elapsed => exact .single (pieces_leaves (doApiEnter_leaves elapsed s) _)
  | publishDoSend op => exact .single (pieces_leaves (publishDoSend_leaves op s) _)
  | connectPrepare => exact .single (pieces_leaves (by simp [Task.isLeaf, Client.runTask]) _)
  | frames frames => exact pieces_frames frames s
  | input frames =>
    refine .single ?_
    show Pieces env (s.processInput frames).2 (s.processInput frames).1 _
    unfold Client.perform Client.processInput
    dsimp only
    split
    · exact .nil
    · exact pieces_frames frames _
  | initInternal =>
    refine .single ?_
    unfold Client.perform
    show Pieces env (if (s.initInternal env).2 = .success then [Task.exit, .connectPrepare]
      else [.exit, .ret (s.initInternal env).2]) (s.initInternal env).1 _
    dsimp only
    have hexit : Pieces env [.exit] (s.initInternal env).1 (s.initInternal env).1.doApiExit := pieces_leaf rfl
    split
    · refine hexit.append (.single ?_)
      exact pieces_leaves (by simp [Task.isLeaf, Client.runTask]) _
    · exact hexit.append (pieces_leaf rfl)
  | _ => exact pieces_leaf rfl

/-- What a call does at once is what its tasks do one by one. -/
theorem pieces_performAll (tasks : List Task) (s : Client) : Pieces env tasks s (s.performAll env tasks) :=
  Done.foldl (fun task _ s => pieces_perform task s) s

/-! ## Calls as steps -/

/-- A piece that is carried out is a step. -/
theorem piece_step (env : Env) (s : Client) (task : Task) (rest : List Task) :
    Sys.step env ⟨s, task :: rest⟩ .run = some ⟨(s.runTask env task).1, (s.runTask env task).2 ++ rest⟩ := rfl

end Mqtt5
