import Mqtt5Client.Common

/-!
# Mqtt5Client — `TimerMgr`

The timer slots shared by all operations. A slot is armed when it holds a callback; a callback is
a named entry point of the operation that armed it. `tick` first collects (and disarms) every
expired slot and only then runs the collected callbacks, so `expire` returns them to its caller.
-/

namespace Mqtt5

/-- The timeout callbacks of the library with the operation they point to. -/
inductive TimeoutCb where
  | sessionExpiry
  | connectTimeout (op : OpId)
  | keepAlivePing (op : OpId)
  | keepAliveRecv (op : OpId)
  | keepAliveResp (op : OpId)
  | subscribeTimeout (op : OpId)
  | unsubscribeTimeout (op : OpId)
  | recvTimeout (op : OpId)
  | sendTimeout (op : OpId)
  | reauthTimeout (op : OpId)
  deriving DecidableEq, Repr

/-- `TimerMgr::TimerInfo`. -/
structure TimerInfo where
  timeoutMs : Nat := 0
  timeoutCb : Option TimeoutCb := none
  allocated : Bool := false
  suspended : Bool := false
  deriving DecidableEq, Repr

structure TimerMgr where
  timers : List TimerInfo := []
  allocatedTimers : Nat := 0
  deriving DecidableEq, Repr

namespace TimerInfo

/-- Slots `tick` and `getMinWait` look at. -/
def isRunning (info : TimerInfo) : Bool :=
  info.allocated && info.timeoutCb.isSome && !info.suspended

/-- `timerCancel` on the slot. -/
def cancel (info : TimerInfo) : TimerInfo := { info with timeoutMs := 0, timeoutCb := none }

/-- The slot after `tick(ms)`. -/
def advance (ms : Nat) (info : TimerInfo) : TimerInfo :=
  if info.isRunning then
    if info.timeoutMs ≤ ms then info.cancel
    else { info with timeoutMs := info.timeoutMs - ms }
  else info

/-- The callback `tick(ms)` collects from the slot. -/
def expired (ms : Nat) (info : TimerInfo) : Option TimeoutCb :=
  if info.isRunning && info.timeoutMs ≤ ms then info.timeoutCb else none

end TimerInfo

namespace TimerMgr

/-- Change one slot; an index past the storage changes nothing. -/
def modifySlot (m : TimerMgr) (idx : Nat) (f : TimerInfo → TimerInfo) : TimerMgr :=
  { m with timers := m.timers.modify idx f }

/-- `allocTimer`: the first free slot, or a new one below the storage limit. An invalid timer
is `none`. -/
def allocTimer (limit : Nat) (m : TimerMgr) : TimerMgr × Option Nat :=
  let idx := m.timers.findIdx (fun info => !info.allocated)
  if m.allocatedTimers < m.timers.length ∧ idx < m.timers.length then
    ({ timers := m.timers.modify idx (fun info => { info with allocated := true }),
       allocatedTimers := m.allocatedTimers + 1 }, some idx)
  else if isFull limit m.timers.length then
    (m, none)
  else
    ({ timers := m.timers ++ [{ allocated := true }],
       allocatedTimers := m.allocatedTimers + 1 }, some m.timers.length)

/-- `freeTimer`, called by `~Timer` of a valid timer. -/
def freeTimer (m : TimerMgr) : Option Nat → TimerMgr
  | none => m
  | some idx =>
    if m.timers.length ≤ idx then m
    else { timers := m.timers.set idx {}, allocatedTimers := m.allocatedTimers - 1 }

/-- `Timer::wait`. The suspended flag of the slot stays as it is. -/
def wait (m : TimerMgr) (timer : Option Nat) (ms : Nat) (cb : TimeoutCb) : TimerMgr :=
  match timer with
  | none => m
  | some idx => m.modifySlot idx fun info => { info with timeoutMs := ms, timeoutCb := some cb }

/-- `Timer::cancel`. -/
def cancel (m : TimerMgr) : Option Nat → TimerMgr
  | none => m
  | some idx => m.modifySlot idx TimerInfo.cancel

/-- `Timer::isActive`. -/
def isActive (m : TimerMgr) (timer : Option Nat) : Bool :=
  match timer.bind (m.timers[·]?) with
  | none => false
  | some info => info.timeoutCb.isSome

/-- `Timer::setSuspended`: only an active timer is changed. -/
def setSuspended (m : TimerMgr) (timer : Option Nat) (suspended : Bool) : TimerMgr :=
  match timer with
  | none => m
  | some idx =>
    if m.isActive (some idx) then
      m.modifySlot idx fun info => { info with suspended := suspended }
    else m

/-- The collecting loop of `tick`: the remaining slots and the callbacks to run. -/
def expire (m : TimerMgr) (ms : Nat) : TimerMgr × List TimeoutCb :=
  ({ m with timers := m.timers.map (·.advance ms) }, m.timers.filterMap (·.expired ms))

/-- `getMinWait`: `0` when nothing is running, clipped to `unsigned`. -/
def getMinWait (m : TimerMgr) : Nat :=
  match (m.timers.filter (·.isRunning)).map (·.timeoutMs) with
  | [] => 0
  | t :: ts => min (ts.foldl min t) maxU32

end TimerMgr

end Mqtt5
