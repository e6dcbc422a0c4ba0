import Uam.Library.Linked
import Uam.Library.Runs

/-! The lockstep scheduler: threads wait for a condition until a simulated time, and one thread sets
that time. A step is an access to what threads share; a section of a waiter under
`_timed_waits_mutex` is one step, since only `_time_us` is written outside of it. The clock holds
the mutex from `locked` to `unlocking`. Each call has its own condition and mutex. -/
namespace AerialManipulator
open Linked

/-- The record of a thread without its link; `call` stands for `passed_cond` and `passed_lock`. -/
structure TimedWait where
  call : Nat
  timeUs : Nat
  timeout : Bool
  done : Bool
  removed : Bool

inductive WaiterPc
  /-- not in a call; the last one returned `ETIMEDOUT` or not -/
  | out (timedOut : Bool)
  /-- about to lock `_timed_waits_mutex` -/
  | enter
  /-- about to wait for the condition -/
  | linked
  | asleep
  /-- about to lock `lock` again, in `pthread_cond_wait` -/
  | woken
  /-- about to read `timeout` -/
  | awake
  /-- about to set `done` -/
  | read (timeout : Bool)
  /-- about to read `_setting_time` -/
  | finished (timeout : Bool)
  /-- about to unlock `lock` -/
  | yielding
  /-- about to lock and unlock `_timed_waits_mutex` -/
  | queued
  /-- about to lock `lock` -/
  | relocking
  deriving DecidableEq

/-- `signalled` tells whether anything but the clock has woken the thread. -/
structure Waiter where
  pc : WaiterPc
  calls : Nat
  deadline : Nat
  signalled : Bool

inductive ClockPhase
  /-- about to compare the times -/
  | checked
  /-- about to lock `passed_lock` -/
  | locking
  /-- about to set `timeout` -/
  | holding
  /-- about to broadcast -/
  | timed
  /-- about to unlock `passed_lock` -/
  | notified
  deriving DecidableEq

inductive ClockPc (ι : Type)
  | idle
  /-- about to lock `_timed_waits_mutex` -/
  | timeSet
  /-- about to set `_setting_time` -/
  | locked
  /-- at the head of the loop -/
  | visit (prev cur : Option ι)
  | busy (prev : Option ι) (cur : ι) (phase : ClockPhase)
  /-- about to clear `_setting_time` -/
  | ending
  | unlocking

/-- `next` are the links of the records. -/
structure Lockstep (ι : Type) where
  timeUs : Nat
  settingTime : Bool
  timedWaits : Option ι
  next : ι → Option ι
  waits : ι → TimedWait
  waiters : ι → Waiter
  clock : ClockPc ι

inductive LockstepEvent (ι : Type)
  /-- a thread that holds a mutex calls `cond_timedwait` -/
  | call (i : ι) (deadline : Nat)
  | waiter (i : ι)
  /-- the condition is signalled, or the wait just ends -/
  | signal (i : ι)
  | setTime (time : Nat)
  | clock

def LockstepEvent.isInternal {ι : Type} : LockstepEvent ι → Bool
  | .waiter _ => true
  | .clock => true
  | _ => false

def WaiterPc.holdsLock : WaiterPc → Bool
  | .enter | .linked | .awake | .read _ | .finished _ | .yielding => true
  | _ => false

namespace ClockPc
variable {ι : Type}

def mutexFree : ClockPc ι → Bool
  | .idle | .timeSet => true
  | _ => false

def held : ClockPc ι → Option ι
  | .busy _ cur .holding | .busy _ cur .timed | .busy _ cur .notified => some cur
  | _ => none

def touched : ClockPc ι → Option ι
  | .busy _ cur .locking | .busy _ cur .holding | .busy _ cur .timed | .busy _ cur .notified => some cur
  | _ => none

end ClockPc

namespace Lockstep
variable {ι : Type} [DecidableEq ι]

def new : Lockstep ι :=
  ⟨0,false,none,fun _ => none,fun _ => ⟨0,0,false,false,true⟩,fun _ => ⟨.out false,0,0,false⟩,.idle⟩

def setWaiter (i : ι) (w : Waiter) (s : Lockstep ι) : Lockstep ι := {s with waiters := Function.update s.waiters i w}

def setPc (i : ι) (pc : WaiterPc) (s : Lockstep ι) : Lockstep ι := s.setWaiter i {s.waiters i with pc := pc}

def setWait (i : ι) (r : TimedWait) (s : Lockstep ι) : Lockstep ι := {s with waits := Function.update s.waits i r}

def setClock (pc : ClockPc ι) (s : Lockstep ι) : Lockstep ι := {s with clock := pc}

def waiterHolds (i : ι) (call : Nat) (s : Lockstep ι) : Bool :=
  (s.waiters i).calls = call && (s.waiters i).pc.holdsLock

def clockHolds (i : ι) (call : Nat) (s : Lockstep ι) : Bool :=
  s.clock.held = some i && (s.waits i).call = call

def link (i : ι) (s : Lockstep ι) : Lockstep ι :=
  if (s.waits i).removed then {s with timedWaits := some i, next := Function.update s.next i s.timedWaits} else s

def register (i : ι) (s : Lockstep ι) : Lockstep ι :=
  if (s.waiters i).deadline ≤ s.timeUs then s.setPc i (.out true)
  else ((s.link i).setWait i ⟨(s.waiters i).calls,(s.waiters i).deadline,false,false,false⟩).setPc i .linked

def waiterStep (i : ι) (s : Lockstep ι) : Lockstep ι :=
  match (s.waiters i).pc with
  | .out _ => s
  | .enter => if s.clock.mutexFree then s.register i else s
  | .linked => s.setPc i .asleep
  | .asleep => s
  | .woken => if s.clockHolds i (s.waiters i).calls then s else s.setPc i .awake
  | .awake => s.setPc i (.read (s.waits i).timeout)
  | .read timeout => (s.setWait i {s.waits i with done := true}).setPc i (.finished timeout)
  | .finished timeout => s.setPc i (if !timeout && s.settingTime then .yielding else .out timeout)
  | .yielding => s.setPc i .queued
  | .queued => if s.clock.mutexFree then s.setPc i .relocking else s
  | .relocking => if s.clockHolds i (s.waiters i).calls then s else s.setPc i (.out false)

def eraseWait (prev : Option ι) (cur : ι) (s : Lockstep ι) : Lockstep ι :=
  (prev.elim {s with timedWaits := s.next cur}
    fun p => {s with next := Function.update s.next p (s.next cur)}).setWait cur {s.waits cur with removed := true}

def busyStep (prev : Option ι) (cur : ι) (s : Lockstep ι) : ClockPhase → Lockstep ι
  | .checked =>
    -- `time_us` is what was written to `_time_us`, since no other thread sets the time
    if (s.waits cur).timeUs ≤ s.timeUs && !(s.waits cur).timeout then s.setClock (.busy prev cur .locking)
    else s.setClock (.visit (some cur) (s.next cur))
  | .locking => if s.waiterHolds cur (s.waits cur).call then s else s.setClock (.busy prev cur .holding)
  | .holding => (s.setWait cur {s.waits cur with timeout := true}).setClock (.busy prev cur .timed)
  | .timed =>
    (s.setWaiter cur (if (s.waiters cur).pc = .asleep ∧ (s.waiters cur).calls = (s.waits cur).call then
      {s.waiters cur with pc := .woken} else s.waiters cur)).setClock (.busy prev cur .notified)
  | .notified => s.setClock (.visit (some cur) (s.next cur))

def clockStep (s : Lockstep ι) : Lockstep ι :=
  match s.clock with
  | .idle => s
  | .timeSet => s.setClock .locked
  | .locked => {s with settingTime := true}.setClock (.visit none s.timedWaits)
  | .visit prev cur => cur.elim (s.setClock .ending) fun cur =>
    if (s.waits cur).done then (s.eraseWait prev cur).setClock (.visit prev (s.next cur))
    else s.setClock (.busy prev cur .checked)
  | .busy prev cur phase => s.busyStep prev cur phase
  | .ending => {s with settingTime := false}.setClock .unlocking
  | .unlocking => s.setClock .idle

/-- What cannot happen, or is blocked, changes nothing. -/
def step (s : Lockstep ι) : LockstepEvent ι → Lockstep ι
  | .call i deadline =>
    match (s.waiters i).pc with
    | .out _ => s.setWaiter i ⟨.enter,(s.waiters i).calls+1,deadline,false⟩
    | _ => s
  | .waiter i => s.waiterStep i
  | .signal i =>
    if (s.waiters i).pc = .asleep then s.setWaiter i {s.waiters i with pc := .woken, signalled := true} else s
  | .setTime time =>
    match s.clock with
    | .idle => if s.timeUs < time then {s with timeUs := time}.setClock .timeSet else s
    | _ => s
  | .clock => s.clockStep

def Quiescent (s : Lockstep ι) : Prop :=
  s.clock = .idle ∧ ∀ i, (∃ timedOut, (s.waiters i).pc = .out timedOut) ∨ (s.waiters i).pc = .asleep

structure Correct (s : Lockstep ι) : Prop where
  /-- after `set_absolute_time` nobody sleeps, or goes to sleep, whose time has come -/
  released : s.clock = .idle → ∀ i, (s.waiters i).pc = .linked ∨ (s.waiters i).pc = .asleep →
    s.timeUs < (s.waiters i).deadline
  /-- nobody is reported as timed out early -/
  inTime : ∀ i, (s.waiters i).pc = .out true → (s.waiters i).deadline ≤ s.timeUs
  /-- who is not reported as timed out was signalled -/
  signalled : ∀ i, (s.waiters i).pc = .out false → 0 < (s.waiters i).calls → (s.waiters i).signalled = true
  /-- the clock uses the mutex and condition of a call only before it returns -/
  inside : ∀ i, s.clock.touched = some i →
    (s.waits i).call = (s.waiters i).calls ∧ ∀ timedOut, (s.waiters i).pc ≠ .out timedOut
  /-- the list ends, has no record twice, and has those not removed -/
  linkedOnce : ∃ nodes, Chain s.next s.timedWaits nodes ∧ nodes.Nodup ∧ ∀ i, i ∈ nodes ↔ (s.waits i).removed = false
  /-- without further calls and signals everything can come to rest -/
  noDeadlock : ∃ events : List (LockstepEvent ι), (∀ e ∈ events, e.isInternal = true) ∧ (events.foldl step s).Quiescent

end Lockstep
end AerialManipulator
