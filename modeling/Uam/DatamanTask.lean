import Uam.Dataman

/-! The data manager's task and its clients, after `dataman.cpp`: a queue of work items, a semaphore
and a flag that ends the task. One step is one access to what is shared. -/
namespace AerialManipulator

inductive DmClientStage
  | idle
  | running
  /-- It found that the task is not to exit. -/
  | admitted
  | created
  | queued
  | waiting
  deriving DecidableEq

structure DmClient where
  stage : DmClientStage
  request : DmOp
  /-- The result in the work item, from when its semaphore is posted. -/
  result : Option DmResult
  returned : Option DmResult
  deriving DecidableEq

inductive DmTaskStage
  /-- Before `do we need to exit ???`. -/
  | top
  | waiting
  | draining
  | serving (client : Nat)
  /-- Before `time to go????`. -/
  | deciding
  | closing
  | ended
  deriving DecidableEq

structure DmTask (σ : Type) where
  running : Bool
  shouldExit : Bool
  /-- The clients whose items are on `g_work_q`, the oldest first. -/
  workQ : List Nat
  /-- The count of `g_work_queued_sema`. -/
  workQueued : Nat
  /-- Calls of `stop` that have set the flag and not yet posted. -/
  stopping : Nat
  stage : DmTaskStage
  client : Nat → DmClient
  store : σ

inductive DmEvent
  | call (client : Nat) (request : DmOp)
  | checkExit (client : Nat)
  | createWorkItem (client : Nat) (allocated : Bool)
  | enqueue (client : Nat)
  | post (client : Nat)
  | takeResult (client : Nat)
  | work
  | stop
  | postStop
  deriving DecidableEq

namespace DmTask
variable {σ : Type}

/-- After `initialize`. The request of a client that has made none is not read. -/
def start (store : σ) : DmTask σ where
  running := true
  shouldExit := false
  workQ := []
  workQueued := 0
  stopping := 0
  stage := .top
  client := fun _ => ⟨.idle,.clear 0,none,none⟩
  store := store

def setClient (s : DmTask σ) (c : Nat) (client : DmClient) : DmTask σ :=
  {s with client := Function.update s.client c client}

section
variable (s : DmTask σ) (c : Nat) (client : DmClient)
include s c client

@[simp] lemma setClient_workQ : (s.setClient c client).workQ = s.workQ := rfl

@[simp] lemma setClient_stage : (s.setClient c client).stage = s.stage := rfl

@[simp] lemma setClient_shouldExit : (s.setClient c client).shouldExit = s.shouldExit := rfl

lemma setClient_client (other : Nat) :
    (s.setClient c client).client other = if other = c then client else s.client other :=
  Function.update_apply s.client c client other

end

def refuse (s : DmTask σ) (c : Nat) : DmTask σ :=
  s.setClient c {s.client c with stage := .idle, returned := some ⟨-1,[]⟩}

def advance (s : DmTask σ) (c : Nat) (stage : DmClientStage) : DmTask σ :=
  s.setClient c {s.client c with stage := stage}

def taskMain (serve : σ → DmOp → DmResult × σ) (s : DmTask σ) : DmTask σ :=
  match s.stage with
  | .top => {s with stage := if s.shouldExit then .draining else .waiting}
  | .waiting =>
    if s.workQueued = 0 then s else {s with workQueued := s.workQueued-1, stage := .draining}
  | .draining => s.workQ.head?.elim {s with stage := .deciding} fun c =>
      {s with workQ := s.workQ.tail, stage := .serving c}
  | .serving c =>
    { s.setClient c { s.client c with result := some (serve s.store (s.client c).request).1 } with
      store := (serve s.store (s.client c).request).2, stage := .draining }
  | .deciding => {s with stage := if s.shouldExit then .closing else .top}
  | .closing => {s with running := false, stage := .ended}
  | .ended => s

def step (serve : σ → DmOp → DmResult × σ) (s : DmTask σ) : DmEvent → DmTask σ
  | .call c request =>
    if (s.client c).stage = .idle then
      if s.running then s.setClient c {s.client c with stage := .running, request := request} else s.refuse c
    else s
  | .checkExit c =>
    if (s.client c).stage = .running then
      if s.shouldExit then s.refuse c else s.advance c .admitted
    else s
  | .createWorkItem c allocated =>
    if (s.client c).stage = .admitted then
      if allocated then s.setClient c {s.client c with stage := .created, result := none} else s.refuse c
    else s
  | .enqueue c =>
    if (s.client c).stage = .created then {s.advance c .queued with workQ := s.workQ ++ [c]} else s
  | .post c =>
    if (s.client c).stage = .queued then {s.advance c .waiting with workQueued := s.workQueued+1} else s
  | .takeResult c =>
    if (s.client c).stage = .waiting ∧ (s.client c).result ≠ none then
      s.setClient c {s.client c with stage := .idle, returned := (s.client c).result}
    else s
  | .work => s.taskMain serve
  | .stop => {s with shouldExit := true, stopping := s.stopping+1}
  | .postStop =>
    if s.stopping = 0 then s else {s with stopping := s.stopping-1, workQueued := s.workQueued+1}

def run (serve : σ → DmOp → DmResult × σ) (store : σ) (events : List DmEvent) : DmTask σ :=
  events.foldl (step serve) (start store)

end DmTask
end AerialManipulator
