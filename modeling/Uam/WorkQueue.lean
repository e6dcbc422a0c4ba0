import Uam.IntrusiveQueue
import Mathlib.Order.Nat

/-! A work queue, after `WorkQueue`: any number of threads add items, one worker runs them. A
section under the lock is one step. The worker sleeps on a counting semaphore, posted only if
its value was not positive. -/
namespace AerialManipulator
open List Runs
open Or (inl inr)

inductive AddPhase
  | idle
  /-- the item is pushed and the lock released -/
  | pushed
  /-- the value of the semaphore was not positive -/
  | posting
  deriving DecidableEq

inductive WorkerPhase (Item : Type)
  | waiting
  /-- about to take the lock and look into the queue -/
  | woken
  | running (item : Item)
  deriving DecidableEq

def WorkerPhase.isRunning {Item : Type} : WorkerPhase Item → Bool
  | .running _ => true
  | _ => false

/-- The threads are `some i`; `none` is the worker, for calls an item makes while it runs. -/
structure WorkQueue (ι Item : Type) where
  q : LinkedQueue Item
  processLock : Nat
  callers : Option ι → AddPhase
  worker : WorkerPhase Item

inductive WorkEvent (ι Item : Type)
  | add (thread : Option ι) (item : Item)
  | getValue (thread : Option ι)
  | post (thread : Option ι)
  | remove (thread : Option ι) (item : Item)
  /-- the next step of the loop in `Run` -/
  | loop

namespace WorkQueue
variable {ι Item : Type} [DecidableEq ι] [DecidableEq Item]

def new : WorkQueue ι Item := ⟨.empty,0,fun _ => .idle,.waiting⟩

def canCall (thread : Option ι) (s : WorkQueue ι Item) : Bool :=
  s.callers thread = .idle && (thread.isSome || s.worker.isRunning)

def setCaller (thread : Option ι) (phase : AddPhase) (s : WorkQueue ι Item) : WorkQueue ι Item :=
  {s with callers := Function.update s.callers thread phase}

/-- One step: the wait, the section in which the next item is popped or the queue found empty, the return of an item. -/
def loop (s : WorkQueue ι Item) : WorkQueue ι Item :=
  match s.worker with
  | .waiting => if 0 < s.processLock then {s with processLock := s.processLock-1, worker := .woken} else s
  | .woken => s.q.pop.1.elim {s with worker := .waiting} fun work =>
    {s with q := s.q.pop.2, worker := .running work}
  | .running _ => if s.callers none = .idle then {s with worker := .woken} else s

/-- An event that cannot happen changes nothing. -/
def step (s : WorkQueue ι Item) : WorkEvent ι Item → WorkQueue ι Item
  | .add thread item => if s.canCall thread then {s with q := s.q.push item}.setCaller thread .pushed else s
  | .getValue thread =>
    if s.callers thread = .pushed then s.setCaller thread (if s.processLock = 0 then .posting else .idle) else s
  | .post thread =>
    if s.callers thread = .posting then {s with processLock := s.processLock+1}.setCaller thread .idle else s
  | .remove thread item => if s.canCall thread then {s with q := s.q.remove item} else s
  | .loop => s.loop

structure Lost (s : WorkQueue ι Item) : Prop where
  queued : s.q.nodes ≠ []
  outside : ∀ thread, s.callers thread = .idle
  waiting : s.worker = .waiting
  zero : s.processLock = 0

/-- The worker takes the item out of the queue. It runs after the lock is released, beyond the reach of `Remove`. -/
def RunsItem (item : Item) (s : WorkQueue ι Item) (e : WorkEvent ι Item) : Prop :=
  s.worker = .woken ∧ (s.step e).worker = .running item

def Removes (item : Item) (s : WorkQueue ι Item) (e : WorkEvent ι Item) : Prop :=
  ∃ thread, e = .remove thread item ∧ s.canCall thread = true

def stateAt (events : Nat → WorkEvent ι Item) : Nat → WorkQueue ι Item := states step new events

/-- The loop is scheduled again and again, and each item's calls return. -/
def KeepsScheduled (events : Nat → WorkEvent ι Item) : Prop :=
  ∀ i, ∃ j, i ≤ j ∧ events j = .loop ∧ (stateAt events j).callers none = .idle

/-- An item that a thread has added, with `Add` returned, is run or removed after that. -/
def EventuallyRun (events : Nat → WorkEvent ι Item) : Prop :=
  ∀ i thread item, events i = .add thread item → (stateAt events i).canCall thread = true →
    ∀ j, i < j → (stateAt events j).callers thread = .idle → ∃ k, i ≤ k ∧ (RunsItem item (stateAt events k) (events k) ∨
        Removes item (stateAt events k) (events k))

def Ready (s : WorkQueue ι Item) : Prop := 0 < s.processLock ∨ s.worker ≠ .waiting

omit [DecidableEq ι] in
lemma loop_cases (s : WorkQueue ι Item) : (s.worker = .waiting ∧ s.processLock = 0 ∧ s.loop = s) ∨
    (s.worker = .waiting ∧ s.loop = {s with processLock := s.processLock-1, worker := .woken}) ∨
    (s.worker = .woken ∧ s.q.nodes = [] ∧ s.loop = {s with worker := .waiting}) ∨
    (∃ item rest, s.worker = .woken ∧ s.q.nodes = item::rest ∧
      s.loop = {s with q := s.q.pop.2, worker := .running item}) ∨
    (∃ item, s.worker = .running item ∧
      s.loop = if s.callers none = .idle then {s with worker := .woken} else s) := by
  cases phase : s.worker with
  | waiting =>
    by_cases positive : 0 < s.processLock
    · exact inr (inl ⟨rfl,by simp only [loop,phase,if_pos positive]⟩)
    · exact inl ⟨rfl,Nat.eq_zero_of_not_pos positive,by simp only [loop,phase,if_neg positive]⟩
  | woken =>
    have popped := s.q.pop_fst
    cases nodes : s.q.nodes with
    | nil =>
      rw [nodes] at popped
      exact inr (inr (inl ⟨rfl,rfl,by simp only [loop,phase,popped,head?_nil,Option.elim]⟩))
    | cons item rest =>
      rw [nodes] at popped
      refine inr (inr (inr (inl ⟨item,rest,rfl,rfl,?_⟩)))
      simp only [loop,phase,popped,head?_cons,Option.elim]
  | running item => exact inr (inr (inr (inr ⟨item,rfl,by simp only [loop,phase]⟩)))

inductive Moves (s : WorkQueue ι Item) : WorkEvent ι Item → WorkQueue ι Item → Prop
  | stuck (e : WorkEvent ι Item) : Moves s e s
  | add {thread : Option ι} {item : Item} (allowed : s.canCall thread = true) :
    Moves s (.add thread item) ({s with q := s.q.push item}.setCaller thread .pushed)
  | find {thread : Option ι} (zero : s.processLock = 0) : Moves s (.getValue thread) (s.setCaller thread .posting)
  | skip {thread : Option ι} (positive : 0 < s.processLock) : Moves s (.getValue thread) (s.setCaller thread .idle)
  | post {thread : Option ι} :
    Moves s (.post thread) ({s with processLock := s.processLock+1}.setCaller thread .idle)
  | remove {thread : Option ι} {item : Item} (allowed : s.canCall thread = true) :
    Moves s (.remove thread item) {s with q := s.q.remove item}
  | loop : Moves s .loop s.loop

lemma moves (s : WorkQueue ι Item) (e : WorkEvent ι Item) : s.Moves e (s.step e) := by
  cases e with
  | add thread item =>
    rw [step]
    split
    next allowed => exact .add allowed
    · exact .stuck _
  | getValue thread =>
    rw [step]
    split
    · split
      next zero => exact .find zero
      next positive => exact .skip (Nat.pos_of_ne_zero positive)
    · exact .stuck _
  | post thread =>
    rw [step]
    split
    · exact .post
    · exact .stuck _
  | remove thread item =>
    rw [step]
    split
    next allowed => exact .remove allowed
    · exact .stuck _
  | loop => exact .loop

variable {s : WorkQueue ι Item} {item : Item}

omit [DecidableEq ι] in
lemma Ready.loop (ready : s.Ready) (queued : s.q.nodes ≠ []) : s.loop.Ready := by
  rcases s.loop_cases with ⟨_,_,same⟩ | ⟨_,same⟩ | ⟨_,none,_⟩ | ⟨item,rest,_,_,same⟩ | ⟨item,phase,same⟩
  · rwa [same]
  · rw [same]
    exact inr (by simp)
  · exact absurd none queued
  · rw [same]
    exact inr (by simp)
  · rw [same]
    split
    · exact inr (by simp)
    · exact ready

lemma Ready.step (ready : s.Ready) (queued : s.q.nodes ≠ []) (e : WorkEvent ι Item) : (s.step e).Ready := by
  have move := s.moves e
  generalize s.step e = t at move ⊢
  cases move with
  | stuck | add | find | skip | remove => exact ready
  | post => exact inl (Nat.succ_pos _)
  | loop => exact ready.loop queued

omit [DecidableEq ι] in
lemma callers_loop (s : WorkQueue ι Item) : s.loop.callers = s.callers := by
  rcases s.loop_cases with ⟨_,_,same⟩ | ⟨_,same⟩ | ⟨_,_,same⟩ | ⟨item,rest,_,_,same⟩ | ⟨item,_,same⟩
  · rw [same]
  · rw [same]
  · rw [same]
  · rw [same]
  · rw [same]
    split <;> rfl

omit [DecidableEq Item] in
lemma callers_setCaller (s : WorkQueue ι Item) (thread : Option ι) (phase : AddPhase) :
    (s.setCaller thread phase).callers thread = phase := Function.update_self ..

omit [DecidableEq Item] in
lemma inside_setCaller (inside : s.callers thread ≠ .idle) (other : Option ι) (busy : phase ≠ .idle) :
    (s.setCaller other phase).callers thread ≠ .idle := by
  by_cases same : thread = other
  · rwa [same,callers_setCaller]
  · change Function.update s.callers other phase thread ≠ .idle
    rwa [Function.update_of_ne same]

lemma inside_or_ready (inside : s.callers thread ≠ .idle)
    (e : WorkEvent ι Item) : (s.step e).callers thread ≠ .idle ∨ (s.step e).Ready := by
  have move := s.moves e
  generalize s.step e = t at move ⊢
  cases move with
  | stuck => exact inl inside
  | @add other item _ => exact inl (inside_setCaller inside other (by decide))
  | @find other _ => exact inl (inside_setCaller inside other (by decide))
  | skip positive => exact inr (inl positive)
  | post => exact inr (inl (Nat.succ_pos _))
  | remove => exact inl inside
  | loop =>
    rw [callers_loop]
    exact inl inside

omit [DecidableEq ι] in
lemma nodes_loop_of_empty (empty : s.q.nodes = []) : s.loop.q.nodes = [] := by
  rcases s.loop_cases with ⟨_,_,same⟩ | ⟨_,same⟩ | ⟨_,_,same⟩ | ⟨item,rest,_,some,_⟩ | ⟨item,_,same⟩
  · rwa [same]
  · rwa [same]
  · rwa [same]
  · exact absurd (empty.symm.trans some) (cons_ne_nil _ _).symm
  · rw [same]
    split <;> exact empty

lemma inside_of_filled (empty : s.q.nodes = [])
    (filled : (s.step e).q.nodes ≠ []) : ∃ thread, (s.step e).callers thread ≠ .idle := by
  have move := s.moves e
  generalize s.step e = t at move filled ⊢
  cases move with
  | @add thread item _ =>
    refine ⟨thread,?_⟩
    rw [callers_setCaller]
    decide
  | @remove thread item _ =>
    refine absurd ?_ filled
    change s.q.nodes.erase item = []
    rw [empty]
    rfl
  | loop => exact absurd (nodes_loop_of_empty empty) filled
  | stuck => exact absurd empty filled
  | find => exact absurd empty filled
  | skip => exact absurd empty filled
  | post => exact absurd empty filled

def Attended (s : WorkQueue ι Item) : Prop :=
  s.q.nodes ≠ [] → s.Ready ∨ ∃ thread, s.callers thread ≠ .idle

lemma Attended.step (attended : s.Attended) (e : WorkEvent ι Item) : (s.step e).Attended := by
  intro filled
  by_cases empty : s.q.nodes = []
  · exact inr (inside_of_filled empty filled)
  rcases attended empty with ready | ⟨thread,inside⟩
  · exact inl (ready.step empty e)
  · rcases inside_or_ready inside e with still | ready
    · exact inr ⟨thread,still⟩
    · exact inl ready

lemma not_lost (events : List (WorkEvent ι Item)) : ¬(events.foldl step new).Lost := by
  have attended : (events.foldl step (new : WorkQueue ι Item)).Attended :=
    foldl_preserved Attended (fun _ e holds => holds.step e) (fun filled => absurd rfl filled) events
  intro lost
  rcases attended lost.queued with (positive | awake) | ⟨thread,inside⟩
  · exact absurd lost.zero (Nat.pos_iff_ne_zero.mp positive)
  · exact awake lost.waiting
  · exact inside (lost.outside thread)

def rank (item : Item) (s : WorkQueue ι Item) : Nat :=
  2 * s.q.nodes.idxOf item + if s.worker = .woken then 0 else 1

lemma idxOf_erase_le (distinct : other ≠ item) (nodes : List Item) :
    (nodes.erase other).idxOf item ≤ nodes.idxOf item := by
  induction nodes with
  | nil => exact Nat.le_refl _
  | cons x rest ih =>
    by_cases here : x = other
    · rw [here,erase_cons_head,idxOf_cons_ne _ distinct]
      exact Nat.le_succ _
    rw [erase_cons_tail (by simpa using here)]
    by_cases found : x = item
    · rw [found,idxOf_cons_self]
      exact Nat.zero_le _
    · rw [idxOf_cons_ne _ found,idxOf_cons_ne _ found]
      exact Nat.succ_le_succ ih

lemma rank_loop (queued : item ∈ s.q.nodes) (other : ¬RunsItem item s .loop) :
    item ∈ s.loop.q.nodes ∧ s.loop.rank item ≤ s.rank item ∧
      (s.callers none = .idle → s.Ready → s.loop.rank item < s.rank item) := by
  rcases s.loop_cases with ⟨phase,zero,same⟩ | ⟨phase,same⟩ | ⟨_,none,_⟩ | ⟨first,rest,phase,nodes,same⟩ |
    ⟨first,phase,same⟩
  · rw [same]
    refine ⟨queued,le_rfl,fun _ ready => ?_⟩
    rcases ready with positive | awake
    · exact absurd zero (Nat.pos_iff_ne_zero.mp positive)
    · exact absurd phase awake
  · have closer : s.loop.rank item < s.rank item := by
      rw [same]
      simp [rank,phase]
    refine ⟨?_,closer.le,fun _ _ => closer⟩
    rwa [same]
  · rw [none] at queued
    exact absurd queued not_mem_nil
  · have distinct : first ≠ item := by
      intro found
      refine other ⟨phase,?_⟩
      rw [step,same,found]
    have popped : s.q.pop.2.nodes = rest := by
      change s.q.nodes.tail = rest
      rw [nodes,tail_cons]
    have closer : s.loop.rank item < s.rank item := by
      rw [same]
      simp only [rank,phase,popped,nodes,idxOf_cons_ne _ distinct,reduceCtorEq,if_false,if_true]
      omega
    refine ⟨?_,closer.le,fun _ _ => closer⟩
    rw [same]
    rw [popped]
    rw [nodes] at queued
    exact (mem_cons.mp queued).resolve_left distinct.symm
  · by_cases outside : s.callers none = .idle
    · rw [if_pos outside] at same
      have closer : s.loop.rank item < s.rank item := by
        rw [same]
        simp [rank,phase]
      refine ⟨?_,closer.le,fun _ _ => closer⟩
      rwa [same]
    · rw [same,if_neg outside]
      exact ⟨queued,le_rfl,fun idle => absurd idle outside⟩

lemma rank_step (queued : item ∈ s.q.nodes) (other : ¬(RunsItem item s e ∨ Removes item s e)) :
    item ∈ (s.step e).q.nodes ∧ (s.step e).rank item ≤ s.rank item := by
  have move := s.moves e
  generalize s.step e = t at move ⊢
  cases move with
  | stuck => exact ⟨queued,le_rfl⟩
  | @add thread new _ =>
    have nodes : (s.q.push new).nodes = if new ∈ s.q.nodes then s.q.nodes else s.q.nodes ++ [new] := rfl
    have kept : item ∈ (s.q.push new).nodes ∧ (s.q.push new).nodes.idxOf item = s.q.nodes.idxOf item := by
      rw [nodes]
      split
      · exact ⟨queued,rfl⟩
      · exact ⟨mem_append_left _ queued,idxOf_append_of_mem queued⟩
    refine ⟨kept.1,?_⟩
    simp only [rank,setCaller,kept.2]
    exact Nat.le_refl _
  | find => exact ⟨queued,le_rfl⟩
  | skip => exact ⟨queued,le_rfl⟩
  | post => exact ⟨queued,le_rfl⟩
  | @remove thread old allowed =>
    have distinct : old ≠ item := fun same => other (inr ⟨thread,congrArg _ same,allowed⟩)
    have closer := idxOf_erase_le distinct s.q.nodes
    refine ⟨(mem_erase_of_ne distinct.symm).mpr queued,?_⟩
    have nodes : (s.q.remove old).nodes = s.q.nodes.erase old := rfl
    simp only [rank,nodes]
    omega
  | loop =>
    obtain ⟨still,closer,_⟩ := rank_loop queued fun run => other (inl run)
    exact ⟨still,closer⟩

lemma stateAt_succ (events : Nat → WorkEvent ι Item) (k : Nat) :
    stateAt events (k+1) = (stateAt events k).step (events k) := rfl

lemma eventuallyRun_of_keepsScheduled {events : Nat → WorkEvent ι Item} (fair : KeepsScheduled events) :
    EventuallyRun events := by
  intro i thread item added allowed j later outside
  by_contra never
  simp only [not_exists,not_and] at never
  have pushed : stateAt events (i+1) =
      {stateAt events i with q := (stateAt events i).q.push item}.setCaller thread .pushed := by
    rw [stateAt_succ,added,step,if_pos allowed]
  have queued (k : Nat) (after : i < k) : item ∈ (stateAt events k).q.nodes := by
    induction k,after using Nat.le_induction with
    | base =>
      rw [pushed]
      change item ∈ if item ∈ (stateAt events i).q.nodes then _ else _
      split
      next already => exact already
      · exact mem_append_right _ mem_cons_self
    | succ k after ih => exact (rank_step ih (never k (Nat.le_of_lt after))).1
  -- until `Add` has returned the thread is inside of it, and then the worker is ready
  have side (k : Nat) (after : i < k) : (stateAt events k).callers thread ≠ .idle ∨ (stateAt events k).Ready := by
    induction k,after using Nat.le_induction with
    | base =>
      rw [pushed,callers_setCaller]
      exact inl (by decide)
    | succ k after ih =>
      rcases ih with inside | ready
      · exact inside_or_ready inside _
      · exact inr (ready.step (ne_nil_of_mem (queued k after)) _)
  have ready (k : Nat) (after : j ≤ k) : (stateAt events k).Ready := by
    induction k,after using Nat.le_induction with
    | base => exact (side j later).resolve_left fun inside => inside outside
    | succ k after ih => exact ih.step (ne_nil_of_mem (queued k (lt_of_lt_of_le later after))) _
  have closer (k : Nat) (after : j ≤ k) : ∃ l, k ≤ l ∧ ((RunsItem item (stateAt events l) (events l) ∨
        Removes item (stateAt events l) (events l)) ∨
      (stateAt events (l+1)).rank item < (stateAt events l).rank item) := by
    obtain ⟨l,since,looped,idle⟩ := fair k
    have waits := queued l (lt_of_lt_of_le later (after.trans since))
    refine ⟨l,since,inr ?_⟩
    have other := never l (later.le.trans (after.trans since))
    rw [looped] at other
    rw [stateAt_succ,looped]
    exact (rank_loop waits fun run => other (inl run)).2.2 idle (ready l (after.trans since))
  obtain ⟨k,after,served⟩ := eventually_of_rank
    (fun k => RunsItem item (stateAt events k) (events k) ∨ Removes item (stateAt events k) (events k))
    (fun k => (stateAt events k).rank item)
    (fun k after away => (rank_step (queued k (lt_of_lt_of_le later after)) away).2) closer
  exact never k (later.le.trans after) served

/-- No wake-up is lost, and if the loop keeps being scheduled every item added is run or removed. -/
theorem no_lost_wakeUp : (∀ events : List (WorkEvent ι Item), ¬ (events.foldl step new).Lost) ∧
      ∀ events : Nat → WorkEvent ι Item, KeepsScheduled events → EventuallyRun events :=
  ⟨not_lost,fun _ => eventuallyRun_of_keepsScheduled⟩

def addedOnce : Nat → WorkEvent Unit Unit
  | 0 => .add (some ()) ()
  | 1 => .getValue (some ())
  | 2 => .post (some ())
  | _ => .loop

theorem no_lost_wakeUp_addedOnce : KeepsScheduled addedOnce ∧ ∃ k, RunsItem () (stateAt addedOnce k) (addedOnce k) := by
  have idle (k : Nat) : (stateAt addedOnce (k+3)).callers none = .idle := by
    induction k with
    | zero => rfl
    | succ k ih => exact (congrFun (callers_loop _) none).trans ih
  have fair : KeepsScheduled addedOnce := by
    intro i
    exact ⟨i+3,Nat.le_add_right i 3,rfl,idle i⟩
  refine ⟨fair,?_⟩
  obtain ⟨k,_,run | ⟨thread,removed,_⟩⟩ := no_lost_wakeUp.2 addedOnce fair 0 (some ()) () rfl rfl 3 (by decide) rfl
  · exact ⟨k,run⟩
  · rcases k with _ | _ | _ | k
    all_goals cases removed

/-- An item that the worker takes was added since it was last taken or removed. -/
def OncePerAdd (events : Nat → WorkEvent ι Item) : Prop :=
  ∀ j item, RunsItem item (stateAt events j) (events j) → ∃ i < j,
    (∃ thread, events i = .add thread item ∧ (stateAt events i).canCall thread = true) ∧ ∀ k, i < k → k < j →
      ¬(RunsItem item (stateAt events k) (events k) ∨ Removes item (stateAt events k) (events k))

omit [DecidableEq ι] in
lemma loop_nodes (s : WorkQueue ι Item) : s.loop.q.nodes = s.q.nodes ∧ (s.worker = .woken → s.loop.worker = .waiting) ∨
    ∃ item, s.q.nodes = item::s.loop.q.nodes ∧ s.loop.worker = .running item := by
  rcases s.loop_cases with ⟨phase,_,same⟩ | ⟨phase,same⟩ | ⟨_,_,same⟩ | ⟨first,rest,_,nodes,same⟩ | ⟨_,phase,same⟩
  all_goals rw [same]
  · simp [phase]
  · simp [phase]
  · simp
  · exact inr ⟨first,nodes.trans (congrArg (first :: ·) (congrArg tail nodes).symm),rfl⟩
  · split <;> simp [phase]

lemma queued_step (queued : item ∈ (s.step e).q.nodes) :
    (∃ thread, e = .add thread item ∧ s.canCall thread = true) ∨ item ∈ s.q.nodes := by
  have move := s.moves e
  generalize s.step e = t at move queued
  cases move with
  | stuck | find | skip | post => exact inr queued
  | @add thread new allowed =>
    change item ∈ if new ∈ s.q.nodes then _ else _ at queued
    grind
  | remove => exact inr (mem_of_mem_erase queued)
  | loop =>
    rcases s.loop_nodes with ⟨same,_⟩ | ⟨first,nodes,_⟩
    · exact inr (same ▸ queued)
    · exact inr (nodes ▸ mem_cons_of_mem first queued)

lemma queued_of_runsItem (run : RunsItem item s e) : item ∈ s.q.nodes ∧ item ∉ (s.step e).q.nodes := by
  obtain ⟨awake,run⟩ := run
  have move := s.moves e
  generalize s.step e = t at move run ⊢
  cases move with
  | loop =>
    rcases s.loop_nodes with ⟨_,sleeps⟩ | ⟨first,nodes,runs⟩
    · cases (sleeps awake).symm.trans run
    · cases runs.symm.trans run
      exact ⟨nodes ▸ mem_cons_self,(nodup_cons.mp (nodes ▸ s.q.holds.chain.nodup)).1⟩
  | stuck | add | find | skip | post | remove => cases awake.symm.trans run

/-- No item is taken out of the queue twice for one call of `Add`, nor after it was removed. -/
theorem oncePerAdd (events : Nat → WorkEvent ι Item) : OncePerAdd events := by
  intro j item run
  have queued := (queued_of_runsItem run).1
  clear run
  -- the last call that has put the item into the queue
  induction j with
  | zero => cases queued
  | succ j ih =>
    rcases queued_step queued with added | before
    · exact ⟨j,j.lt_succ_self,added,fun k after before => absurd before (by omega)⟩
    obtain ⟨i,earlier,added,since⟩ := ih before
    refine ⟨i,earlier.trans j.lt_succ_self,added,fun k after before gone => ?_⟩
    rcases Nat.lt_succ_iff_lt_or_eq.mp before with before | rfl
    · exact since k after before gone
    rcases gone with run | ⟨thread,removed,allowed⟩
    · exact (queued_of_runsItem run).2 queued
    · rw [stateAt_succ,removed,step,if_pos allowed] at queued
      exact (stateAt events k).q.holds.chain.nodup.not_mem_erase queued

end WorkQueue
end AerialManipulator
