import Uam.Library.Linked
import Uam.Library.Runs

/-! The queue linked through its own nodes, after `IntrusiveQueue`. Whether a node is queued is
read off its link and the tail. -/
namespace AerialManipulator
open Linked Function List

structure IntrusiveQueue (T : Type) where
  head : Option T
  tail : Option T
  next : T → Option T

inductive QueueCall (T : Type) where
  | push (newNode : T)
  | pop
  | remove (removeNode : T)

namespace IntrusiveQueue
variable {T : Type} [DecidableEq T]

def empty : IntrusiveQueue T := ⟨none,none,fun _ => none⟩

def push (newNode : T) (q : IntrusiveQueue T) : IntrusiveQueue T :=
  -- already queued
  if q.next newNode ≠ none ∨ q.tail = some newNode then q
  else
    ⟨if q.head = none then some newNode else q.head,some newNode,
      q.tail.elim q.next fun tail => Function.update q.next tail (some newNode)⟩

def pop (q : IntrusiveQueue T) : Option T × IntrusiveQueue T :=
  q.head.elim (none,q) fun ret =>
    (some ret,⟨if q.head ≠ q.tail then q.next ret else none,if q.head ≠ q.tail then q.tail else none,
      Function.update q.next ret none⟩)

/-- `none` if the loop passes more than so many nodes. -/
def remove (fuel : Nat) (removeNode : T) (q : IntrusiveQueue T) : Option (Bool × IntrusiveQueue T) :=
  if q.head = some removeNode then
    if q.next removeNode ≠ none then
      some (true,⟨q.next removeNode,q.tail,Function.update q.next removeNode none⟩)
    else some (true,⟨none,none,q.next⟩)
  else (walk q.next (fun node => q.next node = some removeNode) fuel q.head).map fun found =>
    found.elim (false,q) fun node =>
      (true,⟨q.head,if q.tail = some removeNode then some node else q.tail,
        Function.update (Function.update q.next node (q.next removeNode)) removeNode none⟩)

def call (fuel : Nat) (q : IntrusiveQueue T) : QueueCall T → Option (IntrusiveQueue T)
  | .push newNode => some (q.push newNode)
  | .pop => some q.pop.2
  | .remove removeNode => (q.remove fuel removeNode).map Prod.snd

def run (fuel : Nat) (calls : List (QueueCall T)) : Option (IntrusiveQueue T) :=
  calls.foldl (fun q c => q.bind (call fuel · c)) (some empty)

/-- A queue as a list without duplicates. -/
def called (nodes : List T) : QueueCall T → List T
  | .push x => if x ∈ nodes then nodes else nodes ++ [x]
  | .pop => nodes.tail
  | .remove x => nodes.erase x

structure Holds (q : IntrusiveQueue T) (nodes : List T) : Prop where
  chain : Chain q.next q.head nodes
  tail : q.tail = nodes.getLast?
  clear : ∀ x, x ∉ nodes → q.next x = none

variable {q : IntrusiveQueue T} {nodes : List T}

omit [DecidableEq T] in
lemma Holds.queued_iff (holds : q.Holds nodes) (x : T) : q.next x ≠ none ∨ q.tail = some x ↔ x ∈ nodes := by
  constructor
  · intro queued
    rcases queued with linked | last
    · exact not_not.mp fun other => linked (holds.clear x other)
    · rw [holds.tail] at last
      exact mem_of_getLast? last
  · intro member
    obtain ⟨before,after,rfl⟩ := append_of_mem member
    rw [holds.chain.link_eq,holds.tail]
    cases after with
    | nil => exact Or.inr (getLast?_concat)
    | cons y rest => exact Or.inl (by simp)

lemma Holds.push (holds : q.Holds nodes) (x : T) : (q.push x).Holds (if x ∈ nodes then nodes else nodes ++ [x]) := by
  rw [IntrusiveQueue.push]
  by_cases member : x ∈ nodes
  · rw [if_pos ((holds.queued_iff x).mpr member),if_pos member]
    exact holds
  rw [if_neg fun queued => member ((holds.queued_iff x).mp queued),if_neg member]
  have unlinked := holds.clear x member
  rcases eq_nil_or_concat' nodes with rfl | ⟨init,last,rfl⟩
  · have first : q.head = none := holds.chain
    have none : q.tail = none := holds.tail
    rw [first,none,if_pos rfl]
    refine ⟨⟨rfl,unlinked⟩,rfl,fun y _ => holds.clear y not_mem_nil⟩
  · have some_ : q.head ≠ none := by
      rw [holds.chain.head_eq]
      simp
    have ended : q.tail = some last := holds.tail.trans (getLast?_concat)
    have ends : q.next last = none := holds.chain.link_eq
    have inserted : Chain (update (update q.next x (q.next last)) last (some x)) q.head
        (init ++ [last,x]) := holds.chain.insert member
    have same : update q.next x (q.next last) = q.next := update_eq_self_iff.mpr (ends.trans unlinked.symm)
    rw [same] at inserted
    rw [if_neg some_,ended,append_assoc]
    refine ⟨inserted,?_,fun y other => ?_⟩
    · rw [← append_assoc,getLast?_concat]
    · have outside : y ∉ init ++ [last] := fun inside => other (append_assoc _ _ _ ▸ mem_append_left _ inside)
      have distinct : y ≠ last := fun same => outside (same ▸ mem_append_right _ mem_cons_self)
      exact (update_of_ne distinct _ _).trans (holds.clear y outside)

lemma Holds.pop (holds : q.Holds nodes) : q.pop.1 = nodes.head? ∧ q.pop.2.Holds nodes.tail := by
  rw [IntrusiveQueue.pop]
  cases nodes with
  | nil =>
    rw [show q.head = none from holds.chain]
    exact ⟨rfl,holds⟩
  | cons x rest =>
    obtain ⟨onward,clear⟩ := holds.chain.unlink_first holds.clear
    rw [holds.chain.1]
    refine ⟨rfl,?_⟩
    dsimp only [Option.elim]
    rcases eq_nil_or_concat' rest with rfl | ⟨init,last,rfl⟩
    · have ended : q.tail = some x := holds.tail
      rw [ended,if_neg (fun differ => differ rfl),if_neg (fun differ => differ rfl)]
      exact ⟨rfl,rfl,clear⟩
    · have ended : q.tail = some last := by
        rw [holds.tail,← cons_append]
        exact getLast?_concat
      have differ : some x ≠ q.tail := by
        rw [ended]
        intro same
        exact (nodup_cons.mp holds.chain.nodup).1 (Option.some.inj same ▸ mem_append_right _ mem_cons_self)
      rw [if_pos differ,if_pos differ]
      exact ⟨onward,ended.trans getLast?_concat.symm,clear⟩

lemma Holds.remove (holds : q.Holds nodes) (x : T) (enough : nodes.length < fuel) :
    ∃ q', q.remove fuel x = some (decide (x ∈ nodes),q') ∧ q'.Holds (nodes.erase x) := by
  rw [IntrusiveQueue.remove]
  by_cases first : q.head = some x
  · rw [if_pos first]
    rw [holds.chain.head_eq] at first
    obtain ⟨rest,rfl⟩ := head?_eq_some_iff.mp first
    have next : q.next x = rest.head? := holds.chain.2.head_eq
    obtain ⟨onward,clear⟩ := holds.chain.unlink_first holds.clear
    rw [erase_cons_head,decide_eq_true mem_cons_self]
    cases rest with
    | nil =>
      rw [if_neg (fun some => some next)]
      have same : update q.next x none = q.next := update_eq_self_iff.mpr next.symm
      exact ⟨_,rfl,rfl,rfl,same ▸ clear⟩
    | cons y others =>
      rw [if_pos (by simp [next])]
      exact ⟨_,rfl,onward,holds.tail.trans getLast?_cons_cons,clear⟩
  · rw [if_neg first,holds.chain.walk_eq _ enough]
    rcases holds.chain.find_before first with ⟨absent,found⟩ | ⟨before,node,after,rfl,found⟩
    · rw [found,erase_of_not_mem absent,decide_eq_false absent]
      exact ⟨q,rfl,holds⟩
    obtain ⟨left,gone⟩ := holds.chain.erase_eq
    rw [found,left,decide_eq_true (by simp)]
    obtain ⟨onward,clear⟩ := holds.chain.unlink holds.clear
    refine ⟨_,rfl,onward,?_,clear⟩
    rw [holds.tail]
    cases after with
    | nil => simp
    | cons y others =>
      have same : (before ++ node::x::y::others).getLast? = (before ++ node::y::others).getLast? := by simp
      rw [same,if_neg]
      intro last
      exact gone (mem_of_getLast? last)

lemma Holds.call (holds : q.Holds nodes) (enough : nodes.length < fuel) (c : QueueCall T) :
    (∃ q', q.call fuel c = some q' ∧ q'.Holds (called nodes c)) ∧ (called nodes c).length ≤ nodes.length+1 := by
  cases c with
  | push x =>
    refine ⟨⟨_,rfl,holds.push x⟩,?_⟩
    rw [called]
    split
    · exact Nat.le_succ _
    · simp
  | pop => exact ⟨⟨_,rfl,holds.pop.2⟩,by rw [called,length_tail]; omega⟩
  | remove x =>
    obtain ⟨next,removed,left⟩ := holds.remove x enough
    exact ⟨⟨next,by rw [IntrusiveQueue.call,removed]; rfl,left⟩,Nat.le_succ_of_le length_erase_le⟩

lemma holds_run (fuel : Nat) (calls : List (QueueCall T)) : calls.length ≤ fuel →
    (∃ q, run fuel calls = some q ∧ q.Holds (calls.foldl called [])) ∧
      (calls.foldl called []).length ≤ calls.length := by
  refine Runs.foldl_history (fun calls (q : Option (IntrusiveQueue T)) => calls.length ≤ fuel →
    (∃ p, q = some p ∧ p.Holds (calls.foldl called [])) ∧ (calls.foldl called []).length ≤ calls.length) ?_ ?_ calls
  · exact fun _ => ⟨⟨empty,rfl,rfl,rfl,fun _ _ => rfl⟩,Nat.le_refl _⟩
  · intro before c earlier room
    rw [length_append,length_singleton] at room ⊢
    obtain ⟨⟨q,ran,holds⟩,short⟩ := earlier (Nat.le_of_succ_le room)
    obtain ⟨next,longer⟩ := holds.call (Nat.lt_of_le_of_lt short room) c
    rw [ran,foldl_append,Option.bind_some]
    exact ⟨next,Nat.le_trans longer (Nat.succ_le_succ short)⟩

/-- In every run the queue is the list that the calls make, and reports what is in it. -/
theorem queue_of_calls (calls : List (QueueCall T)) : ∃ fuel q, run fuel calls = some q ∧
    q.Holds (calls.foldl called []) ∧ (calls.foldl called []).Nodup ∧ q.pop.1 = (calls.foldl called []).head? ∧
      ∀ x, ∃ q', q.remove fuel x = some (decide (x ∈ calls.foldl called []),q') := by
  obtain ⟨⟨q,ran,holds⟩,short⟩ := holds_run (calls.length+1) calls (Nat.le_succ _)
  refine ⟨_,q,ran,holds,holds.chain.nodup,holds.pop.1,fun x => ?_⟩
  obtain ⟨next,removed,_⟩ := holds.remove x (Nat.lt_succ_of_le short)
  exact ⟨next,removed⟩

end IntrusiveQueue

structure LinkedQueue (T : Type) where
  queue : IntrusiveQueue T
  nodes : List T
  holds : queue.Holds nodes

namespace LinkedQueue
variable {T : Type} [DecidableEq T]

def empty : LinkedQueue T := ⟨.empty,[],⟨rfl,rfl,fun _ _ => rfl⟩⟩

def push (x : T) (q : LinkedQueue T) : LinkedQueue T :=
  ⟨q.queue.push x,if x ∈ q.nodes then q.nodes else q.nodes ++ [x],q.holds.push x⟩

lemma holds_pop (q : LinkedQueue T) : q.queue.pop.2.Holds q.nodes.tail := q.holds.pop.2

def pop (q : LinkedQueue T) : Option T × LinkedQueue T := (q.queue.pop.1,⟨q.queue.pop.2,q.nodes.tail,q.holds_pop⟩)

lemma pop_fst (q : LinkedQueue T) : q.pop.1 = q.nodes.head? := q.holds.pop.1

lemma removed_isSome (q : LinkedQueue T) (x : T) : (q.queue.remove (q.nodes.length+1) x).isSome := by
  obtain ⟨next,found,_⟩ := q.holds.remove x (Nat.lt_succ_self _)
  rw [found]
  rfl

def remove (x : T) (q : LinkedQueue T) : LinkedQueue T where
  queue := ((q.queue.remove (q.nodes.length+1) x).get (q.removed_isSome x)).2
  nodes := q.nodes.erase x
  holds := by
    obtain ⟨next,found,holds⟩ := q.holds.remove x (Nat.lt_succ_self _)
    simpa only [found,Option.get_some] using holds

end LinkedQueue
end AerialManipulator
