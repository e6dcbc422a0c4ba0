import Uam.Library.Linked
import Uam.Library.Runs

/-! The list linked through its own nodes and sorted on insertion, after `IntrusiveSortedList`. A
node that goes last keeps its link. -/
namespace AerialManipulator
open Linked Function List

structure IntrusiveSortedList (T : Type) where
  head : Option T
  sibling : T → Option T

inductive SortedListCall (T : Type) where
  | add (newNode : T)
  /-- possibly of a null pointer -/
  | remove (removeNode : Option T)

def SortedListCall.keeps {T : Type} [DecidableEq T] (x : T) (here : Bool) : SortedListCall T → Bool
  | .add newNode => here || newNode = x
  | .remove removeNode => here && removeNode ≠ some x

namespace IntrusiveSortedList
variable {T : Type} [DecidableEq T] (le : T → T → Prop) [DecidableRel le]

def empty : IntrusiveSortedList T := ⟨none,fun _ => none⟩

/-- `none` if the loop passes more than so many nodes. -/
def add (fuel : Nat) (newNode : T) (l : IntrusiveSortedList T) : Option (IntrusiveSortedList T) :=
  l.head.elim (some ⟨some newNode,l.sibling⟩) fun head =>
    if le newNode head then some ⟨some newNode,update l.sibling newNode (some head)⟩
    else (walk l.sibling (fun node => (l.sibling node).all fun next => le newNode next) fuel l.head).map fun found =>
      found.elim l fun node =>
        ⟨l.head,(l.sibling node).elim (update l.sibling node (some newNode)) fun next =>
          update (update l.sibling newNode (some next)) node (some newNode)⟩

def remove (fuel : Nat) (removeNode : Option T) (l : IntrusiveSortedList T) : Option (Bool × IntrusiveSortedList T) :=
  removeNode.elim (some (false,l)) fun removeNode =>
    if l.head = some removeNode then some (true,⟨l.sibling removeNode,update l.sibling removeNode none⟩)
    else (walk l.sibling (fun node => l.sibling node = some removeNode) fuel l.head).map fun found =>
      found.elim (false,l) fun node =>
        (true,⟨l.head,update (update l.sibling node (l.sibling removeNode)) removeNode none⟩)

def call (fuel : Nat) (l : IntrusiveSortedList T) : SortedListCall T → Option (IntrusiveSortedList T)
  | .add newNode => l.add le fuel newNode
  | .remove removeNode => (l.remove fuel removeNode).map Prod.snd

def run (fuel : Nat) (calls : List (SortedListCall T)) : Option (IntrusiveSortedList T) :=
  calls.foldl (fun l c => l.bind (call le fuel · c)) (some empty)

def present (x : T) (calls : List (SortedListCall T)) : Bool := calls.foldl (SortedListCall.keeps x) false

structure Holds (l : IntrusiveSortedList T) (nodes : List T) : Prop where
  chain : Chain l.sibling l.head nodes
  clear : ∀ x, x ∉ nodes → l.sibling x = none

variable {l : IntrusiveSortedList T} {nodes : List T} {x : T}

lemma Holds.add (holds : l.Holds nodes) (fresh : x ∉ nodes) (enough : nodes.length < fuel) :
    ∃ l', l.add le fuel x = some l' ∧ l'.Holds (nodes.orderedInsert le x) := by
  have unlinked := holds.clear x fresh
  rw [IntrusiveSortedList.add]
  cases nodes with
  | nil =>
    rw [show l.head = none from holds.chain]
    exact ⟨_,rfl,⟨rfl,unlinked⟩,fun y _ => holds.clear y not_mem_nil⟩
  | cons first rest =>
    rw [holds.chain.1,Option.elim_some]
    split
    next sooner =>
      rw [orderedInsert_cons,if_pos sooner]
      refine ⟨_,rfl,⟨rfl,?_⟩,fun y outside => ?_⟩
      · dsimp only
        rw [update_self]
        exact holds.chain.1 ▸ holds.chain.update_of_notMem fresh _
      · rw [mem_cons,not_or] at outside
        exact (update_of_ne outside.1 _ _).trans (holds.clear y outside.2)
    next late =>
      obtain ⟨before,node,after,split,found,inserted⟩ := Chain.exists_place le (holds.chain.1 ▸ holds.chain) late
      rw [← holds.chain.1,holds.chain.walk_eq _ enough,found,inserted]
      rw [split] at holds fresh
      have linked : (l.sibling node).elim (update l.sibling node (some x)) (fun next =>
          update (update l.sibling x (some next)) node (some x)) =
            update (update l.sibling x (l.sibling node)) node (some x) := by
        cases next : l.sibling node with
        | none => rw [← unlinked,update_eq_self,unlinked]; rfl
        | some next => rfl
      refine ⟨_,rfl,?_,fun y outside => ?_⟩
      · dsimp only [Option.elim_some]
        rw [linked]
        exact holds.chain.insert fresh
      · simp only [mem_append,mem_cons,not_or] at outside
        dsimp only [Option.elim_some]
        rw [linked,update_of_ne outside.2.1,update_of_ne outside.2.2.1]
        exact holds.clear y (by simp [outside])

omit [DecidableRel le] in
lemma Holds.remove (holds : l.Holds nodes) (x : T) (enough : nodes.length < fuel) :
    ∃ l', l.remove fuel (some x) = some (decide (x ∈ nodes),l') ∧ l'.Holds (nodes.erase x) := by
  rw [IntrusiveSortedList.remove,Option.elim_some]
  by_cases first : l.head = some x
  · rw [if_pos first]
    rw [holds.chain.head_eq] at first
    obtain ⟨rest,rfl⟩ := head?_eq_some_iff.mp first
    rw [erase_cons_head,decide_eq_true mem_cons_self]
    obtain ⟨onward,clear⟩ := holds.chain.unlink_first holds.clear
    exact ⟨_,rfl,onward,clear⟩
  · rw [if_neg first,holds.chain.walk_eq _ enough]
    rcases holds.chain.find_before first with ⟨absent,found⟩ | ⟨before,node,after,rfl,found⟩
    · rw [found,erase_of_not_mem absent,decide_eq_false absent]
      exact ⟨l,rfl,holds⟩
    obtain ⟨onward,clear⟩ := holds.chain.unlink holds.clear
    rw [found,holds.chain.erase_eq.1,decide_eq_true (by simp)]
    exact ⟨_,rfl,onward,clear⟩

structure Tracks (calls : List (SortedListCall T)) (l : IntrusiveSortedList T) (nodes : List T) : Prop where
  holds : l.Holds nodes
  sorted : nodes.Pairwise le
  mem : ∀ x, x ∈ nodes ↔ present x calls
  short : nodes.length ≤ calls.length

variable {le} [Std.Total le] [IsTrans T le]

lemma Tracks.step (tracks : Tracks le calls l nodes) (room : calls.length < fuel) (c : SortedListCall T)
    (fresh : ∀ x, c = .add x → ¬present x calls) :
    ∃ l' nodes', l.call le fuel c = some l' ∧ Tracks le (calls ++ [c]) l' nodes' := by
  have enough := Nat.lt_of_le_of_lt tracks.short room
  have after (x : T) : present x (calls ++ [c]) = c.keeps x (present x calls) := by
    rw [present,foldl_append]
    rfl
  cases c with
  | add x =>
    have out : x ∉ nodes := fun member => fresh x rfl ((tracks.mem x).mp member)
    obtain ⟨next,added,holds⟩ := tracks.holds.add le out enough
    refine ⟨next,_,added,holds,tracks.sorted.orderedInsert x nodes,fun y => ?_,?_⟩
    · rw [mem_orderedInsert,tracks.mem,after]
      simp [SortedListCall.keeps,@eq_comm _ x,or_comm]
    · rw [orderedInsert_length,length_append]
      exact Nat.succ_le_succ tracks.short
  | remove x =>
    cases x with
    | none =>
      refine ⟨l,nodes,rfl,tracks.holds,tracks.sorted,fun y => ?_,?_⟩
      · rw [tracks.mem,after]
        simp [SortedListCall.keeps]
      · rw [length_append]
        exact Nat.le_add_right_of_le tracks.short
    | some x =>
      obtain ⟨next,removed,holds⟩ := tracks.holds.remove x enough
      refine ⟨next,_,by rw [call,removed]; rfl,holds,tracks.sorted.sublist erase_sublist,fun y => ?_,?_⟩
      · rw [tracks.holds.chain.nodup.mem_erase_iff,tracks.mem,after]
        simp [SortedListCall.keeps,@eq_comm _ x,and_comm]
      · rw [length_append]
        exact Nat.le_add_right_of_le (Nat.le_trans length_erase_le tracks.short)

variable (le)

lemma tracks_run (fuel : Nat) (calls : List (SortedListCall T)) : calls.length ≤ fuel →
    (∀ before x after, calls = before ++ .add x::after → ¬present x before) →
      ∃ l nodes, run le fuel calls = some l ∧ Tracks le calls l nodes := by
  refine Runs.foldl_history (fun calls (l : Option (IntrusiveSortedList T)) => calls.length ≤ fuel →
    (∀ before x after, calls = before ++ .add x::after → ¬present x before) →
      ∃ p nodes, l = some p ∧ Tracks le calls p nodes) ?_ ?_ calls
  · exact fun _ _ => ⟨empty,[],rfl,⟨rfl,fun _ _ => rfl⟩,Pairwise.nil,fun x => by simp [present],Nat.le_refl _⟩
  · intro before c earlier room fresh
    rw [length_append,length_singleton] at room
    obtain ⟨l,nodes,ran,tracks⟩ := earlier (Nat.le_of_succ_le room) fun early x late split =>
      fresh early x (late ++ [c]) (by rw [split]; simp)
    obtain ⟨next,nodes',called,moved⟩ := tracks.step room c fun x same => fresh before x [] (by rw [same])
    exact ⟨next,nodes',by rw [ran]; exact called,moved⟩

/-- If no node is added twice, the list is sorted and has the nodes added and not removed, and
`remove` reports whether it has a node. -/
theorem sorted_of_calls (calls : List (SortedListCall T))
    (fresh : ∀ before x after, calls = before ++ .add x::after → ¬present x before) :
    ∃ fuel l nodes, run le fuel calls = some l ∧ Chain l.sibling l.head nodes ∧ nodes.Pairwise le ∧ nodes.Nodup ∧
      (∀ x, x ∈ nodes ↔ present x calls) ∧ ∀ x, ∃ l', l.remove fuel x = some (x.any (present · calls),l') := by
  obtain ⟨l,nodes,ran,tracks⟩ := tracks_run le (calls.length+1) calls (Nat.le_succ _) fresh
  refine ⟨_,l,nodes,ran,tracks.holds.chain,tracks.sorted,tracks.holds.chain.nodup,tracks.mem,fun x => ?_⟩
  cases x with
  | none => exact ⟨l,rfl⟩
  | some x =>
    obtain ⟨next,removed,_⟩ := tracks.holds.remove x (Nat.lt_succ_of_le tracks.short)
    rw [removed]
    exact ⟨next,by simp [tracks.mem]⟩

/-- The node between the others is removed and added again. -/
theorem sorted_of_calls_again : let calls := [.add 2,.add 1,.add 3,.remove (some 2),.add 2]
    ∃ fuel l nodes, run (· ≤ · : Nat → Nat → Prop) fuel calls = some l ∧ Chain l.sibling l.head nodes ∧
      nodes.Pairwise (· ≤ ·) ∧ nodes.Nodup ∧ (∀ x, x ∈ nodes ↔ present x calls) ∧
      ∀ x, ∃ l', l.remove fuel x = some (x.any (present · calls),l') := by
  apply sorted_of_calls
  rintro (_ | ⟨_,_ | ⟨_,_ | ⟨_,_ | ⟨_,_ | ⟨_,before⟩⟩⟩⟩⟩) x after split
  rotate_right
  · simp at split
  all_goals cases split <;> decide

end IntrusiveSortedList
end AerialManipulator
