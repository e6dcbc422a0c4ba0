import Uam.Library.Linked

/-! The singly linked queue of `queue.c`, and the sorted insertion of `hrt_call_enter`. A result is
missing if a null pointer is followed or a loop passes too many nodes. -/
namespace AerialManipulator
open Linked List Function

structure SqQueue (ι : Type) where
  head : Option ι
  tail : Option ι
  flink : ι → Option ι

namespace SqQueue
variable {ι : Type} [DecidableEq ι]

def sqRemafter (node : ι) (q : SqQueue ι) : SqQueue ι :=
  (q.flink node).elim q fun ret =>
    if q.head = none then q
    else if q.tail = some ret then ⟨q.head,some node,update (update q.flink node none) ret none⟩
    else ⟨q.head,q.tail,update (update q.flink node (q.flink ret)) ret none⟩

def sqRem (fuel : Nat) (node : ι) (q : SqQueue ι) : Option (SqQueue ι) :=
  if q.head = none then some q
  else if q.head = some node then some ⟨q.flink node,if q.tail = some node then none else q.tail,q.flink⟩
  else (walk q.flink (fun prev => q.flink prev = some node) fuel q.head).map fun prev => prev.elim q (q.sqRemafter ·)

def sqAddfirst (node : ι) (q : SqQueue ι) : SqQueue ι :=
  ⟨some node,if q.head = none then some node else q.tail,update q.flink node q.head⟩

def sqAddlast (node : ι) (q : SqQueue ι) : Option (SqQueue ι) :=
  if q.head = none then some ⟨some node,some node,update q.flink node none⟩
  else q.tail.map fun tail => ⟨q.head,some node,update (update q.flink node none) tail (some node)⟩

def sqAddafter (prev node : ι) (q : SqQueue ι) : Option (SqQueue ι) :=
  if q.head = none ∨ q.tail = some prev then q.sqAddlast node
  else some ⟨q.head,q.tail,update (update q.flink node (q.flink prev)) prev (some node)⟩

/-- Where `hrt_call_enter` puts the entry: behind the first that is the last or is followed by a later deadline. -/
def placeFound (deadline : ι → UInt64) (entry : ι) (q : SqQueue ι) (call : ι) : Bool :=
  (q.flink call).all fun next => deadline entry < deadline next

def hrtCallEnter (fuel : Nat) (deadline : ι → UInt64) (entry : ι) (q : SqQueue ι) : Option (SqQueue ι) :=
  if q.head.all fun call => deadline entry < deadline call then some (q.sqAddfirst entry)
  else (walk q.flink (q.placeFound deadline entry) fuel q.head).bind fun call =>
    call.elim (some q) (q.sqAddafter · entry)

structure Holds (q : SqQueue ι) (nodes : List ι) : Prop where
  chain : Chain q.flink q.head nodes
  tail : q.tail = nodes.getLast?

variable {q : SqQueue ι} {nodes : List ι} {x : ι}

omit [DecidableEq ι] in
lemma Holds.empty (flink : ι → Option ι) : Holds ⟨none,none,flink⟩ [] := ⟨rfl,rfl⟩

lemma Holds.sqRemafter {before after : List ι} {prev : ι} (holds : q.Holds (before ++ prev::x::after)) :
    (q.sqRemafter prev).Holds (before ++ prev::after) := by
  have next : q.flink prev = some x := holds.chain.link_eq
  have queued : q.head ≠ none := by
    rw [holds.chain.head_eq]
    simp
  have gone := holds.chain.erase_eq.2
  have bypass := holds.chain.bypass.update_of_notMem gone none
  rw [SqQueue.sqRemafter,next,Option.elim_some,if_neg queued,holds.tail]
  cases after with
  | nil =>
    have ended : q.flink x = none := by
      have split : before ++ [prev,x] = (before ++ [prev]) ++ [x] := by simp
      have chain := holds.chain
      rw [split] at chain
      exact chain.link_eq
    rw [ended] at bypass
    rw [if_pos (by simp)]
    exact ⟨bypass,by simp⟩
  | cons y rest =>
    have same : (before ++ prev::x::y::rest).getLast? = (before ++ prev::y::rest).getLast? := by simp
    rw [same,if_neg fun last => gone (mem_of_getLast? last)]
    exact ⟨bypass,rfl⟩

lemma Holds.sqRem (holds : q.Holds nodes) (x : ι) (enough : nodes.length < fuel) :
    ∃ q', q.sqRem fuel x = some q' ∧ q'.Holds (nodes.erase x) := by
  rw [SqQueue.sqRem]
  cases nodes with
  | nil =>
    rw [if_pos (show q.head = none from holds.chain)]
    exact ⟨q,rfl,holds⟩
  | cons first rest =>
    rw [if_neg (by rw [holds.chain.1]; simp)]
    by_cases here : q.head = some x
    · obtain rfl : first = x := Option.some.inj (holds.chain.1.symm.trans here)
      have alone : first ∉ rest := (nodup_cons.mp holds.chain.nodup).1
      rw [if_pos here,erase_cons_head,holds.tail]
      refine ⟨_,rfl,holds.chain.2,?_⟩
      cases rest with
      | nil => simp
      | cons y others =>
        rw [getLast?_cons_cons]
        exact if_neg fun last => alone (mem_of_getLast? last)
    · rw [if_neg here,holds.chain.walk_eq _ enough]
      rcases holds.chain.find_before here with ⟨absent,found⟩ | ⟨before,prev,after,split,found⟩
      · rw [found,erase_of_not_mem absent]
        exact ⟨q,rfl,holds⟩
      · rw [split] at holds found ⊢
        rw [found,holds.chain.erase_eq.1]
        exact ⟨_,rfl,holds.sqRemafter⟩

lemma Holds.sqAddfirst (holds : q.Holds nodes) (fresh : x ∉ nodes) : (q.sqAddfirst x).Holds (x::nodes) := by
  refine ⟨⟨rfl,?_⟩,?_⟩
  · rw [SqQueue.sqAddfirst]
    dsimp only
    rw [update_self]
    exact holds.chain.update_of_notMem fresh _
  · rw [SqQueue.sqAddfirst,holds.chain.head_eq,holds.tail]
    cases nodes with
    | nil | cons y rest => rfl

lemma Holds.sqAddafter {before after : List ι} {prev : ι} (holds : q.Holds (before ++ prev::after))
    (fresh : x ∉ before ++ prev::after) :
    ∃ q', q.sqAddafter prev x = some q' ∧ q'.Holds (before ++ prev::x::after) := by
  have queued : q.head ≠ none := by
    rw [holds.chain.head_eq]
    simp
  have insert := holds.chain.insert fresh
  have next : q.flink prev = after.head? := holds.chain.link_eq
  rw [SqQueue.sqAddafter]
  cases after with
  | nil =>
    have last : q.tail = some prev := by rw [holds.tail]; simp
    rw [if_pos (Or.inr last),SqQueue.sqAddlast,if_neg queued,last]
    rw [next] at insert
    exact ⟨_,rfl,insert,by simp⟩
  | cons y rest =>
    have behind : prev ∉ y::rest := (nodup_cons.mp (nodup_append.mp holds.chain.nodup).2.1).1
    have last : (before ++ prev::y::rest).getLast? = (y::rest).getLast? := by
      rw [getLast?_append_of_ne_nil _ (cons_ne_nil _ _),getLast?_cons_cons]
    rw [if_neg]
    · refine ⟨_,rfl,insert,?_⟩
      rw [holds.tail]
      simp
    · rw [not_or,holds.tail,last]
      exact ⟨queued,fun ended => behind (mem_of_getLast? ended)⟩

section
variable {deadline : ι → UInt64}

lemma Holds.hrtCallEnter (holds : q.Holds nodes) (fresh : x ∉ nodes) (enough : nodes.length < fuel)
    (deadline : ι → UInt64) :
    ∃ q', q.hrtCallEnter fuel deadline x = some q' ∧
      q'.Holds (nodes.orderedInsert (fun a b => deadline a < deadline b) x) := by
  rw [SqQueue.hrtCallEnter,holds.chain.head_eq]
  cases nodes with
  | nil => exact ⟨_,rfl,holds.sqAddfirst fresh⟩
  | cons first rest =>
    by_cases earlier : deadline x < deadline first
    · rw [orderedInsert_cons,if_pos earlier,if_pos (by simp [earlier])]
      exact ⟨_,rfl,holds.sqAddfirst fresh⟩
    · obtain ⟨before,call,after,split,found,inserted⟩ :=
        Chain.exists_place (fun a b => deadline a < deadline b) (holds.chain.1 ▸ holds.chain) earlier
      change (first::rest).find? (q.placeFound deadline x) = some call at found
      rw [if_neg (by simp [earlier]),← holds.chain.head_eq,holds.chain.walk_eq _ enough,found,inserted]
      rw [split] at holds fresh
      exact holds.sqAddafter fresh

omit [DecidableEq ι] in
lemma sorted_orderedInsert (sorted : nodes.Pairwise fun a b => deadline a ≤ deadline b) (x : ι) :
    (nodes.orderedInsert (fun a b => deadline a < deadline b) x).Pairwise fun a b => deadline a ≤ deadline b := by
  induction nodes with
  | nil => exact pairwise_singleton _ x
  | cons first rest ih =>
    obtain ⟨least,others⟩ := pairwise_cons.mp sorted
    rw [orderedInsert_cons]
    split
    next earlier =>
      refine pairwise_cons.mpr ⟨fun y member => ?_,sorted⟩
      rcases mem_cons.mp member with rfl | inside
      · exact UInt64.le_of_lt earlier
      · exact UInt64.le_trans (UInt64.le_of_lt earlier) (least y inside)
    next due =>
      refine pairwise_cons.mpr ⟨fun y member => ?_,ih others⟩
      rcases (mem_orderedInsert _).mp member with rfl | inside
      · exact UInt64.not_lt.mp due
      · exact least y inside

end
end SqQueue
end AerialManipulator
