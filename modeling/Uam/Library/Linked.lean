import Mathlib.Data.List.Sort

/-! Singly linked chains in a memory of links. A chain that comes to an end is a list without duplicates. -/
namespace Linked
open List Function
variable {α : Type*} {link link' : α → Option α} {p : Option α}

def Chain (link : α → Option α) : Option α → List α → Prop
  | p,[] => p = none
  | p,x::rest => p = some x ∧ Chain link (link x) rest

variable {nodes before after : List α}

lemma Chain.head_eq (chain : Chain link p nodes) : p = nodes.head? := by
  cases nodes with
  | nil => exact chain
  | cons x rest => exact chain.1

lemma Chain.unique (one : Chain link p first) (two : Chain link p second) : first = second := by
  induction first generalizing p second with
  | nil =>
    cases second with
    | nil => rfl
    | cons y rest => exact absurd (one.symm.trans two.1) (by simp)
  | cons x rest ih =>
    cases second with
    | nil => exact absurd (two.symm.trans one.1) (by simp)
    | cons y others =>
      have same : x = y := Option.some.inj (one.1.symm.trans two.1)
      subst same
      rw [ih one.2 two.2]

lemma Chain.drop (chain : Chain link p (before ++ x::after)) : Chain link (some x) (x::after) := by
  induction before generalizing p with
  | nil => exact ⟨rfl,chain.2⟩
  | cons y rest ih => exact ih chain.2

lemma Chain.nodup (chain : Chain link p nodes) : nodes.Nodup := by
  induction nodes generalizing p with
  | nil => exact nodup_nil
  | cons x rest ih =>
    refine nodup_cons.mpr ⟨fun again => ?_,ih chain.2⟩
    obtain ⟨before,after,split⟩ := append_of_mem again
    have first : Chain link (some x) (x::rest) := ⟨rfl,chain.2⟩
    -- the chain from its second visit on would be as long as the whole
    have second : Chain link (some x) (x::after) := by
      have tail := chain.2
      rw [split] at tail
      exact tail.drop
    have length := congrArg List.length (first.unique second)
    rw [split] at length
    simp only [length_cons,length_append] at length
    omega

lemma Chain.congr (chain : Chain link p nodes) (same : ∀ x ∈ nodes, link' x = link x) : Chain link' p nodes := by
  induction nodes generalizing p with
  | nil => exact chain
  | cons x rest ih =>
    refine ⟨chain.1,?_⟩
    rw [same x mem_cons_self]
    exact ih chain.2 fun y member => same y (mem_cons_of_mem x member)

lemma Chain.link_eq (chain : Chain link p (before ++ x::after)) : link x = after.head? := chain.drop.2.head_eq

lemma Chain.link_ne (chain : Chain link p (before ++ x::after)) : link x ≠ some x := by
  intro loop
  obtain ⟨rest,rfl⟩ := head?_eq_some_iff.mp (chain.link_eq.symm.trans loop)
  exact (nodup_cons.mp (nodup_append.mp chain.nodup).2.1).1 mem_cons_self

/-- The first node at which to stop, `some none` at the end and `none` after so many nodes. -/
def walk (link : α → Option α) (stop : α → Bool) : Nat → Option α → Option (Option α)
  | 0,_ => none
  | fuel+1,p => p.elim (some none) fun x => if stop x then some (some x) else walk link stop fuel (link x)

lemma Chain.walk_eq (chain : Chain link p nodes) (stop : α → Bool)
    (enough : nodes.length < fuel) : walk link stop fuel p = some (nodes.find? stop) := by
  induction nodes generalizing p fuel with
  | nil =>
    obtain ⟨left,rfl⟩ := Nat.exists_eq_add_of_lt enough
    rw [show p = none from chain]
    rfl
  | cons x rest ih =>
    obtain ⟨left,rfl⟩ := Nat.exists_eq_add_of_lt enough
    rw [chain.1,walk,Option.elim_some,find?_cons]
    cases stop x with
    | true => rfl
    | false => exact ih chain.2 (by rw [length_cons]; omega)

/-- Where a sorted insertion links a node that does not go first: behind the first that is the
last or before a later one. -/
lemma Chain.exists_place (r : α → α → Prop) [DecidableRel r] (chain : Chain link (some first) (first::rest))
    (late : ¬r x first) : ∃ before y after, first::rest = before ++ y::after ∧
      (first::rest).find? (fun y => (link y).all fun next => r x next) = some y ∧
      (first::rest).orderedInsert r x = before ++ y::x::after := by
  induction rest generalizing first with
  | nil =>
    have ended : link first = none := chain.2
    exact ⟨[],first,[],rfl,by simp [ended],by simp [late]⟩
  | cons second rest ih =>
    have next : link first = some second := chain.2.1
    by_cases earlier : r x second
    · exact ⟨[],first,second::rest,rfl,by simp [next,earlier],by simp [late,earlier]⟩
    · obtain ⟨before,y,after,split,found,inserted⟩ := ih ⟨rfl,chain.2.2⟩ earlier
      refine ⟨first::before,y,after,by rw [split]; rfl,?_,?_⟩
      · rw [find?_cons_of_neg (by simp [next,earlier]),found]
      · rw [orderedInsert_cons,if_neg late,inserted]
        rfl

section
variable [DecidableEq α]

lemma Chain.find_before (chain : Chain link p nodes) (other : p ≠ some x) :
    (x ∉ nodes ∧ nodes.find? (fun y => link y = some x) = none) ∨
      ∃ before y after, nodes = before ++ y::x::after ∧ nodes.find? (fun y => link y = some x) = some y := by
  cases found : nodes.find? (fun y => link y = some x) with
  | none =>
    refine Or.inl ⟨fun member => ?_,rfl⟩
    obtain ⟨before,after,rfl⟩ := append_of_mem member
    rcases eq_nil_or_concat' before with rfl | ⟨front,y,rfl⟩
    · exact other chain.head_eq
    · rw [append_assoc,singleton_append] at chain found
      have unlinked := find?_eq_none.mp found y (mem_append_right _ mem_cons_self)
      exact unlinked (decide_eq_true chain.link_eq)
  | some y =>
    obtain ⟨linked,before,after,rfl,_⟩ := find?_eq_some_iff_append.mp found
    obtain ⟨rest,rfl⟩ := head?_eq_some_iff.mp (chain.link_eq.symm.trans (of_decide_eq_true linked))
    exact Or.inr ⟨before,y,rest,rfl,rfl⟩

variable {before after : List α}

lemma Chain.erase_eq (chain : Chain link p (before ++ y::x::after)) :
    (before ++ y::x::after).erase x = before ++ y::after ∧ x ∉ before ++ y::after := by
  have split : before ++ y::x::after = (before ++ [y]) ++ x::after := by simp
  have unique := chain.nodup
  rw [split] at unique
  have front : x ∉ before ++ [y] := fun member => (nodup_append.mp unique).2.2 x member x mem_cons_self rfl
  have behind := (nodup_cons.mp (nodup_append.mp unique).2.1).1
  constructor
  · rw [split,erase_append_right _ front,erase_cons_head]
    simp
  · simpa [not_or,and_assoc] using And.intro front behind

lemma Chain.update_of_notMem (chain : Chain link p nodes) (fresh : x ∉ nodes)
    (q : Option α) : Chain (update link x q) p nodes := by
  apply chain.congr
  intro y member
  apply update_of_ne
  intro same
  exact fresh (same ▸ member)

lemma Chain.relink (chain : Chain link p (before ++ x::after)) (onward : Chain (update link x q) q others) :
    Chain (update link x q) p (before ++ x::others) := by
  induction before generalizing p with
  | nil =>
    refine ⟨chain.1,?_⟩
    rwa [update_self]
  | cons y rest ih =>
    have distinct : y ≠ x := by
      intro same
      have visited := (nodup_cons.mp chain.nodup).1
      exact visited (same ▸ mem_append_right _ mem_cons_self)
    refine ⟨chain.1,?_⟩
    rw [update_of_ne distinct]
    exact ih chain.2

lemma Chain.insert (chain : Chain link p (before ++ x::after)) (fresh : y ∉ before ++ x::after) :
    Chain (update (update link y (link x)) x (some y)) p (before ++ x::y::after) := by
  have kept := chain.update_of_notMem fresh (link x)
  refine kept.relink ⟨rfl,?_⟩
  have other : y ≠ x := fun same => fresh (same ▸ mem_append_right _ mem_cons_self)
  have behind : x ∉ after := (nodup_cons.mp (nodup_append.mp chain.nodup).2.1).1
  have onward := kept.drop.2
  rw [update_of_ne other.symm] at onward
  rw [update_of_ne other,update_self]
  exact onward.update_of_notMem behind _

lemma Chain.bypass (chain : Chain link p (before ++ x::y::after)) :
    Chain (update link x (link y)) p (before ++ x::after) := by
  refine chain.relink ?_
  have behind : x ∉ after := by
    intro again
    exact (nodup_cons.mp (nodup_append.mp chain.nodup).2.1).1 (mem_cons_of_mem y again)
  exact chain.drop.2.2.update_of_notMem behind _

lemma Chain.unlink_first (chain : Chain link p (x::rest)) (clear : ∀ z, z ∉ x::rest → link z = none) :
    Chain (update link x none) (link x) rest ∧ ∀ z, z ∉ rest → update link x none z = none := by
  refine ⟨chain.2.update_of_notMem (nodup_cons.mp chain.nodup).1 none,fun z outside => ?_⟩
  by_cases same : z = x
  · rw [same,update_self]
  · rw [update_of_ne same]
    exact clear z (not_mem_cons_of_ne_of_not_mem same outside)

lemma Chain.unlink (chain : Chain link p (before ++ y::x::after))
    (clear : ∀ z, z ∉ before ++ y::x::after → link z = none) :
    Chain (update (update link y (link x)) x none) p (before ++ y::after) ∧
      ∀ z, z ∉ before ++ y::after → update (update link y (link x)) x none z = none := by
  refine ⟨chain.bypass.update_of_notMem chain.erase_eq.2 none,fun z outside => ?_⟩
  by_cases same : z = x
  · rw [same,update_self]
  have away : z ≠ y := fun here => outside (here ▸ by simp)
  rw [update_of_ne same,update_of_ne away]
  apply clear
  simp only [mem_append,mem_cons,not_or] at outside ⊢
  exact ⟨outside.1,away,same,outside.2.2⟩

end
end Linked
