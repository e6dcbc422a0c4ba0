import Uam.Library.Runs

/-! The set of topic names of the remote side of uORB. The loop that looks for a name to
erase stays at the first node. -/
namespace AerialManipulator
open List Option Runs

/-- The nodes along `next`, each with its address; memory does not run out. -/
structure OrbSet where
  nodes : List (Nat × String)
  endNode : Option Nat
  fresh : Nat

inductive SetCall where
  | insert (name : String)
  | find (name : String)
  | erase (name : String)

namespace OrbSet

def empty : OrbSet := ⟨[],none,0⟩

def linkAfter (a : Option Nat) (node : Nat × String) : List (Nat × String) → List (Nat × String)
  | [] => []
  | first :: rest => if a = some first.1 then [first,node] else first :: linkAfter a node rest

def insert (s : OrbSet) (name : String) : OrbSet where
  nodes := if s.nodes.isEmpty then [(s.fresh,name)] else linkAfter s.endNode (s.fresh,name) s.nodes
  endNode := some s.fresh
  fresh := s.fresh+1

def find (s : OrbSet) (name : String) : Bool := s.nodes.any (·.2 == name)

def unlinkNext (s : OrbSet) : OrbSet :=
  { s with
    nodes := s.nodes.eraseIdx 1
    endNode := if s.endNode = s.nodes[1]?.map Prod.fst then s.nodes.head?.map Prod.fst else s.endNode }

/-- `some none` is the access to the first node of an empty set. -/
def eraseLoop (s : OrbSet) (name : String) : Nat → Option (Option (Bool × OrbSet))
  | 0 => none
  | fuel+1 =>
    if s.nodes.isEmpty then some none
    else s.nodes[1]?.elim (some (some (false,s))) fun b =>
      if b.2 = name then some (some (true,s.unlinkNext)) else eraseLoop s name fuel

def erase (s : OrbSet) (name : String) (fuel : Nat) : Option (Option (Bool × OrbSet)) :=
  if s.nodes.head?.any (·.2 == name) then
    some (some (true,{s with nodes := s.nodes.tail, endNode := if s.nodes.tail.isEmpty then none else s.endNode}))
  else s.eraseLoop name fuel

def after (s : OrbSet) : SetCall → OrbSet
  | .insert name => s.insert name
  | .find _ => s
  | .erase name => ((s.erase name 1).join.map Prod.snd).getD s

def names (s : OrbSet) : List String := s.nodes.map Prod.snd

def EndsAtLast (s : OrbSet) : Prop := s.endNode = s.nodes.getLast?.map Prod.fst

def Behaves (s : OrbSet) : SetCall → Prop
  | .insert name => (s.insert name).names = s.names ++ [name] ∧ (s.insert name).EndsAtLast
  | .find name => s.find name = true ↔ name ∈ s.names
  | .erase name => ∃ fuel s', s.erase name fuel = some (some (decide (name ∈ s.names),s')) ∧
      s'.names = s.names.erase name ∧ (name ∉ s.names → s' = s) ∧ s'.EndsAtLast

def InReach (s : OrbSet) : SetCall → Prop
  | .erase name => s.nodes.length = 1 ∨ name ∈ s.names.take 2
  | _ => True

structure Valid (s : OrbSet) : Prop where
  ends : s.EndsAtLast
  apart : (s.nodes.map Prod.fst).Nodup
  below : ∀ node ∈ s.nodes, node.1 < s.fresh

section
variable {s : OrbSet} {name : String}

lemma last_ne {first : Nat × String} {nodes : List (Nat × String)} (apart : ((first::nodes).map Prod.fst).Nodup) :
    nodes.getLast?.map Prod.fst ≠ some first.1 := by
  intro same
  obtain ⟨last,member,address⟩ := map_eq_some_iff.mp same
  exact (nodup_cons.mp apart).1 (address ▸ mem_map_of_mem (mem_of_getLast? member))

lemma linkAfter_last (node : Nat × String) {nodes : List (Nat × String)} (apart : (nodes.map Prod.fst).Nodup)
    (some_nodes : nodes ≠ []) : linkAfter (nodes.getLast?.map Prod.fst) node nodes = nodes ++ [node] := by
  induction nodes with
  | nil => exact absurd rfl some_nodes
  | cons first rest ih =>
    cases rest with
    | nil => simp [linkAfter]
    | cons second rest =>
      have ih := ih (nodup_cons.mp apart).2 (by simp)
      rw [getLast?_cons_cons,linkAfter,ih,if_neg (last_ne apart)]
      rfl

lemma nodes_insert (valid : s.Valid) (name : String) : (s.insert name).nodes = s.nodes ++ [(s.fresh,name)] := by
  cases nodes : s.nodes with
  | nil => simp [insert,nodes]
  | cons first rest =>
    have linked := linkAfter_last (s.fresh,name) valid.apart (by simp [nodes])
    rw [← valid.ends] at linked
    rw [insert,nodes,← nodes,linked]
    simp [nodes]

lemma Valid.insert (valid : s.Valid) (name : String) : (s.insert name).Valid where
  ends := by
    rw [EndsAtLast,nodes_insert valid]
    simp [OrbSet.insert]
  apart := by
    rw [nodes_insert valid,map_append,nodup_append]
    refine ⟨valid.apart,by simp,fun a member b fresh => ?_⟩
    obtain ⟨node,old,rfl⟩ := mem_map.mp member
    have := valid.below node old
    simp only [map_cons,map_nil,mem_singleton] at fresh
    omega
  below := by
    intro node member
    rw [nodes_insert valid,mem_append,mem_singleton] at member
    rcases member with old | rfl
    · exact Nat.lt_succ_of_lt (valid.below node old)
    · exact Nat.lt_succ_self _

lemma Valid.sublist (valid : s.Valid) {nodes : List (Nat × String)} (fewer : nodes <+ s.nodes) {endNode : Option Nat}
    (ends : endNode = nodes.getLast?.map Prod.fst) : Valid ⟨nodes,endNode,s.fresh⟩ :=
  ⟨ends,valid.apart.sublist (fewer.map _),fun node member => valid.below node (fewer.subset member)⟩

lemma eraseLoop_none {a b : Nat × String} {rest : List (Nat × String)} {endNode : Option Nat} {fresh : Nat}
    (other : b.2 ≠ name) (fuel : Nat) : eraseLoop ⟨a::b::rest,endNode,fresh⟩ name fuel = none := by
  induction fuel with
  | zero => rfl
  | succ fuel ih => simp [eraseLoop,other,ih]

lemma erase_reach (valid : s.Valid) (name : String) (reach : s.InReach (.erase name)) :
    ∃ s', s.erase name 1 = some (some (decide (name ∈ s.names),s')) ∧ s'.names = s.names.erase name ∧
      (name ∉ s.names → s' = s) ∧ s'.Valid := by
  obtain ⟨nodes,endNode,fresh⟩ := s
  have ends := valid.ends
  cases nodes with
  | nil => simp [InReach,names] at reach
  | cons a rest =>
    by_cases first : a.2 = name
    · refine ⟨⟨rest,if rest.isEmpty then none else endNode,fresh⟩,by simp [erase,names,first],by simp [names,first],
        by simp [names,first],valid.sublist (sublist_cons_self ..) ?_⟩
      cases rest with
      | nil => rfl
      | cons b rest => simpa [EndsAtLast] using ends
    · cases rest with
      | nil =>
        refine ⟨_,by simp [erase,eraseLoop,names,first,Ne.symm first],?_,fun _ => rfl,valid⟩
        simp [names,first]
      | cons b rest =>
        have second : b.2 = name := by simpa [InReach,names,Ne.symm first,eq_comm] using reach
        refine ⟨⟨a::rest,if endNode = some b.1 then some a.1 else endNode,fresh⟩,
          by simp [erase,eraseLoop,unlinkNext,names,first,second],by simp [names,first,second],by simp [names,second],
          valid.sublist ((sublist_cons_self b rest).cons_cons a) ?_⟩
        cases rest with
        | nil => simp [show endNode = some b.1 from ends]
        | cons c rest =>
          have last : endNode = (c::rest).getLast?.map Prod.fst := by simpa [EndsAtLast] using ends
          rw [last,if_neg (last_ne (nodup_cons.mp valid.apart).2),getLast?_cons_cons]

lemma reach_of_erase (ended : s.erase name fuel = some (some (found,s'))) : s.InReach (.erase name) := by
  obtain ⟨nodes,endNode,fresh⟩ := s
  cases nodes with
  | nil => cases fuel <;> simp [erase,eraseLoop] at ended
  | cons a rest =>
    cases rest with
    | nil => exact .inl rfl
    | cons b rest =>
      right
      by_contra far
      have others : name ≠ a.2 ∧ name ≠ b.2 := by simpa [names] using far
      rw [erase,if_neg (by simpa using others.1.symm),eraseLoop_none others.2.symm] at ended
      cases ended

lemma Valid.after (valid : s.Valid) (call : SetCall) : (s.after call).Valid := by
  cases call with
  | insert name => exact valid.insert name
  | find name => exact valid
  | erase name =>
    rw [OrbSet.after]
    cases ended : (s.erase name 1).join with
    | none => exact valid
    | some result =>
      obtain ⟨found,s'⟩ := result
      have ended := join_eq_some_iff.mp ended
      obtain ⟨s'',same,_,_,valid⟩ := erase_reach valid name (reach_of_erase ended)
      rw [ended] at same
      cases same
      exact valid

lemma behaves_iff_inReach (valid : s.Valid) (call : SetCall) : s.Behaves call ↔ s.InReach call := by
  cases call with
  | insert name =>
    refine iff_of_true ⟨?_,(valid.insert name).ends⟩ trivial
    rw [names,nodes_insert valid,map_append]
    rfl
  | find name => exact iff_of_true (show s.find name = true ↔ name ∈ s.names by simp [find,names]) trivial
  | erase name =>
    constructor
    · rintro ⟨fuel,s',ended,_⟩
      exact reach_of_erase ended
    · intro reach
      obtain ⟨s',ended,removed,same,valid⟩ := erase_reach valid name reach
      exact ⟨1,s',ended,removed,same,valid.ends⟩

end

/-- A run behaves as one of a collection exactly if every name to erase is among the first two or the set has one. -/
theorem behaves_iff (calls : List SetCall) :
    Along after Behaves empty calls ↔ Along after InReach empty calls :=
  along_congr_invariant Valid (fun _ call valid => valid.after call) (fun _ call valid => behaves_iff_inReach valid call)
    ⟨(rfl : empty.EndsAtLast),nodup_nil,by simp [empty]⟩ calls

/-- The third of three names is never reached, and an empty set is not looked at safely. -/
theorem erase_hangs : (∀ fuel, (((empty.insert "a").insert "b").insert "c").erase "c" fuel = none) ∧
    (((empty.insert "a").insert "b").insert "c").find "c" = true ∧ empty.erase "a" 1 = some none :=
  ⟨eraseLoop_none (by decide),by decide +kernel,rfl⟩

end OrbSet
end AerialManipulator
