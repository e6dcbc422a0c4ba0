import Uam.OrbQueue
import Uam.Library.Ring
import Uam.Library.Runs
import Mathlib.Data.List.Pairwise

/-! What a subscription delivers, over every interleaving of writes and updates. The run
carries the messages since the subscription and the places that were delivered; the counters
say the same modulo their range. -/
namespace AerialManipulator
open DeviceNode List Runs
open BitVec (ofNat ofNat_add)
open Subscription (subscribe update)
variable {α : Type*}

inductive OrbEvent (α : Type*) where
  | write (message : α)
  | update

structure Feed (α : Type*) where
  node : DeviceNode α
  subscription : Subscription
  log : List α
  delivered : List Nat
  sinceRead : Nat

namespace Feed

def queueSize (f : Feed α) : Nat := f.node.queueSize.toNat

def next (f : Feed α) : Nat := f.delivered.getLast?.elim 0 (· + 1)

def oldest (f : Feed α) : Option Nat :=
  (List.range f.log.length).find? fun i => decide (f.log.length ≤ i+f.queueSize) && decide (i ∉ f.delivered)

variable [Inhabited α]

def start (queueSize : BitVec 8) (generation : BitVec 32) (previous : List α) : Feed α :=
  let node := previous.foldl write (create queueSize generation)
  ⟨node,.subscribe node,previous.getLast?.toList,[],0⟩

def step (f : Feed α) : OrbEvent α → Feed α
  | .write message => {f with node := f.node.write message, log := f.log ++ [message], sinceRead := f.sinceRead + 1}
  | .update =>
    { f with
      subscription := (f.subscription.update f.node).2
      delivered := f.delivered ++ if (f.subscription.update f.node).1.isSome then f.oldest.toList else []
      sinceRead := 0 }

/-- An update delivers the oldest new message in the queue, and nothing exactly if nothing new was written. -/
def Delivers (f : Feed α) : OrbEvent α → Prop
  | .write _ => True
  | .update => ((f.subscription.update f.node).1 = none ↔ f.next = f.log.length) ∧
      ∀ message, (f.subscription.update f.node).1 = some message → ∃ i, f.oldest = some i ∧ f.log[i]? = some message

def ReadOften (f : Feed α) : OrbEvent α → Prop
  | .write _ => True
  | .update => f.sinceRead < 2^32

def InTime (f : Feed α) : OrbEvent α → Prop
  | .write _ => True
  | .update => f.log.length < f.next+2^32

lemma queueSize_cases (n : BitVec 8) : roundPowOfTwo8 n = 1 ∨ roundPowOfTwo8 n ∈ [2,4,8,16,32,64,128] := by
  revert n
  decide +kernel

lemma queueSize_divides (n : BitVec 8) : (roundPowOfTwo8 n).toNat ∣ 2^32 := by
  rcases queueSize_cases n with one | others
  · rw [one]
    exact one_dvd _
  · simp only [mem_cons,not_mem_nil,or_false] at others
    rcases others with h | h | h | h | h | h | h <;> rw [h] <;> decide

lemma isInRange_iff {size : BitVec 32} (several : 2 ≤ size.toNat) (few : size.toNat ≤ 255)
    (current value : BitVec 32) : isInRange (current-size) value (current-1) ↔
      1 ≤ (current-value).toNat ∧ (current-value).toNat ≤ size.toNat := by
  unfold isInRange
  split
  · simp only [Bool.and_eq_true,decide_eq_true_eq]
    constructor <;> rintro ⟨low,high⟩ <;> constructor <;> bv_omega
  · simp only [Bool.or_eq_true,decide_eq_true_eq]
    bv_omega

omit [Inhabited α] in
lemma copy_behind {node : DeviceNode α} (allocated : node.data = some slots)
    (several : 2 ≤ node.queueSize.toNat) (behind : node.generation ≠ last) :
    let back := ofNat 32 (min (node.generation-last).toNat node.queueSize.toNat)
    node.copy last = some (slots (node.slot (node.generation-back)),node.generation-back+1) := by
  have few : (node.queueSize.setWidth 32).toNat = node.queueSize.toNat := by
    have below := node.queueSize.isLt
    simp only [BitVec.toNat_setWidth]
    omega
  have one : node.queueSize ≠ 1 := by
    intro one
    rw [one] at several
    exact absurd several (by decide)
  have inRange := isInRange_iff (few.symm ▸ several) (by have := node.queueSize.isLt; omega) node.generation last
  have positive : 1 ≤ (node.generation-last).toNat := by bv_omega
  simp only [copy,allocated,Option.map_some,if_neg one,if_neg behind]
  by_cases near : (node.generation-last).toNat ≤ node.queueSize.toNat
  · have found : node.generation-ofNat 32 (node.generation-last).toNat = last := by bv_omega
    rw [inRange.mpr ⟨positive,few.symm ▸ near⟩,min_eq_left near,found]
    rfl
  · have lost : isInRange (node.generation-node.queueSize.setWidth 32) last (node.generation-1) = false := by
      rw [Bool.eq_false_iff,ne_eq,inRange]
      omega
    have size : ofNat 32 node.queueSize.toNat = node.queueSize.setWidth 32 := by
      apply BitVec.eq_of_toNat_eq
      rw [few,BitVec.toNat_ofNat]
      have below := node.queueSize.isLt
      omega
    rw [lost,min_eq_right (by omega),size]
    rfl

structure Follows (f : Feed α) : Prop where
  advertised : f.node.advertised = true
  several : 2 ≤ f.queueSize
  divides : f.queueSize ∣ 2^32
  allocated : f.log ≠ [] → f.node.data.isSome = true
  holds : Ring.Holds f.queueSize (f.node.data.getD fun _ => default) f.node.generation f.log
  reached : f.next ≤ f.log.length
  behind : f.node.generation-f.subscription.lastGeneration = BitVec.ofNat 32 (f.log.length-f.next)
  increasing : f.delivered.Pairwise (· < ·)
  past : ∀ i ∈ f.delivered, i < f.next
  skipped : ∀ i < f.next, i ∉ f.delivered → i+f.queueSize < f.log.length

variable {f : Feed α}

lemma oldest_eq (follows : Follows f) :
    f.oldest = if f.next = f.log.length then none else some (max f.next (f.log.length-f.queueSize)) := by
  have several := follows.several
  have reached := follows.reached
  split
  next read =>
    simp only [oldest,find?_eq_none,mem_range,Bool.and_eq_true,decide_eq_true_eq,not_and,not_not]
    intro i below near
    by_contra fresh
    have lost := follows.skipped i (by omega) fresh
    omega
  next unread =>
    rw [oldest,find?_range_eq_some]
    refine ⟨?_,mem_range.mpr (by omega),fun j earlier => ?_⟩
    · simp only [Bool.and_eq_true,decide_eq_true_eq]
      refine ⟨by omega,fun found => ?_⟩
      have before := follows.past _ found
      omega
    · simp only [Bool.not_eq_true',Bool.and_eq_false_iff,decide_eq_false_iff_not,not_not]
      by_contra fresh
      push Not at fresh
      by_cases passed : j < f.next
      · have lost := follows.skipped j passed fresh.2
        omega
      · omega

lemma Follows.updatesAvailable_eq (follows : Follows f) (inTime : f.log.length < f.next+2^32) :
    (f.node.updatesAvailable f.subscription.lastGeneration).toNat = f.log.length-f.next := by
  have reached := follows.reached
  rw [updatesAvailable,follows.behind,BitVec.toNat_ofNat]
  omega

lemma sub_ofNat_succ (generation : BitVec 32) (k : Nat) : generation-ofNat 32 (k+1)+1 = generation-ofNat 32 k := by
  rw [ofNat_add]
  exact (congrArg (· + 1) (sub_sub _ _ _).symm).trans (sub_add_cancel _ 1)

lemma update_eq (follows : Follows f) (inTime : f.log.length < f.next+2^32) :
    if f.next = f.log.length then f.subscription.update f.node = (none,f.subscription)
    else ∃ message, f.log[max f.next (f.log.length-f.queueSize)]? = some message ∧
      f.subscription.update f.node = (some message,
        ⟨f.node.generation-ofNat 32 (f.log.length-(max f.next (f.log.length-f.queueSize)+1))⟩) := by
  have several := follows.several
  have reached := follows.reached
  have lag := follows.updatesAvailable_eq inTime
  split
  next read =>
    have available : f.node.updatesAvailable f.subscription.lastGeneration = 0 := by
      rw [read,Nat.sub_self] at lag
      exact BitVec.eq_of_toNat_eq lag
    simp [update,orbDataCopy,follows.advertised,available]
  next unread =>
    have available : f.node.updatesAvailable f.subscription.lastGeneration ≠ 0 := by
      intro zero
      rw [zero,show (0 : BitVec 32).toNat = 0 from rfl] at lag
      omega
    have nonempty : f.log ≠ [] := by
      intro empty
      rw [empty,length_nil] at reached unread
      omega
    obtain ⟨slots,allocated⟩ := Option.isSome_iff_exists.mp (follows.allocated nonempty)
    have differs : f.node.generation ≠ f.subscription.lastGeneration := by
      intro same
      rw [updatesAvailable,same,BitVec.sub_self] at available
      exact available rfl
    have copied := copy_behind allocated several differs
    rw [updatesAvailable] at lag
    have size : f.node.queueSize.toNat = f.queueSize := rfl
    rw [lag,size] at copied
    dsimp only at copied
    obtain ⟨k,count⟩ : ∃ k, min (f.log.length-f.next) f.queueSize = k+1 :=
      ⟨min (f.log.length-f.next) f.queueSize-1,by omega⟩
    have held := follows.holds (k+1) (by omega) (by omega) (by omega)
    have place : f.log.length-(k+1) = max f.next (f.log.length-f.queueSize) := by omega
    have rest : f.log.length-(max f.next (f.log.length-f.queueSize)+1) = k := by omega
    rw [allocated,Option.getD_some,place] at held
    refine ⟨_,held,?_⟩
    rw [count,sub_ofNat_succ] at copied
    rw [rest]
    simp only [update,orbDataCopy,follows.advertised,available,copied,decide_false,Bool.and_false,
      Bool.not_true,Bool.false_eq_true,if_false,Option.elim_some]
    rfl

lemma delivers_of_follows (f : Feed α) (event : OrbEvent α) (inTime : InTime f event) (follows : Follows f) :
    Delivers f event := by
  cases event with
  | write message => trivial
  | update =>
    have updated := update_eq follows inTime
    have oldest := oldest_eq follows
    split at updated
    next read => exact ⟨by simp [updated,read],by simp [updated]⟩
    next unread =>
      obtain ⟨message,found,result⟩ := updated
      rw [if_neg unread] at oldest
      refine ⟨by simp [result,unread],fun message' same => ?_⟩
      rw [result] at same
      obtain rfl := Option.some.inj same
      exact ⟨_,oldest,found⟩

lemma follows_write (follows : Follows f) (message : α) : Follows (f.step (.write message)) := by
  have reached := follows.reached
  refine ⟨follows.advertised,follows.several,follows.divides,fun _ => rfl,?_,?_,?_,follows.increasing,follows.past,?_⟩
  · exact Ring.holds_write follows.divides follows.holds message
  · change f.next ≤ (f.log ++ [message]).length
    rw [length_append]
    omega
  · change f.node.generation + 1 - f.subscription.lastGeneration = ofNat 32 ((f.log ++ [message]).length - f.next)
    have longer : (f.log ++ [message]).length - f.next = f.log.length - f.next + 1 := by
      rw [length_append,length_singleton]
      omega
    rw [longer,ofNat_add,← follows.behind]
    exact add_sub_right_comm _ _ _
  · intro i before fresh
    have lost := follows.skipped i before fresh
    change i + f.queueSize < (f.log ++ [message]).length
    rw [length_append]
    omega

lemma follows_update (follows : Follows f) (inTime : InTime f .update) : Follows (f.step .update) := by
  have reached := follows.reached
  have several := follows.several
  have updated := update_eq follows inTime
  have oldest := oldest_eq follows
  split at updated
  next read =>
    have same : f.step .update = {f with sinceRead := 0} := by simp [step,updated]
    rw [same]
    exact {follows with}
  next unread =>
    obtain ⟨message,-,result⟩ := updated
    rw [if_neg unread] at oldest
    have next : (f.step .update).next = max f.next (f.log.length-f.queueSize)+1 := by simp [step,next,result,oldest]
    have delivered : (f.step .update).delivered = f.delivered ++ [max f.next (f.log.length - f.queueSize)] := by
      simp [step,result,oldest]
    have log : (f.step .update).log = f.log := rfl
    have size : (f.step .update).queueSize = f.queueSize := rfl
    refine ⟨follows.advertised,several,follows.divides,follows.allocated,follows.holds,?_,?_,?_,?_,?_⟩
    · rw [next,log]
      omega
    · rw [next]
      simp only [step,result]
      exact sub_sub_cancel _ _
    · rw [delivered,pairwise_append]
      refine ⟨follows.increasing,pairwise_singleton _ _,fun i old j new => ?_⟩
      rw [mem_singleton.mp new]
      have before := follows.past i old
      omega
    · intro i found
      rw [delivered,mem_append,mem_singleton] at found
      rw [next]
      rcases found with old | new
      · have before := follows.past i old
        omega
      · omega
    · intro i before fresh
      rw [delivered,mem_append,mem_singleton,not_or] at fresh
      rw [next] at before
      rw [log,size]
      by_cases passed : i < f.next
      · exact follows.skipped i passed fresh.1
      · omega

lemma follows_step (f : Feed α) (event : OrbEvent α) (inTime : InTime f event) (follows : Follows f) :
    Follows (f.step event) := by
  cases event with
  | write message => exact follows_write follows message
  | update => exact follows_update follows inTime

structure Written (rounded : BitVec 8) (previous : List α) (node : DeviceNode α) : Prop where
  advertised : node.advertised = true
  size : node.queueSize = rounded
  valid : node.dataValid = !previous.isEmpty
  allocated : previous ≠ [] → node.data.isSome = true
  holds : Ring.Holds rounded.toNat (node.data.getD fun _ => default) node.generation previous

lemma written_foldl (queueSize : BitVec 8) (generation : BitVec 32) (previous : List α) :
    Written (roundPowOfTwo8 queueSize) previous (previous.foldl write (create queueSize generation)) := by
  refine foldl_history (Written (roundPowOfTwo8 queueSize)) ?_ (fun before message written => ?_) previous
  · exact ⟨rfl,rfl,rfl,fun nonempty => absurd rfl nonempty,Ring.holds_nil _ _⟩
  · refine ⟨written.advertised,written.size,by simp [write],fun _ => rfl,?_⟩
    have kept := Ring.holds_write (queueSize_divides queueSize) written.holds message
    rw [← written.size] at kept ⊢
    exact kept

lemma follows_start {queueSize : BitVec 8} (several : 2 ≤ (roundPowOfTwo8 queueSize).toNat)
    (generation : BitVec 32) (previous : List α) : Follows (start queueSize generation previous) := by
  have written := written_foldl queueSize generation previous
  have size : (start queueSize generation previous).queueSize = (roundPowOfTwo8 queueSize).toNat :=
    congrArg BitVec.toNat written.size
  have last : (start queueSize generation previous).log = previous.getLast?.toList := rfl
  refine ⟨written.advertised,size ▸ several,size ▸ queueSize_divides queueSize,?_,?_,Nat.zero_le _,?_,
    List.Pairwise.nil,by simp [start],fun i before => absurd before (Nat.not_lt_zero i)⟩
  · intro nonempty
    exact written.allocated (by rintro rfl; exact nonempty rfl)
  · intro back positive near within
    rw [last] at within ⊢
    rcases eq_nil_or_concat' previous with rfl | ⟨older,message,rfl⟩
    · simp at within
      omega
    simp only [getLast?_concat,Option.toList_some,length_singleton] at within ⊢
    obtain rfl : back = 1 := by omega
    have held := written.holds 1 (by omega) (by omega) (by simp)
    rw [size]
    simpa [start] using held
  · rw [last]
    have valid := written.valid
    rcases eq_nil_or_concat' previous with rfl | ⟨older,message,rfl⟩
    · simp [start,subscribe,getInitialGeneration,create,next]
    · simp only [start,subscribe,getInitialGeneration,valid]
      simp [next]

/-- An update delivers the oldest new message; none comes twice, and only those are skipped that have left the queue. -/
theorem delivers_in_order (queueSize : BitVec 8) (several : 2 ≤ (roundPowOfTwo8 queueSize).toNat)
    (generation : BitVec 32) (previous : List α) (events : List (OrbEvent α))
    (inTime : Along step InTime (start queueSize generation previous) events) :
    Along step Delivers (start queueSize generation previous) events ∧
      let f := events.foldl step (start queueSize generation previous)
      f.delivered.Pairwise (· < ·) ∧ ∀ i < f.next, i ∉ f.delivered → i + f.queueSize < f.log.length := by
  have begun := follows_start several generation previous
  have ended := foldl_invariant Follows follows_step inTime begun
  exact ⟨along_of_invariant Follows follows_step delivers_of_follows inTime begun,ended.increasing,ended.skipped⟩

def turned : List (OrbEvent Nat) :=
  [.write 0,.write 1,.update] ++ List.replicate (2^32 - 1) (.write 2) ++ [.update]

theorem delivered_two : (([.write 0,.write 1,.update] : List (OrbEvent Nat)).foldl step (start 2 0 [])).delivered = [0] ∧
    Along step Delivers (start 2 0 []) ([.write 0,.write 1,.update] : List (OrbEvent Nat)) := by
  refine ⟨by decide,(delivers_in_order 2 (by decide) 0 [] _ ?_).1⟩
  exact ⟨trivial,trivial,(by decide : 2 < 0+2^32),trivial⟩

lemma foldl_write (f : Feed α) (message : α) (count : Nat) :
    let g := (List.replicate count (.write message)).foldl step f
    g.node.generation = f.node.generation+ofNat 32 count ∧ g.node.advertised = f.node.advertised ∧
      g.subscription = f.subscription ∧ g.delivered = f.delivered ∧ g.log.length = f.log.length+count ∧
      g.sinceRead = f.sinceRead+count := by
  induction count generalizing f with
  | zero => simp
  | succ count ih =>
    obtain ⟨generation,advertised,subscription,delivered,length,since⟩ := ih (f.step (.write message))
    rw [replicate_succ,foldl_cons]
    refine ⟨?_,advertised,subscription,delivered,?_,?_⟩
    · rw [generation,ofNat_add]
      simp only [step,write]
      rw [add_assoc,add_comm 1]
      rfl
    · rw [length]
      simp only [step,length_append,length_singleton]
      omega
    · rw [since]
      simp only [step]
      omega

lemma along_write (free : ∀ f message, P f (.write message)) (f : Feed α)
    (message : α) (count : Nat) : Along step P f (List.replicate count (.write message)) := by
  induction count generalizing f with
  | zero => trivial
  | succ count ih => exact ⟨free f message,ih _⟩

/-- The second update is a whole turn behind: it takes the counters for equal and delivers nothing. -/
theorem lost_after_turn : Along step ReadOften (start 2 0 []) turned ∧
    ¬ Along step Delivers (start 2 0 []) turned := by
  obtain ⟨generation,advertised,subscription,delivered,length,since⟩ :=
    foldl_write (([.write 0,.write 1,.update] : List (OrbEvent Nat)).foldl step (start 2 0 [])) 2 (2^32-1)
  refine ⟨?_,fun all => ?_⟩
  · refine (along_append _ _ _).mpr ⟨(along_append _ _ _).mpr ⟨?_,along_write (fun _ _ => trivial) _ _ _⟩,?_,
      trivial⟩
    · exact ⟨trivial,trivial,(by decide : 2 < 2^32),trivial⟩
    · rw [List.foldl_append]
      change Feed.sinceRead _ < _
      rw [since]
      decide
  · obtain ⟨-,⟨idle,-⟩,-⟩ := (along_append _ _ _).mp all
    rw [List.foldl_append] at idle
    have nothing := idle.mp ?_
    · rw [length,next,delivered] at nothing
      exact absurd nothing (by decide)
    · simp only [update,orbDataCopy,updatesAvailable,generation,advertised,subscription]
      decide

end Feed
end AerialManipulator
