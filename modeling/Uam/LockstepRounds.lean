import Uam.LockstepHandshake
import Mathlib.Algebra.Order.BigOperators.Group.Finset
import Mathlib.Data.Fintype.BigOperators

/-! All threads with the list of records and the clock. In a round the list is a part the clock has
left behind and a part it has yet to see to, which only gets shorter. -/
namespace AerialManipulator
open Linked ClockPc List
open Or (inl inr)

def LockstepEvent.caller {ι : Type} : LockstepEvent ι → Option ι
  | .call i _ => some i
  | _ => none

def ClockPhase.left : ClockPhase → Nat
  | .checked => 5
  | .locking => 4
  | .holding => 3
  | .timed => 2
  | .notified => 1

def WaiterPc.left : WaiterPc → Nat
  | .out _ => 0
  | .relocking => 1
  | .queued => 2
  | .yielding => 3
  | .finished _ => 4
  | .read _ => 5
  | .awake => 6
  | .woken => 7
  | .asleep => 8
  | .linked => 9
  | .enter => 10

namespace ClockPc
variable {ι : Type} [DecidableEq ι] {i cur : ι} {tail : List ι} {prev next : Option ι} {phase : ClockPhase}

lemma view_visit_of_ne (other : i ≠ cur) :
    view (cur::tail) i (.visit prev next) = if i ∈ tail then .ahead else .passed :=
  ite_congr (by simp [other]) (fun _ => rfl) fun _ => rfl

lemma view_busy_of_ne (other : i ≠ cur) :
    view (cur::tail) i (.busy prev cur phase) = if i ∈ tail then .ahead else .passed := by
  rw [view,if_neg other]
  exact ite_congr (by simp [other]) (fun _ => rfl) fun _ => rfl

omit [DecidableEq ι] in
lemma busy_of_touched {pc : ClockPc ι} (touched : pc.touched = some i) :
    ∃ prev phase, pc = .busy prev i phase ∧ ∀ r, ¬phase.view.Apart r := by
  cases pc with
  | busy prev cur phase =>
    cases phase with
    | checked => cases touched
    | _ =>
      cases touched
      exact ⟨prev,_,rfl,fun r => by simp [ClockPhase.view,ClockView.Apart]⟩
  | _ => cases touched

end ClockPc

namespace Lockstep
variable {ι : Type} [DecidableEq ι]

structure Sound (s : Lockstep ι) (nodes rest : List ι) : Prop where
  chain : Chain s.next s.timedWaits nodes
  listed : ∀ i, i ∈ nodes ↔ (s.waits i).removed = false
  flag : s.settingTime = s.clock.setting
  place : ∀ prev cur, s.clock.position = some (prev,cur) →
    ∃ before, nodes = before ++ rest ∧ prev = before.getLast? ∧ cur = rest.head?
  good : ∀ i, Good s.timeUs (s.clock.view rest i) (s.waiters i) (s.waits i)

def clockRank (nodes rest : List ι) : ClockPc ι → Nat
  | .idle => 0
  | .unlocking => 1
  | .ending => 2
  | .visit _ _ => 3 + 7 * rest.length
  | .busy _ _ phase => 3 + 7 * rest.tail.length + phase.left
  | .locked => 4 + 7 * nodes.length
  | .timeSet => 5 + 7 * nodes.length

def Blocked (s : Lockstep ι) : Prop :=
  ∃ prev cur, s.clock = .busy prev cur .locking ∧ s.waiterHolds cur (s.waits cur).call = true

namespace Sound
variable {s : Lockstep ι} {nodes rest : List ι}

lemma new : Sound (new : Lockstep ι) [] [] := by
  refine ⟨rfl,fun i => ?_,rfl,?_,fun i => Good.of_outside rfl ⟨?_,?_,?_⟩ ?_ (inr (inl rfl))⟩
  · exact iff_of_false not_mem_nil (by simp [Lockstep.new])
  all_goals simp [Lockstep.new,position]

lemma setThread (sound : Sound s nodes rest) {r : TimedWait}
    (same : r.removed = (s.waits i).removed) (good : Good s.timeUs (s.clock.view rest i) w r) :
    Sound ((s.setWait i r).setWaiter i w) nodes rest := by
  refine ⟨sound.chain,fun j => ?_,sound.flag,sound.place,fun j => ?_⟩
  · by_cases here : j = i
    · subst here
      rw [sound.listed,← same]
      simp [setWaiter,setWait]
    · rw [sound.listed]
      simp [setWaiter,setWait,here]
  · by_cases here : j = i
    · subst here
      simpa [setWaiter,setWait] using good
    · simpa [setWaiter,setWait,here] using sound.good j

lemma setWaiter (sound : Sound s nodes rest)
    (good : Good s.timeUs (s.clock.view rest i) w (s.waits i)) : Sound (s.setWaiter i w) nodes rest := by
  have same : s.setWait i (s.waits i) = s := by rw [Lockstep.setWait,Function.update_eq_self]
  exact same ▸ sound.setThread rfl good

lemma view_of_mutexFree (free : s.clock.mutexFree) (others : List ι) (i : ι) :
    s.clock.view others i = .ahead ∨ s.clock.view others i = .passed := by
  cases pc : s.clock with
  | idle => exact inr rfl
  | timeSet => exact inl rfl
  | _ =>
    rw [pc] at free
    cases free

omit [DecidableEq ι] in
lemma position_of_mutexFree (free : s.clock.mutexFree) : s.clock.position = none := by
  cases pc : s.clock with
  | idle | timeSet => rfl
  | _ =>
    rw [pc] at free
    cases free

lemma view_of_not_setting (over_ : s.clock.setting = false) (i : ι) :
    s.clock.view rest i = .ahead ∨ s.clock.view rest i = .passed := by
  cases pc : s.clock with
  | idle | unlocking => exact inr rfl
  | timeSet | locked => exact inl rfl
  | _ =>
    rw [pc] at over_
    cases over_

lemma away_of_free (free : s.clockHolds i (s.waiters i).calls = false)
    (current : Current (s.waiters i) (s.waits i)) : (s.clock.view rest i).Away := by
  have unheld : s.clock.held ≠ some i := by
    intro held
    rw [clockHolds,held,current.call] at free
    simp at free
  cases pc : s.clock with
  | idle | ending | unlocking => exact inr (inr (inr rfl))
  | timeSet | locked => exact inl rfl
  | visit prev cur =>
    rw [view]
    split
    · exact inl rfl
    · exact inr (inr (inr rfl))
  | busy prev cur phase =>
    rw [pc] at unheld
    rw [view]
    split
    next here =>
      subst here
      cases phase with
      | checked => exact inr (inl rfl)
      | locking => exact inr (inr (inl rfl))
      | _ => exact absurd rfl unheld
    · split
      · exact inl rfl
      · exact inr (inr (inr rfl))

lemma link (sound : Sound s nodes rest) (i : ι) :
    ∃ nodes', Chain (s.link i).next (s.link i).timedWaits nodes' ∧ ∀ j, j ∈ nodes' ↔ j = i ∨ j ∈ nodes := by
  rw [Lockstep.link]
  split
  next removed =>
    have fresh : i ∉ nodes := fun member => Bool.false_ne_true (((sound.listed i).mp member).symm.trans removed)
    refine ⟨i::nodes,⟨rfl,?_⟩,fun j => mem_cons⟩
    dsimp only
    rw [Function.update_self]
    exact sound.chain.update_of_notMem fresh _
  next listed =>
    have member := (sound.listed i).mpr (Bool.eq_false_iff.mpr listed)
    refine ⟨nodes,sound.chain,fun j => ⟨inr,fun either => ?_⟩⟩
    rcases either with rfl | inside
    · exact member
    · exact inside

lemma register (sound : Sound s nodes rest) (free : s.clock.mutexFree)
    (pc : (s.waiters i).pc = .enter) : ∃ nodes', Sound (s.register i) nodes' rest := by
  rw [Lockstep.register]
  split
  next due => exact ⟨nodes,sound.setWaiter ((sound.good i).expire pc due)⟩
  next future =>
    obtain ⟨nodes',chain,members⟩ := sound.link i
    have good := Good.register (Nat.lt_of_not_le future) (view_of_mutexFree free rest i)
    have rest_ : (s.link i).settingTime = s.settingTime ∧ (s.link i).clock = s.clock ∧ (s.link i).timeUs = s.timeUs ∧
        (s.link i).waiters = s.waiters ∧ (s.link i).waits = s.waits := by
      rw [Lockstep.link]
      split <;> exact ⟨rfl,rfl,rfl,rfl,rfl⟩
    obtain ⟨flag,clock,time,waiters,waits⟩ := rest_
    refine ⟨nodes',chain,fun j => ?_,?_,?_,fun j => ?_⟩
    · rw [members,sound.listed]
      by_cases here : j = i
      · simp [setPc,Lockstep.setWaiter,setWait,here]
      · simp [setPc,Lockstep.setWaiter,setWait,here,waits]
    · exact flag.trans (sound.flag.trans (congrArg _ clock.symm))
    · intro prev cur position
      have none := position_of_mutexFree free
      rw [← clock] at none
      exact absurd (none.symm.trans position) (by simp)
    · by_cases here : j = i
      · subst here
        simpa [setPc,Lockstep.setWaiter,setWait,clock,time,waiters] using good
      · simpa [setPc,Lockstep.setWaiter,setWait,clock,time,waiters,waits,here] using sound.good j

lemma waiterStep (sound : Sound s nodes rest) (i : ι) :
    ∃ nodes', Sound (s.waiterStep i) nodes' rest ∧ ((s.waiters i).pc ≠ .enter → nodes' = nodes) := by
  by_cases entering : (s.waiters i).pc = .enter
  · rw [Lockstep.waiterStep,entering]
    dsimp only
    split
    next free =>
      obtain ⟨nodes',moved⟩ := sound.register free entering
      exact ⟨nodes',moved,fun other => absurd rfl other⟩
    · exact ⟨nodes,sound,fun _ => rfl⟩
  refine ⟨nodes,?_,fun _ => rfl⟩
  have good := sound.good i
  rw [Lockstep.waiterStep]
  split
  · exact sound
  next pc => exact absurd pc entering
  next pc => exact sound.setWaiter (good.sleep pc)
  · exact sound
  next pc =>
    split
    · exact sound
    next free =>
      have current := good.current (by rw [pc]; rfl)
      exact sound.setWaiter (good.wake pc (away_of_free (Bool.eq_false_iff.mpr free) current))
  next pc => exact sound.setWaiter (good.read pc)
  next timeout pc => exact sound.setThread rfl (good.finish pc)
  next timeout pc =>
    refine sound.setWaiter ?_
    cases timeout with
    | true => exact good.leave pc (inl rfl)
    | false =>
      rw [sound.flag]
      cases setting : s.clock.setting with
      | true => exact good.yield pc
      | false =>
        refine good.leave pc (inr ?_)
        rcases view_of_not_setting setting i with ahead | passed
        · rw [ahead]
          simp
        · rw [passed]
          simp
  next pc => exact sound.setWaiter (good.unlock pc)
  next pc =>
    split
    next free => exact sound.setWaiter (good.proceed pc (view_of_mutexFree free rest i))
    · exact sound
  next pc =>
    split
    · exact sound
    · exact sound.setWaiter (good.relock pc)

section
variable {prev : Option ι} {cur : ι} {phase : ClockPhase}

section
variable (sound : Sound s nodes rest)
include sound

lemma rest_eq (pc : s.clock.position = some (prev,some cur)) :
    ∃ before tail, rest = cur::tail ∧ nodes = before ++ cur::tail ∧ prev = before.getLast? ∧ cur ∉ tail ∧
      s.next cur = tail.head? := by
  obtain ⟨before,split,last,first⟩ := sound.place prev (some cur) pc
  obtain ⟨tail,rfl⟩ := head?_eq_some_iff.mp first.symm
  have chain := sound.chain
  rw [split] at chain
  exact ⟨before,tail,rfl,split,last,(nodup_cons.mp (nodup_append.mp chain.nodup).2.1).1,chain.link_eq⟩

section
variable (pc : s.clock = .busy prev cur phase)
include pc

lemma setBusy (next : ClockPhase) (good : Good s.timeUs next.view w r) (same : r.removed = (s.waits cur).removed) :
    Sound (((s.setWait cur r).setWaiter cur w).setClock (.busy prev cur next)) nodes rest := by
  refine ⟨sound.chain,fun i => ?_,?_,?_,fun i => ?_⟩
  · rw [sound.listed]
    by_cases here : i = cur
    · simp [setClock,Lockstep.setWaiter,setWait,here,same]
    · simp [setClock,Lockstep.setWaiter,setWait,here]
  · have flag := sound.flag
    rw [pc] at flag
    exact flag
  · have place := sound.place
    rw [pc] at place
    exact place
  · have other := sound.good i
    rw [pc] at other
    by_cases here : i = cur
    · simpa [setClock,Lockstep.setWaiter,setWait,view,here] using good
    · simpa [setClock,Lockstep.setWaiter,setWait,view,here] using other

lemma setPhase {next : ClockPhase} (good : Good s.timeUs next.view (s.waiters cur) (s.waits cur)) :
    Sound (s.setClock (.busy prev cur next)) nodes rest := by
  have same : (s.setWait cur (s.waits cur)).setWaiter cur (s.waiters cur) = s := by simp [Lockstep.setWaiter,setWait]
  have moved := sound.setBusy pc next good rfl
  rwa [same] at moved

lemma moveOn (good : Good s.timeUs .passed (s.waiters cur) (s.waits cur)) :
    Sound (s.setClock (.visit (some cur) (s.next cur))) nodes rest.tail := by
  have position : s.clock.position = some (prev,some cur) := by
    rw [pc]
    rfl
  obtain ⟨before,tail,rfl,split,_,alone,next⟩ := sound.rest_eq position
  refine ⟨sound.chain,sound.listed,?_,?_,fun i => ?_⟩
  · have flag := sound.flag
    rw [pc] at flag
    exact flag
  · intro prev' cur' position
    cases position
    exact ⟨before ++ [cur],by rw [split]; simp,getLast?_concat.symm,next⟩
  · have other := sound.good i
    rw [pc] at other
    by_cases here : i = cur
    · simpa [setClock,view,here,alone] using good
    · rw [view_busy_of_ne here] at other
      exact other

lemma busyStep : ∃ rest', Sound (s.busyStep prev cur phase) nodes rest' ∧
      (clockRank nodes rest' (s.busyStep prev cur phase).clock < clockRank nodes rest s.clock ∨ s.Blocked) := by
  have good := sound.good cur
  rw [pc,view,if_pos rfl] at good
  cases phase with
  | checked =>
    rw [Lockstep.busyStep]
    split
    next due =>
      rw [Bool.and_eq_true,decide_eq_true_eq,Bool.not_eq_true'] at due
      refine ⟨rest,sound.setPhase pc (good.to_locking due.1 due.2),inl ?_⟩
      simp [pc,setClock,clockRank,ClockPhase.left]
    next spared =>
      refine ⟨rest.tail,sound.moveOn pc (good.pass fun fresh => ?_),inl ?_⟩
      · simpa [fresh] using spared
      · simp [pc,setClock,clockRank,ClockPhase.left]
  | locking =>
    rw [Lockstep.busyStep]
    split
    next owned => exact ⟨rest,sound,inr ⟨prev,cur,pc,owned⟩⟩
    next free =>
      refine ⟨rest,sound.setPhase pc (good.to_holding fun owner => free ?_),inl ?_⟩
      · rw [waiterHolds,owner.1,owner.2]
        simp
      · simp [pc,setClock,clockRank,ClockPhase.left]
  | holding =>
    have same : (s.setWait cur {s.waits cur with timeout := true}).setWaiter cur (s.waiters cur) =
        s.setWait cur {s.waits cur with timeout := true} := by
      simp [Lockstep.setWaiter,setWait]
    have moved := sound.setBusy pc .timed good.to_timed rfl
    rw [same] at moved
    refine ⟨rest,moved,inl ?_⟩
    simp [pc,Lockstep.busyStep,setClock,clockRank,ClockPhase.left]
  | timed =>
    have same : s.setWait cur (s.waits cur) = s := by simp [setWait]
    have moved := sound.setBusy pc .notified good.to_notified rfl
    rw [same] at moved
    refine ⟨rest,moved,inl ?_⟩
    simp [pc,Lockstep.busyStep,setClock,clockRank,ClockPhase.left]
  | notified =>
    refine ⟨rest.tail,sound.moveOn pc good.to_passed,inl ?_⟩
    simp [pc,Lockstep.busyStep,setClock,clockRank,ClockPhase.left]

end
end

lemma chain_eraseWait {before tail : List ι} (chain : Chain s.next s.timedWaits (before ++ cur::tail)) :
    Chain (s.eraseWait before.getLast? cur).next (s.eraseWait before.getLast? cur).timedWaits (before ++ tail) := by
  cases before using List.reverseRecOn with
  | nil => exact chain.2
  | append_singleton front p _ =>
    rw [getLast?_concat,append_assoc,singleton_append]
    rw [append_assoc,singleton_append] at chain
    exact chain.bypass

section
variable (sound : Sound s nodes rest)
include sound

lemma eraseWait (pc : s.clock = .visit prev (some cur)) (closed : (s.waits cur).done) :
    ∃ nodes', Sound ((s.eraseWait prev cur).setClock (.visit prev (s.next cur))) nodes' rest.tail := by
  have position : s.clock.position = some (prev,some cur) := by
    rw [pc]
    rfl
  obtain ⟨before,tail,rfl,split,last,alone,next⟩ := sound.rest_eq position
  have chain := sound.chain
  rw [split] at chain
  have front : cur ∉ before := fun member => (nodup_append.mp chain.nodup).2.2 cur member cur mem_cons_self rfl
  have others : (s.eraseWait prev cur).settingTime = s.settingTime ∧ (s.eraseWait prev cur).timeUs = s.timeUs ∧
      (s.eraseWait prev cur).waiters = s.waiters ∧
      (s.eraseWait prev cur).waits = Function.update s.waits cur {s.waits cur with removed := true} := by
    cases prev with
    | none | some p => exact ⟨rfl,rfl,rfl,rfl⟩
  obtain ⟨flag,time,waiters,waits⟩ := others
  rw [tail_cons]
  refine ⟨before ++ tail,?_,fun i => ?_,?_,?_,fun i => ?_⟩
  · rw [last]
    exact chain_eraseWait chain
  · have listed := sound.listed i
    rw [split] at listed
    by_cases here : i = cur
    · subst here
      simp [setClock,waits,front,alone]
    · simpa [setClock,waits,here] using listed
  · have setting := sound.flag
    rw [pc] at setting
    exact flag.trans setting
  · intro prev' cur' position
    cases position
    exact ⟨before,rfl,last,next⟩
  · have good := sound.good i
    rw [pc] at good
    by_cases here : i = cur
    · subst here
      rw [view,if_pos mem_cons_self] at good
      simpa [setClock,view,waits,waiters,time,alone] using good.erase closed
    · rw [view_visit_of_ne here] at good
      simpa [setClock,view,waits,waiters,time,here] using good

lemma setClock {pc : ClockPc ι} {flag : Bool} (set : flag = pc.setting)
    (off : pc.position = none) (view : ∀ i, pc.view rest i = s.clock.view rest i) :
    Sound ({s with settingTime := flag}.setClock pc) nodes rest := by
  refine ⟨sound.chain,sound.listed,set,?_,fun i => ?_⟩
  · intro prev cur position
    exact absurd (off.symm.trans position) nofun
  · have good := sound.good i
    rw [← view i] at good
    exact good

lemma startRound (pc : s.clock = .locked) :
    Sound ({s with settingTime := true}.setClock (.visit none s.timedWaits)) nodes nodes := by
  refine ⟨sound.chain,sound.listed,rfl,?_,fun i => ?_⟩
  · intro prev cur position
    cases position
    exact ⟨[],rfl,rfl,sound.chain.head_eq⟩
  · have good := sound.good i
    rw [pc] at good
    by_cases member : i ∈ nodes
    · simpa [Lockstep.setClock,view,member] using good
    · have gone : (s.waits i).removed := by
        rw [sound.listed] at member
        simpa using member
      simpa [Lockstep.setClock,view,member] using good.unlisted gone

lemma openWait (pc : s.clock = .visit prev (some cur))
    (opened : (s.waits cur).done = false) : Sound (s.setClock (.busy prev cur .checked)) nodes rest := by
  have position : s.clock.position = some (prev,some cur) := by
    rw [pc]
    rfl
  obtain ⟨before,tail,rfl,split,last,_,_⟩ := sound.rest_eq position
  have listed : (s.waits cur).removed = false := by
    rw [← sound.listed,split]
    exact mem_append_right _ mem_cons_self
  refine ⟨sound.chain,sound.listed,?_,?_,fun i => ?_⟩
  · have flag := sound.flag
    rw [pc] at flag
    exact flag
  · intro prev' cur' position
    cases position
    exact ⟨before,split,last,rfl⟩
  · have good := sound.good i
    rw [pc] at good
    by_cases here : i = cur
    · subst here
      rw [view,if_pos mem_cons_self] at good
      simpa [Lockstep.setClock,view,ClockPhase.view] using good.to_checked listed opened
    · rw [view_visit_of_ne here] at good
      simpa only [Lockstep.setClock,view_busy_of_ne here] using good

lemma visit {cur : Option ι} (pc : s.clock = .visit prev cur) : ∃ nodes' rest', Sound s.clockStep nodes' rest' ∧
      clockRank nodes' rest' s.clockStep.clock < clockRank nodes rest s.clock := by
  obtain ⟨before,_,_,first⟩ := sound.place prev cur (by rw [pc]; rfl)
  rw [Lockstep.clockStep,pc]
  cases rest with
  | nil =>
    rw [first]
    refine ⟨nodes,[],sound.setClock (sound.flag.trans ?_) rfl fun i => ?_,?_⟩
    · rw [pc]
      rfl
    · rw [pc]
      rfl
    · simp [Lockstep.setClock,clockRank]
  | cons cur tail =>
    obtain rfl := first
    dsimp only [head?_cons,Option.elim_some]
    split
    next closed =>
      obtain ⟨nodes',moved⟩ := sound.eraseWait pc closed
      refine ⟨nodes',tail,moved,?_⟩
      simp [Lockstep.setClock,clockRank]
    next opened =>
      refine ⟨nodes,cur::tail,sound.openWait pc (Bool.eq_false_iff.mpr opened),?_⟩
      simp [Lockstep.setClock,clockRank,ClockPhase.left]
      omega

lemma clockStep : ∃ nodes' rest', Sound s.clockStep nodes' rest' ∧
      (clockRank nodes' rest' s.clockStep.clock < clockRank nodes rest s.clock ∨ s.clock = .idle ∨ s.Blocked) := by
  have flag := sound.flag
  cases pc : s.clock with
  | idle =>
    rw [Lockstep.clockStep,pc]
    exact ⟨nodes,rest,sound,inr (inl rfl)⟩
  | timeSet =>
    rw [pc] at flag
    rw [Lockstep.clockStep,pc]
    refine ⟨nodes,rest,sound.setClock flag rfl fun i => ?_,inl ?_⟩
    · rw [pc]
      rfl
    · simp [Lockstep.setClock,clockRank]
  | locked =>
    rw [Lockstep.clockStep,pc]
    refine ⟨nodes,nodes,sound.startRound pc,inl ?_⟩
    simp [Lockstep.setClock,clockRank]
  | visit prev cur =>
    obtain ⟨nodes',rest',moved,rank⟩ := sound.visit pc
    rw [pc] at rank
    exact ⟨nodes',rest',moved,inl rank⟩
  | busy prev cur phase =>
    obtain ⟨rest',moved,rank⟩ := sound.busyStep pc
    rw [pc] at rank
    rw [Lockstep.clockStep,pc]
    exact ⟨nodes,rest',moved,rank.imp id inr⟩
  | ending =>
    rw [Lockstep.clockStep,pc]
    refine ⟨nodes,rest,sound.setClock rfl rfl fun i => ?_,inl (Nat.lt_succ_self 1)⟩
    rw [pc]
    rfl
  | unlocking =>
    rw [pc] at flag
    rw [Lockstep.clockStep,pc]
    refine ⟨nodes,rest,sound.setClock flag rfl fun i => ?_,inl Nat.one_pos⟩
    rw [pc]
    rfl

end
end

lemma setTime (sound : Sound s nodes rest) (pc : s.clock = .idle) (later : s.timeUs < time) :
    Sound ({s with timeUs := time}.setClock .timeSet) nodes rest := by
  have good := sound.good
  have flag := sound.flag
  rw [pc] at good flag
  refine ⟨sound.chain,sound.listed,flag,?_,fun i => (good i).restart (Nat.le_of_lt later)⟩
  intro prev cur position
  cases position

lemma step (sound : Sound s nodes rest) (e : LockstepEvent ι) : ∃ nodes' rest', Sound (s.step e) nodes' rest' := by
  cases e with
  | call i deadline =>
    rw [Lockstep.step]
    split
    next pc => exact ⟨nodes,rest,sound.setWaiter ((sound.good i).call pc deadline)⟩
    · exact ⟨nodes,rest,sound⟩
  | waiter i =>
    obtain ⟨nodes',moved,_⟩ := sound.waiterStep i
    exact ⟨nodes',rest,moved⟩
  | signal i =>
    rw [Lockstep.step]
    split
    next pc => exact ⟨nodes,rest,sound.setWaiter ((sound.good i).signal pc)⟩
    · exact ⟨nodes,rest,sound⟩
  | setTime time =>
    rw [Lockstep.step]
    split
    next pc =>
      split
      next later => exact ⟨nodes,rest,sound.setTime pc later⟩
      · exact ⟨nodes,rest,sound⟩
    · exact ⟨nodes,rest,sound⟩
  | clock =>
    obtain ⟨nodes',rest',moved,_⟩ := sound.clockStep
    exact ⟨nodes',rest',moved⟩

lemma run (events : List (LockstepEvent ι)) :
    ∃ nodes rest, Sound (events.foldl Lockstep.step Lockstep.new) nodes rest :=
  Runs.foldl_preserved (fun s => ∃ nodes rest, Sound s nodes rest)
    (fun _ e ⟨_,_,sound⟩ => sound.step e) ⟨[],[],new⟩ events

end Sound

def Ready (s : Lockstep ι) (i : ι) : Prop :=
  match (s.waiters i).pc with
  | .out _ | .asleep => False
  | .enter | .queued => s.clock.mutexFree = true
  | .woken | .relocking => s.clockHolds i (s.waiters i).calls = false
  | _ => True

section
variable {s : Lockstep ι} {i j : ι}

lemma register_left (pc : (s.waiters i).pc = .enter) : ((s.register i).waiters i).pc.left < (s.waiters i).pc.left := by
  rw [pc,register]
  split <;> simp [setPc,setWaiter,WaiterPc.left]

lemma waiterStep_left (ready : s.Ready i) : ((s.waiterStep i).waiters i).pc.left < (s.waiters i).pc.left := by
  rw [Ready] at ready
  rw [waiterStep]
  cases pc : (s.waiters i).pc with
  | out timedOut | asleep => simp [pc] at ready
  | enter =>
    rw [pc] at ready
    simpa [ready,pc] using register_left pc
  | finished timeout =>
    dsimp only
    split <;> simp [setPc,setWaiter,WaiterPc.left]
  | _ =>
    rw [pc] at ready
    simp [ready,setPc,setWaiter,WaiterPc.left]

section
variable (s)

lemma waiterStep_frame (i : ι) :
    (s.waiterStep i).clock = s.clock ∧ ∀ j, j ≠ i → (s.waiterStep i).waiters j = s.waiters j := by
  have link : (s.link i).clock = s.clock ∧ (s.link i).waiters = s.waiters := by
    rw [link]
    split <;> exact ⟨rfl,rfl⟩
  have register : (s.register i).clock = s.clock ∧ ∀ j, j ≠ i → (s.register i).waiters j = s.waiters j := by
    rw [register]
    split
    · exact ⟨rfl,fun j other => by simp [setPc,setWaiter,other]⟩
    · exact ⟨link.1,fun j other => by simp [setPc,setWaiter,setWait,link.2,other]⟩
  rw [waiterStep]
  split
  case h_2 =>
    split
    · exact register
    · exact ⟨rfl,fun j _ => rfl⟩
  all_goals
    try split
    all_goals exact ⟨rfl,fun j other => by simp [setPc,setWaiter,setWait,other]⟩

lemma clockStep_waiters (i : ι) : (s.clockStep.waiters i).pc = (s.waiters i).pc ∨
      (s.waiters i).pc = .asleep ∧ (s.clockStep.waiters i).pc = .woken := by
  have same {s' : Lockstep ι} (unchanged : s'.waiters = s.waiters) : (s'.waiters i).pc = (s.waiters i).pc := by
    rw [unchanged]
  rw [clockStep]
  split
  case h_4 prev cur _ =>
    cases cur with
    | none => exact inl rfl
    | some cur =>
      refine inl (same ?_)
      rw [Option.elim_some]
      split
      · cases prev with
        | none | some p => rfl
      · rfl
  case h_5 prev cur phase _ =>
    cases phase with
    | timed =>
      by_cases here : i = cur
      · subst here
        by_cases sleeps : (s.waiters i).pc = .asleep ∧ (s.waiters i).calls = (s.waits i).call
        · exact inr ⟨sleeps.1,by simp [busyStep,setClock,setWaiter,sleeps]⟩
        · refine inl ?_
          rw [busyStep,if_neg sleeps]
          simp [setClock,setWaiter]
      · exact inl (by simp [busyStep,setClock,setWaiter,here])
    | checked | locking =>
      refine inl (same ?_)
      rw [busyStep]
      split <;> rfl
    | holding | notified => exact inl rfl
  all_goals exact inl rfl

lemma clockStep_left (i : ι) : (s.clockStep.waiters i).pc.left ≤ (s.waiters i).pc.left := by
  rcases s.clockStep_waiters i with same | ⟨asleep,woken⟩
  · rw [same]
  · rw [asleep,woken]
    exact Nat.le_succ 7

lemma step_out (e : LockstepEvent ι) (out : (s.waiters i).pc.left = 0) (other : e.caller ≠ some i) :
    ((s.step e).waiters i).pc.left = 0 := by
  cases e with
  | call j deadline =>
    have apart : i ≠ j := fun same => other (congrArg some same.symm)
    rw [step]
    split
    · simpa [setWaiter,apart] using out
    · exact out
  | waiter j =>
    by_cases here : i = j
    · subst here
      have idle : s.waiterStep i = s := by
        rw [waiterStep]
        cases pc : (s.waiters i).pc with
        | out timedOut => rfl
        | _ => simp [pc,WaiterPc.left] at out
      rw [step,idle]
      exact out
    · rw [step,(s.waiterStep_frame j).2 i here]
      exact out
  | signal j =>
    rw [step]
    split
    next asleep =>
      have apart : i ≠ j := by
        intro same
        rw [same,asleep] at out
        cases out
      simpa [setWaiter,apart] using out
    · exact out
  | setTime time =>
    rw [step]
    split
    · split <;> exact out
    · exact out
  | clock => exact Nat.le_zero.mp (out ▸ s.clockStep_left i)

end

lemma run_out (events : List (LockstepEvent ι)) (uncalled : i ∉ events.filterMap LockstepEvent.caller) :
    ((events.foldl step new).waiters i).pc.left = 0 := by
  induction events using List.reverseRecOn with
  | nil => rfl
  | append_singleton events e ih =>
    rw [filterMap_append,mem_append,not_or] at uncalled
    rw [foldl_append]
    refine step_out _ e (ih uncalled.1) fun caller => uncalled.2 ?_
    simp [caller]

def load (threads : Finset ι) (nodes rest : List ι) (s : Lockstep ι) : Nat :=
  (∑ i ∈ threads, (s.waiters i).pc.left)+clockRank nodes rest s.clock

variable {threads : Finset ι} {nodes rest : List ι}

lemma Sound.clock_lowers (sound : Sound s nodes rest) (started : s.clock ≠ .idle) (free : ¬s.Blocked) :
    ∃ nodes' rest', Sound s.clockStep nodes' rest' ∧
      s.clockStep.load threads nodes' rest' < s.load threads nodes rest := by
  obtain ⟨nodes',rest',moved,lower | idle | blocked⟩ := sound.clockStep
  · refine ⟨nodes',rest',moved,Nat.add_lt_add_of_le_of_lt ?_ lower⟩
    exact Finset.sum_le_sum fun i _ => s.clockStep_left i
  · exact absurd idle started
  · exact absurd blocked free

lemma Sound.waiter_lowers (sound : Sound s nodes rest) (member : i ∈ threads) (ready : s.Ready i)
    (kept : (s.waiters i).pc = .enter → s.clock = .idle) :
    ∃ nodes' rest', Sound (s.waiterStep i) nodes' rest' ∧
      (s.waiterStep i).load threads nodes' rest' < s.load threads nodes rest := by
  obtain ⟨nodes',moved,listed⟩ := sound.waiterStep i
  obtain ⟨clock,others⟩ := s.waiterStep_frame i
  have rank : clockRank nodes' rest s.clock = clockRank nodes rest s.clock := by
    by_cases entering : (s.waiters i).pc = .enter
    · rw [kept entering]
      rfl
    · rw [listed entering]
  refine ⟨nodes',rest,moved,?_⟩
  rw [load,load,clock,rank]
  refine Nat.add_lt_add_right (Finset.sum_lt_sum (fun j _ => ?_) ⟨i,member,waiterStep_left ready⟩) _
  by_cases here : j = i
  · subst here
    exact Nat.le_of_lt (waiterStep_left ready)
  · rw [others j here]

lemma ready_of_idle (idle : s.clock = .idle) (inside : ∀ timedOut, (s.waiters i).pc ≠ .out timedOut)
    (awake : (s.waiters i).pc ≠ .asleep) : s.Ready i := by
  rw [Ready]
  cases pc : (s.waiters i).pc with
  | out timedOut => exact inside timedOut pc
  | asleep => exact awake pc
  | enter | queued => exact idle ▸ rfl
  | woken | relocking => simp [clockHolds,idle,held]
  | _ => trivial

lemma ready_of_holdsLock (owner : (s.waiters i).pc.holdsLock) (inside : (s.waiters i).pc.isOutside = false) :
    s.Ready i := by
  rw [Ready]
  cases pc : (s.waiters i).pc with
  | enter =>
    rw [pc] at inside
    cases inside
  | linked | awake | read timeout | finished timeout | yielding => trivial
  | _ =>
    rw [pc] at owner
    cases owner

section
variable (sound : Sound s nodes rest) (called : ∀ i, i ∉ threads → (s.waiters i).pc.left = 0)
include sound called

lemma Sound.exists_lower
    (busy : ¬s.Quiescent) : ∃ e : LockstepEvent ι, e.isInternal ∧ ∃ nodes' rest', Sound (s.step e) nodes' rest' ∧
      (s.step e).load threads nodes' rest' < s.load threads nodes rest := by
  have member {i : ι} (ready : s.Ready i) : i ∈ threads := by
    by_contra outside
    exact Nat.not_lt_zero _ (called i outside ▸ waiterStep_left ready)
  by_cases idle : s.clock = .idle
  · have exists_busy : ∃ i, ¬((∃ timedOut, (s.waiters i).pc = .out timedOut) ∨ (s.waiters i).pc = .asleep) :=
      not_forall.mp fun rests => busy ⟨idle,rests⟩
    obtain ⟨i,moving⟩ := exists_busy
    obtain ⟨inside,awake⟩ := not_or.mp moving
    have ready := ready_of_idle idle (not_exists.mp inside) awake
    exact ⟨.waiter i,rfl,sound.waiter_lowers (member ready) ready fun _ => idle⟩
  · by_cases blocked : s.Blocked
    · obtain ⟨prev,i,pc,owner⟩ := blocked
      have good := sound.good i
      rw [pc,view,if_pos rfl] at good
      rw [waiterHolds,Bool.and_eq_true] at owner
      have inside := good.inside (by simp [ClockView.Apart,ClockPhase.view])
      have ready := ready_of_holdsLock owner.2 inside
      refine ⟨.waiter i,rfl,sound.waiter_lowers (member ready) ready fun entering => ?_⟩
      rw [entering] at inside
      cases inside
    · exact ⟨.clock,rfl,sound.clock_lowers idle blocked⟩

lemma Sound.exists_rest : ∃ events : List (LockstepEvent ι), (∀ e ∈ events, e.isInternal) ∧
      (events.foldl Lockstep.step s).Quiescent := by
  induction size : s.load threads nodes rest using Nat.strong_induction_on generalizing s nodes rest with
  | _ n ih =>
    by_cases quiescent : s.Quiescent
    · exact ⟨[],by simp,quiescent⟩
    obtain ⟨e,internal,nodes',rest',moved,lower⟩ := sound.exists_lower called quiescent
    have uncalled (i : ι) : e.caller ≠ some i := by
      cases e with
      | call j deadline => cases internal
      | _ => exact nofun
    obtain ⟨events,all,ends⟩ := ih _ (size ▸ lower) moved (fun i out => step_out s e (called i out) (uncalled i)) rfl
    exact ⟨e::events,forall_mem_cons.mpr ⟨internal,all⟩,ends⟩

lemma Sound.correct : s.Correct := by
  refine ⟨fun idle i sleeps => ?_,fun i out => ?_,fun i out => ?_,fun i touched => ?_,?_,sound.exists_rest called⟩
  · have good := sound.good i
    rw [idle] at good
    refine good.late ?_ rfl
    rcases sleeps with linked | asleep
    · rw [linked]
      rfl
    · rw [asleep]
      rfl
  · have facts := (sound.good i).facts
    rw [out] at facts
    exact facts.2.1 rfl
  · have facts := (sound.good i).facts
    rw [out] at facts
    exact facts.2.2 rfl
  · obtain ⟨prev,phase,pc,busy⟩ := busy_of_touched touched
    have good := sound.good i
    rw [pc,view,if_pos rfl] at good
    have inside := good.inside (busy _)
    refine ⟨(good.current inside).call,fun timedOut out => ?_⟩
    rw [out] at inside
    cases inside
  · exact ⟨nodes,sound.chain,sound.chain.nodup,sound.listed⟩

end
end

/-- The lockstep scheduler works for any threads and any interleaving with the clock. -/
theorem correct_of_run (events : List (LockstepEvent ι)) : (events.foldl step new).Correct := by
  obtain ⟨nodes,rest,sound⟩ := Sound.run events
  have called : ∀ i, i ∉ (events.filterMap LockstepEvent.caller).toFinset →
      ((events.foldl step new).waiters i).pc.left = 0 := by
    intro i uncalled
    rw [List.mem_toFinset] at uncalled
    exact run_out events uncalled
  exact sound.correct called

end Lockstep
end AerialManipulator
