import Uam.LockstepScheduler

/-! Why the handshake between waiters and the clock works. For each thread it matters only how far
the clock has come with its record. -/
namespace AerialManipulator
open Linked WaiterPc
open Or (inl inr)
open Bool (false_ne_true)

inductive ClockView
  /-- the round has not come to the record -/
  | ahead
  | checked
  | locking
  | holding
  | timed
  | notified
  | passed
  deriving DecidableEq

def ClockPhase.view : ClockPhase → ClockView
  | .checked => .checked
  | .locking => .locking
  | .holding => .holding
  | .timed => .timed
  | .notified => .notified

namespace ClockPc
variable {ι : Type} [DecidableEq ι]

def view (rest : List ι) (i : ι) : ClockPc ι → ClockView
  | .timeSet | .locked => .ahead
  | .visit _ _ => if i ∈ rest then .ahead else .passed
  | .busy _ cur phase => if i = cur then phase.view else if i ∈ rest then .ahead else .passed
  | .idle | .ending | .unlocking => .passed

def position : ClockPc ι → Option (Option ι × Option ι)
  | .visit prev cur => some (prev,cur)
  | .busy prev cur _ => some (prev,some cur)
  | _ => none

def setting : ClockPc ι → Bool
  | .idle | .timeSet | .locked | .unlocking => false
  | _ => true

end ClockPc

namespace ClockView

def Away (view : ClockView) : Prop := view = .ahead ∨ view = .checked ∨ view = .locking ∨ view = .passed

def Apart (view : ClockView) (r : TimedWait) : Prop :=
  view = .ahead ∨ view = .passed ∨ view = .checked ∧ r.timeout = true

end ClockView

namespace WaiterPc

def isOutside : WaiterPc → Bool
  | .out _ | .enter => true
  | _ => false

def isSleeping : WaiterPc → Bool
  | .linked | .asleep => true
  | _ => false

end WaiterPc

namespace Lockstep

structure Current (w : Waiter) (r : TimedWait) : Prop where
  call : r.call = w.calls
  timeUs : r.timeUs = w.deadline

structure Registered (w : Waiter) (r : TimedWait) : Prop extends Current w r where
  removed : r.removed = false
  done : r.done = false

lemma Registered.move (registered : Registered w r) (pc : WaiterPc) (signalled : Bool) :
    Registered ⟨pc,w.calls,w.deadline,signalled⟩ r :=
  ⟨⟨registered.call,registered.timeUs⟩,registered.removed,registered.done⟩

def Facts (time : Nat) (w : Waiter) (r : TimedWait) : WaiterPc → Prop
  | .out timedOut => (r.removed = false → r.done = true) ∧ (timedOut = true → w.deadline ≤ time) ∧
    (timedOut = false → 0 < w.calls → w.signalled = true)
  | .enter => r.removed = false → r.done = true
  | .linked => Registered w r ∧ r.timeout = false
  | .asleep => Registered w r
  | .woken | .awake => Registered w r ∧ (r.timeout = true ∨ w.signalled = true)
  | .read timeout => Registered w r ∧ r.timeout = timeout ∧ (timeout = true ∨ w.signalled = true)
  | .finished timeout => Current w r ∧ r.done = true ∧ r.timeout = timeout ∧ (timeout = true ∨ w.signalled = true)
  | .yielding => Current w r ∧ r.done = true ∧ r.timeout = false ∧ w.signalled = true
  | .queued | .relocking => Current w r ∧ r.done = true ∧ w.signalled = true

structure Good (time : Nat) (view : ClockView) (w : Waiter) (r : TimedWait) : Prop where
  facts : Facts time w r w.pc
  early : r.timeout = true → r.timeUs ≤ time
  pending : view = .locking ∨ view = .holding → r.timeout = false ∧ r.timeUs ≤ time
  notified : view = .timed ∨ view = .notified → r.timeout = true
  apart : w.pc.isOutside = true → view.Apart r
  away : w.pc.holdsLock = true → view.Away
  late : w.pc.isSleeping = true → view = .passed → time < w.deadline
  unheard : w.pc = .asleep → (r.timeout = true → view = .timed) ∧ view ≠ .notified
  relocking : w.pc = .relocking → view = .ahead ∨ view = .passed

namespace Good
variable {time : Nat} {view : ClockView} {w : Waiter} {r : TimedWait}

section
variable (good : Good time view w r)
include good

lemma facts_at (here : w.pc = pc) : Facts time w r pc := here ▸ good.facts

lemma current (inside : w.pc.isOutside = false) : Current w r := by
  obtain ⟨pc,calls,deadline,signalled⟩ := w
  have facts := good.facts
  cases pc with
  | out timedOut | enter => cases inside
  | linked | woken | awake | read timeout => exact facts.1.toCurrent
  | asleep => exact facts.toCurrent
  | finished timeout | yielding | queued | relocking => exact facts.1

lemma active (listed : r.removed = false) (open_ : r.done = false) : w.pc.isOutside = false ∧ w.pc ≠ .relocking := by
  obtain ⟨pc,calls,deadline,signalled⟩ := w
  have facts := good.facts
  cases pc with
  | out timedOut => exact absurd (open_.symm.trans (facts.1 listed)) false_ne_true
  | enter => exact absurd (open_.symm.trans (facts listed)) false_ne_true
  | relocking => exact absurd (open_.symm.trans facts.2.1) false_ne_true
  | _ => exact ⟨rfl,by simp⟩

lemma sleeping (sleeps : w.pc.isSleeping) (other : view ≠ .timed) : Registered w r ∧ r.timeout = false := by
  obtain ⟨pc,calls,deadline,signalled⟩ := w
  have facts := good.facts
  cases pc with
  | linked => exact facts
  | asleep => exact ⟨facts,Bool.eq_false_iff.mpr fun set => other ((good.unheard rfl).1 set)⟩
  | _ => cases sleeps

end

lemma of_blocked (blocked : w.pc = .woken ∨ w.pc = .queued) (facts : Facts time w r w.pc)
    (early : r.timeout → r.timeUs ≤ time)
    (pending : view = .locking ∨ view = .holding → r.timeout = false ∧ r.timeUs ≤ time)
    (notified : view = .timed ∨ view = .notified → r.timeout) : Good time view w r := by
  refine ⟨facts,early,pending,notified,?_,?_,?_,?_,?_⟩
  all_goals
    intro here
    rcases blocked with pc | pc <;> rw [pc] at here <;> cases here

lemma of_owner (inside : w.pc.isOutside = false) (awake : w.pc.isSleeping = false) (holds : w.pc.holdsLock)
    (facts : Facts time w r w.pc) (early : r.timeout → r.timeUs ≤ time)
    (pending : view = .locking → r.timeout = false ∧ r.timeUs ≤ time) (away : view.Away) : Good time view w r := by
  refine ⟨facts,early,?_,?_,?_,fun _ => away,?_,?_,?_⟩
  · intro close
    rcases close with close | rfl
    · exact pending close
    · simp [ClockView.Away] at away
  · intro close
    rcases close with rfl | rfl <;> simp [ClockView.Away] at away
  · intro outside
    exact absurd (inside.symm.trans outside) false_ne_true
  · intro sleeps
    exact absurd (awake.symm.trans sleeps) false_ne_true
  · intro pc
    rw [pc] at awake
    cases awake
  · intro pc
    rw [pc] at holds
    cases holds

lemma of_outside (outside : w.pc.isOutside) (facts : Facts time w r w.pc)
    (early : r.timeout → r.timeUs ≤ time) (apart : view.Apart r) : Good time view w r := by
  refine ⟨facts,early,?_,?_,fun _ => apart,?_,?_,?_,?_⟩
  · intro close
    rcases close with rfl | rfl <;> simp [ClockView.Apart] at apart
  · intro close
    rcases close with rfl | rfl <;> simp [ClockView.Apart] at apart
  · intro _
    rcases apart with rfl | rfl | ⟨rfl,_⟩ <;> simp [ClockView.Away]
  all_goals
    intro here
    cases pc : w.pc <;> rw [pc] at outside here <;> simp [isOutside,isSleeping] at outside here

lemma inside (good : Good time view w r) (busy : ¬view.Apart r) : w.pc.isOutside = false := by
  rw [← Bool.not_eq_true]
  intro outside
  exact busy (good.apart outside)

lemma untold (good : Good time view w r) (other : view ≠ .timed) {next : ClockView} (quiet : next ≠ .notified)
    (asleep : w.pc = .asleep) : (r.timeout → next = .timed) ∧ next ≠ .notified :=
  ⟨fun set => absurd ((good.unheard asleep).1 set) other,quiet⟩

lemma place_of_held (good : Good time view w r) (held : view = .holding ∨ view = .timed ∨ view = .notified) :
    w.pc = .asleep ∨ w.pc = .woken ∨ w.pc = .queued := by
  have inside := good.inside (by rcases held with rfl | rfl | rfl <;> simp [ClockView.Apart])
  have free : w.pc.holdsLock = false := by
    rw [← Bool.not_eq_true]
    intro holds
    have away := good.away holds
    rcases held with rfl | rfl | rfl <;> simp [ClockView.Away] at away
  have other : w.pc ≠ .relocking := by
    intro here
    have away := good.relocking here
    rcases held with rfl | rfl | rfl <;> simp at away
  cases pc : w.pc with
  | asleep => exact inl rfl
  | woken => exact inr (inl rfl)
  | queued => exact inr (inr rfl)
  | relocking => exact absurd pc other
  | out timedOut =>
    rw [pc] at inside
    cases inside
  | _ =>
    rw [pc] at free
    cases free

lemma to_checked (good : Good time .ahead w r) (listed : r.removed = false) (open_ : r.done = false) :
    Good time .checked w r := by
  obtain ⟨inside,other⟩ := good.active listed open_
  refine {good with pending := by simp, notified := by simp, apart := ?_, away := ?_, late := by simp,
                     unheard := good.untold (by simp) (by simp), relocking := fun here => absurd here other}
  · intro outside
    exact absurd (inside.symm.trans outside) false_ne_true
  · intro _
    exact inr (inl rfl)

lemma to_locking (good : Good time .checked w r) (due : r.timeUs ≤ time) (fresh : r.timeout = false) :
    Good time .locking w r := by
  refine {good with pending := fun _ => ⟨fresh,due⟩, notified := by simp, apart := ?_, away := ?_, late := by simp,
                     unheard := good.untold (by simp) (by simp), relocking := ?_}
  · intro outside
    rcases good.apart outside with wrong | wrong | ⟨_,set⟩
    · cases wrong
    · cases wrong
    · exact absurd (fresh.symm.trans set) false_ne_true
  · intro _
    exact inr (inr (inl rfl))
  · intro here
    rcases good.relocking here with wrong | wrong
    all_goals cases wrong

lemma passed_of_spared (good : Good time view w r) (other : view ≠ .timed)
    (spared : Registered w r → r.timeout = false → time < r.timeUs) : Good time .passed w r := by
  refine {good with pending := by simp, notified := by simp, apart := fun _ => inr (inl rfl),
                     away := fun _ => inr (inr (inr rfl)), late := ?_,
                     unheard := good.untold other (by simp), relocking := fun _ => inr rfl}
  intro sleeps _
  obtain ⟨registered,fresh⟩ := good.sleeping sleeps other
  rw [← registered.timeUs]
  exact spared registered fresh

lemma pass (good : Good time .checked w r) (spared : r.timeout = false → time < r.timeUs) : Good time .passed w r :=
  good.passed_of_spared (by simp) fun _ => spared

lemma to_holding (good : Good time .locking w r) (free : ¬(w.calls = r.call ∧ w.pc.holdsLock)) :
    Good time .holding w r := by
  have inside := good.inside (by simp [ClockView.Apart])
  obtain ⟨fresh,due⟩ := good.pending (inl rfl)
  refine {good with pending := fun _ => ⟨fresh,due⟩, notified := by simp, apart := ?_, away := ?_,
                     late := by simp, unheard := good.untold (by simp) (by simp), relocking := ?_}
  · intro outside
    exact absurd (inside.symm.trans outside) false_ne_true
  · intro holds
    exact absurd ⟨(good.current inside).call.symm,holds⟩ free
  · intro here
    rcases good.relocking here with wrong | wrong
    all_goals cases wrong

lemma to_timed (good : Good time .holding w r) : Good time .timed w {r with timeout := true} := by
  obtain ⟨pc,calls,deadline,signalled⟩ := w
  obtain ⟨_,due⟩ := good.pending (inr rfl)
  have facts := good.facts
  rcases good.place_of_held (inl rfl) with rfl | rfl | rfl
  · have registered : Registered ⟨.asleep,calls,deadline,signalled⟩ {r with timeout := true} :=
      ⟨⟨facts.call,facts.timeUs⟩,facts.removed,facts.done⟩
    exact ⟨registered,fun _ => due,by simp,fun _ => rfl,by simp [isOutside],by simp [holdsLock],
      by simp,fun _ => ⟨fun _ => rfl,by simp⟩,by simp⟩
  · refine of_blocked (inl rfl) ⟨⟨⟨facts.1.call,facts.1.timeUs⟩,facts.1.removed,facts.1.done⟩,inl rfl⟩ (fun _ => due)
      (by simp) fun _ => rfl
  · exact of_blocked (inr rfl) ⟨⟨facts.1.call,facts.1.timeUs⟩,facts.2⟩ (fun _ => due) (by simp) fun _ => rfl

lemma to_notified (good : Good time .timed w r) :
    Good time .notified (if w.pc = .asleep ∧ w.calls = r.call then {w with pc := .woken} else w) r := by
  have set := good.notified (inl rfl)
  obtain ⟨pc,calls,deadline,signalled⟩ := w
  have facts := good.facts
  rcases good.place_of_held (inr (inl rfl)) with rfl | rfl | rfl
  · rw [if_pos ⟨rfl,facts.call.symm⟩]
    exact of_blocked (inl rfl) ⟨facts.move _ _,inl set⟩ good.early (by simp)
      fun _ => set
  · rw [if_neg (by simp)]
    exact of_blocked (inl rfl) facts good.early (by simp) fun _ => set
  · rw [if_neg (by simp)]
    exact of_blocked (inr rfl) facts good.early (by simp) fun _ => set

lemma to_passed (good : Good time .notified w r) : Good time .passed w r := by
  rcases good.place_of_held (inr (inr rfl)) with pc | pc | pc
  · exact absurd rfl (good.unheard pc).2
  · exact of_blocked (inl pc) good.facts good.early (by simp) (by simp)
  · exact of_blocked (inr pc) good.facts good.early (by simp) (by simp)

lemma restart (good : Good time .passed w r) (after : time ≤ later) : Good later .ahead w r := by
  refine ⟨?_,fun set => Nat.le_trans (good.early set) after,by simp,by simp,fun _ => inl rfl,
    fun _ => inl rfl,by simp,fun asleep => ⟨fun set => ?_,by simp⟩,fun _ => inl rfl⟩
  · obtain ⟨pc,calls,deadline,signalled⟩ := w
    have facts := good.facts
    cases pc with
    | out timedOut => exact ⟨facts.1,fun reported => Nat.le_trans (facts.2.1 reported) after,facts.2.2⟩
    | _ => exact facts
  · cases (good.unheard asleep).1 set

lemma unlisted (good : Good time .ahead w r) (gone : r.removed) : Good time .passed w r :=
  good.passed_of_spared (by simp) fun registered => absurd (registered.removed.symm.trans gone) false_ne_true

lemma erase (good : Good time .ahead w r) (closed : r.done) : Good time .passed w {r with removed := true} := by
  obtain ⟨pc,calls,deadline,signalled⟩ := w
  have facts := good.facts
  have open_ {w : Waiter} (registered : Registered w r) : False :=
    false_ne_true (registered.done.symm.trans closed)
  have apart : ClockView.Apart .passed {r with removed := true} := inr (inl rfl)
  have away : ClockView.Away .passed := inr (inr (inr rfl))
  cases pc with
  | out timedOut => exact of_outside rfl ⟨fun _ => closed,facts.2⟩ good.early apart
  | enter => exact of_outside rfl (fun _ => closed) good.early apart
  | linked | woken | awake | read timeout => exact (open_ facts.1).elim
  | asleep => exact (open_ facts).elim
  | finished timeout | yielding =>
      exact of_owner rfl rfl rfl ⟨⟨facts.1.call,facts.1.timeUs⟩,facts.2⟩ good.early (by simp) away
  | queued => exact of_blocked (inr rfl) ⟨⟨facts.1.call,facts.1.timeUs⟩,facts.2⟩ good.early (by simp) (by simp)
  | relocking =>
    exact ⟨⟨⟨facts.1.call,facts.1.timeUs⟩,facts.2⟩,good.early,by simp,by simp,by simp [isOutside],
      by simp [holdsLock],by simp [isSleeping],by simp,fun _ => inr rfl⟩

lemma call (good : Good time view w r) (pc : w.pc = .out timedOut) (deadline : Nat) :
    Good time view ⟨.enter,w.calls+1,deadline,false⟩ r := by
  have facts := good.facts_at pc
  exact of_outside rfl facts.1 good.early (good.apart (by rw [pc]; rfl))

lemma expire (good : Good time view w r) (pc : w.pc = .enter) (due : w.deadline ≤ time) :
    Good time view {w with pc := .out true} r := by
  have facts := good.facts_at pc
  exact of_outside rfl ⟨facts,fun _ => due,by simp⟩ good.early (good.apart (by rw [pc]; rfl))

lemma register (future : time < w.deadline) (free : view = .ahead ∨ view = .passed) :
    Good time view {w with pc := .linked} ⟨w.calls,w.deadline,false,false,false⟩ := by
  refine ⟨⟨⟨⟨rfl,rfl⟩,rfl,rfl⟩,rfl⟩,by simp,?_,?_,by simp [isOutside],?_,fun _ _ => future,by simp,by simp⟩
  · rcases free with rfl | rfl <;> simp
  · rcases free with rfl | rfl <;> simp
  · rcases free with rfl | rfl <;> simp [ClockView.Away]

section
variable (good : Good time view w r)
include good

lemma sleep (pc : w.pc = .linked) : Good time view {w with pc := .asleep} r := by
  have facts := good.facts_at pc
  have away := good.away (by rw [pc]; rfl)
  refine ⟨facts.1.move _ _,good.early,good.pending,good.notified,
    by simp [isOutside],by simp [holdsLock],fun _ => good.late (by rw [pc]; rfl),
    fun _ => ⟨fun set => ?_,?_⟩,by simp⟩
  · exact absurd (facts.2.symm.trans set) false_ne_true
  · rcases away with rfl | rfl | rfl | rfl <;> simp

lemma signal (pc : w.pc = .asleep) : Good time view {w with pc := .woken, signalled := true} r := by
  have facts := good.facts_at pc
  exact of_blocked (inl rfl) ⟨facts.move _ _,inr rfl⟩
    good.early good.pending good.notified

lemma wake (pc : w.pc = .woken) (away : view.Away) : Good time view {w with pc := .awake} r := by
  have facts := good.facts_at pc
  exact of_owner rfl rfl rfl ⟨facts.1.move _ _,facts.2⟩ good.early
    (fun close => good.pending (inl close)) away

lemma read (pc : w.pc = .awake) : Good time view {w with pc := .read r.timeout} r := by
  have facts := good.facts_at pc
  have away := good.away (by rw [pc]; rfl)
  exact of_owner rfl rfl rfl ⟨facts.1.move _ _,rfl,facts.2⟩ good.early
    (fun close => good.pending (inl close)) away

lemma finish (pc : w.pc = .read timeout) : Good time view {w with pc := .finished timeout} {r with done := true} := by
  have facts := good.facts_at pc
  have away := good.away (by rw [pc]; rfl)
  exact of_owner rfl rfl rfl ⟨⟨facts.1.call,facts.1.timeUs⟩,rfl,facts.2⟩ good.early
    (fun close => good.pending (inl close)) away

lemma leave (pc : w.pc = .finished timeout)
    (over_ : timeout ∨ view ≠ .checked ∧ view ≠ .locking) : Good time view {w with pc := .out timeout} r := by
  have away := good.away (by rw [pc]; rfl)
  obtain ⟨current,closed,set,reason⟩ := good.facts_at pc
  refine of_outside rfl ⟨fun _ => closed,fun told => ?_,fun fresh _ => ?_⟩ good.early ?_
  · exact current.timeUs ▸ good.early (set.trans told)
  · exact reason.resolve_left (fresh ▸ false_ne_true)
  rcases away with ahead | checked | locking | passed
  · exact inl ahead
  · rcases over_ with told | ⟨other,_⟩
    · exact inr (inr ⟨checked,set.trans told⟩)
    · exact absurd checked other
  · rcases over_ with told | ⟨_,other⟩
    · have fresh := (good.pending (inl locking)).1
      exact absurd (fresh.symm.trans (set.trans told)) false_ne_true
    · exact absurd locking other
  · exact inr (inl passed)

lemma yield (pc : w.pc = .finished false) : Good time view {w with pc := .yielding} r := by
  have away := good.away (by rw [pc]; rfl)
  obtain ⟨current,closed,set,reason⟩ := good.facts_at pc
  exact of_owner rfl rfl rfl
    ⟨⟨current.call,current.timeUs⟩,closed,set,reason.resolve_left false_ne_true⟩ good.early
    (fun close => good.pending (inl close)) away

lemma unlock (pc : w.pc = .yielding) : Good time view {w with pc := .queued} r := by
  obtain ⟨current,closed,_,signalled⟩ := good.facts_at pc
  exact of_blocked (inr rfl) ⟨⟨current.call,current.timeUs⟩,closed,signalled⟩ good.early good.pending good.notified

lemma proceed (pc : w.pc = .queued) (free : view = .ahead ∨ view = .passed) :
    Good time view {w with pc := .relocking} r := by
  obtain ⟨current,closed,signalled⟩ := good.facts_at pc
  exact ⟨⟨⟨current.call,current.timeUs⟩,closed,signalled⟩,good.early,good.pending,good.notified,
    by simp [isOutside],by simp [holdsLock],by simp [isSleeping],by simp,fun _ => free⟩

lemma relock (pc : w.pc = .relocking) : Good time view {w with pc := .out false} r := by
  obtain ⟨current,closed,signalled⟩ := good.facts_at pc
  refine of_outside rfl ⟨fun _ => closed,by simp,fun _ _ => signalled⟩ good.early ?_
  rcases good.relocking pc with ahead | passed
  · exact inl ahead
  · exact inr (inl passed)

end
end Good
end Lockstep
end AerialManipulator
