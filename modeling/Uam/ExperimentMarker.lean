import Uam.Numerics
import Uam.Library.Runs

/-! The marker that starts an experiment, in the square and the hover node. Both wait until the
vehicle has been ready for a while; each iteration reads the clock wherever it needs it. -/
namespace AerialManipulator
open Numeric Runs
variable {K : Type*}

structure MarkerParams (K : Type*) where
  target : Vector3 (Flt K)
  reachTolM : Flt K
  activationAltitudeM : Flt K
  activationHoldS : Flt K
  staticValidationDelayS : Flt K
  staticValidationReachM : Flt K

structure Vehicle (K : Type*) where
  havePose : Bool
  position : Vector3 (Flt K)
  armed : Bool

structure Marker (K : Type*) where
  validationWindowStarted : Bool
  validationSince : K
  activationWindowStarted : Bool
  activationSince : K
  armMotionEnabled : Bool

structure Readings (K : Type*) where
  start : K
  check : K

namespace Vehicle

def init [Zero K] : Vehicle K := ⟨false,⟨.fin 0,.fin 0,.fin 0⟩,false⟩

def poseCb (v : Vehicle K) (position : Vector3 (Flt K)) : Vehicle K := {v with position := position, havePose := true}

def stateCb (v : Vehicle K) (armed : Bool) : Vehicle K := {v with armed := armed}

variable [Field K] [LinearOrder K] [Libm K]

def distanceTo (v : Vehicle K) (target : Vector3 (Flt K)) : Flt K :=
  let dx := v.position.x-target.x
  let dy := v.position.y-target.y
  let dz := v.position.z-target.z
  (dx * dx + dy * dy + dz * dz).sqrt

def validationReady (v : Vehicle K) (p : MarkerParams K) : Bool :=
  v.havePose && v.armed && decide (v.position.z ≥ p.activationAltitudeM) &&
    (decide (p.staticValidationReachM < 0) || decide (v.distanceTo p.target ≤ p.staticValidationReachM))

def reachedAltitude (v : Vehicle K) (p : MarkerParams K) : Bool :=
  decide (v.position.z ≥ p.activationAltitudeM) && decide (v.distanceTo p.target ≤ p.reachTolM)

end Vehicle

namespace Marker
variable [Field K] [LinearOrder K]

def init : Marker K := ⟨false,0,false,0,false⟩

def validate (m : Marker K) (p : MarkerParams K) (validationReady : Bool) (now : Readings K) : Marker K :=
  let m := if !m.validationWindowStarted && validationReady then
      {m with validationWindowStarted := true, validationSince := now.start}
    else m
  if m.validationWindowStarted && decide (.fin (now.check-m.validationSince) ≥ p.staticValidationDelayS) then
    {m with armMotionEnabled := true}
  else if m.validationWindowStarted && !validationReady then {m with validationWindowStarted := false}
  else m

lemma validate_running {m : Marker K} (running : m.validationWindowStarted) (p : MarkerParams K)
    (ready : Bool) (now : Readings K) : m.validate p ready now =
      if .fin (now.check-m.validationSince) ≥ p.staticValidationDelayS then {m with armMotionEnabled := true}
      else {m with validationWindowStarted := ready} := by
  obtain ⟨started,since,holding,held,enabled⟩ := m
  obtain rfl : started := running
  cases ready <;> simp [validate]

lemma validate_idle {m : Marker K} (idle : m.validationWindowStarted = false) (p : MarkerParams K)
    (ready : Bool) (now : Readings K) : m.validate p ready now = if ready then
        {m with
          validationWindowStarted := true, validationSince := now.start,
          armMotionEnabled := m.armMotionEnabled || decide (.fin (now.check-now.start) ≥ p.staticValidationDelayS)}
      else m := by
  cases ready <;> simp [validate,idle]
  split <;> simp_all

def hold (m : Marker K) (p : MarkerParams K) (now : Readings K) : Marker K :=
  if !m.activationWindowStarted then {m with activationWindowStarted := true, activationSince := now.start}
  else if .fin (now.check-m.activationSince) ≥ p.activationHoldS then {m with armMotionEnabled := true}
  else m

variable [Libm K]

def activateSquare (m : Marker K) (p : MarkerParams K) (v : Vehicle K) (now : Readings K) : Marker K :=
  if !m.armMotionEnabled && decide (p.staticValidationDelayS ≥ 0) then m.validate p (v.validationReady p) now
  else if !m.armMotionEnabled && v.havePose && decide (p.staticValidationDelayS < 0) then
    if v.reachedAltitude p then m.hold p now else {m with activationWindowStarted := false}
  else if !m.armMotionEnabled then {m with activationWindowStarted := false}
  else m

def activateHover (m : Marker K) (p : MarkerParams K) (v : Vehicle K) (now : Readings K) : Marker K :=
  if !m.armMotionEnabled && decide (p.staticValidationDelayS ≥ 0) then m.validate p (v.validationReady p) now
  else if !m.armMotionEnabled && decide (p.staticValidationDelayS < 0) && v.havePose && v.reachedAltitude p then
    m.hold p now
  else if !m.armMotionEnabled then {m with activationWindowStarted := false}
  else m

lemma activateHover_eq_activateSquare (m : Marker K) (p : MarkerParams K) (v : Vehicle K) (now : Readings K) :
    m.activateHover p v now = m.activateSquare p v now := by
  unfold activateHover activateSquare
  cases m.armMotionEnabled <;> cases v.havePose <;> cases v.reachedAltitude p <;> simp

end Marker

inductive Node where
  | square
  | hover

structure Iteration (K : Type*) where
  ready : Bool
  start : K

inductive MarkerEvent (K : Type*) where
  | poseCb (position : Vector3 (Flt K))
  | stateCb (armed : Bool)
  | iterate (now : Readings K)

structure Watch (K : Type*) where
  marker : Marker K
  vehicle : Vehicle K
  past : List (Iteration K)

namespace Watch

def ReadySince (start : K) (iterations : List (Iteration K)) : Prop :=
  ∃ window first older, iterations = window ++ first::older ∧
    (∀ i ∈ window ++ [first], i.ready = true) ∧ first.start = start

lemma ReadySince.cons {start : K} (since : ReadySince start iterations)
    {latest : Iteration K} (ready : latest.ready) : ReadySince start (latest::iterations) := by
  obtain ⟨window,first,older,split,all,begun⟩ := since
  refine ⟨latest::window,first,older,by rw [split]; rfl,?_,begun⟩
  simpa [ready] using all

lemma ReadySince.begin {latest : Iteration K} (ready : latest.ready) (older : List (Iteration K)) :
    ReadySince latest.start (latest::older) :=
  ⟨[],latest,older,rfl,by simpa using ready,rfl⟩

variable [Field K] [LinearOrder K] [Libm K]

def init : Watch K := ⟨.init,.init,[]⟩

def activate : Node → Marker K → MarkerParams K → Vehicle K → Readings K → Marker K
  | .square => Marker.activateSquare
  | .hover => Marker.activateHover

def current (p : MarkerParams K) (w : Watch K) (now : Readings K) : Iteration K :=
  ⟨w.vehicle.validationReady p,now.start⟩

def step (node : Node) (p : MarkerParams K) (w : Watch K) : MarkerEvent K → Watch K
  | .poseCb position => {w with vehicle := w.vehicle.poseCb position}
  | .stateCb armed => {w with vehicle := w.vehicle.stateCb armed}
  | .iterate now => {w with marker := activate node w.marker p w.vehicle now, past := current p w now::w.past}

def Raises (node : Node) (p : MarkerParams K) (w : Watch K) (now : Readings K) : Prop :=
  w.marker.armMotionEnabled = false ∧ (activate node w.marker p w.vehicle now).armMotionEnabled = true

/-- The marker is raised on a vehicle that was ready in every iteration back to one at least the delay ago. -/
def SteadyWhenRaised (node : Node) (p : MarkerParams K) (w : Watch K) : MarkerEvent K → Prop
  | .iterate now => Raises node p w now → w.vehicle.validationReady p = true ∧
      ∃ start, ReadySince start (current p w now::w.past) ∧ .fin (now.check-start) ≥ p.staticValidationDelayS
  | _ => True

def ReadyWhenElapsed (p : MarkerParams K) (w : Watch K) : MarkerEvent K → Prop
  | .iterate now => w.marker.armMotionEnabled = false → w.marker.validationWindowStarted = true →
      .fin (now.check-w.marker.validationSince) ≥ p.staticValidationDelayS → w.vehicle.validationReady p = true
  | _ => True

lemma activate_of_delay {p : MarkerParams K} (validated : p.staticValidationDelayS ≥ 0) (node : Node)
    (m : Marker K) (v : Vehicle K) (now : Readings K) :
    activate node m p v now = if m.armMotionEnabled then m else m.validate p (v.validationReady p) now := by
  have square : m.activateSquare p v now =
      if m.armMotionEnabled then m else m.validate p (v.validationReady p) now := by
    have atLeast : .fin 0 ≤ p.staticValidationDelayS := validated
    cases enabled : m.armMotionEnabled <;> simp [Marker.activateSquare,enabled,atLeast]
  cases node with
  | square => exact square
  | hover => exact (m.activateHover_eq_activateSquare p v now).trans square

def Running (w : Watch K) : Prop :=
  w.marker.armMotionEnabled = false → w.marker.validationWindowStarted = true →
    ReadySince w.marker.validationSince w.past

section
variable {p : MarkerParams K} (validated : p.staticValidationDelayS ≥ 0)
include validated

lemma running_step (node : Node) (w : Watch K) (event : MarkerEvent K) (running : Running w) :
    Running (step node p w event) := by
  cases event with
  | poseCb position | stateCb armed => exact running
  | iterate now =>
    intro waiting started
    simp only [step,activate_of_delay validated] at waiting started ⊢
    cases enabled : w.marker.armMotionEnabled with
    | true => simp [enabled] at waiting
    | false =>
      simp only [enabled,Bool.false_eq_true,if_false] at waiting started ⊢
      cases window : w.marker.validationWindowStarted with
      | true =>
        rw [Marker.validate_running window] at waiting started ⊢
        split at waiting
        · simp at waiting
        next young =>
          simp only [if_neg young] at started ⊢
          exact (running enabled window).cons started
      | false =>
        rw [Marker.validate_idle window] at waiting started ⊢
        cases ready : w.vehicle.validationReady p with
        | true =>
          have begun : ReadySince now.start (current p w now::w.past) := ReadySince.begin ready w.past
          simpa [ready] using begun
        | false => simp [ready,window] at started

lemma steady_iff_ready (node : Node) (w : Watch K) (event : MarkerEvent K) (running : Running w) :
    SteadyWhenRaised node p w event ↔ ReadyWhenElapsed p w event := by
  cases event with
  | poseCb position | stateCb armed => exact Iff.rfl
  | iterate now =>
    constructor
    · intro steady enabled window elapsed
      refine (steady ⟨enabled,?_⟩).1
      rw [activate_of_delay validated,enabled,if_neg Bool.false_ne_true,Marker.validate_running window,if_pos elapsed]
    · rintro elapsing ⟨enabled,raised⟩
      rw [activate_of_delay validated,enabled,if_neg Bool.false_ne_true] at raised
      cases window : w.marker.validationWindowStarted with
      | true =>
        rw [Marker.validate_running window] at raised
        split at raised
        next elapsed =>
          have ready := elapsing enabled window elapsed
          exact ⟨ready,_,(running enabled window).cons ready,elapsed⟩
        · simp [enabled] at raised
      | false =>
        rw [Marker.validate_idle window] at raised
        cases ready : w.vehicle.validationReady p with
        | true =>
          have begun : ReadySince now.start (current p w now::w.past) := ReadySince.begin ready w.past
          exact ⟨rfl,_,begun,by simpa [ready,enabled] using raised⟩
        | false => simp [ready,enabled] at raised

/-- The marker is raised on steady vehicles exactly if no iteration finds the timer
elapsed and the vehicle not ready. -/
theorem steady_iff_ready_when_elapsed (node : Node) (events : List (MarkerEvent K)) :
    Along (step node p) (SteadyWhenRaised node p) init events ↔
      Along (step node p) (ReadyWhenElapsed p) init events :=
  along_congr_invariant Running (running_step validated node) (steady_iff_ready validated node)
    (fun _ started => absurd started Bool.false_ne_true) events

end

def delayed : MarkerParams K := ⟨⟨.fin 0,.fin 0,.fin 2.0⟩,.fin 0.2,.fin 1.9,.fin 1,.fin 1,.fin (-1)⟩

lemma delayed_delay : (delayed : MarkerParams ℝ).staticValidationDelayS ≥ 0 := by simp [delayed]

lemma delayed_ready (x y z : Flt ℝ) (high : ℝ) (known : z = .fin high) :
    (⟨true,⟨x,y,z⟩,true⟩ : Vehicle ℝ).validationReady delayed = decide (1.9 ≤ high) := by
  have unreached : (-1 : ℝ) < 0 := by norm_num
  simp [Vehicle.validationReady,delayed,known,unreached]

lemma delayed_waits (node : Node) :
    activate node (.init : Marker ℝ) delayed ⟨true,⟨.fin 0,.fin 0,.fin 2⟩,true⟩ ⟨0,0⟩ = ⟨true,0,false,0,false⟩ := by
  have ready : (1.9 : ℝ) ≤ 2 := by norm_num
  rw [activate_of_delay delayed_delay,delayed_ready _ _ _ 2 rfl]
  simp [Marker.init,Marker.validate,delayed,ready]

theorem steady_at_altitude : Along (step .hover delayed) (SteadyWhenRaised .hover delayed) (init : Watch ℝ)
      [.stateCb true,.poseCb ⟨.fin 0,.fin 0,.fin 2⟩,.iterate ⟨0,0⟩,.iterate ⟨1,1⟩] := by
  rw [steady_iff_ready_when_elapsed delayed_delay]
  refine ⟨trivial,trivial,fun _ started => absurd started Bool.false_ne_true,fun _ _ _ => ?_,trivial⟩
  exact (delayed_ready _ _ _ 2 rfl).trans (decide_eq_true (by norm_num))

lemma raised_unready (node : Node) : ¬Along (step node delayed) (SteadyWhenRaised node delayed) (init : Watch ℝ)
      [.stateCb true,.poseCb ⟨.fin 0,.fin 0,.fin 2⟩,.iterate ⟨0,0⟩,.poseCb ⟨.fin 0,.fin 0,.fin 0⟩,
        .iterate ⟨1,1⟩] := by
  rintro ⟨-,-,-,-,steady,-⟩
  have lost : (⟨true,⟨.fin 0,.fin 0,.fin 0⟩,true⟩ : Vehicle ℝ).validationReady delayed = false :=
    (delayed_ready _ _ _ 0 rfl).trans (decide_eq_false (by norm_num))
  have raised : activate node ⟨true,0,false,0,false⟩ delayed
      (⟨true,⟨.fin 0,.fin 0,.fin 0⟩,true⟩ : Vehicle ℝ) ⟨1,1⟩ = ⟨true,0,false,0,true⟩ := by
    rw [activate_of_delay delayed_delay]
    simp [Marker.validate,delayed]
  have waiting := delayed_waits node
  have ready := (steady ⟨congrArg Marker.armMotionEnabled waiting,?_⟩).1
  · exact Bool.false_ne_true (lost.symm.trans ready)
  · exact congrArg Marker.armMotionEnabled ((congrArg (activate node · delayed _ _) waiting).trans raised)

theorem raised_below_altitude : (¬ Along (step .square delayed) (SteadyWhenRaised .square delayed) (init : Watch ℝ)
      [.stateCb true,.poseCb ⟨.fin 0,.fin 0,.fin 2⟩,.iterate ⟨0,0⟩,.poseCb ⟨.fin 0,.fin 0,.fin 0⟩,.iterate ⟨1,1⟩]) ∧
    ¬ Along (step .hover delayed) (SteadyWhenRaised .hover delayed) (init : Watch ℝ)
      [.stateCb true,.poseCb ⟨.fin 0,.fin 0,.fin 2⟩,.iterate ⟨0,0⟩,.poseCb ⟨.fin 0,.fin 0,.fin 0⟩,.iterate ⟨1,1⟩] :=
  ⟨raised_unready .square,raised_unready .hover⟩

end Watch
end AerialManipulator
