import Uam.ControlMath
import Uam.Hysteresis
import Mathlib.Algebra.Order.Floor.Semiring

/-! The takeoff state machine: spool-up behind a time hysteresis, a ramp of the climb rate, and flight. -/
namespace AerialManipulator
open Numeric ControlMath
variable {K : Type*}

inductive TakeoffState where
  | disarmed
  | spoolup
  | readyForTakeoff
  | rampup
  | flight
  deriving DecidableEq, Repr

def TakeoffState.status : TakeoffState → Nat
  | disarmed => 1
  | spoolup => 2
  | readyForTakeoff => 3
  | rampup => 4
  | flight => 5

instance : LT TakeoffState := ⟨fun s t => s.status < t.status⟩
instance : LE TakeoffState := ⟨fun s t => s.status ≤ t.status⟩
instance (s t : TakeoffState) : Decidable (s < t) := inferInstanceAs (Decidable (s.status < t.status))
instance (s t : TakeoffState) : Decidable (s ≤ t) := inferInstanceAs (Decidable (s.status ≤ t.status))

lemma TakeoffState.le_iff (s t : TakeoffState) : s ≤ t ↔ s.status ≤ t.status := Iff.rfl

structure Takeoff (K : Type*) where
  takeoffState : TakeoffState
  spoolupTimeHysteresis : Hysteresis
  takeoffRampTime : Flt K
  takeoffRampVzInit : Flt K
  takeoffRampProgress : Flt K

namespace Takeoff
variable [Field K]

def fresh : Takeoff K where
  takeoffState := .disarmed
  spoolupTimeHysteresis := .init false
  takeoffRampTime := 0
  takeoffRampVzInit := 0
  takeoffRampProgress := 0

def setTakeoffRampTime (t : Takeoff K) (seconds : Flt K) : Takeoff K := {t with takeoffRampTime := seconds}

section
variable [LinearOrder K]

/-- The conversion to microseconds truncates; it is defined for finite times only. -/
def setSpoolupTime [FloorSemiring K] (t : Takeoff K) (seconds : K) : Takeoff K :=
  { t with spoolupTimeHysteresis :=
      t.spoolupTimeHysteresis.setHysteresisTimeFrom false (BitVec.ofNat 64 ⌊seconds * 1000000⌋₊) }

def generateInitialRampValue (t : Takeoff K) (velocityPGain : Flt K) : Takeoff K :=
  {t with takeoffRampVzInit := -oneG / Math.max velocityPGain (.fin 0.01)}

/-! The cases of the switch; each one falls through to the next. -/

def caseFlight (t : Takeoff K) (landed : Bool) : Takeoff K :=
  if landed then {t with takeoffState := .readyForTakeoff} else t

def caseRampup (t : Takeoff K) (landed : Bool) : Takeoff K :=
  if t.takeoffRampProgress ≥ 1 then caseFlight {t with takeoffState := .flight} landed else t

def caseReadyForTakeoff (t : Takeoff K) (landed wantTakeoff : Bool) : Takeoff K :=
  if wantTakeoff then caseRampup {t with takeoffState := .rampup, takeoffRampProgress := 0} landed else t

def caseSpoolup (t : Takeoff K) (landed wantTakeoff : Bool) : Takeoff K :=
  if t.spoolupTimeHysteresis.state then
    caseReadyForTakeoff {t with takeoffState := .readyForTakeoff} landed wantTakeoff
  else t

def caseDisarmed (t : Takeoff K) (armed landed wantTakeoff : Bool) : Takeoff K :=
  if armed then caseSpoolup {t with takeoffState := .spoolup} landed wantTakeoff else t

def switch (t : Takeoff K) (armed landed wantTakeoff : Bool) : Takeoff K :=
  match t.takeoffState with
  | .disarmed => t.caseDisarmed armed landed wantTakeoff
  | .spoolup => t.caseSpoolup landed wantTakeoff
  | .readyForTakeoff => t.caseReadyForTakeoff landed wantTakeoff
  | .rampup => t.caseRampup landed
  | .flight => t.caseFlight landed

/-- The desired velocity is not used. -/
def updateTakeoffState (t : Takeoff K) (armed landed wantTakeoff : Bool) (_takeoffDesiredVz : Flt K)
    (skipTakeoff : Bool) (nowUs : HrtAbstime) : Takeoff K :=
  let t := {t with spoolupTimeHysteresis := t.spoolupTimeHysteresis.setStateAndUpdate armed nowUs}
  let t := t.switch armed landed wantTakeoff
  let t := if armed && skipTakeoff then {t with takeoffState := .flight} else t
  if !armed then {t with takeoffState := .disarmed} else t

def rampProgress (t : Takeoff K) (dt : Flt K) : Flt K :=
  if t.takeoffRampTime > dt then t.takeoffRampProgress + dt / t.takeoffRampTime else 1

def updateRamp (t : Takeoff K) (dt takeoffDesiredVz : Flt K) : Flt K × Takeoff K :=
  let upwardsVelocityLimit := if t.takeoffState < .rampup then t.takeoffRampVzInit else takeoffDesiredVz
  if t.takeoffState = .rampup then
    let t := {t with takeoffRampProgress := t.rampProgress dt}
    (if t.takeoffRampProgress < 1 then
        t.takeoffRampVzInit + t.takeoffRampProgress * (takeoffDesiredVz - t.takeoffRampVzInit)
      else upwardsVelocityLimit,t)
  else (upwardsVelocityLimit,t)

end
end Takeoff
end AerialManipulator
