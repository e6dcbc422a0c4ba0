import Uam.RateControl
import Uam.Hysteresis

/-! The rate control module around the controller: one cycle for each gyro sample, the inputs of the
attitude loop judged fresh by an unsigned difference of time stamps. -/
namespace AerialManipulator
open Numeric ControlMath
variable {K : Type*}

structure EsoRateAux (K : Type*) where
  timestamp : HrtAbstime
  aux : RateControl.Aux K

structure ControlAllocatorStatus (K : Type*) where
  torqueSetpointAchieved : Bool
  unallocatedTorque : Vector3 (Flt K)

/-- What one cycle finds besides the attitude loop's message: gyro sample, rate setpoint,
flags and allocator feedback. -/
structure GyroSample (K : Type*) where
  timestampSample : HrtAbstime
  rates : Vector3 (Flt K)
  angularAccel : Vector3 (Flt K)
  ratesSp : Vector3 (Flt K)
  flagControlRatesEnabled : Bool
  circuitBreakerEnabled : Bool
  flagArmed : Bool
  rotaryWing : Bool
  maybeLanded : Bool
  landed : Bool
  controlAllocatorStatus : Option (ControlAllocatorStatus K)

structure RateModule (K : Type*) where
  rateControl : RateControl K
  lastEsoAuxTimestamp : HrtAbstime
  lastRun : HrtAbstime
  esoRateAuxSub : Option (EsoRateAux K)

namespace RateModule

def esoAuxTimeout : HrtAbstime := 100000#64

def publish (m : RateModule K) (message : EsoRateAux K) : RateModule K :=
  {m with esoRateAuxSub := some message}

def setAux (m : RateModule K) (aux : RateControl.Aux K) : RateModule K :=
  {m with rateControl := m.rateControl.setAttitudeAux aux.omegaRDot aux.betaV aux.tauS}

def receiveAux (m : RateModule K) (now : HrtAbstime) : RateModule K :=
  match m.esoRateAuxSub with
  | some esoAux =>
    let m := {m with lastEsoAuxTimestamp := esoAux.timestamp, esoRateAuxSub := none}
    if now-m.lastEsoAuxTimestamp ≤ esoAuxTimeout then m.setAux esoAux.aux else m
  | none => m

section
variable [Field K]

def expireAux (m : RateModule K) (now : HrtAbstime) : RateModule K :=
  if m.lastEsoAuxTimestamp = 0 ∨ now-m.lastEsoAuxTimestamp > esoAuxTimeout then m.setAux 0 else m

def controllerRuns (sample : GyroSample K) : Bool :=
  sample.flagControlRatesEnabled && !sample.circuitBreakerEnabled

def resets (sample : GyroSample K) : Bool := !sample.flagArmed || !sample.rotaryWing

def resetDisarmed (m : RateModule K) (sample : GyroSample K) : RateModule K :=
  if resets sample then {m with rateControl := m.rateControl.resetIntegral.resetESO} else m

variable [LinearOrder K]

def saturationPositive (status : ControlAllocatorStatus K) : Vector3 Bool :=
  status.unallocatedTorque.map fun unallocated => !status.torqueSetpointAchieved && decide (unallocated > fltEpsilon)

def saturationNegative (status : ControlAllocatorStatus K) : Vector3 Bool :=
  status.unallocatedTorque.map fun unallocated => !status.torqueSetpointAchieved &&
    !decide (unallocated > fltEpsilon) && decide (unallocated < -fltEpsilon)

def allocate (m : RateModule K) (sample : GyroSample K) : RateModule K :=
  match sample.controlAllocatorStatus with
  | some status => { m with rateControl :=
      m.rateControl.setSaturationStatus (saturationPositive status) (saturationNegative status) }
  | none => m

def dt (m : RateModule K) (sample : GyroSample K) : Flt K :=
  Math.constrain (.fin ((sample.timestampSample - m.lastRun).toNat * 0.000001)) (.fin 0.000125) (.fin 0.02)

def judgeAux (m : RateModule K) (now : HrtAbstime) : RateModule K := (m.receiveAux now).expireAux now

def beforeUpdate (m : RateModule K) (sample : GyroSample K) : RateModule K :=
  let m := m.judgeAux sample.timestampSample
  if controllerRuns sample then (m.resetDisarmed sample).allocate sample else m

def run (m : RateModule K) (sample : GyroSample K) : RateModule K :=
  let ready := m.beforeUpdate sample
  let rateControl :=
    if controllerRuns sample then
      (ready.rateControl.update sample.rates sample.ratesSp sample.angularAccel (m.dt sample)
        (sample.maybeLanded || sample.landed)).2
    else ready.rateControl
  {ready with rateControl := rateControl, lastRun := sample.timestampSample}

def fresh (params : RateControl.Params K) (bandwidth : Vector3 (Flt K)) : RateModule K :=
  ⟨.fresh params bandwidth,0,0,none⟩

end
end RateModule
end AerialManipulator
