import Uam.Hysteresis
import Uam.PositionFinite

/-! The emergency setpoint of the position module, and what the controller makes of it. -/
namespace AerialManipulator
open Numeric
variable {K : Type*}

structure PositionFailsafe (K : Type*) where
  failsafeLandHysteresis : Hysteresis
  landSpeed : Flt K
  inFailsafe : Bool

namespace PositionFailsafe
variable [Field K]

def fresh (landSpeed : Flt K) : PositionFailsafe K :=
  ⟨(Hysteresis.init false).setHysteresisTimeFrom false 200000#64,landSpeed,false⟩

def emergencySetpoint (landSpeed : Flt K) (states : PositionControlStates K) : LocalPositionSetpoint K :=
  let setpoint : LocalPositionSetpoint K := resetSetpointToNan
  let setpoint :=
    if states.velocity.x.isFinite && states.velocity.y.isFinite then
      -- don't move along xy
      {setpoint with velocity := {setpoint.velocity with x := 0, y := 0}}
    else
      -- descend with land speed since we can't stop
      { setpoint with
        acceleration := {setpoint.acceleration with x := 0, y := 0}
        velocity := { setpoint.velocity with z := landSpeed } }
  if states.velocity.z.isFinite then
    -- don't move along z if we can stop in all dimensions
    if !setpoint.velocity.z.isFinite then
      {setpoint with velocity := {setpoint.velocity with z := 0}}
    else setpoint
  else
    -- emergency descend with a bit below hover thrust
    { setpoint with
      velocity := {setpoint.velocity with z := .nan}
      acceleration := { setpoint.acceleration with z := .fin 0.3 } }

def failsafe (m : PositionFailsafe K) (now : HrtAbstime) (setpoint : LocalPositionSetpoint K)
    (states : PositionControlStates K) : LocalPositionSetpoint K × PositionFailsafe K :=
  let m := {m with failsafeLandHysteresis := m.failsafeLandHysteresis.setStateAndUpdate true now}
  if m.failsafeLandHysteresis.state then
    (emergencySetpoint m.landSpeed states,{m with inFailsafe := true})
  else (setpoint,m)

lemma emergencySetpoint_horizontal (landSpeed : Flt K) (states : PositionControlStates K) :
    (emergencySetpoint landSpeed states).position = ⟨.nan,.nan,.nan⟩ ∧
      ((emergencySetpoint landSpeed states).velocity.xy = ⟨0,0⟩ ∨
        (emergencySetpoint landSpeed states).velocity.xy = ⟨.nan,.nan⟩) := by
  unfold emergencySetpoint
  cases states.velocity.x.isFinite && states.velocity.y.isFinite <;>
    cases states.velocity.z.isFinite <;> cases landSpeed <;> simp [resetSetpointToNan,Vector3.xy]

section
variable (m : PositionFailsafe K) (now : HrtAbstime) (setpoint : LocalPositionSetpoint K)
  (states : PositionControlStates K)
include m now setpoint states

lemma failsafe_hysteresis : (m.failsafe now setpoint states).2.failsafeLandHysteresis =
      m.failsafeLandHysteresis.setStateAndUpdate true now := by
  unfold failsafe
  dsimp only
  split <;> rfl

lemma failsafe_elapsed (elapsed : (m.failsafeLandHysteresis.setStateAndUpdate true now).state = true) :
    m.failsafe now setpoint states = (emergencySetpoint m.landSpeed states,
      {m with failsafeLandHysteresis := m.failsafeLandHysteresis.setStateAndUpdate true now, inFailsafe := true}) := by
  simp [failsafe,elapsed]

end

def requested (states : PositionControlStates K) : PositionFailsafe K :=
  ((fresh (.fin 0.7)).failsafe 1000000#64 resetSetpointToNan states).2

lemma requested_elapsed (states : PositionControlStates K) :
    ((requested states).failsafeLandHysteresis.setStateAndUpdate true 1200000#64).state = true := by
  rw [requested,failsafe_hysteresis]
  change ((((Hysteresis.init false).setHysteresisTimeFrom false 200000#64).setStateAndUpdate true
    1000000#64).setStateAndUpdate true 1200000#64).state = true
  decide

end PositionFailsafe

namespace PositionControl
variable [Field K] [LinearOrder K] [IsStrictOrderedRing K] [Libm K] [LawfulLibm K]

def Executable (result : Bool × PositionControl K) : Prop :=
  result.1 = true ∧ result.2.accSp.isFinite = true ∧ result.2.thrSp.isFinite = true

lemma update_not_executable (c : PositionControl K) (dt : Flt K)
    (position : c.posSp = ⟨.nan,.nan,.nan⟩) (velocity : c.velSp.xy = ⟨0,0⟩ ∨ c.velSp.xy = ⟨.nan,.nan⟩)
    (limit : 0 < c.settings.limVelHorizontal) : ¬Executable (c.update dt) := by
  rintro ⟨accepted,finite,-⟩
  by_cases valid : c.inputValid = true
  · have slow : ¬c.settings.limVelHorizontal ≤ c.velSp.xy.norm := by
      rcases velocity with zero | unset
      · rw [zero,Vector2.norm_eq_zero.mpr rfl]
        cases h : c.settings.limVelHorizontal <;> simp_all
      · simp [unset,Vector2.norm,Vector2.dot]
    have paired : c.velSp.x.isFinite = c.velSp.y.isFinite := by
      rcases velocity with zero | unset
      · rw [← Vector3.xy_x c.velSp,← Vector3.xy_y c.velSp,zero]
      · rw [← Vector3.xy_x c.velSp,← Vector3.xy_y c.velSp,unset]
    have lost := velSpLimited_lost c (by rw [position]) (by rw [position]) paired limit slow
    have forward : c.velSpLimited.x = .nan := congrArg Vector2.x lost
    rw [update_valid valid,Vector3.isFinite_iff] at finite
    simp [control_accSp,forward] at finite
  · rw [update_invalid (by simpa using valid)] at accepted
    exact absurd accepted (by simp)

end PositionControl

namespace PositionFailsafe

/-- Whatever is estimated, the emergency setpoint is not executed: the position stage loses its horizontal velocity. -/
theorem failsafe_never_executable (m : PositionFailsafe ℝ) (now : HrtAbstime)
    (setpoint : LocalPositionSetpoint ℝ) (states : PositionControlStates ℝ) (c : PositionControl ℝ)
    (dt : Flt ℝ) (elapsed : (m.failsafeLandHysteresis.setStateAndUpdate true now).state = true)
    (limit : 0 < c.settings.limVelHorizontal) :
    ¬ PositionControl.Executable
      (((c.setState states).setInputSetpoint (m.failsafe now setpoint states).1).update dt) := by
  obtain ⟨position,velocity⟩ := emergencySetpoint_horizontal m.landSpeed states
  rw [failsafe_elapsed m now setpoint states elapsed]
  exact PositionControl.update_not_executable _ dt position velocity limit

theorem failsafe_blind_never_executable :
    let states : PositionControlStates ℝ := ⟨⟨.nan,.nan,.nan⟩,⟨.nan,.nan,.nan⟩,⟨.nan,.nan,.nan⟩,.nan⟩
    ¬ PositionControl.Executable
      ((((PositionControl.fresh .defaults ⟨.fin 8,.fin 8,.fin 4⟩).setState states).setInputSetpoint
        ((requested states).failsafe 1200000#64 resetSetpointToNan states).1).update (.fin 0.004)) :=
  failsafe_never_executable (requested _) 1200000#64 resetSetpointToNan _ _ _ (requested_elapsed _)
    (by
      change (0 : ℝ) < 3.35
      norm_num)

/-- With every estimate at hand the vehicle at rest is not held in place either. -/
theorem failsafe_at_rest_not_executable : let states : PositionControlStates ℝ := ⟨0,0,0,0⟩
    ((requested states).failsafe 1200000#64 resetSetpointToNan states).2.inFailsafe = true ∧
      ¬ PositionControl.Executable
        ((((PositionControl.fresh .defaults ⟨.fin 8,.fin 8,.fin 4⟩).setState states).setInputSetpoint
          ((requested states).failsafe 1200000#64 resetSetpointToNan states).1).update (.fin 0.004)) := by
  intro states
  obtain ⟨position,velocity⟩ := emergencySetpoint_horizontal (Flt.fin (0.7 : ℝ)) states
  rw [failsafe_elapsed _ _ _ _ (requested_elapsed states)]
  refine ⟨rfl,PositionControl.update_not_executable _ _ position velocity ?_⟩
  change (0 : ℝ) < 3.35
  norm_num

end PositionFailsafe
end AerialManipulator
