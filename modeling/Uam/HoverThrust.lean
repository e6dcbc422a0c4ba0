import Uam.ThrustTilt

/-! Updates of the hover thrust. The velocity integral takes up the difference, but nothing reads it. -/
namespace AerialManipulator
open Numeric ControlMath ThrustDemand

namespace PositionControl
variable {K : Type*} [Field K] [LinearOrder K]

def setHoverThrust (s : Settings K) (hoverThrust : Flt K) : Settings K :=
  {s with hoverThrust := Math.constrain hoverThrust (.fin 0.1) (.fin 0.9)}

def updateHoverThrust (c : PositionControl K) (hoverThrustNew : Flt K) : PositionControl K :=
  if hoverThrustNew > fltEpsilon then
    { c with
      velInt.z := c.velInt.z + ((c.accSp.z - oneG) * c.settings.hoverThrust / hoverThrustNew + oneG - c.accSp.z)
      settings := setHoverThrust c.settings hoverThrustNew }
  else c

variable [Libm K]

def withInputs (c : PositionControl K) (vel velSp accSp esoDisturbance : Vector3 (Flt K)) : PositionControl K :=
  {c with vel := vel, velSp := velSp, accSp := accSp, esoDisturbance := esoDisturbance}

/-- The hover thrust stays, or does not count: free fall is asked for, or the thrust is not a number. -/
def HoverNeutral (c : PositionControl K) (hoverThrustNew : Flt K) : Prop :=
  (setHoverThrust c.settings hoverThrustNew).hoverThrust = c.settings.hoverThrust ∨
    (c.accelerationCommand.z = oneG ∧ c.settings.hoverThrust.isFinite = true) ∨ c.accelerationCommand.z = .nan ∨
    upright c.settings c.accelerationCommand ∈ [.nan,0]

omit [Libm K] in
lemma collective_eq_iff [IsStrictOrderedRing K] (acc cosine hover : Flt K) (new : K) :
    (acc * (.fin new / oneG) - .fin new) / cosine = (acc * (hover / oneG) - hover) / cosine ↔
      Flt.fin new = hover ∨ (acc = oneG ∧ hover.isFinite = true) ∨ acc = .nan ∨ cosine ∈ [.nan,0] := by
  have gravity : (9.80665 : K) ≠ 0 := by norm_num
  cases acc with
  | nan => simp
  | fin a =>
  cases cosine with
  | nan => simp
  | fin p =>
  by_cases flat : p = 0
  · cases hover <;> simp [flat,oneG,gravity]
  cases hover with
  | nan => simp [oneG,gravity,flat]
  | fin h =>
    have same : (a * (new / 9.80665) - new) / p = (a * (h / 9.80665) - h) / p ↔ new = h ∨ a = 9.80665 := by
      constructor
      · intro equal
        field_simp at equal
        have product : (new - h) * (a - 9.80665) = 0 := by linear_combination equal
        rcases mul_eq_zero.mp product with left | right
        · exact .inl (sub_eq_zero.mp left)
        · exact .inr (sub_eq_zero.mp right)
      · intro either
        rcases either with kept | falls
        · rw [kept]
        · rw [falls]
          field_simp
          ring
    simpa [oneG,gravity,flat] using same

section
variable {c : PositionControl ℝ} {hoverThrustNew : Flt ℝ} (large : hoverThrustNew > fltEpsilon)
  (vel velSp accSp esoDisturbance : Vector3 (Flt ℝ))
include large

lemma collective_update_iff {new : ℝ} (number : (setHoverThrust c.settings hoverThrustNew).hoverThrust = .fin new) :
    collectiveThrust ((c.updateHoverThrust hoverThrustNew).withInputs vel velSp accSp esoDisturbance).settings
      ((c.updateHoverThrust hoverThrustNew).withInputs vel velSp accSp esoDisturbance).accelerationCommand =
      collectiveThrust c.settings (c.withInputs vel velSp accSp esoDisturbance).accelerationCommand ↔
    (c.withInputs vel velSp accSp esoDisturbance).HoverNeutral hoverThrustNew := by
  have settings : (c.updateHoverThrust hoverThrustNew).settings = setHoverThrust c.settings hoverThrustNew := by
    rw [updateHoverThrust,if_pos large]
  have command : ((c.updateHoverThrust hoverThrustNew).withInputs vel velSp accSp esoDisturbance).accelerationCommand =
        (c.withInputs vel velSp accSp esoDisturbance).accelerationCommand := by
    rw [updateHoverThrust,if_pos large]
    rfl
  have same := collective_eq_iff (c.withInputs vel velSp accSp esoDisturbance).accelerationCommand.z
    (upright c.settings (c.withInputs vel velSp accSp esoDisturbance).accelerationCommand) c.settings.hoverThrust new
  rw [← number] at same
  rw [command,withInputs,settings]
  exact same

end

/-- A new hover thrust changes the collective thrust unless it is neutral: the integrator is not read. -/
theorem collectiveThrust_kept_iff (c : PositionControl ℝ) (hoverThrustNew : Flt ℝ)
    (vel velSp accSp esoDisturbance : Vector3 (Flt ℝ)) (large : hoverThrustNew > fltEpsilon) :
    let without := c.withInputs vel velSp accSp esoDisturbance
    let updated := (c.updateHoverThrust hoverThrustNew).withInputs vel velSp accSp esoDisturbance
    collectiveThrust updated.settings updated.accelerationCommand =
      collectiveThrust without.settings without.accelerationCommand ↔ without.HoverNeutral hoverThrustNew := by
  intro without updated
  obtain ⟨new,number⟩ : ∃ new, (setHoverThrust c.settings hoverThrustNew).hoverThrust = .fin new :=
    Flt.isFinite_iff.mp (Math.isFinite_constrain (Flt.isFinite_of_lt large).2)
  exact collective_update_iff large vel velSp accSp esoDisturbance number

/-- In free fall and accelerating sideways the hover thrust does not count. -/
theorem collectiveThrust_kept_falling : let c := commanding ⟨3,0,9.80665⟩
    let updated := (c.updateHoverThrust (.fin 0.6)).withInputs 0 0 ⟨.fin 3,.fin 0,oneG⟩ 0
    collectiveThrust updated.settings updated.accelerationCommand = collectiveThrust c.settings c.accelerationCommand := by
  intro c updated
  have large : Flt.fin (0.6 : ℝ) > fltEpsilon := by
    change (1 / 8388608 : ℝ) < 0.6
    norm_num
  have acc := (carefulDemand_of ⟨3,0,9.80665⟩).acc
  exact (collectiveThrust_kept_iff c (.fin 0.6) 0 0 ⟨.fin 3,.fin 0,oneG⟩ 0 large).mpr
    (.inr (.inl ⟨congrArg Vector3.z acc,rfl⟩))

/-- Without any acceleration asked for, the collective thrust jumps from 0.5 to 0.6. -/
theorem collectiveThrust_jumps : let c := commanding ⟨0,0,0⟩
    collectiveThrust ((c.updateHoverThrust (.fin 0.6)).withInputs 0 0 0 0).settings
      ((c.updateHoverThrust (.fin 0.6)).withInputs 0 0 0 0).accelerationCommand ≠
      collectiveThrust (c.withInputs 0 0 0 0).settings (c.withInputs 0 0 0 0).accelerationCommand := by
  intro c equal
  have large : Flt.fin (0.6 : ℝ) > fltEpsilon := by
    change (1 / 8388608 : ℝ) < 0.6
    norm_num
  have number : (setHoverThrust c.settings (.fin 0.6)).hoverThrust = .fin 0.6 := by
    change Math.constrain (.fin 0.6) (.fin 0.1) (.fin 0.9) = Flt.fin (0.6 : ℝ)
    norm_num [Math.constrain]
  have neutral := (collective_update_iff large 0 0 0 0 number).mp equal
  have given := carefulDemand_of ⟨0,0,0⟩
  obtain ⟨u,unit,direction⟩ := exists_limited (carefulDemand ⟨0,0,0⟩)
  have cosine := cos_angle_pos (tilt_mem (carefulDemand_admissible ⟨0,0,0⟩)).1
  have level : upright c.settings c.accelerationCommand = .fin (Real.cos (carefulDemand ⟨0,0,0⟩).angle) := by
    rw [given.acc,upright,bodyZ]
    rw [given.tilt]
    change (⟨0,0,1⟩ : Vector3 (Flt ℝ)).dot (limitTilt
      (⟨-.fin (carefulDemand ⟨0,0,0⟩).acc.x,-.fin (carefulDemand ⟨0,0,0⟩).acc.y,oneG⟩ :
        Vector3 (Flt ℝ)).unit ⟨0,0,1⟩ _) = _
    rw [direction]
    simp [Vector3.dot,leaning]
  have still : c.accelerationCommand.z = .fin 0 := by rw [given.acc]; rfl
  rcases neutral with kept | falls | unknown | flat
  · change (setHoverThrust c.settings (.fin 0.6)).hoverThrust = c.settings.hoverThrust at kept
    rw [number] at kept
    exact absurd (Flt.fin.inj (kept.trans given.hover)) (by norm_num [carefulDemand])
  · exact absurd (Flt.fin.inj (still.symm.trans falls.1)) (by norm_num)
  · exact absurd (still.symm.trans unknown) (by simp)
  · change upright c.settings c.accelerationCommand ∈ _ at flat
    rw [level] at flat
    simp [cosine.ne'] at flat

end PositionControl
end AerialManipulator
