import Uam.Numerics

/-! Vector helpers of the position controller. NaN marks what is not commanded, so the order of tests is kept. -/
namespace AerialManipulator.ControlMath
open Numeric Vector2
variable {K : Type*} [Field K] [LinearOrder K] [Libm K]

def fltEpsilon : Flt K := .fin (1 / 8388608)

def oneG : Flt K := .fin 9.80665

def tiltRejection (bodyUnit worldUnit : Vector3 (Flt K)) : Vector3 (Flt K) :=
  let rejection := bodyUnit - worldUnit * bodyUnit.dot worldUnit
  -- corner case exactly parallel vectors
  if rejection.normSquared < fltEpsilon then {rejection with x := 1} else rejection

def limitTilt (bodyUnit worldUnit : Vector3 (Flt K)) (maxAngle : Flt K) : Vector3 (Flt K) :=
  let angle := Math.min (bodyUnit.dot worldUnit).acos maxAngle
  worldUnit * angle.cos + (tiltRejection bodyUnit worldUnit).unit * angle.sin

def constrainXY (v0 v1 : Vector2 (Flt K)) (max : Flt K) : Vector2 (Flt K) :=
  if (v0+v1).norm ≤ max then
    v0+v1
  else if v0.norm ≥ max then
    -- the magnitude along v0, which has priority, already exceeds maximum
    v0.normalized * max
  else if (v1-v0).norm.abs < .fin 0.001 then
    v0.normalized * max
  else if v0.norm < .fin 0.001 then
    v1.normalized * max
  else
    let u1 := v1.normalized
    let m := u1.dot v0
    let c := v0.dot v0 - max * max
    let s := -m + (m * m - c).sqrt
    v0 + u1 * s

def addIfNotNan (setpoint addition : Flt K) : Flt K :=
  if setpoint.isFinite && addition.isFinite then setpoint+addition
  else if !setpoint.isFinite then addition
  else setpoint

def addIfNotNanVector3f (setpoint addition : Vector3 (Flt K)) : Vector3 (Flt K) :=
  ⟨addIfNotNan setpoint.x addition.x,addIfNotNan setpoint.y addition.y,
    addIfNotNan setpoint.z addition.z⟩

def setZeroIfNanVector3f (vector : Vector3 (Flt K)) : Vector3 (Flt K) :=
  addIfNotNanVector3f vector 0

section

omit [LinearOrder K] [Libm K] in
@[simp] lemma isFinite_addIfNotNan (setpoint addition : Flt K) :
    (addIfNotNan setpoint addition).isFinite = (setpoint.isFinite || addition.isFinite) := by
  cases setpoint <;> cases addition <;> simp [addIfNotNan]

omit [LinearOrder K] [Libm K] in
lemma isFinite_setZeroIfNan (v : Vector3 (Flt K)) : (setZeroIfNanVector3f v).isFinite := by
  simp [setZeroIfNanVector3f,addIfNotNanVector3f,Vector3.isFinite]

lemma constrainXY_nan [IsStrictOrderedRing K] (v0 : Vector2 (Flt K)) (max : Flt K) : constrainXY v0 ⟨.nan,.nan⟩ max =
      if v0.norm ≥ max then v0.normalized * max else ⟨.nan,.nan⟩ := by
  have sum : ¬(v0+⟨.nan,.nan⟩).norm ≤ max := by simp [Vector2.norm,dot]
  have difference : ¬((⟨.nan,.nan⟩-v0 : Vector2 (Flt K)).norm.abs < .fin 0.001) := by simp [Vector2.norm,dot]
  unfold constrainXY
  rw [if_neg sum,if_neg difference]
  split
  · rfl
  · have unknown : (⟨.nan,.nan⟩ : Vector2 (Flt K)).normalized = ⟨.nan,.nan⟩ := by
      ext <;> simp [normalized,divScalar]
    rw [unknown]
    split <;> ext <;> simp [dot]

lemma limitTilt_nan (worldUnit : Vector3 (Flt K)) (maxAngle : Flt K) :
    limitTilt ⟨.nan,.nan,.nan⟩ worldUnit maxAngle = ⟨.nan,.nan,.nan⟩ := by
  have rejection : (tiltRejection ⟨.nan,.nan,.nan⟩ worldUnit).isFinite = false := by
    simp [tiltRejection,Vector3.normSquared,Vector3.dot,Vector3.isFinite]
  ext <;> simp [limitTilt,Vector3.unit_nan _ rejection]

end

section
variable [IsStrictOrderedRing K] [LawfulLibm K]

private lemma second_nonzero {a b p q m : K} (sum : ¬(⟨.fin a,.fin b⟩+⟨.fin p,.fin q⟩ : Vector2 (Flt K)).norm ≤ .fin m)
    (long : ¬(⟨.fin a,.fin b⟩ : Vector2 (Flt K)).norm ≥ .fin m) :
    (⟨.fin p,.fin q⟩ : Vector2 (Flt K)).norm ≠ 0 := by
  intro zero
  obtain ⟨rfl,rfl⟩ : p = 0 ∧ q = 0 := by simpa using norm_eq_zero.mp zero
  have same : (⟨.fin a,.fin b⟩+⟨.fin 0,.fin 0⟩ : Vector2 (Flt K)) = ⟨.fin a,.fin b⟩ := by
    ext <;> simp
  rw [same,norm_fin,Flt.fin_le,not_le] at sum
  rw [norm_fin,ge_iff_le,Flt.fin_le,not_le] at long
  linarith

lemma isFinite_constrainXY {v0 v1 : Vector2 (Flt K)} {max : Flt K}
    (first : v0.isFinite) (second : v1.isFinite) (limit : .fin 0.001 ≤ max) :
    (constrainXY v0 v1 max).isFinite := by
  obtain ⟨m,rfl⟩ := Flt.isFinite_iff.mp (Flt.isFinite_of_le limit).2
  rw [Flt.fin_le] at limit
  have radius : (0 : K) < 0.001 := by norm_num
  rcases v0 with ⟨a | _,b | _⟩ <;> simp [isFinite] at first
  rcases v1 with ⟨p | _,q | _⟩ <;> simp [isFinite] at second
  unfold constrainXY
  split_ifs with sum long equal short
  · rfl
  · apply isFinite_normalized rfl _ _ rfl
    intro zero
    rw [zero] at long
    exact absurd (show m ≤ 0 from long) (by linarith)
  · apply isFinite_normalized rfl _ _ rfl
    intro zero
    -- v0 = 0 makes v1 shorter than the radius and longer than the limit
    obtain ⟨rfl,rfl⟩ : a = 0 ∧ b = 0 := by simpa using norm_eq_zero.mp zero
    have added : (⟨.fin 0,.fin 0⟩+⟨.fin p,.fin q⟩ : Vector2 (Flt K)) = ⟨.fin p,.fin q⟩ := by
      ext <;> simp
    have removed : (⟨.fin p,.fin q⟩-⟨.fin 0,.fin 0⟩ : Vector2 (Flt K)) = ⟨.fin p,.fin q⟩ := by
      ext <;> simp
    rw [added,norm_fin,Flt.fin_le,not_le] at sum
    rw [removed,norm_fin,Flt.abs_fin,Flt.fin_lt] at equal
    linarith [le_abs_self (Libm.sqrtf (p * p + q * q))]
  · apply isFinite_normalized rfl _ _ rfl
    exact second_nonzero sum long
  · have apart := second_nonzero sum long
    rw [norm_fin,ge_iff_le,Flt.fin_le,not_le] at long
    have inside : a * a + b * b ≤ m * m := by
      have square := LawfulLibm.sqrtf_mul_self (a * a + b * b)
        (by nlinarith [mul_self_nonneg a,mul_self_nonneg b])
      nlinarith [LawfulLibm.sqrtf_nonneg (a * a + b * b)]
    obtain ⟨u,w,direction⟩ := normalized_fin apart
    have root : ¬(u * a + w * b) * (u * a + w * b) - (a * a + b * b - m * m) < 0 := by
      nlinarith [mul_self_nonneg (u * a + w * b)]
    simp [direction,isFinite,dot,root]

lemma isFinite_tiltRejection_unit {bodyUnit worldUnit : Vector3 (Flt K)}
    (body : bodyUnit.isFinite) (world : worldUnit.isFinite) :
    (tiltRejection bodyUnit worldUnit).unit.isFinite := by
  have rest : (bodyUnit - worldUnit * bodyUnit.dot worldUnit).isFinite := by simp [body,world]
  unfold tiltRejection
  generalize bodyUnit - worldUnit * bodyUnit.dot worldUnit = rejection at rest
  rcases rejection with ⟨x,y | _,z | _⟩ <;> simp [Vector3.isFinite] at rest
  dsimp only
  split
  · apply Vector3.isFinite_unit _ rfl
    have positive : 1 + y * y + z * z ≠ 0 := by nlinarith [mul_self_nonneg y,mul_self_nonneg z]
    simpa [Vector3.normSquared,Vector3.dot] using positive
  next apart =>
    apply Vector3.isFinite_unit _ (by simp [Vector3.isFinite,rest])
    intro zero
    rw [zero] at apart
    exact apart (by simp [fltEpsilon])

lemma isFinite_limitTilt {bodyUnit worldUnit : Vector3 (Flt K)} {maxAngle : Flt K}
    (body : bodyUnit.isFinite) (world : worldUnit.isFinite)
    (limit : maxAngle.isFinite) :
    (limitTilt bodyUnit worldUnit maxAngle).isFinite := by
  have angle : (Math.min (bodyUnit.dot worldUnit).acos maxAngle).isFinite := Math.isFinite_min limit
  simp [limitTilt,world,angle,isFinite_tiltRejection_unit body world]

end
end AerialManipulator.ControlMath
