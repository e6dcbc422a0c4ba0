import Uam.ThrustTilt

/-! The length of the thrust setpoint. The vertical part is cut to what the horizontal margin
leaves, the horizontal part to what is then left. -/
namespace AerialManipulator
open Numeric

namespace ThrustDemand
open ControlMath PositionControl Real

structure Limited (d : ThrustDemand) : Prop where
  min_low : 10e-4 ≤ d.thrMin
  min_le : d.thrMin ≤ d.thrMax
  margin_low : 0 ≤ d.margin
  margin_le : d.margin ≤ d.thrMax

noncomputable def room (d : ThrustDemand) (request : Vector3 ℝ) : ℝ :=
  √(d.thrMax^2-min √(request.x^2+request.y^2) d.margin^2)

structure Keeps (d : ThrustDemand) (request thrust : Vector3 ℝ) : Prop where
  length : √(thrust.x^2+thrust.y^2+thrust.z^2) ≤ d.thrMax
  upward : thrust.z ≤ 0
  direction : ∃ k, 0 ≤ k ∧ k ≤ 1 ∧ thrust.x = k * request.x ∧ thrust.y = k * request.y
  whole : -request.z ≤ d.room request → thrust.z = request.z
  cut : d.room request < -request.z → thrust.z = -d.room request
  lost : thrust.z = 0 → d.margin = d.thrMax ∧ d.thrMax ≤ √(request.x^2+request.y^2)

section
variable {c : PositionControl ℝ} {d : ThrustDemand} (given : d.Of c)
include given

lemma exists_request (low : -(π / 2) < d.tilt) (positive : 0 < d.thrMin) : ∃ (w : Vector2 ℝ) (h v : ℝ),
    w.len = 1 ∧ 0 ≤ h ∧ 0 < v ∧ accelerationControl c.settings c.accelerationCommand =
      ⟨.fin (w.x * h),.fin (w.y * h),.fin (-v)⟩ := by
  obtain ⟨u,unit,thrust⟩ := exists_leaning low given
  have collective_pos : 0 < d.collective := lt_max_of_lt_right positive
  have vertical := mul_pos (cos_angle_pos low) collective_pos
  -- A negative limit leans the other way.
  rcases le_total 0 (sin d.angle) with ahead | behind
  · refine ⟨u * (-1 : ℝ),sin d.angle * d.collective,_,(Vector2.len_neg u).trans unit,
      mul_nonneg ahead collective_pos.le,vertical,?_⟩
    rw [thrust]
    ext <;> simp [leaning] <;> ring
  · refine ⟨u,-sin d.angle * d.collective,_,unit,mul_nonneg (neg_nonneg.mpr behind) collective_pos.le,vertical,?_⟩
    rw [thrust]
    ext <;> simp [leaning] <;> ring

lemma thrSp_of_request {w : Vector2 ℝ} {h v : ℝ} (unit : w.len = 1) (nonneg : 0 ≤ h) (limited : d.Limited)
    (request : accelerationControl c.settings c.accelerationCommand =
      ⟨.fin (w.x * h),.fin (w.y * h),.fin (-v)⟩) {z : ℝ} (clip : clipped h v d.thrMax d.margin = z) :
    c.velocityControl.thrSp = ⟨.fin (w.x * min h √(d.thrMax * d.thrMax - z^2)),
      .fin (w.y * min h √(d.thrMax * d.thrMax - z^2)),.fin (-z)⟩ := by
  rw [velocityControl_thrSp,request,prioritizeThrust_eq unit nonneg
    limited.margin_low limited.margin_le given.thrMax given.margin,clip]

end

section
variable {d : ThrustDemand} {w : Vector2 ℝ} {h : ℝ}

lemma sq_add_sq_of_unit (unit : w.len = 1) : w.x^2+w.y^2 = 1 := by
  have square := Vector2.len_mul_self w
  rw [unit,Vector2.dot] at square
  linarith

lemma sqrt_horizontal (unit : w.len = 1) (nonneg : 0 ≤ h) : √((w.x * h)^2 + (w.y * h)^2) = h := by
  have square : (w.x * h)^2 + (w.y * h)^2 = h^2 := by linear_combination h^2 * sq_add_sq_of_unit unit
  rw [square,sqrt_sq nonneg]

lemma keeps_of_request (limited : d.Limited) (unit : w.len = 1) (nonneg : 0 ≤ h) {v z : ℝ} (positive : 0 < v)
    (clip : clipped h v d.thrMax d.margin = z) :
    d.Keeps ⟨w.x * h,w.y * h,-v⟩ ⟨w.x * min h √(d.thrMax * d.thrMax - z^2),
      w.y * min h √(d.thrMax * d.thrMax - z^2),-z⟩ := by
  have size := sqrt_horizontal unit nonneg
  have share : 0 ≤ min h d.margin := le_min nonneg limited.margin_low
  have most : min h d.margin ≤ d.thrMax := (min_le_right _ _).trans limited.margin_le
  have full : 0 ≤ d.thrMax := share.trans most
  set r := d.room ⟨w.x * h,w.y * h,-v⟩ with left
  have limit : r = √(d.thrMax * d.thrMax - min h d.margin * min h d.margin) := by rw [left,room,size,sq,sq]
  have bounds : z = min v r := by rw [← clip,clipped,limit]
  have nonneg_room : 0 ≤ r := sqrt_nonneg _
  have square : r^2 = d.thrMax * d.thrMax - min h d.margin * min h d.margin := by rw [limit,sq_sqrt (by nlinarith)]
  have nonneg_z : 0 ≤ z := bounds ▸ le_min positive.le nonneg_room
  have below : z^2 ≤ d.thrMax * d.thrMax := by
    have small : z ≤ r := bounds ▸ min_le_right _ _
    nlinarith [mul_self_nonneg (min h d.margin)]
  have rest_sq : √(d.thrMax * d.thrMax - z^2)^2 = d.thrMax * d.thrMax - z^2 := sq_sqrt (by linarith)
  have rest_nonneg := sqrt_nonneg (d.thrMax * d.thrMax - z^2)
  generalize √(d.thrMax * d.thrMax - z^2) = rest at rest_sq rest_nonneg
  have part_nonneg : 0 ≤ min h rest := le_min nonneg rest_nonneg
  constructor
  · apply sqrt_le_iff.mpr ⟨full,?_⟩
    have part : min h rest^2 ≤ rest^2 := pow_le_pow_left₀ part_nonneg (min_le_right _ _) 2
    have circle := sq_add_sq_of_unit unit
    have total : (w.x * min h rest)^2 + (w.y * min h rest)^2 + (-z)^2 = min h rest^2 + z^2 := by
      linear_combination min h rest^2 * circle
    rw [total,sq d.thrMax]
    linarith
  · exact neg_nonpos.mpr nonneg_z
  · rcases nonneg.eq_or_lt with none_asked | some_asked
    · refine ⟨0,le_rfl,zero_le_one,?_,?_⟩ <;> simp [← none_asked,rest_nonneg]
    · refine ⟨min h rest / h,div_nonneg part_nonneg nonneg,(div_le_one some_asked).mpr (min_le_left _ _),?_,?_⟩
      · change w.x * min h rest = min h rest / h * (w.x * h)
        field_simp
      · change w.y * min h rest = min h rest / h * (w.y * h)
        field_simp
  · intro small
    rw [neg_neg] at small
    rw [bounds,min_eq_left small]
  · intro large
    rw [neg_neg] at large
    rw [bounds,min_eq_right large.le]
  · intro zero
    have none_left : r = 0 := by
      have gone : min v r = 0 := bounds ▸ neg_eq_zero.mp zero
      rcases min_choice v r with first | second
      · exact absurd (first.symm.trans gone) positive.ne'
      · exact second.symm.trans gone
    rw [none_left] at square
    have whole : d.thrMax ≤ min h d.margin := by nlinarith
    rw [size]
    exact ⟨limited.margin_le.antisymm (whole.trans (min_le_right _ _)),whole.trans (min_le_left _ _)⟩

end

/-- The thrust keeps its limits, and its vertical part is cut only to make room for the horizontal one. -/
theorem thrSp_keeps (c : PositionControl ℝ) (d : ThrustDemand) (given : d.Of c) (limited : d.Limited)
    (tilt : -(π / 2) < d.tilt) : ∃ request thrust : Vector3 ℝ,
      accelerationControl c.settings c.accelerationCommand = request.map Flt.fin ∧
      c.velocityControl.thrSp = thrust.map Flt.fin ∧ d.Keeps request thrust := by
  have positive : 0 < d.thrMin := lt_of_lt_of_le (by norm_num) limited.min_low
  obtain ⟨w,h,v,unit,nonneg,vertical,request⟩ := exists_request given tilt positive
  have kept := keeps_of_request limited unit nonneg vertical rfl
  refine ⟨_,_,?_,?_,kept⟩
  · exact request
  · exact thrSp_of_request given unit nonneg limited request rfl

theorem thrSp_keeps_climbing : let d := carefulDemand ⟨100,0,-29.41995⟩
    ∃ request thrust : Vector3 ℝ,
      accelerationControl (commanding d.acc).settings (commanding d.acc).accelerationCommand = request.map Flt.fin ∧
      (commanding d.acc).velocityControl.thrSp = thrust.map Flt.fin ∧ d.Keeps request thrust := by
  apply thrSp_keeps _ _ (carefulDemand_of _)
  · constructor <;> norm_num [carefulDemand]
  · change -(π / 2) < π / 18
    linarith [Real.pi_pos]

noncomputable def leaningOut (acc : Vector3 ℝ) (tilt : ℝ) : PositionControl ℝ :=
  {commanding acc with settings := {careful with limTilt := .fin tilt, limThrXyMargin := .fin 1}}

noncomputable def leaningDemand (acc : Vector3 ℝ) (tilt : ℝ) : ThrustDemand :=
  {carefulDemand acc with margin := 1, tilt := tilt}

lemma leaningDemand_of (acc : Vector3 ℝ) (tilt : ℝ) : (leaningDemand acc tilt).Of (leaningOut acc tilt) :=
  ⟨(carefulDemand_of acc).acc,rfl,(carefulDemand_of acc).thrMin,rfl,rfl,rfl⟩

lemma leaningDemand_limited (acc : Vector3 ℝ) (tilt : ℝ) : (leaningDemand acc tilt).Limited := by
  constructor <;> norm_num [leaningDemand,carefulDemand]

lemma thrSp_sideways : (leaningOut ⟨20,0,-9.80665⟩ (π / 3)).velocityControl.thrSp.z = 0 := by
  have admissible : (leaningDemand ⟨20,0,-9.80665⟩ (π / 3)).Admissible := by
    have circle := Real.pi_pos
    constructor <;> norm_num [leaningDemand,carefulDemand]
    · exact circle
    · linarith
  have steep : 1 ≤ (leaningDemand ⟨20,0,-9.80665⟩ (π / 3)).slope := by
    have sideways : (⟨20,0⟩ : Vector2 ℝ).len = 20 := Vector2.len_eq_of_dot (by norm_num) (by norm_num [Vector2.dot])
    change 1 ≤ min ((⟨20,0⟩ : Vector2 ℝ).len / 9.80665) (tan (π / 3))
    rw [sideways,Real.tan_pi_div_three]
    exact le_min (by norm_num) (Real.one_le_sqrt.mpr (by norm_num))
  have climb : 1 ≤ (leaningDemand ⟨20,0,-9.80665⟩ (π / 3)).lift := by
    apply le_max_of_le_left
    norm_num [leaningDemand,carefulDemand]
  have pushed := one_le_mul_of_one_le_of_one_le climb steep
  obtain ⟨w,unit,request⟩ := exists_accelerationControl admissible (leaningDemand_of _ _)
  have none_left : clipped ((leaningDemand ⟨20,0,-9.80665⟩ (π / 3)).lift *
      (leaningDemand ⟨20,0,-9.80665⟩ (π / 3)).slope) (leaningDemand ⟨20,0,-9.80665⟩ (π / 3)).lift 1 1 = 0 := by
    rw [clipped,min_eq_right pushed,mul_one,sub_self,sqrt_zero]
    exact min_eq_right (zero_le_one.trans climb)
  rw [thrSp_of_request (leaningDemand_of _ _) unit (zero_le_one.trans pushed) (leaningDemand_limited _ _) request
    none_left,Flt.zero_eq,neg_zero]

lemma thrSp_overturned : (leaningOut ⟨0,0,0⟩ (-π)).velocityControl.thrSp.z = .fin 0.12 := by
  have turned : (leaningDemand ⟨0,0,0⟩ (-π)).angle = -π :=
    min_eq_right ((neg_nonpos.mpr Real.pi_pos.le).trans (arccos_nonneg _))
  obtain ⟨u,unit,direction⟩ := exists_direction (leaningDemand_of ⟨0,0,0⟩ (-π))
  have request : accelerationControl (leaningOut ⟨0,0,0⟩ (-π)).settings
      (leaningOut ⟨0,0,0⟩ (-π)).accelerationCommand = ⟨.fin (u.x * 0),.fin (u.y * 0),.fin (-(-0.12))⟩ := by
    rw [direction,turned]
    have upside : (leaning u (-π)).map Flt.fin = ⟨.fin 0,.fin 0,.fin (-1)⟩ := by simp [leaning,Vector3.map]
    have least : Math.min ((.fin 0 * (.fin 0.5 / oneG) - .fin 0.5) /
        (⟨0,0,1⟩ : Vector3 (Flt ℝ)).dot ⟨.fin 0,.fin 0,.fin (-1)⟩) (-.fin 0.12) = Flt.fin (-0.12) := by
      have gravity : (9.80665 : ℝ) ≠ 0 := by norm_num
      simp [Vector3.dot,oneG,gravity]
      norm_num
    rw [upside]
    change (⟨.fin 0,.fin 0,.fin (-1)⟩ : Vector3 (Flt ℝ)) * Math.min ((.fin 0 * (.fin 0.5 / oneG) - .fin 0.5) /
      (⟨0,0,1⟩ : Vector3 (Flt ℝ)).dot ⟨.fin 0,.fin 0,.fin (-1)⟩) (-.fin 0.12) = _
    rw [least]
    ext <;> simp
  have clip : clipped 0 (-0.12) 1 1 = -0.12 := by norm_num [clipped]
  rw [thrSp_of_request (leaningDemand_of _ _) unit le_rfl (leaningDemand_limited _ _) request clip,neg_neg]

/-- With all thrust for the margin none is left for the vertical, and a limit below -90 degrees turns it over. -/
theorem not_upward : (¬ (leaningOut ⟨20,0,-9.80665⟩ (π / 3)).velocityControl.thrSp.z < 0) ∧
    ¬ (leaningOut ⟨0,0,0⟩ (-π)).velocityControl.thrSp.z < 0 := by
  rw [thrSp_sideways,thrSp_overturned,Flt.zero_eq,Flt.fin_lt,Flt.fin_lt]
  norm_num

end ThrustDemand
end AerialManipulator
