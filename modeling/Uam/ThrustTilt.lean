import Uam.VelocityLimit
import Mathlib.Analysis.Real.Pi.Bounds

/-! The tilt of the thrust setpoint. `accelerationControl` limits it; `prioritizeThrust`
then clips the vertical part. -/
namespace AerialManipulator
open Numeric PositionControl
open Real (cos sin arccos pi)
open Flt (fin fin_mul fin_neg)
open Real (pi pi_pos sin sq_sqrt sqrt_nonneg tan)
open Vector2 (dot len_mul_self len_nonneg)

lemma Vector2.len_neg (u : Vector2 ℝ) : (u * (-1 : ℝ)).len = u.len := by
  apply Vector2.len_eq_of_dot (len_nonneg u)
  rw [len_mul_self]
  simp [dot]

namespace ControlMath
open Vector2 (ofExact)

private lemma nonzero_of_dot {r : Vector2 ℝ} (nonzero : r.dot r ≠ 0) : r.len ≠ 0 := by
  intro zero
  rw [← len_mul_self,zero,mul_zero] at nonzero
  exact nonzero rfl

lemma exists_rejection_unit (b : Vector3 ℝ) : ∃ u : Vector2 ℝ, u.len = 1 ∧
    (tiltRejection (b.map fin) ⟨0,0,1⟩).unit = ⟨.fin u.x,.fin u.y,.fin 0⟩ := by
  have lean : ∃ r : Vector2 ℝ, r.len ≠ 0 ∧ tiltRejection (b.map fin) ⟨0,0,1⟩ = ⟨.fin r.x,.fin r.y,.fin 0⟩ := by
    have flat : b.map fin - (⟨0,0,1⟩ : Vector3 (Flt ℝ)) * (b.map fin).dot ⟨0,0,1⟩ = ⟨.fin b.x,.fin b.y,.fin 0⟩ := by
      ext <;> simp [Vector3.dot]
    rw [tiltRejection,flat]
    split
    · exact ⟨⟨1,b.y⟩,nonzero_of_dot (by simp only [dot]; nlinarith [mul_self_nonneg b.y]),rfl⟩
    next apart =>
      refine ⟨⟨b.x,b.y⟩,nonzero_of_dot ?_,rfl⟩
      intro zero
      apply apart
      have none_left : b.x * b.x + b.y * b.y = 0 := zero
      simp [Vector3.normSquared,Vector3.dot,none_left,fltEpsilon]
  obtain ⟨r,nonzero,rejection⟩ := lean
  refine ⟨r * (1 / r.len),Vector2.len_unit nonzero,?_⟩
  have size : (⟨.fin r.x,.fin r.y,.fin 0⟩ : Vector3 (Flt ℝ)).norm = .fin r.len := by
    have flat : (⟨.fin r.x,.fin r.y,.fin 0⟩ : Vector3 (Flt ℝ)).norm = (ofExact r).norm := by
      simp [Vector3.norm,Vector3.dot,Vector2.norm,dot,ofExact]
    rw [flat,Vector2.norm_ofExact]
  rw [rejection,Vector3.unit,Vector3.divScalar,size]
  ext <;> simp [nonzero]

noncomputable def leaning (u : Vector2 ℝ) (angle : ℝ) : Vector3 ℝ :=
  ⟨u.x * Real.sin angle,u.y * Real.sin angle,Real.cos angle⟩

lemma exists_limitTilt (b : Vector3 ℝ) (maxAngle : ℝ) (low : -1 ≤ b.z) (high : b.z ≤ 1) :
    ∃ u : Vector2 ℝ, u.len = 1 ∧ limitTilt (b.map fin) ⟨0,0,1⟩ (.fin maxAngle) =
      (leaning u (min (arccos b.z) maxAngle)).map fin := by
  obtain ⟨u,unit,direction⟩ := exists_rejection_unit b
  have upright : (b.map fin).dot ⟨0,0,1⟩ = .fin b.z := by simp [Vector3.dot]
  have angle : (fin b.z).acos = .fin (arccos b.z) := if_pos ⟨low,high⟩
  refine ⟨u,unit,?_⟩
  have cosine (a : ℝ) : Libm.cosf a = cos a := rfl
  have sine (a : ℝ) : Libm.sinf a = sin a := rfl
  rw [limitTilt,direction,upright,angle,Math.min_fin,Flt.cos_fin,Flt.sin_fin,cosine,sine]
  ext <;> simp [leaning]

end ControlMath

namespace PositionControl
open ControlMath
open Vector2 (ofExact)

def setThrustLimits {K : Type*} [Field K] [LinearOrder K] (s : Settings K) (min max : Flt K) : Settings K :=
  -- make sure there's always enough thrust vector length to infer the attitude
  {s with limThrMin := Math.max min (.fin 10e-4), limThrMax := max}

lemma velocityControl_thrSp (c : PositionControl ℝ) : c.velocityControl.thrSp =
    prioritizeThrust c.settings (accelerationControl c.settings c.accelerationCommand) := rfl

section
variable {s : Settings ℝ} {w : Vector2 ℝ} {level vertical thrMax margin : ℝ}

noncomputable def clipped (horizontal vertical thrMax margin : ℝ) : ℝ :=
  min vertical √(thrMax * thrMax - min horizontal margin * min horizontal margin)

lemma prioritizeThrust_eq (unit : w.len = 1) (nonneg : 0 ≤ horizontal) (some_margin : 0 ≤ margin)
    (small : margin ≤ thrMax) (most : s.limThrMax = .fin thrMax) (room : s.limThrXyMargin = .fin margin) :
    prioritizeThrust s ⟨.fin (w.x * horizontal),.fin (w.y * horizontal),.fin (-vertical)⟩ =
      ⟨.fin (w.x * min horizontal √(thrMax * thrMax - clipped horizontal vertical thrMax margin^2)),
        .fin (w.y * min horizontal √(thrMax * thrMax - clipped horizontal vertical thrMax margin^2)),
        .fin (-clipped horizontal vertical thrMax margin)⟩ := by
  have size : (⟨.fin (w.x * horizontal),.fin (w.y * horizontal),.fin (-vertical)⟩ : Vector3 (Flt ℝ)).xy.norm =
      .fin horizontal := by
    have exactly : (ofExact (w * horizontal)).norm = .fin horizontal := by
      rw [Vector2.norm_ofExact,Vector2.len_mul _ nonneg,unit,one_mul]
    exact exactly
  have kept : ¬thrMax * thrMax - min horizontal margin * min horizontal margin < 0 := by
    have low : 0 ≤ min horizontal margin := le_min nonneg some_margin
    have high : min horizontal margin ≤ margin := min_le_right _ _
    nlinarith
  have root (a : ℝ) : Libm.sqrtf a = √a := rfl
  have lowered : Math.max (.fin (-vertical))
      (-(fin (thrMax * thrMax - min horizontal margin * min horizontal margin)).sqrt) =
        .fin (-clipped horizontal vertical thrMax margin) := by
    rw [Flt.sqrt_fin,if_neg kept,root,fin_neg,Math.max_fin,max_neg_neg,clipped]
  generalize clipped horizontal vertical thrMax margin = z at lowered ⊢
  have remaining : (if fin (thrMax * thrMax - -z * -z) > 0 then (fin (thrMax * thrMax - -z * -z)).sqrt else 0) =
      .fin √(thrMax * thrMax - z^2) := by
    have square : -z * -z = z^2 := by ring
    rw [square]
    split
    next positive =>
      have above : 0 < thrMax * thrMax - z^2 := positive
      rw [Flt.sqrt_fin,if_neg above.not_gt,root]
    next none_left =>
      have below : ¬0 < thrMax * thrMax - z^2 := none_left
      rw [Real.sqrt_eq_zero_of_nonpos (not_lt.mp below),Flt.zero_eq]
  simp only [prioritizeThrust,size,most,room,Math.sq,Math.min_fin,fin_mul,Flt.fin_sub,lowered,remaining,gt_iff_lt,
    Flt.fin_lt]
  have nonneg_left : 0 ≤ √(thrMax * thrMax - z^2) := sqrt_nonneg _
  generalize √(thrMax * thrMax - z^2) = r at nonneg_left ⊢
  split
  next long =>
    have nonzero : horizontal ≠ 0 := (nonneg_left.trans_lt long).ne'
    rw [min_eq_right long.le]
    ext <;> simp [Vector2.divScalar,nonzero]
  next short =>
    rw [min_eq_left (not_lt.mp short)]
    rfl

end

/-- The angle between the thrust and the upward vertical, down being positive. -/
def TiltAtMost (thrust : Vector3 (Flt ℝ)) (limit : ℝ) : Prop :=
  ∃ v : Vector3 ℝ, thrust = v.map Flt.fin ∧ Real.arccos (-v.z / √(v.x^2 + v.y^2 + v.z^2)) ≤ limit

private lemma arccos_le_iff {x limit : ℝ} (low : -1 ≤ x) (high : x ≤ 1) (nonneg : 0 ≤ limit)
  (half : limit ≤ pi) : arccos x ≤ limit ↔ cos limit ≤ x := by
  rw [← Real.strictAntiOn_cos.le_iff_ge ⟨nonneg,half⟩ ⟨Real.arccos_nonneg x,Real.arccos_le_pi x⟩,
    Real.cos_arccos low high]

lemma tiltAtMost_iff {w : Vector2 ℝ} (unit : w.len = 1) {h z limit : ℝ} (level : 0 ≤ h) (vertical : 0 ≤ z)
    (nonzero : 0 < h^2 + z^2) (positive : 0 < limit) (acute : limit < pi / 2) :
    TiltAtMost ⟨.fin (w.x * h),.fin (w.y * h),.fin (-z)⟩ limit ↔ h * cos limit ≤ z * sin limit := by
  have square := len_mul_self w
  rw [unit,dot,one_mul] at square
  have size : (w.x * h)^2 + (w.y * h)^2 + (-z)^2 = h^2 + z^2 := by linear_combination -h^2 * square
  have angle : TiltAtMost ⟨.fin (w.x * h),.fin (w.y * h),.fin (-z)⟩ limit ↔ arccos (z / √(h^2 + z^2)) ≤ limit := by
    constructor
    · intro tilted
      obtain ⟨v,same,most⟩ := tilted
      have parts : v = ⟨w.x * h,w.y * h,-z⟩ := by
        simp only [Vector3.map,Vector3.mk.injEq,fin.injEq] at same
        exact Vector3.ext same.1.symm same.2.1.symm same.2.2.symm
      rw [parts,size,neg_neg] at most
      exact most
    · intro most
      refine ⟨⟨w.x * h,w.y * h,-z⟩,rfl,?_⟩
      rw [size,neg_neg]
      exact most
  have length : 0 < √(h^2+z^2) := Real.sqrt_pos.mpr nonzero
  have short : z ≤ √(h^2+z^2) := Real.le_sqrt_of_sq_le (by nlinarith)
  have cosine : 0 < cos limit := Real.cos_pos_of_mem_Ioo ⟨by linarith,acute⟩
  have sine : 0 < sin limit := Real.sin_pos_of_pos_of_lt_pi positive (by linarith)
  have circle := Real.sin_sq_add_cos_sq limit
  have squared := sq_sqrt nonzero.le
  have within : cos limit * √(h^2 + z^2) ≤ z ↔ cos limit^2 * (h^2 + z^2) ≤ z^2 := by
    rw [← sq_le_sq₀ (mul_nonneg cosine.le length.le) vertical,mul_pow,squared]
  have slopes : h * cos limit ≤ z * sin limit ↔ h^2 * cos limit^2 ≤ z^2 * sin limit^2 := by
    rw [← sq_le_sq₀ (mul_nonneg level cosine.le) (mul_nonneg vertical sine.le),mul_pow,mul_pow]
  rw [angle,arccos_le_iff (le_trans (by norm_num) (div_nonneg vertical length.le)) ((div_le_one length).mpr short)
    positive.le (by linarith),le_div_iff₀ length,within,slopes]
  have complement : z^2 * sin limit^2 = z^2 - z^2 * cos limit^2 := by linear_combination z^2 * circle
  rw [complement]
  constructor
  all_goals
    intro most
    linarith

end PositionControl

structure ThrustDemand where
  acc : Vector3 ℝ
  hover : ℝ
  thrMin : ℝ
  thrMax : ℝ
  margin : ℝ
  tilt : ℝ

namespace ThrustDemand
open ControlMath

noncomputable def slope (d : ThrustDemand) : ℝ := min ((Vector2.mk d.acc.x d.acc.y).len / 9.80665) (Real.tan d.tilt)

noncomputable def lift (d : ThrustDemand) : ℝ :=
  max (d.hover - d.acc.z * (d.hover / 9.80665)) (d.thrMin / √(1 + d.slope^2))

noncomputable def push (d : ThrustDemand) : ℝ := min (d.lift * d.slope) d.margin

/-- The vertical thrust is not clipped, or the room kept does not exceed the tilt at full thrust. -/
def KeepsTilt (d : ThrustDemand) : Prop :=
  d.lift^2 + d.push^2 ≤ d.thrMax^2 ∨ d.push ≤ d.thrMax * Real.sin d.tilt

structure Admissible (d : ThrustDemand) : Prop where
  hover_low : 0.1 ≤ d.hover
  hover_high : d.hover ≤ 0.9
  margin_pos : 0 < d.margin
  margin_le : d.margin ≤ d.thrMax
  tilt_pos : 0 < d.tilt
  tilt_le : d.tilt ≤ 89 * (Real.pi / 180)

structure Of (d : ThrustDemand) (c : PositionControl ℝ) : Prop where
  acc : c.accelerationCommand = d.acc.map Flt.fin
  hover : c.settings.hoverThrust = .fin d.hover
  thrMin : c.settings.limThrMin = .fin d.thrMin
  thrMax : c.settings.limThrMax = .fin d.thrMax
  margin : c.settings.limThrXyMargin = .fin d.margin
  tilt : c.settings.limTilt = .fin d.tilt

noncomputable def reach (d : ThrustDemand) : ℝ := √(d.acc.x * d.acc.x + d.acc.y * d.acc.y + 9.80665 * 9.80665)

noncomputable def angle (d : ThrustDemand) : ℝ := min (Real.arccos (9.80665 / d.reach)) d.tilt

lemma reach_mul_self (d : ThrustDemand) :
    d.reach * d.reach = (Vector2.mk d.acc.x d.acc.y).len^2 + 9.80665 * 9.80665 := by
  have size := len_mul_self (⟨d.acc.x,d.acc.y⟩ : Vector2 ℝ)
  have nonneg : 0 ≤ d.acc.x * d.acc.x + d.acc.y * d.acc.y + 9.80665 * 9.80665 := by
    nlinarith [mul_self_nonneg d.acc.x,mul_self_nonneg d.acc.y]
  rw [reach,Real.mul_self_sqrt nonneg,sq,size,dot]

lemma reach_ge (d : ThrustDemand) : 9.80665 ≤ d.reach := by
  have square := reach_mul_self d
  have nonneg : 0 ≤ d.reach := sqrt_nonneg _
  nlinarith [sq_nonneg (Vector2.mk d.acc.x d.acc.y).len]

lemma tan_arccos_reach (d : ThrustDemand) :
    tan (arccos (9.80665 / d.reach)) = (Vector2.mk d.acc.x d.acc.y).len / 9.80665 := by
  have positive : 0 < d.reach := lt_of_lt_of_le (by norm_num) (reach_ge d)
  have side : 1 - (9.80665 / d.reach)^2 = ((Vector2.mk d.acc.x d.acc.y).len / d.reach)^2 := by
    field_simp
    rw [sq d.reach,reach_mul_self]
    ring
  rw [Real.tan_arccos,side,Real.sqrt_sq (div_nonneg (len_nonneg _) positive.le)]
  field_simp

lemma arccos_reach_mem (d : ThrustDemand) : arccos (9.80665 / d.reach) ∈ Set.Ioo (-(pi / 2)) (pi / 2) := by
  have positive : 0 < d.reach := lt_of_lt_of_le (by norm_num) (reach_ge d)
  have circle := pi_pos
  constructor
  · linarith [Real.arccos_nonneg (9.80665 / d.reach)]
  · rw [Real.arccos_lt_pi_div_two]
    exact div_pos (by norm_num) positive

section
variable {d : ThrustDemand} (low : -(Real.pi / 2) < d.tilt)
include low

lemma cos_angle_pos : 0 < cos d.angle :=
  Real.cos_pos_of_mem_Ioo ⟨lt_min (arccos_reach_mem d).1 low,(min_le_left _ _).trans_lt (arccos_reach_mem d).2⟩

noncomputable def collective (d : ThrustDemand) : ℝ :=
  max ((d.hover - d.acc.z * (d.hover / 9.80665)) / Real.cos d.angle) d.thrMin

omit low in
lemma unit_acc (d : ThrustDemand) : (⟨-.fin d.acc.x,-.fin d.acc.y,oneG⟩ : Vector3 (Flt ℝ)).unit =
      (⟨-d.acc.x / d.reach,-d.acc.y / d.reach,9.80665 / d.reach⟩ : Vector3 ℝ).map fin := by
  have positive : 0 < d.reach := lt_of_lt_of_le (by norm_num) (reach_ge d)
  have nonneg : 0 ≤ d.acc.x * d.acc.x + d.acc.y * d.acc.y + 9.80665 * 9.80665 := by
    nlinarith [mul_self_nonneg d.acc.x,mul_self_nonneg d.acc.y]
  have root : Libm.sqrtf (d.acc.x * d.acc.x + d.acc.y * d.acc.y + 9.80665 * 9.80665) = d.reach := rfl
  have size : (⟨-.fin d.acc.x,-.fin d.acc.y,oneG⟩ : Vector3 (Flt ℝ)).norm = .fin d.reach := by
    simp only [Vector3.norm,Vector3.dot,oneG,fin_neg,fin_mul,Flt.fin_add,neg_mul_neg,Flt.sqrt_fin,
      if_neg nonneg.not_gt,root]
  rw [Vector3.unit,Vector3.divScalar,size]
  ext <;> simp [oneG,positive.ne',div_eq_mul_inv]

lemma collectiveThrust_eq (u : Vector2 ℝ) : Math.min ((.fin d.acc.z * (.fin d.hover / oneG) - .fin d.hover) /
      (⟨0,0,1⟩ : Vector3 (Flt ℝ)).dot ((leaning u d.angle).map fin)) (-.fin d.thrMin) = .fin (-d.collective) := by
  have nonzero := (cos_angle_pos low).ne'
  have gravity : (9.80665 : ℝ) ≠ 0 := by norm_num
  have projection : (⟨0,0,1⟩ : Vector3 (Flt ℝ)).dot ((leaning u d.angle).map fin) = .fin (cos d.angle) := by
    simp [Vector3.dot,leaning]
  have lowest : (d.acc.z * (d.hover / 9.80665) - d.hover) / cos d.angle =
      -((d.hover - d.acc.z * (d.hover / 9.80665)) / cos d.angle) := by
    rw [← neg_div,neg_sub]
  rw [projection,oneG,Flt.fin_div,if_neg gravity,fin_mul,Flt.fin_sub,Flt.fin_div,if_neg nonzero,fin_neg,
    Math.min_fin,lowest,min_neg_neg,collective]

omit low in
lemma exists_limited (d : ThrustDemand) : ∃ u : Vector2 ℝ, u.len = 1 ∧
    limitTilt (⟨-.fin d.acc.x,-.fin d.acc.y,oneG⟩ : Vector3 (Flt ℝ)).unit ⟨0,0,1⟩ (.fin d.tilt) =
      (leaning u d.angle).map fin := by
  have positive : 0 < d.reach := lt_of_lt_of_le (by norm_num) (reach_ge d)
  rw [unit_acc]
  exact exists_limitTilt _ d.tilt (le_trans (by norm_num) (div_nonneg (by norm_num) positive.le))
    ((div_le_one positive).mpr (reach_ge d))

omit low in
lemma exists_direction (given : d.Of c) : ∃ u : Vector2 ℝ, u.len = 1 ∧
    accelerationControl c.settings c.accelerationCommand = (leaning u d.angle).map fin *
      Math.min ((.fin d.acc.z * (.fin d.hover / oneG) - .fin d.hover) /
        (⟨0,0,1⟩ : Vector3 (Flt ℝ)).dot ((leaning u d.angle).map fin)) (-.fin d.thrMin) := by
  obtain ⟨u,unit,direction⟩ := exists_limited d
  refine ⟨u,unit,?_⟩
  simp only [accelerationControl,collectiveThrust,upright,bodyZ,given.acc,given.hover,given.thrMin,given.tilt,
    Vector3.map_x,Vector3.map_y,Vector3.map_z]
  rw [direction]

lemma exists_leaning (given : d.Of c) : ∃ u : Vector2 ℝ, u.len = 1 ∧
    accelerationControl c.settings c.accelerationCommand =
      (leaning u d.angle).map fin * fin (-d.collective) := by
  obtain ⟨u,unit,direction⟩ := exists_direction given
  rw [collectiveThrust_eq low u] at direction
  exact ⟨u,unit,direction⟩

end

section
variable {d : ThrustDemand} (valid : d.Admissible)
include valid

lemma tilt_lt : d.tilt < pi / 2 := by
  have most := valid.tilt_le
  have circle := pi_pos
  linarith

lemma tan_tilt_pos : 0 < tan d.tilt :=
  Real.tan_pos_of_pos_of_lt_pi_div_two valid.tilt_pos (tilt_lt valid)

lemma slope_nonneg : 0 ≤ d.slope :=
  le_min (div_nonneg (len_nonneg _) (by norm_num)) (tan_tilt_pos valid).le

lemma tilt_mem : d.tilt ∈ Set.Ioo (-(pi / 2)) (pi / 2) :=
  ⟨by linarith [pi_pos,valid.tilt_pos],tilt_lt valid⟩

lemma tan_angle : tan d.angle = d.slope := by
  unfold angle slope
  rw [Real.strictMonoOn_tan.monotoneOn.map_min (arccos_reach_mem d) (tilt_mem valid),tan_arccos_reach]

lemma cos_angle : cos d.angle = (√(1+d.slope^2))⁻¹ := by
  rw [← tan_angle valid,Real.inv_sqrt_one_add_tan_sq (cos_angle_pos (tilt_mem valid).1)]

lemma sin_angle : sin d.angle = d.slope * cos d.angle := by
  rw [← tan_angle valid,Real.tan_mul_cos (cos_angle_pos (tilt_mem valid).1).ne']

lemma collective_mul_cos : d.collective * cos d.angle = d.lift := by
  have positive := cos_angle_pos (tilt_mem valid).1
  rw [collective,max_mul_of_nonneg _ _ positive.le,div_mul_cancel₀ _ positive.ne',lift,cos_angle valid,
    ← div_eq_mul_inv]

lemma exists_accelerationControl (given : d.Of c) : ∃ w : Vector2 ℝ, w.len = 1 ∧
    accelerationControl c.settings c.accelerationCommand =
      ⟨.fin (w.x * (d.lift * d.slope)),.fin (w.y * (d.lift * d.slope)),.fin (-d.lift)⟩ := by
  obtain ⟨u,unit,thrust⟩ := exists_leaning (tilt_mem valid).1 given
  refine ⟨u * (-1 : ℝ),?_,?_⟩
  · rw [Vector2.len_neg,unit]
  have vertical := collective_mul_cos valid
  have level : d.collective * sin d.angle = d.lift * d.slope := by
    rw [sin_angle valid,← vertical]
    ring
  rw [thrust]
  ext
  · simp [leaning,← level]
    ring
  · simp [leaning,← level]
    ring
  · simp [leaning,← vertical]
    ring

omit valid in
lemma lift_pos (upward : 0 < d.thrMin) : 0 < d.lift := lt_max_of_lt_right (div_pos upward (by positivity))

end

lemma thrMin_pos {d : ThrustDemand} (given : d.Of c) (limits : c.settings = setThrustLimits before lowest highest) :
    0 < d.thrMin := by
  have least := given.thrMin
  rw [limits] at least
  change Math.max lowest (.fin 10e-4) = .fin d.thrMin at least
  cases lowest with
  | nan =>
    rw [Math.max_nan_left] at least
    rw [← fin.inj least]
    norm_num
  | fin a =>
    rw [Math.max_fin] at least
    rw [← fin.inj least]
    exact lt_max_of_lt_right (by norm_num)

section
variable {d : ThrustDemand} (valid : d.Admissible) (upward : 0 < d.thrMin) {w : Vector2 ℝ} (unit : w.len = 1)
include valid upward

lemma push_nonneg : 0 ≤ d.push :=
  le_min (mul_nonneg (lift_pos upward).le (slope_nonneg valid)) valid.margin_pos.le

include unit

lemma tilt_unclipped (r : ℝ) (nonneg : 0 ≤ r) :
    PositionControl.TiltAtMost ⟨.fin (w.x * min (d.lift * d.slope) r),.fin (w.y * min (d.lift * d.slope) r),
      .fin (-d.lift)⟩ d.tilt := by
  have positive := lift_pos upward
  have level : 0 ≤ min (d.lift * d.slope) r := le_min (mul_nonneg positive.le (slope_nonneg valid)) nonneg
  rw [tiltAtMost_iff unit level positive.le (by positivity) valid.tilt_pos
    (tilt_lt valid)]
  have cosine : 0 < cos d.tilt := Real.cos_pos_of_mem_Ioo (tilt_mem valid)
  calc min (d.lift * d.slope) r * cos d.tilt
      ≤ d.lift * d.slope * cos d.tilt := by apply mul_le_mul_of_nonneg_right (min_le_left _ _) cosine.le
    _ ≤ d.lift * tan d.tilt * cos d.tilt := by
        apply mul_le_mul_of_nonneg_right _ cosine.le
        exact mul_le_mul_of_nonneg_left (min_le_right _ _) positive.le
    _ = d.lift * sin d.tilt := by rw [mul_assoc,Real.tan_mul_cos cosine.ne']

lemma tilt_clipped_iff : PositionControl.TiltAtMost ⟨.fin (w.x * d.push),.fin (w.y * d.push),
      .fin (-√(d.thrMax * d.thrMax - d.push * d.push))⟩ d.tilt ↔ d.push ≤ d.thrMax * sin d.tilt := by
  have nonneg := push_nonneg valid upward
  have most := valid.margin_pos.trans_le valid.margin_le
  have atMost : d.push ≤ d.thrMax := (min_le_right _ _).trans valid.margin_le
  have inner : 0 ≤ d.thrMax * d.thrMax - d.push * d.push := by nlinarith
  have square := sq_sqrt inner
  have sine : 0 < sin d.tilt :=
    Real.sin_pos_of_pos_of_lt_pi valid.tilt_pos (by linarith [tilt_lt valid,pi_pos])
  have cosine : 0 < cos d.tilt := Real.cos_pos_of_mem_Ioo (tilt_mem valid)
  have circle := Real.sin_sq_add_cos_sq d.tilt
  rw [tiltAtMost_iff unit nonneg (sqrt_nonneg _) (by rw [square]; nlinarith) valid.tilt_pos (tilt_lt valid),
    ← sq_le_sq₀ (mul_nonneg nonneg cosine.le) (mul_nonneg (sqrt_nonneg _) sine.le),
    ← sq_le_sq₀ nonneg (mul_nonneg most.le sine.le),mul_pow,mul_pow,mul_pow,square]
  have balance : d.push^2 * cos d.tilt^2 = d.push^2 - d.push * d.push * sin d.tilt^2 := by
    linear_combination d.push^2 * circle
  rw [balance,sub_mul]
  constructor
  all_goals
    intro small
    linarith

end

section
variable {c : PositionControl ℝ} {d : ThrustDemand} (given : d.Of c) (valid : d.Admissible)
  (upward : 0 < d.thrMin)
include given valid upward

private lemma exists_thrSp : ∃ w : Vector2 ℝ, w.len = 1 ∧
    ∀ z, z = min d.lift √(d.thrMax * d.thrMax - d.push * d.push) → c.velocityControl.thrSp =
      ⟨.fin (w.x * min (d.lift * d.slope) √(d.thrMax * d.thrMax - z^2)),
        .fin (w.y * min (d.lift * d.slope) √(d.thrMax * d.thrMax - z^2)),.fin (-z)⟩ := by
  obtain ⟨w,unit,thrust⟩ := exists_accelerationControl valid given
  refine ⟨w,unit,?_⟩
  intro z clip
  rw [velocityControl_thrSp,thrust,prioritizeThrust_eq unit
    (mul_nonneg (lift_pos upward).le (slope_nonneg valid)) valid.margin_pos.le valid.margin_le
    given.thrMax given.margin,clip]
  rfl

lemma tilt_of_free (free : d.lift^2+d.push^2 ≤ d.thrMax^2) :
    PositionControl.TiltAtMost c.velocityControl.thrSp d.tilt := by
  obtain ⟨w,unit,thrust⟩ := exists_thrSp given valid upward
  have unclipped : d.lift ≤ √(d.thrMax * d.thrMax - d.push * d.push) := Real.le_sqrt_of_sq_le (by linarith)
  rw [thrust d.lift (min_eq_left unclipped).symm]
  exact tilt_unclipped valid upward unit _ (sqrt_nonneg _)

lemma tilt_iff_of_clipped (clipped : d.thrMax^2 < d.lift^2+d.push^2) :
    PositionControl.TiltAtMost c.velocityControl.thrSp d.tilt ↔ d.push ≤ d.thrMax * sin d.tilt := by
  obtain ⟨w,unit,thrust⟩ := exists_thrSp given valid upward
  have nonneg := push_nonneg valid upward
  have atMost : d.push ≤ d.thrMax := (min_le_right _ _).trans valid.margin_le
  have high : √(d.thrMax * d.thrMax - d.push * d.push) ≤ d.lift :=
    Real.sqrt_le_iff.mpr ⟨(lift_pos upward).le,by linarith⟩
  have rest : √(d.thrMax * d.thrMax - √(d.thrMax * d.thrMax - d.push * d.push)^2) = d.push := by
    rw [sq_sqrt (by nlinarith),sub_sub_cancel,Real.sqrt_mul_self nonneg]
  have room : min (d.lift * d.slope) d.push = d.push := min_eq_right (min_le_left _ _)
  rw [thrust _ (min_eq_right high).symm,rest,room]
  exact tilt_clipped_iff valid upward unit

end

/-- The thrust leans by at most the limit exactly if nothing is clipped or the horizontal part alone allows it. -/
theorem thrSp_tilt_iff (c : PositionControl ℝ) (d : ThrustDemand) (before : PositionControl.Settings ℝ)
    (lowest highest : Flt ℝ) (limits : c.settings = PositionControl.setThrustLimits before lowest highest)
    (given : d.Of c) (admissible : d.Admissible) :
    PositionControl.TiltAtMost c.velocityControl.thrSp d.tilt ↔ d.KeepsTilt := by
  have upward := thrMin_pos given limits
  rcases le_or_gt (d.lift^2+d.push^2) (d.thrMax^2) with free | clipped
  · exact iff_of_true (tilt_of_free given admissible upward free) (.inl free)
  · rw [tilt_iff_of_clipped given admissible upward clipped]
    exact ⟨.inr,fun keeps => keeps.resolve_left clipped.not_ge⟩

noncomputable def careful : PositionControl.Settings ℝ :=
  PositionControl.setThrustLimits
    {PositionControl.Settings.defaults with limTilt := .fin (Real.pi / 18), dynFfEnabled := false} (.fin 0.12)
    (.fin 1)

noncomputable def commanding (acc : Vector3 ℝ) : PositionControl ℝ :=
  {PositionControl.fresh careful 0 with accSp := acc.map Flt.fin}

noncomputable def carefulDemand (acc : Vector3 ℝ) : ThrustDemand := ⟨acc,0.5,0.12,1,0.3,Real.pi / 18⟩

lemma carefulDemand_of (acc : Vector3 ℝ) : (carefulDemand acc).Of (commanding acc) := by
  refine ⟨?_,rfl,?_,rfl,rfl,rfl⟩
  · ext <;> simp [accelerationCommand,commanding,careful,fresh,carefulDemand,
      setThrustLimits,PositionControl.Settings.defaults,centrifugal,
      setZeroIfNanVector3f,addIfNotNanVector3f,addIfNotNan]
  · change Math.max (.fin 0.12) (.fin 10e-4) = fin (0.12 : ℝ)
    rw [Math.max_fin]
    norm_num

lemma carefulDemand_admissible (acc : Vector3 ℝ) : (carefulDemand acc).Admissible := by
  have circle := pi_pos
  refine ⟨by norm_num [carefulDemand],by norm_num [carefulDemand],by norm_num [carefulDemand],
    by norm_num [carefulDemand],?_,?_⟩
  · exact div_pos circle (by norm_num)
  · change pi / 18 ≤ 89 * (pi / 180)
    linarith

/-- Climbing with 2 g and accelerating sideways a little, the thrust is clipped. -/
theorem thrSp_tilt_leaning : let d := carefulDemand ⟨0.4903325,0,-19.6133⟩
    d.thrMax < d.lift ∧ PositionControl.TiltAtMost (commanding d.acc).velocityControl.thrSp (Real.pi / 18) := by
  intro d
  have gentle : d.slope ≤ 0.05 := by
    have sideways : (⟨0.4903325,0⟩ : Vector2 ℝ).len = 0.4903325 := Vector2.len_eq_of_dot (by norm_num) (by norm_num [dot])
    apply (min_le_left _ _).trans
    change (⟨0.4903325,0⟩ : Vector2 ℝ).len / 9.80665 ≤ 0.05
    rw [sideways]
    norm_num
  have climb : d.lift = 1.5 := by
    have least : 0.12 / √(1 + d.slope^2) ≤ 0.12 :=
      div_le_self (by norm_num) (Real.one_le_sqrt.mpr (le_add_of_nonneg_right (sq_nonneg _)))
    change max (0.5 - -19.6133 * (0.5 / 9.80665)) (0.12 / √(1 + d.slope^2)) = _
    rw [max_eq_left] <;> linarith
  refine ⟨by rw [climb]; norm_num [d,carefulDemand],?_⟩
  apply (thrSp_tilt_iff _ d _ _ _ rfl (carefulDemand_of _) (carefulDemand_admissible _)).mpr
  right
  apply (min_le_left _ _).trans
  have sine := Real.mul_le_sin (x := pi / 18) (by positivity) (by linarith [pi_pos])
  rw [climb]
  change 1.5 * d.slope ≤ 1 * sin (pi / 18)
  field_simp at sine
  linarith

/-- Climbing with 3 g and accelerating sideways with 100 m/s², the thrust leans by more than ten degrees. -/
theorem not_tilt_climbing : (carefulDemand ⟨100,0,-29.41995⟩).Of (commanding ⟨100,0,-29.41995⟩) ∧
    (carefulDemand ⟨100,0,-29.41995⟩).Admissible ∧
    ¬ PositionControl.TiltAtMost (commanding ⟨100,0,-29.41995⟩).velocityControl.thrSp (Real.pi / 18) := by
  have admissible := carefulDemand_admissible ⟨100,0,-29.41995⟩
  refine ⟨carefulDemand_of _,admissible,?_⟩
  have lower : 0.17 < pi / 18 := by linarith [Real.pi_gt_d2]
  have upper : pi / 18 < 0.18 := by linarith [Real.pi_lt_d2]
  have steep : 0.17 ≤ (carefulDemand ⟨100,0,-29.41995⟩).slope := by
    have sideways : (⟨100,0⟩ : Vector2 ℝ).len = 100 := Vector2.len_eq_of_dot (by norm_num) (by norm_num [dot])
    apply le_min
    · change 0.17 ≤ (⟨100,0⟩ : Vector2 ℝ).len / 9.80665
      rw [sideways]
      norm_num
    · exact (lower.trans (Real.lt_tan (by positivity) (tilt_lt admissible))).le
  have climb : 2 ≤ (carefulDemand ⟨100,0,-29.41995⟩).lift := by
    apply le_max_of_le_left
    norm_num [carefulDemand]
  have room : (carefulDemand ⟨100,0,-29.41995⟩).push = 0.3 := by
    apply min_eq_right
    change 0.3 ≤ _
    nlinarith
  intro tilted
  have small := (tilt_iff_of_clipped (carefulDemand_of _) admissible (by norm_num [carefulDemand]) ?_).mp tilted
  · rw [room] at small
    have sine : sin (pi / 18) < pi / 18 := Real.sin_lt (by positivity)
    have bound : 0.3 ≤ 1 * sin (pi / 18) := small
    linarith
  · rw [room]
    change (1 : ℝ)^2 < _
    nlinarith

end ThrustDemand
end AerialManipulator
