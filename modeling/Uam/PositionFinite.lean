import Uam.PositionControl

/-! Which outputs of the position controller are finite: how NaN passes through the stages of one cycle. -/
namespace AerialManipulator.PositionControl
open Numeric ControlMath Vector3
variable {K : Type*} [Field K] [LinearOrder K] [Libm K] (c : PositionControl K)

lemma velSpLimited_xy : c.velSpLimited.xy = constrainXY (setZeroIfNanVector3f c.velSpUnc).xy
      (setZeroIfNanVector3f c.velSpUnc-c.velSpP-c.posInt.emult c.settings.gainPosI).xy
      c.settings.limVelHorizontal := by
  simp only [velSpLimited,xy,setXy]

lemma control_accSp (dt : Flt K) : (c.control dt).accSp = setZeroIfNanVector3f c.accSp +
      (c.velSpLimited - c.vel).emult c.settings.gainVelP - (c.control dt).esoDisturbance
        - centrifugal c.settings := rfl

lemma control_posInt (dt : Flt K) : (c.control dt).posInt = if (c.posSp-c.pos).isFinite then
      (c.posInt+(c.posSp-c.pos-(c.velSpUnc-c.velSpLimited).emult
        (c.settings.gainPosP.map arwGain)) * dt).map
          (Math.constrain · (-c.settings.limPosInt) c.settings.limPosInt)
    else c.posInt := rfl

lemma control_thrSp (dt : Flt K) : (c.control dt).thrSp =
    prioritizeThrust c.settings (accelerationControl c.settings (c.control dt).accSp) := rfl

lemma control_esoInput (dt : Flt K) : (c.control dt).esoInput = (if c.settings.hoverThrust > fltEpsilon then
      (c.control dt).thrSp * ((oneG : Flt K) / c.settings.hoverThrust)
    else (c.control dt).thrSp * (oneG : Flt K)) + ⟨0,0,oneG⟩ + centrifugal c.settings := rfl

lemma accelerationControl_nan (s : Settings K) {accSp : Vector3 (Flt K)}
    (unknown : accSp.x = .nan ∨ accSp.y = .nan) : accelerationControl s accSp = ⟨.nan,.nan,.nan⟩ := by
  have direction : (⟨-accSp.x,-accSp.y,oneG⟩ : Vector3 (Flt K)).unit = ⟨.nan,.nan,.nan⟩ := by
    apply unit_nan
    rcases unknown with x | y
    · simp [isFinite,x]
    · simp [isFinite,y]
  ext <;> simp [accelerationControl,bodyZ,direction,limitTilt_nan]

lemma prioritizeThrust_nan (s : Settings K) :
    (prioritizeThrust s ⟨.nan,.nan,.nan⟩).x = .nan ∧ (prioritizeThrust s ⟨.nan,.nan,.nan⟩).y = .nan := by
  simp [prioritizeThrust,Vector2.norm,Vector2.dot,xy]

lemma velocityControl_lost (unknown : c.velocityControl.accSp.x = .nan ∨ c.velocityControl.accSp.y = .nan) :
    c.velocityControl.thrSp.x = .nan ∧ c.velocityControl.esoInput.x = .nan := by
  have thrust := prioritizeThrust_nan c.settings
  rw [← accelerationControl_nan c.settings unknown] at thrust
  have lost : c.velocityControl.thrSp.x = .nan := thrust.1
  refine ⟨lost,?_⟩
  change (c.velocityControl.accCmdPrev+⟨0,0,oneG⟩+centrifugal c.settings).x = .nan
  have command : c.velocityControl.accCmdPrev.x = .nan := by
    change (if c.settings.hoverThrust > fltEpsilon then
      c.velocityControl.thrSp * ((oneG : Flt K) / c.settings.hoverThrust)
      else c.velocityControl.thrSp * (oneG : Flt K)).x = .nan
    split <;> simp [lost]
  simp [command]

variable [IsStrictOrderedRing K]

lemma velSpLimited_open (px : c.posSp.x = .nan) (py : c.posSp.y = .nan)
    (paired : c.velSp.x.isFinite = c.velSp.y.isFinite) : c.velSpLimited.xy =
      let forward := if c.velSp.x.isFinite then c.velSp.xy else ⟨0,0⟩
      if forward.norm ≥ c.settings.limVelHorizontal then forward.normalized * c.settings.limVelHorizontal
      else ⟨.nan,.nan⟩ := by
  have forward : (setZeroIfNanVector3f c.velSpUnc).xy = if c.velSp.x.isFinite then c.velSp.xy else ⟨0,0⟩ := by
    ext <;> cases hx : c.velSp.x <;> cases hy : c.velSp.y <;>
      simp_all [velSpUnc,velSpP,setZeroIfNanVector3f,addIfNotNanVector3f,addIfNotNan]
  have rest : (setZeroIfNanVector3f c.velSpUnc-c.velSpP-c.posInt.emult c.settings.gainPosI).xy = ⟨.nan,.nan⟩ := by
    ext <;> simp [velSpP,px,py]
  rw [velSpLimited_xy,rest,constrainXY_nan,forward]

variable [LawfulLibm K]

lemma velSpLimited_lost (px : c.posSp.x = .nan) (py : c.posSp.y = .nan)
    (paired : c.velSp.x.isFinite = c.velSp.y.isFinite) (limit : 0 < c.settings.limVelHorizontal)
    (slow : ¬c.settings.limVelHorizontal ≤ c.velSp.xy.norm) :
    c.velSpLimited.xy = ⟨.nan,.nan⟩ := by
  rw [velSpLimited_open c px py paired]
  apply if_neg
  split
  · exact slow
  · rw [Vector2.norm_eq_zero.mpr rfl]
    cases h : c.settings.limVelHorizontal <;> simp_all

/-- Finite settings with which no stage divides by zero or takes a negative root. -/
structure Settings.Usable (s : Settings K) : Prop where
  gainPosP : s.gainPosP.isFinite = true
  gainPosI : s.gainPosI.isFinite = true
  gainVelP : s.gainVelP.isFinite = true
  limVelHorizontal : .fin 0.001 ≤ s.limVelHorizontal
  limThrMin : s.limThrMin.isFinite = true
  limThrXyMargin : Math.sq s.limThrXyMargin ≤ Math.sq s.limThrMax
  limTilt : s.limTilt.isFinite = true
  hoverThrust : s.hoverThrust.isFinite = true
  bodyRate : s.bodyRate.isFinite = true
  sysComPos : s.sysComPos.isFinite = true
  attitude : s.attitude.isFinite = true
  rotation : s.attitude.normSq ≠ 0

section
omit [LawfulLibm K] [Libm K]

lemma Settings.Usable.limVelHorizontal_pos {s : Settings K} (usable : s.Usable) :
    ∃ m, s.limVelHorizontal = .fin m ∧ 0 < m := by
  have limit := usable.limVelHorizontal
  obtain ⟨m,equal⟩ := Flt.isFinite_iff.mp (Flt.isFinite_of_le limit).2
  rw [equal,Flt.fin_le] at limit
  exact ⟨m,equal,lt_of_lt_of_le (by norm_num) limit⟩

lemma ne_zero_of_gt_fltEpsilon {p : Flt K} (above : p > fltEpsilon) : p ≠ .fin 0 := by
  rintro rfl
  have negative : (1 / 8388608 : K) < 0 := above
  norm_num at negative

lemma isFinite_arwGain {p : Flt K} (finite : p.isFinite) : (arwGain p).isFinite := by
  unfold arwGain
  split
  next above => simp [finite,ne_zero_of_gt_fltEpsilon above]
  · rfl

end

section
variable {s : Settings K}

omit [LawfulLibm K] [Libm K] [IsStrictOrderedRing K] in
lemma isFinite_centrifugal (usable : s.Usable) : (centrifugal s).isFinite := by
  unfold centrifugal
  split
  · have arm := isFinite_cross _ _ usable.bodyRate (isFinite_cross _ _ usable.bodyRate usable.sysComPos)
    simp [Quat.isFinite_rotateVector _ _ usable.attitude usable.rotation arm]
  · rfl

lemma isFinite_accelerationControl (usable : s.Usable) {accSp : Vector3 (Flt K)}
    (x : accSp.x.isFinite) (y : accSp.y.isFinite) :
    (accelerationControl s accSp).isFinite := by
  obtain ⟨a,ax⟩ := Flt.isFinite_iff.mp x
  obtain ⟨b,ay⟩ := Flt.isFinite_iff.mp y
  have direction : (⟨-accSp.x,-accSp.y,oneG⟩ : Vector3 (Flt K)).unit.isFinite := by
    apply isFinite_unit
    · simp [isFinite,x,y,oneG]
    · have positive : a * a + b * b + 9.80665 * 9.80665 ≠ 0 := by nlinarith [mul_self_nonneg a,mul_self_nonneg b]
      simpa [normSquared,dot,ax,ay,oneG] using positive
  have upright : (⟨0,0,1⟩ : Vector3 (Flt K)).isFinite := rfl
  have tilted := isFinite_limitTilt direction upright usable.limTilt
  have bound : (-s.limThrMin).isFinite := by simp [usable.limThrMin]
  simp only [accelerationControl,bodyZ,isFinite_mul,tilted,Math.isFinite_min bound,Bool.and_self]

omit [LawfulLibm K] [Libm K] in
private lemma allocated_le {n m t : K} (nonneg : 0 ≤ n) (margin : m * m ≤ t * t) :
    ∃ a, Math.min (Flt.fin n) (Flt.fin m) = .fin a ∧ a * a ≤ t * t := by
  unfold Math.min
  split
  next less => exact ⟨n,rfl,by nlinarith [show n < m from less]⟩
  · exact ⟨m,rfl,margin⟩

lemma isFinite_prioritizeThrust (usable : s.Usable) {thrSp : Vector3 (Flt K)}
    (finite : thrSp.isFinite) : (prioritizeThrust s thrSp).isFinite := by
  rcases thrSp with ⟨a | _,b | _,c | _⟩ <;> simp [isFinite] at finite
  obtain ⟨⟨m,margin⟩,⟨t,total⟩⟩ : (∃ m, s.limThrXyMargin = .fin m) ∧ ∃ t, s.limThrMax = .fin t := by
    have both := Flt.isFinite_of_le usable.limThrXyMargin
    simpa [Math.sq,Flt.isFinite_iff] using both
  have within := usable.limThrXyMargin
  rw [margin,total] at within
  obtain ⟨al,allocated,bounded⟩ :=
    allocated_le (LawfulLibm.sqrtf_nonneg (a * a + b * b)) (show m * m ≤ t * t from within)
  have root : ((Math.sq (Flt.fin t)-Math.sq (Flt.fin al)).sqrt).isFinite := by
    simp [Math.sq,not_lt.mpr bounded]
  have vertical : (Math.max (Flt.fin c) (-(Math.sq (Flt.fin t)-Math.sq (Flt.fin al)).sqrt)).isFinite =
      true := Math.isFinite_max (by simpa using root)
  have norm : (⟨.fin a,.fin b,.fin c⟩ : Vector3 (Flt K)).xy.norm =
      .fin (Libm.sqrtf (a * a + b * b)) := Vector2.norm_fin a b
  simp only [prioritizeThrust,norm,margin,total,allocated]
  generalize Math.max (Flt.fin c) _ = z at vertical
  obtain ⟨v,rfl⟩ := Flt.isFinite_iff.mp vertical
  -- the remaining horizontal thrust is finite and not negative
  obtain ⟨r,rest,nonneg⟩ : ∃ r, (if Math.sq (Flt.fin t)-Math.sq (Flt.fin v) > 0 then
      (Math.sq (Flt.fin t)-Math.sq (Flt.fin v)).sqrt else 0) = .fin r ∧ 0 ≤ r := by
    split
    next positive =>
      refine ⟨Libm.sqrtf (t * t - v * v),?_,LawfulLibm.sqrtf_nonneg _⟩
      have ordered : ¬t * t < v * v := not_lt.mpr (sub_pos.mp positive).le
      simp [Math.sq,ordered]
    · exact ⟨0,rfl,le_rfl⟩
  rw [rest]
  split
  next exceeds =>
    have positive : Libm.sqrtf (a * a + b * b) ≠ 0 := (nonneg.trans_lt exceeds).ne'
    simp [isFinite,Vector2.divScalar,xy,positive]
  · rfl

def HorizontallyCommanded (c : PositionControl K) : Prop :=
  c.posSp.x.isFinite = true ∨ c.settings.limVelHorizontal ≤ c.velSp.xy.norm

variable (usable : c.settings.Usable)
include usable

lemma isFinite_velSpLimited_known (integral : c.posInt.isFinite) (pos : c.pos.isFinite)
    (x : c.posSp.x.isFinite) (y : c.posSp.y.isFinite) : c.velSpLimited.xy.isFinite := by
  rw [velSpLimited_xy]
  have cleaned := (isFinite_iff _).mp (isFinite_setZeroIfNan c.velSpUnc)
  have gains := (isFinite_iff _).mp usable.gainPosP
  have slow := (isFinite_iff _).mp usable.gainPosI
  rw [isFinite_iff] at integral pos
  apply isFinite_constrainXY _ _ usable.limVelHorizontal
  · simp [Vector2.isFinite,cleaned]
  · simp [Vector2.isFinite,velSpP,cleaned,gains,slow,integral,pos,x,y]

lemma isFinite_velSpLimited_fast (x : c.posSp.x.isFinite = false) (y : c.posSp.y.isFinite = false)
    (pairedVel : c.velSp.x.isFinite = c.velSp.y.isFinite)
    (fast : c.settings.limVelHorizontal ≤ c.velSp.xy.norm) : c.velSpLimited.xy.isFinite := by
  have finite : c.velSp.xy.isFinite := by simpa using (Flt.isFinite_of_le fast).2
  have forward : c.velSp.x.isFinite := by
    simp only [Vector2.isFinite,Bool.and_eq_true] at finite
    exact finite.1
  obtain ⟨m,limit,positive⟩ := usable.limVelHorizontal_pos
  rw [velSpLimited_open c (Flt.not_isFinite_iff.mp x) (Flt.not_isFinite_iff.mp y) pairedVel]
  simp only [forward,if_true]
  rw [if_pos fast]
  apply Vector2.isFinite_normalized finite _ _ (Flt.isFinite_of_le usable.limVelHorizontal).2
  intro zero
  rw [zero,limit] at fast
  exact absurd (show m ≤ 0 from fast) (not_le.mpr positive)

lemma isFinite_velSpLimited (integral : c.posInt.isFinite) (pos : c.pos.isFinite)
    (pairedPos : c.posSp.x.isFinite = c.posSp.y.isFinite)
    (pairedVel : c.velSp.x.isFinite = c.velSp.y.isFinite) (commanded : c.HorizontallyCommanded) :
    c.velSpLimited.isFinite := by
  have vertical : c.velSpLimited.z.isFinite := by
    apply Math.isFinite_constrain
    simp [setZeroIfNanVector3f,addIfNotNanVector3f]
  have horizontal : c.velSpLimited.xy.isFinite := by
    by_cases known : c.posSp.x.isFinite = true
    · exact isFinite_velSpLimited_known c usable integral pos known (pairedPos ▸ known)
    · have unknown : c.posSp.x.isFinite = false := by simpa using known
      exact isFinite_velSpLimited_fast c usable unknown (pairedPos ▸ unknown) pairedVel
        (commanded.resolve_left known)
  simp only [Vector2.isFinite,Bool.and_eq_true] at horizontal
  exact (isFinite_iff _).mpr ⟨horizontal.1,horizontal.2,vertical⟩

lemma isFinite_posInt {dt : Flt K} (time : dt.isFinite) (integral : c.posInt.isFinite)
    (pairedVel : c.velSp.x.isFinite = c.velSp.y.isFinite) : (c.control dt).posInt.isFinite := by
  have stays (v : Vector3 (Flt K)) (finite : v.isFinite) (lo hi : Flt K) :
      (v.map (Math.constrain · lo hi)).isFinite := by
    rw [isFinite_iff] at finite ⊢
    exact ⟨Math.isFinite_constrain finite.1,Math.isFinite_constrain finite.2.1,
      Math.isFinite_constrain finite.2.2⟩
  rw [control_posInt]
  split
  next known =>
    apply stays
    simp only [isFinite_sub,Bool.and_eq_true] at known
    have target := (isFinite_iff _).mp known.1
    have limited := isFinite_velSpLimited c usable integral known.2 (target.1.trans target.2.1.symm)
      pairedVel (.inl target.1)
    have wanted : c.velSpUnc.isFinite := by
      have feedback : (c.velSpP+c.posInt.emult c.settings.gainPosI).isFinite := by
        simp [velSpP,known,usable.gainPosP,usable.gainPosI,integral]
      rw [isFinite_iff] at feedback
      simp only [velSpUnc,addIfNotNanVector3f,isFinite,isFinite_addIfNotNan,feedback,
        Bool.true_or,Bool.and_self]
    have gains := (isFinite_iff _).mp usable.gainPosP
    have windup : (c.settings.gainPosP.map arwGain).isFinite := by simp [isFinite,isFinite_arwGain,gains]
    simp [integral,known,limited,wanted,windup,time]
  · exact integral

lemma isFinite_thrust (dt : Flt K) (x : (c.control dt).accSp.x.isFinite) (y : (c.control dt).accSp.y.isFinite) :
    (c.control dt).thrSp.isFinite ∧ (c.control dt).esoInput.isFinite := by
  have thrust : (c.control dt).thrSp.isFinite := by
    rw [control_thrSp]
    exact isFinite_prioritizeThrust usable (isFinite_accelerationControl usable x y)
  refine ⟨thrust,?_⟩
  have gravity : (⟨0,0,oneG⟩ : Vector3 (Flt K)).isFinite := rfl
  have unit : (oneG : Flt K).isFinite := rfl
  rw [control_esoInput]
  split
  next above =>
    have factor : ((oneG : Flt K) / c.settings.hoverThrust).isFinite := by
      simp [unit,usable.hoverThrust,ne_zero_of_gt_fltEpsilon above]
    simp only [isFinite_add,isFinite_mul,thrust,gravity,factor,
      isFinite_centrifugal usable,Bool.and_self]
  · simp only [isFinite_add,isFinite_mul,thrust,gravity,unit, isFinite_centrifugal usable,Bool.and_self]

end
end AerialManipulator.PositionControl
