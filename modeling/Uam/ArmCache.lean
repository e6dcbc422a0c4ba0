import Uam.ArmKinematics
import Uam.Library.Runs

/-! Coherence of the cached arm positions over every sequence of calls. The runs carry
which model computed the cache. -/
namespace AerialManipulator.ArmKinematics
open Numeric Matrix3 Runs
open Flt (fin isFinite_iff)
variable {K : Type*} [Field K] [LinearOrder K] [Libm K]

inductive Call (K : Type*) where
  | setModelProfile (profile : ModelProfile)
  | setParameters (massTotal : Flt K) (baseComOffset : Vector3 (Flt K)) (baseInertia : Matrix3 (Flt K))
  | computeSystemCoM (q : Joints (Flt K))
  | computeSystemInertia (q : Joints (Flt K))

def call (a : ArmKinematics K) : Call K → ArmKinematics K
  | .setModelProfile profile => a.setModelProfile profile
  | .setParameters massTotal baseComOffset baseInertia => a.setParameters massTotal baseComOffset baseInertia
  | .computeSystemCoM q => (a.computeSystemCoM q).2
  | .computeSystemInertia q => (a.computeSystemInertia q).2

def positions : ModelProfile → Joints (Flt K) → Cache K
  | .uavArmV4 => positionsUavArmV4
  | .uamV5 => positionsUamV5

def refreshes (a : ArmKinematics K) (q : Joints (Flt K)) : Bool :=
  match a.modelProfile with
  | .uavArmV4 => a.refreshesUavArmV4 q
  | .uamV5 => a.refreshesUamV5 q

/-- Joints in use are at most 1e-6 apart; NaN is near nothing. -/
def Near (profile : ModelProfile) (q q' : Joints (Flt K)) : Prop :=
  let close (x y : Flt K) := (x-y).abs ≤ .fin 0.000001
  close q.q0 q'.q0 ∧ close q.q1 q'.q1 ∧ (profile = .uavArmV4 → close q.q2 q'.q2 ∧ close q.q3 q'.q3)

def ActiveFinite (profile : ModelProfile) (q : Joints (Flt K)) : Prop :=
  q.q0.isFinite = true ∧ q.q1.isFinite = true ∧ (profile = .uavArmV4 → q.q2.isFinite = true ∧ q.q3.isFinite = true)

def renewed (a : ArmKinematics K) : ArmKinematics K :=
  ((fresh.setModelProfile a.modelProfile).setParameters a.massTotalSystem a.baseComOffset a.baseInertiaVal)

def inertia (profile : ModelProfile) (baseInertia : Matrix3 (Flt K)) (cached : Cache K) (q : Joints (Flt K)) :
    Matrix3 (Flt K) :=
  match profile with
  | .uavArmV4 => inertiaUavArmV4 baseInertia cached q
  | .uamV5 => inertiaUamV5 cached q

variable (a : ArmKinematics K)

lemma computeSystemCoM_snd (q : Joints (Flt K)) : (a.computeSystemCoM q).2 =
    {a with cached := positions a.modelProfile q,
             uamV5CacheValid := a.uamV5CacheValid || (a.modelProfile == .uamV5)} := by
  cases h : a.modelProfile with
  | uavArmV4 => simp [computeSystemCoM,computeSystemCoMUavArmV4,positions,h]
  | uamV5 => simp [computeSystemCoM,computeSystemCoMUamV5,positions,h]

lemma computeSystemInertia_snd (q : Joints (Flt K)) :
    (a.computeSystemInertia q).2 = if a.refreshes q then (a.computeSystemCoM q).2 else a := by
  cases h : a.modelProfile with
  | uavArmV4 => simp [computeSystemInertia,computeSystemInertiaUavArmV4,refreshes,h]
  | uamV5 => simp [computeSystemInertia,computeSystemInertiaUamV5,computeSystemCoM,refreshes,h]

lemma computeSystemInertia_fst (q : Joints (Flt K)) :
    (a.computeSystemInertia q).1 = inertia a.modelProfile a.baseInertiaVal
      (if a.refreshes q then positions a.modelProfile q else a.cached) q := by
  cases h : a.modelProfile with
  | uavArmV4 =>
    cases stale : a.refreshesUavArmV4 q <;>
      simp [computeSystemInertia,computeSystemInertiaUavArmV4,computeSystemCoM_snd,refreshes,inertia,h,stale]
  | uamV5 =>
    cases stale : a.refreshesUamV5 q <;>
      simp [computeSystemInertia,computeSystemInertiaUamV5,computeSystemCoMUamV5,refreshes,inertia,
        positions,h,stale]

omit [Libm K] in
lemma moved_eq_false {x y : Flt K} (near : (x-y).abs ≤ .fin 0.000001) : moved x y = false := by
  rcases x with a | _ <;> rcases y with b | _ <;> simp_all [moved]

omit [Libm K] in
lemma near_of_not_moved {x y : Flt K} (left : x.isFinite) (right : y.isFinite)
    (still : moved x y = false) : (x-y).abs ≤ .fin 0.000001 := by
  rcases x with a | _ <;> rcases y with b | _ <;> simp_all [moved]

variable {q : Joints (Flt K)}

lemma renewed_inertia {q' : Joints (Flt K)} (near : Near a.modelProfile q q') :
    (((a.renewed.computeSystemCoM q').2).computeSystemInertia q).1 =
      inertia a.modelProfile a.baseInertiaVal (positions a.modelProfile q') q := by
  obtain ⟨n0,n1,rest⟩ := near
  have kept : ((a.renewed.computeSystemCoM q').2).refreshes q = false := by
    rw [computeSystemCoM_snd]
    cases h : a.modelProfile with
    | uavArmV4 =>
      obtain ⟨n2,n3⟩ := rest h
      simp [refreshes,refreshesUavArmV4,renewed,setParameters,setModelProfile,h,positions,positionsUavArmV4,
        moved_eq_false n0,moved_eq_false n1,moved_eq_false n2,moved_eq_false n3]
    | uamV5 =>
      simp [refreshes,refreshesUamV5,renewed,setParameters,setModelProfile,h,positions,positionsUamV5,
        moved_eq_false n0,moved_eq_false n1]
  rw [computeSystemInertia_fst,kept,computeSystemCoM_snd]
  rfl

lemma positionsUavArmV4_com_z (q : Joints (Flt K)) : (positionsUavArmV4 q).com.z =
    (fin (-0.193246 : K) * fin (0.844401 + 0.015 : K) + (positionsUavArmV4 q).p1.z * fin (0.250494 : K)
      + (positionsUavArmV4 q).p2.z * fin (0.020149 : K) + (positionsUavArmV4 q).p3.z * fin (0.0397105 : K)
      + (positionsUavArmV4 q).p4.z * fin (0.0631624 + 0.016 : K)) *
      (1 / fin (0.844401 + 0.015 + 0.250494 + 0.020149 + 0.0397105 + 0.0631624 + 0.016 : K)) := rfl

lemma isFinite_positionsUavArmV4 [IsStrictOrderedRing K] (finite : ActiveFinite .uavArmV4 q) :
    (positionsUavArmV4 q).p2.isFinite ∧ (positionsUavArmV4 q).p3.isFinite ∧
      (positionsUavArmV4 q).p4.isFinite ∧ (positionsUavArmV4 q).com.isFinite := by
  obtain ⟨f0,f1,rest⟩ := finite
  obtain ⟨f2,f3⟩ := rest rfl
  have total : (0.844401+0.015+0.250494+0.020149+0.0397105+0.0631624+0.016 : K) ≠ 0 := by norm_num
  simp [positionsUavArmV4,Vector3.divScalar,Vector3.isFinite,f0,f1,f2,f3,total]

omit [Field K] [LinearOrder K] [Libm K] in
lemma exists_yz {v : Vector3 (Flt K)} (finite : v.isFinite) : ∃ y z, v.y = .fin y ∧ v.z = .fin z := by
  obtain ⟨-,left,right⟩ := (Vector3.isFinite_iff v).mp finite
  obtain ⟨y,hy⟩ := isFinite_iff.mp left
  obtain ⟨z,hz⟩ := isFinite_iff.mp right
  exact ⟨y,z,hy,hz⟩

lemma exists_level [IsStrictOrderedRing K] (finite : ActiveFinite .uavArmV4 q) : ∃ y2 y3 y4 h z2 z3 z4 g : K,
      ((positionsUavArmV4 q).p1.y = .fin 0 ∧ (positionsUavArmV4 q).p1.z = .fin 0.218215) ∧
      ((positionsUavArmV4 q).p2.y = .fin y2 ∧ (positionsUavArmV4 q).p2.z = .fin z2) ∧
      ((positionsUavArmV4 q).p3.y = .fin y3 ∧ (positionsUavArmV4 q).p3.z = .fin z3) ∧
      ((positionsUavArmV4 q).p4.y = .fin y4 ∧ (positionsUavArmV4 q).p4.z = .fin z4) ∧
      ((positionsUavArmV4 q).com.y = .fin h ∧ (positionsUavArmV4 q).com.z = .fin g) ∧
      g * 1.2489169 = -0.193246 * 0.859401 + 0.218215 * 0.250494 + z2 * 0.020149
        + z3 * 0.0397105 + z4 * 0.0791624 := by
  obtain ⟨f2,f3,f4,fc⟩ := isFinite_positionsUavArmV4 finite
  obtain ⟨y2,z2,lat2,vert2⟩ := exists_yz f2
  obtain ⟨y3,z3,lat3,vert3⟩ := exists_yz f3
  obtain ⟨y4,z4,lat4,vert4⟩ := exists_yz f4
  obtain ⟨h,g,latc,vertc⟩ := exists_yz fc
  have lat1 : (positionsUavArmV4 q).p1.y = .fin 0 := by simp [positionsUavArmV4]
  have vert1 : (positionsUavArmV4 q).p1.z = .fin 0.218215 := by
    simp only [positionsUavArmV4,Vector3.add_z,Flt.fin_add]
    norm_num
  refine ⟨y2,y3,y4,h,z2,z3,z4,g,⟨lat1,vert1⟩,⟨lat2,vert2⟩,⟨lat3,vert3⟩,⟨lat4,vert4⟩,⟨latc,vertc⟩,?_⟩
  have total : (0.844401+0.015+0.250494+0.020149+0.0397105+0.0631624+0.016 : K) = 1.2489169 := by norm_num
  have nonzero : (1.2489169 : K) ≠ 0 := by norm_num
  have weighted := positionsUavArmV4_com_z q
  rw [vertc,vert1,vert2,vert3,vert4,total] at weighted
  simp only [Flt.one_eq,Flt.fin_div,if_neg nonzero,Flt.fin_mul,Flt.fin_add,fin.injEq] at weighted
  rw [weighted,one_div,inv_mul_cancel_right₀ nonzero]
  norm_num

omit [LinearOrder K] in
lemma isFinite_rotations (finite : ActiveFinite .uavArmV4 q) : (rotZ q.q0).isFinite ∧ (rotZ q.q0 * rotY q.q1).isFinite ∧
      (rotZ q.q0 * rotY q.q1 * rotY q.q2).isFinite ∧
      (rotZ q.q0 * rotY q.q1 * rotY q.q2 * rotY q.q3).isFinite := by
  obtain ⟨f0,f1,rest⟩ := finite
  obtain ⟨f2,f3⟩ := rest rfl
  have r0 : (rotZ q.q0).isFinite := by simp [rotZ,isFinite,Vector3.isFinite,f0]
  have r1 : (rotY q.q1).isFinite := by simp [rotY,isFinite,Vector3.isFinite,f1]
  have r2 : (rotY q.q2).isFinite := by simp [rotY,isFinite,Vector3.isFinite,f2]
  have r3 : (rotY q.q3).isFinite := by simp [rotY,isFinite,Vector3.isFinite,f3]
  have r01 := isFinite_mul r0 r1
  have r012 := isFinite_mul r01 r2
  exact ⟨r0,r01,r012,isFinite_mul r012 r3⟩

omit [LinearOrder K] [Libm K] in
lemma exists_linkInertia_xx (finite : R.isFinite) (a b c : K) :
    ∃ x : K, ∀ (r : Vector3 (Flt K)) (m : Flt K), (linkInertia R ⟨.fin a,.fin b,.fin c⟩ r m).row0.x =
      .fin x + (0 * 0 + r.z * r.z + -r.y * -r.y) * m := by
  have diagonal : (diag (⟨.fin a,.fin b,.fin c⟩ : Vector3 (Flt K))).isFinite := by
    simp [diag,isFinite,Vector3.isFinite]
  have rotated := isFinite_mul (isFinite_mul finite diagonal)
    (isFinite_transpose finite)
  have entry := ((Vector3.isFinite_iff _).mp ((isFinite_iff _).mp rotated).1).1
  obtain ⟨x,found⟩ := isFinite_iff.mp entry
  refine ⟨x,fun r m => ?_⟩
  rw [← found]
  rfl

omit [Libm K] in
lemma heights_zero [IsStrictOrderedRing K] {v1 v2 v3 v4 w1 w2 w3 w4 : K} (v1_nonneg : 0 ≤ v1) (v2_nonneg : 0 ≤ v2)
    (v3_nonneg : 0 ≤ v3) (v4_nonneg : 0 ≤ v4) (w1_nonneg : 0 ≤ w1) (w2_nonneg : 0 ≤ w2) (w3_nonneg : 0 ≤ w3) (w4_nonneg : 0 ≤ w4)
    (none : (v1 + w1) * 0.250494 + (v2 + w2) * 0.020149 + (v3 + w3) * 0.0397105 + (v4 + w4) * (0.0631624 + 0.016) = 0) :
    v1 ≤ 0 ∧ v2 ≤ 0 ∧ v3 ≤ 0 ∧ v4 ≤ 0 :=
  ⟨by linarith,by linarith,by linarith,by linarith⟩

omit [Libm K] in
lemma spread_ne_zero [IsStrictOrderedRing K] (y2 y3 y4 h z2 z3 z4 g : K)
    (weighted : g * 1.2489169 = -0.193246 * 0.859401 + 0.218215 * 0.250494 + z2 * 0.020149
        + z3 * 0.0397105 + z4 * 0.0791624) :
    ((0.218215 - g) * (0.218215 - g) + h * h) * 0.250494 + ((z2 - g) * (z2 - g) + (h - y2) * (h - y2)) * 0.020149
      + ((z3 - g) * (z3 - g) + (h - y3) * (h - y3)) * 0.0397105
      + ((z4 - g) * (z4 - g) + (h - y4) * (h - y4)) * (0.0631624 + 0.016) ≠ 0 := by
  intro none
  obtain ⟨v1,v2,v3,v4⟩ := heights_zero (mul_self_nonneg _) (mul_self_nonneg _) (mul_self_nonneg _) (mul_self_nonneg _)
    (mul_self_nonneg _) (mul_self_nonneg _) (mul_self_nonneg _) (mul_self_nonneg _) none
  have level : ∀ z : K, (z - g) * (z - g) ≤ 0 → z = g := fun z small =>
    sub_eq_zero.mp (mul_self_eq_zero.mp (le_antisymm small (mul_self_nonneg _)))
  have l1 := level 0.218215 v1
  have l2 := level z2 v2
  have l3 := level z3 v3
  have l4 := level z4 v4
  linarith only [weighted,l1,l2,l3,l4]

lemma inertia_of_unset_cache_ne [IsStrictOrderedRing K]
    (known : base.row0.x.isFinite) (finite : ActiveFinite .uavArmV4 q) (finite' : ActiveFinite .uavArmV4 q') :
    inertiaUavArmV4 base fresh.cached q ≠ inertiaUavArmV4 base (positionsUavArmV4 q') q := by
  intro same
  obtain ⟨y2,y3,y4,h,z2,z3,z4,g,⟨lat1,vert1⟩,⟨lat2,vert2⟩,⟨lat3,vert3⟩,⟨lat4,vert4⟩,⟨latc,vertc⟩,weighted⟩ :=
    exists_level finite'
  obtain ⟨r1,r2,r3,r4⟩ := isFinite_rotations finite
  obtain ⟨x1,link1⟩ := exists_linkInertia_xx r1 0.005 0.005 0.005
  obtain ⟨x2,link2⟩ := exists_linkInertia_xx r2 0.005 0.005 0.005
  obtain ⟨x3,link3⟩ := exists_linkInertia_xx r3 0.003 0.003 0.003
  obtain ⟨x4,link4⟩ := exists_linkInertia_xx r4 0.003 0.003 0.003
  obtain ⟨b,based⟩ := isFinite_iff.mp known
  have entry := congrArg (fun I : Matrix3 (Flt K) => I.row0.x) same
  have add_row0 : ∀ A B : Matrix3 (Flt K), (A+B).row0.x = A.row0.x+B.row0.x := fun _ _ => rfl
  simp only [inertiaUavArmV4,add_row0,link1,link2,link3,link4,based,
    Vector3.sub_y,Vector3.sub_z,lat1,vert1,lat2,vert2,lat3,vert3,lat4,vert4,latc,vertc] at entry
  simp [fresh] at entry
  exact spread_ne_zero y2 y3 y4 h z2 z3 z4 g weighted (by linarith only [entry])

structure Traced (K : Type*) where
  arm : ArmKinematics K
  cachedBy : Option ModelProfile

namespace Traced

def step (t : Traced K) (event : Call K) : Traced K where
  arm := t.arm.call event
  cachedBy := match event with
    | .computeSystemCoM _ => some t.arm.modelProfile
    | .computeSystemInertia q => if t.arm.refreshes q then some t.arm.modelProfile else t.cachedBy
    | _ => t.cachedBy

def init : Traced K := ⟨fresh,none⟩

/-- The inertia is that of a constructed object at some joint vector near the requested one. -/
def Coherent (t : Traced K) : Call K → Prop
  | .computeSystemInertia q => ∃ q', Near t.arm.modelProfile q q' ∧ (t.arm.computeSystemInertia q).1 =
        (((t.arm.renewed.computeSystemCoM q').2).computeSystemInertia q).1
  | _ => True

/-- A used cache was computed by the current model, and no joint is NaN. -/
def UsesOwnCache (t : Traced K) : Call K → Prop
  | .computeSystemInertia q => ActiveFinite t.arm.modelProfile q ∧ (t.arm.refreshes q = true ∨
        (t.cachedBy = some t.arm.modelProfile ∧ ActiveFinite t.arm.modelProfile t.arm.cached.q))
  | _ => True

structure Honest (t : Traced K) : Prop where
  computed : ∀ profile, t.cachedBy = some profile → t.arm.cached = positions profile t.arm.cached.q
  flagged : t.arm.uamV5CacheValid = true → t.arm.modelProfile = .uamV5 ∧ t.cachedBy = some .uamV5

lemma honest_init : Honest (init : Traced K) := ⟨by simp [init],by simp [init,fresh]⟩

lemma honest_computed (honest : Honest t) (q : Joints (Flt K)) :
    Honest ⟨(t.arm.computeSystemCoM q).2,some t.arm.modelProfile⟩ := by
  rw [computeSystemCoM_snd]
  constructor
  · intro profile by_profile
    obtain rfl : t.arm.modelProfile = profile := by simpa using by_profile
    cases h : t.arm.modelProfile <;> simp [positions,positionsUavArmV4,positionsUamV5]
  · intro valid
    have profile : t.arm.modelProfile = .uamV5 := by
      rcases Bool.or_eq_true_iff.mp valid with flag | current
      · exact (honest.flagged flag).1
      · simpa using current
    exact ⟨profile,by rw [profile]⟩

lemma honest_step (t : Traced K) (event : Call K) (honest : Honest t) : Honest (t.step event) := by
  cases event with
  | setModelProfile profile => exact ⟨honest.computed,by simp [step,call,setModelProfile]⟩
  | setParameters massTotal baseComOffset baseInertia => exact ⟨honest.computed,by simp [step,call,setParameters]⟩
  | computeSystemCoM q => exact honest_computed honest q
  | computeSystemInertia q =>
    cases stale : t.arm.refreshes q with
    | true => simpa [step,call,computeSystemInertia_snd,stale] using honest_computed honest q
    | false => simpa [step,call,computeSystemInertia_snd,stale] using honest

omit [Libm K] in
lemma near_cached {t : Traced K} (used : t.arm.refreshes q = false)
    (finite : ActiveFinite t.arm.modelProfile q) (cachedFinite : ActiveFinite t.arm.modelProfile t.arm.cached.q) :
    Near t.arm.modelProfile q t.arm.cached.q := by
  cases h : t.arm.modelProfile with
  | uavArmV4 =>
    obtain ⟨f0,f1,rest⟩ := h ▸ finite
    obtain ⟨g0,g1,cachedRest⟩ := h ▸ cachedFinite
    simp only [refreshes,h,refreshesUavArmV4,Bool.or_eq_false_iff] at used
    exact ⟨near_of_not_moved f0 g0 used.1.1.1,near_of_not_moved f1 g1 used.1.1.2,fun _ =>
      ⟨near_of_not_moved (rest rfl).1 (cachedRest rfl).1 used.1.2,
        near_of_not_moved (rest rfl).2 (cachedRest rfl).2 used.2⟩⟩
  | uamV5 =>
    simp only [refreshes,h,refreshesUamV5,Bool.or_eq_false_iff] at used
    exact ⟨near_of_not_moved finite.1 cachedFinite.1 used.1.1,
      near_of_not_moved finite.2.1 cachedFinite.2.1 used.1.2,by simp⟩

omit [LinearOrder K] [Libm K] in
lemma near_self [LinearOrder K] [IsStrictOrderedRing K] (finite : ActiveFinite profile q) : Near profile q q := by
  have self : ∀ x : Flt K, x.isFinite → (x-x).abs ≤ .fin 0.000001 := by
    intro x known
    obtain ⟨a,rfl⟩ := isFinite_iff.mp known
    have bound : (0 : K) ≤ 0.000001 := by norm_num
    simpa using bound
  exact ⟨self _ finite.1,self _ finite.2.1,fun v4 => ⟨self _ (finite.2.2 v4).1,self _ (finite.2.2 v4).2⟩⟩

lemma coherent_of_usesOwnCache [IsStrictOrderedRing K] (t : Traced K) (event : Call K)
    (own : UsesOwnCache t event) (honest : Honest t) : Coherent t event := by
  cases event with
  | computeSystemInertia q =>
    obtain ⟨finite,own⟩ := own
    cases used : t.arm.refreshes q with
    | true =>
      refine ⟨q,near_self finite,?_⟩
      rw [renewed_inertia _ (near_self finite),computeSystemInertia_fst,if_pos used]
    | false =>
      obtain ⟨cachedBy,cachedFinite⟩ := own.resolve_left (by simp [used])
      have near := near_cached used finite cachedFinite
      refine ⟨t.arm.cached.q,near,?_⟩
      rw [renewed_inertia _ near,computeSystemInertia_fst,used,← honest.computed _ cachedBy]
      rfl
  | _ => trivial

/-- If only the model that computed a cache uses it, at finite joints, the inertia does not depend on the history. -/
theorem coherent_along_own_cache (calls : List (Call ℝ))
    (own : Along step UsesOwnCache (init : Traced ℝ) calls) :
    Along step Coherent (init : Traced ℝ) calls :=
  along_of_invariant Honest (fun t event _ honest => honest_step t event honest)
    coherent_of_usesOwnCache own honest_init

theorem coherent_folded_twice : Along step Coherent (init : Traced ℝ)
      [.setModelProfile .uamV5,.computeSystemInertia ⟨0,0,0,0⟩,.computeSystemInertia ⟨0,0,0,0⟩] := by
  apply coherent_along_own_cache
  have finite : ActiveFinite .uamV5 (⟨0,0,0,0⟩ : Joints (Flt ℝ)) := by simp [ActiveFinite]
  have empty : ((fresh : ArmKinematics ℝ).setModelProfile .uamV5).refreshes ⟨0,0,0,0⟩ := by
    simp [refreshes,refreshesUamV5,setModelProfile]
  have cached : (init.step (.setModelProfile .uamV5)).step (.computeSystemInertia ⟨0,0,0,0⟩) =
      (⟨{fresh.setModelProfile .uamV5 with cached := positionsUamV5 ⟨0,0,0,0⟩, uamV5CacheValid := true},
        some .uamV5⟩ : Traced ℝ) := by
    simp only [step,init,call,computeSystemInertia_snd,computeSystemCoM_snd,empty,if_true]
    rfl
  refine ⟨trivial,⟨finite,.inl empty⟩,?_,trivial⟩
  rw [cached]
  exact ⟨finite,.inr ⟨rfl,finite⟩⟩

lemma not_coherent_of_unset {t : Traced ℝ} {q : Joints (Flt ℝ)} (v4 : t.arm.modelProfile = .uavArmV4)
    (unset : t.arm.cached = fresh.cached) (known : t.arm.baseInertiaVal.row0.x.isFinite)
    (finite : ActiveFinite .uavArmV4 q) (used : t.arm.refreshes q = false) :
    ¬Coherent t (.computeSystemInertia q) := by
  rintro ⟨q',near,same⟩
  rw [renewed_inertia _ near,computeSystemInertia_fst,used,v4,unset] at same
  have finite' : ActiveFinite .uavArmV4 q' := by
    obtain ⟨n0,n1,rest⟩ := near
    obtain ⟨n2,n3⟩ := rest v4
    have right : ∀ {x y : Flt ℝ}, (x-y).abs ≤ .fin 0.000001 → y.isFinite := by
      intro x y close
      simpa using (by simpa using (Flt.isFinite_of_le close).1 : x.isFinite ∧ y.isFinite).2
    exact ⟨right n0,right n1,fun _ => ⟨right n2,right n3⟩⟩
  exact inertia_of_unset_cache_ne known finite finite' same

/-- Only the inertia of V4 is asked for; a first request at zero joint angles finds an unset cache. -/
theorem incoherent_at_zero_joints : ¬ Along step Coherent (init : Traced ℝ)
      [.setModelProfile .uavArmV4,
        .setParameters (.fin 1.289) ⟨.fin (-0.01),0,.fin 0.161⟩ (.diag ⟨.fin 0.045,.fin 0.045,.fin 0.08⟩),
        .computeSystemInertia ⟨0,0,0,0⟩] := by
  rintro ⟨-,-,coherent,-⟩
  have still : moved (0 : Flt ℝ) 0 = false := moved_eq_false (by simp; norm_num)
  refine not_coherent_of_unset rfl rfl ?_ ?_ ?_ coherent
  · simp [step,call,setParameters,Matrix3.diag]
  · simp [ActiveFinite]
  · change (moved (0 : Flt ℝ) 0 || moved (0 : Flt ℝ) 0 || moved (0 : Flt ℝ) 0 || moved (0 : Flt ℝ) 0) = false
    simp only [still,Bool.or_self]

end Traced
end AerialManipulator.ArmKinematics
