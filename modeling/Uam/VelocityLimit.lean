import Uam.PositionFinite

/-! What the horizontal limiter does with finite vectors, and what that makes of a position loop
whose demand is inside its limits. `ofExact` is a vector as the controller sees it. -/
namespace AerialManipulator
open Numeric Vector2
open Flt (fin fin_add fin_le fin_lt fin_sub isFinite_iff)
variable {K : Type*}

namespace Vector2

def ofExact (v : Vector2 K) : Vector2 (Flt K) := ⟨.fin v.x,.fin v.y⟩

lemma ofExact_injective (same : ofExact v = ofExact w) : v = w := by
  simp only [ofExact,Vector2.mk.injEq,fin.injEq] at same
  exact Vector2.ext same.1 same.2

lemma exists_ofExact (finite : v.isFinite) : ∃ e, v = ofExact e := by
  rcases v with ⟨x | _,y | _⟩ <;> simp [isFinite] at finite
  exact ⟨⟨x,y⟩,rfl⟩

section
variable [Field K]

def len [Libm K] (v : Vector2 K) : K := Libm.sqrtf (v.dot v)

lemma ofExact_add (v w : Vector2 K) : ofExact v+ofExact w = ofExact (v+w) := rfl

lemma ofExact_sub (v w : Vector2 K) : ofExact v-ofExact w = ofExact (v-w) := rfl

lemma ofExact_mul (v : Vector2 K) (s : K) : ofExact v * fin s = ofExact (v * s) := rfl

lemma ofExact_dot (v w : Vector2 K) : (ofExact v).dot (ofExact w) = .fin (v.dot w) := rfl

end

section
variable [Field K] [LinearOrder K] [IsStrictOrderedRing K]

lemma dot_self_nonneg (v : Vector2 K) : 0 ≤ v.dot v := by
  unfold dot
  nlinarith [mul_self_nonneg v.x,mul_self_nonneg v.y]

lemma norm_ofExact [Libm K] (v : Vector2 K) : (ofExact v).norm = .fin v.len := norm_fin v.x v.y

variable [Libm K] [LawfulLibm K]

omit [IsStrictOrderedRing K] in
lemma len_nonneg (v : Vector2 K) : 0 ≤ v.len := LawfulLibm.sqrtf_nonneg _

lemma len_mul_self (v : Vector2 K) : v.len * v.len = v.dot v := LawfulLibm.sqrtf_mul_self _ (dot_self_nonneg v)

variable {v : Vector2 K}

lemma len_eq_of_dot (nonneg : 0 ≤ r) (square : v.dot v = r * r) : v.len = r := by
  rw [← len_mul_self] at square
  exact (mul_self_inj (len_nonneg v) nonneg).mp square

lemma len_eq_zero : v.len = 0 ↔ v = ⟨0,0⟩ := by
  have zero : (ofExact v).norm = 0 ↔ ofExact v = ⟨0,0⟩ := norm_eq_zero
  rw [norm_ofExact] at zero
  constructor
  · intro short
    exact ofExact_injective (zero.mp (congrArg fin short))
  · intro null
    exact fin.inj (zero.mpr (congrArg ofExact null))

lemma len_mul (v : Vector2 K) (nonneg : 0 ≤ s) : (v * s).len = v.len * s := by
  apply len_eq_of_dot (mul_nonneg (len_nonneg v) nonneg)
  calc (v * s).dot (v * s) = v.dot v * (s * s) := by simp only [dot,mul_x,mul_y]; ring
    _ = v.len * s * (v.len * s) := by rw [← len_mul_self]; ring

omit [LawfulLibm K] in
lemma normalized_ofExact (nonzero : v.len ≠ 0) : (ofExact v).normalized = ofExact (v * (1 / v.len)) := by
  rw [normalized,divScalar,norm_ofExact]
  ext <;> simp [ofExact,nonzero]

lemma normalized_zero (s : Flt K) : (normalized (ofExact (⟨0,0⟩ : Vector2 K)) * s).isFinite = false := by
  have null : (⟨0,0⟩ : Vector2 K).len = 0 := len_eq_zero.mpr rfl
  simp [normalized,divScalar,norm_ofExact,null,isFinite]

lemma len_unit (nonzero : v.len ≠ 0) : (v * (1 / v.len)).len = 1 := by
  rw [len_mul _ (one_div_nonneg.mpr (len_nonneg v)),mul_one_div_cancel nonzero]

lemma len_direction (nonzero : v.len ≠ 0) {r : K} (nonneg : 0 ≤ r) : (v * (1 / v.len) * r).len = r := by
  rw [len_mul _ nonneg,len_unit nonzero,one_mul]

end
end Vector2

namespace ControlMath
variable [Field K] [LinearOrder K] [IsStrictOrderedRing K] [Libm K] [LawfulLibm K]

def largerRoot (m c : K) : K := -m + Libm.sqrtf (m * m - c)

section
variable {m c : K} (negative : c < 0)
include negative

omit [Libm K] [LawfulLibm K] in
private lemma discriminant_pos : 0 < m * m - c := by nlinarith [mul_self_nonneg m]

private lemma discriminant_root : Libm.sqrtf (m * m - c) * Libm.sqrtf (m * m - c) = m * m - c :=
  LawfulLibm.sqrtf_mul_self _ (discriminant_pos negative).le

lemma largerRoot_solves : largerRoot m c * largerRoot m c + 2 * m * largerRoot m c + c = 0 := by
  unfold largerRoot
  linear_combination discriminant_root (m := m) negative

lemma largerRoot_pos : 0 < largerRoot m c := by
  have square := discriminant_root (m := m) negative
  have nonneg := LawfulLibm.sqrtf_nonneg (m * m - c)
  unfold largerRoot
  by_contra low
  nlinarith

lemma largerRoot_lt (nonneg : 0 ≤ t) (beyond : 0 < t * t + 2 * m * t + c) : largerRoot m c < t := by
  have solved := largerRoot_solves (m := m) negative
  have positive := largerRoot_pos (m := m) negative
  by_contra high
  -- at t the polynomial is not above its value at the root
  nlinarith [mul_nonneg nonneg (sub_nonneg.mpr (not_lt.mp high))]

end

def boundaryStep (v0 v1 : Vector2 K) (max : K) : K :=
  largerRoot ((v1 * (1 / v1.len)).dot v0) (v0.dot v0 - max * max)

section
variable {v0 v1 : Vector2 K} {max : K}

private lemma dot_along (v0 : Vector2 K) (nonzero : v1.len ≠ 0) (t : K) :
    (v0 + v1 * (1 / v1.len) * t).dot (v0 + v1 * (1 / v1.len) * t) =
      t * t + 2 * (v1 * (1 / v1.len)).dot v0 * t + v0.dot v0 := by
  have unit : (v1 * (1 / v1.len)).dot (v1 * (1 / v1.len)) = 1 := by rw [← len_mul_self,len_unit nonzero,one_mul]
  generalize v1 * (1 / v1.len) = u at unit ⊢
  simp only [dot,add_x,add_y,mul_x,mul_y] at unit ⊢
  linear_combination t * t * unit

variable (long : v0.len < max)
include long

private lemma inside : v0.dot v0 - max * max < 0 := by
  have size := len_nonneg v0
  rw [← len_mul_self]
  nlinarith

lemma boundaryStep_pos : 0 < boundaryStep v0 v1 max := largerRoot_pos (inside long)

lemma len_boundary (nonzero : v1.len ≠ 0) : (v0 + v1 * (1 / v1.len) * boundaryStep v0 v1 max).len = max := by
  apply len_eq_of_dot ((len_nonneg v0).trans long.le)
  rw [dot_along _ nonzero]
  have solved := largerRoot_solves (m := (v1 * (1 / v1.len)).dot v0) (inside long)
  unfold boundaryStep
  linear_combination solved

variable (sum : max < (v0+v1).len)
include sum

lemma second_pos : 0 < v1.len := by
  apply lt_of_le_of_ne (len_nonneg v1)
  intro zero
  obtain rfl := len_eq_zero.mp zero.symm
  have same : v0+⟨0,0⟩ = v0 := by ext <;> simp
  rw [same] at sum
  exact absurd sum long.not_gt

lemma boundaryStep_lt : boundaryStep v0 v1 max < v1.len := by
  have nonzero := (second_pos long sum).ne'
  apply largerRoot_lt (inside long) (len_nonneg v1)
  have whole : v1 * (1 / v1.len) * v1.len = v1 := by
    ext <;> simp [nonzero]
  have square := dot_along v0 nonzero v1.len
  rw [whole,← len_mul_self] at square
  have nonneg := (len_nonneg v0).trans long.le
  nlinarith

end

lemma constrainXY_exact (v0 v1 : Vector2 K) (max : K) : constrainXY (ofExact v0) (ofExact v1) (.fin max) =
      if (v0+v1).len ≤ max then ofExact (v0+v1)
      else if max ≤ v0.len then (ofExact v0).normalized * fin max
      else if (v1 - v0).len < 0.001 then (ofExact v0).normalized * fin max
      else if v0.len < 0.001 then (ofExact v1).normalized * fin max
      else ofExact (v0 + v1 * (1 / v1.len) * boundaryStep v0 v1 max) := by
  have size : |(v1-v0).len| = (v1-v0).len := abs_of_nonneg (len_nonneg _)
  simp only [constrainXY,ofExact_add,ofExact_sub,norm_ofExact,fin_le,ge_iff_le,
    Flt.abs_fin,fin_lt,size]
  split_ifs with sum long equal short
  · rfl
  · rfl
  · rfl
  · rfl
  rw [not_le] at sum long
  rw [normalized_ofExact (second_pos long sum).ne']
  have root := discriminant_pos (m := (v1 * (1 / v1.len)).dot v0) (inside long)
  simp only [ofExact_dot,Flt.fin_mul,fin_sub,Flt.sqrt_fin,if_neg root.not_gt,Flt.fin_neg,
    fin_add,ofExact_mul,ofExact_add]
  rfl

/-- What the limiter is for, in this order. `r` exists only without a division by zero or root of a negative number. -/
structure Limited (v0 v1 : Vector2 K) (max : K) (r : Vector2 K) : Prop where
  bounded : r.len ≤ max
  sum : (v0+v1).len ≤ max → r = v0+v1
  priority : max < (v0 + v1).len → max ≤ v0.len → (∃ k : K, 0 ≤ k ∧ r = v0 * k) ∧ r.len = max
  boundary : max < (v0+v1).len → v0.len < max → 0.001 ≤ (v1-v0).len → 0.001 ≤ v0.len →
    ∃ s : K, 0 ≤ s ∧ s < v1.len ∧ r = v0 + v1 * (s / v1.len) ∧ r.len = max

section
variable {v0 v1 : Vector2 K} {max : K}

lemma constrainXY_zero (positive : 0 < max) (beyond : max < v1.len) (short : v1.len < 0.001) :
    (constrainXY (ofExact ⟨0,0⟩) (ofExact v1) (.fin max)).isFinite = false := by
  have added : (⟨0,0⟩ : Vector2 K)+v1 = v1 := by ext <;> simp
  have removed : v1-⟨0,0⟩ = v1 := by ext <;> simp
  have null : (⟨0,0⟩ : Vector2 K).len = 0 := len_eq_zero.mpr rfl
  rw [constrainXY_exact,added,removed,null,if_neg beyond.not_ge,if_neg positive.not_ge,if_pos short]
  exact normalized_zero _

lemma constrainXY_within (within : (v0+v1).len ≤ max) :
    constrainXY (ofExact v0) (ofExact v1) (.fin max) = ofExact (v0+v1) := by
  rw [constrainXY_exact,if_pos within]

lemma constrainXY_priority (sum : max < (v0+v1).len) (long : max ≤ v0.len) (nonzero : v0.len ≠ 0) :
    constrainXY (ofExact v0) (ofExact v1) (.fin max) = ofExact (v0 * (1 / v0.len) * max) := by
  rw [constrainXY_exact,if_neg sum.not_ge,if_pos long,normalized_ofExact nonzero,ofExact_mul]

lemma constrainXY_boundary (sum : max < (v0+v1).len) (long : v0.len < max)
    (apart : 0.001 ≤ (v1-v0).len) (away : 0.001 ≤ v0.len) :
    constrainXY (ofExact v0) (ofExact v1) (.fin max) = ofExact (v0 + v1 * (1 / v1.len) * boundaryStep v0 v1 max) := by
  rw [constrainXY_exact,if_neg sum.not_ge,if_neg long.not_ge,if_neg apart.not_gt,if_neg away.not_gt]

lemma constrainXY_shortcut (sum : max < (v0+v1).len) (long : v0.len < max)
    (shortcut : (v1-v0).len < 0.001 ∨ v0.len < 0.001)
    (nonzero : ¬(v0 = ⟨0,0⟩ ∧ max < v1.len ∧ v1.len < 0.001)) :
    ∃ v : Vector2 K, v.len ≠ 0 ∧
      constrainXY (ofExact v0) (ofExact v1) (.fin max) = ofExact (v * (1 / v.len) * max) := by
  rw [constrainXY_exact,if_neg sum.not_ge,if_neg long.not_ge]
  split_ifs with equal short
  · have first : v0.len ≠ 0 := by
      intro zero
      obtain rfl := len_eq_zero.mp zero
      have added : (⟨0,0⟩ : Vector2 K)+v1 = v1 := by ext <;> simp
      have removed : v1-⟨0,0⟩ = v1 := by ext <;> simp
      rw [added] at sum
      rw [removed] at equal
      exact nonzero ⟨rfl,sum,equal⟩
    exact ⟨v0,first,by rw [normalized_ofExact first,ofExact_mul]⟩
  · have second := (second_pos long sum).ne'
    exact ⟨v1,second,by rw [normalized_ofExact second,ofExact_mul]⟩
  · exact absurd shortcut (not_or.mpr ⟨equal,short⟩)

omit [IsStrictOrderedRing K] [LawfulLibm K] in
lemma limited_within (within : (v0+v1).len ≤ max) : Limited v0 v1 max (v0+v1) where
  bounded := within
  sum _ := rfl
  priority sum := absurd within sum.not_ge
  boundary sum := absurd within sum.not_ge

lemma limited_priority (positive : 0 < max) (sum : max < (v0+v1).len) (long : max ≤ v0.len) :
    Limited v0 v1 max (v0 * (1 / v0.len) * max) := by
  have exactly := len_direction (positive.trans_le long).ne' positive.le
  refine ⟨exactly.le,fun within => absurd within sum.not_ge,?_,fun _ short => absurd long short.not_ge⟩
  intro _ _
  refine ⟨⟨1 / v0.len * max,?_,?_⟩,exactly⟩
  · exact mul_nonneg (one_div_nonneg.mpr (len_nonneg v0)) positive.le
  · ext <;> simp [mul_assoc]

lemma limited_shortcut (positive : 0 < max) (sum : max < (v0+v1).len) (long : v0.len < max)
    (shortcut : (v1-v0).len < 0.001 ∨ v0.len < 0.001) {v : Vector2 K} (nonzero : v.len ≠ 0) :
    Limited v0 v1 max (v * (1 / v.len) * max) := by
  have exactly := len_direction nonzero positive.le
  refine ⟨exactly.le,fun within => absurd within sum.not_ge,fun _ high => absurd long high.not_gt,?_⟩
  intro _ _ apart away
  rcases shortcut with equal | short
  · exact absurd equal apart.not_gt
  · exact absurd short away.not_gt

lemma limited_boundary (sum : max < (v0+v1).len) (long : v0.len < max) :
    Limited v0 v1 max (v0 + v1 * (1 / v1.len) * boundaryStep v0 v1 max) := by
  have exactly := len_boundary long (second_pos long sum).ne'
  refine ⟨exactly.le,fun within => absurd within sum.not_ge,fun _ high => absurd long high.not_gt,?_⟩
  intro _ _ _ _
  refine ⟨boundaryStep v0 v1 max,(boundaryStep_pos long).le,boundaryStep_lt long sum,?_,exactly⟩
  ext <;> simp [div_eq_mul_inv,mul_assoc,mul_comm (v1.len⁻¹)]

end

/-- Only a zero first vector with a second one between the limit and the shortcut radius is not limited. -/
theorem constrainXY_limited_iff (v0 v1 : Vector2 K) (max : K) (positive : 0 < max) :
    (∃ r, constrainXY (ofExact v0) (ofExact v1) (.fin max) = ofExact r ∧ Limited v0 v1 max r) ↔
      ¬ (v0 = ⟨0,0⟩ ∧ max < v1.len ∧ v1.len < 0.001) := by
  constructor
  · intro limited
    obtain ⟨r,result,_⟩ := limited
    intro degenerate
    obtain ⟨rfl,beyond,short⟩ := degenerate
    have unknown := constrainXY_zero positive beyond short
    rw [result] at unknown
    exact absurd unknown (by simp [Vector2.isFinite,ofExact])
  · intro regular
    rcases le_or_gt (v0+v1).len max with within | sum
    · exact ⟨_,constrainXY_within within,limited_within within⟩
    rcases le_or_gt max v0.len with long | long
    · exact ⟨_,constrainXY_priority sum long (positive.trans_le long).ne',limited_priority positive sum long⟩
    by_cases shortcut : (v1-v0).len < 0.001 ∨ v0.len < 0.001
    · obtain ⟨v,nonzero,result⟩ := constrainXY_shortcut sum long shortcut regular
      exact ⟨_,result,limited_shortcut positive sum long shortcut nonzero⟩
    · rw [not_or,not_lt,not_lt] at shortcut
      exact ⟨_,constrainXY_boundary sum long shortcut.1 shortcut.2,limited_boundary sum long⟩

theorem constrainXY_limited_corner : (0 : ℝ) < 1 ∧
    ∃ r : Vector2 ℝ, constrainXY (ofExact ⟨3,0⟩) (ofExact ⟨0,4⟩) (.fin 1) = ofExact r ∧ Limited ⟨3,0⟩ ⟨0,4⟩ 1 r :=
  ⟨one_pos,(constrainXY_limited_iff _ _ 1 one_pos).mpr (by simp)⟩

/-- With a limit of 0.1 mm/s, a zero first vector and a second one of 0.5 mm/s. -/
theorem not_limited_degenerate : ¬ ∃ r : Vector2 ℝ,
    constrainXY (ofExact ⟨0,0⟩) (ofExact ⟨0.0005,0⟩) (.fin 0.0001) = ofExact r ∧ Limited ⟨0,0⟩ ⟨0.0005,0⟩ 0.0001 r := by
  intro limited
  obtain ⟨r,result,_⟩ := limited
  have size : (⟨0.0005,0⟩ : Vector2 ℝ).len = 0.0005 := Vector2.len_eq_of_dot (by norm_num) (by norm_num [Vector2.dot])
  have unknown : (constrainXY (ofExact ⟨0,0⟩) (ofExact (⟨0.0005,0⟩ : Vector2 ℝ)) (.fin 0.0001)).isFinite = false := by
    apply constrainXY_zero
    · norm_num
    all_goals
      rw [size]
      norm_num
  rw [result] at unknown
  exact absurd unknown (by simp [Vector2.isFinite,ofExact])

section
variable {t f : Vector2 K} {max : K}

private lemma on_circle (sum : max < (t+f).len) (long : t.len < max)
    (result : constrainXY (ofExact t) (ofExact f) (.fin max) = ofExact r) : r.len = max := by
  have positive := (len_nonneg t).trans_lt long
  by_cases regular : t = ⟨0,0⟩ ∧ max < f.len ∧ f.len < 0.001
  · obtain ⟨rfl,beyond,short⟩ := regular
    have unknown := constrainXY_zero positive beyond short
    rw [result] at unknown
    exact absurd unknown (by simp [isFinite,ofExact])
  by_cases shortcut : (f-t).len < 0.001 ∨ t.len < 0.001
  · obtain ⟨v,nonzero,value⟩ := constrainXY_shortcut sum long shortcut regular
    rw [ofExact_injective (result.symm.trans value)]
    exact len_direction nonzero positive.le
  · rw [not_or,not_lt,not_lt] at shortcut
    have value := constrainXY_boundary sum long shortcut.1 shortcut.2
    rw [ofExact_injective (result.symm.trans value)]
    exact len_boundary long (second_pos long sum).ne'

lemma constrainXY_keeps_iff (within : t.len ≤ max) : constrainXY (ofExact t) (ofExact f) (.fin max) = ofExact t ↔
      f = ⟨0,0⟩ ∨ (t.len = max ∧ 0 < max ∧ max < (t+f).len) := by
  constructor
  · intro kept
    rcases le_or_gt (t+f).len max with small | sum
    · rw [constrainXY_within small] at kept
      have same := ofExact_injective kept
      left
      ext
      · simpa using congrArg x same
      · simpa using congrArg y same
    right
    rcases within.lt_or_eq with long | onCircle
    · exact absurd (on_circle sum long kept) long.ne
    refine ⟨onCircle,lt_of_le_of_ne (onCircle ▸ len_nonneg t) ?_,sum⟩
    intro zero
    obtain rfl := len_eq_zero.mp (onCircle.trans zero.symm)
    have unknown := normalized_zero (fin max)
    rw [constrainXY_exact,if_neg sum.not_ge,if_pos onCircle.ge] at kept
    rw [kept] at unknown
    exact absurd unknown (by simp [isFinite,ofExact])
  · intro condition
    rcases condition with rfl | ⟨onCircle,positive,sum⟩
    · have same : t+⟨0,0⟩ = t := by ext <;> simp
      rw [constrainXY_within (same.symm ▸ within),same]
    · have nonzero : t.len ≠ 0 := onCircle ▸ positive.ne'
      rw [constrainXY_priority sum onCircle.ge nonzero]
      congr 1
      ext <;> simp [← onCircle,nonzero]

end
end ControlMath

namespace PositionControl
open ControlMath

lemma constrain_within [LinearOrder K] {val lo hi : Flt K} (low : lo ≤ val) (high : val ≤ hi) :
    Math.constrain val lo hi = val := by
  obtain ⟨a,rfl⟩ := isFinite_iff.mp (Flt.isFinite_of_le low).1
  obtain ⟨b,rfl⟩ := isFinite_iff.mp (Flt.isFinite_of_le low).2
  obtain ⟨d,rfl⟩ := isFinite_iff.mp (Flt.isFinite_of_le high).2
  rw [fin_le] at low high
  simp [Math.constrain,low.not_gt,high.not_gt]

section
variable [Field K]

private lemma addIfNotNan_fin {x y : Flt K} (left : x.isFinite) (right : y.isFinite) : addIfNotNan x y = x+y := by
  simp [addIfNotNan,left,right]

private lemma add_zero_fin {x : Flt K} (finite : x.isFinite) : x+0 = x := by
  obtain ⟨a,rfl⟩ := isFinite_iff.mp finite
  simp

lemma setZeroIfNanVector3f_fin {v : Vector3 (Flt K)} (finite : v.isFinite) : setZeroIfNanVector3f v = v := by
  rw [Vector3.isFinite_iff] at finite
  obtain ⟨x,y,z⟩ := finite
  ext
  · exact (addIfNotNan_fin x rfl).trans (add_zero_fin x)
  · exact (addIfNotNan_fin y rfl).trans (add_zero_fin y)
  · exact (addIfNotNan_fin z rfl).trans (add_zero_fin z)

private lemma recover_last {p i f : Flt K} (parts : (p+i).isFinite) (last : f.isFinite) : p+i+f-p-i = f := by
  rw [Flt.isFinite_add,Bool.and_eq_true] at parts
  obtain ⟨a,rfl⟩ := isFinite_iff.mp parts.1
  obtain ⟨b,rfl⟩ := isFinite_iff.mp parts.2
  obtain ⟨d,rfl⟩ := isFinite_iff.mp last
  rw [fin_add,fin_add,fin_sub,fin_sub]
  congr 1
  ring

private lemma sub_self_fin {v : Vector3 (Flt K)} (finite : v.isFinite) : v-v = 0 := by
  rcases v with ⟨x | _,y | _,z | _⟩ <;> simp [Vector3.isFinite] at finite
  ext <;> simp

private lemma sub_zero_fin {v : Vector3 (Flt K)} (finite : v.isFinite) : v-0 = v := by
  rcases v with ⟨x | _,y | _,z | _⟩ <;> simp [Vector3.isFinite] at finite
  ext <;> simp

def velSpTotal (c : PositionControl K) : Vector3 (Flt K) :=
  c.velSpP+c.posInt.emult c.settings.gainPosI+c.velSp

structure LoopFinite (c : PositionControl K) : Prop where
  posSp : c.posSp.isFinite = true
  pos : c.pos.isFinite = true
  velSp : c.velSp.isFinite = true
  gainPosP : c.settings.gainPosP.isFinite = true
  gainPosI : c.settings.gainPosI.isFinite = true
  posInt : c.posInt.isFinite = true

section
variable {c : PositionControl K} (finite : c.LoopFinite)
include finite

private lemma parts_finite : (c.velSpP+c.posInt.emult c.settings.gainPosI).isFinite := by
  simp [velSpP,finite.posSp,finite.pos,finite.gainPosP,finite.gainPosI,finite.posInt]

lemma velSpTotal_finite : c.velSpTotal.isFinite := by
  simp only [velSpTotal,Vector3.isFinite_add (c.velSpP+_),parts_finite finite,finite.velSp,Bool.and_self]

lemma velSpUnc_eq_total : c.velSpUnc = c.velSpTotal := by
  have parts := (Vector3.isFinite_iff _).mp (parts_finite finite)
  have feed := (Vector3.isFinite_iff _).mp finite.velSp
  ext
  · exact addIfNotNan_fin parts.1 feed.1
  · exact addIfNotNan_fin parts.2.1 feed.2.1
  · exact addIfNotNan_fin parts.2.2 feed.2.2

lemma feedForward_eq : c.velSpTotal-c.velSpP-c.posInt.emult c.settings.gainPosI = c.velSp := by
  have parts := (Vector3.isFinite_iff _).mp (parts_finite finite)
  have feed := (Vector3.isFinite_iff _).mp finite.velSp
  ext
  · exact recover_last parts.1 feed.1
  · exact recover_last parts.2.1 feed.2.1
  · exact recover_last parts.2.2 feed.2.2

end

def hovering (velocity : Vector3 (Flt K)) : PositionControl K :=
  {fresh Settings.defaults 0 with velSp := velocity}

section
variable (velocity : Vector3 K)

private lemma hovering_finite : (hovering (velocity.map fin)).LoopFinite := ⟨rfl,rfl,rfl,rfl,rfl,rfl⟩

private lemma hovering_total : (hovering (velocity.map fin)).velSpTotal = velocity.map fin := by
  ext <;> simp [velSpTotal,velSpP,hovering,fresh,Settings.defaults]

end
end

variable [Field K] [LinearOrder K] [IsStrictOrderedRing K] [Libm K] [LawfulLibm K]

structure Unsaturated (c : PositionControl K) : Prop where
  horizontal : c.velSpTotal.xy.norm ≤ c.settings.limVelHorizontal
  up : -c.settings.limVelUp ≤ c.velSpTotal.z
  down : c.velSpTotal.z ≤ c.settings.limVelDown

section
variable {c : PositionControl K} (finite : c.LoopFinite)
include finite

omit [IsStrictOrderedRing K] [LawfulLibm K] in
lemma velSpLimited_eq (unsaturated : c.Unsaturated) : c.velSpLimited = c.velSpTotal.setXy
      (constrainXY c.velSpTotal.xy c.velSp.xy c.settings.limVelHorizontal) := by
  have vertical := constrain_within unsaturated.up unsaturated.down
  simp only [velSpLimited,velSpUnc_eq_total finite,setZeroIfNanVector3f_fin (velSpTotal_finite finite),
    feedForward_eq finite,Vector3.setXy_z,vertical]
  rfl

lemma velSpLimited_eq_total_iff (unsaturated : c.Unsaturated) : c.velSpLimited = c.velSpTotal ↔
      (c.velSp.xy = ⟨0,0⟩ ∨ (c.velSpTotal.xy.norm = c.settings.limVelHorizontal ∧ 0 < c.settings.limVelHorizontal ∧
        c.settings.limVelHorizontal < (c.velSpTotal.xy+c.velSp.xy).norm)) := by
  have total := (Vector3.isFinite_iff _).mp (velSpTotal_finite finite)
  have feed := (Vector3.isFinite_iff _).mp finite.velSp
  obtain ⟨t,demand⟩ := exists_ofExact (v := c.velSpTotal.xy) (by simp [isFinite,total])
  obtain ⟨f,forward⟩ := exists_ofExact (v := c.velSp.xy) (by simp [isFinite,feed])
  obtain ⟨m,limit⟩ := isFinite_iff.mp (Flt.isFinite_of_le unsaturated.horizontal).2
  have within := unsaturated.horizontal
  rw [demand,limit,norm_ofExact,fin_le] at within
  have kept : c.velSpLimited = c.velSpTotal ↔
      constrainXY c.velSpTotal.xy c.velSp.xy c.settings.limVelHorizontal = c.velSpTotal.xy := by
    rw [velSpLimited_eq finite unsaturated]
    constructor
    · intro same
      exact congrArg Vector3.xy same
    · intro same
      rw [same]
      rfl
  have null : ofExact f = ⟨0,0⟩ ↔ f = ⟨0,0⟩ := by
    constructor
    · exact fun same => ofExact_injective same
    · exact fun same => congrArg ofExact same
  rw [kept,demand,forward,limit,constrainXY_keeps_iff within,ofExact_add,norm_ofExact,
    norm_ofExact,null,fin_lt,Flt.zero_eq,fin_lt,fin.injEq]

end

/-- What the loop is to leave when nothing saturates: the demand, and an integral of the position error. -/
def FollowsDemand (c : PositionControl K) (dt : Flt K) : Prop :=
  (c.positionControl dt).velSp = c.velSpTotal ∧
  (c.positionControl dt).posInt = (c.posInt + (c.posSp - c.pos) * dt).map
    (Math.constrain · (-c.settings.limPosInt) c.settings.limPosInt)

omit [LawfulLibm K] in
lemma posInt_of_uncut {c : PositionControl K} (finite : c.LoopFinite) (dt : Flt K)
    (uncut : c.velSpLimited = c.velSpTotal) :
    (c.positionControl dt).posInt = (c.posInt + (c.posSp - c.pos) * dt).map
      (Math.constrain · (-c.settings.limPosInt) c.settings.limPosInt) := by
  have error : (c.posSp-c.pos).isFinite := by simp [finite.posSp,finite.pos]
  have gains : (c.settings.gainPosP.map arwGain).isFinite := by
    have gain := (Vector3.isFinite_iff _).mp finite.gainPosP
    simp [Vector3.isFinite,isFinite_arwGain gain.1,isFinite_arwGain gain.2.1,isFinite_arwGain gain.2.2]
  have none_cut : c.velSpUnc-c.velSpLimited = 0 := by
    rw [uncut,velSpUnc_eq_total finite]
    exact sub_self_fin (velSpTotal_finite finite)
  simp only [positionControl,none_cut,Vector3.zero_emult _ gains,sub_zero_fin error,error,if_true]

/-- The demand is followed exactly if no horizontal velocity is fed forward, or the limit cuts the sum back to it. -/
theorem followsDemand_iff (c : PositionControl K) (dt : Flt K) (finite : c.LoopFinite)
    (unsaturated : c.Unsaturated) :
    c.FollowsDemand dt ↔ (c.velSp.xy = ⟨0,0⟩ ∨ (c.velSpTotal.xy.norm = c.settings.limVelHorizontal ∧
        0 < c.settings.limVelHorizontal ∧
        c.settings.limVelHorizontal < (c.velSpTotal.xy + c.velSp.xy).norm)) := by
  rw [← velSpLimited_eq_total_iff finite unsaturated]
  constructor
  · intro follows
    exact follows.1
  · intro uncut
    exact ⟨uncut,posInt_of_uncut finite dt uncut⟩

section
variable (velocity : Vector3 K)

omit [LawfulLibm K] in
private lemma hovering_unsaturated (slow : (Vector2.mk velocity.x velocity.y).len ≤ 3.35)
    (up : -3 ≤ velocity.z) (down : velocity.z ≤ 1) : (hovering (velocity.map fin)).Unsaturated := by
  constructor
  · rw [hovering_total]
    exact (norm_ofExact ⟨velocity.x,velocity.y⟩).symm ▸ slow
  · rw [hovering_total]
    exact up
  · rw [hovering_total]
    exact down

end

theorem followsDemand_descending : (hovering ((⟨0,0,0.5⟩ : Vector3 ℝ).map Flt.fin)).FollowsDemand (.fin 0.02) := by
  have size : (⟨0,0⟩ : Vector2 ℝ).len = 0 := Vector2.len_eq_zero.mpr rfl
  have unsaturated : (hovering ((⟨0,0,0.5⟩ : Vector3 ℝ).map fin)).Unsaturated := by
    apply hovering_unsaturated
    · rw [size]
      norm_num
    · norm_num
    · norm_num
  exact (followsDemand_iff _ _ (hovering_finite _) unsaturated).mpr (.inl rfl)

/-- A feed-forward of 1 m/s north is commanded twice. -/
theorem not_followsDemand_north : (hovering ((⟨1,0,0⟩ : Vector3 ℝ).map Flt.fin)).LoopFinite ∧
    (hovering ((⟨1,0,0⟩ : Vector3 ℝ).map Flt.fin)).Unsaturated ∧
    ¬ (hovering ((⟨1,0,0⟩ : Vector3 ℝ).map Flt.fin)).FollowsDemand (.fin 0.02) ∧
    ((hovering ((⟨1,0,0⟩ : Vector3 ℝ).map Flt.fin)).positionControl (.fin 0.02)).velSp = ⟨.fin 2,.fin 0,.fin 0⟩ := by
  have one : (⟨1,0⟩ : Vector2 ℝ).len = 1 := Vector2.len_eq_of_dot (by norm_num) (by norm_num [Vector2.dot])
  have two : (⟨1,0⟩+⟨1,0⟩ : Vector2 ℝ).len = 2 := Vector2.len_eq_of_dot (by norm_num) (by norm_num [Vector2.dot])
  have finite := hovering_finite (⟨1,0,0⟩ : Vector3 ℝ)
  have unsaturated : (hovering ((⟨1,0,0⟩ : Vector3 ℝ).map fin)).Unsaturated := by
    apply hovering_unsaturated
    · rw [one]
      norm_num
    · norm_num
    · norm_num
  have doubled : ((hovering ((⟨1,0,0⟩ : Vector3 ℝ).map fin)).positionControl (.fin 0.02)).velSp =
      ⟨.fin 2,.fin 0,.fin 0⟩ := by
    change (hovering ((⟨1,0,0⟩ : Vector3 ℝ).map fin)).velSpLimited = _
    rw [velSpLimited_eq finite unsaturated,hovering_total]
    change Vector3.setXy _ (constrainXY (ofExact ⟨1,0⟩) (ofExact ⟨1,0⟩) (.fin 3.35)) = _
    rw [constrainXY_within (by rw [two]; norm_num)]
    ext <;> norm_num [ofExact]
  refine ⟨finite,unsaturated,?_,doubled⟩
  intro follows
  have wrong := congrArg Vector3.x (doubled.symm.trans (follows.1.trans (hovering_total _)))
  exact absurd (fin.inj wrong) (by norm_num)

end PositionControl
end AerialManipulator
