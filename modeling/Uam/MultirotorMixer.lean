import Uam.Library.Runs
import Mathlib.Algebra.Order.Field.Basic
import Mathlib.Data.Fin.VecNotation
import Mathlib.Data.Set.Finite.Lemmas
import Mathlib.Tactic.FieldSimp
import Mathlib.Tactic.FinCases
import Mathlib.Tactic.Linarith
import Mathlib.Tactic.Ring

/-! The saturation of the multirotor mixer, over exact numbers. The outputs are shifted along
a desaturation vector, first by a gain from the extremes that the saturated rotors ask for,
then by half of what is left. -/
namespace AerialManipulator.MultirotorMixer

section
variable {R : Type} [Field R] [LinearOrder R] {n : Nat}

def fltEpsilon : R := 0.00000011920928955078125

structure SaturationStatus where
  motorPos : Bool
  motorNeg : Bool
  deriving DecidableEq

structure DesaturationGain (R : Type) where
  kMin : R
  kMax : R
  satStatus : SaturationStatus

def DesaturationGain.widen (gain : DesaturationGain R) (k : R) : DesaturationGain R :=
  { gain with
    kMin := if k < gain.kMin then k else gain.kMin
    kMax := if k > gain.kMax then k else gain.kMax }

variable (desaturationVector outputs : Fin n → R) (satStatus : SaturationStatus) (minOutput maxOutput : R)

def gainPass (gain : DesaturationGain R) (i : Fin n) : DesaturationGain R :=
  -- without a component along the vector nothing can be done about this rotor
  if |desaturationVector i| < fltEpsilon then gain
  else
    let gain :=
      if outputs i < minOutput then
        { gain.widen ((minOutput - outputs i) / desaturationVector i) with
          satStatus := { gain.satStatus with motorNeg := true } }
      else gain
    if outputs i > maxOutput then
      { gain.widen ((maxOutput - outputs i) / desaturationVector i) with
        satStatus := { gain.satStatus with motorPos := true } }
    else gain

def desaturationLoop : DesaturationGain R :=
  (List.finRange n).foldl (gainPass desaturationVector outputs minOutput maxOutput) ⟨0,0,satStatus⟩

def computeDesaturationGain : R × SaturationStatus :=
  let gain := desaturationLoop desaturationVector outputs satStatus minOutput maxOutput
  (gain.kMin+gain.kMax,gain.satStatus)

def shift (k : R) : Fin n → R := fun i => outputs i + k * desaturationVector i

def minimizeSaturation (reduceOnly : Bool) : (Fin n → R) × SaturationStatus :=
  let first := computeDesaturationGain desaturationVector outputs satStatus minOutput maxOutput
  if reduceOnly && first.1 > 0 then (outputs,first.2)
  else
    let shifted := shift desaturationVector outputs first.1
    let second := computeDesaturationGain desaturationVector shifted first.2 minOutput maxOutput
    (shift desaturationVector shifted (0.5 * second.1),second.2)

def Counted (i : Fin n) : Prop := fltEpsilon ≤ |desaturationVector i|

def keeping (i : Fin n) : Set R := {k | shift desaturationVector outputs k i ∈ Set.Icc minOutput maxOutput}

def lowerBounds : Set R :=
  {low | ∃ i, Counted desaturationVector i ∧ IsLeast (keeping desaturationVector outputs minOutput maxOutput i) low}

def upperBounds : Set R :=
  {high | ∃ i, Counted desaturationVector i ∧
    IsGreatest (keeping desaturationVector outputs minOutput maxOutput i) high}

def lower (i : Fin n) : R :=
  ((if 0 < desaturationVector i then minOutput else maxOutput) - outputs i) / desaturationVector i

def upper (i : Fin n) : R :=
  ((if 0 < desaturationVector i then maxOutput else minOutput) - outputs i) / desaturationVector i

structure Covers (rotors : List (Fin n)) (gain : DesaturationGain R) : Prop where
  max : ∀ x, gain.kMax ≤ x ↔ 0 ≤ x ∧ ∀ i ∈ rotors, Counted desaturationVector i →
    lower desaturationVector outputs minOutput maxOutput i ≤ x
  min : ∀ x, x ≤ gain.kMin ↔ x ≤ 0 ∧ ∀ i ∈ rotors, Counted desaturationVector i →
    x ≤ upper desaturationVector outputs minOutput maxOutput i

end

section
variable {R : Type} [LinearOrder R]

lemma widen_kMax_le (gain : DesaturationGain R) (k x : R) : (gain.widen k).kMax ≤ x ↔ gain.kMax ≤ x ∧ k ≤ x := by
  change (if k > gain.kMax then k else gain.kMax) ≤ x ↔ _
  split
  next more => exact ⟨fun bound => ⟨more.le.trans bound,bound⟩,And.right⟩
  next less => exact ⟨fun bound => ⟨bound,(not_lt.mp less).trans bound⟩,And.left⟩

lemma le_widen_kMin (gain : DesaturationGain R) (k x : R) : x ≤ (gain.widen k).kMin ↔ x ≤ gain.kMin ∧ x ≤ k := by
  change x ≤ (if k < gain.kMin then k else gain.kMin) ↔ _
  split
  next less => exact ⟨fun bound => ⟨bound.trans less.le,bound⟩,And.right⟩
  next more => exact ⟨fun bound => ⟨bound,bound.trans (not_lt.mp more)⟩,And.left⟩

end

section
variable {R : Type} [Field R] [LinearOrder R] [IsStrictOrderedRing R] {n : Nat}
variable {v out : Fin n → R} {satStatus : SaturationStatus} {lo hi : R}

lemma fltEpsilon_pos : (0 : R) < fltEpsilon := by norm_num [fltEpsilon]

lemma Counted.ne_zero (counted : Counted v i) : v i ≠ 0 :=
  abs_pos.mp (lt_of_lt_of_le fltEpsilon_pos counted)

lemma keeping_eq_Icc (counted : Counted v i) : keeping v out lo hi i = Set.Icc (lower v out lo hi i)
        (upper v out lo hi i) := by
  ext k
  rw [keeping,Set.mem_ofPred_eq,shift,Set.mem_Icc,Set.mem_Icc,lower,upper]
  rcases lt_or_gt_of_ne counted.ne_zero with negative | positive
  · rw [if_neg negative.not_gt,if_neg negative.not_gt,div_le_iff_of_neg negative,le_div_iff_of_neg negative,
      sub_le_iff_le_add',le_sub_iff_add_le',and_comm]
  · rw [if_pos positive,if_pos positive,div_le_iff₀ positive,le_div_iff₀ positive,sub_le_iff_le_add',
      le_sub_iff_add_le']

section
variable (ordered : lo ≤ hi)
include ordered

lemma lower_le_upper (counted : Counted v i) : lower v out lo hi i ≤ upper v out lo hi i := by
  rw [lower,upper]
  rcases lt_or_gt_of_ne counted.ne_zero with negative | positive
  · rw [if_neg negative.not_gt,if_neg negative.not_gt]
    exact div_le_div_of_nonpos_of_le negative.le (sub_le_sub_right ordered _)
  · rw [if_pos positive,if_pos positive]
    exact div_le_div_of_nonneg_right (sub_le_sub_right ordered _) positive.le

lemma mem_lowerBounds (x : R) : x ∈ lowerBounds v out lo hi ↔ ∃ i, Counted v i ∧ lower v out lo hi i = x := by
  refine exists_congr fun i => and_congr_right fun counted => ?_
  rw [keeping_eq_Icc counted]
  exact (isLeast_Icc (lower_le_upper ordered counted)).isLeast_iff_eq

lemma mem_upperBounds (x : R) : x ∈ upperBounds v out lo hi ↔ ∃ i, Counted v i ∧ upper v out lo hi i = x := by
  refine exists_congr fun i => and_congr_right fun counted => ?_
  rw [keeping_eq_Icc counted]
  exact (isGreatest_Icc (lower_le_upper ordered counted)).isGreatest_iff_eq

end

def Asks (low high k : R) : Prop := 0 < k ∧ low = k ∧ k ≤ high ∨ k < 0 ∧ high = k ∧ low ≤ k

lemma asks_below (ordered : lo ≤ hi) (counted : Counted v i) (below : out i < lo) : Asks (lower v out lo hi i)
      (upper v out lo hi i)
      ((lo - out i) / v i) := by
  have gap : 0 < lo-out i := sub_pos.mpr below
  have order : lower _ out _ _ i ≤ _ := lower_le_upper ordered counted
  rcases lt_or_gt_of_ne counted.ne_zero with negative | positive
  · rw [upper,if_neg negative.not_gt] at order ⊢
    exact .inr ⟨div_neg_of_pos_of_neg gap negative,rfl,order⟩
  · rw [lower,if_pos positive] at order ⊢
    exact .inl ⟨div_pos gap positive,rfl,order⟩

lemma asks_above (ordered : lo ≤ hi) (counted : Counted v i) (above : out i > hi) : Asks (lower v out lo hi i)
      (upper v out lo hi i)
      ((hi - out i) / v i) := by
  have gap : hi-out i < 0 := sub_neg.mpr above
  have order : lower _ out _ _ i ≤ _ := lower_le_upper ordered counted
  rcases lt_or_gt_of_ne counted.ne_zero with negative | positive
  · rw [lower,if_neg negative.not_gt] at order ⊢
    exact .inl ⟨div_pos_of_neg_of_neg gap negative,rfl,order⟩
  · rw [upper,if_pos positive] at order ⊢
    exact .inr ⟨div_neg_of_neg_of_pos gap positive,rfl,order⟩

lemma zero_mem_of_within (counted : Counted v i) (above : ¬out i < lo) (below : ¬out i > hi) : lower v out lo hi i ≤ 0 ∧
      0 ≤ upper v out lo hi i := by
  have kept : (0 : R) ∈ keeping v out lo hi i := by
    simpa [keeping,shift] using ⟨not_lt.mp above,not_lt.mp below⟩
  rw [keeping_eq_Icc counted] at kept
  exact kept

section
variable {rotors : List (Fin n)} {gain : DesaturationGain R} {i : Fin n}

section
variable (covers : Covers v out lo hi rotors gain)
include covers
omit [IsStrictOrderedRing R]

lemma Covers.grow (next : DesaturationGain R) (max : ∀ x, 0 ≤ x → (next.kMax ≤ x ↔ gain.kMax ≤ x ∧ (Counted v i →
      lower v out lo hi i ≤ x))) (more : 0 ≤ next.kMax)
    (min : ∀ x, x ≤ 0 → (x ≤ next.kMin ↔ x ≤ gain.kMin ∧ (Counted v i →
      x ≤ upper v out lo hi i))) (less : next.kMin ≤ 0) :
    Covers v out lo hi (rotors ++ [i]) next := by
  constructor
  · intro x
    by_cases sign : 0 ≤ x
    · rw [max x sign,covers.max x,List.forall_mem_append]
      simp [sign]
    · exact iff_of_false (fun bound => sign (more.trans bound)) fun bounds => sign bounds.1
  · intro x
    by_cases sign : x ≤ 0
    · rw [min x sign,covers.min x,List.forall_mem_append]
      simp [sign]
    · exact iff_of_false (fun bound => sign (bound.trans less)) fun bounds => sign bounds.1

lemma Covers.signs : gain.kMin ≤ 0 ∧ 0 ≤ gain.kMax := ⟨((covers.min _).mp le_rfl).1,((covers.max _).mp le_rfl).1⟩

lemma Covers.widen (counted : Counted v i) {k : R} (asks : Asks (lower v out lo hi i)
      (upper v out lo hi i) k) (status : SaturationStatus) :
    Covers v out lo hi (rotors ++ [i])
      {gain.widen k with satStatus := status} := by
  apply covers.grow
  · intro x sign
    rw [widen_kMax_le]
    rcases asks with ⟨_,low,_⟩ | ⟨down,_,low⟩
    · simp [counted,low]
    · simp [(down.trans_le sign).le,low.trans (down.trans_le sign).le]
  · exact covers.signs.2.trans ((widen_kMax_le gain k _).mp le_rfl).1
  · intro x sign
    rw [le_widen_kMin]
    rcases asks with ⟨up,_,high⟩ | ⟨_,high,_⟩
    · simp [(sign.trans_lt up).le,(sign.trans_lt up).le.trans high]
    · simp [counted,high]
  · exact (((le_widen_kMin gain k _).mp le_rfl).1).trans covers.signs.1

end

lemma Covers.pass (ordered : lo ≤ hi) (covers : Covers v out lo hi rotors gain) : Covers v out lo hi (rotors ++ [i])
      (gainPass v out lo hi gain i) := by
  rw [gainPass]
  split
  next ignored =>
    have uncounted : ¬Counted v i := not_le.mpr ignored
    exact covers.grow gain (by simp [uncounted]) covers.signs.2 (by simp [uncounted]) covers.signs.1
  next counts =>
    have counted : Counted v i := not_lt.mp counts
    by_cases below : out i < lo
    · rw [if_pos below,if_neg (below.trans_le ordered).not_gt]
      exact covers.widen counted (asks_below ordered counted below) _
    rw [if_neg below]
    by_cases above : out i > hi
    · rw [if_pos above]
      exact covers.widen counted (asks_above ordered counted above) _
    · obtain ⟨low,high⟩ := zero_mem_of_within counted below above
      rw [if_neg above]
      exact covers.grow gain (fun x sign => by simp [low.trans sign]) covers.signs.2
        (fun x sign => by simp [sign.trans high]) covers.signs.1

end

lemma desaturationLoop_covers (v out : Fin n → R) (satStatus : SaturationStatus)
    (ordered : lo ≤ hi) : Covers v out lo hi (List.finRange n)
      (desaturationLoop v out satStatus lo hi) := by
  apply Runs.foldl_history (Covers v out lo hi)
  · exact ⟨by simp,by simp⟩
  · intro before i covers
    exact covers.pass ordered

lemma gain_eq_zero (ordered : lo ≤ hi) (none : ∀ i, ¬Counted v i) :
    (computeDesaturationGain v out satStatus lo hi).1 = 0 := by
  have covers := desaturationLoop_covers v out satStatus ordered
  have max : (desaturationLoop v out satStatus lo hi).kMax = 0 :=
    eq_of_forall_ge_iff fun x => by simp [covers.max x,none]
  have min : (desaturationLoop v out satStatus lo hi).kMin = 0 :=
    eq_of_forall_le_iff fun x => by simp [covers.min x,none]
  rw [computeDesaturationGain,max,min,add_zero]

omit [LinearOrder R] [IsStrictOrderedRing R] in
lemma shift_shift (k l : R) : shift v (shift v out k) l = shift v out (k+l) := by
  funext i
  simp only [shift]
  ring

lemma bounds_shift (counted : Counted v i) (k : R) : lower v (shift v out k) lo hi i = lower v out lo hi i-k ∧
    upper v (shift v out k) lo hi i = upper v out lo hi i-k := by
  have nonzero := counted.ne_zero
  rw [lower,lower,upper,upper,shift]
  constructor <;> field_simp <;> ring

lemma isGreatest_shift (ordered : lo ≤ hi) {K : R} (greatest : IsGreatest (lowerBounds v out lo hi) K) (k : R) :
    IsGreatest (lowerBounds v (shift v out k) lo hi) (K-k) := by
  obtain ⟨i,counted,bound⟩ := (mem_lowerBounds ordered K).mp greatest.1
  refine ⟨(mem_lowerBounds ordered _).mpr ⟨i,counted,by rw [(bounds_shift counted k).1,bound]⟩,fun x member => ?_⟩
  obtain ⟨j,counts,rfl⟩ := (mem_lowerBounds ordered x).mp member
  rw [(bounds_shift counts k).1]
  exact sub_le_sub_right (greatest.2 ((mem_lowerBounds ordered _).mpr ⟨j,counts,rfl⟩)) k

lemma isLeast_shift (ordered : lo ≤ hi) {U : R} (least : IsLeast (upperBounds v out lo hi) U) (k : R) :
    IsLeast (upperBounds v (shift v out k) lo hi) (U-k) := by
  obtain ⟨i,counted,bound⟩ := (mem_upperBounds ordered U).mp least.1
  refine ⟨(mem_upperBounds ordered _).mpr ⟨i,counted,by rw [(bounds_shift counted k).2,bound]⟩,fun x member => ?_⟩
  obtain ⟨j,counts,rfl⟩ := (mem_upperBounds ordered x).mp member
  rw [(bounds_shift counts k).2]
  exact sub_le_sub_right (least.2 ((mem_upperBounds ordered _).mpr ⟨j,counts,rfl⟩)) k

def netShift (low high : R) : R :=
  let first := min 0 high+max 0 low
  first + 0.5 * (min 0 (high - first) + max 0 (low - first))

variable {low high : R}

lemma netShift_of_le (nonempty : low ≤ high) : netShift low high = min 0 high+max 0 low := by
  have inside : low ≤ min 0 high+max 0 low ∧ min 0 high+max 0 low ≤ high := by
    rcases le_total 0 low with up | down
    · simp [up,up.trans nonempty,nonempty]
    · rcases le_total 0 high with above | below
      · simp [down,above]
      · simp [down,below,nonempty]
  rw [netShift]
  simp [inside.1,inside.2]

lemma netShift_of_lt (empty : high < low) : netShift low high = (low + high) / 2 := by
  have half : (0.5 : R) = 1 / 2 := by norm_num
  rw [netShift,half]
  rcases le_total 0 low with up | down
  · rcases le_total 0 high with above | below
    · simp [up,above,empty.le]
      ring
    · simp [up,below]
      ring
  · simp [down,(empty.trans_le down).le,empty.le]
    ring

lemma netShift_nonpos (reduced : min 0 high+max 0 low ≤ 0) : netShift low high ≤ 0 := by
  rcases le_or_gt low high with nonempty | empty
  · rw [netShift_of_le nonempty]
    exact reduced
  have opposite : low+high ≤ 0 := by
    rcases le_total high 0 with below | above
    · rw [min_eq_right below,add_comm] at reduced
      exact (add_le_add_left (le_max_right 0 low) high).trans reduced
    · rw [min_eq_left above,zero_add] at reduced
      exact absurd ((le_max_right 0 low).trans reduced) (above.trans_lt empty).not_ge
  rw [netShift_of_lt empty]
  linarith

lemma netShift_closest (nonempty : low ≤ high) :
    netShift low high ∈ Set.Icc low high ∧ ∀ x ∈ Set.Icc low high, |netShift low high| ≤ |x| := by
  rw [netShift_of_le nonempty]
  rcases le_total 0 low with up | down
  · rw [min_eq_left (up.trans nonempty),max_eq_right up,zero_add]
    exact ⟨⟨le_rfl,nonempty⟩,fun x inside => abs_le_abs_of_nonneg up inside.1⟩
  rw [max_eq_left down,add_zero]
  rcases le_total 0 high with above | below
  · rw [min_eq_left above]
    exact ⟨⟨down,above⟩,fun x _ => by simp⟩
  · rw [min_eq_right below]
    exact ⟨⟨nonempty,le_rfl⟩,fun x inside => abs_le_abs_of_nonpos below inside.2⟩

section
variable (ordered : lo ≤ hi)
include ordered

lemma minimizeSaturation_of_none (none : ∀ i, ¬Counted v i) (reduceOnly : Bool) :
    (minimizeSaturation v out satStatus lo hi reduceOnly).1 =
      shift v out 0 := by
  simp [minimizeSaturation,gain_eq_zero ordered none,shift_shift]

lemma exists_bounds (counted : Counted v i) : (∃ K, IsGreatest (lowerBounds v out lo hi) K) ∧
      ∃ U, IsLeast (upperBounds v out lo hi) U := by
  have finite : {j | Counted v j}.Finite := Set.toFinite _
  obtain ⟨most,counts,greatest⟩ :=
    Set.exists_max_image _ (lower v out lo hi) finite ⟨i,counted⟩
  obtain ⟨fewest,counts',least⟩ :=
    Set.exists_min_image _ (upper v out lo hi) finite ⟨i,counted⟩
  constructor
  · refine ⟨_,(mem_lowerBounds ordered _).mpr ⟨most,counts,rfl⟩,fun x member => ?_⟩
    obtain ⟨j,counted,rfl⟩ := (mem_lowerBounds ordered x).mp member
    exact greatest j counted
  · refine ⟨_,(mem_upperBounds ordered _).mpr ⟨fewest,counts',rfl⟩,fun x member => ?_⟩
    obtain ⟨j,counted,rfl⟩ := (mem_upperBounds ordered x).mp member
    exact least j counted

variable {K U : R} (greatest : IsGreatest (lowerBounds v out lo hi) K)
  (least : IsLeast (upperBounds v out lo hi) U)
include greatest least

lemma gain_eq : (computeDesaturationGain v out satStatus lo hi).1 = min 0 U+max 0 K := by
  have covers := desaturationLoop_covers v out satStatus ordered
  have maximum : (desaturationLoop v out satStatus lo hi).kMax = max 0 K := by
    apply eq_of_forall_ge_iff
    intro x
    rw [covers.max x,max_le_iff]
    refine and_congr_right fun _ => ⟨fun bounds => ?_,fun bound i _ counted => ?_⟩
    · obtain ⟨i,counted,rfl⟩ := (mem_lowerBounds ordered K).mp greatest.1
      exact bounds i (List.mem_finRange i) counted
    · exact (greatest.2 ((mem_lowerBounds ordered _).mpr ⟨i,counted,rfl⟩)).trans bound
  have minimum : (desaturationLoop v out satStatus lo hi).kMin = min 0 U := by
    apply eq_of_forall_le_iff
    intro x
    rw [covers.min x,le_min_iff]
    refine and_congr_right fun _ => ⟨fun bounds => ?_,fun bound i _ counted => ?_⟩
    · obtain ⟨i,counted,rfl⟩ := (mem_upperBounds ordered U).mp least.1
      exact bounds i (List.mem_finRange i) counted
    · exact bound.trans (least.2 ((mem_upperBounds ordered _).mpr ⟨i,counted,rfl⟩))
  rw [computeDesaturationGain,maximum,minimum]

lemma minimizeSaturation_eq (reduceOnly : Bool) : (minimizeSaturation v out satStatus lo hi reduceOnly).1 =
      shift v out (if reduceOnly && min 0 U+max 0 K > 0 then 0 else netShift K U) := by
  rw [minimizeSaturation,gain_eq ordered greatest least]
  split
  · funext i
    simp [shift]
  · dsimp only
    rw [shift_shift,gain_eq ordered (isGreatest_shift ordered greatest _) (isLeast_shift ordered least _)]
    rfl

lemma keeping_all_iff (x : R) : (∀ i, Counted v i → shift v out x i ∈ Set.Icc lo hi) ↔ x ∈ Set.Icc K U := by
  constructor
  · intro kept
    obtain ⟨i,counted,low⟩ := greatest.1
    obtain ⟨j,counts,high⟩ := least.1
    exact ⟨low.2 (kept i counted),high.2 (kept j counts)⟩
  · intro inside i counted
    change x ∈ keeping v out lo hi i
    rw [keeping_eq_Icc counted]
    exact ⟨(greatest.2 ((mem_lowerBounds ordered _).mpr ⟨i,counted,rfl⟩)).trans inside.1,
      inside.2.trans (least.2 ((mem_upperBounds ordered _).mpr ⟨i,counted,rfl⟩))⟩

end
end

/-- The outputs are shifted to the closest point without a saturated rotor, or midway between the
bounds, and only down if wanted. -/
theorem minimizeSaturation_shifts {R : Type} [Field R] [LinearOrder R] [IsStrictOrderedRing R] {n : Nat}
    (desaturationVector outputs : Fin n → R) (satStatus : SaturationStatus) (minOutput maxOutput : R)
    (ordered : minOutput ≤ maxOutput) :
    (∃ k, (minimizeSaturation desaturationVector outputs satStatus minOutput maxOutput false).1 =
        shift desaturationVector outputs k ∧
      ((∀ i, ¬ Counted desaturationVector i) → k = 0) ∧
      ∀ K U, IsGreatest (lowerBounds desaturationVector outputs minOutput maxOutput) K →
        IsLeast (upperBounds desaturationVector outputs minOutput maxOutput) U →
        (K ≤ U → k ∈ Set.Icc K U ∧ (∀ x ∈ Set.Icc K U, |k| ≤ |x|) ∧ (∀ i, Counted desaturationVector i →
            shift desaturationVector outputs k i ∈ Set.Icc minOutput maxOutput) ∧
          ∀ x, (∀ i, Counted desaturationVector i →
            shift desaturationVector outputs x i ∈ Set.Icc minOutput maxOutput) → |k| ≤ |x|) ∧
        (U < K → k = (K + U) / 2)) ∧
    ∃ k ≤ 0, (minimizeSaturation desaturationVector outputs satStatus minOutput maxOutput true).1 =
      shift desaturationVector outputs k := by
  by_cases some : ∃ i, Counted desaturationVector i
  · obtain ⟨i,counted⟩ := some
    obtain ⟨⟨K,greatest⟩,U,least⟩ : (∃ K, IsGreatest (lowerBounds desaturationVector outputs minOutput maxOutput) K) ∧
        ∃ U, IsLeast (upperBounds desaturationVector outputs minOutput maxOutput) U := exists_bounds ordered counted
    refine ⟨⟨netShift K U,minimizeSaturation_eq ordered greatest least false,
      fun none => absurd counted (none i),?_⟩,?_⟩
    · intro K' U' greatest' least'
      obtain rfl := greatest.unique greatest'
      obtain rfl := least.unique least'
      refine ⟨fun nonempty => ?_,netShift_of_lt⟩
      obtain ⟨inside,closest⟩ := netShift_closest nonempty
      refine ⟨inside,closest,(keeping_all_iff ordered greatest least _).mpr inside,fun x kept => ?_⟩
      exact closest x ((keeping_all_iff ordered greatest least x).mp kept)
    · refine ⟨_,?_,minimizeSaturation_eq ordered greatest least true⟩
      split
      · exact le_rfl
      next reduced => exact netShift_nonpos (by simpa using reduced)
  · have none : ∀ i, ¬ Counted desaturationVector i := not_exists.mp some
    refine ⟨⟨0,minimizeSaturation_of_none ordered none false,fun _ => rfl,fun K U greatest => ?_⟩,
      0,le_rfl,minimizeSaturation_of_none ordered none true⟩
    obtain ⟨i,counted,_⟩ := greatest.1
    exact absurd counted (none i)

theorem minimizeSaturation_shifts_pair : (0 : ℚ) ≤ 1 ∧ ∃ k ∈ Set.Icc (1 / 2) (3 / 4),
      (minimizeSaturation (fun _ : Fin 2 => (1 : ℚ)) ![-1 / 2,1 / 4] ⟨false,false⟩ 0 1 false).1 =
        shift (fun _ => 1) ![-1 / 2,1 / 4] k := by
  have ordered : (0 : ℚ) ≤ 1 := by decide
  have counted (i : Fin 2) : Counted (fun _ : Fin 2 => (1 : ℚ)) i := by norm_num [Counted,fltEpsilon]
  have greatest : IsGreatest (lowerBounds (fun _ : Fin 2 => (1 : ℚ)) ![-1 / 2,1 / 4] 0 1) (1 / 2) := by
    refine ⟨(mem_lowerBounds ordered _).mpr ⟨0,counted 0,by norm_num [lower]⟩,fun x member => ?_⟩
    obtain ⟨i,_,rfl⟩ := (mem_lowerBounds ordered x).mp member
    fin_cases i <;> norm_num [lower]
  have least : IsLeast (upperBounds (fun _ : Fin 2 => (1 : ℚ)) ![-1 / 2,1 / 4] 0 1) (3 / 4) := by
    refine ⟨(mem_upperBounds ordered _).mpr ⟨1,counted 1,by norm_num [upper]⟩,fun x member => ?_⟩
    obtain ⟨i,_,rfl⟩ := (mem_upperBounds ordered x).mp member
    fin_cases i <;> norm_num [upper]
  obtain ⟨⟨k,shifted,_,bounds⟩,_⟩ :=
    minimizeSaturation_shifts (fun _ : Fin 2 => (1 : ℚ)) ![-1 / 2,1 / 4] ⟨false,false⟩ 0 1 ordered
  exact ⟨ordered,k,((bounds _ _ greatest least).1 (by norm_num)).1,shifted⟩

end AerialManipulator.MultirotorMixer
