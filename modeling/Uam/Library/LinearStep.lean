import Mathlib.Analysis.SpecificLimits.Normed
import Mathlib.Data.Matrix.Basic
import Mathlib.Data.Nat.Choose.Sum

/-! Linear recurrences whose matrix is a number plus a nilpotent part. -/
namespace LinearStep
open Filter Topology Matrix
variable {ι : Type*} [Fintype ι] [DecidableEq ι] {A : Matrix ι ι ℝ} {r : ℝ} {m : ℕ}

lemma tendsto_choose_mul_pow (small : |r| < 1) (k : ℕ) :
    Tendsto (fun n : ℕ => (n.choose k : ℝ) * r^(n - k)) atTop (𝓝 0) := by
  rw [← tendsto_add_atTop_iff_nat k]
  simp only [Nat.add_sub_cancel]
  have summable := summable_choose_mul_geometric_of_norm_lt_one (R := ℝ) k (r := r) small
  exact summable.tendsto_atTop_zero

section
variable (nilpotent : (A - r • (1 : Matrix ι ι ℝ))^m = 0)
include nilpotent

lemma pow_eq_sum (n : ℕ) :
    A^n = ∑ k ∈ Finset.range m, ((n.choose k : ℝ) * r^(n - k)) • (A - r • (1 : Matrix ι ι ℝ))^k := by
  set N := A - r • (1 : Matrix ι ι ℝ) with rest
  have term (k : ℕ) : N^k * (r • (1 : Matrix ι ι ℝ))^(n - k) * (n.choose k : Matrix ι ι ℝ) =
      ((n.choose k : ℝ) * r^(n - k)) • N^k := by
    rw [smul_pow,one_pow,mul_smul_comm,mul_one,← nsmul_eq_mul',← Nat.cast_smul_eq_nsmul ℝ,smul_smul]
  have vanishes {k : ℕ} (large : m ≤ k) : N^k = 0 := pow_eq_zero_of_le large nilpotent
  have commute := (Commute.one_right N).smul_right r
  calc A^n = (N + r • (1 : Matrix ι ι ℝ))^n := by rw [rest,sub_add_cancel]
    _ = ∑ k ∈ Finset.range (n + 1), ((n.choose k : ℝ) * r^(n - k)) • N^k := by
      rw [commute.add_pow]
      exact Finset.sum_congr rfl fun k _ => term k
    _ = _ := by
      apply Finset.sum_congr_of_eq_on_inter
      · intro k _ outside
        rw [vanishes (not_lt.mp fun below => outside (Finset.mem_range.mpr below)),smul_zero]
      · intro k _ outside
        rw [Nat.choose_eq_zero_of_lt (by simpa using outside),Nat.cast_zero,zero_mul,zero_smul]
      · exact fun k _ _ => rfl

lemma tendsto_pow_mulVec (small : |r| < 1) (x : ι → ℝ) : Tendsto (fun n => A^n *ᵥ x) atTop (𝓝 0) := by
  have limit : Tendsto (fun n : ℕ => ∑ k ∈ Finset.range m,
      ((n.choose k : ℝ) * r^(n - k)) • ((A - r • (1 : Matrix ι ι ℝ))^k *ᵥ x)) atTop (𝓝 (∑ k ∈ Finset.range m,
        (0 : ℝ) • ((A - r • (1 : Matrix ι ι ℝ))^k *ᵥ x))) :=
    tendsto_finsetSum _ fun k _ => (tendsto_choose_mul_pow small k).smul_const _
  simp only [zero_smul,Finset.sum_const_zero] at limit
  refine limit.congr fun n => ?_
  rw [pow_eq_sum nilpotent n,Matrix.sum_mulVec]
  exact Finset.sum_congr rfl fun k _ => (smul_mulVec _ _ _).symm

lemma run {P : ℕ → (ι → ℝ) → Prop} {x : ι → ℝ} (start : P 0 x) (step : ∀ n e, P n e → P (n + 1) (A *ᵥ e)) :
    (∀ n, P n (A^n *ᵥ x)) ∧ (r = 0 → ∀ n, m ≤ n → P n 0) ∧ (|r| < 1 → Tendsto (fun n => A^n *ᵥ x) atTop (𝓝 0)) := by
  have each (n : ℕ) : P n (A^n *ᵥ x) := by
    induction n with
    | zero =>
      rw [pow_zero,one_mulVec]
      exact start
    | succ n ih =>
      rw [pow_succ',← mulVec_mulVec]
      exact step n _ ih
  refine ⟨each,fun zero n late => ?_,fun small => tendsto_pow_mulVec nilpotent small x⟩
  have last := each n
  rw [zero,zero_smul,sub_zero] at nilpotent
  rw [pow_eq_zero_of_le late nilpotent,zero_mulVec] at last
  exact last

end
end LinearStep
