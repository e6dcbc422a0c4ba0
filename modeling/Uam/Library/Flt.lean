import Mathlib.Algebra.Order.Field.Basic
import Mathlib.Tactic.Ring
import Mathlib.Tactic.Linarith
import Mathlib.Analysis.SpecialFunctions.Trigonometric.Inverse

/-! Arithmetic on numbers that are finite or not a number. An operation on NaN or outside its
domain gives NaN, and every comparison with NaN is false. The elementary functions are parameters,
so that it stays executable. -/
namespace Numeric

/-- The elementary functions on finite values, and the circle constant. -/
class Libm (K : Type*) where
  pi : K
  sqrtf : K → K
  acosf : K → K
  cosf : K → K
  sinf : K → K

class LawfulLibm (K : Type*) [Field K] [LinearOrder K] [Libm K] : Prop where
  sqrtf_nonneg : ∀ a : K, 0 ≤ Libm.sqrtf a
  sqrtf_mul_self : ∀ a : K, 0 ≤ a → Libm.sqrtf a * Libm.sqrtf a = a
  cosf_sq_add_sinf_sq : ∀ a : K, Libm.cosf a * Libm.cosf a + Libm.sinf a * Libm.sinf a = 1

inductive Flt (K : Type*) where
  | fin (value : K)
  | nan
  deriving DecidableEq, Repr

namespace Flt
variable {K : Type*}

def isFinite : Flt K → Bool
  | fin _ => true
  | nan => false

def lift₂ (f : K → K → K) : Flt K → Flt K → Flt K
  | fin a,fin b => fin (f a b)
  | _,_ => nan

def lift₁ (f : K → K) : Flt K → Flt K
  | fin a => fin (f a)
  | nan => nan

instance [Zero K] : Zero (Flt K) := ⟨fin 0⟩
instance [One K] : One (Flt K) := ⟨fin 1⟩
instance [Add K] : Add (Flt K) := ⟨lift₂ (· + ·)⟩
instance [Sub K] : Sub (Flt K) := ⟨lift₂ (· - ·)⟩
instance [Mul K] : Mul (Flt K) := ⟨lift₂ (· * ·)⟩
instance [Neg K] : Neg (Flt K) := ⟨lift₁ (- ·)⟩

def div [Zero K] [Div K] [DecidableEq K] : Flt K → Flt K → Flt K
  | fin a,fin b => if b = 0 then nan else fin (a / b)
  | _,_ => nan

instance [Zero K] [Div K] [DecidableEq K] : Div (Flt K) := ⟨div⟩

def Less [LT K] : Flt K → Flt K → Prop
  | fin a,fin b => a < b
  | _,_ => False

def AtMost [LE K] : Flt K → Flt K → Prop
  | fin a,fin b => a ≤ b
  | _,_ => False

instance [LT K] : LT (Flt K) := ⟨Less⟩
instance [LE K] : LE (Flt K) := ⟨AtMost⟩

instance [LT K] [DecidableLT K] : DecidableLT (Flt K)
  | fin a,fin b => inferInstanceAs (Decidable (a < b))
  | fin _,nan => .isFalse id
  | nan,fin _ => .isFalse id
  | nan,nan => .isFalse id

instance [LE K] [DecidableLE K] : DecidableLE (Flt K)
  | fin a,fin b => inferInstanceAs (Decidable (a ≤ b))
  | fin _,nan => .isFalse id
  | nan,fin _ => .isFalse id
  | nan,nan => .isFalse id

def abs [Lattice K] [AddGroup K] : Flt K → Flt K := lift₁ (|·|)

def sqrt [Zero K] [LT K] [DecidableLT K] [Libm K] : Flt K → Flt K
  | fin a => if a < 0 then nan else fin (Libm.sqrtf a)
  | nan => nan

def acos [One K] [Neg K] [LE K] [DecidableLE K] [Libm K] : Flt K → Flt K
  | fin a => if -1 ≤ a ∧ a ≤ 1 then fin (Libm.acosf a) else nan
  | nan => nan

def cos [Libm K] : Flt K → Flt K := lift₁ Libm.cosf
def sin [Libm K] : Flt K → Flt K := lift₁ Libm.sinf

@[simp] lemma isFinite_fin (a : K) : (fin a).isFinite := rfl
@[simp] lemma isFinite_nan : (nan : Flt K).isFinite = false := rfl

lemma isFinite_iff {x : Flt K} : x.isFinite ↔ ∃ a, x = fin a := by
  cases x <;> simp

lemma not_isFinite_iff {x : Flt K} : x.isFinite = false ↔ x = nan := by
  cases x <;> simp

section
variable [Field K]

@[simp] lemma zero_eq : (0 : Flt K) = fin 0 := rfl
@[simp] lemma one_eq : (1 : Flt K) = fin 1 := rfl
@[simp] lemma fin_add (a b : K) : fin a+fin b = fin (a+b) := rfl
@[simp] lemma fin_sub (a b : K) : fin a-fin b = fin (a-b) := rfl
@[simp] lemma fin_mul (a b : K) : fin a * fin b = fin (a * b) := rfl
@[simp] lemma fin_neg (a : K) : -fin a = fin (-a) := rfl
section
variable (x : Flt K)
include x

@[simp] lemma nan_add : nan+x = nan := rfl
@[simp] lemma add_nan : x+nan = nan := by cases x <;> rfl
@[simp] lemma nan_sub : nan-x = nan := rfl
@[simp] lemma sub_nan : x-nan = nan := by cases x <;> rfl
@[simp] lemma nan_mul : nan * x = nan := rfl
@[simp] lemma mul_nan : x * nan = nan := by cases x <;> rfl

end

@[simp] lemma neg_nan : -(nan : Flt K) = nan := rfl

@[simp] lemma isFinite_add (x y : Flt K) : (x+y).isFinite = (x.isFinite && y.isFinite) := by
  cases x <;> cases y <;> rfl

@[simp] lemma isFinite_sub (x y : Flt K) : (x-y).isFinite = (x.isFinite && y.isFinite) := by
  cases x <;> cases y <;> rfl

@[simp] lemma isFinite_mul (x y : Flt K) : (x * y).isFinite = (x.isFinite && y.isFinite) := by
  cases x <;> cases y <;> rfl

@[simp] lemma isFinite_neg (x : Flt K) : (-x).isFinite = x.isFinite := by
  cases x <;> rfl

end

section
variable [LinearOrder K]

@[simp] lemma fin_lt (a b : K) : fin a < fin b ↔ a < b := Iff.rfl
@[simp] lemma fin_le (a b : K) : fin a ≤ fin b ↔ a ≤ b := Iff.rfl
@[simp] lemma nan_lt (x : Flt K) : ¬nan < x := id
@[simp] lemma lt_nan (x : Flt K) : ¬x < nan := by cases x <;> exact id
@[simp] lemma nan_le (x : Flt K) : ¬nan ≤ x := id
@[simp] lemma le_nan (x : Flt K) : ¬x ≤ nan := by cases x <;> exact id

lemma le_trans {x y z : Flt K} (first : x ≤ y) (second : y ≤ z) : x ≤ z := by
  cases x <;> cases y <;> cases z <;> simp_all
  exact first.trans second

lemma isFinite_of_lt {x y : Flt K} (less : x < y) : x.isFinite ∧ y.isFinite := by
  cases x <;> cases y <;> simp_all

lemma isFinite_of_le {x y : Flt K} (atMost : x ≤ y) : x.isFinite ∧ y.isFinite := by
  cases x <;> cases y <;> simp_all

end

section
variable [Field K] [LinearOrder K]

@[simp] lemma fin_div (a b : K) : fin a / fin b = if b = 0 then nan else fin (a / b) := rfl
@[simp] lemma nan_div (x : Flt K) : nan / x = nan := rfl
@[simp] lemma div_nan (x : Flt K) : x / nan = nan := by cases x <;> rfl

@[simp] lemma isFinite_div (x y : Flt K) : (x / y).isFinite = (x.isFinite && y.isFinite && decide (y ≠ 0)) := by
  cases x with
  | nan => rfl
  | fin a =>
    cases y with
    | nan => rfl
    | fin b => by_cases zero : b = 0 <;> simp [zero]

@[simp] lemma abs_fin (a : K) : abs (fin a) = fin |a| := rfl
@[simp] lemma abs_nan : abs (nan : Flt K) = nan := rfl
@[simp] lemma isFinite_abs (x : Flt K) : (abs x).isFinite = x.isFinite := by cases x <;> rfl

@[simp] lemma sqrt_fin [Libm K] (a : K) : sqrt (fin a) = if a < 0 then nan else fin (Libm.sqrtf a) := rfl

@[simp] lemma sqrt_nan [Libm K] : sqrt (nan : Flt K) = nan := rfl
@[simp] lemma acos_nan [Libm K] : acos (nan : Flt K) = nan := rfl

end

section
variable [Libm K]

@[simp] lemma cos_fin (a : K) : cos (fin a) = fin (Libm.cosf a) := rfl
@[simp] lemma sin_fin (a : K) : sin (fin a) = fin (Libm.sinf a) := rfl
@[simp] lemma isFinite_cos (x : Flt K) : (cos x).isFinite = x.isFinite := by cases x <;> rfl
@[simp] lemma isFinite_sin (x : Flt K) : (sin x).isFinite = x.isFinite := by cases x <;> rfl

end
end Flt

section
variable {K : Type*} [Field K] [LinearOrder K] [Libm K] [LawfulLibm K]

lemma sqrtf_pos {a : K} (pos : 0 < a) : 0 < Libm.sqrtf a := by
  have square := LawfulLibm.sqrtf_mul_self a pos.le
  rcases (LawfulLibm.sqrtf_nonneg a).lt_or_eq with less | equal
  · exact less
  · rw [← equal,mul_zero] at square
    exact absurd square pos.ne

lemma sqrtf_zero : Libm.sqrtf (0 : K) = 0 := mul_self_eq_zero.mp (LawfulLibm.sqrtf_mul_self 0 le_rfl)

lemma sqrtf_ne_zero {a : K} (nonneg : 0 ≤ a) (nonzero : a ≠ 0) : Libm.sqrtf a ≠ 0 :=
  (sqrtf_pos (lt_of_le_of_ne nonneg nonzero.symm)).ne'

end

noncomputable instance : Libm ℝ := ⟨Real.pi,Real.sqrt,Real.arccos,Real.cos,Real.sin⟩

instance : LawfulLibm ℝ where
  sqrtf_nonneg := Real.sqrt_nonneg
  sqrtf_mul_self a nonneg := Real.mul_self_sqrt nonneg
  cosf_sq_add_sinf_sq a := by
    have identity := Real.cos_sq_add_sin_sq a
    rw [sq,sq] at identity
    exact identity

end Numeric
