import Mathlib.Algebra.Order.Floor.Ring

/-! Numbers made integers as in C. A conversion cuts off the fraction; a result that does not fit
may be anything. Rounding takes halves away from zero. -/
namespace Truncation
variable {K : Type*} [Field K] [LinearOrder K] [FloorRing K]

def truncate (x : K) : Int := if 0 ≤ x then ⌊x⌋ else ⌈x⌉

def nearest (x : K) : Int := if 0 ≤ x then ⌊x+0.5⌋ else ⌈x-0.5⌉

structure Conversion (K : Type*) [Field K] [LinearOrder K] [FloorRing K] (low high : Int) where
  convert : K → Int
  bounded : ∀ x,low ≤ convert x ∧ convert x ≤ high
  fits : ∀ x,low ≤ truncate x → truncate x ≤ high → convert x = truncate x

def Conversion.saturating {low high : Int} (ordered : low ≤ high) : Conversion K low high where
  convert x := max low (min (truncate x) high)
  bounded x := ⟨le_max_left _ _,max_le ordered (min_le_right _ _)⟩
  fits x below above := by rw [min_eq_left above,max_eq_right below]

variable [IsStrictOrderedRing K]

@[simp] lemma truncate_intCast (n : Int) : truncate (n : K) = n := by
  unfold truncate
  split <;> simp

lemma floor_add_half (n : Int) : ⌊(n : K)+0.5⌋ = n := by
  have half : ⌊(0.5 : K)⌋ = 0 := Int.floor_eq_iff.mpr ⟨by norm_num,by norm_num⟩
  rw [Int.floor_intCast_add,half,add_zero]

lemma truncate_add_half {n : Int} (nonneg : 0 ≤ n) : truncate ((n : K)+0.5) = n := by
  have cast : (0 : K) ≤ n := mod_cast nonneg
  rw [truncate,if_pos (by linarith),floor_add_half]

@[simp] lemma nearest_intCast (n : Int) : nearest (n : K) = n := by
  unfold nearest
  split
  · exact floor_add_half n
  · rw [sub_eq_add_neg,Int.ceil_intCast_add]
    have half : ⌈(-0.5 : K)⌉ = 0 := Int.ceil_eq_iff.mpr ⟨by norm_num,by norm_num⟩
    rw [half,add_zero]

namespace Conversion
variable {low high : Int} (conversion : Conversion K low high)

lemma convert_intCast {n : Int} (below : low ≤ n) (above : n ≤ high) : conversion.convert (n : K) = n := by
  rw [conversion.fits _ (by simpa using below) (by simpa using above),truncate_intCast]

@[simp] lemma convert_convert (x : K) : conversion.convert (conversion.convert x : K) = conversion.convert x :=
  conversion.convert_intCast (conversion.bounded x).1 (conversion.bounded x).2

lemma convert_add_half {n : Int} (nonneg : 0 ≤ n) (below : low ≤ n) (above : n ≤ high) :
    conversion.convert ((n : K)+0.5) = n := by
  have cut := truncate_add_half (K := K) nonneg
  rw [conversion.fits _ (by rwa [cut]) (by rwa [cut]),cut]

end Conversion
end Truncation
