import Mathlib.Data.BitVec
import Mathlib.Data.Nat.Log

/-! Numbers in the binary formats of 32 and 64 bits: the rounded distance of two singles, and the
conversions. Finite singles are counted in units of `2 ^ -149`. -/
namespace Binary32

def negative (w : BitVec 32) : Bool := w.msb
def bits (w : BitVec 32) : Nat := w.toNat % 2^31
def expo (w : BitVec 32) : Nat := bits w / 2^23
def frac (w : BitVec 32) : Nat := bits w % 2^23

def isNan (w : BitVec 32) : Bool := expo w = 255 && frac w ≠ 0
def isInf (w : BitVec 32) : Bool := expo w = 255 && frac w = 0
def isFinite (w : BitVec 32) : Bool := expo w ≠ 255

def units (w : BitVec 32) : Int :=
  let magnitude := if expo w = 0 then frac w else (2^23 + frac w) * 2^(expo w - 1)
  if negative w then -magnitude else magnitude

def shiftRound (n shift : Nat) : Nat :=
  let q := n / 2^shift
  let r := 2 * (n % 2^shift)
  if r < 2^shift ∨ r = 2^shift ∧ q % 2 = 0 then q else q + 1

def round24 (n : Nat) : Nat := shiftRound n (Nat.log2 n - 23) * 2^(Nat.log2 n - 23)

inductive Magnitude where
  | fin (units : Nat)
  | inf
  | nan

/-- `fabsf(a - b)`. -/
def absSub (a b : BitVec 32) : Magnitude :=
  if isNan a || isNan b then .nan
  else if isInf a && isInf b then if negative a = negative b then .nan else .inf
  else if isInf a || isInf b then .inf
  else if round24 (units a - units b).natAbs < 2^256 * 2^21 then .fin (round24 (units a - units b).natAbs)
  else .inf

def Magnitude.atMost (bound : Nat) : Magnitude → Bool
  | fin n => n ≤ bound
  | inf => false
  | nan => false

def Magnitude.exceeds (bound : Nat) : Magnitude → Bool
  | fin n => bound < n
  | inf => true
  | nan => false

lemma isFinite_iff (w : BitVec 32) : isFinite w ↔ isNan w = false ∧ isInf w = false := by
  by_cases large : expo w = 255 <;> by_cases zero : frac w = 0 <;> simp [isFinite,isNan,isInf,large,zero]

lemma Magnitude.atMost_or_exceeds {m : Magnitude} (number : m ≠ .nan) (bound : Nat) :
    m.exceeds bound = false ↔ m.atMost bound := by
  cases m <;> simp [exceeds,atMost] at number ⊢

variable {a : BitVec 32}

lemma absSub_self (finite : isFinite a) : absSub a a = .fin 0 := by
  obtain ⟨number,bounded⟩ := (isFinite_iff a).mp finite
  have zero : round24 0 = 0 := by decide
  simp [absSub,number,bounded,zero]

lemma absSub_comm (a b : BitVec 32) : absSub a b = absSub b a := by
  have distance : (units a-units b).natAbs = (units b-units a).natAbs := by omega
  rw [absSub,absSub,distance,Bool.or_comm (isNan a),Bool.and_comm (isInf a),
    Bool.or_comm (isInf a)]
  simp only [eq_comm (a := negative a)]

lemma absSub_inf (infinite : isInf a) : absSub a a = .nan := by simp [absSub,infinite]

lemma atMost_inf (infinite : isInf a) (b : BitVec 32) (bound : Nat) : (absSub a b).atMost bound = false := by
  simp only [absSub,infinite,Bool.true_and,Bool.true_or,if_true]
  split
  · rfl
  · split
    · split <;> rfl
    · rfl

lemma absSub_ne_nan (number : isNan a = false) (finite : isFinite b) : absSub a b ≠ .nan := by
  obtain ⟨number',bounded⟩ := (isFinite_iff b).mp finite
  simp only [absSub,number,number',bounded,Bool.or_false,Bool.and_false,Bool.false_eq_true,if_false]
  split
  · simp
  · split <;> simp

def sign (negative : Bool) (width : Nat) : Nat := if negative then 2^(width-1) else 0

def widenBits (b : Nat) : Nat :=
  let e := b / 2^23
  let f := b % 2^23
  if e = 255 then 2047 * 2^52 + if f = 0 then 0 else f * 2^29 ||| 2^51
  else if e = 0 then
    if f = 0 then 0 else (Nat.log2 f + 874) * 2^52 + (f - 2^Nat.log2 f) * 2^(52 - Nat.log2 f)
  else (e + 896) * 2^52 + f * 2^29

def narrowBits (d : Nat) : Nat :=
  let e := d / 2^52
  let m := d % 2^52
  let significand := if e = 0 then m else 2^52+m
  if e = 2047 then 255 * 2^23 + if m = 0 then 0 else m / 2^29 ||| 2^22
  else min (255 * 2^23)
    (if 897 ≤ e then (e - 897) * 2^23 + shiftRound significand 29 else shiftRound significand (926 - max e 1))

/-- `(double)f`. -/
def widen (w : BitVec 32) : BitVec 64 := BitVec.ofNat 64 (sign (negative w) 64+widenBits (bits w))

/-- `(float)d`. -/
def narrow (d : BitVec 64) : BitVec 32 := BitVec.ofNat 32 (sign d.msb 32 + narrowBits (d.toNat % 2^63))

lemma shiftRound_exact (n shift : Nat) : shiftRound (n * 2^shift) shift = n := by
  have positive := Nat.two_pow_pos shift
  simp only [shiftRound,Nat.mul_div_cancel n positive,Nat.mul_mod_left]
  rw [if_pos (.inl positive)]

lemma bits_le (number : isNan w = false) : bits w ≤ 255 * 2^23 := by
  have small : bits w < 2^31 := Nat.mod_lt _ (by decide)
  have zero : expo w = 255 → frac w = 0 := by simpa [isNan] using number
  rw [expo,frac] at zero
  omega

lemma fields (size : Nat) (small : f < size) : (e * size + f) / size = e ∧ (e * size + f) % size = f := by
  have positive : 0 < size := by omega
  rw [Nat.add_comm,Nat.add_mul_div_right _ _ positive,Nat.add_mul_mod_self_right,Nat.div_eq_of_lt small,Nat.zero_add]
  exact ⟨rfl,Nat.mod_eq_of_lt small⟩

lemma narrowBits_normal (low : e ≠ 0) (high : e ≠ 2047) (small : m < 2^52) :
    narrowBits (e * 2^52 + m) = min (255 * 2^23)
      (if 897 ≤ e then (e - 897) * 2^23 + shiftRound (2^52 + m) 29
        else shiftRound (2^52+m) (926-max e 1)) := by
  obtain ⟨exponent,mantissa⟩ := fields (2^52) small (e := e)
  simp only [narrowBits,exponent,mantissa]
  rw [if_neg low,if_neg high]

section
variable {b e f : Nat}

lemma narrowBits_widenBits_subnormal (expo : b / 2^23 = 0) (frac : b % 2^23 = f) (some : f ≠ 0) :
    widenBits b < 2^63 ∧ narrowBits (widenBits b) = b := by
  have fraction : f < 2^23 := frac ▸ Nat.mod_lt _ (by decide)
  obtain ⟨k,leading⟩ : ∃ k, Nat.log2 f = k := ⟨_,rfl⟩
  have low : 2^k ≤ f := leading ▸ Nat.log2_self_le some
  have high : f < 2^(k+1) := leading ▸ Nat.lt_log2_self
  have bound : k < 23 := (Nat.pow_lt_pow_iff_right (by decide : 1 < 2)).mp (lt_of_le_of_lt low fraction)
  have scale : 2^k * 2^(52 - k) = 2^52 := by rw [← Nat.pow_add,Nat.add_sub_cancel' (by omega : k ≤ 52)]
  have small : (f - 2^k) * 2^(52 - k) < 2^52 := by
    rw [← scale]
    exact Nat.mul_lt_mul_of_pos_right (by rw [Nat.pow_succ] at high; omega) (Nat.two_pow_pos _)
  have wide : widenBits b = (k + 874) * 2^52 + (f - 2^k) * 2^(52 - k) := by
    simp only [widenBits,expo,frac]
    rw [if_neg (by decide),if_pos trivial,if_neg some,leading]
  refine ⟨by omega,?_⟩
  have whole : 2^52 + (f - 2^k) * 2^(52 - k) = f * 2^(52 - k) := by
    rw [Nat.sub_mul,scale]
    have := Nat.mul_le_mul_right (2^(52-k)) low
    omega
  have shift : 926-max (k+874) 1 = 52-k := by omega
  rw [wide,narrowBits_normal (by omega) (by omega) small,if_neg (by omega),whole,shift,shiftRound_exact]
  omega

lemma narrowBits_widenBits_normal (expo : b / 2^23 = e) (frac : b % 2^23 = f) (normal : e ≠ 0)
    (finite : e < 255) : widenBits b < 2^63 ∧ narrowBits (widenBits b) = b := by
  have fraction : f < 2^23 := frac ▸ Nat.mod_lt _ (by decide)
  have small : f * 2^29 < 2^52 := by omega
  have wide : widenBits b = (e + 896) * 2^52 + f * 2^29 := by
    simp only [widenBits,expo,frac]
    rw [if_neg finite.ne,if_neg normal]
  refine ⟨by omega,?_⟩
  have whole : 2^52 + f * 2^29 = (2^23 + f) * 2^29 := by omega
  rw [wide,narrowBits_normal (by omega) (by omega) small,if_pos (by omega),whole,shiftRound_exact]
  omega

end

lemma narrowBits_widenBits (number : b ≤ 255 * 2^23) : widenBits b < 2^63 ∧ narrowBits (widenBits b) = b := by
  by_cases top : b / 2^23 = 255
  · obtain rfl : b = 255 * 2^23 := by omega
    exact ⟨by decide,by decide⟩
  by_cases normal : b / 2^23 = 0
  · by_cases zero : b % 2^23 = 0
    · obtain rfl : b = 0 := by omega
      have wide : widenBits 0 = 0 := by decide
      have nothing := shiftRound_exact 0 925
      rw [Nat.zero_mul] at nothing
      rw [wide]
      refine ⟨by decide,?_⟩
      simp [narrowBits,nothing]
    · exact narrowBits_widenBits_subnormal normal rfl zero
  · exact narrowBits_widenBits_normal rfl rfl normal (by omega)

lemma toNat_eq (w : BitVec 32) : w.toNat = sign (negative w) 32+bits w := by
  have range := w.isLt
  rw [negative,bits,BitVec.msb_eq_decide]
  by_cases high : 2^(32-1) ≤ w.toNat
  · rw [decide_eq_true high,sign,if_pos rfl]
    omega
  · rw [decide_eq_false high,sign,if_neg Bool.false_ne_true]
    omega

lemma narrow_widen (number : isNan w = false) : narrow (widen w) = w := by
  obtain ⟨range,back⟩ := narrowBits_widenBits (bits_le number)
  have signs : sign (negative w) 64 = 0 ∨ sign (negative w) 64 = 2^63 := by
    cases negative w
    · exact .inl rfl
    · exact .inr rfl
  have total : (widen w).toNat = sign (negative w) 64+widenBits (bits w) := by
    rw [widen,BitVec.toNat_ofNat,Nat.mod_eq_of_lt]
    rcases signs with none | one <;> omega
  have top : (widen w).msb = negative w := by
    rw [BitVec.msb_eq_decide,total]
    cases sgn : negative w
    · rw [decide_eq_false_iff_not,sign,if_neg Bool.false_ne_true]
      omega
    · rw [decide_eq_true_eq,sign,if_pos rfl]
      omega
  have rest : (widen w).toNat % 2^63 = widenBits (bits w) := by
    rw [total]
    rcases signs with none | one <;> omega
  apply BitVec.eq_of_toNat_eq
  rw [narrow,top,rest,back,BitVec.toNat_ofNat,← toNat_eq,Nat.mod_eq_of_lt w.isLt]

end Binary32
