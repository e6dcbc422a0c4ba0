import Uam.Library.Flt

/-! What the controllers call of `mathlib` and `matrix`. The order of the comparisons decides about NaN and is kept. -/
namespace AerialManipulator
open Numeric
open Flt (fin nan)

namespace Math
variable {α : Type*}

def min [LT α] [DecidableLT α] (a b : α) : α := if a < b then a else b

def max [LT α] [DecidableLT α] (a b : α) : α := if a > b then a else b

def constrain [LT α] [DecidableLT α] (val minVal maxVal : α) : α :=
  if val < minVal then minVal else if val > maxVal then maxVal else val

def sq [Mul α] (val : α) : α := val * val

section
variable {K : Type*} [LinearOrder K]

lemma isFinite_min {a b : Flt K} (bound : b.isFinite) : (min a b).isFinite := by
  unfold min
  split
  next less => exact (Flt.isFinite_of_lt less).1
  · exact bound

lemma isFinite_max {a b : Flt K} (bound : b.isFinite) : (max a b).isFinite := by
  unfold max
  split
  next less => exact (Flt.isFinite_of_lt less).2
  · exact bound

lemma isFinite_constrain {val lo hi : Flt K} (finite : val.isFinite) : (constrain val lo hi).isFinite := by
  unfold constrain
  split
  next less => exact (Flt.isFinite_of_lt less).2
  · split
    next more => exact (Flt.isFinite_of_lt more).1
    · exact finite

lemma max_nan_left (b : Flt K) : max nan b = b := by simp [max]

@[simp] lemma min_fin (a b : K) : min (fin a) (fin b) = .fin (Min.min a b) := by
  unfold min
  split
  next less => rw [min_eq_left (show a < b from less).le]
  next more => rw [min_eq_right (not_lt.mp more)]

@[simp] lemma max_fin (a b : K) : max (fin a) (fin b) = .fin (Max.max a b) := by
  unfold max
  split
  next more => rw [max_eq_left (show b < a from more).le]
  next less => rw [max_eq_right (not_lt.mp less)]

end
end Math

@[ext] structure Vector2 (α : Type*) where
  x : α
  y : α
  deriving DecidableEq, Repr

@[ext] structure Vector3 (α : Type*) where
  x : α
  y : α
  z : α
  deriving DecidableEq, Repr

inductive Axis where
  | x
  | y
  | z
  deriving DecidableEq, Repr

structure Quat (α : Type*) where
  w : α
  x : α
  y : α
  z : α
  deriving DecidableEq, Repr

namespace Vector2
variable {α K : Type*}

instance [Add α] : Add (Vector2 α) := ⟨fun a b => ⟨a.x+b.x,a.y+b.y⟩⟩
instance [Sub α] : Sub (Vector2 α) := ⟨fun a b => ⟨a.x-b.x,a.y-b.y⟩⟩
instance [Mul α] : HMul (Vector2 α) α (Vector2 α) := ⟨fun v s => ⟨v.x * s,v.y * s⟩⟩

def dot [Add α] [Mul α] (a b : Vector2 α) : α := a.x * b.x + a.y * b.y

def isFinite (v : Vector2 (Flt K)) : Bool := v.x.isFinite && v.y.isFinite

section
variable (a b : Vector2 α)

@[simp] lemma add_x [Add α] : (a+b).x = a.x+b.x := rfl
@[simp] lemma add_y [Add α] : (a+b).y = a.y+b.y := rfl
@[simp] lemma sub_x [Sub α] : (a-b).x = a.x-b.x := rfl
@[simp] lemma sub_y [Sub α] : (a-b).y = a.y-b.y := rfl
@[simp] lemma mul_x [Mul α] (s : α) : (a * s).x = a.x * s := rfl
@[simp] lemma mul_y [Mul α] (s : α) : (a * s).y = a.y * s := rfl

end

section
variable [Field K] [LinearOrder K] [Libm K]

def norm (v : Vector2 (Flt K)) : Flt K := Flt.sqrt (v.dot v)

def divScalar (v : Vector2 (Flt K)) (s : Flt K) : Vector2 (Flt K) := v * (1 / s)

def normalized (v : Vector2 (Flt K)) : Vector2 (Flt K) := v.divScalar v.norm

lemma norm_fin [IsStrictOrderedRing K] (a b : K) :
    (⟨.fin a,.fin b⟩ : Vector2 (Flt K)).norm = .fin (Libm.sqrtf (a * a + b * b)) := by
  have nonneg : ¬a * a + b * b < 0 := by nlinarith [mul_self_nonneg a,mul_self_nonneg b]
  simp [norm,dot,nonneg]

@[simp] lemma isFinite_norm [IsStrictOrderedRing K] (v : Vector2 (Flt K)) : v.norm.isFinite = v.isFinite := by
  rcases v with ⟨a | _,b | _⟩
  · rw [norm_fin]; rfl
  all_goals simp [norm,dot,isFinite]

lemma norm_eq_zero [IsStrictOrderedRing K] [LawfulLibm K] {v : Vector2 (Flt K)} : v.norm = 0 ↔ v = ⟨0,0⟩ := by
  rcases v with ⟨a | _,b | _⟩
  · rw [norm_fin]
    simp only [Flt.zero_eq,fin.injEq,Vector2.mk.injEq]
    constructor
    · intro zero
      have square := LawfulLibm.sqrtf_mul_self (a * a + b * b)
        (by nlinarith [mul_self_nonneg a,mul_self_nonneg b])
      rw [zero,mul_zero] at square
      constructor <;> nlinarith [mul_self_nonneg a,mul_self_nonneg b]
    · rintro ⟨rfl,rfl⟩
      simpa using sqrtf_zero (K := K)
  all_goals simp [norm,dot]

lemma normalized_fin [IsStrictOrderedRing K] {a b : K} (nonzero : (⟨.fin a,.fin b⟩ : Vector2 (Flt K)).norm ≠ 0) :
    ∃ u w, (⟨.fin a,.fin b⟩ : Vector2 (Flt K)).normalized = ⟨.fin u,.fin w⟩ := by
  rw [norm_fin,Flt.zero_eq,ne_eq,fin.injEq] at nonzero
  refine ⟨a * (1 / Libm.sqrtf (a * a + b * b)),b * (1 / Libm.sqrtf (a * a + b * b)),?_⟩
  ext <;> simp [normalized,divScalar,norm_fin,nonzero]

lemma isFinite_normalized [IsStrictOrderedRing K] [LawfulLibm K] {v : Vector2 (Flt K)}
    (finite : v.isFinite) (nonzero : v.norm ≠ 0) (s : Flt K) (factor : s.isFinite) :
    (v.normalized * s).isFinite := by
  have size : v.norm.isFinite := by simpa using finite
  have other : v.norm ≠ .fin 0 := nonzero
  simp only [isFinite,Bool.and_eq_true] at finite ⊢
  simp [normalized,divScalar,finite,size,other,factor]

end
end Vector2

namespace Vector3
variable {α K : Type*}

instance [Zero α] : Zero (Vector3 α) := ⟨⟨0,0,0⟩⟩
instance [Add α] : Add (Vector3 α) := ⟨fun a b => ⟨a.x+b.x,a.y+b.y,a.z+b.z⟩⟩
instance [Sub α] : Sub (Vector3 α) := ⟨fun a b => ⟨a.x-b.x,a.y-b.y,a.z-b.z⟩⟩
instance [Neg α] : Neg (Vector3 α) := ⟨fun a => ⟨-a.x,-a.y,-a.z⟩⟩
instance [Mul α] : HMul (Vector3 α) α (Vector3 α) := ⟨fun v s => ⟨v.x * s,v.y * s,v.z * s⟩⟩

@[simps] def emult [Mul α] (a b : Vector3 α) : Vector3 α := ⟨a.x * b.x,a.y * b.y,a.z * b.z⟩

def dot [Add α] [Mul α] (a b : Vector3 α) : α := a.x * b.x + a.y * b.y + a.z * b.z

def cross [Add α] [Sub α] [Neg α] [Mul α] (a b : Vector3 α) : Vector3 α :=
  ⟨a.y * b.z - a.z * b.y,-a.x * b.z + a.z * b.x,a.x * b.y - a.y * b.x⟩

@[simps] def xy (v : Vector3 α) : Vector2 α := ⟨v.x,v.y⟩

@[simps] def setXy (v : Vector3 α) (h : Vector2 α) : Vector3 α := ⟨h.x,h.y,v.z⟩

@[simps] def map {β : Type*} (f : α → β) (v : Vector3 α) : Vector3 β := ⟨f v.x,f v.y,f v.z⟩

def get (v : Vector3 α) : Axis → α
  | .x => v.x
  | .y => v.y
  | .z => v.z

def ofAxes (f : Axis → α) : Vector3 α := ⟨f .x,f .y,f .z⟩

def isFinite (v : Vector3 (Flt K)) : Bool := v.x.isFinite && v.y.isFinite && v.z.isFinite

section
variable [Field K] [LinearOrder K] [Libm K]

def normSquared (v : Vector3 (Flt K)) : Flt K := v.dot v

def norm (v : Vector3 (Flt K)) : Flt K := Flt.sqrt (v.dot v)

def divScalar (v : Vector3 (Flt K)) (s : Flt K) : Vector3 (Flt K) := v * (1 / s)

def unit (v : Vector3 (Flt K)) : Vector3 (Flt K) := v.divScalar v.norm

end

section
variable (a b : Vector3 α)

variable {β : Type*}

@[simp] lemma zero_x [Zero α] : (0 : Vector3 α).x = 0 := rfl
@[simp] lemma zero_y [Zero α] : (0 : Vector3 α).y = 0 := rfl
@[simp] lemma zero_z [Zero α] : (0 : Vector3 α).z = 0 := rfl
@[simp] lemma add_x [Add α] : (a+b).x = a.x+b.x := rfl
@[simp] lemma add_y [Add α] : (a+b).y = a.y+b.y := rfl
@[simp] lemma add_z [Add α] : (a+b).z = a.z+b.z := rfl
@[simp] lemma sub_x [Sub α] : (a-b).x = a.x-b.x := rfl
@[simp] lemma sub_y [Sub α] : (a-b).y = a.y-b.y := rfl
@[simp] lemma sub_z [Sub α] : (a-b).z = a.z-b.z := rfl
@[simp] lemma neg_x [Neg α] : (-a).x = -a.x := rfl
@[simp] lemma neg_y [Neg α] : (-a).y = -a.y := rfl
@[simp] lemma neg_z [Neg α] : (-a).z = -a.z := rfl
@[simp] lemma mul_x [Mul α] (s : α) : (a * s).x = a.x * s := rfl
@[simp] lemma mul_y [Mul α] (s : α) : (a * s).y = a.y * s := rfl
@[simp] lemma mul_z [Mul α] (s : α) : (a * s).z = a.z * s := rfl
variable (f : α → β)

@[simp] lemma get_ofAxes (f : Axis → α) (i : Axis) : (ofAxes f).get i = f i := by cases i <;> rfl
variable (i : Axis)

@[simp] lemma get_add [Add α] : (a+b).get i = a.get i+b.get i := by cases i <;> rfl
@[simp] lemma get_sub [Sub α] : (a-b).get i = a.get i-b.get i := by cases i <;> rfl
@[simp] lemma get_neg [Neg α] : (-a).get i = -a.get i := by cases i <;> rfl
@[simp] lemma get_emult [Mul α] : (a.emult b).get i = a.get i * b.get i := by cases i <;> rfl
@[simp] lemma get_mul [Mul α] (s : α) (i : Axis) : (a * s).get i = a.get i * s := by cases i <;> rfl
@[simp] lemma get_zero [Zero α] : (0 : Vector3 α).get i = 0 := by cases i <;> rfl

@[simp] lemma get_map (i : Axis) : (a.map f).get i = f (a.get i) := by
  cases i <;> rfl

lemma ext_get {a b : Vector3 α} (equal : ∀ i, a.get i = b.get i) : a = b :=
  Vector3.ext (equal .x) (equal .y) (equal .z)

end

lemma isFinite_iff_get (a : Vector3 (Flt K)) : a.isFinite ↔ ∀ i, (a.get i).isFinite := by
  constructor
  · intro finite i
    simp only [isFinite,Bool.and_eq_true] at finite
    cases i
    · exact finite.1.1
    · exact finite.1.2
    · exact finite.2
  · intro finite
    simp only [isFinite,Bool.and_eq_true]
    exact ⟨⟨finite .x,finite .y⟩,finite .z⟩

lemma isFinite_iff (a : Vector3 (Flt K)) : a.isFinite ↔ a.x.isFinite ∧ a.y.isFinite ∧ a.z.isFinite := by
  simp [isFinite,and_assoc]

section
variable [Field K] (a b : Vector3 (Flt K))

@[simp] lemma isFinite_add : (a+b).isFinite = (a.isFinite && b.isFinite) := by
  simp only [isFinite,add_x,add_y,add_z,Flt.isFinite_add]
  ac_rfl

@[simp] lemma isFinite_sub : (a-b).isFinite = (a.isFinite && b.isFinite) := by
  simp only [isFinite,sub_x,sub_y,sub_z,Flt.isFinite_sub]
  ac_rfl

@[simp] lemma isFinite_emult : (a.emult b).isFinite = (a.isFinite && b.isFinite) := by
  simp only [isFinite,emult_x,emult_y,emult_z,Flt.isFinite_mul]
  ac_rfl

@[simp] lemma isFinite_mul (s : Flt K) : (a * s).isFinite = (a.isFinite && s.isFinite) := by
  simp only [isFinite,mul_x,mul_y,mul_z,Flt.isFinite_mul]
  cases s.isFinite <;> simp

@[simp] lemma isFinite_dot : (a.dot b).isFinite = (a.isFinite && b.isFinite) := by
  simp only [isFinite,dot,Flt.isFinite_add,Flt.isFinite_mul]
  ac_rfl

lemma isFinite_unit [LinearOrder K] [IsStrictOrderedRing K] [Libm K] [LawfulLibm K]
    (finite : a.isFinite) (nonzero : a.normSquared ≠ 0) : a.unit.isFinite := by
  rcases a with ⟨p | _,q | _,r | _⟩ <;> simp [isFinite] at finite
  have sum : p * p + q * q + r * r ≠ 0 := by simpa [normSquared,dot] using nonzero
  have nonneg : 0 ≤ p * p + q * q + r * r := by nlinarith [mul_self_nonneg p,mul_self_nonneg q,mul_self_nonneg r]
  have size : (⟨.fin p,.fin q,.fin r⟩ : Vector3 (Flt K)).norm = .fin (Libm.sqrtf (p * p + q * q + r * r)) := by
    simp [norm,dot,not_lt.mpr nonneg]
  simp [unit,divScalar,size,isFinite,sqrtf_ne_zero nonneg sum]

lemma unit_nan [LinearOrder K] [Libm K] (unknown : a.isFinite = false) : a.unit = ⟨.nan,.nan,.nan⟩ := by
  have square : a.dot a = .nan := by
    rw [← Flt.not_isFinite_iff,isFinite_dot,unknown]
    rfl
  ext <;> simp [unit,divScalar,norm,square]

lemma dot_zero (finite : a.isFinite) : a.dot 0 = 0 := by
  rcases a with ⟨p | _,q | _,r | _⟩ <;> simp [isFinite] at finite
  simp [dot]

lemma emult_zero (finite : a.isFinite) : a.emult 0 = 0 := by
  rcases a with ⟨p | _,q | _,r | _⟩ <;> simp [isFinite] at finite
  ext <;> simp

lemma zero_emult (finite : a.isFinite) : (0 : Vector3 (Flt K)).emult a = 0 := by
  rcases a with ⟨p | _,q | _,r | _⟩ <;> simp [isFinite] at finite
  ext <;> simp

lemma isFinite_cross (left : a.isFinite) (right : b.isFinite) : (a.cross b).isFinite := by
  rw [isFinite_iff] at left right
  simp [isFinite,cross,left,right]

end
end Vector3

namespace Quat
variable {α K : Type*}

def mul [Add α] [Sub α] [Mul α] (q p : Quat α) : Quat α :=
  ⟨q.w * p.w - q.x * p.x - q.y * p.y - q.z * p.z,
    q.x * p.w + q.w * p.x - q.z * p.y + q.y * p.z,
    q.y * p.w + q.z * p.x + q.w * p.y - q.x * p.z,
    q.z * p.w - q.y * p.x + q.x * p.y + q.w * p.z⟩

def normSq [Add α] [Mul α] (q : Quat α) : α := q.w * q.w + q.x * q.x + q.y * q.y + q.z * q.z

def inversed [Add α] [Neg α] [Mul α] [Div α] (q : Quat α) : Quat α :=
  ⟨q.w / q.normSq,-q.x / q.normSq,-q.y / q.normSq,-q.z / q.normSq⟩

def rotateVector [Zero α] [Add α] [Sub α] [Neg α] [Mul α] [Div α] (q : Quat α) (vec : Vector3 α) : Vector3 α :=
  let res := (q.mul ⟨0,vec.x,vec.y,vec.z⟩).mul q.inversed
  ⟨res.x,res.y,res.z⟩

def isFinite (q : Quat (Flt K)) : Bool :=
  q.w.isFinite && q.x.isFinite && q.y.isFinite && q.z.isFinite

section
variable [Field K]

lemma isFinite_mul (q p : Quat (Flt K)) (left : q.isFinite) (right : p.isFinite) : (q.mul p).isFinite := by
  simp only [isFinite,Bool.and_eq_true] at left right
  simp [isFinite,mul,left,right]

lemma isFinite_rotateVector [LinearOrder K] (q : Quat (Flt K)) (vec : Vector3 (Flt K))
    (finite : q.isFinite) (nonzero : q.normSq ≠ 0) (arrow : vec.isFinite) :
    (q.rotateVector vec).isFinite := by
  have parts := finite
  simp only [isFinite,Bool.and_eq_true] at parts
  rw [Vector3.isFinite_iff] at arrow
  have inverse : q.inversed.isFinite := by
    have norm : q.normSq.isFinite := by simp [normSq,parts]
    have zero : q.normSq ≠ fin 0 := nonzero
    simp [isFinite,inversed,parts,norm,zero]
  have turned := isFinite_mul _ _ (isFinite_mul q ⟨0,vec.x,vec.y,vec.z⟩ finite
    (by simp [isFinite,arrow])) inverse
  simp only [isFinite,Bool.and_eq_true] at turned
  simp only [Vector3.isFinite,rotateVector,turned,Bool.and_self]

end
end Quat

@[ext] structure Matrix3 (α : Type*) where
  row0 : Vector3 α
  row1 : Vector3 α
  row2 : Vector3 α
  deriving DecidableEq, Repr

namespace Matrix3
variable {α K : Type*}

def mulVec [Add α] [Mul α] (m : Matrix3 α) (v : Vector3 α) : Vector3 α :=
  ⟨m.row0.dot v,m.row1.dot v,m.row2.dot v⟩

def diag [Zero α] (d : Vector3 α) : Matrix3 α := ⟨⟨d.x,0,0⟩,⟨0,d.y,0⟩,⟨0,0,d.z⟩⟩

def transpose (m : Matrix3 α) : Matrix3 α :=
  ⟨⟨m.row0.x,m.row1.x,m.row2.x⟩,⟨m.row0.y,m.row1.y,m.row2.y⟩,⟨m.row0.z,m.row1.z,m.row2.z⟩⟩

instance [Add α] : Add (Matrix3 α) := ⟨fun m n => ⟨m.row0+n.row0,m.row1+n.row1,m.row2+n.row2⟩⟩
instance [Mul α] : HMul (Matrix3 α) α (Matrix3 α) := ⟨fun m s => ⟨m.row0 * s,m.row1 * s,m.row2 * s⟩⟩

instance [Add α] [Mul α] : Mul (Matrix3 α) where
  mul m n :=
    let row (r : Vector3 α) : Vector3 α := n.transpose.mulVec r
    ⟨row m.row0,row m.row1,row m.row2⟩

def isFinite (m : Matrix3 (Flt K)) : Bool := m.row0.isFinite && m.row1.isFinite && m.row2.isFinite

lemma isFinite_iff (m : Matrix3 (Flt K)) : m.isFinite ↔ m.row0.isFinite ∧ m.row1.isFinite ∧ m.row2.isFinite := by
  simp [isFinite,and_assoc]

variable {m : Matrix3 (Flt K)}

lemma isFinite_transpose (finite : m.isFinite) : m.transpose.isFinite := by
  simp only [isFinite_iff,Vector3.isFinite_iff] at finite
  simp [isFinite,transpose,Vector3.isFinite,finite]

lemma isFinite_mulVec [Field K] {v : Vector3 (Flt K)} (finite : m.isFinite)
    (arrow : v.isFinite) : (m.mulVec v).isFinite := by
  rw [isFinite_iff] at finite
  simp [mulVec,Vector3.isFinite_iff,finite,arrow]

lemma isFinite_mul [Field K] {n : Matrix3 (Flt K)} (left : m.isFinite) (right : n.isFinite) : (m * n).isFinite := by
  have columns := isFinite_transpose right
  rw [isFinite_iff] at left
  exact (isFinite_iff _).mpr ⟨isFinite_mulVec columns left.1,isFinite_mulVec columns left.2.1,
    isFinite_mulVec columns left.2.2⟩

lemma mulVec_zero [Field K] (finite : m.isFinite) : m.mulVec 0 = 0 := by
  simp only [isFinite,Bool.and_eq_true] at finite
  ext
  · rw [mulVec,Vector3.dot_zero _ finite.1.1]; rfl
  · rw [mulVec,Vector3.dot_zero _ finite.1.2]; rfl
  · rw [mulVec,Vector3.dot_zero _ finite.2]; rfl

end Matrix3
end AerialManipulator
