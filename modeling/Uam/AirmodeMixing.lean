import Uam.MultirotorMixer
import Mathlib.Data.Real.Basic

/-! Mixing with desaturation in the multirotor mixer and in the control allocator: the same passes
over other data, with the thrust reversed. -/
namespace AerialManipulator

structure Rotors (R : Type) (n : Nat) where
  rollScale : Fin n → R
  pitchScale : Fin n → R
  yawScale : Fin n → R
  thrustScale : Fin n → R

variable {R : Type} [Field R] [LinearOrder R] {n : Nat}

namespace MultirotorMixer
variable (rotors : Rotors R n) (satStatus : SaturationStatus) (roll pitch yaw thrust : R)

def mixYaw (outputs : Fin n → R) : (Fin n → R) × SaturationStatus :=
  let outputs := shift rotors.yawScale outputs yaw
  -- allow some yaw response at maximum thrust
  let mixed := minimizeSaturation rotors.yawScale outputs satStatus 0 1.15 false
  minimizeSaturation rotors.thrustScale mixed.1 mixed.2 0 1 true

def mixWithoutYaw : Fin n → R :=
  fun i => roll * rotors.rollScale i + pitch * rotors.pitchScale i + thrust * rotors.thrustScale i

def mixFully : Fin n → R := fun i => roll * rotors.rollScale i + pitch * rotors.pitchScale i +
  yaw * rotors.yawScale i + thrust * rotors.thrustScale i

def mixAirmodeRp : (Fin n → R) × SaturationStatus :=
  let mixed := minimizeSaturation rotors.thrustScale (mixWithoutYaw rotors roll pitch thrust) satStatus 0 1 false
  mixYaw rotors mixed.2 yaw mixed.1

def mixAirmodeRpy : (Fin n → R) × SaturationStatus :=
  let mixed := minimizeSaturation rotors.thrustScale (mixFully rotors roll pitch yaw thrust) satStatus 0 1 false
  minimizeSaturation rotors.yawScale mixed.1 mixed.2 0 1 false

def mixAirmodeDisabled : (Fin n → R) × SaturationStatus :=
  -- only reduce thrust
  let mixed := minimizeSaturation rotors.thrustScale (mixWithoutYaw rotors roll pitch thrust) satStatus 0 1 true
  let mixed := minimizeSaturation rotors.rollScale mixed.1 mixed.2 0 1 false
  let mixed := minimizeSaturation rotors.pitchScale mixed.1 mixed.2 0 1 false
  mixYaw rotors mixed.2 yaw mixed.1

end MultirotorMixer

open MultirotorMixer (shift minimizeSaturation gainPass SaturationStatus DesaturationGain)

inductive ControlAxis
  | roll
  | pitch
  | yaw
  | thrustX
  | thrustY
  | thrustZ

structure ControlAllocation (R : Type) (n : Nat) where
  mix : ControlAxis → Fin n → R
  actuatorTrim : Fin n → R
  actuatorMin : Fin n → R
  actuatorMax : Fin n → R
  controlSp : ControlAxis → R
  controlTrim : ControlAxis → R

namespace ControlAllocation
variable (c : ControlAllocation R n) (desaturationVector actuatorSp : Fin n → R)

/-- The passes of the mixer, each with the limits of its actuator. The saturation noted is not kept. -/
def desaturationLoop : DesaturationGain R :=
  (List.finRange n).foldl (fun gain i =>
    gainPass desaturationVector actuatorSp (c.actuatorMin i) (c.actuatorMax i) gain i) ⟨0,0,false,false⟩

def computeDesaturationGain : R :=
  (c.desaturationLoop desaturationVector actuatorSp).kMin+(c.desaturationLoop desaturationVector actuatorSp).kMax

def desaturateActuators (increaseOnly : Bool) : Fin n → R :=
  let gain := c.computeDesaturationGain desaturationVector actuatorSp
  if increaseOnly && gain < 0 then actuatorSp
  else
    let actuatorSp := shift desaturationVector actuatorSp gain
    shift desaturationVector actuatorSp (0.5 * c.computeDesaturationGain desaturationVector actuatorSp)

def demand (axis : ControlAxis) (i : Fin n) : R := c.mix axis i * (c.controlSp axis - c.controlTrim axis)

def mixYaw : Fin n → R :=
  let actuatorSp := fun i => actuatorSp i+c.demand .yaw i
  let raised := {c with actuatorMax := fun i => c.actuatorMax i + (c.actuatorMax i - c.actuatorMin i) * 0.15}
  c.desaturateActuators (c.mix .thrustZ) (raised.desaturateActuators (c.mix .yaw) actuatorSp false) true

def mixWithoutYaw : Fin n → R := fun i => c.actuatorTrim i + c.demand .roll i + c.demand .pitch i +
  c.demand .thrustX i+c.demand .thrustY i+c.demand .thrustZ i

def mixFully : Fin n → R := fun i => c.actuatorTrim i + c.demand .roll i + c.demand .pitch i + c.demand .yaw i +
  c.demand .thrustX i+c.demand .thrustY i+c.demand .thrustZ i

def mixAirmodeRP : Fin n → R := c.mixYaw (c.desaturateActuators (c.mix .thrustZ) c.mixWithoutYaw false)

def mixAirmodeRPY : Fin n → R :=
  c.desaturateActuators (c.mix .yaw) (c.desaturateActuators (c.mix .thrustZ) c.mixFully false) false

def mixAirmodeDisabled : Fin n → R :=
  -- only reduce thrust
  let actuatorSp := c.desaturateActuators (c.mix .thrustZ) c.mixWithoutYaw true
  let actuatorSp := c.desaturateActuators (c.mix .roll) actuatorSp false
  c.mixYaw (c.desaturateActuators (c.mix .pitch) actuatorSp false)

def ofRotors (rotors : Rotors R n) (controlSp : ControlAxis → R) : ControlAllocation R n where
  mix
    | .roll => rotors.rollScale
    | .pitch => rotors.pitchScale
    | .yaw => rotors.yawScale
    | .thrustX => 0
    | .thrustY => 0
    | .thrustZ => -rotors.thrustScale
  actuatorTrim := 0
  actuatorMin := 0
  actuatorMax := 1
  controlSp := controlSp
  controlTrim := 0

section
variable {c} {l h : R} (low : ∀ i, c.actuatorMin i = l) (high : ∀ i, c.actuatorMax i = h) (v sp : Fin n → R)
  (status : SaturationStatus)
include low high

lemma gain_eq : c.computeDesaturationGain v sp = (MultirotorMixer.computeDesaturationGain v sp status l h).1 := by
  have loop : (c.desaturationLoop v sp).kMin = (MultirotorMixer.desaturationLoop v sp status l h).kMin ∧
      (c.desaturationLoop v sp).kMax = (MultirotorMixer.desaturationLoop v sp status l h).kMax := by
    refine List.foldl_rel (r := fun a b : DesaturationGain R => a.kMin = b.kMin ∧ a.kMax = b.kMax) ⟨rfl,rfl⟩
      fun i _ a b same => ?_
    simp only [gainPass,low,high]
    split_ifs <;> simp [DesaturationGain.widen,same]
  rw [computeDesaturationGain,loop.1,loop.2]
  rfl

lemma desaturate_eq : c.desaturateActuators v sp false = (minimizeSaturation v sp status l h false).1 := by
  rw [desaturateActuators,gain_eq low high v sp status]
  exact congrArg (fun k => shift v _ (0.5 * k)) (gain_eq low high v _ _)

variable [IsStrictOrderedRing R]

lemma gain_neg : c.computeDesaturationGain (-v) sp = -(MultirotorMixer.computeDesaturationGain v sp status l h).1 := by
  have loop : (c.desaturationLoop (-v) sp).kMin = -(MultirotorMixer.desaturationLoop v sp status l h).kMax ∧
      (c.desaturationLoop (-v) sp).kMax = -(MultirotorMixer.desaturationLoop v sp status l h).kMin := by
    refine List.foldl_rel (r := fun a b : DesaturationGain R => a.kMin = -b.kMax ∧ a.kMax = -b.kMin) (by simp)
      fun i _ a b same => ?_
    have turned {a b : DesaturationGain R} (same : a.kMin = -b.kMax ∧ a.kMax = -b.kMin) (k : R) :
        (a.widen (-k)).kMin = -(b.widen k).kMax ∧ (a.widen (-k)).kMax = -(b.widen k).kMin := by
      simp only [DesaturationGain.widen,same,gt_iff_lt,neg_lt_neg_iff]
      constructor <;> split <;> rfl
    simp only [gainPass,low,high,Pi.neg_apply,abs_neg,div_neg]
    split_ifs
    · exact same
    · exact turned (turned same _) _
    · exact turned same _
    · exact turned same _
    · exact same
  rw [computeDesaturationGain,loop.1,loop.2]
  exact (neg_add_rev _ _).symm

lemma desaturate_neg (only : Bool) :
    c.desaturateActuators (-v) sp only = (minimizeSaturation v sp status l h only).1 := by
  have back (sp : Fin n → R) (k : R) : shift (-v) sp (-k) = shift v sp k := by
    funext i
    simp [shift]
  rw [desaturateActuators,minimizeSaturation,gain_neg low high v sp status]
  simp only [neg_lt_zero,gt_iff_lt,back]
  split
  · rfl
  · rw [gain_neg low high v _ _,mul_neg,back]

end

section
variable [IsStrictOrderedRing R] (rotors : Rotors R n) (u : ControlAxis → R) (satStatus : SaturationStatus)

lemma mixYaw_eq (outputs : Fin n → R) :
    (ofRotors rotors u).mixYaw outputs = (MultirotorMixer.mixYaw rotors satStatus (u .yaw) outputs).1 := by
  have turned : (fun i => outputs i+(ofRotors rotors u).demand .yaw i) = shift rotors.yawScale outputs (u .yaw) := by
    funext i
    simp [demand,ofRotors,shift,mul_comm]
  rw [mixYaw,turned,desaturate_eq (h := 1.15) (fun _ => rfl) (fun _ => by norm_num [ofRotors]) _ _ satStatus]
  exact desaturate_neg (fun _ => rfl) (fun _ => rfl) _ _ _ _

end

/-- With the columns of a rotor table and the thrust negated the allocator does as the mixer. -/
theorem mixAirmodes_eq (rotors : Rotors ℝ n) (u : ControlAxis → ℝ) (satStatus : SaturationStatus) :
    (ofRotors rotors u).mixAirmodeRP =
        (MultirotorMixer.mixAirmodeRp rotors satStatus (u .roll) (u .pitch) (u .yaw) (-u .thrustZ)).1 ∧
      (ofRotors rotors u).mixAirmodeRPY =
        (MultirotorMixer.mixAirmodeRpy rotors satStatus (u .roll) (u .pitch) (u .yaw) (-u .thrustZ)).1 ∧
      (ofRotors rotors u).mixAirmodeDisabled =
        (MultirotorMixer.mixAirmodeDisabled rotors satStatus (u .roll) (u .pitch) (u .yaw) (-u .thrustZ)).1 := by
  have low (i : Fin n) : (ofRotors rotors u).actuatorMin i = 0 := rfl
  have high (i : Fin n) : (ofRotors rotors u).actuatorMax i = 1 := rfl
  have thrust (sp : Fin n → ℝ) (only : Bool) :
      (ofRotors rotors u).desaturateActuators ((ofRotors rotors u).mix .thrustZ) sp only =
        (minimizeSaturation rotors.thrustScale sp satStatus 0 1 only).1 := desaturate_neg low high _ _ _ _
  have without : (ofRotors rotors u).mixWithoutYaw =
      MultirotorMixer.mixWithoutYaw rotors (u .roll) (u .pitch) (-u .thrustZ) := by
    funext i
    simp [mixWithoutYaw,MultirotorMixer.mixWithoutYaw,demand,ofRotors,mul_comm]
  have fully : (ofRotors rotors u).mixFully =
      MultirotorMixer.mixFully rotors (u .roll) (u .pitch) (u .yaw) (-u .thrustZ) := by
    funext i
    simp [mixFully,MultirotorMixer.mixFully,demand,ofRotors,mul_comm]
  refine ⟨?_,?_,?_⟩
  · rw [mixAirmodeRP,without,thrust]
    exact mixYaw_eq ..
  · rw [mixAirmodeRPY,fully,thrust]
    exact desaturate_eq low high ..
  · rw [mixAirmodeDisabled,without,thrust,desaturate_eq low high _ _,desaturate_eq low high _ _]
    exact mixYaw_eq ..

end ControlAllocation
end AerialManipulator
