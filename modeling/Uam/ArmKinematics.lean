import Uam.Numerics

/-! Centre of mass and inertia of the vehicle with its arm, for two arm models. The positions
computed with the first are cached for the second. -/
namespace AerialManipulator
open Numeric
variable {K : Type*}

inductive ModelProfile where
  | uavArmV4
  | uamV5
  deriving DecidableEq, Repr

structure Joints (α : Type*) where
  q0 : α
  q1 : α
  q2 : α
  q3 : α
  deriving DecidableEq, Repr

namespace ArmKinematics

structure Cache (K : Type*) where
  p1 : Vector3 (Flt K)
  p2 : Vector3 (Flt K)
  p3 : Vector3 (Flt K)
  p4 : Vector3 (Flt K)
  com : Vector3 (Flt K)
  q : Joints (Flt K)
  deriving DecidableEq, Repr

end ArmKinematics

structure ArmKinematics (K : Type*) where
  massTotalSystem : Flt K
  baseComOffset : Vector3 (Flt K)
  baseInertiaVal : Matrix3 (Flt K)
  modelProfile : ModelProfile
  cached : ArmKinematics.Cache K
  uamV5CacheValid : Bool
  deriving DecidableEq, Repr

namespace ArmKinematics

def setModelProfile (a : ArmKinematics K) (profile : ModelProfile) : ArmKinematics K :=
  {a with modelProfile := profile, uamV5CacheValid := false}

def setParameters (a : ArmKinematics K) (massTotal : Flt K) (baseComOffset : Vector3 (Flt K))
    (baseInertia : Matrix3 (Flt K)) : ArmKinematics K :=
  { a with massTotalSystem := massTotal, baseComOffset := baseComOffset, baseInertiaVal := baseInertia,
           uamV5CacheValid := false }

section
variable [Field K]

def fresh : ArmKinematics K where
  massTotalSystem := .fin 1.5
  baseComOffset := 0
  baseInertiaVal := ⟨0,0,0⟩
  modelProfile := .uavArmV4
  cached := ⟨0,0,0,0,0,⟨0,0,0,0⟩⟩
  uamV5CacheValid := false

def skew (v : Vector3 (Flt K)) : Matrix3 (Flt K) := ⟨⟨0,-v.z,v.y⟩,⟨v.z,0,-v.x⟩,⟨-v.y,v.x,0⟩⟩

variable [Libm K]

def rotZ (angle : Flt K) : Matrix3 (Flt K) :=
  ⟨⟨angle.cos,-angle.sin,0⟩,⟨angle.sin,angle.cos,0⟩,⟨0,0,1⟩⟩

def rotX (angle : Flt K) : Matrix3 (Flt K) :=
  ⟨⟨1,0,0⟩,⟨0,angle.cos,-angle.sin⟩,⟨0,angle.sin,angle.cos⟩⟩

def rotY (angle : Flt K) : Matrix3 (Flt K) :=
  ⟨⟨angle.cos,0,angle.sin⟩,⟨0,1,0⟩,⟨-angle.sin,0,angle.cos⟩⟩

structure Pose3f (K : Type*) where
  R : Matrix3 (Flt K)
  t : Vector3 (Flt K)

def makePose (R : Matrix3 (Flt K)) (t : Vector3 (Flt K)) : Pose3f K := ⟨R,t⟩

def composePose (parent child : Pose3f K) : Pose3f K :=
  ⟨parent.R * child.R,parent.t + parent.R.mulVec child.t⟩

def transformPoint (pose : Pose3f K) (localPoint : Vector3 (Flt K)) : Vector3 (Flt K) :=
  pose.t+pose.R.mulVec localPoint

def fluToFrdVector (v : Vector3 (Flt K)) : Vector3 (Flt K) := ⟨v.x,-v.y,-v.z⟩

def fluToFrdMatrix (m : Matrix3 (Flt K)) : Matrix3 (Flt K) :=
  let C : Matrix3 (Flt K) := .diag ⟨1,-1,-1⟩
  C * m * C.transpose

def makeMdhPose (alphaPrev aPrev theta d : Flt K) : Pose3f K :=
  ⟨rotX alphaPrev * rotZ theta,(rotX alphaPrev).mulVec ⟨aPrev,0,d⟩⟩

def parallelAxis (r : Vector3 (Flt K)) (m : Flt K) : Matrix3 (Flt K) :=
  (skew r).transpose * skew r * m

def linkInertia (R : Matrix3 (Flt K)) (inertiaDiag r : Vector3 (Flt K)) (m : Flt K) : Matrix3 (Flt K) :=
  R * Matrix3.diag inertiaDiag * R.transpose + parallelAxis r m

def inertiaUavArmV4 (baseInertia : Matrix3 (Flt K)) (cached : Cache K) (q : Joints (Flt K)) : Matrix3 (Flt K) :=
  let R1 := rotZ q.q0
  let R2 := R1 * rotY q.q1
  let R3 := R2 * rotY q.q2
  let R4 := R3 * rotY q.q3
  baseInertia
    + linkInertia R1 ⟨.fin 0.005,.fin 0.005,.fin 0.005⟩ (cached.p1 - cached.com) (.fin 0.250494)
    + linkInertia R2 ⟨.fin 0.005,.fin 0.005,.fin 0.005⟩ (cached.p2 - cached.com) (.fin 0.020149)
    + linkInertia R3 ⟨.fin 0.003,.fin 0.003,.fin 0.003⟩ (cached.p3 - cached.com) (.fin 0.0397105)
    + linkInertia R4 ⟨.fin 0.003,.fin 0.003,.fin 0.003⟩ (cached.p4 - cached.com) (.fin (0.0631624 + 0.016))

/-- The pose of link 1 of the UAM V5 arm in the body frame. The encoder offsets are zero, the signs one. -/
def poseLink1 (q : Joints (Flt K)) : Pose3f K :=
  let mount := makePose (rotX (-.fin Libm.pi)) ⟨.fin 0.115,0,.fin (-0.09)⟩
  composePose mount (makeMdhPose 0 0 q.q0 0)

def poseLink2 (q : Joints (Flt K)) : Pose3f K :=
  let mount := makePose (rotX (-.fin (Libm.pi / 2))) ⟨0,0,.fin 0.072⟩
  composePose (composePose (poseLink1 q) mount) (makeMdhPose 0 0 q.q1 0)

def inertiaUamV5 (cached : Cache K) (q : Joints (Flt K)) : Matrix3 (Flt K) :=
  let rBase := (⟨.fin (-0.044),0,.fin (-0.046)⟩ : Vector3 (Flt K))-cached.com
  fluToFrdMatrix (Matrix3.diag ⟨.fin 0.049436,.fin 0.052665,.fin 0.086619⟩
    + parallelAxis rBase (.fin 3.6678)
    + linkInertia (poseLink1 q).R ⟨.fin 0.000839,.fin 0.000791,.fin 0.000943⟩ (cached.p1 - cached.com) (.fin 0.593)
    + linkInertia (poseLink2 q).R ⟨.fin 0.000302,.fin 0.002811,.fin 0.002717⟩ (cached.p2 - cached.com)
      (.fin 0.594))

variable [LinearOrder K]

def positionsUavArmV4 (q : Joints (Flt K)) : Cache K :=
  let c0 := q.q0.cos
  let s0 := q.q0.sin
  let c1 := q.q1.cos
  let s1 := q.q1.sin
  let c12 := (q.q1+q.q2).cos
  let s12 := (q.q1+q.q2).sin
  let c123 := (q.q1+q.q2+q.q3).cos
  let s123 := (q.q1+q.q2+q.q3).sin
  let L1 : Flt K := .fin 0.132
  let L2 : Flt K := .fin 0.0885
  let L3 : Flt K := .fin 0.0885
  let com2X : Flt K := .fin 0.04063
  let com3X : Flt K := .fin 0.025422
  let com4X : Flt K := .fin 0.030336
  let pBaseCom : Vector3 (Flt K) := ⟨.fin 0.000642,0,.fin (-0.193246)⟩
  let pJ1 : Vector3 (Flt K) := ⟨0,0,.fin 0.1745⟩
  let p1Com := pJ1+⟨0,0,.fin 0.043715⟩
  let pJ2 := pJ1 + ⟨c0 * L1 * s1,s0 * L1 * s1,L1 * c1⟩
  let p2Com := pJ2 + ⟨c0 * com2X * c1,s0 * com2X * c1,-com2X * s1⟩
  let pJ3 := pJ2 + ⟨c0 * L2 * s12,s0 * L2 * s12,L2 * c12⟩
  let p3Com := pJ3 + ⟨c0 * com3X * c12,s0 * com3X * c12,-com3X * s12⟩
  let pJ4 := pJ3 + ⟨c0 * L3 * s123,s0 * L3 * s123,L3 * c123⟩
  let p4Com := pJ4 + ⟨c0 * com4X * c123,s0 * com4X * c123,-com4X * s123⟩
  let mBase : K := 0.844401+0.015
  let mTotal : K := mBase+0.250494+0.020149+0.0397105+0.0631624+0.016
  let com := (pBaseCom * Flt.fin mBase + p1Com * Flt.fin (0.250494 : K) + p2Com * Flt.fin (0.020149 : K)
    + p3Com * Flt.fin (0.0397105 : K) + p4Com * Flt.fin (0.0631624 + 0.016 : K)).divScalar (.fin mTotal)
  ⟨p1Com,p2Com,p3Com,p4Com,com,q⟩

def positionsUamV5 (q : Joints (Flt K)) : Cache K :=
  let pBaseCom : Vector3 (Flt K) := ⟨.fin (-0.044),0,.fin (-0.046)⟩
  let p1Com := transformPoint (poseLink1 q) 0
  let p2gCom := transformPoint (poseLink2 q) ⟨.fin 0.075,0,0⟩
  let mTotal : K := 3.6678+0.593+0.594
  let com := (pBaseCom * Flt.fin (3.6678 : K) + p1Com * Flt.fin (0.593 : K)
    + p2gCom * Flt.fin (0.594 : K)).divScalar (.fin mTotal)
  ⟨p1Com,p2gCom,0,0,com,q⟩

def computeSystemCoMUavArmV4 (a : ArmKinematics K) (q : Joints (Flt K)) : Vector3 (Flt K) × ArmKinematics K :=
  let positions := positionsUavArmV4 q
  (positions.com,{a with cached := positions})

def computeSystemCoMUamV5 (a : ArmKinematics K) (q : Joints (Flt K)) : Vector3 (Flt K) × ArmKinematics K :=
  let positions := positionsUamV5 q
  (fluToFrdVector positions.com,{a with cached := positions, uamV5CacheValid := true})

def computeSystemCoM (a : ArmKinematics K) (q : Joints (Flt K)) : Vector3 (Flt K) × ArmKinematics K :=
  match a.modelProfile with
  | .uamV5 => a.computeSystemCoMUamV5 q
  | .uavArmV4 => a.computeSystemCoMUavArmV4 q

def moved (q cachedQ : Flt K) : Bool := decide ((q-cachedQ).abs > .fin 0.000001)

def refreshesUavArmV4 (a : ArmKinematics K) (q : Joints (Flt K)) : Bool :=
  moved q.q0 a.cached.q.q0 || moved q.q1 a.cached.q.q1 || moved q.q2 a.cached.q.q2 || moved q.q3 a.cached.q.q3

def refreshesUamV5 (a : ArmKinematics K) (q : Joints (Flt K)) : Bool :=
  moved q.q0 a.cached.q.q0 || moved q.q1 a.cached.q.q1 || !a.uamV5CacheValid

def computeSystemInertiaUavArmV4 (a : ArmKinematics K) (q : Joints (Flt K)) : Matrix3 (Flt K) × ArmKinematics K :=
  let a := if a.refreshesUavArmV4 q then (a.computeSystemCoM q).2 else a
  (inertiaUavArmV4 a.baseInertiaVal a.cached q,a)

def computeSystemInertiaUamV5 (a : ArmKinematics K) (q : Joints (Flt K)) : Matrix3 (Flt K) × ArmKinematics K :=
  let a := if a.refreshesUamV5 q then (a.computeSystemCoMUamV5 q).2 else a
  (inertiaUamV5 a.cached q,a)

def computeSystemInertia (a : ArmKinematics K) (q : Joints (Flt K)) : Matrix3 (Flt K) × ArmKinematics K :=
  match a.modelProfile with
  | .uamV5 => a.computeSystemInertiaUamV5 q
  | .uavArmV4 => a.computeSystemInertiaUavArmV4 q

end
end ArmKinematics
end AerialManipulator
