import Uam.ArmJointBridge

/-! The node that turns joint states into named values, one key of nine in each cycle, and the
receiver of `debug_key_value`. -/
namespace AerialManipulator
open Numeric
variable {K : Type*}

inductive Joint where
  | armJoint1
  | armJoint2
  | leftHandJoint
  deriving DecidableEq, Repr

namespace Joint

def name : Joint → String
  | armJoint1 => "arm_joint1"
  | armJoint2 => "arm_joint2"
  | leftHandJoint => "left_hand_joint"

def required : List Joint := [armJoint1,armJoint2,leftHandJoint]

def slot : Joint → Fin 4
  | armJoint1 => 0
  | armJoint2 => 1
  | leftHandJoint => 2

def unusedSlot : Fin 4 := 3

end Joint

/-- What the node reads of a joint state; a zero stamp is an unset one. -/
structure JointState (K : Type*) where
  stamp : HrtAbstime
  name : List String
  position : List (Flt K)
  velocity : List (Flt K)

structure JointStateBridge (K : Type*) where
  timeout : Int
  positionOffsets : Joint → Flt K
  latestStamp : Option HrtAbstime
  jointPositions : Joint → Flt K
  jointVelocities : Joint → Flt K
  jointStateComplete : Bool
  messageIndex : Fin 9

namespace JointState

/-- The dictionary keeps the last index of a name. -/
def jointToIndex (msg : JointState K) (joint : Joint) : Option Nat :=
  ((msg.name.zipIdx.filter fun entry => entry.1 = joint.name).getLast?).map Prod.snd

variable [Field K]

def raw (msg : JointState K) (joint : Joint) : Option (Flt K × Flt K) :=
  (msg.jointToIndex joint).map fun idx => (msg.position.getD idx 0,msg.velocity.getD idx 0)

end JointState

namespace JointStateBridge

def messageKeys : Fin 9 → List Char
  | 0 => ['A','J','Q','0']
  | 1 => ['A','J','Q','1']
  | 2 => ['A','J','Q','2']
  | 3 => ['A','J','Q','3']
  | 4 => ['A','J','D','0']
  | 5 => ['A','J','D','1']
  | 6 => ['A','J','D','2']
  | 7 => ['A','J','D','3']
  | 8 => ['A','J','V','A','L']

def jointStateFresh (b : JointStateBridge K) (now : HrtAbstime) : Bool :=
  b.jointStateComplete && match b.latestStamp with
    | some stamp => decide ((now.toNat : Int)-stamp.toNat ≤ b.timeout)
    | none => false

section
variable [Field K]

def init (timeout : Int) (positionOffsets : Joint → Flt K) : JointStateBridge K where
  timeout := timeout
  positionOffsets := positionOffsets
  latestStamp := none
  jointPositions _ := 0
  jointVelocities _ := 0
  jointStateComplete := false
  messageIndex := 0

/-- The loop over the required joints; at a value that is not finite it returns, the joints before written. -/
def readJoints (b : JointStateBridge K) (msg : JointState K) (stamp : HrtAbstime) : List Joint → JointStateBridge K
  | [] => {b with latestStamp := some stamp}
  | joint::rest =>
    match msg.raw joint with
    | some (rawPosition,rawVelocity) =>
      if !rawPosition.isFinite || !rawVelocity.isFinite then {b with jointStateComplete := false}
      else
        readJoints { b with
          jointPositions := Function.update b.jointPositions joint (rawPosition-b.positionOffsets joint),
          jointVelocities := Function.update b.jointVelocities joint rawVelocity } msg stamp rest
    | none => b

def effectiveStamp (msg : JointState K) (now : HrtAbstime) : HrtAbstime :=
  if msg.stamp ≠ 0 then msg.stamp else now

def jointStateCb (b : JointStateBridge K) (msg : JointState K) (now : HrtAbstime) : JointStateBridge K :=
  let b := {b with jointStateComplete := Joint.required.all fun joint => (msg.raw joint).isSome}
  if !b.jointStateComplete then b else b.readJoints msg (effectiveStamp msg now) Joint.required

def values (b : JointStateBridge K) (now : HrtAbstime) : Fin 9 → Flt K
  | 0 => b.jointPositions .armJoint1
  | 1 => b.jointPositions .armJoint2
  | 2 => b.jointPositions .leftHandJoint
  | 3 => 0
  | 4 => b.jointVelocities .armJoint1
  | 5 => b.jointVelocities .armJoint2
  | 6 => b.jointVelocities .leftHandJoint
  | 7 => 0
  | 8 => if b.jointStateFresh now then 1 else 0

def namedValue (value : Flt K) : Flt K := if value.isFinite then value else 0

def spin (b : JointStateBridge K) (now : HrtAbstime) : (List Char × Flt K) × JointStateBridge K :=
  ((messageKeys b.messageIndex,namedValue (b.values now b.messageIndex)),
    {b with messageIndex := b.messageIndex+1})

end
end JointStateBridge

def namedValueName (key : List Char) : Vector UInt8 10 :=
  Vector.ofFn fun i => ((key.map Char.toUInt8).getD i 0)

def handleMessageNamedValueFloat (name : Vector UInt8 10) (value : Flt K) (now : HrtAbstime) : DebugKeyValue K where
  timestamp := now
  key := name.set 9 0
  value := value

end AerialManipulator
