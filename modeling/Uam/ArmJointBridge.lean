import Uam.Library.CString
import Uam.Library.Flt
import Uam.Hysteresis
import Mathlib.Data.UInt

/-! The module that gathers named values into `arm_joint_states`: nine fields with time
stamps, valid while all are fresh. -/
namespace AerialManipulator
open Numeric CString
variable {K : Type*}

/-- `debug_key_value`; the key need not be terminated. -/
structure DebugKeyValue (K : Type*) where
  timestamp : HrtAbstime
  key : Vector UInt8 10
  value : Flt K

structure ArmJointStates (K : Type*) where
  timestamp : HrtAbstime
  q : Fin 4 → Flt K
  dq : Fin 4 → Flt K
  valid : Bool

structure ArmJointBridge (K : Type*) where
  q : Fin 4 → Flt K
  dq : Fin 4 → Flt K
  qTimestamp : Fin 4 → HrtAbstime
  dqTimestamp : Fin 4 → HrtAbstime
  validValue : Flt K
  validTimestamp : HrtAbstime
  lastPublish : HrtAbstime

namespace ArmJointBridge

def publishInterval : HrtAbstime := 20000#64

def fieldTimeout : HrtAbstime := 200000#64

def ajq : List UInt8 := ['A','J','Q'].map Char.toUInt8
def ajd : List UInt8 := ['A','J','D'].map Char.toUInt8
def ajval : List UInt8 := ['A','J','V','A','L'].map Char.toUInt8

def fieldFresh (timestamp now : HrtAbstime) : Bool :=
  timestamp ≠ 0 && now-timestamp ≤ fieldTimeout

lemma index_lt (low : '0'.toUInt8 ≤ c) (high : c ≤ '3'.toUInt8) : (c - '0'.toUInt8).toNat < 4 := by
  have zero : '0'.toUInt8.toNat = 48 := by decide
  have three : '3'.toUInt8.toNat = 51 := by decide
  rw [UInt8.toNat_sub_of_le _ _ low,zero]
  rw [UInt8.le_iff_toNat_le,three] at high
  omega

/-- The digit behind a stem of three letters, if the key is one of its four keys. -/
def indexOf (stem : List UInt8) (key : Vector UInt8 10) : Option (Fin 4) :=
  if accepted : strncmp key.toList stem 3 ∧ '0'.toUInt8 ≤ key[3] ∧ key[3] ≤ '3'.toUInt8 ∧ key[4] = 0 then
    some ⟨(key[3] - '0'.toUInt8).toNat,index_lt accepted.2.1 accepted.2.2.1⟩
  else none

def processDebugMessage (b : ArmJointBridge K) (msg : DebugKeyValue K) : ArmJointBridge K :=
  match indexOf ajq msg.key with
  | some index =>
    { b with q := Function.update b.q index msg.value,
             qTimestamp := Function.update b.qTimestamp index msg.timestamp }
  | none =>
    match indexOf ajd msg.key with
    | some index =>
      { b with dq := Function.update b.dq index msg.value,
               dqTimestamp := Function.update b.dqTimestamp index msg.timestamp }
    | none =>
      if strcmp msg.key.toList ajval then {b with validValue := msg.value, validTimestamp := msg.timestamp} else b

section
variable [Field K]

def init : ArmJointBridge K where
  q _ := 0
  dq _ := 0
  qTimestamp _ := 0
  dqTimestamp _ := 0
  validValue := 0
  validTimestamp := 0
  lastPublish := 0

variable [LinearOrder K]

def allFresh (b : ArmJointBridge K) (now : HrtAbstime) : Bool :=
  (List.finRange 4).foldl
    (fun fresh i => fresh && fieldFresh (b.qTimestamp i) now && fieldFresh (b.dqTimestamp i) now)
    (fieldFresh b.validTimestamp now && decide (b.validValue > .fin 0.5))

def publishJointStates (b : ArmJointBridge K) (now : HrtAbstime) : ArmJointStates K × ArmJointBridge K :=
  (⟨now,b.q,b.dq,b.allFresh now⟩,{b with lastPublish := now})

/-- What a run finds: a new message, if any, and the clock at the test of the interval and at the publication. -/
structure Wake (K : Type*) where
  debugMsg : Option (DebugKeyValue K)
  now : HrtAbstime
  publishNow : HrtAbstime

def receive (b : ArmJointBridge K) : Option (DebugKeyValue K) → ArmJointBridge K
  | some msg => b.processDebugMessage msg
  | none => b

def publishDue (b : ArmJointBridge K) (now : HrtAbstime) : Bool :=
  b.lastPublish = 0 || publishInterval ≤ now-b.lastPublish

def run (b : ArmJointBridge K) (wake : Wake K) : Option (ArmJointStates K) × ArmJointBridge K :=
  let b := b.receive wake.debugMsg
  if b.publishDue wake.now then
    let (msg,b) := b.publishJointStates wake.publishNow
    (some msg,b)
  else (none,b)

end
end ArmJointBridge
end AerialManipulator
