import Mathlib.Data.BitVec

/-! A uORB topic: a ring of messages addressed by a generation counter of 32 bits, and a
subscription with the generation it reads next. Both wrap around. -/
namespace AerialManipulator

structure DeviceNode (α : Type*) where
  data : Option (Nat → α)
  dataValid : Bool
  generation : BitVec 32
  advertised : Bool
  queueSize : BitVec 8

namespace DeviceNode
variable {α : Type*}

def roundPowOfTwo8 (n : BitVec 8) : BitVec 8 :=
  if n = 0 then 1
  else
    let value := n-1
    let value := value ||| value >>> 1
    let value := value ||| value >>> 2
    let value := value ||| value >>> 4
    let value := if value = 255 then value >>> 1 else value
    value+1

def create (queueSize : BitVec 8) (generation : BitVec 32) : DeviceNode α :=
  ⟨none,false,generation,true,roundPowOfTwo8 queueSize⟩

def slot (node : DeviceNode α) (generation : BitVec 32) : Nat := generation.toNat % node.queueSize.toNat

def write [Inhabited α] (node : DeviceNode α) (buffer : α) : DeviceNode α :=
  let data := node.data.getD fun _ => default
  { node with
    data := some (Function.update data (node.slot node.generation) buffer)
    generation := node.generation+1
    dataValid := true }

def isInRange (left value right : BitVec 32) : Bool :=
  if right > left then decide (left ≤ value) && decide (value ≤ right)
  else decide (left ≤ value) || decide (value ≤ right)

def updatesAvailable (node : DeviceNode α) (generation : BitVec 32) : BitVec 32 := node.generation-generation

def getInitialGeneration (node : DeviceNode α) : BitVec 32 := node.generation-if node.dataValid then 1 else 0

def copy (node : DeviceNode α) (generation : BitVec 32) : Option (α × BitVec 32) :=
  node.data.map fun data =>
    if node.queueSize = 1 then (data 0,node.generation)
    else
      let queueSize := node.queueSize.setWidth 32
      let generation := if node.generation = generation then generation-1 else generation
      let generation :=
        if !isInRange (node.generation-queueSize) generation (node.generation-1) then node.generation-queueSize
        else generation
      (data (node.slot generation),generation+1)

def orbDataCopy (node : DeviceNode α) (generation : BitVec 32) (onlyIfUpdated : Bool) : Option (α × BitVec 32) :=
  if !node.advertised then none
  else if onlyIfUpdated && decide (node.updatesAvailable generation = 0) then none
  else node.copy generation

end DeviceNode

structure Subscription where
  lastGeneration : BitVec 32

namespace Subscription
variable {α : Type*}

def subscribe (node : DeviceNode α) : Subscription := ⟨node.getInitialGeneration⟩

def update (s : Subscription) (node : DeviceNode α) : Option α × Subscription :=
  (node.orbDataCopy s.lastGeneration true).elim (none,s) fun copied => (some copied.1,⟨copied.2⟩)

end Subscription
end AerialManipulator
