import Uam.OrbQueue

/-! Changing the instance of a subscription. Nodes are never deleted: one is known by topic and instance. -/
namespace AerialManipulator
variable {ι α : Type}

def orbMultiMaxInstances : Nat := 10

structure DeviceMaster (ι α : Type) where
  node : ι → UInt8 → Option (DeviceNode α)

namespace DeviceMaster

def deviceNodeExists (m : DeviceMaster ι α) (id : Option ι) (index : UInt8) : Bool :=
  id.elim false fun topic => if index.toNat > orbMultiMaxInstances-1 then false else (m.node topic index).isSome

def getDeviceNode (m : DeviceMaster ι α) (id : Option ι) (index : UInt8) : Option (DeviceNode α) :=
  if !m.deviceNodeExists id index then none else id.bind fun topic => m.node topic index

lemma getDeviceNode_of_exists {m : DeviceMaster ι α} {id : Option ι} {index : UInt8}
    (present : m.deviceNodeExists id index) : ∃ node, m.getDeviceNode id index = some node := by
  cases id with
  | none => cases present
  | some topic =>
    rw [getDeviceNode,present]
    rw [deviceNodeExists,Option.elim_some] at present
    split at present
    · cases present
    · exact Option.isSome_iff_exists.mp present

end DeviceMaster

structure OrbSubscription (ι : Type) where
  orbId : Option ι
  index : UInt8
  node : Option (ι × UInt8)
  lastGeneration : BitVec 32

namespace OrbSubscription

def subscribe (m : DeviceMaster ι α) (s : OrbSubscription ι) : Bool × OrbSubscription ι :=
  if s.node.isSome then (true,s)
  else (m.getDeviceNode s.orbId s.index).elim (false,s) fun node =>
    (true,{s with node := s.orbId.map (·,s.index), lastGeneration := node.getInitialGeneration})

def unsubscribe (s : OrbSubscription ι) : OrbSubscription ι := {s with node := none, lastGeneration := 0}

/-- The node that is looked for is that of the present instance. -/
def changeInstance (m : DeviceMaster ι α) (s : OrbSubscription ι) (index : UInt8) : Bool × OrbSubscription ι :=
  if index ≠ s.index then
    if m.deviceNodeExists s.orbId s.index then (true,({s.unsubscribe with index := index}.subscribe m).2)
    else (false,s)
  else (true,s)

structure Changes (m : DeviceMaster ι α) (s : OrbSubscription ι) (index : UInt8) : Prop where
  returns : (s.changeInstance m index).1 = true ↔ index = s.index ∨ m.deviceNodeExists s.orbId index = true
  attached : index ≠ s.index → (s.changeInstance m index).1 = true → ∃ node, m.getDeviceNode s.orbId index = some node ∧
    (s.changeInstance m index).2 = ⟨s.orbId,index,s.orbId.map (·,index),node.getInitialGeneration⟩
  kept : (s.changeInstance m index).1 = false ∨ index = s.index → (s.changeInstance m index).2 = s

/-- The instance is changed as it should be exactly if a node of the present one says what one of the new would. -/
theorem changes_iff (m : DeviceMaster ι α) (s : OrbSubscription ι) (index : UInt8) :
    s.Changes m index ↔ index = s.index ∨ m.deviceNodeExists s.orbId s.index = m.deviceNodeExists s.orbId index := by
  by_cases same : index = s.index
  · have stays : s.changeInstance m index = (true,s) := if_neg (not_not.mpr same)
    simp only [same,true_or,iff_true]
    subst same
    exact ⟨by simp [stays],fun other => absurd rfl other,by simp [stays]⟩
  · simp only [same,false_or]
    cases current : m.deviceNodeExists s.orbId s.index with
    | false =>
      have refused : s.changeInstance m index = (false,s) := by rw [changeInstance,if_pos same,current]; rfl
      refine ⟨fun changes => ?_,fun missing => ⟨by simp [refused,same,← missing],by simp [refused],by simp [refused]⟩⟩
      have returns := changes.returns
      simp only [refused,same,false_or,Bool.false_eq_true,false_iff,Bool.not_eq_true] at returns
      exact returns.symm
    | true =>
      have moved : s.changeInstance m index = (true,({s.unsubscribe with index := index}.subscribe m).2) := by
        rw [changeInstance,if_pos same,current]; rfl
      constructor
      · intro changes
        exact (((changes.returns.mp (congrArg Prod.fst moved)).resolve_left same)).symm
      intro present
      obtain ⟨node,found⟩ := DeviceMaster.getDeviceNode_of_exists present.symm
      refine ⟨by simp [moved,← present],fun _ _ => ⟨node,found,?_⟩,by simp [moved,same]⟩
      rw [moved,subscribe,unsubscribe]
      simp [found]

/-- With a node of the first instance only, the second is taken; without one, a node of the second is refused. -/
theorem changeInstance_misled :
    (let first : DeviceMaster Unit Unit := ⟨fun _ index => if index = 0 then some (.create 1 0) else none⟩
    first.deviceNodeExists (some ()) 1 = false ∧
      changeInstance first ⟨some (),0,some ((),0),3⟩ 1 = (true,⟨some (),1,none,0⟩)) ∧
    let second : DeviceMaster Unit Unit := ⟨fun _ index => if index = 1 then some (.create 1 0) else none⟩
    second.deviceNodeExists (some ()) 1 = true ∧
      changeInstance second ⟨some (),0,none,0⟩ 1 = (false,⟨some (),0,none,0⟩) := by
  exact ⟨⟨rfl,rfl⟩,rfl,rfl⟩

end OrbSubscription
end AerialManipulator
