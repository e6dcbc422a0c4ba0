import Uam.JointStateBridge
import Uam.ArmJointAggregation

/-! Joint states through the node, the receiver and the aggregating module, on one clock. The run
carries the messages received and whether the joint state was fresh when a key was last sent. -/
namespace AerialManipulator
open Numeric CString ArmJointBridge JointStateBridge Runs
open BitVec (le_refl le_trans)
variable {K : Type*}

inductive Quantity where
  | position
  | velocity
  deriving DecidableEq

namespace Quantity

def member : Quantity → Joint → Member
  | position,joint => .q joint.slot
  | velocity,joint => .dq joint.slot

def held (b : JointStateBridge K) : Quantity → Joint → Flt K
  | position => b.jointPositions
  | velocity => b.jointVelocities

def published (msg : ArmJointStates K) : Quantity → Joint → Flt K
  | position,joint => msg.q joint.slot
  | velocity,joint => msg.dq joint.slot

def reading [Field K] (offsets : Joint → Flt K) (msg : JointState K) : Quantity → Joint → Option (Flt K)
  | position,joint => (msg.raw joint).map fun raw => raw.1-offsets joint
  | velocity,joint => (msg.raw joint).map Prod.snd

end Quantity

abbrev Receipt (K : Type*) := JointState K × HrtAbstime

inductive LinkEvent (K : Type*) where
  | jointState (msg : JointState K) (now : HrtAbstime)
  | spin (now : HrtAbstime)
  | publish (now : HrtAbstime)

def LinkEvent.time : LinkEvent K → HrtAbstime
  | jointState _ now => now
  | spin now => now
  | publish now => now

structure Link (K : Type*) where
  bridge : JointStateBridge K
  module : ArmJointBridge K
  received : List (Receipt K)
  sentFresh : Member → Bool
  clock : HrtAbstime
  stamp : HrtAbstime

def messageMember (i : Fin 9) : Member :=
  [.q Joint.armJoint1.slot,.q Joint.armJoint2.slot,.q Joint.leftHandJoint.slot,.q Joint.unusedSlot,
    .dq Joint.armJoint1.slot,.dq Joint.armJoint2.slot,.dq Joint.leftHandJoint.slot,.dq Joint.unusedSlot].getD i .valid

namespace Link
variable [Field K]

def init (timeout : Int) (offsets : Joint → Flt K) : Link K where
  bridge := .init timeout offsets
  module := .init
  received := []
  sentFresh _ := false
  clock := 0
  stamp := 0

def deliver (module : ArmJointBridge K) (message : List Char × Flt K) (now : HrtAbstime) : ArmJointBridge K :=
  module.processDebugMessage (handleMessageNamedValueFloat (namedValueName message.1) message.2 now)

variable [LinearOrder K]

def step (l : Link K) (event : LinkEvent K) : Link K :=
  match event with
  | .jointState msg now =>
    { l with bridge := l.bridge.jointStateCb msg now, received := (msg,now)::l.received, clock := now,
             stamp := effectiveStamp msg now }
  | .spin now =>
    { l with bridge := (l.bridge.spin now).2, module := deliver l.module (l.bridge.spin now).1 now, clock := now,
             sentFresh := Function.update l.sentFresh (messageMember l.bridge.messageIndex)
               (l.bridge.jointStateFresh now) }
  | .publish now => {l with module := (l.module.publishJointStates now).2, clock := now}

def InOrder (l : Link K) (event : LinkEvent K) : Prop :=
  l.clock ≤ event.time ∧ match event with
    | .jointState msg now => l.stamp ≤ effectiveStamp msg now
    | _ => True

instance (l : Link K) : (event : LinkEvent K) → Decidable (InOrder l event)
  | .jointState msg now => inferInstanceAs (Decidable (l.clock ≤ now ∧ l.stamp ≤ effectiveStamp msg now))
  | .spin now => inferInstanceAs (Decidable (l.clock ≤ now ∧ True))
  | .publish now => inferInstanceAs (Decidable (l.clock ≤ now ∧ True))

/-- Valid joint data is no older than the node's timeout and the module's 200 ms together. -/
def FreshWhenValid (l : Link K) : LinkEvent K → Prop
  | .publish now =>
    let msg := (l.module.publishJointStates now).1
    msg.valid = true → ∀ quantity joint, ∃ receipt ∈ l.received,
      (now.toNat : Int) ≤ (effectiveStamp receipt.1 receipt.2).toNat+l.bridge.timeout+200000 ∧
      ∃ value, Quantity.reading l.bridge.positionOffsets receipt.1 quantity joint = some value ∧
        Quantity.published msg quantity joint = namedValue value
  | _ => True

/-- The flag is only raised if the joint state was fresh when each value was last sent. -/
def FreshRotation (l : Link K) : LinkEvent K → Prop
  | .spin now => messageMember l.bridge.messageIndex = .valid → l.bridge.jointStateFresh now = true →
      ∀ quantity joint, l.sentFresh (Quantity.member quantity joint) = true
  | _ => True

end Link

section
variable [Field K]

omit [Field K] in
lemma text_sent (i : Fin 9) (value : Flt K) (now : HrtAbstime) :
    text (handleMessageNamedValueFloat (namedValueName (messageKeys i)) value now).key.toList =
      (messageMember i).key := by
  have found : ∀ i, text ((namedValueName (messageKeys i)).set 9 0).toList = (messageMember i).key := by decide
  exact found i

section
variable (b : JointStateBridge K)
include b

lemma values_of_member (now : HrtAbstime) {kind : Quantity}
    (key : messageMember i = kind.member joint) : b.values now i = kind.held b joint := by
  cases kind <;> cases joint <;> match i with
  | 0 | 1 | 2 | 3 | 4 | 5 | 6 | 7 | 8 => first | rfl | exact absurd key (by decide)

lemma values_of_valid (now : HrtAbstime) (key : messageMember i = .valid) :
    b.values now i = if b.jointStateFresh now then 1 else 0 := by
  match i with
  | 0 | 1 | 2 | 3 | 4 | 5 | 6 | 7 => exact absurd key (by decide)
  | 8 => rfl

section
variable (msg : JointState K) (stamp : HrtAbstime) (joints : List Joint)
include msg stamp joints

lemma readJoints_frame : (b.readJoints msg stamp joints).timeout = b.timeout ∧
      (b.readJoints msg stamp joints).positionOffsets = b.positionOffsets ∧
      (b.readJoints msg stamp joints).messageIndex = b.messageIndex := by
  induction joints generalizing b with
  | nil => exact ⟨rfl,rfl,rfl⟩
  | cons joint rest ih =>
    unfold readJoints
    split
    · split
      · exact ⟨rfl,rfl,rfl⟩
      · exact ih _
    · exact ⟨rfl,rfl,rfl⟩

lemma readJoints_held (kind : Quantity) (joint : Joint) :
    kind.held (b.readJoints msg stamp joints) joint = kind.held b joint ∨
      kind.reading b.positionOffsets msg joint = some (kind.held (b.readJoints msg stamp joints) joint) := by
  induction joints generalizing b with
  | nil => cases kind <;> exact .inl rfl
  | cons first rest ih =>
    unfold readJoints
    split
    next rawPosition rawVelocity raw =>
      split
      · cases kind <;> exact .inl rfl
      rcases ih _ with kept | taken
      · rw [kept]
        by_cases same : joint = first
        · subst same
          right
          cases kind <;> simp [Quantity.held,Quantity.reading,raw]
        · left
          cases kind <;> simp [Quantity.held,same]
      · exact .inr taken
    · exact .inl rfl

lemma readJoints_complete (known : ∀ joint ∈ joints, (msg.raw joint).isSome)
    (complete : (b.readJoints msg stamp joints).jointStateComplete) :
    (b.readJoints msg stamp joints).latestStamp = some stamp ∧ ∀ (kind : Quantity), ∀ joint ∈ joints,
      kind.reading b.positionOffsets msg joint = some (kind.held (b.readJoints msg stamp joints) joint) := by
  induction joints generalizing b with
  | nil => exact ⟨rfl,by simp⟩
  | cons first rest ih =>
    obtain ⟨⟨rawPosition,rawVelocity⟩,raw⟩ := Option.isSome_iff_exists.mp (known first (by simp))
    by_cases lost : (!rawPosition.isFinite || !rawVelocity.isFinite) = true
    · simp only [readJoints,raw,if_pos lost] at complete
      exact absurd complete Bool.false_ne_true
    simp only [readJoints,raw,if_neg lost] at complete ⊢
    obtain ⟨stamped,taken⟩ := ih _ (fun joint member => known joint (by simp [member])) complete
    refine ⟨stamped,fun kind joint member => ?_⟩
    rcases List.mem_cons.mp member with rfl | member
    · rcases readJoints_held _ msg stamp rest kind joint with kept | taken
      · rw [kept]
        cases kind <;> simp [Quantity.held,Quantity.reading,raw]
      · exact taken
    · exact taken kind joint member

end

lemma jointStateCb_frame (msg : JointState K) (now : HrtAbstime) : (b.jointStateCb msg now).timeout = b.timeout ∧
      (b.jointStateCb msg now).positionOffsets = b.positionOffsets ∧
      (b.jointStateCb msg now).messageIndex = b.messageIndex := by
  unfold jointStateCb
  dsimp only
  split
  · exact ⟨rfl,rfl,rfl⟩
  · exact readJoints_frame _ msg _ _

lemma jointStateCb_held (msg : JointState K) (now : HrtAbstime) (kind : Quantity)
    (joint : Joint) : kind.held (b.jointStateCb msg now) joint = kind.held b joint ∨
      kind.reading b.positionOffsets msg joint = some (kind.held (b.jointStateCb msg now) joint) := by
  unfold jointStateCb
  dsimp only
  split
  · cases kind <;> exact .inl rfl
  rcases readJoints_held _ msg (effectiveStamp msg now) Joint.required kind joint with kept | taken
  · left
    rw [kept]
    cases kind <;> rfl
  · exact .inr taken

lemma jointStateCb_complete (msg : JointState K) (now : HrtAbstime)
    (complete : (b.jointStateCb msg now).jointStateComplete) :
    (b.jointStateCb msg now).latestStamp = some (effectiveStamp msg now) ∧ ∀ (kind : Quantity) (joint : Joint),
      kind.reading b.positionOffsets msg joint = some (kind.held (b.jointStateCb msg now) joint) := by
  unfold jointStateCb at complete ⊢
  dsimp only at complete ⊢
  split at complete
  next missing => exact absurd complete (by simpa using missing)
  next found =>
    rw [if_neg found]
    have known : ∀ joint ∈ Joint.required, (msg.raw joint).isSome := by
      simpa only [Bool.not_eq_true,Bool.not_eq_false',List.all_eq_true] using found
    obtain ⟨stamped,taken⟩ := readJoints_complete _ msg (effectiveStamp msg now) Joint.required known complete
    exact ⟨stamped,fun kind joint => taken kind joint (by cases joint <;> decide)⟩

end

namespace Link

def Taken (l : Link K) (since : HrtAbstime) (quantity : Quantity) (joint : Joint) : Prop :=
  ∃ receipt ∈ l.received,
    (since.toNat : Int) ≤ (effectiveStamp receipt.1 receipt.2).toNat+l.bridge.timeout ∧
    ∃ value, quantity.reading l.bridge.positionOffsets receipt.1 joint = some value ∧
      l.module.value (quantity.member joint) = namedValue value

def HeldSince (l : Link K) (stamp : HrtAbstime) : Prop :=
  ∀ (quantity : Quantity) (joint : Joint), ∃ receipt ∈ l.received,
    stamp ≤ effectiveStamp receipt.1 receipt.2 ∧
    quantity.reading l.bridge.positionOffsets receipt.1 joint = some (quantity.held l.bridge joint)

variable [LinearOrder K]

structure Traceable (l : Link K) : Prop where
  past : ∀ m, l.module.timestamp m ≤ l.clock
  held : l.bridge.jointStateComplete = true →
    ∃ stamp, l.bridge.latestStamp = some stamp ∧ stamp ≤ l.stamp ∧ HeldSince l stamp
  sent : ∀ (quantity : Quantity) (joint : Joint), l.sentFresh (quantity.member joint) = true →
    Taken l (l.module.timestamp (quantity.member joint)) quantity joint
  flagged : .fin 0.5 < l.module.validValue →
    (∃ stamp, stamp ≤ l.stamp ∧ (l.module.validTimestamp.toNat : Int) ≤ stamp.toNat+l.bridge.timeout ∧
      HeldSince l stamp) ∧
    ∀ (quantity : Quantity) (joint : Joint),
      Taken l (l.module.timestamp (quantity.member joint)) quantity joint ∨
        Taken l l.module.validTimestamp quantity joint

lemma traceable_init (timeout : Int) (offsets : Joint → Flt K) [IsStrictOrderedRing K] :
    Traceable (init timeout offsets) := by
  refine ⟨?_,?_,?_,?_⟩
  · rintro (i | i | _) <;> exact le_refl _
  · simp [init,JointStateBridge.init]
  · simp [init]
  · intro raised
    have half : (0 : K) ≤ 0.5 := by norm_num
    exact absurd raised (not_lt.mpr half)

variable {l : Link K} {now : HrtAbstime}

lemma traceable_jointState (before : Traceable l) (msg : JointState K) (now : HrtAbstime)
    (ordered : InOrder l (.jointState msg now)) : Traceable (l.step (.jointState msg now)) := by
  obtain ⟨later,newer⟩ := ordered
  obtain ⟨timeout,offsets,-⟩ := jointStateCb_frame l.bridge msg now
  have taken : ∀ {since kind joint}, Taken l since kind joint →
      Taken (l.step (.jointState msg now)) since kind joint := by
    rintro since kind joint ⟨receipt,member,young,found⟩
    refine ⟨receipt,List.mem_cons_of_mem _ member,?_,?_⟩
    · simpa only [step,timeout] using young
    · simpa only [step,offsets] using found
  have held : ∀ {stamp}, stamp ≤ l.stamp → HeldSince l stamp → HeldSince (l.step (.jointState msg now)) stamp := by
    intro stamp older since kind joint
    rcases jointStateCb_held l.bridge msg now kind joint with kept | read
    · obtain ⟨receipt,member,young,found⟩ := since kind joint
      refine ⟨receipt,List.mem_cons_of_mem _ member,young,?_⟩
      simpa only [step,offsets,kept] using found
    · refine ⟨(msg,now),List.mem_cons_self,le_trans older newer,?_⟩
      simpa only [step,offsets] using read
  refine ⟨fun m => le_trans (before.past m) later,fun complete => ?_,
    fun kind joint fresh => taken (before.sent kind joint fresh),fun raised => ?_⟩
  · obtain ⟨stamped,read⟩ := jointStateCb_complete l.bridge msg now complete
    refine ⟨effectiveStamp msg now,stamped,le_refl _,fun kind joint => ?_⟩
    refine ⟨(msg,now),List.mem_cons_self,le_refl _,?_⟩
    simpa only [step,offsets] using read kind joint
  · obtain ⟨⟨stamp,older,young,since⟩,fields⟩ := before.flagged raised
    refine ⟨⟨stamp,le_trans older newer,?_,held older since⟩,
      fun kind joint => (fields kind joint).imp taken taken⟩
    simpa only [step,timeout] using young

omit [Field K] [LinearOrder K] in
lemma deliver_member (module : ArmJointBridge K) (i : Fin 9) (value : Flt K) (now : HrtAbstime) (m : Member) :
    (deliver module (messageKeys i,value) now).value m = (if messageMember i = m then value else module.value m) ∧
      (deliver module (messageKeys i,value) now).timestamp m =
        if messageMember i = m then now else module.timestamp m := by
  rw [deliver,(processDebugMessage_member ..).1,(processDebugMessage_member ..).2,text_sent]
  simp only [Member.key_injective.eq_iff]
  exact ⟨rfl,rfl⟩

lemma module_spin (l : Link K) (now : HrtAbstime) : (l.step (.spin now)).module = deliver l.module
    (messageKeys l.bridge.messageIndex,namedValue (l.bridge.values now l.bridge.messageIndex)) now := by
  rfl

lemma value_spin (l : Link K) (now : HrtAbstime) (m : Member) :
    (l.step (.spin now)).module.value m = if messageMember l.bridge.messageIndex = m then
      namedValue (l.bridge.values now l.bridge.messageIndex) else l.module.value m := by
  rw [module_spin,(deliver_member ..).1]

lemma timestamp_spin (l : Link K) (now : HrtAbstime) (m : Member) : (l.step (.spin now)).module.timestamp m =
      if messageMember l.bridge.messageIndex = m then now else l.module.timestamp m := by
  rw [module_spin,(deliver_member ..).2]

omit [LinearOrder K] in
lemma jointStateFresh_held (fresh : l.bridge.jointStateFresh now) (held : l.bridge.jointStateComplete →
      ∃ stamp, l.bridge.latestStamp = some stamp ∧ stamp ≤ l.stamp ∧ HeldSince l stamp) :
    ∃ stamp, stamp ≤ l.stamp ∧ (now.toNat : Int) ≤ stamp.toNat+l.bridge.timeout ∧ HeldSince l stamp := by
  simp only [jointStateFresh,Bool.and_eq_true] at fresh
  obtain ⟨stamp,found,older,since⟩ := held fresh.1
  refine ⟨stamp,older,?_,since⟩
  have young := fresh.2
  simp only [found,decide_eq_true_eq] at young
  omega

lemma taken_sent {since stamp : HrtAbstime} {kind : Quantity}
    (key : messageMember l.bridge.messageIndex = kind.member joint)
    (young : (since.toNat : Int) ≤ stamp.toNat+l.bridge.timeout) (held : HeldSince l stamp) :
    Taken (l.step (.spin now)) since kind joint := by
  obtain ⟨receipt,member,newer,read⟩ := held kind joint
  refine ⟨receipt,member,?_,_,read,?_⟩
  · have later : stamp.toNat ≤ (effectiveStamp receipt.1 receipt.2).toNat := newer
    change (since.toNat : Int) ≤ (effectiveStamp receipt.1 receipt.2).toNat+l.bridge.timeout
    omega
  · rw [value_spin,if_pos key,values_of_member _ _ key]

lemma taken_other {kind : Quantity}
    (key : messageMember l.bridge.messageIndex ≠ kind.member joint) (taken : Taken l since kind joint) :
    Taken (l.step (.spin now)) since kind joint := by
  obtain ⟨receipt,member,young,value,read,found⟩ := taken
  exact ⟨receipt,member,young,value,read,by rw [value_spin,if_neg key,found]⟩

lemma jointStateFresh_of_raised [IsStrictOrderedRing K] {b : JointStateBridge K}
    (key : messageMember i = .valid) (raised : .fin 0.5 < namedValue (b.values now i)) :
    b.jointStateFresh now := by
  by_contra stale
  have half : (0 : K) ≤ 0.5 := by norm_num
  simp [values_of_valid b now key,namedValue,stale,not_lt.mpr half] at raised

lemma flagged_spin [IsStrictOrderedRing K] (before : Traceable l) (now : HrtAbstime)
    (rotation : FreshRotation l (.spin now)) (raised : .fin 0.5 < (l.step (.spin now)).module.value .valid) :
    (∃ stamp, stamp ≤ l.stamp ∧
      (((l.step (.spin now)).module.timestamp .valid).toNat : Int) ≤ stamp.toNat+l.bridge.timeout ∧
      HeldSince l stamp) ∧
    ∀ (kind : Quantity) (joint : Joint),
      Taken (l.step (.spin now)) ((l.step (.spin now)).module.timestamp (kind.member joint)) kind joint ∨
        Taken (l.step (.spin now)) ((l.step (.spin now)).module.timestamp .valid) kind joint := by
  rw [value_spin] at raised
  rw [timestamp_spin]
  by_cases key : messageMember l.bridge.messageIndex = .valid
  · rw [if_pos key] at raised ⊢
    have judged := jointStateFresh_of_raised key raised
    refine ⟨jointStateFresh_held judged before.held,fun kind joint => ?_⟩
    have other : messageMember l.bridge.messageIndex ≠ kind.member joint := by
      rw [key]
      cases kind <;> simp [Quantity.member]
    left
    rw [timestamp_spin,if_neg other]
    exact taken_other other (before.sent kind joint (rotation key judged kind joint))
  · rw [if_neg key] at raised ⊢
    obtain ⟨⟨stamp,older,young,held⟩,fields⟩ := before.flagged raised
    refine ⟨⟨stamp,older,young,held⟩,fun kind joint => ?_⟩
    by_cases own : messageMember l.bridge.messageIndex = kind.member joint
    · exact .inr (taken_sent own young held)
    · rw [timestamp_spin,if_neg own]
      exact (fields kind joint).imp (taken_other own) (taken_other own)

lemma traceable_spin [IsStrictOrderedRing K] (before : Traceable l) (now : HrtAbstime)
    (ordered : InOrder l (.spin now)) (rotation : FreshRotation l (.spin now)) :
    Traceable (l.step (.spin now)) := by
  have later : l.clock ≤ now := ordered.1
  refine ⟨fun m => ?_,before.held,fun kind joint fresh => ?_,flagged_spin before now rotation⟩
  · rw [timestamp_spin]
    split
    · exact le_refl _
    · exact le_trans (before.past m) later
  · rw [timestamp_spin]
    by_cases key : messageMember l.bridge.messageIndex = kind.member joint
    · have judged : l.bridge.jointStateFresh now := by simpa [step,key] using fresh
      obtain ⟨stamp,-,young,held⟩ := jointStateFresh_held judged before.held
      rw [if_pos key]
      exact taken_sent key young held
    · rw [if_neg key]
      refine taken_other key (before.sent kind joint ?_)
      simpa [step,Ne.symm key] using fresh

lemma traceable_publish (before : Traceable l) (now : HrtAbstime)
    (ordered : InOrder l (.publish now)) : Traceable (l.step (.publish now)) := by
  refine ⟨fun m => ?_,before.held,before.sent,before.flagged⟩
  exact le_trans (before.past m) ordered.1

lemma traceable_step [IsStrictOrderedRing K] (l : Link K) (event : LinkEvent K)
    (admitted : InOrder l event ∧ FreshRotation l event) (before : Traceable l) : Traceable (l.step event) := by
  cases event with
  | jointState msg now => exact traceable_jointState before msg now admitted.1
  | spin now => exact traceable_spin before now admitted.1 admitted.2
  | publish now => exact traceable_publish before now admitted.1

lemma published_eq_value (l : Link K) (now : HrtAbstime) (kind : Quantity) (joint : Joint) :
    kind.published (l.module.publishJointStates now).1 joint = l.module.value (kind.member joint) := by
  cases kind <;> rfl

lemma freshWhenValid_of_traceable (l : Link K) (event : LinkEvent K)
    (admitted : InOrder l event ∧ FreshRotation l event) (before : Traceable l) : FreshWhenValid l event := by
  cases event with
  | publish now =>
    intro valid kind joint
    obtain ⟨fresh,raised⟩ := (allFresh_iff l.module now).mp valid
    have recent : ∀ m, now.toNat ≤ (l.module.timestamp m).toNat+200000 := fun m =>
      ((fieldFresh_iff (le_trans (before.past m) admitted.1.1)).mp (fresh m)).2
    rw [published_eq_value]
    rcases (before.flagged raised).2 kind joint with taken | taken
    · obtain ⟨receipt,member,young,read⟩ := taken
      have sent := recent (kind.member joint)
      exact ⟨receipt,member,by omega,read⟩
    · obtain ⟨receipt,member,young,read⟩ := taken
      have sent : now.toNat ≤ l.module.validTimestamp.toNat+200000 := recent .valid
      exact ⟨receipt,member,by omega,read⟩
  | _ => trivial

/-- If the flag is only raised for values that were fresh when sent, valid joint data is fresh. -/
theorem fresh_when_valid_along_rotation [IsStrictOrderedRing K] (timeout : Int) (offsets : Joint → Flt K)
    (events : List (LinkEvent K)) (ordered : Along step InOrder (init timeout offsets) events)
    (rotation : Along step FreshRotation (init timeout offsets) events) :
    Along step FreshWhenValid (init timeout offsets) events :=
  along_of_invariant Traceable traceable_step freshWhenValid_of_traceable
    ((along_and _ _).mpr ⟨ordered,rotation⟩) (traceable_init timeout offsets)

def outstretched (stamp : HrtAbstime) : JointState K :=
  ⟨stamp,["arm_joint1","arm_joint2","left_hand_joint"],[1,1,1],[1,1,1]⟩

def cycles (start : HrtAbstime) (count : Nat) : List (LinkEvent K) :=
  (List.range count).map fun i => .spin (start + BitVec.ofNat 64 (5000 * i))

theorem fresh_after_early_state : (((.jointState (outstretched 1000#64) 1000#64::cycles 5000#64 9).foldl step
      (init 200000 fun _ => 0 : Link ℚ)).module.publishJointStates 46000#64).1.valid = true ∧
    Along step FreshWhenValid (init 200000 fun _ => 0 : Link ℚ)
      (.jointState (outstretched 1000#64) 1000#64::cycles 5000#64 9 ++ [.publish 46000#64]) := by
  refine ⟨by decide +kernel,fresh_when_valid_along_rotation 200000 (fun _ => 0) _ (by decide +kernel) ?_⟩
  have value : ∀ {l : Link ℚ} {now}, messageMember l.bridge.messageIndex ≠ .valid → FreshRotation l (.spin now) :=
    fun other key => absurd key other
  refine ⟨trivial,value ?_,value ?_,value ?_,value ?_,value ?_,value ?_,value ?_,value ?_,?_,trivial,trivial⟩
  all_goals try decide +kernel
  intro _ _ quantity joint
  cases quantity <;> cases joint <;> decide +kernel

/-- A joint state between the last value and the flag: the values sent before it are published as valid. -/
theorem stale_after_late_state : Along step InOrder (init 200000 fun _ => 0 : Link ℚ)
      (cycles 5000#64 8 ++ [.jointState (outstretched 42000#64) 42000#64,.spin 45000#64,.publish 46000#64]) ∧
    ¬ Along step FreshWhenValid (init 200000 fun _ => 0 : Link ℚ)
      (cycles 5000#64 8 ++ [.jointState (outstretched 42000#64) 42000#64,.spin 45000#64,.publish 46000#64]) := by
  refine ⟨by decide +kernel,fun fresh => ?_⟩
  have published := ((along_append _ _ _).mp fresh).2.2.2.1
  obtain ⟨receipt,member,-,value,read,same⟩ := published (by decide +kernel) .position .armJoint1
  obtain rfl : receipt = (outstretched 42000#64,42000#64) := List.mem_singleton.mp member
  have carried : Quantity.reading (fun _ => 0) (outstretched 42000#64 : JointState ℚ) .position .armJoint1 =
      some (.fin 1) := by
    decide +kernel
  obtain rfl : .fin 1 = value := Option.some.inj (carried.symm.trans read)
  revert same
  decide +kernel

end Link
end
end AerialManipulator
