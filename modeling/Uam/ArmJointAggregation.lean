import Uam.ArmJointBridge
import Mathlib.Data.List.Pairwise
import Mathlib.Data.Rat.Floor

/-! What the module publishes over every sequence of messages and publications, its nine members as one family. -/
namespace AerialManipulator.ArmJointBridge
open Numeric CString
variable {K : Type*}

inductive Member where
  | q (i : Fin 4)
  | dq (i : Fin 4)
  | valid
  deriving DecidableEq

def digit (i : Fin 4) : UInt8 := '0'.toUInt8+UInt8.ofNat i

namespace Member

def key : Member → List UInt8
  | q i => ajq ++ [digit i]
  | dq i => ajd ++ [digit i]
  | valid => ajval

lemma key_injective : Function.Injective key := by
  intro m n same
  rcases m with i | i | _ <;> rcases n with j | j | _
  all_goals revert same
  all_goals first | (revert i j; decide) | (revert i; decide) | (revert j; decide) | decide

end Member

def value (b : ArmJointBridge K) : Member → Flt K
  | .q i => b.q i
  | .dq i => b.dq i
  | .valid => b.validValue

def timestamp (b : ArmJointBridge K) : Member → HrtAbstime
  | .q i => b.qTimestamp i
  | .dq i => b.dqTimestamp i
  | .valid => b.validTimestamp

lemma toNat_digit (i : Fin 4) : (digit i).toNat = 48+i := by revert i; decide

lemma digit_iff (c : UInt8) (i : Fin 4) :
    ('0'.toUInt8 ≤ c ∧ c ≤ '3'.toUInt8) ∧ (c - '0'.toUInt8).toNat = i ↔ c = digit i := by
  have zero : '0'.toUInt8.toNat = 48 := by decide
  have three : '3'.toUInt8.toNat = 51 := by decide
  rw [← UInt8.toNat_inj,toNat_digit,UInt8.le_iff_toNat_le,UInt8.le_iff_toNat_le,zero,three]
  have small := i.isLt
  constructor
  · rintro ⟨⟨low,high⟩,index⟩
    rw [UInt8.toNat_sub_of_le _ _ (UInt8.le_iff_toNat_le.mpr (by omega)),zero] at index
    omega
  · intro known
    rw [UInt8.toNat_sub_of_le _ _ (UInt8.le_iff_toNat_le.mpr (by omega)),zero]
    omega

lemma indexOf_eq_some_iff (stem : List UInt8) (key : Vector UInt8 10) (i : Fin 4) (three : stem.length = 3)
    (proper : 0 ∉ stem) : indexOf stem key = some i ↔ text key.toList = stem ++ [digit i] := by
  have ending : (0 : UInt8) ∉ stem ++ [digit i] := by
    have nonzero : (0 : UInt8) ≠ digit i := by revert i; decide
    simp [proper,nonzero]
  have whole : key.toList.take 4 = key.toList.take 3 ++ [key[3]] := by
    rw [List.take_add_one]
    simp
  have last : key.toList.getD 4 0 = key[4] := by simp [List.getD]
  rw [text_eq_iff _ _ ending,List.length_append,three]
  simp only [List.length_singleton,whole,last]
  have split : key.toList.take 3 ++ [key[3]] = stem ++ [digit i] ↔ key.toList.take 3 = stem ∧ key[3] = digit i := by
    constructor
    · intro same
      exact ⟨List.append_inj_left' same rfl,by simpa using List.append_inj_right' same rfl⟩
    · rintro ⟨front,back⟩
      rw [front,back]
  rw [split,← digit_iff]
  have compared := strncmp_length_iff key.toList stem proper
  rw [three] at compared
  simp only [indexOf,compared,Option.dite_none_right_eq_some,Option.some.injEq,Fin.ext_iff,exists_prop]
  tauto

def write (b : ArmJointBridge K) (msg : DebugKeyValue K) : Member → ArmJointBridge K
  | .q i => { b with q := Function.update b.q i msg.value,
                     qTimestamp := Function.update b.qTimestamp i msg.timestamp }
  | .dq i => { b with dq := Function.update b.dq i msg.value,
                      dqTimestamp := Function.update b.dqTimestamp i msg.timestamp }
  | .valid => {b with validValue := msg.value, validTimestamp := msg.timestamp}

lemma write_member (b : ArmJointBridge K) (msg : DebugKeyValue K) (m n : Member) :
    (b.write msg m).value n = (if m = n then msg.value else b.value n) ∧
      (b.write msg m).timestamp n = if m = n then msg.timestamp else b.timestamp n := by
  rcases m with i | i | _ <;> rcases n with j | j | _ <;>
    simp [write,value,timestamp,Function.update_apply,eq_comm]

lemma indexOf_ajq (key : Vector UInt8 10) (i : Fin 4) : indexOf ajq key = some i ↔ text key.toList = (Member.q i).key :=
  indexOf_eq_some_iff ajq key i (by decide) (by decide)

lemma indexOf_ajd (key : Vector UInt8 10) (i : Fin 4) :
    indexOf ajd key = some i ↔ text key.toList = (Member.dq i).key :=
  indexOf_eq_some_iff ajd key i (by decide) (by decide)

lemma strcmp_ajval (key : Vector UInt8 10) : strcmp key.toList ajval ↔ text key.toList = Member.valid.key := by
  rw [strcmp_iff]
  rfl

section
variable (b : ArmJointBridge K) (msg : DebugKeyValue K)
include b msg

lemma processDebugMessage_cases :
    (∃ m : Member, text msg.key.toList = m.key ∧ b.processDebugMessage msg = b.write msg m) ∨
      (∀ m : Member, text msg.key.toList ≠ m.key) ∧ b.processDebugMessage msg = b := by
  cases first : indexOf ajq msg.key with
  | some i => exact .inl ⟨.q i,(indexOf_ajq _ _).mp first,by simp [processDebugMessage,first,write]⟩
  | none =>
    cases second : indexOf ajd msg.key with
    | some i => exact .inl ⟨.dq i,(indexOf_ajd _ _).mp second,by simp [processDebugMessage,first,second,write]⟩
    | none =>
      by_cases third : strcmp msg.key.toList ajval = true
      · exact .inl ⟨.valid,(strcmp_ajval _).mp third,by simp [processDebugMessage,first,second,third,write]⟩
      refine .inr ⟨?_,by simp [processDebugMessage,first,second,third]⟩
      rintro (i | i | _) same
      · simp [(indexOf_ajq _ _).mpr same] at first
      · simp [(indexOf_ajd _ _).mpr same] at second
      · exact third ((strcmp_ajval _).mpr same)

lemma processDebugMessage_member (n : Member) :
    (b.processDebugMessage msg).value n = (if text msg.key.toList = n.key then msg.value else b.value n) ∧
      (b.processDebugMessage msg).timestamp n =
        if text msg.key.toList = n.key then msg.timestamp else b.timestamp n := by
  rcases b.processDebugMessage_cases msg with ⟨m,same,written⟩ | ⟨other,kept⟩
  · simp only [written,same,Member.key_injective.eq_iff]
    exact write_member b msg m n
  · simp [kept,other n]

end

inductive Event (K : Type*) where
  | message (msg : DebugKeyValue K)
  | publish (now : HrtAbstime)

namespace Event

def time : Event K → HrtAbstime
  | message msg => msg.timestamp
  | publish now => now

def received : Event K → Option (DebugKeyValue K)
  | message msg => some msg
  | publish _ => none

end Event

def addressed (m : Member) (events : List (Event K)) : List (DebugKeyValue K) :=
  (events.filterMap Event.received).filter fun msg => text msg.key.toList = m.key

lemma addressed_message (m : Member) (before : List (Event K)) (msg : DebugKeyValue K) :
    addressed m (before ++ [.message msg]) =
      addressed m before ++ if text msg.key.toList = m.key then [msg] else [] := by
  by_cases same : text msg.key.toList = m.key <;> simp [addressed,Event.received,same]

lemma addressed_publish (m : Member) (before : List (Event K)) (now : HrtAbstime) :
    addressed m (before ++ [.publish now]) = addressed m before := by
  rw [addressed,List.filterMap_append]
  simp [addressed,Event.received,List.filterMap_cons]

def Fresh (now : HrtAbstime) (msg : DebugKeyValue K) : Prop :=
  msg.timestamp ≠ 0 ∧ now.toNat ≤ msg.timestamp.toNat+200000

section
variable [Field K]

def lastValue (m : Member) (events : List (Event K)) : Flt K :=
  (addressed m events).getLast?.elim 0 (·.value)

def lastTimestamp (m : Member) (events : List (Event K)) : HrtAbstime :=
  (addressed m events).getLast?.elim 0 (·.timestamp)

variable [LinearOrder K]

def step (b : ArmJointBridge K) : Event K → ArmJointBridge K
  | .message msg => b.processDebugMessage msg
  | .publish now => (b.publishJointStates now).2

lemma run_tracks (events : List (Event K)) (m : Member) : (events.foldl step init).value m = lastValue m events ∧
      (events.foldl step init).timestamp m = lastTimestamp m events := by
  refine Runs.foldl_history
    (fun events (b : ArmJointBridge K) => b.value m = lastValue m events ∧ b.timestamp m = lastTimestamp m events)
    ?_ (fun before event tracked => ?_) events
  · rcases m with i | i | _ <;> exact ⟨rfl,rfl⟩
  cases event with
  | message msg =>
    simp only [step,lastValue,lastTimestamp,addressed_message]
    rw [(processDebugMessage_member _ _ m).1,(processDebugMessage_member _ _ m).2,tracked.1,tracked.2]
    by_cases same : text msg.key.toList = m.key <;> simp [lastValue,lastTimestamp,same]
  | publish now =>
    simp only [lastValue,lastTimestamp,addressed_publish]
    rcases m with i | i | _ <;> exact tracked

lemma fieldFresh_iff {timestamp now : HrtAbstime} (past : timestamp ≤ now) :
    fieldFresh timestamp now ↔ timestamp ≠ 0 ∧ now.toNat ≤ timestamp.toNat+200000 := by
  simp only [fieldFresh,Bool.and_eq_true,decide_eq_true_eq]
  unfold fieldTimeout
  constructor <;> rintro ⟨nonzero,young⟩ <;> refine ⟨nonzero,?_⟩ <;> bv_omega

omit [Field K] [LinearOrder K] in
lemma foldl_and_iff {ι : Type*} (f g : ι → Bool) (indices : List ι) (start : Bool) :
    indices.foldl (fun fresh i => fresh && f i && g i) start ↔
      start ∧ ∀ i ∈ indices, f i ∧ g i := by
  induction indices generalizing start with
  | nil => simp
  | cons i rest ih => simp [ih,and_assoc]

lemma allFresh_iff (b : ArmJointBridge K) (now : HrtAbstime) :
    b.allFresh now ↔ (∀ m : Member, fieldFresh (b.timestamp m) now) ∧ .fin 0.5 < b.validValue := by
  rw [allFresh,foldl_and_iff,Bool.and_eq_true,decide_eq_true_eq]
  constructor
  · rintro ⟨⟨valid,accepted⟩,joints⟩
    refine ⟨?_,accepted⟩
    rintro (i | i | _)
    · exact (joints i (List.mem_finRange i)).1
    · exact (joints i (List.mem_finRange i)).2
    · exact valid
  · rintro ⟨fresh,accepted⟩
    exact ⟨⟨fresh .valid,accepted⟩,fun i _ => ⟨fresh (.q i),fresh (.dq i)⟩⟩

omit [Field K] [LinearOrder K] in
lemma exists_fresh_iff {msgs : List (DebugKeyValue K)} (now : HrtAbstime)
    (ordered : msgs.Pairwise fun m n => m.timestamp ≤ n.timestamp) :
    (∃ msg ∈ msgs, Fresh now msg) ↔ ∃ msg, msgs.getLast? = some msg ∧ Fresh now msg := by
  constructor
  · rintro ⟨msg,member,nonzero,young⟩
    have filled : msgs ≠ [] := List.ne_nil_of_mem member
    refine ⟨msgs.getLast filled,List.getLast?_eq_some_getLast filled,?_⟩
    have later : msg.timestamp ≤ (msgs.getLast filled).timestamp :=
      ordered.rel_getLast_of_rel_getLast_getLast member (BitVec.le_refl _)
    exact ⟨by bv_omega,by bv_omega⟩
  · rintro ⟨msg,last,fresh⟩
    exact ⟨msg,List.mem_of_getLast? last,fresh⟩

omit [Field K] [LinearOrder K] in
lemma addressed_ordered (m : Member) {events : List (Event K)} (ordered : (events.map Event.time).Pairwise (· ≤ ·)) :
    (addressed m events).Pairwise fun msg later => msg.timestamp ≤ later.timestamp := by
  refine List.Pairwise.filter _ ?_
  rw [List.pairwise_filterMap]
  rw [List.pairwise_map] at ordered
  refine ordered.imp ?_
  intro event later before msg received msg' received'
  cases event <;> cases later <;> simp_all [Event.received,Event.time]

omit [Field K] [LinearOrder K] in
lemma mem_addressed : msg ∈ addressed m events ↔ .message msg ∈ events ∧ text msg.key.toList = m.key := by
  simp only [addressed,List.mem_filter,List.mem_filterMap,decide_eq_true_eq]
  constructor
  · rintro ⟨⟨event,member,received⟩,same⟩
    cases event <;> simp_all [Event.received]
  · rintro ⟨member,same⟩
    exact ⟨⟨_,member,rfl⟩,same⟩

lemma fieldFresh_run_iff (m : Member) {before : List (Event K)} {now : HrtAbstime}
    (ordered : ((before ++ [Event.publish now]).map Event.time).Pairwise (· ≤ ·)) :
    fieldFresh ((before.foldl step init).timestamp m) now ↔
      ∃ msg, .message msg ∈ before ∧ text msg.key.toList = m.key ∧ Fresh now msg := by
  rw [List.map_append,List.pairwise_append] at ordered
  obtain ⟨sorted,-,past⟩ := ordered
  have last := exists_fresh_iff now (addressed_ordered m sorted)
  simp only [mem_addressed,and_assoc] at last
  rw [last,(run_tracks before m).2,lastTimestamp]
  cases found : (addressed m before).getLast? with
  | none => simp [fieldFresh]
  | some msg =>
    have member := (mem_addressed.mp (List.mem_of_getLast? found)).1
    have earlier : msg.timestamp ≤ now := past _ (List.mem_map_of_mem member) now (by simp [Event.time])
    simpa [Fresh] using fieldFresh_iff earlier

/-- Every publication has the last value of each key, or zero, and is valid exactly while all keys
are fresh and the last validity exceeds 0.5. -/
theorem published_aggregates (before : List (Event K)) (now : HrtAbstime)
    (ordered : ((before ++ [Event.publish now]).map Event.time).Pairwise (· ≤ ·)) :
    let msg := ((before.foldl step init).publishJointStates now).1
    (∀ i, msg.q i = lastValue (.q i) before) ∧ (∀ i, msg.dq i = lastValue (.dq i) before) ∧ (msg.valid = true ↔
        (∀ m : Member, ∃ msg, .message msg ∈ before ∧ text msg.key.toList = m.key ∧ Fresh now msg) ∧
          .fin 0.5 < lastValue .valid before) := by
  refine ⟨fun i => (run_tracks before (.q i)).1,fun i => (run_tracks before (.dq i)).1,?_⟩
  rw [← (run_tracks before .valid).1]
  simp only [← fieldFresh_run_iff _ ordered]
  exact allFresh_iff _ now

def roundOfKeys : List (Event K) :=
  let keys : List (Vector UInt8 10) :=
    [#v[65,74,81,48,0,0,0,0,0,0],#v[65,74,81,49,0,0,0,0,0,0],#v[65,74,81,50,0,0,0,0,0,0],
      #v[65,74,81,51,0,0,0,0,0,0],#v[65,74,68,48,0,0,0,0,0,0],#v[65,74,68,49,0,0,0,0,0,0],
      #v[65,74,68,50,0,0,0,0,0,0],#v[65,74,68,51,0,0,0,0,0,0],#v[65,74,86,65,76,0,0,0,0,0]]
  keys.zipIdx.map fun (key,i) => .message ⟨BitVec.ofNat 64 (1000 * (i + 1)),key,1⟩

theorem roundOfKeys_fresh :
    ((roundOfKeys.foldl step (init : ArmJointBridge ℚ)).publishJointStates 201000#64).1.valid = true ∧
      ∀ m : Member, ∃ msg : DebugKeyValue ℚ,
        .message msg ∈ roundOfKeys ∧ text msg.key.toList = m.key ∧ Fresh 201000#64 msg := by
  have valid : ((roundOfKeys.foldl step (init : ArmJointBridge ℚ)).publishJointStates 201000#64).1.valid := by
    decide +kernel
  exact ⟨valid,((published_aggregates roundOfKeys 201000#64 (by decide)).2.2.mp valid).1⟩

def Wake.events (b : ArmJointBridge K) (wake : Wake K) : List (Event K) :=
  (wake.debugMsg.map Event.message).toList ++
    if (b.receive wake.debugMsg).publishDue wake.now then [.publish wake.publishNow] else []

lemma run_eq_events (b : ArmJointBridge K) (wake : Wake K) : (b.run wake).2 = (wake.events b).foldl step b ∧
      ∀ msg ∈ (b.run wake).1, msg = ((b.receive wake.debugMsg).publishJointStates wake.publishNow).1 := by
  cases due : (b.receive wake.debugMsg).publishDue wake.now <;>
    cases arrived : wake.debugMsg <;> simp_all [run,Wake.events,receive,step]

end
end AerialManipulator.ArmJointBridge
