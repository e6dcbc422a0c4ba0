import Uam.St24
import Uam.Library.Runs

/-! Where the receiver writes, and that it finds back to the start of a packet. -/
namespace AerialManipulator
open Bytes Runs
open St24PacketType (ofByte)
open BitVec (ofNat)
open ReceiverFcPacket (store)

lemma st24Strides_below (stride : strideCount = count * 3 / 2) (pairs : chanIndex * 3 = i * 2) (even : count % 2 = 0) :
    ∀ write ∈ st24Strides channel strideCount fuel i chanIndex,write.1 < count := by
  induction fuel generalizing i chanIndex with
  | zero => simp [st24Strides]
  | succ fuel ih =>
    unfold st24Strides
    split
    · next inside =>
      have room : chanIndex+1 < count := by omega
      simp only [List.forall_mem_cons]
      exact ⟨by omega,room,ih (by omega)⟩
    · simp

lemma st24Strides_odd (stride : strideCount = count * 3 / 2) (pairs : chanIndex * 3 = i * 2) (odd : count % 2 = 1)
    (below : chanIndex < count) (enough : strideCount ≤ i+fuel) :
    ∃ write ∈ st24Strides channel strideCount fuel i chanIndex,write.1 = count := by
  induction fuel generalizing i chanIndex with
  | zero => omega
  | succ fuel ih =>
    unfold st24Strides
    rw [if_pos (by omega)]
    by_cases last : chanIndex+1 = count
    · exact ⟨_,.tail _ (.head _),last⟩
    · obtain ⟨write,member,index⟩ : ∃ write ∈ st24Strides channel strideCount fuel (i+3) (chanIndex+2),write.1 = count :=
        ih (by omega) (by omega) (by omega)
      exact ⟨write,.tail _ (.tail _ member),index⟩

lemma st24Channels_below_iff (even : capacity % 2 = 0) (data : Vector Byte st24DataLenMax) (maxChanCount : Nat) :
    (∀ write ∈ (st24Channels capacity data maxChanCount).channels,write.1 < maxChanCount) ↔
      maxChanCount % 2 = 0 ∨ capacity ≤ maxChanCount := by
  unfold st24Channels
  constructor
  · intro below
    by_contra neither
    push Not at neither
    obtain ⟨odd,small⟩ := neither
    rw [if_pos small] at below
    have odd : maxChanCount % 2 = 1 := by omega
    obtain ⟨write,member,index⟩ : ∃ write ∈ st24Strides (fun i => data.toList.getD (4 + i) 0) (maxChanCount * 3 / 2)
        (maxChanCount * 3 / 2) 0 0,write.1 = maxChanCount := st24Strides_odd rfl rfl odd (by omega) (by omega)
    exact absurd (below write member) (by omega)
  · intro fits write member
    split at member
    · next small =>
      exact st24Strides_below rfl rfl (by omega) write member
    · next large =>
      have inside := st24Strides_below rfl rfl even write member
      omega

def St24PacketType.Fits (maxChanCount : Nat) : St24PacketType → Prop
  | .channelData12 => maxChanCount % 2 = 0 ∨ 12 ≤ maxChanCount
  | .channelData24 => maxChanCount % 2 = 0 ∨ 24 ≤ maxChanCount
  | .transmitterGpsData => True

instance (maxChanCount : Nat) : ∀ type : St24PacketType,Decidable (type.Fits maxChanCount)
  | .channelData12 => inferInstanceAs (Decidable (_ ∨ _))
  | .channelData24 => inferInstanceAs (Decidable (_ ∨ _))
  | .transmitterGpsData => .isTrue trivial

lemma St24PacketType.Fits.below {type : St24PacketType} (fits : type.Fits maxChanCount)
    (data : Vector Byte st24DataLenMax) (put : (type.received maxChanCount data).output = some output) :
    ∀ write ∈ output.channels,write.1 < maxChanCount := by
  cases type with
  | channelData12 | channelData24 =>
    cases put
    exact (st24Channels_below_iff rfl data maxChanCount).mpr fits
  | transmitterGpsData => cases put

namespace St24
variable {maxChanCount : Nat} {s : St24} {byte : Byte}

/-- The length has room for a type, a byte and a checksum, and a packet with channels fits. -/
structure Meets (maxChanCount : Nat) (s : St24) (byte : Byte) : Prop where
  length : s.decodeState = .gotStx2 → 3 ≤ byte.toNat
  channels : s.decodeState = .gotData → s.passes byte = true →
    ∀ type ∈ St24PacketType.ofByte s.rxpacket.type,type.Fits maxChanCount

instance : Decidable (s.Meets maxChanCount byte) :=
  decidable_of_iff ((s.decodeState = .gotStx2 → 3 ≤ byte.toNat) ∧ (s.decodeState = .gotData → s.passes byte = true →
    ∀ type ∈ St24PacketType.ofByte s.rxpacket.type,type.Fits maxChanCount))
    ⟨fun both => ⟨both.1,both.2⟩,fun meets => ⟨meets.length,meets.channels⟩⟩

structure Inside (maxChanCount : Nat) (s : St24) (byte : Byte) : Prop where
  data : ∀ index,(s.st24Decode maxChanCount byte).2.dataIndex = some index → 0 ≤ index ∧ index < st24DataLenMax
  channels : ∀ output,(s.st24Decode maxChanCount byte).2.output = some output →
    ∀ write ∈ output.channels,write.1 < maxChanCount

def Sound (s : St24) : Prop :=
  match s.decodeState with
  | .unsynced | .gotStx1 | .gotStx2 => True
  | .gotLen => 3 ≤ s.rxpacket.length.toNat ∧ s.rxpacket.length.toNat ≤ 66 ∧ s.rxlen.toNat = 0
  | .gotType => s.rxpacket.length.toNat ≤ 66 ∧ 1 ≤ s.rxlen.toNat ∧ s.rxlen.toNat+2 ≤ s.rxpacket.length.toNat
  | .gotData => s.rxpacket.length.toNat ≤ 66 ∧ s.rxlen.toNat+1 = s.rxpacket.length.toNat

lemma rxlen_next (small : s.rxlen.toNat < 255) : (s.rxlen+1#8).toNat = s.rxlen.toNat+1 := by
  rw [BitVec.toNat_add]
  exact Nat.mod_eq_of_lt (by simpa using Nat.add_lt_add_right small 1)

lemma length_store (p : ReceiverFcPacket) (index : Int) (byte : Byte) : (p.store index byte).length = p.length := by
  unfold store
  split <;> rfl

lemma step_gotType (maxChanCount : Nat) (state : s.decodeState = .gotType) (byte : Byte) : s.step maxChanCount byte = {
    decodeState := if ((s.rxlen+1#8).toNat : Int) = s.rxpacket.length.toNat-1 then .gotData else .gotType
    rxlen := s.rxlen+1#8
    rxpacket := s.rxpacket.store (s.rxlen.toNat-1) byte} := by
  unfold step st24Decode
  rw [state]

def remaining (s : St24) : Nat :=
  match s.decodeState with
  | .unsynced => 0
  | .gotStx1 => 68
  | .gotStx2 => 67
  | .gotLen => s.rxpacket.length.toNat
  | .gotType => s.rxpacket.length.toNat-s.rxlen.toNat
  | .gotData => 1

lemma sound_step (sound : s.Sound) (meets : s.Meets maxChanCount byte) : (s.step maxChanCount byte).Sound ∧
    (s.decodeState ≠ .unsynced → (s.step maxChanCount byte).remaining < s.remaining) := by
  unfold Sound at sound
  rw [remaining.eq_1 s]
  cases state : s.decodeState with
  | unsynced =>
    refine ⟨?_,fun busy => absurd rfl busy⟩
    unfold step st24Decode
    rw [state]
    dsimp only
    split
    · trivial
    · rw [Sound,state]
      trivial
  | gotStx1 =>
    unfold step st24Decode
    rw [state]
    dsimp only
    by_cases stx2 : byte = st24Stx2
    · rw [if_pos stx2]
      exact ⟨trivial,fun _ => Nat.lt_succ_self 67⟩
    · rw [if_neg stx2]
      exact ⟨trivial,fun _ => Nat.succ_pos 67⟩
  | gotStx2 =>
    unfold step st24Decode
    rw [state]
    dsimp only
    split
    next short => exact ⟨⟨meets.length state,short,rfl⟩,fun _ => Nat.lt_succ_of_le short⟩
    · exact ⟨trivial,fun _ => Nat.succ_pos 66⟩
  | gotLen =>
    rw [state] at sound
    obtain ⟨least,most,start⟩ := sound
    have next := rxlen_next (s := s) (by omega)
    have after : s.step maxChanCount byte = ⟨.gotType,s.rxlen+1#8,{s.rxpacket with type := byte}⟩ := by
      unfold step st24Decode
      rw [state]
    rw [after]
    change (_ ∧ 1 ≤ (s.rxlen+1#8).toNat ∧ (s.rxlen+1#8).toNat+2 ≤ s.rxpacket.length.toNat) ∧
      (_ → s.rxpacket.length.toNat-(s.rxlen+1#8).toNat < s.rxpacket.length.toNat)
    exact ⟨⟨most,by omega,by omega⟩,fun _ => by omega⟩
  | gotType =>
    rw [state] at sound
    obtain ⟨most,begun,ahead⟩ := sound
    have next := rxlen_next (s := s) (by omega)
    have same := length_store s.rxpacket (s.rxlen.toNat-1) byte
    rw [step_gotType maxChanCount state]
    by_cases ends : ((s.rxlen+1#8).toNat : Int) = s.rxpacket.length.toNat-1
    · rw [if_pos ends]
      change ((s.rxpacket.store _ byte).length.toNat ≤ 66 ∧ (s.rxlen+1#8).toNat+1 = (s.rxpacket.store _ byte).length.toNat) ∧
        (_ → 1 < s.rxpacket.length.toNat-s.rxlen.toNat)
      rw [same]
      exact ⟨⟨most,by omega⟩,fun _ => by omega⟩
    · rw [if_neg ends]
      change ((s.rxpacket.store _ byte).length.toNat ≤ 66 ∧ 1 ≤ (s.rxlen+1#8).toNat ∧
        (s.rxlen+1#8).toNat+2 ≤ (s.rxpacket.store _ byte).length.toNat) ∧
        (_ → (s.rxpacket.store _ byte).length.toNat-(s.rxlen+1#8).toNat < s.rxpacket.length.toNat-s.rxlen.toNat)
      rw [same]
      exact ⟨⟨most,by omega,by omega⟩,fun _ => by omega⟩
  | gotData =>
    unfold step st24Decode
    rw [state]
    exact ⟨trivial,fun _ => Nat.zero_lt_one⟩

lemma dataIndex_st24Decode {index : Int} (written : (s.st24Decode maxChanCount byte).2.dataIndex = some index) :
    s.decodeState = .gotType ∧ index = s.rxlen.toNat-1 := by
  unfold st24Decode at written
  cases state : s.decodeState with
  | gotType =>
    rw [state] at written
    exact ⟨rfl,(Option.some.inj written).symm⟩
  | gotData =>
    rw [state] at written
    dsimp only [gotData] at written
    split at written
    · cases type : ofByte s.rxpacket.type with
      | none => rw [type] at written; cases written
      | some type' => rw [type] at written; cases type' <;> cases written
    · cases written
  | unsynced | gotStx1 | gotStx2 | gotLen =>
    rw [state] at written
    dsimp only at written
    (try split at written) <;> cases written

lemma output_st24Decode (put : (s.st24Decode maxChanCount byte).2.output = some output) :
    s.decodeState = .gotData ∧ s.passes byte = true ∧ ∃ type,ofByte s.rxpacket.type = some type ∧
      (type.received maxChanCount s.rxpacket.st24Data).output = some output := by
  unfold st24Decode at put
  cases state : s.decodeState with
  | gotData =>
    rw [state] at put
    dsimp only [gotData] at put
    split at put
    · next passes =>
      cases type : ofByte s.rxpacket.type with
      | none => rw [type] at put; cases put
      | some type' =>
        rw [type] at put
        exact ⟨rfl,passes,type',rfl,put⟩
    · cases put
  | unsynced | gotStx1 | gotStx2 | gotLen | gotType =>
    rw [state] at put
    dsimp only at put
    (try split at put) <;> cases put

lemma inside_step (sound : s.Sound) (meets : s.Meets maxChanCount byte) : s.Inside maxChanCount byte := by
  constructor
  · intro index written
    obtain ⟨state,rfl⟩ := dataIndex_st24Decode written
    rw [Sound,state] at sound
    obtain ⟨most,begun,ahead⟩ := sound
    have size : st24DataLenMax = 64 := rfl
    omega
  · intro output put
    obtain ⟨state,passes,type,known,put⟩ := output_st24Decode put
    exact (meets.channels state passes type known).below _ put

lemma remaining_le (sound : s.Sound) : s.remaining ≤ 68 := by
  unfold Sound at sound
  unfold remaining
  cases state : s.decodeState <;> rw [state] at sound <;> dsimp only at sound ⊢ <;> omega

lemma unsynced_of_remaining (sound : s.Sound) (none : s.remaining = 0) : s.decodeState = .unsynced := by
  unfold Sound at sound
  unfold remaining at none
  cases state : s.decodeState with
  | unsynced => rfl
  | gotStx1 | gotStx2 | gotLen | gotType | gotData =>
    rw [state] at sound none
    dsimp only at sound none
    omega

def body (type : Byte) (data : List Byte) : List Byte := BitVec.ofNat 8 (data.length+2) :: type :: data

structure Holds (s : St24) (length type : Byte) (data : List Byte) : Prop where
  rxlen : s.rxlen.toNat = data.length+1
  length : s.rxpacket.length = length
  type : s.rxpacket.type = type
  data : s.rxpacket.st24Data.toList.take data.length = data

lemma take_store (p : ReceiverFcPacket) (inside : n < st24DataLenMax) (byte : Byte) :
    (p.store n byte).st24Data.toList.take (n + 1) = p.st24Data.toList.take n ++ [byte] := by
  rw [store,if_pos (Int.natCast_nonneg n)]
  exact take_setIfInBounds _ inside byte

lemma type_store (p : ReceiverFcPacket) (index : Int) (byte : Byte) : (p.store index byte).type = p.type := by
  unfold store
  split <;> rfl

variable (maxChanCount)

variable {data : List Byte}

lemma Holds.step {length type : Byte} (holds : s.Holds length type data) (state : s.decodeState = .gotType)
    (inside : data.length < st24DataLenMax) (byte : Byte) : (s.step maxChanCount byte).Holds length type (data ++ [byte]) ∧
      (s.step maxChanCount byte).decodeState = if data.length+3 = length.toNat then .gotData else .gotType := by
  have size : st24DataLenMax = 64 := rfl
  have next := rxlen_next (s := s) (by have := holds.rxlen; omega)
  have index : (s.rxlen.toNat : Int)-1 = data.length := by
    have := holds.rxlen
    omega
  rw [step_gotType maxChanCount state,index,next,holds.rxlen]
  refine ⟨⟨?_,?_,?_,?_⟩,?_⟩
  · simp [next,holds.rxlen]
  · rw [length_store,holds.length]
  · rw [type_store,holds.type]
  · rw [List.length_append,List.length_singleton,take_store _ inside,holds.data]
  · rw [holds.length]
    exact if_congr (by omega) rfl rfl

lemma Holds.run {length type : Byte} {rest : List Byte} (holds : s.Holds length type data)
    (state : s.decodeState = .gotType) (some_ : rest ≠ []) (ends : data.length+rest.length+2 = length.toNat)
    (inside : data.length+rest.length ≤ st24DataLenMax) :
    (rest.foldl (St24.step maxChanCount) s).Holds length type (data ++ rest) ∧
      (rest.foldl (St24.step maxChanCount) s).decodeState = .gotData := by
  induction rest generalizing s data with
  | nil => exact absurd rfl some_
  | cons byte rest ih =>
    rw [List.length_cons] at ends inside
    obtain ⟨stored,after⟩ := holds.step maxChanCount state (by omega) byte
    cases rest with
    | nil =>
      rw [if_pos (by simpa using ends)] at after
      exact ⟨stored,after⟩
    | cons other rest =>
      rw [List.length_cons] at ends inside
      rw [if_neg (by omega)] at after
      have := ih stored after (by simp) (by simp; omega) (by simp; omega)
      simpa using this

def frame (type : Byte) (data : List Byte) : List Byte := st24Stx1 :: st24Stx2 :: body type data

lemma frame_holds (fresh : s.decodeState = .unsynced) (type : Byte) (least : 0 < data.length)
    (most : data.length ≤ st24DataLenMax) :
    ((frame type data).foldl (St24.step maxChanCount) s).Holds (ofNat 8 (data.length+2)) type data ∧
      ((frame type data).foldl (St24.step maxChanCount) s).decodeState = .gotData := by
  have size : st24DataLenMax = 64 := rfl
  have length : (ofNat 8 (data.length+2)).toNat = data.length+2 := by
    rw [BitVec.toNat_ofNat]
    exact Nat.mod_eq_of_lt (by omega)
  have first : s.step maxChanCount st24Stx1 = {s with decodeState := .gotStx1} := by
    unfold St24.step st24Decode
    rw [fresh]
    rfl
  have third : St24.step maxChanCount {s with decodeState := .gotStx2} (ofNat 8 (data.length+2)) =
      ⟨.gotLen,0#8,{s.rxpacket with length := ofNat 8 (data.length+2)}⟩ := by
    unfold St24.step st24Decode
    dsimp only
    rw [if_pos (by omega)]
  have fourth : (frame type data).foldl (St24.step maxChanCount) s = data.foldl (St24.step maxChanCount)
      ⟨.gotType,1#8,{s.rxpacket with length := ofNat 8 (data.length+2),type := type}⟩ := by
    rw [frame,body,List.foldl_cons,first,List.foldl_cons,List.foldl_cons]
    change data.foldl _ (St24.step maxChanCount (St24.step maxChanCount {s with decodeState := .gotStx2} _) type) = _
    rw [third]
    rfl
  have begun : Holds ⟨.gotType,1#8,{s.rxpacket with length := ofNat 8 (data.length+2),type := type}⟩
      (ofNat 8 (data.length+2)) type [] := ⟨rfl,rfl,rfl,rfl⟩
  rw [fourth]
  exact begun.run maxChanCount rfl (List.ne_nil_of_length_pos least) (by rw [length]; simp) (by simpa using most)

def Accepts (s : St24) (type : St24PacketType) (data : List Byte) : Prop :=
  let last := ((frame type.number data).foldl (St24.step maxChanCount) s).st24Decode maxChanCount
    (st24CommonCrc8 (body type.number data))
  ∃ stored,stored.toList.take data.length = data ∧ last.2 = type.received maxChanCount stored ∧
    last.1.decodeState = .unsynced

lemma ofByte_number (type : St24PacketType) : ofByte type.number = some type := by
  cases type <;> rfl

lemma accepts (fresh : s.decodeState = .unsynced) (type : St24PacketType) (least : 0 < data.length)
    (most : data.length ≤ st24DataLenMax) : s.Accepts maxChanCount type data := by
  obtain ⟨holds,state⟩ := frame_holds maxChanCount fresh type.number least most
  unfold Accepts
  generalize (frame type.number data).foldl (St24.step maxChanCount) s = framed at holds state
  have size : st24DataLenMax = 64 := rfl
  have checked : framed.rxpacket.memory.take (framed.rxlen+1#8).toNat = body type.number data := by
    rw [rxlen_next (by have := holds.rxlen; omega),holds.rxlen,ReceiverFcPacket.memory,holds.length,holds.type]
    simp only [List.take_succ_cons,holds.data]
    rfl
  have passes : framed.passes (st24CommonCrc8 (body type.number data)) := by
    rw [St24.passes,checked]
    simp
  refine ⟨framed.rxpacket.st24Data,holds.data,?_,?_⟩
  · rw [st24Decode,state]
    dsimp only [gotData]
    rw [if_pos passes,holds.type,ofByte_number]
    rfl
  · rw [st24Decode,state]

def initial (rxpacket : ReceiverFcPacket) : St24 := ⟨.unsynced,0#8,rxpacket⟩

/-- No write is outside, and after any beginning it takes at most 68 bytes until any packet would be accepted. -/
theorem receiver_safe (rxpacket : ReceiverFcPacket) {stream : List Byte}
    (meets : Along (St24.step maxChanCount) (Meets maxChanCount) (initial rxpacket) stream) :
    Along (St24.step maxChanCount) (Inside maxChanCount) (initial rxpacket) stream ∧
    ∀ before after,stream = before ++ after → 68 ≤ after.length → ∃ n ≤ 68,∀ type data,0 < data.length →
      data.length ≤ st24DataLenMax →
        ((before ++ after.take n).foldl (St24.step maxChanCount) (initial rxpacket)).Accepts maxChanCount type data := by
  have start : (initial rxpacket).Sound := trivial
  have preserved (s : St24) (byte : Byte) (meets : s.Meets maxChanCount byte) (sound : s.Sound) :
      (s.step maxChanCount byte).Sound := (sound_step sound meets).1
  refine ⟨along_of_invariant Sound preserved (fun s byte meets sound => inside_step sound meets) meets start,?_⟩
  rintro before after rfl long
  rw [along_append] at meets
  have sound := foldl_invariant Sound preserved meets.1 start
  obtain ⟨n,within,reached⟩ := exists_goal Sound (fun s => s.decodeState = .unsynced) remaining preserved
    (fun s byte meets sound => (sound_step sound meets).2) (fun s => unsynced_of_remaining) meets.2 sound
    ((remaining_le sound).trans long)
  refine ⟨n,within.trans (remaining_le sound),fun type data least most => ?_⟩
  rw [List.foldl_append]
  exact accepts maxChanCount reached type least most

theorem receiver_safe_then_packet : let stream := [0x55#8,0x55#8,3#8,0#8,9#8,0#8] ++ List.replicate 70 0#8
    let rxpacket : ReceiverFcPacket := ⟨0#8,0#8,.replicate st24DataLenMax 0#8,0#8⟩
    Along (St24.step 18) (Meets 18) (initial rxpacket) stream ∧
    Along (St24.step 18) (Inside 18) (initial rxpacket) stream ∧
    ∀ before after,stream = before ++ after → 68 ≤ after.length → ∃ n ≤ 68,∀ type data,0 < data.length →
      data.length ≤ st24DataLenMax →
        ((before ++ after.take n).foldl (St24.step 18) (initial rxpacket)).Accepts 18 type data :=
  ⟨by decide +kernel,receiver_safe 18 _ (by decide +kernel)⟩

lemma gotType_forever (state : s.decodeState = .gotType) (length : s.rxpacket.length = 0#8) (further : List Byte) :
    (further.foldl (St24.step maxChanCount) s).decodeState = .gotType := by
  induction further generalizing s with
  | nil => exact state
  | cons byte rest ih =>
    have zero : s.rxpacket.length.toNat = 0 := by rw [length]; rfl
    have more : ¬((s.rxlen+1#8).toNat : Int) = s.rxpacket.length.toNat-1 := by omega
    rw [List.foldl_cons]
    apply ih
    · rw [step_gotType maxChanCount state,if_neg more]
    · rw [step_gotType maxChanCount state,length_store,length]

/-- The length zero: the 65th byte is written behind the array, and the packet never ends. And a
channel behind a buffer of five. -/
theorem receiver_unsafe : let rxpacket : ReceiverFcPacket := ⟨0#8,0#8,.replicate st24DataLenMax 0#8,0#8⟩
    let begun := [0x55#8,0x55#8,0#8,0#8].foldl (St24.step 18) (initial rxpacket)
    let filled := (List.replicate 64 0#8).foldl (St24.step 18) begun
    let data := List.replicate 22 7#8
    let framed := (frame 0#8 data).foldl (St24.step 5) (initial rxpacket)
    let last := (framed.st24Decode 5 (st24CommonCrc8 (body 0#8 data))).2
    (filled.st24Decode 18 0#8).2.dataIndex = some 64 ∧
    (∀ further : List Byte,(further.foldl (St24.step 18) begun).decodeState = .gotType) ∧
    last.output.map (fun output => output.channels.map Prod.fst) = some [0,1,2,3,4,5] :=
  ⟨by decide +kernel,gotType_forever 18 rfl rfl,by decide +kernel⟩

end St24
end AerialManipulator
