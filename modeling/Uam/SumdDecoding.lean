import Uam.Sumd
import Uam.Library.Runs

/-! What the receiver makes of a well-formed SUMD frame. -/
namespace AerialManipulator
open Bytes ReceiverFcPacketHoTT Runs

structure SumdFrame where
  failsafe : Bool
  words : List (BitVec 16)
  least : 2 ≤ words.length
  most : words.length ≤ sumdMaxChannels

/-- The word of a channel: roll, pitch and throttle are the second, third and first. -/
def sumdSource : Nat → Nat
  | 0 => 1
  | 1 => 2
  | 2 => 0
  | i+3 => i+3

def sumdWordBytes (word : BitVec 16) : List Byte := [(word >>> 8).setWidth 8,word.setWidth 8]

lemma getElem?_sumdOrder {length i : Nat} (inside : i < length ∨ i < 4) :
    (sumdOrder length)[i]? = some (sumdSource i) := by
  rcases i with _ | _ | _ | _ | i
  · rfl
  · rfl
  · rfl
  · rfl
  · have more : i < length-4 := by omega
    simp only [sumdOrder,List.getElem?_cons_succ,List.getElem?_range' more,sumdSource]
    congr 1
    omega

lemma length_sumdOrder (length : Nat) : (sumdOrder length).length = 4+(length-4) := by
  simp only [sumdOrder,List.length_cons,List.length_range']
  omega

lemma lt_of_mem_sumdOrder {length word : Nat} (member : word ∈ sumdOrder length) : word < length ∨ word < 4 := by
  simp only [sumdOrder,List.mem_cons,List.mem_range'_1] at member
  omega

namespace SumdFrame
variable (frame : SumdFrame)

def status : Byte := if frame.failsafe then sumdIdFailsafe else sumdIdSumd

def data : List Byte := frame.words.flatMap sumdWordBytes

def head : List Byte := [sumdHeaderId,frame.status,BitVec.ofNat 8 frame.words.length]

def crc : BitVec 16 := (frame.head ++ frame.data).foldl sumdCrc16 0#16

def crcHigh : Byte := (frame.crc >>> 8).setWidth 8

def crcLow : Byte := frame.crc.setWidth 8

def front : List Byte := frame.head ++ frame.data ++ [frame.crcHigh]

def bytes : List Byte := frame.front ++ [frame.crcLow]

lemma length_data : frame.data.length = frame.words.length * 2 := by simp [data,sumdWordBytes,Nat.mul_comm]

end SumdFrame

lemma getD_flatMap_word {words : List (BitVec 16)} (inside : k < words.length) :
    ((words.flatMap sumdWordBytes).getD (k * 2) 0).toNat * 256 +
      ((words.flatMap sumdWordBytes).getD (k * 2 + 1) 0).toNat =
      words[k].toNat := by
  induction words generalizing k with
  | nil => exact absurd inside (Nat.not_lt_zero _)
  | cons word rest ih =>
    cases k with
    | zero =>
      have bound := word.isLt
      change (word >>> 8).toNat % 256 * 256 + word.toNat % 256 = word.toNat
      rw [BitVec.toNat_ushiftRight,Nat.shiftRight_eq_div_pow]
      omega
    | succ k =>
      have place : (k + 1) * 2 = k * 2 + 1 + 1 := by omega
      rw [place]
      exact ih (Nat.lt_of_succ_lt_succ inside)

namespace Sumd
variable {s : Sumd} {frame : SumdFrame} {data : List Byte} (maxChanCount : Nat)

structure Holds (s : Sumd) (frame : SumdFrame) (data : List Byte) : Prop where
  state : s.decodeState = if data.length < frame.words.length * 2 then .gotLen else .gotData
  rxlen : s.rxlen.toNat = data.length+1
  length : s.rxpacket.length.toNat = frame.words.length
  live : s.sumd = true
  fresh : s.crcOk = false
  crc : s.crc16 = (frame.head ++ data).foldl sumdCrc16 0#16
  stored : ∀ i < data.length, s.rxpacket.load (i+1) = data.getD i 0

lemma load_store (p : ReceiverFcPacketHoTT) (within : index ≤ 64) (byte : Byte)
    (before : other ≤ index) : (p.store index byte).load other = if other = index then byte else p.load other := by
  have size : sumdMaxChannels * 2 = 64 := rfl
  unfold store load
  by_cases inside : index < sumdMaxChannels * 2
  · have first : other < sumdMaxChannels * 2 := by omega
    rw [if_pos inside,if_pos first,if_pos first]
    simp only [Vector.toList_setIfInBounds,List.getD_eq_getElem?_getD,List.getElem?_set]
    by_cases same : index = other
    · rw [if_pos same,if_pos same.symm,if_pos (by simpa using inside)]
      rfl
    · rw [if_neg same,if_neg (Ne.symm same)]
  · rw [if_neg inside]
    by_cases same : other = index
    · rw [if_pos same,if_neg (by omega)]
    · have first : other < sumdMaxChannels * 2 := by omega
      rw [if_neg same,if_pos first,if_pos first]

lemma length_store (p : ReceiverFcPacketHoTT) (index : Nat) (byte : Byte) : (p.store index byte).length = p.length := by
  unfold store
  split <;> rfl

lemma step_unsynced (state : s.decodeState = .unsynced) : s.sumdDecode maxChanCount sumdHeaderId =
    ({s with decodeState := .gotHeader,rxlen := 0#8,rxpacket := {s.rxpacket with header := sumdHeaderId},
              crc8 := sumdCrc8 0#8 sumdHeaderId,crc16 := sumdCrc16 0#16 sumdHeaderId,sumd := true,crcOk := false},
      ⟨1,[],none⟩) := by
  rw [sumdDecode,state]
  rw [if_pos rfl]

lemma step_gotHeader (state : s.decodeState = .gotHeader) (live : s.sumd) : s.sumdDecode maxChanCount frame.status =
      ({s with decodeState := .gotState,rxpacket := {s.rxpacket with status := frame.status},
                crc16 := sumdCrc16 s.crc16 frame.status},⟨1,[],none⟩) := by
  have other : frame.status ≠ sumdIdSumh := by
    unfold SumdFrame.status
    split <;> decide
  have known : frame.status = sumdIdSumd ∨ frame.status = sumdIdFailsafe ∨ frame.status = sumdIdSumh := by
    unfold SumdFrame.status
    split
    · exact .inr (.inl rfl)
    · exact .inl rfl
  rw [sumdDecode,state]
  dsimp only [accumulate]
  rw [if_pos known,if_neg other,if_pos live]

lemma step_gotState (state : s.decodeState = .gotState) (live : s.sumd) {byte : Byte}
    (valid : 2 ≤ byte.toNat ∧ byte.toNat ≤ sumdMaxChannels) : s.sumdDecode maxChanCount byte =
      ({s with decodeState := .gotLen,rxlen := s.rxlen+1#8,rxpacket := {s.rxpacket with length := byte},
                crc16 := sumdCrc16 s.crc16 byte},⟨1,[],none⟩) := by
  rw [sumdDecode,state]
  dsimp only [accumulate]
  rw [if_pos valid,if_pos live]

lemma step_gotLen (state : s.decodeState = .gotLen) (live : s.sumd) (byte : Byte) : s.sumdDecode maxChanCount byte =
      ({s with decodeState := if (s.rxlen + 1#8).toNat ≤ s.rxpacket.length.toNat * 2 then .gotLen else .gotData
               rxlen := s.rxlen+1#8
               rxpacket := s.rxpacket.store s.rxlen.toNat byte
               crc16 := sumdCrc16 s.crc16 byte},⟨1,[s.rxlen.toNat],none⟩) := by
  rw [sumdDecode,state]
  dsimp only [accumulate]
  rw [if_pos live]

lemma step_gotData (state : s.decodeState = .gotData) (live : s.sumd) (byte : Byte) : s.sumdDecode maxChanCount byte =
      ({s with decodeState := .gotCrc,rxpacket := {s.rxpacket with crc16High := byte}},⟨1,[],none⟩) := by
  rw [sumdDecode,state]
  rw [if_pos live]

lemma Holds.step (holds : s.Holds frame data) (more : data.length < frame.words.length * 2) (byte : Byte) :
    (s.step maxChanCount byte).Holds frame (data ++ [byte]) := by
  have most := frame.most
  have limit : sumdMaxChannels = 32 := rfl
  have state := holds.state
  rw [if_pos more] at state
  have next : (s.rxlen+1#8).toNat = data.length+2 := by
    rw [BitVec.toNat_add,holds.rxlen]
    exact Nat.mod_eq_of_lt (by simp; omega)
  rw [Sumd.step,step_gotLen maxChanCount state holds.live]
  refine ⟨?_,?_,?_,holds.live,holds.fresh,?_,?_⟩
  · change (if (s.rxlen + 1#8).toNat ≤ s.rxpacket.length.toNat * 2 then _ else _) = _
    rw [next,holds.length,List.length_append,List.length_singleton]
    exact if_congr (by omega) rfl rfl
  · simpa using next
  · rw [length_store,holds.length]
  · change sumdCrc16 s.crc16 byte = _
    rw [holds.crc,← List.append_assoc,List.foldl_concat]
  · intro i inside
    rw [List.length_append,List.length_singleton] at inside
    rw [holds.rxlen,load_store _ (by omega) byte (by omega)]
    by_cases last : i = data.length
    · rw [if_pos (by omega),last]
      simp
    · rw [if_neg (by omega),holds.stored i (by omega),List.getD_eq_getElem?_getD,List.getD_eq_getElem?_getD,
        List.getElem?_append_left (by omega)]

lemma Holds.run {rest : List Byte} (holds : s.Holds frame data)
    (fits : data.length + rest.length ≤ frame.words.length * 2) :
    (rest.foldl (Sumd.step maxChanCount) s).Holds frame (data ++ rest) := by
  induction rest generalizing s data with
  | nil => simpa using holds
  | cons byte rest ih =>
    rw [List.length_cons] at fits
    have stored := ih (holds.step maxChanCount (by omega) byte) (by simp; omega)
    simpa using stored

def Inside (maxChanCount : Nat) (s : Sumd) (byte : Byte) : Prop :=
  ∀ index ∈ (s.sumdDecode maxChanCount byte).2.accesses,index < sumdMaxChannels * 2

instance (byte : Byte) : Decidable (s.Inside maxChanCount byte) := inferInstanceAs (Decidable (∀ index ∈ _,index < _))

lemma Holds.inside_iff {rest : List Byte} (holds : s.Holds frame data)
    (fits : data.length + rest.length ≤ frame.words.length * 2) :
    Along (Sumd.step maxChanCount) (Inside maxChanCount) s rest ↔
      ∀ i < rest.length,data.length + i + 1 < sumdMaxChannels * 2 := by
  induction rest generalizing s data with
  | nil => simp
  | cons byte rest ih =>
    rw [List.length_cons] at fits
    have state := holds.state
    rw [if_pos (by omega)] at state
    have here : s.Inside maxChanCount byte ↔ data.length + 1 < sumdMaxChannels * 2 := by
      rw [Inside,step_gotLen maxChanCount state holds.live,holds.rxlen]
      simp
    rw [along_cons,here,ih (holds.step maxChanCount (by omega) byte) (by simp; omega)]
    simp only [List.length_append,List.length_cons,List.length_nil]
    constructor
    · rintro ⟨first,others⟩ i inside
      cases i with
      | zero => exact first
      | succ i =>
        have := others i (by omega)
        omega
    · intro all
      refine ⟨all 0 (by omega),fun i inside => ?_⟩
      have := all (i+1) (by omega)
      omega

lemma head_holds (unsynced : s.decodeState = .unsynced) (frame : SumdFrame) :
    (frame.head.foldl (Sumd.step maxChanCount) s).Holds frame [] ∧
      Along (Sumd.step maxChanCount) (Inside maxChanCount) s frame.head := by
  have least := frame.least
  have most := frame.most
  have limit : sumdMaxChannels = 32 := rfl
  have size : (BitVec.ofNat 8 frame.words.length).toNat = frame.words.length := by
    rw [BitVec.toNat_ofNat]
    exact Nat.mod_eq_of_lt (by omega)
  have valid : 2 ≤ (BitVec.ofNat 8 frame.words.length).toNat ∧
      (BitVec.ofNat 8 frame.words.length).toNat ≤ sumdMaxChannels := by
    rw [size]
    exact ⟨least,most⟩
  unfold SumdFrame.head
  simp only [List.foldl_cons,List.foldl_nil,along_cons,along_nil,Sumd.step,Inside,
    step_unsynced maxChanCount unsynced,step_gotHeader,step_gotState,valid,and_self]
  refine ⟨⟨?_,rfl,size,rfl,rfl,rfl,?_⟩,?_⟩
  · rw [if_pos (by simp; omega)]
  · intro i inside
    exact absurd inside (Nat.not_lt_zero _)
  · simp

lemma front_run (unsynced : s.decodeState = .unsynced) (frame : SumdFrame) :
    let front := frame.front.foldl (Sumd.step maxChanCount) s
    (front.decodeState = .gotCrc ∧ front.passes frame.crcLow) ∧
    (front.rxpacket.length.toNat = frame.words.length ∧
      ∀ i < frame.words.length * 2,i < 63 → front.rxpacket.load (i + 1) = frame.data.getD i 0) ∧
    (Along (Sumd.step maxChanCount) (Inside maxChanCount) s frame.front ↔ frame.words.length ≤ 31) := by
  have size := frame.length_data
  have limit : sumdMaxChannels * 2 = 64 := rfl
  obtain ⟨begun,quiet⟩ := head_holds maxChanCount unsynced frame
  have filled : (frame.data.foldl (Sumd.step maxChanCount) (frame.head.foldl (Sumd.step maxChanCount) s)).Holds frame
      ([] ++ frame.data) := begun.run maxChanCount (by simp [size])
  have places : Along (Sumd.step maxChanCount) (Inside maxChanCount)
    (frame.head.foldl (Sumd.step maxChanCount) s) frame.data ↔
      ∀ i < frame.data.length,([] : List Byte).length + i + 1 < sumdMaxChannels * 2 :=
    begun.inside_iff maxChanCount (by simp [size])
  rw [SumdFrame.front,List.foldl_concat,List.foldl_append,along_append,along_append,List.foldl_append]
  generalize frame.data.foldl (Sumd.step maxChanCount) (frame.head.foldl (Sumd.step maxChanCount) s) = t at filled
  rw [List.nil_append] at filled
  have state := filled.state
  rw [if_neg (by omega)] at state
  have last := step_gotData maxChanCount state filled.live frame.crcHigh
  rw [Sumd.step,last]
  refine ⟨⟨rfl,?_⟩,⟨filled.length,?_⟩,?_⟩
  · have crc : t.crc16.toNat = frame.crcHigh.toNat * 256 + frame.crcLow.toNat := by
      have bound := frame.crc.isLt
      change t.crc16.toNat = (frame.crc >>> 8).toNat % 256 * 256 + frame.crc.toNat % 256
      rw [filled.crc,BitVec.toNat_ushiftRight,Nat.shiftRight_eq_div_pow]
      change frame.crc.toNat = _
      omega
    rw [passes]
    rw [if_pos filled.live,crc]
    simp
  · intro i inside below
    have stored := filled.stored i (by omega)
    unfold load at stored ⊢
    rw [if_pos (by omega)] at stored ⊢
    exact stored
  · have crc : t.Inside maxChanCount frame.crcHigh := by
      rw [Inside,last]
      simp
    simp only [along_cons,along_nil,quiet,crc,places,true_and,and_true,List.length_nil,size]
    constructor
    · intro all
      by_contra many
      have := all 63 (by omega)
      omega
    · intro few i inside
      omega

def last (maxChanCount : Nat) (s : Sumd) (frame : SumdFrame) : SumdResult :=
  ((frame.front.foldl (Sumd.step maxChanCount) s).sumdDecode maxChanCount frame.crcLow).2

structure Exact (maxChanCount : Nat) (s : Sumd) (frame : SumdFrame) : Prop where
  success : (last maxChanCount s frame).ret = 0
  count : (last maxChanCount s frame).output.map SumdOutput.channelCount = some (min frame.words.length maxChanCount)
  -- each channel that is reported has one value, that of its word
  reported : ∀ output ∈ (last maxChanCount s frame).output,∀ i < min frame.words.length maxChanCount,
    ∃ word,frame.words[sumdSource i]? = some word ∧ ∀ value,(i,value) ∈ output.channels ↔ value = (word >>> 3).toNat
  channels : ∀ output ∈ (last maxChanCount s frame).output,∀ write ∈ output.channels,write.1 < maxChanCount
  data : Along (Sumd.step maxChanCount) (Inside maxChanCount) s frame.bytes

lemma mem_channels {order : List Nat} {p : ReceiverFcPacketHoTT} :
    (i,value) ∈ order.mapIdx (fun index word => (index,p.channel word)) ↔
      ∃ word,order[i]? = some word ∧ value = p.channel word := by
  simp only [List.mem_mapIdx,Prod.mk.injEq,List.getElem?_eq_some_iff]
  constructor
  · rintro ⟨i,inside,rfl,rfl⟩
    exact ⟨_,⟨inside,rfl⟩,rfl⟩
  · rintro ⟨word,⟨inside,rfl⟩,rfl⟩
    exact ⟨i,inside,rfl,rfl⟩

lemma toNat_channelCount (length : s.rxpacket.length.toNat = n) :
    (s.channelCount maxChanCount).toNat = min n maxChanCount := by
  have bound := s.rxpacket.length.isLt
  unfold channelCount
  split
  · rw [BitVec.toNat_ofNat,Nat.mod_eq_of_lt (by omega)]
    omega
  · omega

lemma sumdSource_lt (three : 3 ≤ n) (below : i < n) : sumdSource i < n := by
  rcases i with _ | _ | _ | i
  · exact Nat.lt_of_lt_of_le (by decide) three
  · exact Nat.lt_of_lt_of_le (by decide) three
  · exact Nat.lt_of_lt_of_le (by decide) three
  · exact below

section
variable (unsynced : s.decodeState = .unsynced) (frame : SumdFrame)
include unsynced

lemma last_eq : last maxChanCount s frame = received maxChanCount (frame.front.foldl (Sumd.step maxChanCount) s) := by
  obtain ⟨⟨state,passes⟩,-⟩ := front_run maxChanCount unsynced frame
  rw [last,sumdDecode,state]
  rw [if_pos passes]

lemma count_front : ((frame.front.foldl (Sumd.step maxChanCount) s).channelCount maxChanCount).toNat =
    min frame.words.length maxChanCount := by
  obtain ⟨-,⟨length,-⟩,-⟩ := front_run maxChanCount unsynced frame
  exact toNat_channelCount maxChanCount length

lemma channel_front (few : frame.words.length ≤ 31) (inside : k < frame.words.length) :
    (frame.front.foldl (Sumd.step maxChanCount) s).rxpacket.channel k = (frame.words[k] >>> 3).toNat := by
  obtain ⟨-,⟨-,stored⟩,-⟩ := front_run maxChanCount unsynced frame
  rw [channel,stored _ (by omega) (by omega),stored _ (by omega) (by omega),SumdFrame.data,
    getD_flatMap_word inside,BitVec.toNat_ushiftRight,Nat.shiftRight_eq_div_pow]

lemma Exact.bounds (exact_ : Exact maxChanCount s frame) :
    3 ≤ frame.words.length ∧ frame.words.length ≤ 31 ∧ 4 ≤ maxChanCount := by
  have least := frame.least
  obtain ⟨-,-,inside⟩ := front_run maxChanCount unsynced frame
  have reported := exact_.reported
  have channels := exact_.channels
  have data := exact_.data
  rw [last_eq maxChanCount unsynced frame] at reported channels
  rw [SumdFrame.bytes,along_append] at data
  have room : 4 ≤ maxChanCount := by
    apply channels _ rfl (3,_)
    exact mem_channels.mpr ⟨3,getElem?_sumdOrder (.inr (by omega)),rfl⟩
  refine ⟨?_,inside.mp data.1,room⟩
  by_contra two
  obtain ⟨word,there,-⟩ := reported _ rfl 1 (by omega)
  have beyond := (List.getElem?_eq_some_iff.mp there).1
  change 2 < _ at beyond
  omega

lemma exact_of_bounds (three : 3 ≤ frame.words.length) (few : frame.words.length ≤ 31) (room : 4 ≤ maxChanCount) :
    Exact maxChanCount s frame := by
  obtain ⟨-,-,inside⟩ := front_run maxChanCount unsynced frame
  have closing := last_eq maxChanCount unsynced frame
  have count := count_front maxChanCount unsynced frame
  refine ⟨?_,?_,?_,?_,?_⟩
  · rw [closing]
    rfl
  · rw [closing]
    exact congrArg some count
  · rw [closing]
    rintro output same i below
    cases same
    have source : sumdSource i < frame.words.length := sumdSource_lt three (by omega)
    have order : (sumdOrder (min frame.words.length maxChanCount))[i]? = some (sumdSource i) :=
      getElem?_sumdOrder (.inl below)
    refine ⟨_,List.getElem?_eq_getElem source,fun value => ?_⟩
    rw [mem_channels,count,order,← channel_front maxChanCount unsynced frame few source]
    simp
  · rw [closing]
    rintro output same ⟨i,value⟩ member
    cases same
    rw [mem_channels,count] at member
    obtain ⟨word,there,-⟩ := member
    have within := (List.getElem?_eq_some_iff.mp there).1
    rw [length_sumdOrder] at within
    change i < maxChanCount
    omega
  · have limit : sumdMaxChannels * 2 = 64 := rfl
    rw [SumdFrame.bytes,along_append]
    refine ⟨inside.mpr few,?_,trivial⟩
    intro index member
    change index ∈ (last maxChanCount s frame).accesses at member
    rw [closing] at member
    dsimp only [received] at member
    rw [count] at member
    obtain ⟨word,ordered,taken⟩ := List.mem_flatMap.mp member
    have small := lt_of_mem_sumdOrder ordered
    simp only [List.mem_cons,List.not_mem_nil,or_false] at taken
    omega

end

/-- The first four channels are written in any case, so is the last word of a full frame. -/
theorem exact_iff (unsynced : s.decodeState = .unsynced) (frame : SumdFrame) :
    Exact maxChanCount s frame ↔ 3 ≤ frame.words.length ∧ frame.words.length ≤ 31 ∧ 4 ≤ maxChanCount := by
  constructor
  · exact Exact.bounds maxChanCount unsynced frame
  · intro bounds
    exact exact_of_bounds maxChanCount unsynced frame bounds.1 bounds.2.1 bounds.2.2

def initial : Sumd :=
  ⟨.unsynced,0#8,⟨0#8,0#8,0#8,.replicate (sumdMaxChannels * 2) 0#8,0#8,0#8,0#8,0#8⟩,0#8,0#16,true,false,0#8⟩

theorem exact_iff_eight : initial.decodeState = .unsynced ∧
    (Exact 18 initial ⟨false,List.replicate 8 0x2EE0#16,by decide,by decide⟩ ↔ 3 ≤ 8 ∧ 8 ≤ 31 ∧ 4 ≤ 18) :=
  ⟨rfl,exact_iff 18 rfl _⟩

/-- In a full frame the last word ends behind the array; with two the second channel is old; and a
buffer of two is written at its fourth place. -/
theorem frames_misread : let full : SumdFrame := ⟨false,List.replicate 32 0x2EE0#16,by decide,by decide⟩
    let two : SumdFrame := ⟨false,[0x2EE0#16,0x2EE0#16],by decide,by decide⟩
    let four : SumdFrame := ⟨false,List.replicate 4 0x1F40#16,by decide,by decide⟩
    let later := four.bytes.foldl (Sumd.step 18) initial
    (¬ Exact 32 initial full ∧
      (last 32 initial full).output.map (fun output => output.channels.getLast?) = some (some (31,1491)) ∧
      (0x2EE0#16 >>> 3).toNat = 1500) ∧
    (¬ Exact 18 later two ∧
      (last 18 later two).output.map (fun output => (output.channelCount,output.channels.take 2)) =
        some (2,[(0,1500),(1,1000)])) ∧
    (¬ Exact 2 initial four ∧
      (last 2 initial four).output.map (fun output => output.channels.map Prod.fst) = some [0,1,2,3]) := by
  refine ⟨⟨?_,by decide +kernel,by decide⟩,⟨?_,by decide +kernel⟩,⟨?_,by decide +kernel⟩⟩
  · intro exact_
    exact absurd exact_.data (by decide +kernel)
  · intro exact_
    have filled : (last 18 (SumdFrame.bytes ⟨false,List.replicate 4 0x1F40#16,by decide,by decide⟩ |>.foldl (Sumd.step 18) initial)
      ⟨false,[0x2EE0#16,0x2EE0#16],by decide,by decide⟩).output.isSome := by decide +kernel
    obtain ⟨output,put⟩ := Option.isSome_iff_exists.mp filled
    obtain ⟨word,there,-⟩ := exact_.reported output put 1 (by decide)
    cases there
  · intro exact_
    have filled : ∃ output ∈ (last 2 initial ⟨false,List.replicate 4 0x1F40#16,by decide,by decide⟩).output,
        ∃ write ∈ output.channels,2 ≤ write.1 := by decide +kernel
    obtain ⟨output,put,write,member,beyond⟩ := filled
    exact absurd (exact_.channels output put write member) (by omega)

end Sumd
end AerialManipulator
