import Uam.Sbus
import Uam.Library.Runs

/-! What is sent over S.BUS comes out of the parser as it was, however the bytes arrive. -/
namespace AerialManipulator
open Bytes List Runs

lemma sbusPack_eq (oframe : List Byte) (byteindex offset : Nat) (values : List Nat) :
    sbusPack oframe byteindex offset values = BitStream.pack 11 oframe (8 * byteindex + offset) values := by
  induction values generalizing oframe byteindex offset with
  | nil => rfl
  | cons value rest ih =>
    have index : (8 * byteindex + offset) / 8 = byteindex + offset / 8 := by omega
    have place : 8 * (byteindex + offset / 8) + (offset % 8 + 11) = 8 * byteindex + offset + 11 := by omega
    rw [sbusPack,BitStream.pack,ih,place,index,Nat.mul_add_mod]

lemma sbusDecoder_places : ∀ channel < 16,∀ decode ∈ sbusDecoder.getD channel [],decode.mask < 2^8 ∧
    ∀ j < 8,decode.mask.testBit j → decode.rshift+j < 8 ∧
      8 * decode.byte + decode.rshift = 11 * channel + decode.lshift ∧ decode.lshift + j < 11 := by decide

lemma sbusDecoder_covers : ∀ channel < 16,∀ k < 11,∃ decode ∈ sbusDecoder.getD channel [],
    decode.lshift ≤ k ∧ decode.mask.testBit (k-decode.lshift) := by decide

lemma testBit_sbusPiece (frame : List Byte) (decode : SbusBitPick) (k : Nat) : (sbusPiece frame decode).testBit k =
    (decide (decode.lshift ≤ k) && ((frame.getD (1+decode.byte) 0).getLsbD (decode.rshift+(k-decode.lshift)) &&
      decode.mask.testBit (k-decode.lshift))) := by
  unfold sbusPiece
  split
  · rw [Nat.testBit_shiftLeft,Nat.testBit_and,Nat.testBit_shiftRight]
    rfl
  next none =>
  rw [not_not.mp none]
  simp

lemma testBit_foldl_or {α : Type} (piece : α → Nat) (row : List α) (start k : Nat) :
    (row.foldl (fun value decode => value ||| piece decode) start).testBit k =
      (start.testBit k || row.any fun decode => (piece decode).testBit k) := by
  induction row generalizing start with
  | nil => simp
  | cons decode rest ih => rw [foldl_cons,ih,Nat.testBit_or,any_cons,Bool.or_assoc]

lemma testBit_sbusRaw (frame : List Byte) (inside : channel < 16) (k : Nat) :
    (sbusRaw frame channel).testBit k = (decide (k < 11) && BitStream.bit frame (8 + 11 * channel + k)) := by
  have piece (decode : SbusBitPick) (member : decode ∈ sbusDecoder.getD channel []) (above : decode.lshift ≤ k)
      (masked : decode.mask.testBit (k-decode.lshift)) : k < 11 ∧
      (frame.getD (1+decode.byte) 0).getLsbD (decode.rshift+(k-decode.lshift)) =
        BitStream.bit frame (8 + 11 * channel + k) := by
    obtain ⟨narrow,places⟩ := sbusDecoder_places channel inside decode member
    have short : k-decode.lshift < 8 := by
      by_contra far
      have := Nat.testBit_lt_two_pow (lt_of_lt_of_le narrow (Nat.pow_le_pow_right (by decide : 0 < 2) (not_lt.mp far)))
      rw [this] at masked
      cases masked
    obtain ⟨within,same,below⟩ := places _ short masked
    have index : (8 + 11 * channel + k) / 8 = 1 + decode.byte := by omega
    have place : (8 + 11 * channel + k) % 8 = decode.rshift + (k - decode.lshift) := by omega
    rw [BitStream.bit,index,place]
    exact ⟨by omega,rfl⟩
  rw [sbusRaw,testBit_foldl_or,Nat.zero_testBit,Bool.false_or,Bool.eq_iff_iff,any_eq_true]
  simp only [testBit_sbusPiece,Bool.and_eq_true,decide_eq_true_eq]
  constructor
  · rintro ⟨decode,member,above,set,masked⟩
    obtain ⟨below,same⟩ := piece decode member above masked
    exact ⟨below,same ▸ set⟩
  · rintro ⟨below,set⟩
    obtain ⟨decode,member,above,masked⟩ := sbusDecoder_covers channel inside k below
    exact ⟨decode,member,above,(piece decode member above masked).2 ▸ set,masked⟩

lemma sbusScaleFactor_eq : sbusScaleFactor = 5 / 8 := by
  norm_num [sbusScaleFactor,sbusTargetMax,sbusTargetMin,sbusRangeMax,sbusRangeMin]

lemma sbusHalf_eq : sbusHalf = 1 / 2 := by norm_num [sbusHalf]

lemma sbusScaleOffset_eq : sbusScaleOffset = 874 := by
  have exact_ : (sbusTargetMin - (sbusScaleFactor * sbusRangeMin + sbusHalf) : ℚ) = 874 + 1 / 2 := by
    rw [sbusScaleFactor_eq,sbusHalf_eq]
    norm_num [sbusTargetMin,sbusRangeMin]
  rw [sbusScaleOffset,exact_,Truncation.truncate,if_pos (by norm_num)]
  exact Int.floor_eq_iff.mpr ⟨by norm_num,by norm_num⟩

lemma convert_eq (uint16 : Uint16) {x : ℚ} {n : Int} (nonneg : 0 ≤ n) (small : n ≤ 65535) (below : (n : ℚ) ≤ x)
    (above : x < n+1) : uint16.convert x = n := by
  have positive : 0 ≤ x := le_trans (mod_cast nonneg) below
  have cut : Truncation.truncate x = n := by
    rw [Truncation.truncate,if_pos positive]
    exact Int.floor_eq_iff.mpr ⟨below,above⟩
  rw [uint16.fits x (by omega) (by omega),cut]

lemma scale_round_trip (uint16 : Uint16) (least : 874 ≤ value) (most : value ≤ 2153) : sbusEncode uint16 value < 2^11 ∧
      uint16.convert ((sbusEncode uint16 value : Int) * sbusScaleFactor + sbusHalf) + sbusScaleOffset = value := by
  obtain ⟨x,rfl⟩ : ∃ x,value = x+874 := ⟨value-874,by omega⟩
  obtain ⟨raw,down,up,small⟩ : ∃ raw : Nat,raw * 10 ≤ 16 * x + 5 ∧ 16 * x + 5 < (raw + 1) * 10 ∧ raw < 2^11 :=
    ⟨(16 * x + 5) / 10,by omega,by omega,by omega⟩
  have low : (raw * 10 : ℚ) ≤ 16 * x + 5 := mod_cast down
  have high : (16 * x + 5 : ℚ) < (raw + 1) * 10 := mod_cast up
  have there : uint16.convert ((((x + 874 : Nat) : Int) - sbusScaleOffset : Int) / sbusScaleFactor + sbusHalf) = raw := by
    rw [sbusScaleOffset_eq,sbusScaleFactor_eq,sbusHalf_eq]
    apply convert_eq uint16 (by omega) (by omega)
    all_goals
      push_cast
      linarith
  have encoded : sbusEncode uint16 (x+874) = raw := by
    rw [sbusEncode,there]
    exact if_neg (by omega)
  have back : uint16.convert ((raw : Int) * sbusScaleFactor + sbusHalf) = x := by
    rw [sbusScaleFactor_eq,sbusHalf_eq]
    apply convert_eq uint16 (by omega) (by omega)
    all_goals
      push_cast
      linarith
  rw [encoded]
  refine ⟨small,?_⟩
  rw [back,sbusScaleOffset_eq]
  push_cast
  rfl

structure SbusVector where
  values : List Nat
  least : 1 ≤ values.length
  most : values.length ≤ sbusInputChannels
  range : ∀ value ∈ values,874 ≤ value ∧ value ≤ 2153

namespace SbusVector
variable (uint16 : Uint16) (vector : SbusVector)

def frame : List Byte := sbus1Frame uint16 vector.values

/-- What is to be decoded: channels that are not supplied at their least value, both switches off. -/
def decoded (maxChannels : Nat) : SbusOutput :=
  ⟨vector.values ++ List.replicate (sbusInputChannels - vector.values.length) 874 ++ if 17 < maxChannels then [998,998] else [],
    false,false⟩

lemma frame_eq : vector.frame uint16 = BitStream.pack 11 (sbusStartSymbol::List.replicate 24 0) 8
    (vector.values.map (sbusEncode uint16)) := by
  have few : vector.values.length ≤ 16 := vector.most
  rw [frame,sbus1Frame,take_of_length_le few,sbusPack_eq]
  rfl

lemma length_frame : (vector.frame uint16).length = sbusFrameSize := by
  rw [frame_eq,BitStream.length_pack]
  rfl

lemma bit_blank (m : Nat) :
    BitStream.bit (sbusStartSymbol::List.replicate 24 0) m = (decide (m < 8) && sbusStartSymbol.getLsbD m) := by
  unfold BitStream.bit
  by_cases first : m < 8
  · rw [Nat.div_eq_of_lt first,Nat.mod_eq_of_lt first]
    simp [first]
  obtain ⟨index,next⟩ : ∃ index,m / 8 = index + 1 := ⟨m / 8 - 1,by omega⟩
  have zero : (List.replicate 24 (0 : Byte)).getD index 0 = 0 := by
    rw [getD_eq_getElem?_getD,getElem?_replicate]
    split <;> rfl
  rw [next,getD_cons_succ,zero]
  simp [first]

lemma bit_frame (m : Nat) : BitStream.bit (vector.frame uint16) m = ((decide (m < 8) && sbusStartSymbol.getLsbD m) ||
    (decide (8 ≤ m) && ((vector.values.map (sbusEncode uint16)).getD ((m - 8) / 11) 0).testBit ((m - 8) % 11))) := by
  have size := vector.most
  have limit : sbusInputChannels = 16 := rfl
  have fit : ∀ value ∈ vector.values.map (sbusEncode uint16),value < 2^11 := by
    intro value member
    obtain ⟨source,there,rfl⟩ := mem_map.mp member
    exact (scale_round_trip uint16 (vector.range source there).1 (vector.range source there).2).1
  rw [frame_eq,BitStream.bit_pack (by decide) (by decide) fit (by simp; omega),bit_blank]

variable {uint16 vector} {buffer : List Byte}

section
variable (same : buffer.take sbusFrameSize = vector.frame uint16)
include same

lemma bit_buffer (inside : m < 200) : BitStream.bit buffer m = BitStream.bit (vector.frame uint16) m := by
  have limit : sbusFrameSize = 25 := rfl
  rw [BitStream.bit,BitStream.bit,← same,getD_eq_getElem?_getD,getD_eq_getElem?_getD,
    getElem?_take_of_lt (by omega)]

lemma byte_buffer (inside : index < 25)
    (b : Byte) (bits : ∀ j < 8,BitStream.bit (vector.frame uint16) (8 * index + j) = b.getLsbD j) :
    buffer.getD index 0 = b := by
  apply BitVec.eq_of_getLsbD_eq
  intro j short
  have bit := bit_buffer same (m := 8 * index + j) (by omega)
  rw [bits j short,BitStream.bit,Nat.mul_add_div (by decide),Nat.div_eq_of_lt short,Nat.mul_add_mod,
    Nat.mod_eq_of_lt short] at bit
  exact bit

lemma start_buffer : buffer.getD 0 0 = sbusStartSymbol := by
  apply byte_buffer same (by decide)
  intro j short
  rw [bit_frame]
  simp [short]

lemma rest_buffer (behind : 23 ≤ index) (inside : index < 25) : buffer.getD index 0 = 0#8 := by
  have most := vector.most
  have limit : sbusInputChannels = 16 := rfl
  apply byte_buffer same inside
  intro j short
  have beyond : (vector.values.map (sbusEncode uint16)).getD ((8 * index + j - 8) / 11) 0 = 0 := by
    rw [getD_eq_getElem?_getD,getElem?_eq_none (by simp; omega)]
    rfl
  have later : ¬8 * index + j < 8 := by omega
  rw [bit_frame,beyond]
  simp [later]

lemma raw_buffer (inside : channel < 16) :
    sbusRaw buffer channel = (vector.values.map (sbusEncode uint16)).getD channel 0 := by
  apply Nat.eq_of_testBit_eq
  intro k
  rw [testBit_sbusRaw buffer inside]
  by_cases short : k < 11
  · have index : (8 + 11 * channel + k - 8) / 11 = channel := by omega
    have place : (8 + 11 * channel + k - 8) % 11 = k := by omega
    rw [bit_buffer same (by omega),bit_frame,index,place]
    have data : 8 ≤ 8 + 11 * channel + k := by omega
    simp [short,data,Nat.not_lt.mpr data]
  · have narrow : (vector.values.map (sbusEncode uint16)).getD channel 0 < 2^11 := by
      rw [getD_eq_getElem?_getD,getElem?_map]
      cases there : vector.values[channel]? with
      | none => exact Nat.two_pow_pos 11
      | some value =>
        have range := vector.range value (mem_of_getElem? there)
        exact (scale_round_trip uint16 range.1 range.2).1
    rw [Nat.testBit_lt_two_pow (lt_of_lt_of_le narrow (Nat.pow_le_pow_right (by decide) (not_lt.mp short)))]
    simp [short]

lemma value_buffer (inside : channel < 16) : sbusValue uint16 buffer channel = vector.values.getD channel 874 := by
  rw [sbusValue,raw_buffer same inside,getD_eq_getElem?_getD,getD_eq_getElem?_getD,getElem?_map]
  cases there : vector.values[channel]? with
  | none =>
    have zero : uint16.convert (((0 : Nat) : Int) * sbusScaleFactor + sbusHalf) = 0 := by
      rw [sbusHalf_eq]
      apply convert_eq uint16 (by decide) (by decide) <;> norm_num
    change ((uint16.convert (((0 : Nat) : Int) * sbusScaleFactor + sbusHalf) + sbusScaleOffset) % 65536).toNat = 874
    rw [zero,sbusScaleOffset_eq]
    rfl
  | some value =>
    obtain ⟨least,most⟩ := vector.range value (mem_of_getElem? there)
    change ((uint16.convert ((sbusEncode uint16 value : Int) * sbusScaleFactor + sbusHalf) + sbusScaleOffset) % 65536).toNat = value
    rw [(scale_round_trip uint16 least most).2]
    omega

lemma output_buffer
    (enough : 16 ≤ maxChannels) : sbusOutput uint16 buffer maxChannels = vector.decoded maxChannels := by
  have most := vector.most
  have limit : sbusInputChannels = 16 := rfl
  have flags : buffer.getD sbusFlagsByte 0 = 0#8 := rest_buffer same (by decide) (by decide)
  have count : (if sbusInputChannels < maxChannels then sbusInputChannels else maxChannels) = 16 := by
    split <;> omega
  have channels : (List.range 16).map (sbusValue uint16 buffer) =
      vector.values ++ List.replicate (sbusInputChannels - vector.values.length) 874 := by
    apply ext_getElem
    · simp
      omega
    intro i left right
    have inside : i < 16 := by simpa using left
    rw [getElem_map,getElem_range,value_buffer same inside,getElem_append]
    split
    next supplied => rw [getD_eq_getElem?_getD,getElem?_eq_getElem supplied,Option.getD_some]
    next missing => rw [getD_eq_getElem?_getD,getElem?_eq_none (by omega),getElem_replicate,
      Option.getD_none]
  unfold sbusOutput decoded
  simp only [flags,count,channels]
  by_cases wide : 17 < maxChannels
  · rw [if_pos ⟨wide,by decide⟩,if_pos wide]
    rfl
  · rw [if_neg (fun both => wide both.1),if_neg wide,append_nil]
    rfl

end
end SbusVector

structure Sbus.Filling (s : Sbus) (bytes : List Byte) : Prop where
  state : s.sbusDecodeState = .sbusStart ∨ s.sbusDecodeState = .sbus1Sync
  count : s.partialFrameCount = bytes.length
  stored : s.sbusFrame.toList.take bytes.length = bytes

def Sbus.At (s : Sbus) (bytes : List Byte) : Prop := s.Filling bytes ∨ (bytes = [] ∧ s.limit.sbusDecodeState = .desync)

namespace Sbus
variable {s : Sbus} {bytes : List Byte}

lemma Filling.limit (filling : s.Filling bytes) (short : bytes.length < sbusFrameSize) : s.limit = s := by
  have count := filling.count
  have size : sbusFrameSize = 25 := rfl
  have buffer : sbusBufferSize = 37 := rfl
  rw [Sbus.limit,if_neg (by omega)]

lemma Filling.keep (filling : s.Filling bytes) (short : bytes.length < sbusFrameSize) (byte : Byte) :
    (s.keep byte).Filling (bytes ++ [byte]) := by
  have inside : bytes.length < sbusBufferSize := Nat.lt_of_lt_of_le short (by decide)
  refine ⟨filling.state,?_,?_⟩
  · rw [length_append,← filling.count]
    rfl
  · rw [Sbus.keep,filling.count,length_append,length_singleton]
    rw [take_setIfInBounds _ inside,filling.stored]

lemma At.received (at_ : s.At bytes) (now : BitVec 64) : Sbus.At {s with lastRxTime := now} bytes := by
  rcases at_ with filling | ⟨none,desync⟩
  · exact .inl ⟨filling.state,filling.count,filling.stored⟩
  refine .inr ⟨none,?_⟩
  unfold Sbus.limit at desync ⊢
  split
  · rfl
  next free =>
  rw [if_neg free] at desync
  exact desync

end Sbus

namespace SbusParsing
variable {uint16 : Uint16} {limit : Nat} {p : SbusParsing} {bytes : List Byte}

lemma take_filling (uint16 : Uint16) (limit : Nat) (filling : p.sbus.Filling bytes)
    (short : bytes.length < sbusFrameSize) (byte : Byte) : p.take uint16 limit byte =
      if bytes.length+1 < sbusFrameSize then {p with sbus := p.sbus.keep byte}
      else
        let result := (p.sbus.keep byte).sbusDecode uint16 limit
        ⟨result.2.recover result.1.isSome,result.1.isSome,p.decoded ++ result.1.toList⟩ := by
  unfold SbusParsing.take
  dsimp only
  rw [filling.limit short,← filling.count]
  rcases filling.state with state | state
  all_goals
    rw [state]
    rfl

variable {byte : Byte}

lemma take_within (uint16 : Uint16) (limit : Nat) (at_ : p.sbus.At bytes)
    (short : bytes.length+1 < sbusFrameSize) (start : bytes = [] → byte = sbusStartSymbol) :
    ∃ s : Sbus,p.take uint16 limit byte = ⟨s,p.decodeRet,p.decoded⟩ ∧ s.Filling (bytes ++ [byte]) := by
  rcases at_ with filling | ⟨rfl,desync⟩
  · rw [take_filling uint16 limit filling (by omega),if_pos short]
    exact ⟨_,rfl,filling.keep (by omega) byte⟩
  unfold SbusParsing.take
  dsimp only
  rw [desync]
  rw [if_pos (start rfl)]
  refine ⟨_,rfl,.inl rfl,rfl,?_⟩
  exact take_setIfInBounds _ (by decide) byte

lemma take_last {vector : SbusVector} (enough : 16 ≤ limit) (filling : p.sbus.Filling bytes)
    (whole : bytes ++ [byte] = vector.frame uint16) :
    ∃ s : Sbus,p.take uint16 limit byte = ⟨s,true,p.decoded ++ [vector.decoded limit]⟩ ∧ s.Filling [] := by
  have size := vector.length_frame uint16
  rw [← whole,length_append,length_singleton] at size
  have kept := filling.keep (by omega) byte
  have same : (p.sbus.keep byte).sbusFrame.toList.take sbusFrameSize = vector.frame uint16 := by
    rw [← whole,← kept.stored,length_append,length_singleton,size]
  have decoded : (p.sbus.keep byte).sbusDecode uint16 limit =
      (some (vector.decoded limit),{p.sbus.keep byte with sbusDecodeState := .sbus1Sync}) := by
    rw [Sbus.sbusDecode,if_neg (not_not.mpr (SbusVector.start_buffer same)),
      SbusVector.rest_buffer same (by decide : 23 ≤ 24) (by decide),SbusVector.output_buffer same enough]
    rfl
  rw [take_filling uint16 limit filling (by omega),if_neg (by omega),decoded]
  exact ⟨_,rfl,.inr rfl,rfl,rfl⟩

lemma frame_split {vector : SbusVector}
    (stream : bytes ++ byte::more = vector.frame uint16 ++ rest) (short : bytes.length < sbusFrameSize) :
    ∃ behind,vector.frame uint16 = bytes ++ byte::behind ∧ more = behind ++ rest := by
  rw [← vector.length_frame uint16] at short
  rcases append_eq_append_iff.mp stream with ⟨part,whole,follows⟩ | ⟨part,whole,_⟩
  · cases part with
    | nil =>
      rw [whole,append_nil] at short
      exact absurd short (lt_irrefl _)
    | cons first behind =>
      obtain ⟨rfl,onward⟩ := List.cons.inj follows
      exact ⟨behind,whole,onward⟩
  · rw [whole,length_append] at short
    exact absurd short (by omega)

lemma foldl_take (enough : 16 ≤ limit) {chunk after : List Byte} {vectors : List SbusVector}
    (at_ : p.sbus.At bytes) (short : bytes.length < sbusFrameSize)
    (stream : bytes ++ (chunk ++ after) = vectors.flatMap (·.frame uint16)) :
    let parsed := chunk.foldl (SbusParsing.take uint16 limit) p
    ∃ done todo rest,vectors = done ++ todo ∧ parsed.decoded = p.decoded ++ done.map (·.decoded limit) ∧
      parsed.decodeRet = (p.decodeRet || !done.isEmpty) ∧ parsed.sbus.At rest ∧ rest.length < sbusFrameSize ∧
      rest ++ after = todo.flatMap (·.frame uint16) := by
  induction chunk generalizing p bytes vectors with
  | nil => exact ⟨[],vectors,bytes,rfl,by simp,by simp,at_,short,by simpa using stream⟩
  | cons byte chunk ih =>
    cases vectors with
    | nil => simp at stream
    | cons vector vectors =>
      have size := vector.length_frame uint16
      rw [flatMap_cons,cons_append] at stream
      obtain ⟨behind,whole,stream⟩ := frame_split stream short
      rw [whole,length_append,length_cons] at size
      cases behind with
      | nil =>
        have filling : p.sbus.Filling bytes := by
          rcases at_ with filling | ⟨none,-⟩
          · exact filling
          · rw [none] at size
            exact absurd size (by decide)
        obtain ⟨s,taken,ready⟩ := take_last enough filling whole.symm
        rw [foldl_cons,taken]
        obtain ⟨done,todo,rest,rfl,decoded,ret,after⟩ := ih (p := ⟨s,true,_⟩) (.inl ready) (by decide) stream
        exact ⟨vector::done,todo,rest,rfl,by rw [decoded]; simp,by rw [ret]; simp,after⟩
      | cons next behind =>
        rw [length_cons] at size
        have start : bytes = [] → byte = sbusStartSymbol := by
          rintro rfl
          have all : (vector.frame uint16).take sbusFrameSize = vector.frame uint16 :=
            take_of_length_le (vector.length_frame uint16).le
          have first := SbusVector.start_buffer all
          rw [whole] at first
          exact first
        obtain ⟨s,taken,filling⟩ := take_within uint16 limit at_ (by omega) start
        rw [foldl_cons,taken]
        have stream : (bytes ++ [byte]) ++ (chunk ++ after) = (vector::vectors).flatMap (·.frame uint16) := by
          rw [flatMap_cons,whole,stream]
          simp
        exact ih (p := ⟨s,_,_⟩) (.inl filling) (by simp; omega) stream

end SbusParsing

def SbusSender.written (uint16 : Uint16) : SbusSender → List (BitVec 64 × SbusVector) → List SbusVector
  | _,[] => []
  | s,call::rest =>
    let result := s.sbus1Output uint16 call.1 call.2.values
    (if result.1.isSome then [call.2] else []) ++ written uint16 result.2 rest

def SbusSender.stream (uint16 : Uint16) (s : SbusSender) (calls : List (BitVec 64 × SbusVector)) : List Byte :=
  (outputs (fun s call => s.sbus1Output uint16 call.1 call.2.values) s calls).flatMap (Option.getD · [])

lemma SbusSender.stream_eq (uint16 : Uint16) (s : SbusSender) (calls : List (BitVec 64 × SbusVector)) :
    s.stream uint16 calls = (s.written uint16 calls).flatMap (·.frame uint16) := by
  induction calls generalizing s with
  | nil => rfl
  | cons call rest ih =>
    rw [stream,outputs,flatMap_cons,written,flatMap_append,← ih]
    congr 1
    unfold sbus1Output
    split
    · simp [SbusVector.frame]
    · rfl

lemma parse_stream (uint16 : Uint16) {limit : Nat} (enough : 16 ≤ limit) {s : Sbus} {bytes : List Byte}
    {vectors : List SbusVector} {calls : List (BitVec 64 × List Byte)} (at_ : s.At bytes)
    (short : bytes.length < sbusFrameSize)
    (stream : bytes ++ calls.flatMap Prod.snd = vectors.flatMap (·.frame uint16)) :
    ∃ parts : List (List SbusVector),parts.flatten = vectors ∧
      outputs (fun s call => s.sbusParse uint16 limit call.1 call.2) s calls =
        parts.map fun part => (!part.isEmpty,part.map (·.decoded limit)) := by
  induction calls generalizing s bytes vectors with
  | nil =>
    cases vectors with
    | nil => exact ⟨[],rfl,rfl⟩
    | cons vector vectors =>
      have size := congrArg List.length stream
      simp only [flatMap_cons,length_append,vector.length_frame,flatMap_nil,append_nil] at size
      omega
  | cons call rest ih =>
    rw [flatMap_cons] at stream
    have there : Sbus.At {s with lastRxTime := call.1} bytes := at_.received call.1
    obtain ⟨done,todo,left,rfl,decoded,ret,ends,below,further⟩ :=
      SbusParsing.foldl_take (p := ⟨{s with lastRxTime := call.1},false,[]⟩) enough there short stream
    obtain ⟨parts,rfl,answers⟩ := ih ends below further
    refine ⟨done::parts,rfl,?_⟩
    rw [outputs,map_cons,← answers,Sbus.sbusParse]
    rw [decoded,ret]
    rfl

/-- However the stream is cut into calls, they return the vectors that were written, each once and in order. -/
theorem sbus_round_trip (uint16 : Uint16) {maxChannels : Nat} (enough : 16 ≤ maxChannels) {s : Sbus}
    (desync : s.sbusDecodeState = .desync) (sender : SbusSender) (vectors : List (BitVec 64 × SbusVector))
    {calls : List (BitVec 64 × List Byte)} (arrives : calls.flatMap Prod.snd = sender.stream uint16 vectors) :
    ∃ parts : List (List SbusVector),parts.flatten = sender.written uint16 vectors ∧
      outputs (fun s call => s.sbusParse uint16 maxChannels call.1 call.2) s calls =
        parts.map fun part => (!part.isEmpty,part.map (·.decoded maxChannels)) := by
  have waits : s.limit.sbusDecodeState = .desync := by
    unfold Sbus.limit
    split
    · rfl
    · exact desync
  have start : s.At [] := .inr ⟨rfl,waits⟩
  apply parse_stream uint16 enough start (by decide)
  rw [List.nil_append,arrives,sender.stream_eq]

theorem sbus_round_trip_cut : let uint16 : Uint16 := .saturating (by decide)
    let sender : SbusSender := ⟨0#64,13888⟩
    let vectors : List (BitVec 64 × SbusVector) :=
      [(20000#64,⟨[1500,874],by decide,by decide,by decide⟩),(40000#64,⟨[2153],by decide,by decide,by decide⟩)]
    let s : Sbus := ⟨.desync,.replicate sbusBufferSize 0#8,0,0,0#64⟩
    let calls := [(1#64,(sender.stream uint16 vectors).take 7),(2#64,(sender.stream uint16 vectors).drop 7)]
    (16 ≤ 18 ∧ s.sbusDecodeState = .desync ∧ calls.flatMap Prod.snd = sender.stream uint16 vectors) ∧
    ∃ parts : List (List SbusVector),parts.flatten = sender.written uint16 vectors ∧
      outputs (fun s call => s.sbusParse uint16 18 call.1 call.2) s calls =
        parts.map fun part => (!part.isEmpty,part.map (·.decoded 18)) := by
  intro uint16 sender vectors s calls
  have arrives : calls.flatMap Prod.snd = sender.stream uint16 vectors := by simp [calls]
  exact ⟨⟨by decide,rfl,arrives⟩,sbus_round_trip uint16 (by decide) rfl sender vectors arrives⟩

end AerialManipulator
