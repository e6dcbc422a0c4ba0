import Uam.Library.Bytes

/-! The ST24 receiver of `st24.cpp`, one byte at a time. Its conversions of floats are written as
divisions: no rounding would show. -/
namespace AerialManipulator
open Bytes

def st24DataLenMax : Nat := 64
def st24Stx1 : Byte := 0x55#8
def st24Stx2 : Byte := 0x55#8

inductive St24PacketType
  | channelData12
  | channelData24
  | transmitterGpsData

def St24PacketType.number : St24PacketType → Byte
  | .channelData12 => 0#8
  | .channelData24 => 1#8
  | .transmitterGpsData => 2#8

def St24PacketType.ofByte (type : Byte) : Option St24PacketType :=
  if type = 0#8 then some .channelData12
  else if type = 1#8 then some .channelData24
  else if type = 2#8 then some .transmitterGpsData else none

inductive St24DecodeState
  | unsynced
  | gotStx1
  | gotStx2
  | gotLen
  | gotType
  | gotData
  deriving DecidableEq

structure ReceiverFcPacket where
  length : Byte
  type : Byte
  st24Data : Vector Byte st24DataLenMax
  crc8 : Byte

structure St24 where
  decodeState : St24DecodeState
  rxlen : BitVec 8
  rxpacket : ReceiverFcPacket

def st24CrcBit (crc : Byte) (set : Bool) : Byte :=
  let shifted := if crc.getLsbD 7 then crc <<< 1 ^^^ 0x07#8 else crc <<< 1
  if set then shifted ^^^ 0x07#8 else shifted

def st24CrcByte (crc byte : Byte) : Byte :=
  [7,6,5,4,3,2,1,0].foldl (fun crc i => st24CrcBit crc (byte.getLsbD i)) crc

def st24CommonCrc8 (bytes : List Byte) : Byte := bytes.foldl st24CrcByte 0#8

structure St24Output where
  rssi : Nat
  lostCount : Byte
  channelCount : Nat
  channels : List (Nat × Nat)

def st24Scale (value : Nat) : Nat := (2 * value + 3) / 6 + 832

def st24Strides (channel : Nat → Byte) (strideCount : Nat) : Nat → Nat → Nat → List (Nat × Nat)
  | 0,_,_ => []
  | fuel+1,i,chanIndex =>
    if i < strideCount then
      let first := (channel i).toNat * 16 + (channel (i + 1)).toNat / 16
      let second := (channel (i + 1)).toNat % 16 * 256 + (channel (i + 2)).toNat
      (chanIndex,st24Scale first) :: (chanIndex+1,st24Scale second) ::
        st24Strides channel strideCount fuel (i+3) (chanIndex+2)
    else []

def st24Channels (capacity : Nat) (data : Vector Byte st24DataLenMax) (maxChanCount : Nat) : St24Output :=
  let channelCount := if maxChanCount < capacity then maxChanCount else capacity
  let strideCount := channelCount * 3 / 2
  ⟨(data.toList.getD 2 0).toNat * 100 / 255,data.toList.getD 3 0,channelCount,
    st24Strides (fun i => data.toList.getD (4+i) 0) strideCount strideCount 0 0⟩

def channelData12 (data : Vector Byte st24DataLenMax) (maxChanCount : Nat) : St24Output := st24Channels 12 data maxChanCount

def channelData24 (data : Vector Byte st24DataLenMax) (maxChanCount : Nat) : St24Output := st24Channels 24 data maxChanCount

structure St24Result where
  ret : Nat
  dataIndex : Option Int
  output : Option St24Output

/-- A write outside of the array is not followed any further. -/
def ReceiverFcPacket.store (p : ReceiverFcPacket) (index : Int) (byte : Byte) : ReceiverFcPacket :=
  if 0 ≤ index then {p with st24Data := p.st24Data.setIfInBounds index.toNat byte} else p

def ReceiverFcPacket.memory (p : ReceiverFcPacket) : List Byte := p.length :: p.type :: p.st24Data.toList

def St24PacketType.received (maxChanCount : Nat) (data : Vector Byte st24DataLenMax) : St24PacketType → St24Result
  | .channelData12 => ⟨0,none,some (AerialManipulator.channelData12 data maxChanCount)⟩
  | .channelData24 => ⟨0,none,some (AerialManipulator.channelData24 data maxChanCount)⟩
  | .transmitterGpsData => ⟨5,none,none⟩

namespace St24
variable (maxChanCount : Nat) (s : St24) (byte : Byte)

def passes : Bool := st24CommonCrc8 (s.rxpacket.memory.take (s.rxlen+1#8).toNat) = byte

def gotData : St24Result :=
  if s.passes byte then
    (St24PacketType.ofByte s.rxpacket.type).elim ⟨2,none,none⟩ (St24PacketType.received maxChanCount s.rxpacket.st24Data)
  else ⟨4,none,none⟩

def st24Decode : St24 × St24Result :=
  match s.decodeState with
  | .unsynced =>
    if byte = st24Stx1 then ({s with decodeState := .gotStx1},⟨1,none,none⟩) else (s,⟨3,none,none⟩)
  | .gotStx1 => ({s with decodeState := if byte = st24Stx2 then .gotStx2 else .unsynced},⟨1,none,none⟩)
  | .gotStx2 =>
    if byte.toNat ≤ 1+1+st24DataLenMax then
      ({decodeState := .gotLen,rxlen := 0#8,rxpacket := {s.rxpacket with length := byte}},⟨1,none,none⟩)
    else ({s with decodeState := .unsynced},⟨1,none,none⟩)
  | .gotLen =>
    ({decodeState := .gotType,rxlen := s.rxlen+1#8,rxpacket := {s.rxpacket with type := byte}},⟨1,none,none⟩)
  | .gotType =>
    let index : Int := s.rxlen.toNat-1
    ({ decodeState := if ((s.rxlen+1#8).toNat : Int) = s.rxpacket.length.toNat-1 then .gotData else .gotType
       rxlen := s.rxlen+1#8
       rxpacket := s.rxpacket.store index byte },⟨1,some index,none⟩)
  | .gotData =>
    ({decodeState := .unsynced,rxlen := s.rxlen+1#8,rxpacket := {s.rxpacket with crc8 := byte}},
      s.gotData maxChanCount byte)

def step : St24 := (s.st24Decode maxChanCount byte).1

end St24
end AerialManipulator
