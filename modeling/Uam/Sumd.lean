import Uam.Library.Bytes

/-! The SUMD and SUMH receiver of `sumd.cpp`, which takes one byte at a time. -/
namespace AerialManipulator
open Bytes

def sumdMaxChannels : Nat := 32
def sumdHeaderId : Byte := 0xA8#8
def sumdIdSumh : Byte := 0x00#8
def sumdIdSumd : Byte := 0x01#8
def sumdIdFailsafe : Byte := 0x81#8

inductive SumdDecodeState
  | unsynced
  | gotHeader
  | gotState
  | gotLen
  | gotData
  | gotCrc
  | gotCrc16Byte1
  | gotCrc16Byte2
  deriving DecidableEq

structure ReceiverFcPacketHoTT where
  header : Byte
  status : Byte
  length : Byte
  sumdData : Vector Byte (sumdMaxChannels * 2)
  crc16High : Byte
  crc16Low : Byte
  telemetry : Byte
  crc8 : Byte

namespace ReceiverFcPacketHoTT
variable (p : ReceiverFcPacketHoTT) (index : Nat)

/-! The structure is packed: behind `sumd_data` lies the high byte of the checksum. No index goes beyond that. -/

def load : Byte := if index < sumdMaxChannels * 2 then p.sumdData.toList.getD index 0 else p.crc16High

def store (byte : Byte) : ReceiverFcPacketHoTT :=
  if index < sumdMaxChannels * 2 then {p with sumdData := p.sumdData.setIfInBounds index byte}
  else {p with crc16High := byte}

def channel (word : Nat) : Nat := ((p.load (word * 2 + 1)).toNat * 256 + (p.load (word * 2 + 2)).toNat) / 8

end ReceiverFcPacketHoTT

def sumdCrc16Bit (crc : BitVec 16) : BitVec 16 := if crc.getLsbD 15 then crc <<< 1 ^^^ 0x1021#16 else crc <<< 1

def sumdCrc16 (crc : BitVec 16) (value : Byte) : BitVec 16 :=
  (List.range 8).foldl (fun crc _ => sumdCrc16Bit crc) (crc ^^^ value.setWidth 16 <<< 8)

def sumdCrc8 (crc value : Byte) : Byte := crc+value

structure Sumd where
  decodeState : SumdDecodeState
  rxlen : BitVec 8
  rxpacket : ReceiverFcPacketHoTT
  crc8 : Byte
  crc16 : BitVec 16
  sumd : Bool
  crcOk : Bool
  rxCount : Byte

structure SumdOutput where
  rssi : Nat
  failsafe : Bool
  channelCount : Nat
  channels : List (Nat × Nat)

structure SumdResult where
  ret : Nat
  accesses : List Nat
  output : Option SumdOutput

/-- The words of the channels: roll, pitch, throttle and yaw, and the others as they come. -/
def sumdOrder (length : Nat) : List Nat := 1 :: 2 :: 0 :: 3 :: List.range' 4 (length-4)

namespace Sumd
variable (maxChanCount : Nat) (s : Sumd) (byte : Byte)

def accumulate : Sumd :=
  if s.sumd then {s with crc16 := sumdCrc16 s.crc16 byte} else {s with crc8 := sumdCrc8 s.crc8 byte}

def passes : Bool :=
  s.crcOk || if s.sumd then s.crc16.toNat = s.rxpacket.crc16High.toNat * 256 + byte.toNat else s.crc8 = byte

def keepCrc : ReceiverFcPacketHoTT :=
  if s.sumd then {s.rxpacket with crc16Low := byte} else {s.rxpacket with crc8 := byte}

def channelCount : Byte :=
  if maxChanCount < s.rxpacket.length.toNat then BitVec.ofNat 8 maxChanCount else s.rxpacket.length

def received : SumdResult :=
  let length := (s.channelCount maxChanCount).toNat
  ⟨0,(sumdOrder length).flatMap (fun word => [word * 2 + 1,word * 2 + 2]),
    some ⟨100,s.rxpacket.status = sumdIdFailsafe,length,
      (sumdOrder length).mapIdx (fun index word => (index,s.rxpacket.channel word))⟩⟩

def sumdDecode : Sumd × SumdResult :=
  match s.decodeState with
  | .unsynced =>
    if byte = sumdHeaderId then
      ({ s with decodeState := .gotHeader,rxlen := 0#8,rxpacket := { s.rxpacket with header := byte },
                crc8 := sumdCrc8 0#8 byte,crc16 := sumdCrc16 0#16 byte,sumd := true,crcOk := false },⟨1,[],none⟩)
    else (s,⟨3,[],none⟩)
  | .gotHeader =>
    if byte = sumdIdSumd ∨ byte = sumdIdFailsafe ∨ byte = sumdIdSumh then
      (accumulate { s with decodeState := .gotState,rxpacket := { s.rxpacket with status := byte },
                           sumd := if byte = sumdIdSumh then false else s.sumd } byte,⟨1,[],none⟩)
    else ({s with decodeState := .unsynced},⟨1,[],none⟩)
  | .gotState =>
    if 2 ≤ byte.toNat ∧ byte.toNat ≤ sumdMaxChannels then
      (accumulate { s with decodeState := .gotLen,rxlen := s.rxlen+1#8,
                           rxpacket := { s.rxpacket with length := byte } } byte,⟨1,[],none⟩)
    else ({s with decodeState := .unsynced},⟨1,[],none⟩)
  | .gotLen =>
    (accumulate { s with decodeState := if (s.rxlen + 1#8).toNat ≤ s.rxpacket.length.toNat * 2 then .gotLen else .gotData
                         rxlen := s.rxlen+1#8
                         rxpacket := s.rxpacket.store s.rxlen.toNat byte } byte,⟨1,[s.rxlen.toNat],none⟩)
  | .gotData =>
    ({ s with decodeState := if s.sumd then .gotCrc else .gotCrc16Byte1
              rxpacket := { s.rxpacket with crc16High := byte } },⟨1,[],none⟩)
  | .gotCrc16Byte1 =>
    ({s with decodeState := .gotCrc16Byte2,rxpacket := {s.rxpacket with crc16Low := byte}},⟨1,[],none⟩)
  | .gotCrc16Byte2 => ({s with decodeState := .gotCrc,rxpacket := {s.rxpacket with telemetry := byte}},⟨1,[],none⟩)
  | .gotCrc =>
    if s.passes byte then
      ({ s with decodeState := .unsynced,crcOk := true,rxCount := s.rxCount+1#8
                rxpacket := { s.keepCrc byte with length := s.channelCount maxChanCount } },s.received maxChanCount)
    else ({s with decodeState := .unsynced,rxpacket := s.keepCrc byte},⟨4,[],none⟩)

def step : Sumd := (s.sumdDecode maxChanCount byte).1

end Sumd
end AerialManipulator
