import Uam.Library.BitStream
import Uam.Library.Truncation
import Mathlib.Data.Rat.Floor

/-! The S.BUS protocol of `sbus.cpp`: frames that are written, and a parser that takes any number of
bytes at a time. Channels are scaled exactly. -/
namespace AerialManipulator
open Bytes

def sbusFrameSize : Nat := 25
def sbusBufferSize : Nat := sbusFrameSize + sbusFrameSize / 2
def sbusStartSymbol : Byte := 0x0f#8
def sbusInputChannels : Nat := 16
def sbusFlagsByte : Nat := 23
def sbusFailsafeBit : Nat := 3
def sbusFramelostBit : Nat := 2

def sbusRangeMin : Int := 200
def sbusRangeMax : Int := 1800
def sbusTargetMin : Int := 1000
def sbusTargetMax : Int := 2000

def sbusScaleFactor : ℚ := (sbusTargetMax - sbusTargetMin : Int) / (sbusRangeMax - sbusRangeMin : Int)

def sbusHalf : ℚ := 1 / (2 : Int)

def sbusScaleOffset : Int := Truncation.truncate (sbusTargetMin - (sbusScaleFactor * sbusRangeMin + sbusHalf))

abbrev Uint16 := Truncation.Conversion ℚ 0 65535

def sbusEncode (uint16 : Uint16) (value : Nat) : Nat :=
  let scaled := (uint16.convert (((value : Int) - sbusScaleOffset : Int) / sbusScaleFactor + sbusHalf)).toNat
  if 0x07ff < scaled then 0x07ff else scaled

def sbusPack : List Byte → Nat → Nat → List Nat → List Byte
  | oframe,_,_,[] => oframe
  | oframe,byteindex,offset,value::rest =>
    -- the offset is first brought below eight, a byte at a time
    sbusPack (BitStream.insert oframe (byteindex + offset / 8) (offset % 8) value) (byteindex + offset / 8)
      (offset % 8 + 11) rest

def sbus1Frame (uint16 : Uint16) (values : List Nat) : List Byte :=
  sbusPack (sbusStartSymbol :: List.replicate (sbusFrameSize-1) 0) 1 0 ((values.take 16).map (sbusEncode uint16))

structure SbusSender where
  lastTxframeTime : BitVec 64
  sbus1FrameDelay : Nat

def SbusSender.sbus1Output (uint16 : Uint16) (s : SbusSender) (now : BitVec 64) (values : List Nat) :
    Option (List Byte) × SbusSender :=
  if s.sbus1FrameDelay < (now-s.lastTxframeTime).toNat then
    (some (sbus1Frame uint16 values),{s with lastTxframeTime := now})
  else (none,s)

structure SbusBitPick where
  byte : Nat
  rshift : Nat
  mask : Nat
  lshift : Nat
  deriving DecidableEq

def sbusDecoder : List (List SbusBitPick) := [
  [⟨0,0,0xff,0⟩,⟨1,0,0x07,8⟩,⟨0,0,0x00,0⟩],
  [⟨1,3,0x1f,0⟩,⟨2,0,0x3f,5⟩,⟨0,0,0x00,0⟩],
  [⟨2,6,0x03,0⟩,⟨3,0,0xff,2⟩,⟨4,0,0x01,10⟩],
  [⟨4,1,0x7f,0⟩,⟨5,0,0x0f,7⟩,⟨0,0,0x00,0⟩],
  [⟨5,4,0x0f,0⟩,⟨6,0,0x7f,4⟩,⟨0,0,0x00,0⟩],
  [⟨6,7,0x01,0⟩,⟨7,0,0xff,1⟩,⟨8,0,0x03,9⟩],
  [⟨8,2,0x3f,0⟩,⟨9,0,0x1f,6⟩,⟨0,0,0x00,0⟩],
  [⟨9,5,0x07,0⟩,⟨10,0,0xff,3⟩,⟨0,0,0x00,0⟩],
  [⟨11,0,0xff,0⟩,⟨12,0,0x07,8⟩,⟨0,0,0x00,0⟩],
  [⟨12,3,0x1f,0⟩,⟨13,0,0x3f,5⟩,⟨0,0,0x00,0⟩],
  [⟨13,6,0x03,0⟩,⟨14,0,0xff,2⟩,⟨15,0,0x01,10⟩],
  [⟨15,1,0x7f,0⟩,⟨16,0,0x0f,7⟩,⟨0,0,0x00,0⟩],
  [⟨16,4,0x0f,0⟩,⟨17,0,0x7f,4⟩,⟨0,0,0x00,0⟩],
  [⟨17,7,0x01,0⟩,⟨18,0,0xff,1⟩,⟨19,0,0x03,9⟩],
  [⟨19,2,0x3f,0⟩,⟨20,0,0x1f,6⟩,⟨0,0,0x00,0⟩],
  [⟨20,5,0x07,0⟩,⟨21,0,0xff,3⟩,⟨0,0,0x00,0⟩]]

def sbusPiece (frame : List Byte) (decode : SbusBitPick) : Nat :=
  if decode.mask ≠ 0 then ((frame.getD (1 + decode.byte) 0).toNat >>> decode.rshift &&& decode.mask) <<< decode.lshift else 0

def sbusRaw (frame : List Byte) (channel : Nat) : Nat :=
  (sbusDecoder.getD channel []).foldl (fun value decode => value ||| sbusPiece frame decode) 0

def sbusValue (uint16 : Uint16) (frame : List Byte) (channel : Nat) : Nat :=
  ((uint16.convert ((sbusRaw frame channel : Int) * sbusScaleFactor + sbusHalf) + sbusScaleOffset) % 65536).toNat

structure SbusOutput where
  values : List Nat
  sbusFailsafe : Bool
  sbusFrameDrop : Bool
  deriving DecidableEq

def sbusSwitch (flags : Byte) (bit : Nat) : Nat := (if flags.getLsbD bit then 1000 else 0)+998

def sbusOutput (uint16 : Uint16) (frame : List Byte) (maxValues : Nat) : SbusOutput :=
  let flags := frame.getD sbusFlagsByte 0
  let chancount := if sbusInputChannels < maxValues then sbusInputChannels else maxValues
  let channels := (List.range chancount).map (sbusValue uint16 frame)
  { values := if 17 < maxValues ∧ 15 < chancount then channels ++ [sbusSwitch flags 0,sbusSwitch flags 1] else channels
    sbusFailsafe := flags.getLsbD sbusFailsafeBit
    sbusFrameDrop := flags.getLsbD sbusFailsafeBit || flags.getLsbD sbusFramelostBit }

inductive SbusDecodeState
  | desync
  | sbusStart
  | sbus1Sync
  | sbus2Sync
  | sbus2RxVoltage
  | sbus2Gps
  | sbus2Data1
  | sbus2Data2
  deriving DecidableEq

def sbusFollows (last : Byte) : Option SbusDecodeState :=
  if last = 0x00#8 then some .sbus1Sync
  else if last = 0x04#8 then some .sbus2RxVoltage
  else if last = 0x14#8 then some .sbus2Gps
  else if last = 0x24#8 then some .sbus2Sync
  else if last = 0x34#8 then some .sbus2Sync else none

structure Sbus where
  sbusDecodeState : SbusDecodeState
  sbusFrame : Vector Byte sbusBufferSize
  partialFrameCount : Nat
  sbusFrameDrops : Nat
  lastRxTime : BitVec 64

namespace Sbus
variable (uint16 : Uint16) (maxChannels : Nat) (s : Sbus) (byte : Byte)

def sbusDecode : Option SbusOutput × Sbus :=
  if s.sbusFrame.toList.getD 0 0 ≠ sbusStartSymbol then
    (none,{s with sbusFrameDrops := s.sbusFrameDrops+1,sbusDecodeState := .desync})
  else (sbusFollows (s.sbusFrame.toList.getD 24 0)).elim (none,{s with sbusDecodeState := .desync}) fun follows =>
    (some (sbusOutput uint16 s.sbusFrame.toList maxChannels),{s with sbusDecodeState := follows})

def limit : Sbus :=
  if s.partialFrameCount = sbusBufferSize ∨ s.partialFrameCount = sbusFrameSize then
    {s with partialFrameCount := 0,sbusDecodeState := .desync} else s

def keep : Sbus :=
  {s with sbusFrame := s.sbusFrame.setIfInBounds s.partialFrameCount byte,partialFrameCount := s.partialFrameCount+1}

def startIndex : Nat :=
  ((List.range' 1 (s.partialFrameCount-1)).find? (fun i => s.sbusFrame.toList.getD i 0 = sbusStartSymbol)).getD 0

def recover (decoded : Bool) : Sbus :=
  let start := if ¬ decoded ∧ s.sbusDecodeState = .desync then s.startIndex else 0
  if start ≠ 0 then
    { s with sbusFrame := .ofFn fun i =>
               s.sbusFrame.toList.getD (if i.val < s.partialFrameCount-start then i.val+start else i.val) 0
             partialFrameCount := s.partialFrameCount-start
             sbusDecodeState := .sbusStart }
  else {s with partialFrameCount := 0}

def slot (size : Nat) (payload : Byte) : Sbus :=
  let kept := s.keep byte
  let s := if kept.partialFrameCount = 1 ∧ kept.sbusFrame.toList.getD 0 0 = sbusStartSymbol then
      {kept with sbusDecodeState := .sbus2Sync} else kept
  if s.partialFrameCount < size then s
  else if s.sbusFrame.toList.getD 0 0 = payload then {s with partialFrameCount := 0}
  else {s with sbusDecodeState := .desync,sbusFrameDrops := s.sbusFrameDrops+1}

end Sbus

structure SbusParsing where
  sbus : Sbus
  decodeRet : Bool
  decoded : List SbusOutput

def SbusParsing.take (uint16 : Uint16) (maxChannels : Nat) (p : SbusParsing) (byte : Byte) : SbusParsing :=
  let s := p.sbus.limit
  match s.sbusDecodeState with
  | .desync =>
    if byte = sbusStartSymbol then
      {p with sbus := {s with sbusDecodeState := .sbusStart,sbusFrame := s.sbusFrame.setIfInBounds 0 byte,partialFrameCount := 1}}
    else {p with sbus := s}
  | .sbusStart | .sbus1Sync | .sbus2Sync =>
    let kept := s.keep byte
    if kept.partialFrameCount < sbusFrameSize then {p with sbus := kept}
    else
      let result := kept.sbusDecode uint16 maxChannels
      {sbus := result.2.recover result.1.isSome,decodeRet := result.1.isSome,decoded := p.decoded ++ result.1.toList}
  | .sbus2RxVoltage => {p with sbus := s.slot byte 3 0x03#8}
  | .sbus2Gps => {p with sbus := s.slot byte 24 0x13#8}
  | .sbus2Data1 | .sbus2Data2 => {p with sbus := s,decodeRet := false}

def Sbus.sbusParse (uint16 : Uint16) (maxChannels : Nat) (s : Sbus) (now : BitVec 64) (frame : List Byte) :
    (Bool × List SbusOutput) × Sbus :=
  let parsed := frame.foldl (SbusParsing.take uint16 maxChannels) ⟨{s with lastRxTime := now},false,[]⟩
  ((parsed.decodeRet,parsed.decoded),parsed.sbus)

end AerialManipulator
