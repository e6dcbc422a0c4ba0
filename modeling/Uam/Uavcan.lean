import Uam.Library.Bytes

/-! Transfers of the CAN bootloader, cut into frames of at most seven bytes and a tail byte; the
first of several starts with a checksum. Masks say which bits of a received frame are compared. -/
namespace AerialManipulator.Uavcan
open Bytes

def crc16Shift (crc : BitVec 16) : BitVec 16 := if crc.msb then (crc <<< 1) ^^^ 0x1021#16 else crc <<< 1

def crc16Add (crc : BitVec 16) (value : Byte) : BitVec 16 :=
  Nat.repeat crc16Shift 8 (crc ^^^ (value.zeroExtend 16 <<< 8))

def crc16OutputXor : BitVec 16 := 0

def crc16Signature (initial : BitVec 16) (bytes : List Byte) : BitVec 16 :=
  bytes.foldl crc16Add initial ^^^ crc16OutputXor

def anyNodeId : BitVec 7 := 0

/-- The bits of a CAN identifier. The type id of a service has the request bit and the destination. -/
structure CanId where
  priority : BitVec 5
  typeId : BitVec 16
  serviceNotMessage : Bool
  sourceNodeId : BitVec 7
  deriving DecidableEq, Repr

def CanId.setDestNodeId (id : CanId) (dest : BitVec 7) : CanId :=
  {id with typeId := id.typeId.extractLsb' 7 9 ++ dest}

structure Tail where
  transferId : BitVec 5
  toggle : Bool
  eot : Bool
  sot : Bool
  deriving DecidableEq, Repr

namespace Tail

def byte (t : Tail) : Byte :=
  BitVec.ofBool t.sot ++ BitVec.ofBool t.eot ++ BitVec.ofBool t.toggle ++ t.transferId

def ofByte (b : Byte) : Tail := ⟨b.extractLsb' 0 5,b.getLsbD 5,b.getLsbD 6,b.getLsbD 7⟩

def singleFrameTailInit : Tail := ⟨0,false,true,true⟩

def multiFrameTailInit : Tail := ⟨0,false,false,true⟩

def notAvailable : Tail := ⟨0,false,false,false⟩

end Tail

structure Protocol where
  id : CanId
  tail : Tail
  deriving DecidableEq, Repr

inductive UavcanError where
  | ok
  | bootTimeout
  | error
  deriving DecidableEq, Repr

inductive Dsdl where
  | msgAllocation
  | msgNodeStatus
  | reqGetNodeInfo
  | rspGetNodeInfo
  | reqBeginFirmwareUpdate
  | rspBeginFirmwareUpdate
  | reqGetInfo
  | rspGetInfo
  | reqRead
  | rspRead
  | msgLogMessage
  deriving DecidableEq, Repr

structure DsdlEntry where
  prototype : CanId
  signatureCrc16 : BitVec 16
  intail : Tail
  outtail : Tail
  deriving DecidableEq, Repr

def mesgDef (dtid signature : BitVec 16) (inbound outbound : Tail) : DsdlEntry :=
  ⟨⟨0,dtid,false,0⟩,signature,inbound,outbound⟩

def serviceDef (dtid : BitVec 8) (request : Bool) (signature : BitVec 16) (inbound outbound : Tail) : DsdlEntry :=
  ⟨⟨0,dtid ++ BitVec.ofBool request ++ (0 : BitVec 7),true,0⟩,signature,inbound,outbound⟩

open Tail in
def dsdlTable : Dsdl → DsdlEntry
  | .msgAllocation => mesgDef 1 0xf258 multiFrameTailInit singleFrameTailInit
  | .msgNodeStatus => mesgDef 341 0xbe5f singleFrameTailInit singleFrameTailInit
  | .reqGetNodeInfo => serviceDef 1 true 0xd9a7 singleFrameTailInit multiFrameTailInit
  | .rspGetNodeInfo => serviceDef 1 false 0xd9a7 singleFrameTailInit multiFrameTailInit
  | .reqBeginFirmwareUpdate => serviceDef 40 true 0x729e multiFrameTailInit singleFrameTailInit
  | .rspBeginFirmwareUpdate => serviceDef 40 false 0x729e multiFrameTailInit singleFrameTailInit
  | .reqGetInfo => serviceDef 45 true 0x14b9 singleFrameTailInit multiFrameTailInit
  | .rspGetInfo => serviceDef 45 false 0x14b9 singleFrameTailInit multiFrameTailInit
  | .reqRead => serviceDef 48 true 0x2f12 singleFrameTailInit multiFrameTailInit
  | .rspRead => serviceDef 48 false 0x2f12 singleFrameTailInit multiFrameTailInit
  | .msgLogMessage => mesgDef 16383 0x4570 notAvailable singleFrameTailInit

structure Node where
  thisNodeId : BitVec 7
  priority : BitVec 5
  deriving DecidableEq, Repr

inductive Direction where
  | inBound
  | outBound
  deriving DecidableEq, Repr

def loadDsdlProtocol (node : Node) (dsdl : Dsdl) (direction : Direction) (protocol : Protocol)
    (thatNodeId : BitVec 7) : Protocol :=
  let entry := dsdlTable dsdl
  let id := {entry.prototype with priority := node.priority}
  let transferId := protocol.tail.transferId
  match direction with
  | .inBound =>
    let tail := {entry.intail with transferId := transferId ||| entry.intail.transferId}
    if entry.prototype.serviceNotMessage then
      ⟨{id.setDestNodeId node.thisNodeId with sourceNodeId := thatNodeId},tail⟩
    else ⟨id,tail⟩
  | .outBound =>
    let tail := {entry.outtail with transferId := transferId ||| entry.outtail.transferId}
    let id := {id with sourceNodeId := node.thisNodeId}
    if entry.prototype.serviceNotMessage then ⟨id.setDestNodeId thatNodeId,tail⟩ else ⟨id,tail⟩

def maxUserPayloadLength : Nat := 7

/-- A frame with the tail byte at its end. Frames without data, whose tail byte is read from outside, are left out. -/
structure Frame where
  id : CanId
  data : List Byte
  nonempty : data ≠ []

def uavcanTx (protocol : Protocol) (payload : List Byte) : Frame :=
  ⟨protocol.id,payload ++ [protocol.tail.byte],by simp⟩

/-- The loop of `uavcan_tx_dsdl`: `payload` is the next frame, `canTx n` the result of sending frame `n`. -/
def txLoop (canTx : Nat → UavcanError) : List Byte → Nat → Protocol → List Byte → List Frame × UavcanError
  | [],_,_,_ => ([],.ok)
  | byte :: rest,n,protocol,payload =>
    let payload := payload ++ [byte]
    let protocol := {protocol with tail := {protocol.tail with eot := rest.isEmpty}}
    if payload.length = maxUserPayloadLength ∨ protocol.tail.eot = true then
      if canTx n ≠ .ok then ([],canTx n)
      else
        let next := {protocol with tail := {protocol.tail with toggle := !protocol.tail.toggle, sot := false}}
        let sent := txLoop canTx rest (n+1) next []
        (uavcanTx protocol payload :: sent.1,sent.2)
    else txLoop canTx rest n protocol payload

def crcBytes (crc : BitVec 16) : List Byte := [crc.truncate 8,(crc >>> 8).truncate 8]

def uavcanTxDsdl (canTx : Nat → UavcanError) (node : Node) (dsdl : Dsdl) (protocol : Protocol)
    (transfer : List Byte) : List Frame × UavcanError :=
  let loaded := loadDsdlProtocol node dsdl .outBound protocol protocol.id.sourceNodeId
  let payload :=
    if transfer.length > maxUserPayloadLength then
      crcBytes (crc16Signature (dsdlTable dsdl).signatureCrc16 transfer)
    else []
  txLoop canTx transfer 0 loaded payload

/-- The fields that are compared; of the identifier the type id bit by bit. -/
structure Masks where
  typeId : BitVec 16
  serviceNotMessage : Bool
  sourceNodeId : Bool
  transferId : Bool
  toggle : Bool
  sot : Bool
  deriving DecidableEq, Repr

def maskServiceTypeId : BitVec 16 := 0xff00
def maskServiceRequestNotResponse : BitVec 16 := 0x0080
def maskServiceDestinationNodeId : BitVec 16 := 0x007f
def maskMessageTypeId : BitVec 16 := 0xffff

/-- `uavcan_init_comapare_masks` at `Initialization`. -/
def initialMasks (protocol : Protocol) : Masks :=
  if protocol.id.serviceNotMessage then
    { typeId := maskServiceTypeId ||| maskServiceRequestNotResponse ||| maskServiceDestinationNodeId
      serviceNotMessage := true
      sourceNodeId := protocol.id.sourceNodeId != anyNodeId
      transferId := false, toggle := true, sot := true }
  else if protocol.id.sourceNodeId = anyNodeId then
    { typeId := maskMessageTypeId, serviceNotMessage := true, sourceNodeId := false
      transferId := false, toggle := true, sot := true }
  else
    { typeId := maskMessageTypeId, serviceNotMessage := true, sourceNodeId := true
      transferId := false, toggle := true, sot := true }

/-- `uavcan_init_comapare_masks` at `OnStartOfTransfer`. -/
def Masks.startOfTransfer (masks : Masks) : Masks := {masks with sourceNodeId := true, transferId := true}

def Masks.differ (masks : Masks) (rx protocol : Protocol) : Bool :=
  (rx.id.typeId ^^^ protocol.id.typeId) &&& masks.typeId != 0 ||
  masks.serviceNotMessage && rx.id.serviceNotMessage != protocol.id.serviceNotMessage ||
  masks.sourceNodeId && rx.id.sourceNodeId != protocol.id.sourceNodeId ||
  masks.transferId && rx.tail.transferId != protocol.tail.transferId ||
  masks.toggle && rx.tail.toggle != protocol.tail.toggle ||
  masks.sot && rx.tail.sot != protocol.tail.sot

/-- The variables of `uavcan_rx_dsdl`. `received` is `transfer` up to `total_rx`. -/
structure Reception where
  protocol : Protocol
  masks : Masks
  transferCrc : BitVec 16
  received : List Byte
  deriving DecidableEq, Repr

def Frame.protocol (f : Frame) : Protocol := ⟨f.id,Tail.ofByte (f.data.getLast f.nonempty)⟩

def Frame.payload (f : Frame) : List Byte := f.data.dropLast

def badTailState (t : Tail) : Bool := t.sot && t.toggle

def sizeSub (a b : Nat) : Nat := (a + 4294967296 - b) % 4294967296

namespace Reception

def start (node : Node) (dsdl : Dsdl) (protocol : Protocol) : Reception :=
  let loaded := loadDsdlProtocol node dsdl .inBound protocol protocol.id.sourceNodeId
  ⟨loaded,initialMasks loaded,0,[]⟩

def skips (s : Reception) (f : Frame) : Bool :=
  badTailState f.protocol.tail || s.masks.differ f.protocol s.protocol

def startTransfer (s : Reception) (f : Frame) : Reception :=
  { protocol :=
      { id := { s.protocol.id with sourceNodeId := f.id.sourceNodeId }
        tail := { s.protocol.tail with sot := false, transferId := f.protocol.tail.transferId } }
    masks := s.masks.startOfTransfer
    transferCrc :=
      if f.protocol.tail.eot then s.transferCrc
      else (f.payload.getD 1 0).zeroExtend 16 <<< 8 ||| (f.payload.getD 0 0).zeroExtend 16
    received := [] }

def payloadIndex (f : Frame) : Nat := if f.protocol.tail.sot && !f.protocol.tail.eot then 2 else 0

def restartTransfer (s : Reception) : Reception :=
  { s with masks := initialMasks s.protocol
           protocol := { s.protocol with tail := { s.protocol.tail with sot := true, toggle := false } } }

def copy (capacity : Nat) (s : Reception) (f : Frame) : Reception :=
  let rxLength := sizeSub f.payload.length (payloadIndex f)
  let received :=
    if s.received.length+rxLength ≤ capacity then
      s.received ++ (f.payload.drop (payloadIndex f)).take rxLength
    else s.received
  { s with received := received
           protocol := { s.protocol with tail := { s.protocol.tail with toggle := !s.protocol.tail.toggle } } }

def accept (capacity : Nat) (s : Reception) (f : Frame) : Reception × Bool :=
  let s := if f.protocol.tail.sot then s.startTransfer f else s
  if f.protocol.tail.transferId > s.protocol.tail.transferId ∨ s.received.length ≥ capacity then
    (s.restartTransfer.copy capacity f,f.protocol.tail.eot)
  else if f.protocol.tail.transferId < s.protocol.tail.transferId then (s,false)
  else (s.copy capacity f,f.protocol.tail.eot)

end Reception

structure Poll where
  frame : Option Frame
  expired : Bool

structure RxResult where
  status : UavcanError
  transfer : List Byte
  length : Nat
  protocol : Protocol
  deriving DecidableEq, Repr

def finish (dsdl : Dsdl) (f : Frame) (s : Reception) : RxResult where
  status :=
    if f.protocol.tail.sot || s.transferCrc == crc16Signature (dsdlTable dsdl).signatureCrc16 s.received then .ok
    else .error
  transfer := s.received
  length := s.received.length
  protocol := s.protocol

def rxLoop (dsdl : Dsdl) (capacity : Nat) : List Poll → Reception → Option RxResult
  | [],_ => none
  | poll :: rest,s =>
    let go (s : Reception) : Option RxResult :=
      if poll.expired then some ⟨.error,s.received,capacity,s.protocol⟩ else rxLoop dsdl capacity rest s
    poll.frame.elim (go s) fun f =>
      if s.skips f then go s
      else if (s.accept capacity f).2 then some (finish dsdl f (s.accept capacity f).1)
      else go (s.accept capacity f).1

def uavcanRxDsdl (node : Node) (dsdl : Dsdl) (protocol : Protocol) (capacity : Nat) (polls : List Poll) :
    Option RxResult :=
  rxLoop dsdl capacity polls (.start node dsdl protocol)

end AerialManipulator.Uavcan
