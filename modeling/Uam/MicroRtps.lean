import Uam.Library.Bytes
import Uam.Library.Runs

/-! The framing of messages between the flight stack and a companion, after
`Transport_node`. Bytes are collected in a buffer of fixed size; a call finds the first
start marker and goes by its header. -/
namespace AerialManipulator
open Bytes Runs

namespace MicroRtps

def bufferSize : Nat := 1024

def marker : Byte := 0x3E

def crc16Table : List Nat := [
  0x0000,0xC0C1,0xC181,0x0140,0xC301,0x03C0,0x0280,0xC241,0xC601,0x06C0,0x0780,0xC741,0x0500,0xC5C1,0xC481,0x0440,
  0xCC01,0x0CC0,0x0D80,0xCD41,0x0F00,0xCFC1,0xCE81,0x0E40,0x0A00,0xCAC1,0xCB81,0x0B40,0xC901,0x09C0,0x0880,0xC841,
  0xD801,0x18C0,0x1980,0xD941,0x1B00,0xDBC1,0xDA81,0x1A40,0x1E00,0xDEC1,0xDF81,0x1F40,0xDD01,0x1DC0,0x1C80,0xDC41,
  0x1400,0xD4C1,0xD581,0x1540,0xD701,0x17C0,0x1680,0xD641,0xD201,0x12C0,0x1380,0xD341,0x1100,0xD1C1,0xD081,0x1040,
  0xF001,0x30C0,0x3180,0xF141,0x3300,0xF3C1,0xF281,0x3240,0x3600,0xF6C1,0xF781,0x3740,0xF501,0x35C0,0x3480,0xF441,
  0x3C00,0xFCC1,0xFD81,0x3D40,0xFF01,0x3FC0,0x3E80,0xFE41,0xFA01,0x3AC0,0x3B80,0xFB41,0x3900,0xF9C1,0xF881,0x3840,
  0x2800,0xE8C1,0xE981,0x2940,0xEB01,0x2BC0,0x2A80,0xEA41,0xEE01,0x2EC0,0x2F80,0xEF41,0x2D00,0xEDC1,0xEC81,0x2C40,
  0xE401,0x24C0,0x2580,0xE541,0x2700,0xE7C1,0xE681,0x2640,0x2200,0xE2C1,0xE381,0x2340,0xE101,0x21C0,0x2080,0xE041,
  0xA001,0x60C0,0x6180,0xA141,0x6300,0xA3C1,0xA281,0x6240,0x6600,0xA6C1,0xA781,0x6740,0xA501,0x65C0,0x6480,0xA441,
  0x6C00,0xACC1,0xAD81,0x6D40,0xAF01,0x6FC0,0x6E80,0xAE41,0xAA01,0x6AC0,0x6B80,0xAB41,0x6900,0xA9C1,0xA881,0x6840,
  0x7800,0xB8C1,0xB981,0x7940,0xBB01,0x7BC0,0x7A80,0xBA41,0xBE01,0x7EC0,0x7F80,0xBF41,0x7D00,0xBDC1,0xBC81,0x7C40,
  0xB401,0x74C0,0x7580,0xB541,0x7700,0xB7C1,0xB681,0x7640,0x7200,0xB2C1,0xB381,0x7340,0xB101,0x71C0,0x7080,0xB041,
  0x5000,0x90C1,0x9181,0x5140,0x9301,0x53C0,0x5280,0x9241,0x9601,0x56C0,0x5780,0x9741,0x5500,0x95C1,0x9481,0x5440,
  0x9C01,0x5CC0,0x5D80,0x9D41,0x5F00,0x9FC1,0x9E81,0x5E40,0x5A00,0x9AC1,0x9B81,0x5B40,0x9901,0x59C0,0x5880,0x9841,
  0x8801,0x48C0,0x4980,0x8941,0x4B00,0x8BC1,0x8A81,0x4A40,0x4E00,0x8EC1,0x8F81,0x4F40,0x8D01,0x4DC0,0x4C80,0x8C41,
  0x4400,0x84C1,0x8581,0x4540,0x8701,0x47C0,0x4680,0x8641,0x8201,0x42C0,0x4380,0x8341,0x4100,0x81C1,0x8081,0x4040]

def crc16Byte (crc : BitVec 16) (data : Byte) : BitVec 16 :=
  (crc >>> 8) ^^^ BitVec.ofNat 16 (crc16Table.getD ((crc ^^^ data.zeroExtend 16) &&& 0xff).toNat 0)

def crc16 (buffer : List Byte) : BitVec 16 := buffer.foldl crc16Byte 0

structure Header where
  topicId : Byte
  sysId : Byte
  seq : Byte
  payloadLenH : Byte
  payloadLenL : Byte
  crcH : Byte
  crcL : Byte
  deriving DecidableEq

namespace Header

def size : Nat := 10

/-- `[>,>,>,topic_id,sys_id,seq,payload_length_H,payload_length_L,CRCHigh,CRCLow]` -/
def bytes (h : Header) : List Byte :=
  [marker,marker,marker,h.topicId,h.sysId,h.seq,h.payloadLenH,h.payloadLenL,h.crcH,h.crcL]

def ofBytes (buffer : List Byte) (start : Nat) : Header :=
  ⟨buffer.getD (start+3) 0,buffer.getD (start+4) 0,buffer.getD (start+5) 0,buffer.getD (start+6) 0,
    buffer.getD (start+7) 0,buffer.getD (start+8) 0,buffer.getD (start+9) 0⟩

def payloadLen (h : Header) : Nat := h.payloadLenH.toNat <<< 8 ||| h.payloadLenL.toNat

def crc (h : Header) : BitVec 16 := h.crcH.zeroExtend 16 <<< 8 ||| h.crcL.zeroExtend 16

end Header

inductive Memory
  | rxBuffer
  | outBuffer
  deriving DecidableEq

structure Access where
  memory : Memory
  first : Nat
  length : Nat
  deriving DecidableEq

def Access.Inside (bufferLen : Nat) (a : Access) : Prop :=
  a.first+a.length ≤ if a.memory = .rxBuffer then bufferSize else bufferLen

end MicroRtps

/-- `rxBuffer` is what `_rx_buffer` holds before `_rx_buff_pos`, its length. -/
structure TransportNode where
  sysId : Byte
  seqNumber : Byte
  rxBuffer : List Byte

structure TransportRead where
  ret : Int
  topicId : Byte
  outBuffer : List Byte
  node : TransportNode
  accesses : List MicroRtps.Access

namespace TransportNode
open MicroRtps

def new (sysId : Byte) : TransportNode := ⟨sysId,0,[]⟩

def write (node : TransportNode) (topicId : Byte) (payload : List Byte) : List Byte × TransportNode :=
  let crc := crc16 payload
  let header : Header :=
    ⟨topicId,node.sysId,node.seqNumber,BitVec.ofNat 8 (payload.length >>> 8),BitVec.ofNat 8 payload.length,
      (crc >>> 8).truncate 8,crc.truncate 8⟩
  (header.bytes ++ payload,{node with seqNumber := node.seqNumber + 1})

def markerAt (buffer : List Byte) (i : Nat) : Bool := (buffer.drop i).take 3 = [marker,marker,marker]

def findFrom (buffer : List Byte) : Nat → Nat → Nat
  | 0,i => i
  | left+1,i => if markerAt buffer i then i else findFrom buffer left (i+1)

def msgStartPos (buffer : List Byte) : Nat := findFrom buffer (buffer.length+1-Header.size) 0

def drop (n : Nat) (node : TransportNode) : TransportNode := {node with rxBuffer := node.rxBuffer.drop n}

def moved (source n : Nat) : List Access := [⟨.rxBuffer,source,n⟩,⟨.rxBuffer,0,n⟩]

def readMessage (bufferLen start : Nat) (node : TransportNode) : TransportRead :=
  let pos := node.rxBuffer.length
  let header := Header.ofBytes node.rxBuffer start
  let payloadLen := header.payloadLen
  let payload := slice node.rxBuffer (start+Header.size) payloadLen
  if header.sysId = node.sysId then
    ⟨-1,255,[],node.drop (start+1),moved (start+1) (pos-(start+1))⟩
  else if bufferLen < Header.size+payloadLen then
    ⟨-90,255,[],node.drop (start+1),moved (start+1) (pos-(start+1))⟩
  else if start+Header.size+payloadLen > pos then
    if start > 0 then ⟨0,255,[],node.drop start,moved start (pos-start)⟩ else ⟨0,255,[],node,[]⟩
  else
    let summed : Access := ⟨.rxBuffer,start+Header.size,payloadLen⟩
    if header.crc ≠ crc16 payload then
      -- the length is not reduced by what is dropped
      ⟨-1,255,[],node.drop (start+1),summed :: moved (start+1) pos⟩
    else
      ⟨payloadLen+Header.size,header.topicId,payload,node.drop (start+Header.size+payloadLen),
        summed :: ⟨.outBuffer,0,payloadLen⟩ ::
          moved (start+Header.size+payloadLen) (pos-(start+Header.size+payloadLen))⟩

def readBuffer (bufferLen : Nat) (node : TransportNode) : TransportRead :=
  let pos := node.rxBuffer.length
  if pos < Header.size then ⟨0,255,[],node,[]⟩
  else
    let start := msgStartPos node.rxBuffer
    let scanned : Access := ⟨.rxBuffer,0,min start (pos-Header.size)+3⟩
    if start > pos-Header.size then
      ⟨-1,255,[],node.drop start,scanned :: moved start (pos-start)⟩
    else
      let message := readMessage bufferLen start node
      {message with accesses := scanned :: ⟨.rxBuffer,start,Header.size⟩ :: message.accesses}

def append (bytes : List Byte) (node : TransportNode) : TransportNode :=
  {node with rxBuffer := node.rxBuffer ++ bytes.take (bufferSize - node.rxBuffer.length)}

/-- `input` is what `node_read` finds, `none` if it fails. -/
def read (bufferLen : Nat) (input : Option (List Byte)) (node : TransportNode) : TransportRead :=
  let room : Access := ⟨.rxBuffer,node.rxBuffer.length,bufferSize-node.rxBuffer.length⟩
  input.elim ⟨-1,255,[],node,[room]⟩ fun bytes =>
    let result := readBuffer bufferLen (node.append bytes)
    {result with accesses := room :: result.accesses}

end TransportNode

structure ReadCall where
  bufferLen : Nat
  input : Option (List Byte)

namespace TransportNode
open MicroRtps

def step (node : TransportNode) (call : ReadCall) : TransportNode := (node.read call.bufferLen call.input).node

/-- Nothing outside of the buffers is touched, and a full one does not stay full unless `node_read` fails. -/
structure ReadsSafely (node : TransportNode) (call : ReadCall) : Prop where
  inside : ∀ a ∈ (node.read call.bufferLen call.input).accesses, a.Inside call.bufferLen
  fits : (node.step call).rxBuffer.length ≤ bufferSize
  reduced : node.rxBuffer.length = bufferSize → call.input ≠ none → (node.step call).rxBuffer.length < bufferSize

/-- The frame at a marker is complete, foreign and fails its checksum, and moving the bytes
behind it leaves the buffer. -/
structure FailsNearEnd (bufferLen start : Nat) (node : TransportNode) : Prop where
  complete : start+Header.size+(Header.ofBytes node.rxBuffer start).payloadLen ≤ node.rxBuffer.length
  foreign : (Header.ofBytes node.rxBuffer start).sysId ≠ node.sysId
  fits : Header.size+(Header.ofBytes node.rxBuffer start).payloadLen ≤ bufferLen
  fails : (Header.ofBytes node.rxBuffer start).crc ≠
    crc16 (slice node.rxBuffer (start+Header.size) (Header.ofBytes node.rxBuffer start).payloadLen)
  beyond : bufferSize < start+1+node.rxBuffer.length

def KeepsClear (node : TransportNode) (call : ReadCall) : Prop :=
  ∀ bytes, call.input = some bytes →
    ¬ FailsNearEnd call.bufferLen (msgStartPos (node.append bytes).rxBuffer) (node.append bytes)

lemma findFrom_spec (buffer : List Byte) (left i : Nat) : i ≤ findFrom buffer left i ∧ findFrom buffer left i ≤ i+left ∧
      (∀ j, i ≤ j → j < findFrom buffer left i → markerAt buffer j = false) ∧
      (findFrom buffer left i < i+left → markerAt buffer (findFrom buffer left i) = true) := by
  induction left generalizing i with
  | zero =>
    refine ⟨le_rfl,le_rfl,fun j low high => ?_,fun less => absurd less (lt_irrefl i)⟩
    exact absurd (low.trans_lt high) (lt_irrefl i)
  | succ left ih =>
    rw [findFrom]
    split
    next here =>
      refine ⟨le_rfl,Nat.le_add_right _ _,fun j low high => ?_,fun _ => here⟩
      exact absurd (low.trans_lt high) (lt_irrefl i)
    next other =>
      obtain ⟨low,high,none,found⟩ := ih (i+1)
      refine ⟨by omega,by omega,fun j from_ before => ?_,fun less => found (by omega)⟩
      by_cases first : j = i
      · rw [first]
        exact Bool.not_eq_true _ ▸ other
      · exact none j (by omega) before

lemma msgStartPos_le (buffer : List Byte) : msgStartPos buffer ≤ buffer.length+1-Header.size := by
  have bound := (findFrom_spec buffer (buffer.length+1-Header.size) 0).2.1
  rwa [Nat.zero_add] at bound

lemma not_markerAt_of_lt (before : i < msgStartPos buffer) : markerAt buffer i = false :=
  (findFrom_spec buffer _ 0).2.2.1 i (Nat.zero_le i) before

lemma markerAt_msgStartPos (found : msgStartPos buffer+Header.size ≤ buffer.length) :
    markerAt buffer (msgStartPos buffer) = true := by
  apply (findFrom_spec buffer _ 0).2.2.2
  change msgStartPos buffer < _
  omega

variable {bufferLen : Nat} {node : TransportNode}

lemma inside_rxBuffer : (⟨.rxBuffer,first,length⟩ : Access).Inside bufferLen ↔ first+length ≤ bufferSize := by
  rw [Access.Inside,if_pos rfl]

lemma inside_moved : (∀ a ∈ moved source n, a.Inside bufferLen) ↔ source+n ≤ bufferSize := by
  simp only [moved,List.forall_mem_cons,inside_rxBuffer]
  constructor
  · intro both
    exact both.1
  · intro within
    exact ⟨within,by omega,fun a member => absurd member List.not_mem_nil⟩

lemma length_drop (node : TransportNode) (n : Nat) :
    (node.drop n).rxBuffer.length = node.rxBuffer.length-n := List.length_drop

lemma readMessage_inside (fits : node.rxBuffer.length ≤ bufferSize) (found : start+Header.size ≤ node.rxBuffer.length) :
    (∀ a ∈ (readMessage bufferLen start node).accesses, a.Inside bufferLen) ↔ ¬FailsNearEnd bufferLen start node := by
  have ahead : start+1 ≤ node.rxBuffer.length := le_trans (Nat.add_le_add_left (by decide) start) found
  rw [readMessage]
  split
  next own => exact iff_of_true (inside_moved.mpr (by omega)) fun failure => failure.foreign own
  next foreign =>
    split
    next large => exact iff_of_true (inside_moved.mpr (by omega)) fun failure => absurd failure.fits large.not_ge
    next small =>
      split
      next incomplete =>
        refine iff_of_true ?_ fun failure => absurd failure.complete incomplete.not_ge
        split
        · exact inside_moved.mpr (by omega)
        · intro a member
          cases member
      next complete =>
        have whole := not_lt.mp complete
        dsimp only
        split
        next fails =>
          rw [List.forall_mem_cons,inside_rxBuffer,inside_moved]
          constructor
          · intro inside failure
            exact absurd inside.2 (Nat.not_le.mpr failure.beyond)
          · intro clear
            refine ⟨whole.trans fits,Nat.not_lt.mp fun beyond => ?_⟩
            exact clear ⟨whole,foreign,not_lt.mp small,fails,beyond⟩
        next passes =>
          refine iff_of_true ?_ fun failure => failure.fails (not_not.mp passes)
          rw [List.forall_mem_cons,List.forall_mem_cons,inside_rxBuffer,inside_moved]
          refine ⟨whole.trans fits,?_,by omega⟩
          rw [Access.Inside,if_neg (by simp)]
          have small := not_lt.mp small
          dsimp only
          omega

lemma readMessage_length (found : start+Header.size ≤ node.rxBuffer.length) :
    (readMessage bufferLen start node).node.rxBuffer.length ≤ node.rxBuffer.length ∧ (bufferLen ≤ node.rxBuffer.length →
        (readMessage bufferLen start node).node.rxBuffer.length < node.rxBuffer.length) := by
  have some : 0 < node.rxBuffer.length := Nat.lt_of_lt_of_le (Nat.add_pos_right start (by decide)) found
  have dropped {n : Nat} (positive : 0 < n) : (node.drop n).rxBuffer.length ≤ node.rxBuffer.length ∧
        (bufferLen ≤ node.rxBuffer.length → (node.drop n).rxBuffer.length < node.rxBuffer.length) := by
    rw [length_drop]
    omega
  rw [readMessage]
  split
  · exact dropped (Nat.succ_pos start)
  split
  · exact dropped (Nat.succ_pos start)
  next small =>
    split
    next incomplete =>
      split
      next garbage => exact dropped garbage
      next first =>
        -- at the start of the buffer a message that fits the caller's buffer is complete in a full one
        refine ⟨le_rfl,fun full => ?_⟩
        omega
    · split
      · exact dropped (Nat.succ_pos start)
      · exact dropped (Nat.add_pos_left (Nat.add_pos_right start (by decide)) _)

lemma readBuffer_length (bufferLen : Nat) (node : TransportNode) :
    (readBuffer bufferLen node).node.rxBuffer.length ≤ node.rxBuffer.length ∧
      (Header.size ≤ node.rxBuffer.length → bufferLen ≤ node.rxBuffer.length →
        (readBuffer bufferLen node).node.rxBuffer.length < node.rxBuffer.length) := by
  rw [readBuffer]
  split
  next short => exact ⟨le_rfl,fun long => absurd short long.not_gt⟩
  · dsimp only
    split
    next missing =>
      rw [length_drop]
      simp only [Header.size] at *
      omega
    next found =>
      have long : msgStartPos node.rxBuffer+Header.size ≤ node.rxBuffer.length := by omega
      exact ⟨(readMessage_length long).1,fun _ => (readMessage_length long).2⟩

lemma readBuffer_inside (fits : node.rxBuffer.length ≤ bufferSize) :
    (∀ a ∈ (readBuffer bufferLen node).accesses, a.Inside bufferLen) ↔
      ¬FailsNearEnd bufferLen (msgStartPos node.rxBuffer) node := by
  rw [readBuffer]
  split
  next short =>
    refine iff_of_true (fun a member => by cases member) fun failure => ?_
    have complete := failure.complete
    omega
  · dsimp only
    split
    next missing =>
      refine iff_of_true ?_ fun failure => ?_
      · have bound := msgStartPos_le node.rxBuffer
        rw [List.forall_mem_cons,inside_rxBuffer,inside_moved]
        simp only [Header.size] at *
        omega
      · have complete := failure.complete
        omega
    next found =>
      rw [List.forall_mem_cons,List.forall_mem_cons,inside_rxBuffer,inside_rxBuffer,
        readMessage_inside fits (by omega)]
      refine ⟨fun both => both.2.2,fun clear => ⟨?_,?_,clear⟩⟩
      · simp only [Header.size] at *
        omega
      · omega

lemma append_length (bytes : List Byte) (fits : node.rxBuffer.length ≤ bufferSize) :
    node.rxBuffer.length ≤ (node.append bytes).rxBuffer.length ∧ (node.append bytes).rxBuffer.length ≤ bufferSize := by
  rw [append,List.length_append,List.length_take]
  omega

lemma readsSafely_iff {call : ReadCall} (small : call.bufferLen ≤ bufferSize)
    (fits : node.rxBuffer.length ≤ bufferSize) : ReadsSafely node call ↔ KeepsClear node call := by
  obtain ⟨bufferLen,input⟩ := call
  cases input with
  | none =>
    refine iff_of_true ⟨?_,fits,fun _ failed => absurd rfl failed⟩ fun bytes found => by cases found
    intro a member
    cases List.mem_singleton.mp member
    exact inside_rxBuffer.mpr (by omega)
  | some bytes =>
    obtain ⟨more,held⟩ := append_length bytes fits
    have touched : (∀ a ∈ (node.read bufferLen (some bytes)).accesses, a.Inside bufferLen) ↔
        ¬FailsNearEnd bufferLen (msgStartPos (node.append bytes).rxBuffer) (node.append bytes) := by
      rw [← readBuffer_inside held]
      refine List.forall_mem_cons.trans (and_iff_right ?_)
      exact inside_rxBuffer.mpr (by omega)
    have left := readBuffer_length bufferLen (node.append bytes)
    constructor
    · intro safe other found
      cases found
      exact touched.mp safe.inside
    · intro clear
      refine ⟨touched.mpr (clear bytes rfl),left.1.trans held,fun full _ => ?_⟩
      have still : (node.append bytes).rxBuffer.length = bufferSize := by omega
      exact lt_of_lt_of_le (left.2 (still ▸ by decide) (still ▸ small)) held

/-- Over any calls a node reads safely exactly if no frame fails its checksum too close to the end of the buffer. -/
theorem reads_safely_iff (sysId : Byte) (calls : List ReadCall) (small : ∀ call ∈ calls, call.bufferLen ≤ bufferSize) :
    Along step ReadsSafely (new sysId) calls ↔ Along step KeepsClear (new sysId) calls := by
  apply along_congr_along (fun node => node.rxBuffer.length ≤ bufferSize)
    (R := fun _ call => call.bufferLen ≤ bufferSize)
  · intro node call _ safe _
    exact safe.fits
  · intro node call small fits
    exact readsSafely_iff small fits
  · exact along_of_mem (fun call member _ => small call member) _
  · exact Nat.zero_le _

/-- A frame of another node whose checksum is wrong, and what follows it. -/
def wrongSum (rest : Nat) : List Byte := (Header.bytes ⟨7,2,0,0,0,0,1⟩) ++ List.replicate rest 0

theorem reads_safely_wrongSum : (∀ call ∈ [ReadCall.mk 1024 (some (wrongSum 20)),⟨1024,some [0]⟩],
      call.bufferLen ≤ bufferSize) ∧
    Along step ReadsSafely (new 1) [⟨1024,some (wrongSum 20)⟩,⟨1024,some [0]⟩] := by
  have small : ∀ call ∈ [ReadCall.mk 1024 (some (wrongSum 20)),⟨1024,some [0]⟩], call.bufferLen ≤ bufferSize := by
    intro call member
    rcases List.mem_pair.mp member with rfl | rfl <;> decide
  refine ⟨small,(reads_safely_iff 1 _ small).mpr ⟨?_,?_,trivial⟩⟩
  · rintro _ ⟨⟩ ends
    exact absurd ends.beyond (by decide +kernel)
  · rintro _ ⟨⟩ ends
    exact absurd ends.beyond (by decide +kernel)

theorem not_reads_safely_wrongSum : ¬ Along step ReadsSafely (new 1) [⟨1024,some (wrongSum 1014)⟩] := by
  intro safe
  have beyond : ⟨.rxBuffer,1,1024⟩ ∈ ((new 1).read 1024 (some (wrongSum 1014))).accesses := by decide +kernel
  exact absurd (inside_rxBuffer.mp (safe.1.inside _ beyond)) (by decide)

end TransportNode
end AerialManipulator
