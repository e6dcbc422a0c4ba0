import Uam.Library.Bytes
import Uam.Library.Runs

/-! One serial link shared by two protocols, after the protocol splitter. Both
readers scan one buffer; a packet that was found has its magic byte overwritten, and
what neither needs is removed. -/
namespace AerialManipulator.ProtocolSplitter
open Bytes

inductive MessageType
  | mavlink
  | rtps
  deriving DecidableEq

def sp2HeaderMagic : Byte := 0x53

def sp2HeaderSize : Nat := 4

/-- `typeLenH` holds the type in its highest bit and seven bits of the length. -/
structure Sp2Header where
  magic : Byte
  typeLenH : Byte
  lenL : Byte
  checksum : Byte
  deriving DecidableEq

namespace Sp2Header

def ofBytes (bytes : List Byte) : Sp2Header :=
  ⟨bytes.getD 0 0,bytes.getD 1 0,bytes.getD 2 0,bytes.getD 3 0⟩

def bytes (h : Sp2Header) : List Byte := [h.magic,h.typeLenH,h.lenL,h.checksum]

def type (h : Sp2Header) : MessageType := if h.typeLenH &&& 0x80 = 0 then .mavlink else .rtps

def payloadLen (h : Sp2Header) : Nat := (h.typeLenH &&& 0x7f).toNat <<< 8 ||| h.lenL.toNat

end Sp2Header

def write (type : MessageType) (payload : List Byte) : List Byte :=
  let lenH : Byte := BitVec.ofNat 8 (payload.length >>> 8) &&& 0x7f
  let typeLenH := if type = .mavlink then lenH else lenH ||| 0x80
  let lenL : Byte := BitVec.ofNat 8 payload.length
  (Sp2Header.mk sp2HeaderMagic typeLenH lenL (sp2HeaderMagic ^^^ typeLenH ^^^ lenL)).bytes ++ payload

/-- `buffer` is the memory before `buf_size`, `start` and `finish` the first packet of each
protocol; equal if there is none. -/
structure ReadBuffer where
  buffer : List Byte
  start : MessageType → Nat
  finish : MessageType → Nat

namespace ReadBuffer

def bufferSize : Nat := 1024

def bufferThreshold : Nat := 819

def new : ReadBuffer := ⟨[],fun _ => 0,fun _ => 0⟩

def available (b : ReadBuffer) (type : MessageType) : Bool := b.start type < b.finish type

def remove (n : Nat) (b : ReadBuffer) : ReadBuffer :=
  ⟨b.buffer.drop n,fun type => b.start type-min n (b.start type),fun type => b.finish type-min n (b.finish type)⟩

def dropFull (b : ReadBuffer) : ReadBuffer :=
  let numRemove := max (b.start .mavlink) (b.start .rtps)
  b.remove (if numRemove = 0 then b.buffer.length else numRemove)

/-- `input` is what the driver has; the count of bytes read, and the buffer. -/
def read (input : List Byte) (b : ReadBuffer) : Nat × ReadBuffer :=
  let b := if bufferThreshold < b.buffer.length then b.dropFull else b
  let bytes := input.take (bufferSize-b.buffer.length)
  (bytes.length,{b with buffer := b.buffer ++ bytes})

def tryToCopyData (buflen : Nat) (type : MessageType) (b : ReadBuffer) : List Byte × ReadBuffer :=
  if b.available type then
    let lenToCopy := min (b.finish type-b.start type) buflen
    (slice b.buffer (b.start type) lenToCopy,
      {b with start := Function.update b.start type (b.start type+lenToCopy)})
  else ([],b)

/-- The packet at `i` is the first of its type; its magic byte is overwritten. -/
def take (i : Nat) (header : Sp2Header) (b : ReadBuffer) : ReadBuffer :=
  ⟨b.buffer.set i 0,Function.update b.start header.type (i+sp2HeaderSize),
    Function.update b.finish header.type (i+sp2HeaderSize+header.payloadLen)⟩

def accepts (h : Sp2Header) : Bool :=
  h.magic = sp2HeaderMagic && h.checksum = h.magic ^^^ h.typeLenH ^^^ h.lenL && h.payloadLen ≤ bufferSize

/-- `scan_for_packets` from `i` on, in at most as many steps as there are bytes. `found` are the two flags. -/
def scanLoop : Nat → Nat → (MessageType → Bool) → ReadBuffer → ReadBuffer
  | 0,_,_,b => b
  | fuel+1,i,found,b =>
    let header := Sp2Header.ofBytes (b.buffer.drop i)
    if b.buffer.length ≤ i+sp2HeaderSize then b
    else if !accepts header then scanLoop fuel (i+1) found b
    else if b.buffer.length < i+sp2HeaderSize+header.payloadLen then b
    else
      let next := if found header.type then b else b.take i header
      let found := Function.update found header.type true
      if found .mavlink && found .rtps then next
      else scanLoop fuel (i+sp2HeaderSize+header.payloadLen) found next

def scanForPackets (b : ReadBuffer) : ReadBuffer :=
  if b.buffer.length < sp2HeaderSize then b
  else if b.available .mavlink && b.available .rtps then b
  else scanLoop b.buffer.length (min (b.finish .mavlink) (b.finish .rtps)) b.available b

def cleanup (b : ReadBuffer) : ReadBuffer :=
  b.remove (if !b.available .mavlink && !b.available .rtps then max (b.start .mavlink) (b.start .rtps)
    else min (b.start .mavlink) (b.start .rtps))

end ReadBuffer

structure DevRead where
  copied : List Byte
  fetched : Nat
  buffer : ReadBuffer

def devRead (type : MessageType) (buflen : Nat) (input : List Byte) (b : ReadBuffer) : DevRead :=
  let first := b.scanForPackets.cleanup.tryToCopyData buflen type
  if first.1 ≠ [] then ⟨first.1,0,first.2⟩
  else
    let more := first.2.read input
    if more.1 = 0 then ⟨[],0,more.2⟩
    else
      let second := more.2.scanForPackets.tryToCopyData buflen type
      ⟨second.1,more.1,second.2⟩

structure Splitter where
  buffer : ReadBuffer
  rest : List Byte
  received : MessageType → List Byte

structure SplitterRead where
  type : MessageType
  buflen : Nat
  size : Nat

namespace Splitter

def new (stream : List Byte) : Splitter := ⟨.new,stream,fun _ => []⟩

def step (s : Splitter) (call : SplitterRead) : Splitter :=
  let result := devRead call.type call.buflen (s.rest.take call.size) s.buffer
  ⟨result.buffer,s.rest.drop result.fetched,
    Function.update s.received call.type (s.received call.type ++ result.copied)⟩

def run (s : Splitter) (calls : List SplitterRead) : Splitter := calls.foldl step s

def Overflows (s : Splitter) (call : SplitterRead) : Prop :=
  (s.buffer.scanForPackets.cleanup.tryToCopyData call.buflen call.type).1 = [] ∧
    ReadBuffer.bufferThreshold < s.buffer.scanForPackets.cleanup.buffer.length

end Splitter

structure SplitFrame where
  type : MessageType
  payload : List Byte

namespace SplitFrame

def bytes (f : SplitFrame) : List Byte := write f.type f.payload

def stream (frames : List SplitFrame) : List Byte := frames.flatMap bytes

def payloads (type : MessageType) (frames : List SplitFrame) : List Byte :=
  (frames.filter fun f => f.type = type).flatMap payload

def headerAt (bytes : List Byte) (i : Nat) : Bool :=
  i+sp2HeaderSize < bytes.length && ReadBuffer.accepts (Sp2Header.ofBytes (bytes.drop i))

/-- No frame is empty, and no header starts inside of one, whether the next magic byte is there or overwritten. -/
def Quiet : List SplitFrame → Prop
  | [] => True
  | f::rest => f.payload ≠ [] ∧ (∀ i, 0 < i → i < f.bytes.length →
      headerAt (f.bytes ++ stream rest) i = false ∧ headerAt (f.bytes ++ (stream rest).set 0 0) i = false) ∧ Quiet rest

end SplitFrame

/-- Without overflow each reader receives a beginning of the payloads of its frames, and all after enough reads. -/
def Transparent (frames : List SplitFrame) : Prop :=
  ∀ calls, Runs.Along Splitter.step (fun s call => ¬ s.Overflows call) (.new (SplitFrame.stream frames)) calls →
    ∀ type, let final := (Splitter.new (SplitFrame.stream frames)).run calls
      final.received type <+: SplitFrame.payloads type frames ∧
      ∀ before after, calls = before ++ after → ((Splitter.new (SplitFrame.stream frames)).run before).rest = [] →
        (SplitFrame.payloads type frames).length ≤ after.countP (fun call => call.type = type ∧ 0 < call.buflen) →
        final.received type = SplitFrame.payloads type frames

/-- A frame of Mavlink whose payload looks like a frame of RTPS: its last byte is given to both readers. -/
theorem not_transparent_lookalike : ¬ Transparent [⟨.mavlink,[0x53,0x80,0x01,0xD2,0x78]⟩] := by
  intro transparent
  have clear : Runs.Along Splitter.step (fun s call => ¬ s.Overflows call)
      (.new (SplitFrame.stream [⟨.mavlink,[0x53,0x80,0x01,0xD2,0x78]⟩])) [⟨.mavlink,10,10⟩,⟨.rtps,10,10⟩] := by
    refine ⟨fun full => ?_,fun full => ?_,trivial⟩
    all_goals exact absurd full.2 (by decide +kernel)
  have received := (transparent _ clear .rtps).1
  have wrong : ((Splitter.new (SplitFrame.stream [⟨.mavlink,[0x53,0x80,0x01,0xD2,0x78]⟩])).run
      [⟨.mavlink,10,10⟩,⟨.rtps,10,10⟩]).received .rtps = [0x78] := by decide +kernel
  have none : SplitFrame.payloads .rtps [⟨.mavlink,[0x53,0x80,0x01,0xD2,0x78]⟩] = [] := by decide +kernel
  rw [wrong,none] at received
  exact absurd (List.prefix_nil.mp received) (List.cons_ne_nil _ _)

end AerialManipulator.ProtocolSplitter
