import Uam.Library.Bytes

/-! The BSON coder of `tinybson.cpp`. A call that returns an error leaves its coder dead: `none`.
File operations and allocations succeed. -/
namespace AerialManipulator
open Bytes

def bsonEoo : Byte := 0
def bsonDouble : Byte := 1
def bsonString : Byte := 2
def bsonBindata : Byte := 5
def bsonBool : Byte := 8
def bsonInt32 : Byte := 16
def bsonInt64 : Byte := 18

inductive BsonBinarySubtype where
  | binary
  | user
  deriving DecidableEq

def BsonBinarySubtype.code : BsonBinarySubtype → BitVec 32
  | binary => 0
  | user => 128

def bsonMaxname : Nat := 32
def bsonBufIncrement : Nat := 128
def enodata : Int := 61

inductive BsonValue where
  | bool (value : Bool)
  | int32 (value : BitVec 32)
  | int64 (value : BitVec 64)
  | double (value : BitVec 64)
  | string (string : CText)
  | binary (subtype : BsonBinarySubtype) (data : List Byte)

structure BsonEntry where
  name : CText
  value : BsonValue

/-- With a buffer, `buf` holds the bytes up to `bufpos`. -/
structure BsonEncoder where
  fd : Option File
  buf : Option (List Byte)
  bufsize : Nat
  reallocOk : Bool
  totalDocumentSize : BitVec 32

namespace BsonEncoder

def buffered (e : BsonEncoder) : List Byte := e.buf.getD []

def growTo (need : Nat) : Nat → Nat → Nat
  | 0,bufsize => bufsize
  | fuel+1,bufsize => if need > bufsize then growTo need fuel (bufsize+bsonBufIncrement) else bufsize

def writeX (e : BsonEncoder) (p : List Byte) : Option BsonEncoder :=
  if e.fd.isSome && e.buf.isNone then
    -- The number of bytes written is kept in an `int`.
    if p.length < 2^31 then
      some { e with
        fd := e.fd.map (·.write p), totalDocumentSize := e.totalDocumentSize+BitVec.ofNat 32 p.length }
    else none
  else if e.buffered.length + p.length ≤ e.bufsize then some {e with buf := some (e.buffered ++ p)}
  else if e.fd.isSome then
    if p.length > e.bufsize then none
    else some { e with
      fd := e.fd.map (·.write e.buffered)
      totalDocumentSize := e.totalDocumentSize+BitVec.ofNat 32 e.buffered.length
      buf := some p }
  else if e.reallocOk then
    some { e with
      bufsize := growTo (e.buffered.length+p.length) (e.buffered.length+p.length) e.bufsize
      buf := some (e.buffered ++ p) }
  else none

def writeInt8 (e : BsonEncoder) (b : Byte) : Option BsonEncoder := e.writeX [b]
def writeInt32 (e : BsonEncoder) (i : BitVec 32) : Option BsonEncoder := e.writeX (encode 4 i.toNat)
def writeInt64 (e : BsonEncoder) (i : BitVec 64) : Option BsonEncoder := e.writeX (encode 8 i.toNat)
def writeDouble (e : BsonEncoder) (d : BitVec 64) : Option BsonEncoder := e.writeX (encode 8 d.toNat)

def writeName (e : BsonEncoder) (name : CText) : Option BsonEncoder :=
  if name.text.length > bsonMaxname then none else e.writeX (name.text ++ [0])

def bsonEncoderInitFile (fd : File) : Option BsonEncoder := writeInt32 ⟨some fd,none,0,false,0⟩ 0

def bsonEncoderInitBufFile (fd : File) (bufsize : Nat) : Option BsonEncoder :=
  writeInt32 ⟨some fd,some [],bufsize,false,0⟩ 0

def bsonEncoderInitBuf : Option BsonEncoder := writeInt32 ⟨none,none,0,true,0⟩ 0

def bsonEncoderAppendBool (e : BsonEncoder) (name : CText) (value : Bool) : Option BsonEncoder :=
  (e.writeInt8 bsonBool).bind fun e => (e.writeName name).bind fun e => e.writeInt8 (if value then 1 else 0)

def bsonEncoderAppendInt32 (e : BsonEncoder) (name : CText) (value : BitVec 32) : Option BsonEncoder :=
  (e.writeInt8 bsonInt32).bind fun e => (e.writeName name).bind fun e => e.writeInt32 value

def bsonEncoderAppendInt64 (e : BsonEncoder) (name : CText) (value : BitVec 64) : Option BsonEncoder :=
  (e.writeInt8 bsonInt64).bind fun e => (e.writeName name).bind fun e => e.writeInt64 value

def bsonEncoderAppendDouble (e : BsonEncoder) (name : CText) (value : BitVec 64) : Option BsonEncoder :=
  (e.writeInt8 bsonDouble).bind fun e => (e.writeName name).bind fun e => e.writeDouble value

def bsonEncoderAppendString (e : BsonEncoder) (name string : CText) : Option BsonEncoder :=
  (e.writeInt8 bsonString).bind fun e => (e.writeName name).bind fun e =>
    (e.writeInt32 (BitVec.ofNat 32 (string.text.length + 1))).bind fun e => e.writeX (string.text ++ [0])

def bsonEncoderAppendBinary (e : BsonEncoder) (name : CText) (subtype : BsonBinarySubtype) (data : List Byte) :
    Option BsonEncoder :=
  (e.writeInt8 bsonBindata).bind fun e => (e.writeName name).bind fun e =>
    (e.writeInt32 (BitVec.ofNat 32 data.length)).bind fun e =>
      (e.writeInt8 (subtype.code.setWidth 8)).bind fun e => e.writeX data

def append (e : BsonEncoder) (entry : BsonEntry) : Option BsonEncoder :=
  match entry.value with
  | .bool value => e.bsonEncoderAppendBool entry.name value
  | .int32 value => e.bsonEncoderAppendInt32 entry.name value
  | .int64 value => e.bsonEncoderAppendInt64 entry.name value
  | .double value => e.bsonEncoderAppendDouble entry.name value
  | .string string => e.bsonEncoderAppendString entry.name string
  | .binary subtype data => e.bsonEncoderAppendBinary entry.name subtype data

def bsonEncoderFini (e : BsonEncoder) : Option BsonEncoder :=
  (e.writeInt8 bsonEoo).map fun e =>
    let flushed :=
      if e.fd.isSome && e.buf.isSome && decide (e.buffered.length > 0) then
        { e with
          fd := e.fd.map (·.write e.buffered)
          totalDocumentSize := e.totalDocumentSize+BitVec.ofNat 32 e.buffered.length }
      else e
    let bsonDocBytes := encode 4 flushed.totalDocumentSize.toNat
    if flushed.fd.isSome then {flushed with fd := flushed.fd.map fun f => (f.seek 0).write bsonDocBytes}
    else {flushed with buf := flushed.buf.map fun b => bsonDocBytes ++ b.drop 4}

end BsonEncoder

inductive BsonSource where
  | file (fd : File)
  | buf (bytes : List Byte) (bufsize bufpos : Nat)
  | closed

inductive BsonItem where
  | undefined
  | eoo
  | double (d : BitVec 64)
  | string
  | bindata (subtype : BitVec 32)
  | bool (b : Bool)
  | int32 (i32 : BitVec 32)
  | int64 (i64 : BitVec 64)
  deriving DecidableEq

structure BsonDecoder where
  source : BsonSource
  dead : Bool
  nesting : Nat
  name : List Byte
  item : BsonItem
  pending : BitVec 32
  totalDocumentSize : BitVec 32
  totalDecodedSize : BitVec 32

namespace BsonDecoder

def readX (d : BsonDecoder) (s : Nat) : Option (List Byte × BsonDecoder) :=
  let total := d.totalDecodedSize+BitVec.ofNat 32 s
  match d.source with
  | .file fd =>
    if (fd.read s).1.length = s && decide (s < 2^31) then
      some ((fd.read s).1,{d with source := .file (fd.read s).2, totalDecodedSize := total})
    else none
  | .buf bytes bufsize bufpos =>
    if s ≥ bufsize then none
    else if bufsize-s < bufpos then none
    else some ((bytes.drop bufpos).take s,{d with source := .buf bytes bufsize (bufpos+s), totalDecodedSize := total})
  | .closed => none

def readInt8 (d : BsonDecoder) : Option (Byte × BsonDecoder) := (d.readX 1).map fun r => (r.1.headD 0,r.2)

def readInt32 (d : BsonDecoder) : Option (BitVec 32 × BsonDecoder) :=
  (d.readX 4).map fun r => (BitVec.ofNat 32 (decode r.1),r.2)

def readInt64 (d : BsonDecoder) : Option (BitVec 64 × BsonDecoder) :=
  (d.readX 8).map fun r => (BitVec.ofNat 64 (decode r.1),r.2)

def readDouble (d : BsonDecoder) : Option (BitVec 64 × BsonDecoder) :=
  (d.readX 8).map fun r => (BitVec.ofNat 64 (decode r.1),r.2)

def start (source : BsonSource) : BsonDecoder := ⟨source,false,1,[],.undefined,0,0,0⟩

def bsonDecoderInitFile (fd : File) : Option BsonDecoder :=
  (start (.file fd)).readInt32.map fun r => {r.2 with totalDocumentSize := r.1}

/-- A size of zero is taken from the document's first bytes. -/
def bsonDecoderInitBuf (buf : List Byte) (bufsize : Nat) : Option BsonDecoder :=
  let size := if bufsize = 0 then decode (buf.take 4) else bufsize
  (start (.buf buf size 0)).readInt32.bind fun r =>
    if r.1.toInt > 0 ∧ r.1.toInt > size then none else some {r.2 with totalDocumentSize := r.1}

def discard : Nat → BsonDecoder → Option BsonDecoder
  | 0,d => some d
  | n+1,d => d.readInt8.bind fun r => discard n r.2

def readName : Nat → List Byte → BsonDecoder → Option (List Byte × BsonDecoder)
  | 0,_,_ => none
  | room+1,name,d => d.readInt8.bind fun r =>
    if r.1 = 0 then some (name,r.2) else readName room (name ++ [r.1]) r.2

def readItem (d : BsonDecoder) (type : Byte) : Option BsonDecoder :=
  if type = bsonDouble then d.readDouble.map fun r => {r.2 with item := .double r.1}
  else if type = bsonString then d.readInt32.map fun r => {r.2 with item := .string, pending := r.1}
  else if type = bsonBindata then d.readInt32.bind fun r => r.2.readInt8.map fun t =>
    -- The subtype passes through a signed byte.
    {t.2 with item := .bindata (t.1.signExtend 32), pending := r.1}
  else if type = bsonBool then d.readInt8.map fun r => {r.2 with item := .bool (r.1 != 0)}
  else if type = bsonInt32 then d.readInt32.map fun r => {r.2 with item := .int32 r.1}
  else if type = bsonInt64 then d.readInt64.map fun r => {r.2 with item := .int64 r.1}
  else none

def killed (d : BsonDecoder) : BsonDecoder := {d with dead := true}

section
variable {σ : Type*} (callback : BsonDecoder → σ → Int × BsonDecoder × σ)

def readNode (d : BsonDecoder) (type : Byte) (state : σ) : Int × BsonDecoder × σ :=
  if type = bsonEoo then callback {d with name := [], item := .eoo} state
  -- The type passes through a signed byte.
  else if type.signExtend 32 = 0xff then (-enodata,d.killed,state)
  else ((readName bsonMaxname [] d).bind fun n => {n.2 with name := n.1}.readItem type).elim
    (-1,d.killed,state) fun d => callback d state

def bsonDecoderNext (d : BsonDecoder) (state : σ) : Int × BsonDecoder × σ :=
  if d.dead then (-1,d,state)
  else
    let popped := if d.item = .eoo then {d with nesting := d.nesting-1} else d
    if d.item = .eoo ∧ popped.nesting = 0 then (0,{popped with source := .closed},state)
    else ((discard popped.pending.toInt.toNat popped).bind readInt8).elim (-1,popped.killed,state) fun r =>
      {r.2 with pending := 0}.readNode callback r.1 state

def decodeLoop : Nat → BsonDecoder → σ → Int × BsonDecoder × σ
  | 0,d,state => (-1,d,state)
  | fuel+1,d,state =>
    let next := bsonDecoderNext callback d state
    if next.1 > 0 then decodeLoop fuel next.2.1 next.2.2 else next

end

/-- The pending size is signed and converted to `size_t`. -/
def bsonDecoderCopyData (d : BsonDecoder) : Option (List Byte × BsonDecoder) :=
  (d.readX (d.pending.signExtend 64).toNat).map fun r => (r.1,{r.2 with pending := 0})

end BsonDecoder
end AerialManipulator
