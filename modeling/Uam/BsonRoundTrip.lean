import Uam.TinyBson
import Uam.Library.Runs

/-! What the encoder writes with each of its back ends, and what the decoder makes of it. -/
namespace AerialManipulator
open Bytes BsonEncoder BsonDecoder List Option Runs
open BitVec (ofNat ofNat_add ofNat_toNat setWidth_eq)

inductive BsonBackend where
  | file (old : List Byte)
  | bufferedFile (old : List Byte) (bufsize : Nat)
  | memory

namespace BsonBackend

def old : BsonBackend → List Byte
  | file old => old
  | bufferedFile old _ => old
  | memory => []

def init : BsonBackend → Option BsonEncoder
  | file old => bsonEncoderInitFile ⟨old,0⟩
  | bufferedFile old bufsize => bsonEncoderInitBufFile ⟨old,0⟩ bufsize
  | memory => bsonEncoderInitBuf

def encodeEntries (backend : BsonBackend) (entries : List BsonEntry) : Option BsonEncoder :=
  backend.init.bind fun e => (entries.foldlM append e).bind bsonEncoderFini

end BsonBackend

def BsonValue.type : BsonValue → Byte
  | bool _ => bsonBool
  | int32 _ => bsonInt32
  | int64 _ => bsonInt64
  | double _ => bsonDouble
  | string _ => bsonString
  | binary _ _ => bsonBindata

def BsonValue.data : BsonValue → List Byte
  | string s => s.text ++ [0]
  | binary _ data => data
  | _ => []

def BsonValue.head : BsonValue → List Byte
  | bool b => [if b then 1 else 0]
  | int32 i => encode 4 i.toNat
  | int64 i => encode 8 i.toNat
  | double d => encode 8 d.toNat
  | string s => encode 4 (BitVec.ofNat 32 (s.text.length+1)).toNat
  | binary subtype data => encode 4 (BitVec.ofNat 32 data.length).toNat ++ [subtype.code.setWidth 8]

def BsonValue.chunks (value : BsonValue) : List (List Byte) :=
  match value with
  | string _ => [value.head,value.data]
  | binary subtype data => [encode 4 (BitVec.ofNat 32 data.length).toNat,[subtype.code.setWidth 8],data]
  | _ => [value.head]

def BsonEntry.bytes (entry : BsonEntry) : List Byte :=
  [entry.value.type] ++ (entry.name.text ++ [0]) ++ entry.value.head ++ entry.value.data

def bsonDocument (entries : List BsonEntry) : List Byte := encode 4 0 ++ entries.flatMap BsonEntry.bytes ++ [bsonEoo]

def bsonDocumentSize (entries : List BsonEntry) : Nat := (bsonDocument entries).length

def BsonBackend.Emitted : BsonBackend → BsonEncoder → List Byte → Prop
  | .file old,e,bytes => e.fd = some ⟨overlay old bytes,bytes.length⟩ ∧ e.buf = none ∧
      e.totalDocumentSize = BitVec.ofNat 32 bytes.length
  | .bufferedFile old _,e,bytes => ∃ flushed pending, bytes = flushed ++ pending ∧
      e.fd = some ⟨overlay old flushed,flushed.length⟩ ∧ e.buf = some pending ∧
      e.totalDocumentSize = BitVec.ofNat 32 flushed.length
  | .memory,e,bytes => e.fd = none ∧ e.buffered = bytes ∧ e.totalDocumentSize = 0

section
variable {backend : BsonBackend} {e : BsonEncoder} {bytes : List Byte} {entry : BsonEntry} {entries : List BsonEntry}

lemma emitted_writeX (emitted : backend.Emitted e bytes) (put : e.writeX p = some e') :
    backend.Emitted e' (bytes ++ p) := by
  cases backend with
  | file old =>
    obtain ⟨fd,buf,total⟩ := emitted
    simp only [writeX,fd,buf,isSome_some,isNone_none,Bool.and_self,if_true,map_some] at put
    split at put
    · cases put
      refine ⟨congrArg some (write_overlay old bytes p),rfl,?_⟩
      rw [total,length_append,ofNat_add]
    · cases put
  | bufferedFile old bufsize =>
    obtain ⟨flushed,pending,rfl,fd,buf,total⟩ := emitted
    simp only [writeX,buffered,fd,buf,isSome_some,isNone_some,Bool.and_false,Bool.false_eq_true,if_false,
      if_true,getD_some,map_some] at put
    split at put
    · cases put
      exact ⟨flushed,pending ++ p,append_assoc ..,rfl,rfl,total⟩
    split at put
    · cases put
    · cases put
      refine ⟨flushed ++ pending,p,rfl,congrArg some (write_overlay old flushed pending),rfl,?_⟩
      rw [total,length_append,ofNat_add]
  | memory =>
    obtain ⟨fd,buf,total⟩ := emitted
    simp only [writeX,fd,buf,isSome_none,Bool.false_and,Bool.false_eq_true,if_false] at put
    split at put
    · cases put
      exact ⟨rfl,rfl,total⟩
    · split at put
      · cases put
        exact ⟨rfl,rfl,total⟩
      · cases put

lemma emitted_init (started : backend.init = some e) : backend.Emitted e (encode 4 0) := by
  have empty : ∃ e₀, writeInt32 e₀ 0 = some e ∧ backend.Emitted e₀ [] := by
    cases backend with
    | file old => exact ⟨⟨some ⟨old,0⟩,none,0,false,0⟩,started,rfl,rfl,rfl⟩
    | bufferedFile old bufsize => exact ⟨⟨some ⟨old,0⟩,some [],bufsize,false,0⟩,started,[],[],rfl,rfl,rfl,rfl⟩
    | memory => exact ⟨⟨none,none,0,true,0⟩,started,rfl,rfl,rfl⟩
  obtain ⟨e₀,written,emitted⟩ := empty
  exact emitted_writeX emitted written

lemma emitted_writeName {name : CText} (emitted : backend.Emitted e bytes) (put : e.writeName name = some e') :
    name.text.length ≤ bsonMaxname ∧ backend.Emitted e' (bytes ++ (name.text ++ [0])) := by
  rw [writeName] at put
  split at put
  · cases put
  · exact ⟨by omega,emitted_writeX emitted put⟩

lemma emitted_named {name : CText} {type : Byte} {rest : BsonEncoder → Option BsonEncoder}
    (emitted : backend.Emitted e bytes)
    (put : ((e.writeInt8 type).bind fun e => (e.writeName name).bind rest) = some e') :
    name.text.length ≤ bsonMaxname ∧
      ∃ named, backend.Emitted named (bytes ++ [type] ++ (name.text ++ [0])) ∧ rest named = some e' := by
  obtain ⟨typed,first,put⟩ := bind_eq_some_iff.mp put
  obtain ⟨named,second,put⟩ := bind_eq_some_iff.mp put
  obtain ⟨short,emitted⟩ := emitted_writeName (emitted_writeX emitted first) second
  exact ⟨short,named,emitted,put⟩

lemma append_eq (e : BsonEncoder) (entry : BsonEntry) :
    e.append entry = (e.writeInt8 entry.value.type).bind fun e => (e.writeName entry.name).bind fun e =>
      entry.value.chunks.foldlM writeX e := by
  obtain ⟨name,value⟩ := entry
  cases value <;> simp [append,BsonValue.chunks,bsonEncoderAppendBool,bsonEncoderAppendInt32,bsonEncoderAppendInt64,
    bsonEncoderAppendDouble,bsonEncoderAppendString,bsonEncoderAppendBinary,BsonValue.type,BsonValue.head,BsonValue.data,
    writeInt8,writeInt32,writeInt64,writeDouble]

lemma chunks_flatten (value : BsonValue) : value.chunks.flatten = value.head ++ value.data := by
  cases value <;> simp [BsonValue.chunks,BsonValue.head,BsonValue.data]

section
variable (emitted : backend.Emitted e bytes)
include emitted

lemma emitted_chunks {chunks : List (List Byte)}
    (put : chunks.foldlM writeX e = some e') : backend.Emitted e' (bytes ++ chunks.flatten) := by
  induction chunks generalizing e bytes with
  | nil =>
    cases put
    simpa using emitted
  | cons p rest ih =>
    rw [foldlM_cons] at put
    obtain ⟨next,first,put⟩ := bind_eq_some_iff.mp put
    rw [flatten_cons,← append_assoc]
    exact ih (emitted_writeX emitted first) put

lemma emitted_append (put : e.append entry = some e') :
    entry.name.text.length ≤ bsonMaxname ∧ backend.Emitted e' (bytes ++ entry.bytes) := by
  rw [append_eq] at put
  obtain ⟨short,named,emitted,put⟩ := emitted_named emitted put
  have emitted := emitted_chunks emitted put
  rw [chunks_flatten] at emitted
  simp only [BsonEntry.bytes,← append_assoc] at emitted ⊢
  exact ⟨short,emitted⟩

lemma emitted_foldlM (put : entries.foldlM append e = some e') :
    (∀ entry ∈ entries, entry.name.text.length ≤ bsonMaxname) ∧
      backend.Emitted e' (bytes ++ entries.flatMap BsonEntry.bytes) := by
  induction entries generalizing e bytes with
  | nil =>
    cases put
    simpa using emitted
  | cons entry rest ih =>
    rw [foldlM_cons] at put
    obtain ⟨appended,first,put⟩ := bind_eq_some_iff.mp put
    obtain ⟨short,emitted⟩ := emitted_append emitted first
    obtain ⟨others,emitted⟩ := ih emitted put
    refine ⟨?_,?_⟩
    · intro other member
      rcases mem_cons.mp member with rfl | member
      · exact short
      · exact others other member
    · rw [flatMap_cons,← append_assoc]
      exact emitted

end

/-- The size `bson_encoder_fini` fills in: in memory nothing was counted. -/
def BsonBackend.countedSize (backend : BsonBackend) (written : Nat) : BitVec 32 :=
  match backend with
  | .memory => 0
  | _ => BitVec.ofNat 32 written

def BsonEncoder.stored (e : BsonEncoder) : List Byte := e.fd.elim e.buffered File.content

lemma stored_fini (emitted : backend.Emitted e bytes) (put : e.bsonEncoderFini = some e') (started : 4 ≤ bytes.length) :
    e'.stored = overlay backend.old
      (encode 4 (backend.countedSize (bytes.length + 1)).toNat ++ (bytes ++ [bsonEoo]).drop 4) ∧
    e'.totalDocumentSize = backend.countedSize (bytes.length+1) ∧ (e'.fd = none ↔ backend = .memory) := by
  obtain ⟨ended,last,rfl⟩ := map_eq_some_iff.mp put
  have emitted := emitted_writeX emitted last
  have size : bytes.length + 1 = (bytes ++ [bsonEoo]).length := by simp
  have long : 4 ≤ (bytes ++ [bsonEoo]).length := by omega
  rw [size]
  generalize bytes ++ [bsonEoo] = whole at emitted long
  have patched (old : List Byte) (n : Nat) :
      (((File.mk (overlay old whole) whole.length).seek 0).write (encode 4 n)).content =
        overlay old (encode 4 n ++ whole.drop 4) := by
    rw [rewrite_overlay old whole _ (by simpa using long),length_encode]
  cases backend with
  | file old =>
    obtain ⟨fd,buf,total⟩ := emitted
    refine ⟨?_,by simpa [fd,buf,BsonBackend.countedSize] using total,by simp [fd,buf]⟩
    simp only [stored,fd,buf,total,isSome_some,isSome_none,Bool.and_false,Bool.false_and,Bool.false_eq_true,
      if_false,if_true,map_some,elim_some]
    exact patched old _
  | bufferedFile old bufsize =>
    obtain ⟨flushed,pending,rfl,fd,buf,total⟩ := emitted
    simp only [stored,buffered,fd,buf,total,isSome_some,Bool.and_self,Bool.true_and,getD_some,
      decide_eq_true_eq,map_some,write_overlay]
    split
    · simp only [isSome_some,if_true,map_some,elim_some,← ofNat_add,← length_append]
      exact ⟨patched old _,rfl,by simp⟩
    next nothing =>
      have none : pending = [] := eq_nil_of_length_eq_zero (by omega)
      subst none
      simp only [append_nil] at patched ⊢
      simp only [fd,total,isSome_some,if_true,map_some,elim_some]
      exact ⟨patched old _,rfl,by simp⟩
  | memory =>
    obtain ⟨fd,buf,total⟩ := emitted
    have allocated : ended.buf = some whole := by
      rw [buffered] at buf
      cases bytes : ended.buf with
      | none =>
        rw [bytes] at buf
        rw [← buf] at long
        simp at long
      | some b => rw [← buf,bytes,getD_some]
    refine ⟨?_,by simpa [fd,BsonBackend.countedSize] using total,by simp [fd]⟩
    simp [stored,buffered,fd,allocated,total,overlay,BsonBackend.old,BsonBackend.countedSize]

lemma stored_encodeEntries (encoded : backend.encodeEntries entries = some e) :
    (∀ entry ∈ entries, entry.name.text.length ≤ bsonMaxname) ∧
      e.stored = overlay backend.old (encode 4 (backend.countedSize (bsonDocumentSize entries)).toNat ++
        (entries.flatMap BsonEntry.bytes ++ [bsonEoo])) ∧
      e.totalDocumentSize = backend.countedSize (bsonDocumentSize entries) ∧ (e.fd = none ↔ backend = .memory) := by
  obtain ⟨started,first,encoded⟩ := bind_eq_some_iff.mp encoded
  obtain ⟨appended,second,encoded⟩ := bind_eq_some_iff.mp encoded
  obtain ⟨short,emitted⟩ := emitted_foldlM (emitted_init first) second
  obtain ⟨stored,total,place⟩ := stored_fini emitted encoded (by simp)
  have size : (encode 4 0 ++ entries.flatMap BsonEntry.bytes).length + 1 = bsonDocumentSize entries := by
    simp [bsonDocumentSize,bsonDocument,Nat.add_assoc]
  rw [size] at stored total
  refine ⟨short,?_,total,place⟩
  rw [stored]
  simp

end

structure BsonRead where
  name : List Byte
  item : BsonItem
  data : List Byte

def BsonItem.hasData : BsonItem → Bool
  | string => true
  | bindata _ => true
  | _ => false

def collect (d : BsonDecoder) (seen : List BsonRead) : Int × BsonDecoder × List BsonRead :=
  if d.item = .eoo then (0,d,seen)
  else if d.item.hasData then d.bsonDecoderCopyData.elim (-1,d.killed,seen) fun r =>
    (1,r.2,seen ++ [⟨d.name,d.item,r.1⟩])
  else (1,d,seen ++ [⟨d.name,d.item,[]⟩])

def BsonEncoder.decodeStored (e : BsonEncoder) : Int × List BsonRead :=
  (e.fd.elim (bsonDecoderInitBuf e.buffered e.buffered.length) fun f => bsonDecoderInitFile (f.seek 0)).elim
    (-1,[]) fun d =>
      let decoded := decodeLoop collect (e.stored.length+1) d []
      (decoded.1,decoded.2.2)

def BsonValue.item : BsonValue → BsonItem
  | bool b => .bool b
  | int32 i => .int32 i
  | int64 i => .int64 i
  | double d => .double d
  | string _ => .string
  | binary subtype _ => .bindata subtype.code

def BsonEntry.read (entry : BsonEntry) : BsonRead := ⟨entry.name.text,entry.value.item,entry.value.data⟩

/-- `rest` is what comes next, `place` bytes into the source. -/
def BsonDecoder.Reading (d : BsonDecoder) (place : Nat) (rest : List Byte) : Prop :=
  d.dead = false ∧ d.totalDecodedSize = BitVec.ofNat 32 place ∧ match d.source with
    | .file fd => fd.pos = place ∧ rest <+: fd.content.drop place
    | .buf bytes bufsize bufpos =>
      bufpos = place ∧ bufsize = bytes.length ∧ place ≤ bytes.length ∧ rest <+: bytes.drop place
    | .closed => False

def BsonDecoder.Moved (d d' : BsonDecoder) : Prop :=
  d' = {d with source := d'.source, totalDecodedSize := d'.totalDecodedSize}

section
variable {d d' : BsonDecoder} {place : Nat} {rest : List Byte}

lemma taken_of_prefix {xs : List Byte} (there : p ++ rest <+: xs.drop n) :
    (xs.drop n).take p.length = p ∧ rest <+: xs.drop (n+p.length) := by
  obtain ⟨more,there⟩ := there
  rw [← drop_drop,← there,append_assoc]
  exact ⟨take_left,more,drop_left.symm⟩

lemma reading_readX (reading : d.Reading place (p ++ rest)) (small : p.length < 2^31) (inside : 0 < place ∨ rest ≠ []) :
    ∃ d', d.readX p.length = some (p,d') ∧ d'.Reading (place+p.length) rest ∧ d.Moved d' := by
  obtain ⟨source,dead,nesting,name,item,pending,document,decoded⟩ := d
  obtain ⟨alive,counted,ready⟩ := reading
  have total : decoded+ofNat 32 p.length = ofNat 32 (place+p.length) := by
    rw [ofNat_add]
    exact congrArg (· + _) counted
  cases source with
  | file fd =>
    obtain ⟨rfl,there⟩ := ready
    obtain ⟨taken,left⟩ := taken_of_prefix there
    refine ⟨⟨.file ⟨fd.content,fd.pos+p.length⟩,dead,nesting,name,item,pending,document,
      decoded+ofNat 32 p.length⟩,?_,⟨alive,total,rfl,left⟩,rfl⟩
    simp only [readX,File.read,taken,decide_true,Bool.true_and,decide_eq_true small,if_true]
  | buf bytes bufsize bufpos =>
    obtain ⟨rfl,rfl,bounded,there⟩ := ready
    obtain ⟨taken,left⟩ := taken_of_prefix there
    have room := there.length_le
    rw [length_append,length_drop] at room
    have smaller : p.length < bytes.length := by
      rcases inside with advanced | nonempty
      · omega
      · have := length_pos_of_ne_nil nonempty
        omega
    refine ⟨⟨.buf bytes bytes.length (bufpos+p.length),dead,nesting,name,item,pending,document,
      decoded+ofNat 32 p.length⟩,?_,⟨alive,total,rfl,rfl,by omega,left⟩,rfl⟩
    simp only [readX,taken]
    rw [if_neg (by omega),if_neg (by omega)]
  | closed => exact ready.elim

lemma BsonDecoder.Moved.trans {d₁ d₂ d₃ : BsonDecoder} (first : d₁.Moved d₂) (second : d₂.Moved d₃) : d₁.Moved d₃ := by
  rw [Moved] at *
  rw [second,first]

lemma reading_readInt8 (reading : d.Reading place (b::rest)) (inside : 0 < place) :
    ∃ d', d.readInt8 = some (b,d') ∧ d'.Reading (place+1) rest ∧ d.Moved d' := by
  obtain ⟨d',read,reading,moved⟩ := reading_readX (p := [b]) reading (by simp) (.inl inside)
  exact ⟨d',by rw [readInt8]; exact congrArg (Option.map _) read,reading,moved⟩

lemma reading_number (reading : d.Reading place (encode n v ++ rest)) (small : n < 2^31)
    (inside : 0 < place ∨ rest ≠ []) :
    ∃ d', d.readX n = some (encode n v,d') ∧ d'.Reading (place+n) rest ∧ d.Moved d' := by
  have read := reading_readX reading (by rwa [length_encode]) inside
  rwa [length_encode] at read

lemma reading_readInt32 {i : BitVec 32} (reading : d.Reading place (encode 4 i.toNat ++ rest))
    (inside : 0 < place ∨ rest ≠ []) :
    ∃ d', d.readInt32 = some (i,d') ∧ d'.Reading (place+4) rest ∧ d.Moved d' := by
  obtain ⟨d',read,reading,moved⟩ := reading_number reading (by decide) inside
  refine ⟨d',?_,reading,moved⟩
  rw [readInt32,read,map_some,decode_encode_of_lt i.isLt,ofNat_toNat,setWidth_eq]

lemma reading_readInt64 {i : BitVec 64} (reading : d.Reading place (encode 8 i.toNat ++ rest)) (inside : 0 < place) :
    ∃ d', d.readInt64 = some (i,d') ∧ d'.Reading (place+8) rest ∧ d.Moved d' := by
  obtain ⟨d',read,reading,moved⟩ := reading_number reading (by decide) (.inl inside)
  refine ⟨d',?_,reading,moved⟩
  rw [readInt64,read,map_some,decode_encode_of_lt i.isLt,ofNat_toNat,setWidth_eq]

lemma reading_readName {name : List Byte} (proper : 0 ∉ name) {room : Nat} (short : name.length < room)
    (reading : d.Reading place (name ++ 0::rest)) (inside : 0 < place) (before : List Byte) :
    ∃ d', readName room before d = some (before ++ name,d') ∧ d'.Reading (place + name.length + 1) rest ∧
      d.Moved d' := by
  induction name generalizing room d place before with
  | nil =>
    obtain ⟨room,rfl⟩ : ∃ r, room = r+1 := ⟨room-1,by simp at short; omega⟩
    obtain ⟨d',read,reading,moved⟩ := reading_readInt8 reading inside
    refine ⟨d',?_,reading,moved⟩
    rw [readName,read,bind_some,if_pos rfl,append_nil]
  | cons c name ih =>
    simp only [mem_cons,not_or] at proper
    obtain ⟨room,rfl⟩ : ∃ r, room = r+1 := ⟨room-1,by simp at short; omega⟩
    obtain ⟨d₁,read,reading,moved⟩ := reading_readInt8 reading inside
    have short : name.length < room := by simpa using short
    obtain ⟨d',named,reading,moved'⟩ := ih proper.2 short reading (by omega) (before ++ [c])
    refine ⟨d',?_,?_,moved.trans moved'⟩
    · rw [readName,read,bind_some,if_neg (Ne.symm proper.1),named,append_assoc]
      rfl
    · simpa [Nat.add_assoc,Nat.add_comm 1] using reading

lemma readName_long {name : List Byte} (proper : 0 ∉ name) {room : Nat} (long : room ≤ name.length)
    (reading : d.Reading place (name ++ rest)) (inside : 0 < place) (before : List Byte) :
    readName room before d = none := by
  induction room generalizing name d place before with
  | zero => rfl
  | succ room ih =>
    rcases name with _ | ⟨c,name⟩
    · simp at long
    · simp only [mem_cons,not_or] at proper
      obtain ⟨d₁,read,reading,moved⟩ := reading_readInt8 reading inside
      rw [readName,read,bind_some,if_neg (Ne.symm proper.1)]
      exact ih proper.2 (by simpa using long) reading (by omega) (before ++ [c])

def BsonValue.seen : BsonValue → BsonItem
  | binary subtype _ => .bindata ((subtype.code.setWidth 8).signExtend 32)
  | value => value.item

lemma type_ne_eoo (value : BsonValue) : value.type ≠ bsonEoo ∧ value.type.signExtend 32 ≠ 0xff := by
  cases value <;> exact ⟨by simp [BsonValue.type,bsonEoo,bsonBool,bsonInt32,bsonInt64,bsonDouble,bsonString,bsonBindata],
    by simp [BsonValue.type,bsonBool,bsonInt32,bsonInt64,bsonDouble,bsonString,bsonBindata]⟩

lemma BsonDecoder.Moved.item (moved : d.Moved d') (item : BsonItem) (pending : BitVec 32) :
    {d with item := item, pending := pending}.Moved {d' with item := item, pending := pending} := by
  rw [Moved] at *
  rw [moved]

lemma reading_readItem (value : BsonValue) (reading : d.Reading place (value.head ++ rest)) (inside : 0 < place)
    (idle : d.pending = 0) :
    ∃ d', d.readItem value.type = some d' ∧ d'.Reading (place+value.head.length) rest ∧
      {d with item := value.seen, pending := ofNat 32 value.data.length}.Moved d' := by
  have scalar {β : Type} {read : Option (β × BsonDecoder)} {x : β} {type : Byte} {n : Nat} (item : β → BsonItem)
      (select : d.readItem type = read.map fun r => {r.2 with item := item r.1})
      (found : ∃ d', read = some (x,d') ∧ d'.Reading (place+n) rest ∧ d.Moved d') :
      ∃ d', d.readItem type = some d' ∧ d'.Reading (place+n) rest ∧
        {d with item := item x, pending := 0}.Moved d' := by
    obtain ⟨d',rfl,reading,moved⟩ := found
    have unchanged : {d' with item := item x, pending := 0} = {d' with item := item x} := by rw [moved,idle]
    exact ⟨_,select.trans (congrArg some unchanged.symm),reading,moved.item (item x) 0⟩
  cases value with
  | bool b =>
    have found := scalar (fun x => .bool (x != 0)) (rfl : d.readItem bsonBool = _) (reading_readInt8 reading inside)
    cases b <;> exact found
  | int32 i =>
    rw [BsonValue.head,length_encode]
    exact scalar .int32 rfl (reading_readInt32 reading (.inl inside))
  | int64 i =>
    rw [BsonValue.head,length_encode]
    exact scalar .int64 rfl (reading_readInt64 reading inside)
  | double v =>
    rw [BsonValue.head,length_encode]
    exact scalar .double rfl (reading_readInt64 reading inside)
  | string s =>
    obtain ⟨d',read,reading,moved⟩ := reading_readInt32 reading (.inl inside)
    refine ⟨_,?_,?_,moved.item .string _⟩
    · have select : d.readItem bsonString = d.readInt32.map fun r => {r.2 with item := .string, pending := r.1} := rfl
      refine select.trans ?_
      rw [read,map_some]
      simp [BsonValue.data]
    · rw [BsonValue.head,length_encode]
      exact reading
  | binary subtype data =>
    rw [BsonValue.head,append_assoc] at reading
    obtain ⟨d₁,sized,reading,moved⟩ := reading_readInt32 reading (.inl inside)
    obtain ⟨d',typed,reading,moved'⟩ := reading_readInt8 reading (by omega)
    refine ⟨_,?_,?_,(moved.trans moved').item (.bindata ((subtype.code.setWidth 8).signExtend 32)) _⟩
    · have select : d.readItem bsonBindata = d.readInt32.bind fun r => r.2.readInt8.map fun t =>
          {t.2 with item := .bindata (t.1.signExtend 32), pending := r.1} := rfl
      refine select.trans ?_
      rw [sized,bind_some,typed,map_some]
      rfl
    · rw [BsonValue.head,length_append,length_encode]
      exact reading

section
variable {σ : Type*} (callback : BsonDecoder → σ → Int × BsonDecoder × σ) (state : σ)

structure BsonDecoder.Between (d : BsonDecoder) (place : Nat) (rest : List Byte) : Prop where
  reading : d.Reading place rest
  inside : 0 < place
  open_ : d.item ≠ .eoo
  idle : d.pending = 0

lemma between_type (gap : d.Between place (type::rest)) :
    ∃ d', bsonDecoderNext callback d state = d'.readNode callback type state ∧ d'.Reading (place+1) rest ∧
      d.Moved d' := by
  obtain ⟨d',read,reading,moved⟩ := reading_readInt8 gap.reading gap.inside
  have cleared : {d' with pending := 0} = d' := by rw [moved,gap.idle]
  refine ⟨d',?_,reading,moved⟩
  have nothing : discard (BitVec.toInt (0 : BitVec 32)).toNat d = some d := rfl
  rw [bsonDecoderNext,if_neg (Bool.eq_false_iff.mp gap.reading.1)]
  simp only [gap.open_,if_false,false_and,gap.idle]
  rw [nothing,bind_some,read,elim_some,cleared]

lemma next_entry {entry : BsonEntry} (short : entry.name.text.length < bsonMaxname)
    (gap : d.Between place (entry.bytes ++ rest)) :
    ∃ d', bsonDecoderNext callback d state = callback d' state ∧
      d'.Reading (place + (entry.bytes.length - entry.value.data.length)) (entry.value.data ++ rest) ∧
      {d with name := entry.name.text, item := entry.value.seen
              pending := ofNat 32 entry.value.data.length}.Moved d' := by
  obtain ⟨other,erased⟩ := type_ne_eoo entry.value
  have layout : entry.bytes ++ rest = entry.value.type::(entry.name.text ++ 0::(entry.value.head ++
      (entry.value.data ++ rest))) := by simp [BsonEntry.bytes]
  have size : 1+entry.name.text.length+1+entry.value.head.length =
      entry.bytes.length-entry.value.data.length := by simp [BsonEntry.bytes]; omega
  obtain ⟨d₁,next,reading,moved⟩ := between_type callback state (layout ▸ gap)
  obtain ⟨d₂,named,reading,moved₂⟩ := reading_readName entry.name.proper short reading (by omega) []
  have idle : d₂.pending = 0 := by
    rw [moved₂,moved]
    exact gap.idle
  obtain ⟨d',item,reading,moved'⟩ := reading_readItem (d := {d₂ with name := entry.name.text}) entry.value reading
    (by omega) idle
  refine ⟨d',?_,?_,?_⟩
  · rw [next,readNode,if_neg other,if_neg erased,named,bind_some]
    exact congrArg (fun o : Option BsonDecoder => o.elim _ _) item
  · rw [← size]
    simpa only [Nat.add_assoc] using reading
  · rw [Moved] at *
    rw [moved',moved₂,moved]

lemma next_long {entry : BsonEntry} (long : bsonMaxname ≤ entry.name.text.length)
    (gap : d.Between place (entry.bytes ++ rest)) :
    ∃ d', bsonDecoderNext callback d state = (-1,d',state) := by
  obtain ⟨other,erased⟩ := type_ne_eoo entry.value
  have layout : entry.bytes ++ rest = entry.value.type::(entry.name.text ++ (0::(entry.value.head ++
      (entry.value.data ++ rest)))) := by simp [BsonEntry.bytes]
  obtain ⟨d₁,next,reading,moved⟩ := between_type callback state (layout ▸ gap)
  refine ⟨d₁.killed,?_⟩
  rw [next,readNode,if_neg other,if_neg erased,readName_long entry.name.proper long reading (by omega)]
  rfl

lemma next_eoo (gap : d.Between place (bsonEoo::rest)) :
    ∃ d', bsonDecoderNext callback d state = callback d' state ∧ d'.Reading (place+1) rest ∧
      {d with name := [], item := .eoo}.Moved d' := by
  obtain ⟨d₁,next,reading,moved⟩ := between_type callback state gap
  refine ⟨{d₁ with name := [], item := .eoo},?_,?_,?_⟩
  · rw [next,readNode,if_pos rfl]
  · exact reading
  · rw [Moved] at *
    rw [moved]

def Handles (apply : σ → BsonEntry → σ) (ok : σ → BsonEntry → Prop) (entry : BsonEntry) : Prop :=
  ∀ d place rest state, d.Reading place (entry.value.data ++ rest) → 0 < place → d.name = entry.name.text →
    d.item = entry.value.seen → d.pending = BitVec.ofNat 32 entry.value.data.length → ok state entry →
    ∃ d', callback d state = (1,d',apply state entry) ∧ d'.Reading (place+entry.value.data.length) rest ∧
      {d with pending := 0}.Moved d'

variable {callback state}

lemma seen_ne_eoo (value : BsonValue) : value.seen ≠ .eoo := by
  cases value <;> simp [BsonValue.seen,BsonValue.item]

variable {apply : σ → BsonEntry → σ} {ok : σ → BsonEntry → Prop}

section
variable {entries : List BsonEntry} (short : ∀ entry ∈ entries, entry.name.text.length < bsonMaxname)
  (handles : ∀ entry ∈ entries, Handles callback apply ok entry)
include short handles

lemma decodeLoop_handles (admitted : Along apply ok state entries)
    (gap : d.Between place (entries.flatMap BsonEntry.bytes ++ rest)) (fuel : Nat) :
    ∃ d', decodeLoop callback (entries.length+fuel) d state = decodeLoop callback fuel d' (entries.foldl apply state) ∧
      d'.Between (place+(entries.flatMap BsonEntry.bytes).length) rest ∧
      d'.totalDocumentSize = d.totalDocumentSize := by
  induction entries generalizing d place state with
  | nil => exact ⟨d,by simp,by simpa using gap,rfl⟩
  | cons entry entries ih =>
    rw [flatMap_cons,append_assoc] at gap
    obtain ⟨d₁,next,reading,moved⟩ := next_entry callback state
      (short entry mem_cons_self) gap
    have fields : d₁.name = entry.name.text ∧ d₁.item = entry.value.seen ∧
        d₁.pending = ofNat 32 entry.value.data.length ∧ d₁.totalDocumentSize = d.totalDocumentSize := by
      rw [moved]
      exact ⟨rfl,rfl,rfl,rfl⟩
    obtain ⟨name,item,pending,document⟩ := fields
    obtain ⟨d₂,called,reading,moved₂⟩ := handles entry mem_cons_self d₁ _ _ state reading
      (by have := gap.inside; omega) name item pending admitted.1
    have consumed : entry.value.data.length ≤ entry.bytes.length := by
      simp [BsonEntry.bytes]
      omega
    have fields : d₂.item = entry.value.seen ∧ d₂.pending = 0 ∧ d₂.totalDocumentSize = d.totalDocumentSize := by
      rw [moved₂]
      exact ⟨item,rfl,document⟩
    obtain ⟨item,idle,document⟩ := fields
    have gap : d₂.Between (place + entry.bytes.length) (entries.flatMap BsonEntry.bytes ++ rest) := by
      refine ⟨?_,by have := gap.inside; omega,item ▸ seen_ne_eoo entry.value,idle⟩
      rwa [Nat.add_assoc,Nat.sub_add_cancel consumed] at reading
    obtain ⟨d',loop,gap,document'⟩ := ih (fun other member => short other (mem_cons_of_mem _ member))
      (fun other member => handles other (mem_cons_of_mem _ member)) admitted.2 gap
    refine ⟨d',?_,?_,document'.trans document⟩
    · rw [length_cons,Nat.add_right_comm,decodeLoop,next,called]
      exact loop
    · rw [flatMap_cons,length_append,← Nat.add_assoc]
      exact gap

lemma decodeLoop_done
    (ends : ∀ d state, d.item = .eoo → callback d state = (0,d,state)) (admitted : Along apply ok state entries)
    (gap : d.Between place (entries.flatMap BsonEntry.bytes ++ bsonEoo::rest))
    (enough : entries.length < fuel) :
    ∃ d', decodeLoop callback fuel d state = (0,d',entries.foldl apply state) ∧
      d'.totalDocumentSize = d.totalDocumentSize ∧
      d'.totalDecodedSize = ofNat 32 (place+(entries.flatMap BsonEntry.bytes).length+1) := by
  obtain ⟨more,rfl⟩ : ∃ more, fuel = entries.length+(more+1) := ⟨fuel-entries.length-1,by omega⟩
  obtain ⟨d₁,loop,gap,document⟩ := decodeLoop_handles short handles admitted gap (more+1)
  obtain ⟨d₂,next,reading,moved⟩ := next_eoo callback (entries.foldl apply state) gap
  have fields : d₂.item = .eoo ∧ d₂.totalDocumentSize = d.totalDocumentSize := by
    rw [moved]
    exact ⟨rfl,document⟩
  refine ⟨d₂,?_,fields.2,reading.2.1⟩
  rw [loop,decodeLoop,next,ends d₂ _ fields.1]
  rfl

lemma decodeLoop_stops (admitted : Along apply ok state entries)
    (gap : d.Between place (entries.flatMap BsonEntry.bytes ++ rest)) (negative : result ≤ 0)
    (stops : ∀ d place, d.Between place rest → (bsonDecoderNext callback d (entries.foldl apply state)).1 = result)
    (enough : entries.length < fuel) : (decodeLoop callback fuel d state).1 = result := by
  obtain ⟨more,rfl⟩ : ∃ more, fuel = entries.length+(more+1) := ⟨fuel-entries.length-1,by omega⟩
  obtain ⟨d₁,loop,gap,_⟩ := decodeLoop_handles short handles admitted gap (more+1)
  have stopped := stops d₁ _ gap
  rw [loop,decodeLoop,if_neg (by omega),stopped]

end

end

lemma init_file (content : List Byte) (size : BitVec 32) (stored : encode 4 size.toNat ++ body <+: content)
    (nonempty : body ≠ []) :
    ∃ d, bsonDecoderInitFile ⟨content,0⟩ = some d ∧ d.Between 4 body ∧ d.totalDocumentSize = size := by
  have reading : (start (.file ⟨content,0⟩)).Reading 0 (encode 4 size.toNat ++ body) := ⟨rfl,rfl,rfl,stored⟩
  obtain ⟨d,read,reading,moved⟩ := reading_readInt32 reading (.inr nonempty)
  have fields : d.item = .undefined ∧ d.pending = 0 := by
    rw [moved]
    exact ⟨rfl,rfl⟩
  refine ⟨{d with totalDocumentSize := size},?_,⟨reading,by decide,?_,fields.2⟩,rfl⟩
  · rw [bsonDecoderInitFile,read,map_some]
  · rw [fields.1]
    decide

lemma init_buf (nonempty : body ≠ []) :
    ∃ d, bsonDecoderInitBuf (encode 4 0 ++ body) (encode 4 0 ++ body).length = some d ∧ d.Between 4 body := by
  have size : (encode 4 0 ++ body).length ≠ 0 := by simp
  have reading : (start (.buf (encode 4 0 ++ body) (encode 4 0 ++ body).length 0)).Reading 0
      (encode 4 (0 : BitVec 32).toNat ++ body) := ⟨rfl,rfl,rfl,rfl,Nat.zero_le _,prefix_rfl⟩
  obtain ⟨d,read,reading,moved⟩ := reading_readInt32 reading (.inr nonempty)
  have fields : d.item = .undefined ∧ d.pending = 0 := by
    rw [moved]
    exact ⟨rfl,rfl⟩
  refine ⟨{d with totalDocumentSize := 0},?_,reading,by decide,?_,fields.2⟩
  · simp only [bsonDecoderInitBuf,if_neg size]
    rw [read,bind_some,if_neg fun both => absurd both.1 (by decide : ¬(0 : BitVec 32).toInt > 0)]
  · rw [fields.1]
    decide

def BsonEntry.collected (entry : BsonEntry) : BsonRead := ⟨entry.name.text,entry.value.seen,entry.value.data⟩

lemma size_toNat (small : n < 2^31) : ((ofNat 32 n).signExtend 64).toNat = n := by
  have value : (ofNat 32 n).toNat = n := by
    rw [BitVec.toNat_ofNat]
    omega
  have positive : (ofNat 32 n).msb = false := by
    rw [BitVec.msb_eq_decide,value]
    simpa using small
  rw [BitVec.signExtend_eq_setWidth_of_msb_false positive,BitVec.toNat_setWidth,value]
  omega

lemma collect_handles (small : entry.value.data.length < 2^31) :
    Handles collect (fun seen entry => seen ++ [entry.collected]) (fun _ _ => True) entry := by
  intro d place rest seen reading inside name item pending _
  have open_ : d.item ≠ .eoo := item ▸ seen_ne_eoo entry.value
  have read : entry.collected = ⟨d.name,d.item,entry.value.data⟩ := by rw [BsonEntry.collected,name,item]
  simp only [collect,if_neg open_,read]
  split
  · obtain ⟨d',read,reading,moved⟩ := reading_readX reading small (.inl inside)
    refine ⟨{d' with pending := 0},?_,reading,?_⟩
    · rw [bsonDecoderCopyData,pending,size_toNat small,read]
      rfl
    · rw [Moved] at *
      rw [moved]
  next scalar =>
    have nothing : entry.value.data = [] := by
      rw [item] at scalar
      cases value : entry.value <;> rw [value] at scalar <;> first | rfl | exact absurd rfl scalar
    rw [nothing] at reading pending ⊢
    have idle : d.pending = 0 := pending
    refine ⟨d,rfl,reading,?_⟩
    rw [Moved,← idle]

lemma foldl_collected (entries : List BsonEntry) (seen : List BsonRead) :
    entries.foldl (fun seen entry => seen ++ [entry.collected]) seen = seen ++ entries.map BsonEntry.collected := by
  induction entries generalizing seen with
  | nil => simp
  | cons entry rest ih => simp [ih]

lemma collect_ends (d : BsonDecoder) (seen : List BsonRead) (ended : d.item = .eoo) : collect d seen = (0,d,seen) := by
  rw [collect,if_pos ended]

section
variable {entries : List BsonEntry} {fuel : Nat} (small : ∀ entry ∈ entries, entry.value.data.length < 2^31)
  (gap : d.Between place (entries.flatMap BsonEntry.bytes ++ bsonEoo::rest)) (enough : entries.length < fuel)
include small gap enough

lemma decode_short (short : ∀ entry ∈ entries, entry.name.text.length < bsonMaxname) :
    (decodeLoop collect fuel d []).1 = 0 ∧ (decodeLoop collect fuel d []).2.2 = entries.map BsonEntry.collected := by
  obtain ⟨d',loop,_,_⟩ := decodeLoop_done short (fun entry member => collect_handles (small entry member))
    collect_ends (along_of_forall (fun _ _ => trivial) [] entries) gap enough
  rw [loop,foldl_collected]
  exact ⟨rfl,rfl⟩

lemma decode_long (long : ∃ entry ∈ entries, bsonMaxname ≤ entry.name.text.length) : (decodeLoop collect fuel d []).1 = -1 := by
  obtain ⟨before,entry,after,rfl,long,short⟩ := exists_first long
  have short (other : BsonEntry) (member : other ∈ before) : other.name.text.length < bsonMaxname :=
    Nat.lt_of_not_le (short other member)
  rw [flatMap_append,append_assoc,flatMap_cons,append_assoc] at gap
  refine decodeLoop_stops short (fun other member => collect_handles (small other (mem_append_left _ member)))
    (along_of_forall (fun _ _ => trivial) [] before) gap (by decide) ?_ (by simp at enough; omega)
  intro d place gap
  obtain ⟨d',next⟩ := next_long collect (before.foldl _ []) long gap
  rw [next]

end

end

/-- The document starts with its length, and decoding returns the nodes and then the end. -/
structure BsonRoundTrip (entries : List BsonEntry) (e : BsonEncoder) : Prop where
  size : (BitVec.ofNat 32 (decode (e.stored.take 4))).toInt = bsonDocumentSize entries
  nodes : e.decodeStored = (0,entries.map BsonEntry.read)

def BsonEntry.Plain (entry : BsonEntry) : Prop := ∀ data, entry.value ≠ .binary .user data

lemma collected_eq_read (entry : BsonEntry) : entry.collected = entry.read ↔ entry.Plain := by
  obtain ⟨name,value⟩ := entry
  cases value with
  | binary subtype data => cases subtype <;> simp [BsonEntry.collected,BsonEntry.read,BsonEntry.Plain,BsonValue.seen,
      BsonValue.item,BsonBinarySubtype.code]
  | _ => simp [BsonEntry.collected,BsonEntry.read,BsonEntry.Plain,BsonValue.seen,BsonValue.item]

section
variable {backend : BsonBackend} {entries : List BsonEntry} {e : BsonEncoder}

lemma data_small (bounded : bsonDocumentSize entries < 2^31) (member : entry ∈ entries) :
    entry.value.data.length < 2^31 := by
  obtain ⟨before,after,rfl⟩ := append_of_mem member
  simp [bsonDocumentSize,bsonDocument,BsonEntry.bytes] at bounded
  omega

lemma entries_length_le (entries : List BsonEntry) : entries.length ≤ (entries.flatMap BsonEntry.bytes).length := by
  induction entries with
  | nil => simp
  | cons entry rest ih =>
    rw [flatMap_cons,length_append,length_cons]
    have positive : 1 ≤ entry.bytes.length := by simp [BsonEntry.bytes]
    omega

section
variable (encoded : backend.encodeEntries entries = some e)
include encoded

lemma decodeStored_eq : ∃ d, d.Between 4 (entries.flatMap BsonEntry.bytes ++ [bsonEoo]) ∧
      e.decodeStored = ((decodeLoop collect (e.stored.length+1) d []).1,
        (decodeLoop collect (e.stored.length+1) d []).2.2) ∧ entries.length < e.stored.length+1 := by
  obtain ⟨_,stored,_,place⟩ := stored_encodeEntries encoded
  have enough : entries.length < e.stored.length+1 := by
    have := entries_length_le entries
    simp only [stored,overlay,length_append]
    omega
  have nonempty : entries.flatMap BsonEntry.bytes ++ [bsonEoo] ≠ [] := by simp
  cases fd : e.fd with
  | none =>
    have memory := place.mp fd
    subst memory
    have bytes : e.buffered = encode 4 0 ++ (entries.flatMap BsonEntry.bytes ++ [bsonEoo]) := by
      simpa [BsonEncoder.stored,fd,overlay,BsonBackend.old,BsonBackend.countedSize] using stored
    obtain ⟨d,started,between⟩ := init_buf nonempty
    refine ⟨d,between,?_,enough⟩
    rw [decodeStored,fd,elim_none,bytes,started,elim_some]
  | some f =>
    have content : f.content = e.stored := by rw [BsonEncoder.stored,fd,elim_some]
    obtain ⟨d,started,between,_⟩ := init_file f.content _
      (by rw [content,stored,overlay]; exact prefix_append _ _) nonempty
    refine ⟨d,between,?_,enough⟩
    rw [decodeStored,fd,elim_some,File.seek,started,elim_some]

lemma stored_size : ofNat 32 (decode (e.stored.take 4)) = backend.countedSize (bsonDocumentSize entries) := by
  obtain ⟨_,stored,_⟩ := stored_encodeEntries encoded
  have first : e.stored.take 4 = encode 4 (backend.countedSize (bsonDocumentSize entries)).toNat := by
    rw [stored,overlay,append_assoc]
    exact take_left' (length_encode 4 _)
  rw [first,decode_encode_of_lt (BitVec.isLt _),ofNat_toNat,setWidth_eq]

lemma size_iff : (ofNat 32 (decode (e.stored.take 4))).toInt = bsonDocumentSize entries ↔
      backend ≠ .memory ∧ bsonDocumentSize entries < 2^31 := by
  have positive : 0 < bsonDocumentSize entries := by
    simp only [bsonDocumentSize,bsonDocument,length_append,length_singleton]
    omega
  rw [stored_size encoded]
  have counted : (ofNat 32 (bsonDocumentSize entries)).toInt = bsonDocumentSize entries ↔
      bsonDocumentSize entries < 2^31 := by
    rw [BitVec.toInt_eq_toNat_cond,BitVec.toNat_ofNat]
    split <;> omega
  cases backend with
  | file old | bufferedFile old bufsize => simpa [BsonBackend.countedSize] using counted
  | memory =>
    simp [BsonBackend.countedSize]
    omega

end

lemma nodes_iff (encoded : backend.encodeEntries entries = some e) (bounded : bsonDocumentSize entries < 2^31) :
    e.decodeStored = (0,entries.map BsonEntry.read) ↔
      ∀ entry ∈ entries, entry.name.text.length < bsonMaxname ∧ entry.Plain := by
  obtain ⟨d,between,decoded,enough⟩ := decodeStored_eq encoded
  have small (entry : BsonEntry) (member : entry ∈ entries) := data_small bounded member
  by_cases short : ∀ entry ∈ entries, entry.name.text.length < bsonMaxname
  · obtain ⟨result,nodes⟩ := decode_short small between enough short
    rw [decoded,result,nodes,Prod.mk.injEq,eq_self_iff_true,true_and,map_inj_left]
    exact forall₂_congr fun entry member => (collected_eq_read entry).trans (and_iff_right (short entry member)).symm
  · have long : ∃ entry ∈ entries, bsonMaxname ≤ entry.name.text.length := by simpa using short
    have result := decode_long small between enough long
    constructor
    · intro same
      rw [decoded,Prod.mk.injEq,result] at same
      exact absurd same.1 (by decide)
    · intro plain
      exact absurd (fun entry member => (plain entry member).1) short

/-- Size and entries come back exactly if the document is not built in memory, is below 2 GiB, and
has short names and no binary data of the user's subtype. -/
theorem round_trip_iff (backend : BsonBackend) (entries : List BsonEntry) (e : BsonEncoder)
    (encoded : backend.encodeEntries entries = some e) :
    BsonRoundTrip entries e ↔ backend ≠ .memory ∧ bsonDocumentSize entries < 2 ^ 31 ∧
      ∀ entry ∈ entries, entry.name.text.length < bsonMaxname ∧ entry.Plain := by
  constructor
  · rintro ⟨size,nodes⟩
    obtain ⟨file,bounded⟩ := (size_iff encoded).mp size
    exact ⟨file,bounded,(nodes_iff encoded bounded).mp nodes⟩
  · rintro ⟨file,bounded,plain⟩
    exact ⟨(size_iff encoded).mpr ⟨file,bounded⟩,(nodes_iff encoded bounded).mpr plain⟩

end

theorem round_trip_of_int32 : ∃ e, (BsonBackend.bufferedFile [1,2,3] 16).encodeEntries
    [⟨⟨[65],by decide⟩,.int32 7⟩,⟨⟨[66],by decide⟩,.string ⟨[67,68],by decide⟩⟩] = some e ∧
    BsonRoundTrip [⟨⟨[65],by decide⟩,.int32 7⟩,⟨⟨[66],by decide⟩,.string ⟨[67,68],by decide⟩⟩] e := by
  refine ⟨_,rfl,(round_trip_iff (.bufferedFile [1,2,3] 16) _ _ rfl).mpr ⟨by simp,by decide,?_⟩⟩
  intro entry member
  simp only [List.mem_cons,List.not_mem_nil,or_false] at member
  rcases member with rfl | rfl
  all_goals exact ⟨by decide,by intro data; simp⟩

/-- In memory the size stays zero; a name of 32 bytes is not read; the user's subtype comes back as another number. -/
theorem round_trip_fails : (∃ e, BsonBackend.memory.encodeEntries [⟨⟨[65],by decide⟩,.bool true⟩] = some e ∧
      ¬ BsonRoundTrip [⟨⟨[65],by decide⟩,.bool true⟩] e) ∧
    (∃ e, (BsonBackend.file []).encodeEntries [⟨⟨List.replicate 32 65,by decide⟩,.bool true⟩] = some e ∧
      ¬ BsonRoundTrip [⟨⟨List.replicate 32 65,by decide⟩,.bool true⟩] e) ∧
    ∃ e, (BsonBackend.file []).encodeEntries [⟨⟨[65],by decide⟩,.binary .user [1]⟩] = some e ∧
      ¬ BsonRoundTrip [⟨⟨[65],by decide⟩,.binary .user [1]⟩] e := by
  refine ⟨⟨_,rfl,fun trip => ?_⟩,⟨_,rfl,fun trip => ?_⟩,⟨_,rfl,fun trip => ?_⟩⟩
  · exact absurd trip.size (by decide +kernel)
  · exact absurd (congrArg Prod.fst trip.nodes) (by decide +kernel)
  · exact absurd (congrArg (fun decoded => decoded.2.map BsonRead.item) trip.nodes) (by decide +kernel)

end AerialManipulator
