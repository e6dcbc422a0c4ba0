import Uam.BsonRoundTrip

/-! When the two file writers take all they are given, and that they then write the same file. -/
namespace AerialManipulator
open Bytes BsonEncoder Option BsonBackend

structure BsonEncoder.Buffered (bufsize : Nat) (e : BsonEncoder) : Prop where
  fd : e.fd.isSome = true
  buf : e.buf.isSome = true
  size : e.bufsize = bufsize

namespace BsonBackend

def Ready : BsonBackend → BsonEncoder → Prop
  | file _,e => e.fd.isSome = true ∧ e.buf = none
  | bufferedFile _ bufsize,e => e.Buffered bufsize
  | memory,_ => False

def Takes : BsonBackend → List Byte → Prop
  | bufferedFile _ bufsize,p => p.length ≤ bufsize
  | _,p => p.length < 2^31

end BsonBackend

def BsonEntry.writes (entry : BsonEntry) : List (List Byte) :=
  [entry.value.type] :: (entry.name.text ++ [0]) :: entry.value.chunks

section
variable {backend : BsonBackend} {e : BsonEncoder} {p : List Byte} {entry : BsonEntry} {entries : List BsonEntry}

lemma writeX_ready (ready : backend.Ready e) (takes : backend.Takes p) :
    ∃ e', e.writeX p = some e' ∧ backend.Ready e' := by
  cases backend with
  | file old =>
    obtain ⟨fd,buf⟩ := ready
    have small : p.length < 2^31 := takes
    rw [writeX,fd,buf]
    simp only [isNone_none,Bool.and_self,if_true]
    rw [if_pos small]
    exact ⟨_,rfl,by simpa using fd,rfl⟩
  | bufferedFile old bufsize =>
    obtain ⟨fd,buf,size⟩ := ready
    have kept : e.buf.isNone = false := by simpa using buf
    rw [writeX,fd,kept]
    simp only [Bool.and_false,Bool.false_eq_true,if_false,if_true]
    split
    · exact ⟨_,rfl,fd,rfl,size⟩
    · rw [if_neg (not_lt.mpr (size ▸ takes))]
      exact ⟨_,rfl,by simpa using fd,rfl,size⟩
  | memory => exact ready.elim

lemma writes_ready {writes : List (List Byte)} (ready : backend.Ready e) (takes : ∀ p ∈ writes, backend.Takes p) :
    ∃ e', writes.foldlM writeX e = some e' ∧ backend.Ready e' := by
  induction writes generalizing e with
  | nil => exact ⟨e,rfl,ready⟩
  | cons p rest ih =>
    obtain ⟨next,written,ready⟩ := writeX_ready ready (takes p List.mem_cons_self)
    obtain ⟨e',rest,ready⟩ := ih ready fun other member => takes other (List.mem_cons_of_mem _ member)
    exact ⟨e',by rw [List.foldlM_cons,written]; exact rest,ready⟩

lemma append_writes (e : BsonEncoder) (short : entry.name.text.length ≤ bsonMaxname) :
    e.append entry = entry.writes.foldlM writeX e := by
  have named (e : BsonEncoder) : e.writeName entry.name = e.writeX (entry.name.text ++ [0]) := if_neg (not_lt.mpr short)
  rw [append_eq]
  simp only [named]
  rfl

lemma entries_writes (e : BsonEncoder) (short : ∀ entry ∈ entries, entry.name.text.length ≤ bsonMaxname) :
    entries.foldlM append e = (entries.flatMap BsonEntry.writes).foldlM writeX e := by
  induction entries generalizing e with
  | nil => rfl
  | cons entry rest ih =>
    rw [List.foldlM_cons,List.flatMap_cons,List.foldlM_append,append_writes e (short entry List.mem_cons_self)]
    exact congrArg _ (funext fun e => ih e fun other member => short other (List.mem_cons_of_mem _ member))

lemma encodeEntries_ready
    (kind : (∃ old, backend = file old) ∨ ∃ old bufsize, 4 ≤ bufsize ∧ backend = bufferedFile old bufsize)
    (short : ∀ entry ∈ entries, entry.name.text.length ≤ bsonMaxname)
    (takes : ∀ entry ∈ entries, ∀ p ∈ entry.writes, backend.Takes p) : ∃ e, backend.encodeEntries entries = some e := by
  have empty : ∃ e, backend.init = e.writeX (encode 4 0) ∧ backend.Ready e ∧ ∀ p : List Byte, p.length ≤ 4 → backend.Takes p := by
    rcases kind with ⟨old,rfl⟩ | ⟨old,bufsize,room,rfl⟩
    · exact ⟨⟨some ⟨old,0⟩,none,0,false,0⟩,rfl,⟨rfl,rfl⟩,fun p small => lt_of_le_of_lt small (by decide)⟩
    · exact ⟨⟨some ⟨old,0⟩,some [],bufsize,false,0⟩,rfl,⟨rfl,rfl,rfl⟩,fun p small => small.trans room⟩
  obtain ⟨blank,init,ready,small⟩ := empty
  obtain ⟨started,first,ready⟩ := writeX_ready ready (small (encode 4 0) (by simp))
  obtain ⟨appended,second,ready⟩ := writes_ready ready fun p member => by
    obtain ⟨entry,member,written⟩ := List.mem_flatMap.mp member
    exact takes entry member p written
  obtain ⟨ended,third,_⟩ := writeX_ready ready (small [bsonEoo] (by simp))
  rw [encodeEntries,init,first,bind_some,entries_writes _ short,second,bind_some,bsonEncoderFini,writeInt8,third]
  exact ⟨_,rfl⟩

end

def BsonEncoder.outcome (e : BsonEncoder) : List Byte × BitVec 32 := (e.stored,e.totalDocumentSize)

/-- Either both writers refuse a name, or both write the same file, a new one as long as they counted. -/
theorem bufferedFile_agrees (old : List Byte) (bufsize : Nat) (entries : List BsonEntry) (room : 4 ≤ bufsize)
    (takes : ∀ entry ∈ entries, ∀ p ∈ entry.writes, p.length ≤ bufsize ∧ p.length < 2 ^ 31) :
    ((bufferedFile old bufsize).encodeEntries entries).map outcome = ((file old).encodeEntries entries).map outcome ∧
      ∀ e, (bufferedFile [] bufsize).encodeEntries entries = some e ∨ (file []).encodeEntries entries = some e →
        e.totalDocumentSize = BitVec.ofNat 32 e.stored.length := by
  refine ⟨?_,fun e encoded => ?_⟩
  · by_cases short : ∀ entry ∈ entries, entry.name.text.length ≤ bsonMaxname
    · obtain ⟨b,buffered⟩ := encodeEntries_ready (.inr ⟨old,bufsize,room,rfl⟩) short
        fun entry member p written => (takes entry member p written).1
      obtain ⟨f,unbuffered⟩ := encodeEntries_ready (.inl ⟨old,rfl⟩) short
        fun entry member p written => (takes entry member p written).2
      obtain ⟨_,stored,total,_⟩ := stored_encodeEntries buffered
      obtain ⟨_,stored',total',_⟩ := stored_encodeEntries unbuffered
      rw [buffered,unbuffered,map_some,map_some,outcome,outcome,stored,stored',total,total']
      rfl
    · have refused (backend : BsonBackend) : backend.encodeEntries entries = none := by
        rw [eq_none_iff_forall_ne_some]
        exact fun e encoded => short (stored_encodeEntries encoded).1
      rw [refused,refused]
  · have counted {backend : BsonBackend} (new : backend.old = []) (encoded : backend.encodeEntries entries = some e)
        (kind : backend ≠ memory) : e.totalDocumentSize = BitVec.ofNat 32 e.stored.length := by
      obtain ⟨_,stored,total,_⟩ := stored_encodeEntries encoded
      rw [stored,total,new]
      cases backend with
      | memory => exact absurd rfl kind
      | file | bufferedFile => simp [overlay,countedSize,bsonDocumentSize,bsonDocument]
    rcases encoded with encoded | encoded
    · exact counted rfl encoded (by simp)
    · exact counted rfl encoded (by simp)

theorem bufferedFile_agrees_string :
    let entries : List BsonEntry := [⟨⟨[65],by decide⟩,.string ⟨[66,67],by decide⟩⟩,⟨⟨[68],by decide⟩,.int64 5⟩]
    (∃ e, (bufferedFile [] 8).encodeEntries entries = some e ∧ e.stored.length = 26) ∧
      ((bufferedFile [] 8).encodeEntries entries).map outcome = ((file []).encodeEntries entries).map outcome :=
  ⟨⟨_,rfl,by decide +kernel⟩,(bufferedFile_agrees [] 8 _ (by decide) (by decide +kernel)).1⟩

end AerialManipulator
