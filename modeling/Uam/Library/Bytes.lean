import Mathlib.Data.BitVec

/-! Little-endian numbers as bytes, and files that are written and read at a position. -/
namespace Bytes

abbrev Byte := BitVec 8

lemma take_setIfInBounds (v : Vector Byte size) (inside : n < size) (c : Byte) :
    (v.setIfInBounds n c).toList.take (n + 1) = v.toList.take n ++ [c] := by
  have there : n < v.toList.length := by simpa using inside
  have before : (v.toList.take n).length = n := List.length_take_of_le there.le
  rw [Vector.toList_setIfInBounds,List.set_eq_take_append_cons_drop,if_pos there,List.take_append,before,
    List.take_of_length_le (by omega),Nat.add_sub_cancel_left]
  rfl

open List

def encode : Nat → Nat → List Byte
  | 0,_ => []
  | n+1,v => BitVec.ofNat 8 v :: encode n (v / 256)

def decode (bytes : List Byte) : Nat := bytes.foldr (fun b rest => b.toNat + 256 * rest) 0

@[simp] lemma length_encode (n v : Nat) : (encode n v).length = n := by
  induction n generalizing v with
  | zero => rfl
  | succ n ih => rw [encode,length_cons,ih]

lemma decode_encode (n v : Nat) : decode (encode n v) = v % 256^n := by
  induction n generalizing v with
  | zero => simp [encode,decode,Nat.mod_one]
  | succ n ih =>
    have split : decode (encode (n + 1) v) = v % 256 + 256 * decode (encode n (v / 256)) := by simp [encode,decode]
    rw [split,ih,Nat.pow_succ',Nat.mod_mul]

lemma decode_encode_of_lt (fits : v < 256^n) : decode (encode n v) = v := by
  rw [decode_encode,Nat.mod_eq_of_lt fits]

structure CText where
  text : List Byte
  proper : 0 ∉ text

structure File where
  content : List Byte
  pos : Nat

namespace File

def write (f : File) (data : List Byte) : File :=
  ⟨f.content.take f.pos ++ replicate (f.pos - f.content.length) 0 ++ data ++
    f.content.drop (f.pos+data.length),f.pos+data.length⟩

def read (f : File) (n : Nat) : List Byte × File :=
  ((f.content.drop f.pos).take n,⟨f.content,f.pos+((f.content.drop f.pos).take n).length⟩)

def seek (f : File) (offset : Nat) : File := ⟨f.content,offset⟩

end File

def overlay (old written : List Byte) : List Byte := written ++ old.drop written.length

lemma take_overlay (old written : List Byte) (n : Nat) :
    (overlay old written).take n = overlay (old.take n) (written.take n) := by
  simp only [overlay,take_append,length_take,drop_take]
  congr 1
  rcases Nat.le_total n written.length with short | long
  · rw [Nat.min_eq_left short,Nat.sub_eq_zero_of_le short,Nat.sub_self]
    simp
  · rw [Nat.min_eq_right long]

lemma length_overlay {old written : List Byte} (fits : written.length ≤ old.length) :
    (overlay old written).length = old.length := by
  simp only [overlay,length_append,length_drop]
  omega

lemma write_overlay (old written data : List Byte) :
    (File.mk (overlay old written) written.length).write data = ⟨overlay old (written ++ data),(written ++ data).length⟩ := by
  simp [File.write,overlay,drop_append]

lemma rewrite_overlay (old written data : List Byte) (within : data.length ≤ written.length) :
    ((File.mk (overlay old written) written.length).seek 0).write data =
      ⟨overlay old (data ++ written.drop data.length),data.length⟩ := by
  have total : data.length+(written.length-data.length) = written.length := by omega
  simp [File.write,File.seek,overlay,drop_append,total,Nat.sub_eq_zero_of_le within]

def slice (data : List Byte) (o n : Nat) : List Byte := (data.drop o).take n

def poke (data : List Byte) (o : Nat) (b : List Byte) : List Byte := data.take o ++ b ++ data.drop (o + b.length)

section
variable {data b : List Byte} {o p n : Nat}

lemma getElem?_slice (data : List Byte) (o n i : Nat) : (slice data o n)[i]? = if i < n then data[o+i]? else none := by
  rw [slice,getElem?_take,getElem?_drop]

lemma slice_slice (within : i+k ≤ n) : slice (slice data o n) i k = slice data (o+i) k := by
  apply ext_getElem?
  intro j
  rw [getElem?_slice,getElem?_slice,getElem?_slice,Nat.add_assoc]
  split
  · rw [if_pos (by omega)]
  · rfl

lemma slice_append_left (more : List Byte) (inside : o + n ≤ data.length) : slice (data ++ more) o n = slice data o n := by
  rw [slice,slice,drop_append_of_le_length (by omega),take_append_of_le_length]
  rw [length_drop]
  omega

lemma slice_append_right (before : List Byte) : slice (before ++ data) (before.length + o) n = slice data o n := by
  rw [slice,slice,← drop_drop,drop_left]

lemma length_poke (inside : o+b.length ≤ data.length) : (poke data o b).length = data.length := by
  simp [poke]
  omega

lemma getElem?_poke (inside : o ≤ data.length) (i : Nat) : (poke data o b)[i]? =
    if i < o then data[i]? else if i < o+b.length then b[i-o]? else data[i]? := by
  have start : (data.take o).length = o := by simpa using inside
  rw [poke,append_assoc]
  by_cases low : i < o
  · rw [getElem?_append_left (by omega),if_pos low,getElem?_take_of_lt low]
  · rw [getElem?_append_right (by omega),start,if_neg low]
    by_cases high : i < o+b.length
    · rw [getElem?_append_left (by omega),if_pos high]
    · rw [getElem?_append_right (by omega),if_neg high,getElem?_drop]
      congr 1
      omega

lemma slice_poke_apart (inside : o ≤ data.length) (apart : p+n ≤ o ∨ o+b.length ≤ p) :
    slice (poke data o b) p n = slice data p n := by
  apply ext_getElem?
  intro i
  rw [getElem?_slice,getElem?_slice]
  split
  · rw [getElem?_poke inside]
    rcases apart with before | after
    · rw [if_pos (by omega)]
    · rw [if_neg (by omega),if_neg (by omega)]
  · rfl

lemma slice_poke (inside : o ≤ data.length) (within : i+n ≤ b.length) :
    slice (poke data o b) (o+i) n = slice b i n := by
  apply ext_getElem?
  intro j
  rw [getElem?_slice,getElem?_slice]
  split
  · rw [getElem?_poke inside,if_neg (by omega),if_pos (by omega)]
    congr 1
    omega
  · rfl

lemma getD_eq_of_slice (there : slice data o 1 = [c]) : data.getD o 0 = c := by
  have first := getElem?_slice data o 1 0
  rw [there] at first
  rw [getD_eq_getElem?_getD,← Nat.add_zero o,← (first.trans (if_pos Nat.one_pos))]
  rfl

lemma content_write (f : File) (inside : o ≤ f.content.length) : ((f.seek o).write b).content = poke f.content o b := by
  simp [File.write,File.seek,poke,Nat.sub_eq_zero_of_le inside]

end
end Bytes
