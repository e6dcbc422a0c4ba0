import Uam.Library.Bytes
import Mathlib.Data.List.GetD

/-! Flash memory: bytes by address. Programming clears bits, erasing sets them. -/
namespace Flash
open Bytes List

abbrev Image := Nat → Byte

def bytes (m : Image) (a n : Nat) : List Byte := (List.range n).map fun i => m (a+i)

def word (m : Image) (a : Nat) : Nat := decode (bytes m a 4)

def half (m : Image) (a : Nat) : Nat := decode (bytes m a 2)

def program (m : Image) (a : Nat) (data : List Byte) : Image := fun b =>
  if a ≤ b ∧ b < a + data.length then m b &&& data.getD (b - a) 0xff else m b

def erase (m : Image) (a n : Nat) : Image := fun b => if a ≤ b ∧ b < a+n then 0xff else m b

def Blank (m : Image) (a b : Nat) : Prop := ∀ c, a ≤ c → c < b → m c = 0xff

def Agree (m m' : Image) (a b : Nat) : Prop := ∀ c, a ≤ c → c < b → m' c = m c

variable {m m' : Image} {a b n k : Nat} {data : List Byte}

@[simp] lemma length_bytes : (bytes m a n).length = n := by simp [bytes]

lemma bytes_append (m : Image) (a n k : Nat) : bytes m a (n + k) = bytes m a n ++ bytes m (a + n) k := by
  simp [bytes,range_add,Nat.add_assoc]

lemma bytes_slice (inside : o+k ≤ t) : bytes m (a+o) k = ((bytes m a t).drop o).take k := by
  obtain ⟨more,rfl⟩ := Nat.exists_eq_add_of_le inside
  rw [Nat.add_assoc,bytes_append,bytes_append m (a+o)]
  simp

variable {c : Nat}

section
variable (agree : Agree m m' a b)
include agree

lemma Agree.bytes (above : a ≤ c) (below : c+n ≤ b) : bytes m' c n = bytes m c n := by
  apply map_congr_left
  intro i inside
  have := mem_range.mp inside
  exact agree (c+i) (by omega) (by omega)

lemma Agree.word (above : a ≤ c) (below : c+4 ≤ b) : word m' c = word m c :=
  congrArg decode (agree.bytes above below)

lemma Agree.half (above : a ≤ c) (below : c+2 ≤ b) : half m' c = half m c :=
  congrArg decode (agree.bytes above below)

lemma Agree.mono (above : a ≤ c) (below : d ≤ b) : Agree m m' c d := fun i low high => agree i (by omega) (by omega)

lemma Agree.blank (blank : Blank m a b) : Blank m' a b :=
  fun i low high => (agree i low high).trans (blank i low high)

end

lemma Blank.mono (blank : Blank m a b) (above : a ≤ c) (below : d ≤ b) : Blank m c d :=
  fun i low high => blank i (by omega) (by omega)

lemma word_eq (m : Image) (a : Nat) :
    word m a = (m a).toNat + 256 * ((m (a + 1)).toNat + 256 * ((m (a + 2)).toNat + 256 * (m (a + 3)).toNat)) := rfl

lemma half_eq (m : Image) (a : Nat) : half m a = (m a).toNat + 256 * (m (a + 1)).toNat := rfl

lemma word_iff (fits : w < 2^32) : word m a = w ↔ bytes m a 4 = encode 4 w := by
  constructor
  · rintro rfl
    simp only [word_eq,encode,bytes,List.range,List.range.loop,List.map,List.cons.injEq]
    refine ⟨?_,?_,?_,?_,trivial⟩ <;> (apply BitVec.eq_of_toNat_eq; simp; omega)
  · intro same
    rw [word,same,decode_encode_of_lt (by omega)]

lemma blank_word (blank : Blank m a b) (above : a ≤ c) (below : c+4 ≤ b) : word m c = 0xffffffff := by
  rw [word_eq,blank c (by omega) (by omega),blank (c+1) (by omega) (by omega),
    blank (c+2) (by omega) (by omega),blank (c+3) (by omega) (by omega)]
  rfl

lemma word_blank (ones : word m a = 0xffffffff) : Blank m a (a+4) := by
  rw [word_eq] at ones
  have := (m a).isLt
  have := (m (a+1)).isLt
  have := (m (a+2)).isLt
  have := (m (a+3)).isLt
  intro c low high
  apply BitVec.eq_of_toNat_eq
  obtain rfl | rfl | rfl | rfl : c = a ∨ c = a+1 ∨ c = a+2 ∨ c = a+3 := by omega
  all_goals
    simp
    omega

lemma program_outside (outside : c < a ∨ a+data.length ≤ c) : program m a data c = m c := if_neg (by omega)

lemma program_before (low : b ≤ a) : Agree m (program m a data) k b :=
  fun _ _ high => program_outside (.inl (by omega))

lemma program_after (above : a+data.length ≤ b) : Agree m (program m a data) b k :=
  fun _ low _ => program_outside (.inr (by omega))

lemma program_blank (blank : Blank m a (a+data.length)) : bytes (program m a data) a data.length = data := by
  apply ext_getElem (by simp)
  intro i inside _
  have inside : i < data.length := by simpa using inside
  simp only [bytes,getElem_map,getElem_range,program]
  rw [if_pos ⟨by omega,by omega⟩,blank (a+i) (by omega) (by omega),Nat.add_sub_cancel_left,getD_eq_getElem _ _ inside]
  exact BitVec.allOnes_and

lemma program_rest (blank : Blank m a b) : Blank (program m a data) (a+data.length) b :=
  fun c low high => (program_outside (.inr low)).trans (blank c (by omega) high)

lemma erase_outside (outside : c < a ∨ a+n ≤ c) : erase m a n c = m c := if_neg (by omega)

lemma blank_erase (m : Image) (a n : Nat) : Blank (erase m a n) a (a+n) := fun _ low high => if_pos ⟨low,high⟩

lemma program_append_blank (data rest : List Byte) (blank : ∀ b ∈ rest, b = 0xff) :
    program m a (data ++ rest) = program m a data := by
  funext c
  simp only [program,length_append]
  by_cases inside : a ≤ c ∧ c < a+data.length
  · rw [if_pos ⟨inside.1,by omega⟩,if_pos inside,getD_append _ _ _ _ (by omega)]
  rw [if_neg inside]
  split
  next wide =>
    have there : c-a-data.length < rest.length := by omega
    rw [getD_append_right _ _ _ _ (by omega),getD_eq_getElem _ _ there,blank _ (getElem_mem there)]
    exact BitVec.and_allOnes
  · rfl

end Flash
