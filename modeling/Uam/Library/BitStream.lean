import Uam.Library.Bytes
import Mathlib.Data.Nat.Bitwise

/-! Bytes as one stream of bits, the lowest bit first, and numbers of a fixed width packed into it. -/
namespace BitStream
open Bytes List
variable {bytes : List Byte} {index offset value m : Nat}

def bit (bytes : List Byte) (m : Nat) : Bool := (bytes.getD (m / 8) 0).getLsbD (m % 8)

lemma bit_modify_or (inside : index < bytes.length) (b : Byte) (m : Nat) :
    bit (bytes.modify index (· ||| b)) m = (bit bytes m || (decide (m / 8 = index) && b.getLsbD (m % 8))) := by
  unfold bit
  rw [getD_eq_getElem?_getD,getD_eq_getElem?_getD,getElem?_modify]
  by_cases here : m / 8 = index
  · rw [here,getElem?_eq_getElem inside]
    simp
  · simp [here,Ne.symm here]

def insert (bytes : List Byte) (index offset value : Nat) : List Byte :=
  ((bytes.modify index (· ||| BitVec.ofNat 8 (value <<< offset))).modify (index + 1)
    (· ||| BitVec.ofNat 8 (value >>> (8 - offset)))).modify (index + 2) (· ||| BitVec.ofNat 8 (value >>> (16 - offset)))

@[simp] lemma length_insert : (insert bytes index offset value).length = bytes.length := by simp [insert]

lemma bit_insert (short : offset < 8) (fits : value < 2^16) (inside : index+2 < bytes.length) (m : Nat) :
    bit (insert bytes index offset value) m =
      (bit bytes m || (decide (8 * index + offset ≤ m) && value.testBit (m - (8 * index + offset)))) := by
  have beyond (k : Nat) (far : 16 ≤ k) : value.testBit k = false :=
    Nat.testBit_lt_two_pow (lt_of_lt_of_le fits (Nat.pow_le_pow_right (by decide) far))
  have low : m % 8 < 8 := Nat.mod_lt _ (by decide)
  unfold insert
  rw [bit_modify_or (by simpa using inside),bit_modify_or (by simp; omega),bit_modify_or (by omega)]
  simp only [BitVec.getLsbD_ofNat,Nat.testBit_shiftLeft,Nat.testBit_shiftRight,low,decide_true,Bool.true_and,
    Bool.or_assoc]
  congr 1
  -- the bit lies in one of the three bytes, or outside of them
  by_cases first : m / 8 = index
  · by_cases after : 8 * index + offset ≤ m
    · have place : m - (8 * index + offset) = m % 8 - offset := by omega
      have above : offset ≤ m % 8 := by omega
      simp [first,after,above,place]
    · have below : ¬offset ≤ m % 8 := by omega
      simp [first,after,below]
  · by_cases second : m / 8 = index + 1
    · have after : 8 * index + offset ≤ m := by omega
      have place : m - (8 * index + offset) = 8 - offset + m % 8 := by omega
      simp [second,after,place]
    · by_cases third : m / 8 = index + 2
      · have after : 8 * index + offset ≤ m := by omega
        have place : m - (8 * index + offset) = 16 - offset + m % 8 := by omega
        simp [third,after,place]
      · by_cases after : 8 * index + offset ≤ m
        · rw [beyond (m - (8 * index + offset)) (by omega)]
          simp [first,second,third]
        · simp [first,second,third,after]

def pack (width : Nat) (bytes : List Byte) (position : Nat) : List Nat → List Byte
  | [] => bytes
  | value::rest => pack width (insert bytes (position / 8) (position % 8) value) (position + width) rest

@[simp] lemma length_pack (width : Nat) (bytes : List Byte) (position : Nat) (values : List Nat) :
    (pack width bytes position values).length = bytes.length := by
  induction values generalizing bytes position with
  | nil => rfl
  | cons value rest ih => rw [pack,ih,length_insert]

lemma bit_pack (some_ : 0 < width) (narrow : width ≤ 16) (fit : ∀ value ∈ values,value < 2^width)
    (room : position + width * values.length + 24 ≤ 8 * bytes.length + width) (m : Nat) :
    bit (pack width bytes position values) m =
      (bit bytes m || (decide (position ≤ m) && (values.getD ((m - position) / width) 0).testBit
        ((m - position) % width))) := by
  induction values generalizing bytes position with
  | nil => simp [pack]
  | cons value rest ih =>
    have fits := fit value mem_cons_self
    have small : value < 2^16 := lt_of_lt_of_le fits (Nat.pow_le_pow_right (by decide) narrow)
    rw [length_cons,Nat.mul_add,Nat.mul_one] at room
    have place := Nat.div_add_mod position 8
    rw [pack,ih (fun other member => fit other (mem_cons_of_mem _ member)) (by rw [length_insert]; omega),
      bit_insert (Nat.mod_lt _ (by decide)) small (by omega),place,Bool.or_assoc]
    congr 1
    by_cases before : position ≤ m
    · by_cases behind : position+width ≤ m
      · have beyond : value.testBit (m-position) = false :=
          Nat.testBit_lt_two_pow (lt_of_lt_of_le fits (Nat.pow_le_pow_right (by decide) (by omega)))
        have split : m-position = m-(position+width)+width := by omega
        rw [beyond]
        simp only [before,behind,decide_true,Bool.true_and,Bool.false_or]
        rw [split,Nat.add_div_right _ some_,Nat.add_mod_right,getD_cons_succ]
      · have inner : m-position < width := by omega
        simp [before,behind,Nat.div_eq_of_lt inner,Nat.mod_eq_of_lt inner]
    · have outer : ¬position+width ≤ m := by omega
      simp [before,outer]

end BitStream
