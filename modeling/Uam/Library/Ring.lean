import Mathlib.Data.BitVec

/-! A ring of slots addressed by a counter that wraps around, as a memory of the last entries of a
log. The number of slots divides the counter's range. -/
namespace Ring
variable {α : Type*} {w size : Nat}

lemma mod_eq_iff (divides : size ∣ 2^w) (a b : BitVec w) :
    a.toNat % size = b.toNat % size ↔ (a - b).toNat % size = 0 := by
  obtain ⟨turns,range⟩ := divides
  have below := b.isLt
  rw [BitVec.toNat_sub,Nat.mod_mod_of_dvd _ ⟨turns,range⟩]
  constructor
  · intro same
    have sum : (2^w - b.toNat + a.toNat) % size = (2^w - b.toNat + b.toNat) % size := Nat.ModEq.add_left _ same
    rw [Nat.sub_add_cancel below.le,range,Nat.mul_mod_right] at sum
    exact range ▸ sum
  · intro zero
    have sum : (2^w - b.toNat + a.toNat) % size = (2^w - b.toNat + b.toNat) % size := by
      rw [zero,Nat.sub_add_cancel below.le,range,Nat.mul_mod_right]
    exact Nat.ModEq.add_left_cancel' _ sum

lemma slot_ne (divides : size ∣ 2^w) (counter : BitVec w) (positive : 0 < back) (near : back < size) :
    (counter - BitVec.ofNat w back).toNat % size ≠ counter.toNat % size := by
  have inRange : back < 2^w := lt_of_lt_of_le near (Nat.le_of_dvd (Nat.two_pow_pos w) divides)
  intro same
  rw [eq_comm,mod_eq_iff divides,sub_sub_cancel,BitVec.toNat_ofNat,Nat.mod_eq_of_lt inRange,Nat.mod_eq_of_lt near] at same
  omega

/-- The slots hold the last entries of the log, the newest one behind the counter. -/
def Holds (size : Nat) (slots : Nat → α) (counter : BitVec w) (log : List α) : Prop :=
  ∀ back, 0 < back → back ≤ size → back ≤ log.length →
    log[log.length - back]? = some (slots ((counter - BitVec.ofNat w back).toNat % size))

lemma holds_nil (slots : Nat → α) (counter : BitVec w) : Holds size slots counter [] := by
  intro back positive _ within
  simp at within
  omega

lemma holds_write (divides : size ∣ 2^w) {slots : Nat → α} {counter : BitVec w} {log : List α}
    (holds : Holds size slots counter log) (entry : α) :
    Holds size (Function.update slots (counter.toNat % size) entry) (counter + 1) (log ++ [entry]) := by
  intro back positive near within
  obtain ⟨back,rfl⟩ : ∃ b, back = b+1 := ⟨back-1,by omega⟩
  rw [List.length_append,List.length_singleton] at within ⊢
  have counted : counter+1-BitVec.ofNat w (back+1) = counter-BitVec.ofNat w back := by
    rw [BitVec.ofNat_add]
    exact add_sub_add_right_eq_sub counter (BitVec.ofNat w back) 1
  have index : log.length+1-(back+1) = log.length-back := by omega
  rw [counted,index]
  rcases Nat.eq_zero_or_pos back with rfl | older
  · simp
  · rw [Function.update_of_ne (slot_ne divides counter older (by omega)),List.getElem?_append_left (by omega)]
    exact holds back older (by omega) (by omega)

end Ring
