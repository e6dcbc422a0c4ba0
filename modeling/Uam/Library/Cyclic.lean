import Mathlib.Data.Nat.ModEq
import Mathlib.Data.List.Basic
import Mathlib.Tactic.Linarith

/-! A memory of fixed size that is filled behind its contents and emptied from the front, with
positions that wrap around. -/
namespace Cyclic
open List
variable {α : Type*}

def window (size : Nat) (slots : Nat → α) (start count : Nat) : List α :=
  (List.range count).map fun k => slots ((start + k) % size)

def blit (slots : Nat → α) (place : Nat) (data : List α) (i : Nat) : α :=
  if place ≤ i then data[i-place]?.getD (slots i) else slots i

def store (size : Nat) (slots : Nat → α) (head : Nat) (data : List α) : Nat → α :=
  if data.length > size-head then
    blit (blit slots head (data.take (size-head))) 0 (data.drop (size-head))
  else blit slots head data

@[simp] lemma length_window (size : Nat) (slots : Nat → α) (start count : Nat) :
    (window size slots start count).length = count := by
  simp [window]

variable {size start count : Nat}

lemma getElem?_window (slots : Nat → α) (inside : k < count) :
    (window size slots start count)[k]? = some (slots ((start + k) % size)) := by
  simp [window,inside]

lemma window_congr (same : ∀ k < count, slots ((start + k) % size) = slots' ((start' + k) % size)) :
    window size slots start count = window size slots' start' count := by
  refine map_congr_left fun k member => ?_
  exact same k (mem_range.mp member)

lemma window_add (size : Nat) (slots : Nat → α) (start first second : Nat) : window size slots start (first+second) =
      window size slots start first ++ window size slots (start + first) second := by
  rw [window,range_add,map_append,map_map]
  simp only [window,Function.comp_def,Nat.add_assoc]

lemma window_mod (size : Nat) (slots : Nat → α) (start count : Nat) :
    window size slots (start % size) count = window size slots start count := by
  apply window_congr
  intro k _
  rw [Nat.mod_add_mod]

lemma window_eq_map (slots : Nat → α) (within : start+count ≤ size) :
    window size slots start count = (List.range count).map fun k => slots (start+k) := by
  refine map_congr_left fun k member => ?_
  rw [Nat.mod_eq_of_lt (by have := mem_range.mp member; omega)]

lemma window_update (slots : Nat → α) (room : count < size) (entry : α) :
    window size (Function.update slots ((start + count) % size) entry) start (count+1) =
      window size slots start count ++ [entry] := by
  rw [window_add]
  congr 1
  · apply window_congr
    intro k before
    apply Function.update_of_ne
    intro same
    have equal := Nat.ModEq.add_left_cancel' start same
    exact before.ne (equal.eq_of_lt_of_lt (before.trans room) room)
  · simp [window]

section
variable {size head : Nat} (slots : Nat → α) {data : List α}

lemma blit_inside (entry : α) (there : data[i]? = some entry) : blit slots place data (place+i) = entry := by
  rw [blit,if_pos (Nat.le_add_right place i),Nat.add_sub_cancel_left,there,Option.getD_some]

lemma blit_outside (outside : i < place ∨ place+data.length ≤ i) : blit slots place data i = slots i := by
  rw [blit]
  rcases outside with before | behind
  · rw [if_neg (Nat.not_le.mpr before)]
  · rw [if_pos (by omega),getElem?_eq_none (by omega),Option.getD_none]

lemma store_inside (inside : head < size) (fits : data.length ≤ size) (stored : k < data.length) :
    some (store size slots head data ((head + k) % size)) = data[k]? := by
  have there : data[k]? = some data[k] := getElem?_eq_getElem stored
  rw [store,there]
  split
  next wraps =>
    by_cases before : head+k < size
    · rw [Nat.mod_eq_of_lt before,blit_outside _ (by rw [length_drop]; omega)]
      rw [blit_inside slots data[k] (by rw [getElem?_take_of_lt (by omega)]; exact there)]
    · have around : (head + k) % size = 0 + (k - (size - head)) := by
        rw [Nat.mod_eq_sub_mod (by omega),Nat.mod_eq_of_lt (by omega)]
        omega
      rw [around,blit_inside _ data[k]]
      rw [getElem?_drop,Nat.add_sub_cancel' (by omega)]
      exact there
  next stays => rw [Nat.mod_eq_of_lt (by omega),blit_inside slots _ there]

lemma store_outside (inside : head < size) (behind : data.length ≤ k) (within : k < size) :
    store size slots head data ((head + k) % size) = slots ((head + k) % size) := by
  rw [store]
  split
  next wraps =>
    have around : (head + k) % size = head + k - size := by
      rw [Nat.mod_eq_sub_mod (by omega),Nat.mod_eq_of_lt (by omega)]
    rw [around,blit_outside _ (by rw [length_drop]; omega),
      blit_outside _ (by rw [length_take]; omega)]
  next stays =>
    by_cases before : head+k < size
    · rw [Nat.mod_eq_of_lt before,blit_outside _ (by omega)]
    · have around : (head + k) % size = head + k - size := by
        rw [Nat.mod_eq_sub_mod (by omega),Nat.mod_eq_of_lt (by omega)]
      rw [around,blit_outside _ (by omega)]

lemma window_store (inside : head < size) (behind : (start + count) % size = head) (fits : count + data.length ≤ size) :
    window size (store size slots head data) start (count + data.length) = window size slots start count ++ data := by
  rw [window_add]
  congr 1
  · apply window_congr
    intro k before
    -- seen from the head, what was stored before lies in the last part of the turn
    have place : (start + k) % size = (head + (size - count + k)) % size := by
      rw [← behind,Nat.mod_add_mod]
      have turn : start+count+(size-count+k) = start+k+size := by omega
      rw [turn,Nat.add_mod_right]
    rw [place]
    exact store_outside slots inside (by omega) (by omega)
  · rw [← window_mod,behind]
    apply ext_getElem?
    intro k
    by_cases stored : k < data.length
    · rw [getElem?_window _ stored,store_inside slots inside (by omega) stored]
    · rw [getElem?_eq_none (by simpa using stored),getElem?_eq_none (by simpa using stored)]

end
end Cyclic
