import Mathlib.Data.List.Sort

/-! Arrays kept sorted by a key without duplicates, searched by bisection. -/
namespace SortedArray
open Option
variable {α κ : Type*} [LinearOrder κ]

def search (key : α → κ) (k : κ) (xs : List α) : Nat → Nat → Nat → Option Nat
  | 0,_,_ => none
  | fuel+1,base,lim =>
    if lim = 0 then none
    else xs[base + lim / 2]?.bind fun x =>
      if key x = k then some (base + lim / 2)
      else if key x < k then search key k xs fuel (base + lim / 2 + 1) ((lim - 1) / 2)
      else search key k xs fuel base (lim / 2)

def bsearch (key : α → κ) (k : κ) (xs : List α) : Option Nat := search key k xs xs.length 0 xs.length

def sort (key : α → κ) (xs : List α) : List α := xs.insertionSort (fun a b => key a ≤ key b)

def find (key : α → κ) (k : κ) (xs : List α) : Option α := (bsearch key k xs).bind (xs[·]?)

def Sorted (key : α → κ) (xs : List α) : Prop := xs.Pairwise (fun a b => key a < key b)

variable {key : α → κ} {k : κ} {xs : List α} {x y : α}

lemma search_sound (found : search key k xs fuel base lim = some i) : ∃ x, xs[i]? = some x ∧ key x = k := by
  induction fuel generalizing base lim with
  | zero => simp [search] at found
  | succ fuel ih =>
    rw [search] at found
    split at found
    · cases found
    obtain ⟨x,here,found⟩ := bind_eq_some_iff.mp found
    split at found
    next same =>
      cases found
      exact ⟨x,here,same⟩
    · split at found <;> exact ih found

lemma Sorted.key_lt (sorted : Sorted key xs) {i j : Nat} (before : i < j)
    (left : xs[i]? = some x) (right : xs[j]? = some y) : key x < key y := by
  obtain ⟨_,rfl⟩ := List.getElem?_eq_some_iff.mp left
  obtain ⟨_,rfl⟩ := List.getElem?_eq_some_iff.mp right
  exact List.pairwise_iff_getElem.mp sorted i j _ _ before

variable {i : Nat}

section
variable (sorted : Sorted key xs)
include sorted

lemma search_complete (here : xs[i]? = some x) {fuel base lim : Nat}
    (enough : lim ≤ fuel) (from_base : base ≤ i) (below : i < base+lim) (fits : base+lim ≤ xs.length) :
    search key (key x) xs fuel base lim = some i := by
  induction fuel generalizing base lim with
  | zero => omega
  | succ fuel ih =>
    obtain ⟨middle,there⟩ : ∃ m, xs[base + lim / 2]? = some m :=
      ⟨_,List.getElem?_eq_getElem (by omega : base + lim / 2 < xs.length)⟩
    rw [search,if_neg (by omega),there,bind_some]
    rcases Nat.lt_trichotomy (base + lim / 2) i with less | same | more
    · have lower := sorted.key_lt less there here
      rw [if_neg lower.ne,if_pos lower]
      exact ih (by omega) (by omega) (by omega) (by omega)
    · rw [same,here,some_inj] at there
      rw [if_pos (there ▸ rfl),same]
    · have higher := sorted.key_lt more here there
      rw [if_neg higher.ne',if_neg higher.not_gt]
      exact ih (by omega) from_base more (by omega)

lemma bsearch_iff (i : Nat) : bsearch key k xs = some i ↔ ∃ x, xs[i]? = some x ∧ key x = k := by
  constructor
  · exact search_sound
  · rintro ⟨x,here,rfl⟩
    obtain ⟨below,_⟩ := List.getElem?_eq_some_iff.mp here
    exact search_complete sorted here le_rfl (Nat.zero_le i) (by omega) (by omega)

lemma find_eq_some : find key k xs = some x ↔ x ∈ xs ∧ key x = k := by
  rw [find,bind_eq_some_iff]
  constructor
  · rintro ⟨i,found,here⟩
    obtain ⟨y,there,same⟩ := (bsearch_iff sorted i).mp found
    rw [here,some_inj] at there
    exact ⟨List.mem_of_getElem? here,there ▸ same⟩
  · rintro ⟨member,same⟩
    obtain ⟨i,here⟩ := List.mem_iff_getElem?.mp member
    exact ⟨i,(bsearch_iff sorted i).mpr ⟨x,here,same⟩,here⟩

lemma find_eq_none : find key k xs = none ↔ ∀ x ∈ xs, key x ≠ k := by
  rw [eq_none_iff_forall_ne_some]
  simp only [ne_eq,find_eq_some sorted,not_and]

lemma Sorted.eq_of_key (left : x ∈ xs) (right : y ∈ xs) (same : key x = key y) : x = y := by
  have found := (find_eq_some sorted).mpr ⟨left,same⟩
  rw [(find_eq_some sorted).mpr ⟨right,rfl⟩] at found
  exact (some_inj.mp found).symm

lemma sorted_push (new : ∀ y ∈ xs, key y ≠ key x) : Sorted key (sort key (xs ++ [x])) := by
  have total : Std.Total (fun a b : α => key a ≤ key b) := ⟨fun a b => le_total (key a) (key b)⟩
  have trans : IsTrans α (fun a b => key a ≤ key b) := ⟨fun _ _ _ => le_trans⟩
  have weak := List.pairwise_insertionSort (fun a b => key a ≤ key b) (xs ++ [x])
  have distinct : (xs ++ [x]).Pairwise (fun a b => key a ≠ key b) := by
    rw [List.pairwise_append]
    refine ⟨sorted.imp fun less => less.ne,List.pairwise_singleton _ _,?_⟩
    intro y member z last
    rw [List.mem_singleton.mp last]
    exact new y member
  have distinct := distinct.perm (List.perm_insertionSort (fun a b => key a ≤ key b) (xs ++ [x])).symm fun differ => differ.symm
  exact (weak.and distinct).imp fun both => lt_of_le_of_ne both.1 both.2

end

lemma mem_push : y ∈ sort key (xs ++ [x]) ↔ y ∈ xs ∨ y = x := by simp [sort]

section
variable (sorted : Sorted key xs)
include sorted

lemma sorted_erase (i : Nat) : Sorted key (xs.eraseIdx i) := sorted.sublist (List.eraseIdx_sublist xs i)

lemma mem_erase (here : xs[i]? = some x) : y ∈ xs.eraseIdx i ↔ y ∈ xs ∧ key y ≠ key x := by
  rw [List.mem_eraseIdx_iff_getElem?]
  constructor
  · rintro ⟨j,other,there⟩
    refine ⟨List.mem_of_getElem? there,?_⟩
    rcases Nat.lt_or_gt_of_ne other with before | after
    · exact (sorted.key_lt before there here).ne
    · exact (sorted.key_lt after here there).ne'
  · rintro ⟨member,other⟩
    obtain ⟨j,there⟩ := List.mem_iff_getElem?.mp member
    refine ⟨j,?_,there⟩
    rintro rfl
    rw [here,some_inj] at there
    exact other (there ▸ rfl)

lemma sorted_set (here : xs[i]? = some x) (same : key y = key x) : Sorted key (xs.set i y) := by
  have keys : (xs.set i y).map key = xs.map key := by
    rw [List.map_set,same]
    apply List.ext_getElem?
    intro j
    rw [List.getElem?_set,List.length_map,List.getElem?_map]
    split
    next hit =>
      rw [← hit,here,if_pos (List.getElem?_eq_some_iff.mp here).1,map_some]
    · rfl
  have ordered := (List.pairwise_map (R := (· < ·))).mpr sorted
  rw [← keys] at ordered
  exact List.pairwise_map.mp ordered

lemma mem_set (here : xs[i]? = some x) : z ∈ xs.set i y ↔ z = y ∨ z ∈ xs ∧ key z ≠ key x := by
  obtain ⟨inside,_⟩ := List.getElem?_eq_some_iff.mp here
  rw [← mem_erase sorted here,List.mem_eraseIdx_iff_getElem?,List.mem_iff_getElem?]
  constructor
  · rintro ⟨j,there⟩
    rw [List.getElem?_set] at there
    split at there
    · exact .inl (some_inj.mp there).symm
    next other =>
      exact .inr ⟨j,Ne.symm other,there⟩
  · rintro (rfl | ⟨j,other,there⟩)
    · exact ⟨i,by rw [List.getElem?_set,if_pos rfl,if_pos inside]⟩
    · exact ⟨j,by rw [List.getElem?_set,if_neg other.symm,there]⟩

end
end SortedArray
