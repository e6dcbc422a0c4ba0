import Mathlib.Data.List.Infix
import Mathlib.Data.List.TakeWhile

/-! Strings that end at their first zero, or else at the end of the buffer. -/
namespace CString
open List
variable {α : Type*} [Zero α] [DecidableEq α]

def text (buffer : List α) : List α := buffer.takeWhile (fun c => c ≠ 0)

/-- `strcmp(a, b) == 0`. -/
def strcmp : List α → List α → Bool
  | [],[] => true
  | [],d::_ => d == 0
  | c::_,[] => c == 0
  | c::as,d::bs => c == d && (c == 0 || strcmp as bs)

/-- `strncmp(a, b, n) == 0`. -/
def strncmp : List α → List α → Nat → Bool
  | _,_,0 => true
  | [],[],_ => true
  | [],d::_,_ => d == 0
  | c::_,[],_ => c == 0
  | c::as,d::bs,n+1 => c == d && (c == 0 || strncmp as bs n)

/-- `strncpy`: the rest of the destination is zeroed, and a string that fills it is not ended. -/
def strncpy (n : Nat) (source : List α) : List α := (text source ++ List.replicate n 0).take n

/-- `strncpy(buffer + offset, source, n)`. -/
def copyAt (buffer : List α) (offset n : Nat) (source : List α) : List α :=
  buffer.take offset ++ strncpy n source ++ buffer.drop (offset + n)

/-- `strstr(haystack, needle) != NULL`. -/
def strstr (haystack needle : List α) : Bool := (text haystack).tails.any fun rest => needle.isPrefixOf rest

lemma text_cons (nonzero : c ≠ 0) (rest : List α) : text (c::rest) = c::text rest := by simp [text,nonzero]

lemma strcmp_iff (a b : List α) : strcmp a b ↔ text a = text b := by
  induction a generalizing b with
  | nil =>
    rcases b with _ | ⟨d,bs⟩
    · simp [strcmp]
    · by_cases zero : d = 0 <;> simp [strcmp,text,zero]
  | cons c as ih =>
    rcases b with _ | ⟨d,bs⟩
    · by_cases zero : c = 0 <;> simp [strcmp,text,zero]
    by_cases zero : c = 0
    · subst zero
      by_cases other : d = 0
      · simp [strcmp,text,other]
      · simp [strcmp,text,other,Ne.symm other]
    · by_cases other : d = 0
      · subst other
        simp [strcmp,text,zero]
      · simp [strcmp,text_cons zero,text_cons other,zero,ih]

lemma strncmp_length_iff (buffer s : List α) (proper : 0 ∉ s) :
    strncmp buffer s s.length ↔ buffer.take s.length = s := by
  induction s generalizing buffer with
  | nil => simp [strncmp]
  | cons d rest ih =>
    simp only [mem_cons,not_or] at proper
    obtain ⟨nonzero,proper⟩ := proper
    rcases buffer with _ | ⟨c,buffer⟩
    · simp [strncmp,Ne.symm nonzero]
    · by_cases same : c = d
      · subst same
        simp [strncmp,Ne.symm nonzero,ih buffer proper]
      · simp [strncmp,same]

variable {buffer s : List α}

lemma begins_text (proper : 0 ∉ s) (begins : buffer.take s.length = s) : s <+: text buffer := by
  have parts : buffer = s ++ buffer.drop s.length := by
    nth_rewrite 1 [← take_append_drop s.length buffer]
    rw [begins]
  rw [parts,text,takeWhile_append_of_pos]
  · exact ⟨_,rfl⟩
  · intro c member
    have nonzero : c ≠ 0 := fun zero => proper (zero ▸ member)
    simpa using nonzero

lemma strstr_iff (haystack needle : List α) : strstr haystack needle ↔ needle <:+: text haystack := by
  rw [strstr,infix_iff_prefix_suffix]
  simp only [any_eq_true,mem_tails]
  constructor
  · rintro ⟨rest,tail,found⟩
    exact ⟨rest,by simpa using found,tail⟩
  · rintro ⟨rest,found,tail⟩
    exact ⟨rest,tail,by simpa using found⟩

lemma text_eq_iff (buffer s : List α) (proper : 0 ∉ s) :
    text buffer = s ↔ buffer.take s.length = s ∧ buffer.getD s.length 0 = 0 := by
  induction s generalizing buffer with
  | nil =>
    rcases buffer with _ | ⟨c,buffer⟩
    · simp [text]
    · by_cases zero : c = 0 <;> simp [text,zero]
  | cons d rest ih =>
    simp only [mem_cons,not_or] at proper
    obtain ⟨nonzero,proper⟩ := proper
    rcases buffer with _ | ⟨c,buffer⟩
    · simp [text]
    · by_cases zero : c = 0
      · subst zero
        simp [text,nonzero]
      · simp [text_cons zero,ih buffer proper,and_assoc]

lemma zero_notMem_text (buffer : List α) : 0 ∉ text buffer := by
  intro member
  have nonzero := mem_takeWhile_imp member
  simp at nonzero

lemma text_eq_self (proper : 0 ∉ s) : text s = s := by
  rw [text,takeWhile_eq_self_iff]
  intro c member
  have nonzero : c ≠ 0 := fun zero => proper (zero ▸ member)
  simpa using nonzero

lemma length_text_le (buffer : List α) : (text buffer).length ≤ buffer.length := (List.takeWhile_prefix _).length_le

lemma take_length_text (buffer : List α) : buffer.take (text buffer).length = text buffer :=
  (prefix_iff_eq_take.mp (List.takeWhile_prefix _)).symm

lemma length_text_lt_iff (buffer : List α) : (text buffer).length < buffer.length ↔ 0 ∈ buffer := by
  constructor
  · intro short
    by_contra absent
    rw [text_eq_self absent] at short
    exact absurd short (Nat.lt_irrefl _)
  · intro member
    rcases Nat.lt_or_ge (text buffer).length buffer.length with short | long
    · exact short
    · have whole : text buffer = buffer := List.IsPrefix.eq_of_length_le (List.takeWhile_prefix _) long
      rw [← whole] at member
      exact absurd member (zero_notMem_text buffer)

lemma text_append_zero (buffer rest : List α) : text (buffer ++ 0::rest) = text buffer := by
  rw [text,takeWhile_append]
  split
  next whole =>
    have all : text buffer = buffer := List.IsPrefix.eq_of_length (List.takeWhile_prefix _) whole
    rw [takeWhile_cons_of_neg (by simp),append_nil,all]
  · rfl

lemma text_take_zeros (proper : 0 ∉ s) (n k : Nat) : text ((s ++ List.replicate n 0).take k) = s.take k := by
  have proper_take : 0 ∉ s.take k := fun member => proper (mem_of_mem_take member)
  rw [take_append,take_replicate]
  rcases Nat.eq_zero_or_pos (min (k-s.length) n) with none_left | some_left
  · rw [none_left,replicate_zero,append_nil,text_eq_self proper_take]
  · obtain ⟨m,same⟩ := Nat.exists_eq_succ_of_ne_zero (Nat.ne_of_gt some_left)
    rw [same,replicate_succ,text_append_zero,text_eq_self proper_take]

lemma length_copyAt (source : List α) (inside : offset+n ≤ buffer.length) :
    (copyAt buffer offset n source).length = buffer.length := by
  simp only [copyAt,strncpy,length_append,length_take,length_drop,length_replicate]
  omega

lemma text_copyAt_set (source : List α) (proper : 0 ∉ s)
    (begins : buffer.take offset = s) (inside : offset+n ≤ buffer.length) (ending : k ≤ offset+n)
    (room : k < buffer.length) :
    text ((copyAt buffer offset n source).set k 0) = (s ++ text source).take k := by
  have size : s.length = offset := by
    rw [← begins,length_take]
    omega
  have copied : (s ++ (text source ++ List.replicate n 0).take n) =
      ((s ++ text source) ++ List.replicate n 0).take (offset + n) := by
    rw [append_assoc,← size,take_length_add_append]
  have front : (copyAt buffer offset n source).take k = ((s ++ text source) ++ List.replicate n 0).take k := by
    have long : k ≤ (s ++ (text source ++ List.replicate n 0).take n).length := by
      simp only [length_append,length_take,length_replicate]
      omega
    rw [copyAt,begins,strncpy,take_append_of_le_length long,copied,take_take,Nat.min_eq_left ending]
  have proper_all : 0 ∉ s ++ text source := by
    simp only [mem_append,not_or]
    exact ⟨proper,zero_notMem_text source⟩
  have bound : k < (copyAt buffer offset n source).length := by
    rw [length_copyAt source inside]
    exact room
  rw [set_eq_take_append_cons_drop,if_pos bound,front,text_append_zero,text_take_zeros proper_all]

end CString
