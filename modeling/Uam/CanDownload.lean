import Uam.Library.Bytes

/-! The firmware download of the CAN bootloader: `file_read_and_program` programs the file piece by
piece, but keeps the first words back. -/
namespace AerialManipulator.CanDownload
open Bytes Option

def uavcanServiceRetries : Nat := 3

def dataSize : Nat := 256

def errorSize : Nat := 2

/-- One request: whether the transfer was received, and the bytes it left at the front of the response. -/
structure Attempt where
  received : Bool
  bytes : List Byte
  fits : bytes.length ≤ errorSize+dataSize
  deriving DecidableEq

structure Download where
  response : List Byte
  offset : Nat
  flash : Nat → Byte
  fwWord0 : List Byte
  percentageDone : Nat

inductive Outcome where
  | flashOk
  | flashError
  | trap
  deriving DecidableEq, Repr

/-- Sizes that are fixed or passed, and the result of the write at each offset. -/
structure Setting where
  laterFlashedWords : Nat
  imageSize : Nat
  writes : Nat → Bool

namespace Setting

def deferred (s : Setting) : Nat := if s.laterFlashedWords > 1 then 8 else 4

def aPercent (s : Setting) : Nat := s.imageSize / 100

end Setting

def errorValue (response : List Byte) : Nat := decode (response.take errorSize)

/-- The length of the data, `none` for another attempt. The error code only counts without data. -/
def takenLength (error : Nat) (a : Attempt) : Option Nat :=
  if a.received = false then none
  else if a.bytes.length > errorSize then some (a.bytes.length-errorSize)
  else if error ≠ 0 then none
  else some a.bytes.length

def padded (response : List Byte) (length : Nat) : List Byte :=
  if length % 2 = 1 then (response.drop errorSize).set length 0xff else response.drop errorSize

def saved (s : Setting) (d : Download) (data : List Byte) : List Byte × List Byte :=
  if d.offset = 0 then
    (data.take s.deferred,List.replicate s.deferred 0xff ++ data.drop s.deferred)
  else (d.fwWord0,data)

def flashWrite (flash : Nat → Byte) (offset : Nat) (bytes : List Byte) : Nat → Byte :=
  fun i => if offset ≤ i ∧ i < offset+bytes.length then bytes.getD (i-offset) 0 else flash i

def program (s : Setting) (d : Download) (length : Nat) : Download :=
  let data := padded d.response length
  let first := saved s d data
  { response := d.response.take errorSize ++ first.2
    offset := d.offset+length
    flash := if s.writes d.offset then flashWrite d.flash d.offset (first.2.take (length + length % 2)) else d.flash
    fwWord0 := first.1
    percentageDone := (d.offset + length) / s.aPercent }

def readLoop (s : Setting) : List Attempt → Nat → Download → Outcome × Download
  | [],_,d => (.flashError,d)
  | a :: rest,retries,d =>
    let d := {d with response := overlay d.response a.bytes}
    (takenLength (errorValue d.response) a).elim
      (if retries ≤ 1 then (.flashError,d) else readLoop s rest (retries-1) d)
      fun length =>
        let next := program s d length
        if s.aPercent = 0 then (.trap,next)
        else
          if next.offset < s.imageSize ∧ length = dataSize ∧ s.writes d.offset = true then
            readLoop s rest uavcanServiceRetries next
          else if s.writes d.offset = true ∧ next.offset = s.imageSize ∧ length ≠ 0 then (.flashOk,next)
          else (.flashError,next)

def start (flash : Nat → Byte) (fwWord0 : List Byte) : Download :=
  ⟨List.replicate (errorSize+dataSize) 0,0,flash,fwWord0,0⟩

def fileReadAndProgram (s : Setting) (attempts : List Attempt) (flash : Nat → Byte) (fwWord0 : List Byte) :
    Outcome × Download :=
  readLoop s attempts uavcanServiceRetries (start flash fwWord0)

/-- The image as it is meant to be: the deferred bytes are those that were saved. -/
def content (s : Setting) (d : Download) (i : Nat) : Byte :=
  if i < s.deferred then d.fwWord0.getD i 0 else d.flash i

namespace Attempt

def payload (a : Attempt) : List Byte := a.bytes.drop errorSize

def ErrorFree (a : Attempt) : Prop := errorSize ≤ a.bytes.length ∧ errorValue a.bytes = 0

def Clean (a : Attempt) : Prop := errorSize < a.bytes.length ∧ errorValue a.bytes = 0

end Attempt

/-- The responses taken for pieces of the file, and whether they make up the image with every write succeeding. -/
def taken (s : Setting) : List Attempt → Nat → Nat → List Byte → List Attempt × Bool
  | [],_,_,_ => ([],false)
  | a :: rest,retries,offset,error =>
    let error := overlay error (a.bytes.take errorSize)
    (takenLength (decode error) a).elim
      (if retries ≤ 1 then ([],false) else taken s rest (retries-1) offset error)
      fun length =>
        if offset+length < s.imageSize ∧ length = dataSize ∧ s.writes offset = true then
          let more := taken s rest uavcanServiceRetries (offset+length) error
          (a :: more.1,more.2)
        else ([a],decide (s.writes offset = true ∧ offset+length = s.imageSize ∧ length ≠ 0))

def takenFrom (s : Setting) (attempts : List Attempt) : List Attempt × Bool :=
  taken s attempts uavcanServiceRetries 0 (List.replicate errorSize 0)

def payloads (responses : List Attempt) : List Byte := (responses.map Attempt.payload).flatten

/-- The image is what error-free responses brought, each byte at its offset; behind it there is only padding. -/
structure Faithful (s : Setting) (flash : Nat → Byte) (responses : List Attempt) (d : Download) : Prop where
  errorFree : ∀ r ∈ responses, r.ErrorFree
  size : (payloads responses).length = s.imageSize
  placed : ∀ i < s.imageSize, (payloads responses)[i]? = some (content s d i)
  untouched : ∀ i ≥ s.imageSize, d.flash i = flash i ∨ (i = s.imageSize ∧ s.imageSize % 2 = 1 ∧ d.flash i = 0xff)

def responseSize : Nat := errorSize+dataSize

def Download.reading (d : Download) (a : Attempt) : Download := {d with response := overlay d.response a.bytes}

lemma readLoop_cons (s : Setting) (a : Attempt) (rest : List Attempt) (retries : Nat) (d : Download) :
    readLoop s (a::rest) retries d = (takenLength (errorValue (d.reading a).response) a).elim
        (if retries ≤ 1 then (.flashError,d.reading a) else readLoop s rest (retries-1) (d.reading a))
        fun length =>
          if s.aPercent = 0 then (.trap,program s (d.reading a) length)
          else if d.offset+length < s.imageSize ∧ length = dataSize ∧ s.writes d.offset then
            readLoop s rest uavcanServiceRetries (program s (d.reading a) length)
          else if s.writes d.offset ∧ d.offset+length = s.imageSize ∧ length ≠ 0 then
            (.flashOk,program s (d.reading a) length)
          else (.flashError,program s (d.reading a) length) := rfl

lemma take_reading (d : Download) (a : Attempt) : overlay (d.response.take errorSize) (a.bytes.take errorSize) =
    (d.reading a).response.take errorSize := by
  rw [Download.reading,take_overlay]

lemma program_error {d : Download} (wide : errorSize ≤ d.response.length) :
    (program s d length).response.take errorSize = d.response.take errorSize := by
  simp [program,wide]

section
variable {s : Setting}

variable {d : Download}

lemma length_saved {data : List Byte} (wide : s.deferred ≤ data.length) : (saved s d data).2.length = data.length := by
  unfold saved
  split <;> simp
  omega

lemma deferred_le (s : Setting) : s.deferred ≤ dataSize := by
  unfold Setting.deferred dataSize
  split <;> decide

lemma length_program (wide : d.response.length = responseSize) (length : Nat) :
    (program s d length).response.length = responseSize := by
  have data : (padded d.response length).length = dataSize := by
    unfold padded
    split <;> simp [wide,responseSize]
  have kept : (saved s d (padded d.response length)).2.length = (padded d.response length).length :=
    length_saved (by rw [data]; exact deferred_le s)
  simp only [program,List.length_append,kept,data,List.length_take,wide,responseSize]
  decide

lemma length_reading (wide : d.response.length = responseSize) (a : Attempt) :
    (d.reading a).response.length = responseSize := by
  rw [Download.reading,length_overlay (by rw [wide]; exact a.fits),wide]

lemma readLoop_outcome (percent : s.aPercent ≠ 0) (attempts : List Attempt) (retries : Nat) (d : Download)
    (wide : d.response.length = responseSize) : (readLoop s attempts retries d).1 =
      if (taken s attempts retries d.offset (d.response.take errorSize)).2 then .flashOk else .flashError := by
  induction attempts generalizing retries d with
  | nil => rfl
  | cons a rest ih =>
    rw [readLoop_cons,taken,take_reading,errorValue]
    cases takenLength (decode ((d.reading a).response.take errorSize)) a with
    | none =>
      simp only [elim_none]
      split
      · rfl
      · exact ih _ _ (length_reading wide a)
    | some length =>
      simp only [elim_some,if_neg percent]
      split
      · rw [ih _ _ (length_program (length_reading wide a) length),
          program_error (by rw [length_reading wide a]; decide)]
        rfl
      · split
        next done => simp [done]
        next stopped => simp [stopped]

lemma readLoop_trap (percent : s.aPercent = 0) (attempts : List Attempt) (retries : Nat) (d : Download) :
    (readLoop s attempts retries d).1 =
      if (taken s attempts retries d.offset (d.response.take errorSize)).1 = [] then .flashError else .trap := by
  induction attempts generalizing retries d with
  | nil => rfl
  | cons a rest ih =>
    rw [readLoop_cons,taken,take_reading,errorValue]
    cases takenLength (decode ((d.reading a).response.take errorSize)) a with
    | none =>
      simp only [elim_none]
      split
      · rfl
      · exact ih _ _
    | some length =>
      simp only [elim_some,if_pos percent]
      split <;> rfl

end

section
variable {s : Setting} {flash : Nat → Byte}

structure Placed (s : Setting) (flash : Nat → Byte) (image : List Byte) (d : Download) : Prop where
  offset : d.offset = image.length
  wide : d.response.length = responseSize
  low : d.offset = 0 ∨ s.deferred ≤ d.offset
  even : d.offset % 2 = 0
  placed : ∀ i < d.offset, image[i]? = some (content s d i)
  untouched : ∀ i ≥ d.offset, d.flash i = flash i

variable {a : Attempt} {f : Nat → Byte} {offset error : Nat} {bytes image : List Byte} {d : Download}

lemma padded_eq {response : List Byte} (wide : response.length = responseSize) (data : errorSize < a.bytes.length) :
    ∃ tail, padded (overlay response a.bytes) a.payload.length = a.payload ++ tail ∧
      (a.payload ++ tail).length = dataSize ∧ (a.payload.length % 2 = 1 → tail[0]? = some 0xff) := by
  have size : a.payload.length = a.bytes.length-errorSize := List.length_drop
  have fits := a.fits
  have behind : (overlay response a.bytes).drop errorSize = a.payload ++ response.drop a.bytes.length := by
    rw [overlay,List.drop_append_of_le_length (Nat.le_of_lt data),Attempt.payload]
  have rest : (response.drop a.bytes.length).length = dataSize-a.payload.length := by
    rw [List.length_drop,wide,size,responseSize]
    omega
  unfold padded
  rw [behind]
  split
  next odd =>
    refine ⟨(response.drop a.bytes.length).set 0 0xff,?_,?_,?_⟩
    · rw [List.set_append_right _ _ (Nat.le_refl _),Nat.sub_self]
    · rw [List.length_append,List.length_set,rest]
      omega
    intro _
    have below : 0 < (response.drop a.bytes.length).length := by
      rw [rest]
      unfold dataSize at *
      omega
    rw [List.getElem?_set,if_pos rfl,if_pos below]
  next even =>
    refine ⟨response.drop a.bytes.length,rfl,?_,fun odd => absurd odd even⟩
    rw [List.length_append,rest]
    omega

variable {i : Nat}

lemma flashWrite_below (below : i < offset) : flashWrite f offset bytes i = f i := by
  simp [flashWrite,Nat.not_le.mpr below]

lemma flashWrite_above (above : offset+bytes.length ≤ i) : flashWrite f offset bytes i = f i := by
  simp [flashWrite,Nat.not_lt.mpr above]

lemma flashWrite_inside (at_k : bytes[k]? = some b) : flashWrite f offset bytes (offset+k) = b := by
  obtain ⟨bound,value⟩ := List.getElem?_eq_some_iff.mp at_k
  simp [flashWrite,bound,value]

lemma written_get (at_k : data[k]? = some b) (later : s.deferred ≤ d.offset+k) : (saved s d data).2[k]? = some b := by
  unfold saved
  split
  next zero =>
    have behind : s.deferred ≤ k := by omega
    rw [List.getElem?_append_right (by simpa using behind),List.length_replicate,List.getElem?_drop,
      Nat.add_sub_cancel' behind,at_k]
  · exact at_k

lemma written_padding {data : List Byte} {k : Nat} (at_k : data[k]? = some 0xff) :
    (saved s d data).2[k]? = some 0xff := by
  unfold saved
  split
  next zero =>
    rcases Nat.lt_or_ge k s.deferred with early | behind
    · rw [List.getElem?_append_left (by simpa using early),List.getElem?_replicate,if_pos early]
    · rw [List.getElem?_append_right (by simpa using behind),List.length_replicate,List.getElem?_drop,
        Nat.add_sub_cancel' behind,at_k]
  · exact at_k

lemma flash_program (data : padded (d.reading a).response a.payload.length = a.payload ++ tail)
    (writes : s.writes d.offset) : (program s (d.reading a) a.payload.length).flash = flashWrite d.flash d.offset
      ((saved s (d.reading a) (a.payload ++ tail)).2.take (a.payload.length + a.payload.length % 2)) := by
  rw [← data]
  exact if_pos writes

section
variable (before : Placed s flash image d) (some_data : errorSize < a.bytes.length)
  (writes : s.writes d.offset = true)
include before some_data writes

lemma Placed.content_program (inside : i < d.offset+a.payload.length) :
    (image ++ a.payload)[i]? = some (content s (program s (d.reading a) a.payload.length) i) := by
  obtain ⟨tail,data,size,_⟩ := padded_eq before.wide some_data
  have written := flash_program data writes
  have words : (program s (d.reading a) a.payload.length).fwWord0 =
      (saved s (d.reading a) (a.payload ++ tail)).1 := congrArg (fun data => (saved s (d.reading a) data).1) data
  rcases Nat.lt_or_ge i d.offset with old | new
  · -- a byte of an earlier response
    have far : s.deferred ≤ d.offset := before.low.resolve_left (by omega)
    have kept : (saved s (d.reading a) (a.payload ++ tail)).1 = d.fwWord0 := by
      have later : (d.reading a).offset ≠ 0 := by
        change d.offset ≠ 0
        omega
      rw [saved,if_neg later]
      rfl
    rw [List.getElem?_append_left (before.offset ▸ old),before.placed i old,content,content,words,kept,written,
      flashWrite_below old]
  obtain ⟨k,rfl⟩ := Nat.exists_eq_add_of_le new
  have small : k < a.payload.length := by omega
  have here : (a.payload ++ tail)[k]? = some a.payload[k] := by
    rw [List.getElem?_append_left small,List.getElem?_eq_getElem small]
  rw [List.getElem?_append_right (before.offset ▸ new),← before.offset,Nat.add_sub_cancel_left,
    List.getElem?_eq_getElem small,content]
  rcases Nat.lt_or_ge (d.offset+k) s.deferred with early | late
  · have zero : d.offset = 0 := before.low.resolve_right (by omega)
    have now : (d.reading a).offset = 0 := zero
    rw [if_pos early,words,saved,if_pos now]
    rw [zero,Nat.zero_add] at early ⊢
    rw [List.getD_eq_getElem?_getD,List.getElem?_take,if_pos early,here]
    rfl
  · rw [if_neg (Nat.not_lt.mpr late),written]
    have taken : ((saved s (d.reading a) (a.payload ++ tail)).2.take
        (a.payload.length + a.payload.length % 2))[k]? = some a.payload[k] := by
      rw [List.getElem?_take,if_pos (by omega)]
      exact written_get here late
    rw [flashWrite_inside taken]

lemma Placed.untouched_program (behind : d.offset+a.payload.length ≤ i) :
    (program s (d.reading a) a.payload.length).flash i = flash i ∨ (i = d.offset+a.payload.length ∧
      a.payload.length % 2 = 1 ∧ (program s (d.reading a) a.payload.length).flash i = 0xff) := by
  obtain ⟨tail,data,size,padding⟩ := padded_eq before.wide some_data
  have written := flash_program data writes
  have bound : ((saved s (d.reading a) (a.payload ++ tail)).2.take
      (a.payload.length + a.payload.length % 2)).length ≤ a.payload.length + a.payload.length % 2 :=
    List.length_take_le _ _
  rw [written]
  by_cases pad : i = d.offset + a.payload.length ∧ a.payload.length % 2 = 1
  · obtain ⟨rfl,odd⟩ := pad
    right
    refine ⟨rfl,odd,?_⟩
    have last : (a.payload ++ tail)[a.payload.length]? = some 0xff := by
      rw [List.getElem?_append_right (Nat.le_refl _),Nat.sub_self,padding odd]
    have taken : ((saved s (d.reading a) (a.payload ++ tail)).2.take
        (a.payload.length + a.payload.length % 2))[a.payload.length]? = some 0xff := by
      rw [List.getElem?_take,if_pos (by omega)]
      exact written_padding last
    exact flashWrite_inside taken
  · left
    rw [flashWrite_above (by omega),before.untouched i (by omega)]

end

lemma takenLength_short (took : takenLength error a = some length)
    (short : ¬errorSize < a.bytes.length) : a.bytes.length = length := by
  unfold takenLength at took
  split_ifs at took
  exact Option.some.inj took

lemma takenLength_data (took : takenLength error a = some length)
    (data : errorSize < a.bytes.length) : a.payload.length = length := by
  unfold takenLength at took
  split_ifs at took
  rw [Attempt.payload,List.length_drop]
  exact Option.some.inj took

lemma Placed.reading (before : Placed s flash image d) (a : Attempt) : Placed s flash image (d.reading a) where
  offset := before.offset
  wide := length_reading before.wide a
  low := before.low
  even := before.even
  placed := before.placed
  untouched := before.untouched

lemma Placed.next (before : Placed s flash image d) (data : errorSize < a.bytes.length) (writes : s.writes d.offset)
    (full : a.payload.length = dataSize) :
    Placed s flash (image ++ a.payload) (program s (d.reading a) a.payload.length) where
  offset := by
    rw [List.length_append,← before.offset]
    rfl
  wide := length_program (length_reading before.wide a) _
  low := by
    right
    have bound := deferred_le s
    change s.deferred ≤ d.offset+a.payload.length
    omega
  even := by
    change (d.offset + a.payload.length) % 2 = 0
    rw [full,Nat.add_mod,before.even]
    decide
  placed := fun i inside => before.content_program data writes inside
  untouched := fun i behind => (before.untouched_program data writes behind).resolve_right fun odd => by
    rw [full] at odd
    exact absurd odd.2.1 (by decide)

lemma readLoop_placed (percent : s.aPercent ≠ 0) (attempts : List Attempt) (retries : Nat) (d : Download)
    (image : List Byte) (before : Placed s flash image d)
    (whole : (taken s attempts retries d.offset (d.response.take errorSize)).2)
    (some_data : ∀ r ∈ (taken s attempts retries d.offset (d.response.take errorSize)).1,
      errorSize < r.bytes.length) :
    let responses := (taken s attempts retries d.offset (d.response.take errorSize)).1
    let final := (readLoop s attempts retries d).2
    (image ++ payloads responses).length = s.imageSize ∧
    (∀ i < s.imageSize, (image ++ payloads responses)[i]? = some (content s final i)) ∧
    ∀ i ≥ s.imageSize, final.flash i = flash i ∨ (i = s.imageSize ∧ s.imageSize % 2 = 1 ∧ final.flash i = 0xff) := by
  induction attempts generalizing retries d image with
  | nil => exact absurd whole Bool.false_ne_true
  | cons a rest ih =>
    rw [taken,take_reading] at whole some_data ⊢
    rw [readLoop_cons,errorValue]
    cases took : takenLength (decode ((d.reading a).response.take errorSize)) a with
    | none =>
      rw [took] at whole some_data
      simp only [elim_none] at whole some_data ⊢
      split at whole
      · exact absurd whole Bool.false_ne_true
      next more =>
        rw [if_neg more] at some_data ⊢
        rw [if_neg more]
        exact ih _ (d.reading a) _ (before.reading a) whole some_data
    | some length =>
      rw [took] at whole some_data
      simp only [elim_some,if_neg percent] at whole some_data ⊢
      split at whole
      next goes =>
        rw [if_pos goes] at some_data ⊢
        rw [if_pos goes]
        have data := some_data a List.mem_cons_self
        obtain rfl := takenLength_data took data
        have kept : (program s (d.reading a) a.payload.length).response.take errorSize =
            (d.reading a).response.take errorSize :=
          program_error (by rw [length_reading before.wide a]; decide)
        have rest_placed := ih uavcanServiceRetries _ _ (before.next data goes.2.2 goes.2.1)
        rw [kept] at rest_placed
        rw [payloads,List.map_cons,List.flatten_cons,← List.append_assoc]
        exact rest_placed whole fun r member => some_data r (List.mem_cons_of_mem _ member)
      next stops =>
        rw [if_neg stops] at some_data ⊢
        rw [if_neg stops]
        have done := of_decide_eq_true whole
        rw [if_pos done]
        have data := some_data a List.mem_cons_self
        obtain rfl := takenLength_data took data
        have alone : payloads [a] = a.payload := by simp [payloads]
        rw [alone,List.length_append,← before.offset,← done.2.1]
        refine ⟨rfl,fun i inside => before.content_program data done.1 inside,fun i behind => ?_⟩
        rcases before.untouched_program data done.1 behind with same | ⟨last,odd,erased⟩
        · exact Or.inl same
        · refine Or.inr ⟨last,?_,erased⟩
          rw [Nat.add_mod,before.even,odd]

lemma taken_size (attempts : List Attempt) (retries offset : Nat) (error : List Byte)
    (whole : (taken s attempts retries offset error).2)
    (size : offset+(payloads (taken s attempts retries offset error).1).length = s.imageSize) :
    ∀ r ∈ (taken s attempts retries offset error).1, errorSize < r.bytes.length := by
  induction attempts generalizing retries offset error with
  | nil => exact absurd whole Bool.false_ne_true
  | cons a rest ih =>
    rw [taken] at whole size ⊢
    cases took : takenLength (decode (overlay error (a.bytes.take errorSize))) a with
    | none =>
      rw [took] at whole size
      simp only [elim_none] at whole size ⊢
      split at whole
      · exact absurd whole Bool.false_ne_true
      next more =>
        rw [if_neg more] at size ⊢
        exact ih _ _ _ whole size
    | some length =>
      rw [took] at whole size
      simp only [elim_some] at whole size ⊢
      split at whole
      next goes =>
        rw [if_pos goes] at size ⊢
        have data : errorSize < a.bytes.length := by
          by_contra short
          have none_left := takenLength_short took short
          rw [goes.2.1] at none_left
          exact short (none_left ▸ by decide)
        rw [payloads,List.map_cons,List.flatten_cons,List.length_append,takenLength_data took data,← Nat.add_assoc] at size
        intro r member
        rcases List.mem_cons.mp member with rfl | later
        · exact data
        · exact ih _ _ _ whole size r later
      next stops =>
        rw [if_neg stops] at size ⊢
        have done := of_decide_eq_true whole
        intro r member
        rw [List.mem_singleton.mp member]
        by_contra short
        have counted := takenLength_short took short
        have alone : (payloads [a]).length = a.bytes.length-errorSize := by simp [payloads,Attempt.payload]
        change offset+(payloads [a]).length = s.imageSize at size
        omega

end

lemma start_placed (s : Setting) (flash : Nat → Byte) (fwWord0 : List Byte) :
    Placed s flash [] (start flash fwWord0) where
  offset := rfl
  wide := List.length_replicate
  low := Or.inl rfl
  even := rfl
  placed := fun i inside => absurd inside (Nat.not_lt_zero i)
  untouched := fun _ _ => rfl

/-- The download ends without a fault, and on success the image is what the responses brought. -/
def Sound (s : Setting) (attempts : List Attempt) (flash : Nat → Byte) (fwWord0 : List Byte) : Prop :=
  (fileReadAndProgram s attempts flash fwWord0).1 ≠ .trap ∧
  ((fileReadAndProgram s attempts flash fwWord0).1 = .flashOk →
    Faithful s flash (takenFrom s attempts).1 (fileReadAndProgram s attempts flash fwWord0).2)

def answer (error : Byte) (n : Nat) (bound : n ≤ dataSize) : Attempt where
  received := true
  bytes := error :: 0 :: List.replicate n 0x11
  fits := by
    rw [List.length_cons,List.length_cons,List.length_replicate]
    unfold errorSize
    omega

end AerialManipulator.CanDownload
