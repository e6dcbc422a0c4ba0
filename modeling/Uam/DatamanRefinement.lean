import Uam.Dataman
import Uam.Library.Runs

/-! Both back ends of the data manager behave as a map from item type and index to byte strings. -/
namespace AerialManipulator
open Bytes
open Runs (outputs)
open Option (elim_some)

def Contents := Nat → Nat → List Byte

namespace Contents

def empty : Contents := fun _ _ => []

def set (a : Contents) (item index : Nat) (buf : List Byte) : Contents := fun item' index' =>
  if item' = item ∧ index' = index then buf else a item' index'

def clear (a : Contents) (item : Nat) : Contents := fun item' index' => if item' = item then [] else a item' index'

/-- What each operation is for. Indices and sizes out of range and too small buffers are refused. -/
def step (layout : DatamanLayout) (a : Contents) : DmOp → DmResult × Contents
  | .write item index buf =>
    if index ≥ layout.maxIndex item then (⟨-1,[]⟩,a)
    else if buf.length > layout.itemSize item-dmSectorHdrSize then (⟨-e2big,[]⟩,a)
    else (⟨buf.length,[]⟩,a.set item index buf)
  | .read item index count =>
    (if index ≥ layout.maxIndex item then ⟨-1,[]⟩
      else if count > layout.itemSize item-dmSectorHdrSize then ⟨-e2big,[]⟩
      else if (a item index).length > count then ⟨-1,[]⟩
      else ⟨(a item index).length,a item index⟩,a)
  | .clear item => if 0 ≥ layout.maxIndex item then (⟨-1,[]⟩,a) else (⟨0,[]⟩,a.clear item)

def clearFrom (a : Contents) (item i : Nat) : Contents := fun item' index' =>
  if item' = item ∧ i ≤ index' then [] else a item' index'

lemma clearFrom_zero (a : Contents) (item : Nat) : a.clearFrom item 0 = a.clear item := by
  funext item' index'
  simp [clearFrom,clear]

lemma clearFrom_set (a : Contents) (item i : Nat) : (a.set item i []).clearFrom item (i+1) = a.clearFrom item i := by
  funext item' index'
  simp only [clearFrom,set]
  split <;> split <;> grind

end Contents

namespace DatamanLayout
variable {layout : DatamanLayout} {item index item' index' : Nat}

def offset (layout : DatamanLayout) (item index : Nat) : Nat := layout.keyOffset item + index * layout.itemSize item

lemma calculateOffset_eq (layout : DatamanLayout) (item index : Nat) : layout.calculateOffset item index =
      if index ≥ layout.maxIndex item then none else some (layout.offset item index) := by
  rw [calculateOffset,maxIndex,offset,itemSize]
  cases layout.perItem[item]? with
  | none => simp
  | some info => rfl

lemma size_bounds (fits : index < layout.maxIndex item) :
    dmSectorHdrSize ≤ layout.itemSize item ∧ layout.itemSize item ≤ 255 ∧ item < dmKeyNumKeys := by
  rw [maxIndex] at fits
  rw [itemSize]
  cases found : layout.perItem[item]? with
  | none =>
    rw [found] at fits
    simp at fits
  | some info =>
    obtain ⟨_,low,high⟩ := layout.sized info (List.mem_of_getElem? found)
    obtain ⟨inside,_⟩ := List.getElem?_eq_some_iff.mp found
    exact ⟨low,high,layout.keys ▸ inside⟩

section
variable (layout)

lemma keyOffset_succ (i : Nat) :
    layout.keyOffset (i + 1) = layout.keyOffset i + layout.maxIndex i * layout.itemSize i := by
  rw [keyOffset,maxIndex,itemSize]
  cases layout.perItem[i]? with
  | none | some info => rfl

lemma keyOffset_mono (le : i ≤ j) : layout.keyOffset i ≤ layout.keyOffset j := by
  induction le with
  | refl => exact le_rfl
  | step le ih =>
    rw [keyOffset_succ]
    omega

end

section
variable (fits : index < layout.maxIndex item)
include fits

lemma offset_end : layout.offset item index+layout.itemSize item ≤ layout.keyOffset (item+1) := by
  have rows := Nat.mul_le_mul_right (layout.itemSize item) fits
  rw [Nat.succ_mul] at rows
  rw [keyOffset_succ,offset]
  omega

lemma offset_inside : layout.offset item index+layout.itemSize item ≤ layout.maxOffset :=
  (offset_end fits).trans (layout.keyOffset_mono (size_bounds fits).2.2)

lemma offset_apart (inRange' : index' < layout.maxIndex item') (other : ¬(item' = item ∧ index' = index)) :
    layout.offset item' index'+layout.itemSize item' ≤ layout.offset item index ∨
      layout.offset item index+layout.itemSize item ≤ layout.offset item' index' := by
  have start (item index : Nat) : layout.keyOffset item ≤ layout.offset item index := Nat.le_add_right ..
  rcases Nat.lt_trichotomy item' item with less | same | more
  · exact .inl ((offset_end inRange').trans ((layout.keyOffset_mono less).trans (start item index)))
  · subst same
    have row {i j : Nat} (less : i < j) : layout.offset item' i+layout.itemSize item' ≤ layout.offset item' j := by
      have rows := Nat.mul_le_mul_right (layout.itemSize item') less
      rw [Nat.succ_mul] at rows
      rw [offset,offset]
      omega
    rcases Nat.lt_or_gt_of_ne (fun eq => other ⟨rfl,eq⟩) with less | more
    · exact .inl (row less)
    · exact .inr (row more)
  · exact .inr ((offset_end fits).trans ((layout.keyOffset_mono more).trans (start item' index')))

end

lemma offset_succ (layout : DatamanLayout) (item index : Nat) :
    layout.offset item index+layout.itemSize item = layout.offset item (index+1) := by
  rw [offset,offset,Nat.succ_mul,Nat.add_assoc]

end DatamanLayout

structure Holding (content : List Byte) (o size : Nat) (data : List Byte) : Prop where
  length : slice content o 1 = [BitVec.ofNat 8 data.length]
  stored : slice content (o+dmSectorHdrSize) data.length = data
  fits : data.length+dmSectorHdrSize ≤ size

structure DatamanLayout.Represents (layout : DatamanLayout) (content : List Byte) (a : Contents) : Prop where
  long : layout.maxOffset ≤ content.length
  item : ∀ item index, index < layout.maxIndex item →
    Holding content (layout.offset item index) (layout.itemSize item) (a item index)

namespace DatamanLayout
variable {layout : DatamanLayout} {content : List Byte} {a b : Contents} {item index : Nat}

section
variable (holds : layout.Represents content a)
include holds

lemma Represents.congr
    (same : ∀ item index, index < layout.maxIndex item → b item index = a item index) : layout.Represents content b :=
  ⟨holds.long,fun item index fits => same item index fits ▸ holds.item item index fits⟩

lemma Represents.clearFrom_end (last : layout.maxIndex item ≤ i) : layout.Represents content (a.clearFrom item i) := by
  refine holds.congr fun item' index' fits => if_neg fun both => ?_
  rw [both.1] at fits
  omega

lemma Represents.poke (inRange : index < layout.maxIndex item)
    {bytes data : List Byte} (short : bytes.length ≤ layout.itemSize item)
    (holding : Holding (poke content (layout.offset item index) bytes) (layout.offset item index)
      (layout.itemSize item) data) :
    layout.Represents (Bytes.poke content (layout.offset item index) bytes) (a.set item index data) := by
  have inside := offset_inside inRange
  have long := holds.long
  constructor
  · rw [length_poke (by omega)]
    exact long
  intro item' index' inRange'
  rw [Contents.set]
  split
  next same =>
    rw [same.1,same.2]
    exact holding
  next other =>
    have apart := offset_apart inRange inRange' other
    obtain ⟨low,_,_⟩ := size_bounds inRange'
    obtain ⟨length,stored,fits⟩ := holds.item item' index' inRange'
    rw [dmSectorHdrSize] at low stored fits
    refine ⟨?_,?_,fits⟩
    · rw [slice_poke_apart (by omega) (by omega)]
      exact length
    · rw [dmSectorHdrSize,slice_poke_apart (by omega) (by omega)]
      exact stored

lemma Represents.write (inRange : index < layout.maxIndex item)
    {buf : List Byte} (fits : buf.length+dmSectorHdrSize ≤ layout.itemSize item) :
    layout.Represents (Bytes.poke content (layout.offset item index) (dmSector buf)) (a.set item index buf) := by
  have inside := offset_inside inRange
  have long := holds.long
  have size : (dmSector buf).length = buf.length+4 := rfl
  rw [dmSectorHdrSize] at fits
  refine holds.poke inRange (by omega) ⟨?_,?_,fits⟩
  · have first : slice (Bytes.poke content (layout.offset item index) (dmSector buf)) (layout.offset item index+0) 1 =
        slice (dmSector buf) 0 1 := slice_poke (by omega) (by omega)
    exact first
  · rw [dmSectorHdrSize,slice_poke (by omega) (by omega)]
    exact List.take_of_length_le le_rfl

lemma Represents.empty (fits : index < layout.maxIndex item) :
    layout.Represents (Bytes.poke content (layout.offset item index) [0]) (a.set item index []) := by
  have inside := offset_inside fits
  have long := holds.long
  obtain ⟨low,_,_⟩ := size_bounds fits
  rw [dmSectorHdrSize] at low
  refine holds.poke fits (by simp; omega) ⟨?_,rfl,by simpa [dmSectorHdrSize] using low⟩
  have first : slice (Bytes.poke content (layout.offset item index) [0]) (layout.offset item index+0) 1 =
      slice [0] 0 1 := slice_poke (by omega) (by simp)
  exact first

lemma Represents.length (inRange : index < layout.maxIndex item) :
    (content.getD (layout.offset item index) 0).toNat = (a item index).length := by
  obtain ⟨length,_,fits⟩ := holds.item item index inRange
  obtain ⟨_,high,_⟩ := size_bounds inRange
  rw [getD_eq_of_slice length,BitVec.toNat_ofNat,Nat.mod_eq_of_lt (by omega)]

lemma Represents.inside (fits : index < layout.maxIndex item) : ¬layout.offset item index > content.length-1 := by
  have inside := offset_inside fits
  have long := holds.long
  obtain ⟨low,_,_⟩ := size_bounds fits
  rw [dmSectorHdrSize] at low
  omega

end

lemma represents_ramInitialize (layout : DatamanLayout) : layout.Represents (ramInitialize layout) .empty := by
  have length : (ramInitialize layout).length = layout.maxOffset := List.length_replicate
  refine ⟨length.ge,fun item index fits => ?_⟩
  have inside := offset_inside fits
  obtain ⟨low,_,_⟩ := size_bounds fits
  rw [dmSectorHdrSize] at low
  refine ⟨?_,rfl,by simpa [Contents.empty,dmSectorHdrSize] using low⟩
  have one : min 1 (layout.maxOffset-layout.offset item index) = 1 := by omega
  rw [slice,ramInitialize,List.drop_replicate,List.take_replicate,one]
  rfl

lemma Represents.ramClearLoop (holds : layout.Represents content a) (all : i+left = layout.maxIndex item) :
    ∃ content', ramClearLoop (layout.itemSize item) left (layout.offset item i) content = (0,content') ∧
      layout.Represents content' (a.clearFrom item i) := by
  induction left generalizing i content a with
  | zero => exact ⟨content,rfl,holds.clearFrom_end all.ge⟩
  | succ left ih =>
    have fits : i < layout.maxIndex item := by omega
    obtain ⟨content',loop,represents'⟩ := ih (holds.empty fits) (by omega : i+1+left = _)
    rw [Contents.clearFrom_set] at represents'
    refine ⟨content',?_,represents'⟩
    rw [AerialManipulator.ramClearLoop,if_neg (holds.inside fits),offset_succ]
    exact loop

lemma ram_step (holds : layout.Represents content a) (op : DmOp) :
    (ramStep layout content op).1 = (a.step layout op).1 ∧
      layout.Represents (ramStep layout content op).2 (a.step layout op).2 := by
  cases op with
  | write item index buf =>
    simp only [ramStep,ramWrite,Contents.step,calculateOffset_eq]
    split
    · exact ⟨rfl,holds⟩
    next inRange =>
      have inRange : index < layout.maxIndex item := by omega
      rw [elim_some]
      split
      · exact ⟨rfl,holds⟩
      next fits =>
        obtain ⟨low,_,_⟩ := size_bounds inRange
        rw [if_neg (holds.inside inRange)]
        exact ⟨rfl,holds.write inRange (by omega)⟩
  | read item index count =>
    simp only [ramStep,ramRead,Contents.step,calculateOffset_eq]
    refine ⟨?_,holds⟩
    split
    · rfl
    next inRange =>
      have inRange : index < layout.maxIndex item := by omega
      rw [elim_some,if_neg (holds.inside inRange),holds.length inRange,
        (holds.item item index inRange).stored]
  | clear item =>
    simp only [ramStep,ramClear,Contents.step,calculateOffset_eq]
    split
    · exact ⟨rfl,holds⟩
    · obtain ⟨content',loop,represents'⟩ := holds.ramClearLoop (Nat.zero_add (layout.maxIndex item))
      rw [elim_some,loop,← Contents.clearFrom_zero]
      exact ⟨rfl,represents'⟩

lemma Represents.fileClearLoop {f : File} (holds : layout.Represents f.content a)
    (all : i+left = layout.maxIndex item) :
    layout.Represents (fileClearLoop (layout.itemSize item) left (layout.offset item i) f).content
      (a.clearFrom item i) := by
  induction left generalizing i f a with
  | zero => exact holds.clearFrom_end all.ge
  | succ left ih =>
    have inRange : i < layout.maxIndex item := by omega
    have inside := offset_inside inRange
    have long := holds.long
    obtain ⟨low,high,_⟩ := size_bounds inRange
    rw [dmSectorHdrSize] at low
    -- The file does not end before the item.
    obtain ⟨length,_,fits⟩ := holds.item item i inRange
    have first : ((f.seek (layout.offset item i)).read 1).1 = [BitVec.ofNat 8 (a item i).length] := length
    rw [AerialManipulator.fileClearLoop,first,if_neg (by simp),offset_succ,← Contents.clearFrom_set]
    split
    · -- Nothing is stored there.
      rename_i zero
      have nothing : a item i = [] := by
        have value : (BitVec.ofNat 8 (a item i).length).toNat = 0 := congrArg BitVec.toNat zero
        rw [BitVec.toNat_ofNat] at value
        exact List.length_eq_zero_iff.mp (by omega)
      have emptied : layout.Represents ((f.seek (layout.offset item i)).read 1).2.content (a.set item i []) := by
        refine holds.congr fun item' index' _ => ?_
        rw [Contents.set]
        split
        next same =>
          rw [same.1,same.2,nothing]
        · rfl
      exact ih emptied (by omega)
    · refine ih ?_ (by omega)
      have same : ((f.seek (layout.offset item i)).read 1).2.content = f.content := rfl
      have inFile : layout.offset item i ≤ ((f.seek (layout.offset item i)).read 1).2.content.length := by
        rw [same]
        omega
      rw [content_write _ inFile,same]
      exact holds.empty inRange

lemma Represents.fileRead {f : File} (holds : layout.Represents f.content a)
    (fits : index < layout.maxIndex item) (count : Nat) :
    let buffer := ((f.seek (layout.offset item index)).read (count+dmSectorHdrSize)).1
    (buffer.getD 0 0).toNat = (a item index).length ∧
      ((a item index).length ≤ count → slice buffer dmSectorHdrSize (a item index).length = a item index) := by
  have buffer : ((f.seek (layout.offset item index)).read (count+dmSectorHdrSize)).1 =
      slice f.content (layout.offset item index) (count+dmSectorHdrSize) := rfl
  obtain ⟨low,_,_⟩ := size_bounds fits
  rw [dmSectorHdrSize] at low
  simp only [buffer]
  constructor
  · rw [← holds.length fits,List.getD_eq_getElem?_getD,List.getD_eq_getElem?_getD,getElem?_slice,
      if_pos (by rw [dmSectorHdrSize]; omega),Nat.add_zero]
  · intro enough
    rw [slice_slice (by omega)]
    exact (holds.item item index fits).stored

lemma file_step {f : File} (holds : layout.Represents f.content a) (op : DmOp) :
    (fileStep layout f op).1 = (a.step layout op).1 ∧
      layout.Represents (fileStep layout f op).2.content (a.step layout op).2 := by
  cases op with
  | write item index buf =>
    simp only [fileStep,fileWrite,Contents.step,calculateOffset_eq]
    split
    · exact ⟨rfl,holds⟩
    next inRange =>
      have inRange : index < layout.maxIndex item := by omega
      rw [elim_some]
      split
      · exact ⟨rfl,holds⟩
      next fits =>
        have inside := offset_inside inRange
        have long := holds.long
        obtain ⟨low,_,_⟩ := size_bounds inRange
        refine ⟨rfl,?_⟩
        rw [content_write f (by omega)]
        exact holds.write inRange (by omega)
  | read item index count =>
    simp only [fileStep,AerialManipulator.fileRead,Contents.step,calculateOffset_eq]
    by_cases inRange : index < layout.maxIndex item
    · obtain ⟨low,_,key⟩ := size_bounds inRange
      rw [if_neg (by omega),if_neg (by omega),if_neg (by omega),elim_some]
      split
      · exact ⟨rfl,holds⟩
      obtain ⟨length,data⟩ := holds.fileRead inRange count
      simp only [length]
      refine ⟨?_,holds⟩
      split
      · rfl
      next enough =>
        rw [data (by omega)]
    · have out : index ≥ layout.maxIndex item := by omega
      simp only [if_pos out,Option.elim_none,ite_self]
      exact ⟨trivial,holds⟩
  | clear item =>
    simp only [fileStep,fileClear,Contents.step,calculateOffset_eq]
    split
    · exact ⟨rfl,holds⟩
    · have cleared := holds.fileClearLoop (Nat.zero_add (layout.maxIndex item))
      rw [Contents.clearFrom_zero] at cleared
      exact ⟨rfl,cleared⟩

def compatOnly (layout : DatamanLayout) : Contents := Contents.empty.set dmKeyCompat 0 (encode 8 layout.compatKey)

section
variable (layout)

lemma compat_eq : layout.maxIndex dmKeyCompat = 1 ∧ layout.itemSize dmKeyCompat = 12 := by
  rw [maxIndex,itemSize,layout.compat]
  exact ⟨rfl,rfl⟩

lemma represents_fileInitialize : layout.Represents (fileInitialize layout).content layout.compatOnly := by
  obtain ⟨index,size⟩ := layout.compat_eq
  have inRange : 0 < layout.maxIndex dmKeyCompat := by omega
  have written : (dmSector (encode 8 layout.compatKey)).length = 12 := rfl
  have last : layout.offset dmKeyCompat 0+12 = layout.maxOffset := by
    have rows := layout.keyOffset_succ dmKeyCompat
    rw [index,size] at rows
    rw [offset,Nat.zero_mul]
    exact rows.symm
  -- Seeking behind the end leaves a gap of zeros.
  have content : (fileInitialize layout).content =
      Bytes.poke (ramInitialize layout) (layout.offset dmKeyCompat 0) (dmSector (encode 8 layout.compatKey)) := by
    have fits : ¬(encode 8 layout.compatKey).length > layout.itemSize dmKeyCompat-dmSectorHdrSize := by
      rw [length_encode,size]
      decide
    rw [fileInitialize,fileWrite,calculateOffset_eq,if_neg (by omega),elim_some,if_neg fits]
    simp only [File.write,File.seek,Bytes.poke,written,ramInitialize,List.take_replicate,List.drop_replicate]
    rw [last,min_eq_left (by omega)]
    simp
  rw [content]
  exact (represents_ramInitialize layout).write inRange (by rw [length_encode,size]; decide)

lemma ram_outputs (ops : List DmOp) :
    outputs (ramStep layout) (ramInitialize layout) ops = outputs (Contents.step layout) .empty ops :=
  Runs.outputs_eq layout.Represents (fun _ _ op holds => ram_step holds op)
    (represents_ramInitialize layout) ops

lemma file_outputs (ops : List DmOp) : outputs (fileStep layout) (fileInitialize layout) ops =
      outputs (Contents.step layout) layout.compatOnly ops :=
  Runs.outputs_eq (fun (f : File) a => layout.Represents f.content a)
    (fun _ _ op holds => file_step holds op) (represents_fileInitialize layout) ops

end
end DatamanLayout

def DmOp.settlesCompat : DmOp → Bool
  | .write item index buf => item == dmKeyCompat && index == 0 && buf.length ≤ 8
  | .read _ _ _ => false
  | .clear item => item == dmKeyCompat

def DmOp.readsCompat : DmOp → Bool
  | .write _ _ _ => false
  | .read item index count => item == dmKeyCompat && index == 0 && count ≤ 8
  | .clear _ => false

def CompatUnread : List DmOp → Prop
  | [] => True
  | op::rest => op.settlesCompat = true ∨ op.readsCompat = false ∧ CompatUnread rest

namespace Contents
variable {layout : DatamanLayout} {a b : Contents}

structure ApartFromCompat (a b : Contents) : Prop where
  empty : a dmKeyCompat 0 = []
  key : (b dmKeyCompat 0).length = 8
  others : ∀ item index, ¬ (item = dmKeyCompat ∧ index = 0) → a item index = b item index

variable {op : DmOp}

section
variable (apart : ApartFromCompat a b)
include apart

lemma ApartFromCompat.settled (settles : op.settlesCompat) : a.step layout op = b.step layout op := by
  obtain ⟨range,size⟩ := layout.compat_eq
  cases op with
  | write item index buf =>
    simp only [DmOp.settlesCompat,Bool.and_eq_true,beq_iff_eq,decide_eq_true_eq] at settles
    obtain ⟨⟨rfl,rfl⟩,short⟩ := settles
    have same : a.set dmKeyCompat 0 buf = b.set dmKeyCompat 0 buf := by
      funext item index
      rw [set,set]
      split
      · rfl
      · exact apart.others item index (by assumption)
    rw [step,step,same,range,size,if_neg (by omega),if_neg (by rw [dmSectorHdrSize]; omega),if_neg (by omega),
      if_neg (by rw [dmSectorHdrSize]; omega)]
  | read item index count => simp [DmOp.settlesCompat] at settles
  | clear item =>
    simp only [DmOp.settlesCompat,beq_iff_eq] at settles
    subst settles
    have same : a.clear dmKeyCompat = b.clear dmKeyCompat := by
      funext item index
      rw [clear,clear]
      split
      · rfl
      next other =>
        exact apart.others item index fun both => other both.1
    rw [step,step,same,range,if_neg (by omega),if_neg (by omega)]

lemma ApartFromCompat.told (reads : op.readsCompat) : (a.step layout op).1 ≠ (b.step layout op).1 := by
  obtain ⟨range,size⟩ := layout.compat_eq
  cases op with
  | write item index buf | clear item => simp [DmOp.readsCompat] at reads
  | read item index count =>
    simp only [DmOp.readsCompat,Bool.and_eq_true,beq_iff_eq,decide_eq_true_eq] at reads
    obtain ⟨⟨rfl,rfl⟩,short⟩ := reads
    have fits : ¬count > 12-dmSectorHdrSize := by
      rw [dmSectorHdrSize]
      omega
    simp only [step,range,size,apart.empty,if_neg fits,List.length_nil]
    rw [if_neg (by omega),if_neg (by omega),if_neg (by omega)]
    intro same
    have result := congrArg DmResult.result same
    split at result
    · simp at result
    · simp [apart.key] at result

lemma ApartFromCompat.untold (unsettled : op.settlesCompat = false) (unread : op.readsCompat = false) :
    (a.step layout op).1 = (b.step layout op).1 ∧ ApartFromCompat (a.step layout op).2 (b.step layout op).2 := by
  obtain ⟨range,size⟩ := layout.compat_eq
  cases op with
  | write item index buf =>
    rw [step,step]
    split
    · exact ⟨rfl,apart⟩
    next inRange =>
      split
      · exact ⟨rfl,apart⟩
      next fits =>
        -- An accepted write to the compatibility item would settle it.
        have elsewhere : ¬(item = dmKeyCompat ∧ index = 0) := by
          rintro ⟨rfl,rfl⟩
          rw [size,dmSectorHdrSize] at fits
          simp [DmOp.settlesCompat] at unsettled
          omega
        have away : ¬(dmKeyCompat = item ∧ 0 = index) := fun both => elsewhere ⟨both.1.symm,both.2.symm⟩
        refine ⟨rfl,?_,?_,?_⟩
        · exact (if_neg away).trans apart.empty
        · exact (congrArg List.length (if_neg away)).trans apart.key
        intro item' index' other
        simp only [set]
        split
        · rfl
        · exact apart.others item' index' other
  | read item index count =>
    refine ⟨?_,apart⟩
    rw [step,step]
    by_cases compat : item = dmKeyCompat ∧ index = 0
    · obtain ⟨rfl,rfl⟩ := compat
      have large : count > layout.itemSize dmKeyCompat-dmSectorHdrSize := by
        rw [size,dmSectorHdrSize]
        simp [DmOp.readsCompat] at unread
        omega
      simp only [if_pos large]
    · simp only [apart.others item index compat]
  | clear item =>
    have elsewhere : dmKeyCompat ≠ item := by
      rintro rfl
      simp [DmOp.settlesCompat] at unsettled
    rw [step,step]
    split
    · exact ⟨rfl,apart⟩
    refine ⟨rfl,?_,?_,?_⟩
    · exact (if_neg elsewhere).trans apart.empty
    · exact (congrArg List.length (if_neg elsewhere)).trans apart.key
    intro item' index' other
    simp only [clear]
    split
    · rfl
    · exact apart.others item' index' other

lemma ApartFromCompat.outputs (ops : List DmOp) :
    outputs (step layout) a ops = outputs (step layout) b ops ↔ CompatUnread ops := by
  induction ops generalizing a b with
  | nil => exact ⟨fun _ => trivial,fun _ => rfl⟩
  | cons op rest ih =>
    rw [outputs,outputs,List.cons.injEq,CompatUnread]
    cases settles : op.settlesCompat with
    | true =>
      rw [apart.settled settles]
      exact ⟨fun _ => .inl rfl,fun _ => ⟨rfl,rfl⟩⟩
    | false =>
      cases reads : op.readsCompat with
      | true =>
        have differ : (a.step layout op).1 ≠ (b.step layout op).1 := apart.told reads
        constructor
        · exact fun both => absurd both.1 differ
        · rintro (bad | ⟨bad,_⟩) <;> cases bad
      | false =>
        obtain ⟨same,next⟩ : (a.step layout op).1 = (b.step layout op).1 ∧
            ApartFromCompat (a.step layout op).2 (b.step layout op).2 := apart.untold settles reads
        rw [ih next]
        constructor
        · exact fun both => .inr ⟨rfl,both.2⟩
        · rintro (bad | ⟨_,unread⟩)
          · cases bad
          · exact ⟨same,unread⟩

end

lemma apart_compatOnly (layout : DatamanLayout) : ApartFromCompat .empty layout.compatOnly := by
  refine ⟨rfl,length_encode 8 _,fun item index other => ?_⟩
  rw [DatamanLayout.compatOnly,set,if_neg other]

end Contents

end AerialManipulator
