import Uam.FlashLog
import Mathlib.Data.List.Pairwise

/-! What is read back after a save, over every history of starts, saves and interrupted saves. -/
namespace AerialManipulator
open Bytes Flash List Runs
open Option (bind_some elim_none elim_some getD_some map_some)
open FlashBoard (step)

namespace FlashBoard
variable {board : FlashBoard} {strict : Bool} {m m' : Image} {s t : SectorDescriptor} {p q e n : Nat} {data : List Byte}

lemma apart (first : s ∈ board.sectorMap) (second : t ∈ board.sectorMap) (other : s ≠ t) :
    s.stop ≤ t.address ∨ t.stop ≤ s.address := by
  have symmetric : Std.Symm fun s t : SectorDescriptor => s.stop ≤ t.address ∨ t.stop ≤ s.address :=
    ⟨fun _ _ => Or.symm⟩
  exact board.disjoint.forall first second other

lemma EndsAt.congr (ends : EndsAt board strict m s e) (mapped : s ∈ board.sectorMap)
    (agree : Agree m m' s.address s.stop) : EndsAt board strict m' s e := by
  obtain ⟨stop,_⟩ := last_eq mapped
  have := ends.below
  have := ends.used.le
  exact ⟨ends.used.congr (agree.mono le_rfl (by omega)),ends.below,ends.before,
    (agree.mono (by omega) le_rfl).blank ends.blank⟩

section
variable (mapped : s ∈ board.sectorMap)
include mapped

lemma program_apart (above : s.address ≤ q) (below : q+data.length ≤ s.stop)
    (other : t ∈ board.sectorMap) (ne : t ≠ s) : Agree m (program m q data) t.address t.stop := by
  rcases apart other mapped ne with before | after
  · exact program_before (by omega)
  · exact program_after (by omega)

lemma erase_apart (other : t ∈ board.sectorMap) (ne : t ≠ s) : Agree m (erase m s.address s.size) t.address t.stop := by
  intro c low high
  have := apart other mapped ne
  simp only [SectorDescriptor.stop] at *
  exact erase_outside (by omega)

lemma getSectorInfo_eq (inside : s.Contains a) : board.getSectorInfo a = some s := by
  rw [getSectorInfo]
  cases found : board.sectorMap.find? fun t => t.Contains a with
  | none => exact absurd inside (by simpa using find?_eq_none.mp found s mapped)
  | some t =>
    have other := mem_of_find?_eq_some found
    have here : t.Contains a := by simpa using find?_some found
    rw [contains_iff other] at here
    rw [contains_iff mapped] at inside
    by_contra ne
    have := apart other mapped fun same => ne (congrArg some same)
    omega

lemma getNextSectorDescriptor_mem : ∃ t ∈ board.sectorMap, board.getNextSectorDescriptor s = some t := by
  obtain ⟨i,found⟩ : ∃ i, board.sectorMap.findIdx? (· == s) = some i := by
    rw [← Option.isSome_iff_exists,findIdx?_isSome]
    simpa using mapped
  rw [getNextSectorDescriptor,found,bind_some]
  cases next : board.sectorMap[i+1]? with
  | none =>
    obtain ⟨first,start⟩ : ∃ first, board.sectorMap[0]? = some first :=
      ⟨_,getElem?_eq_getElem (length_pos_iff.mpr board.nonempty)⟩
    exact ⟨first,mem_of_getElem? start,start⟩
  | some t => exact ⟨t,mem_of_getElem? next,rfl⟩

end

variable (rest : List Byte)

lemma marked_flag : program m (p+4) (0::rest) (p+4) = 0 := by
  have value : program m (p + 4) (0::rest) (p + 4) = m (p + 4) &&& 0 := by
    rw [program,if_pos ⟨le_rfl,by simp⟩,Nat.sub_self]
    rfl
  rw [value]
  exact BitVec.and_zero

lemma validEntry_marked : validEntry (program m (p+4) (0::rest)) p = false := by
  have low : (program m (p+4) (0::rest) (p+4)).toNat = 0 := by
    rw [marked_flag]
    rfl
  rw [validEntry,AerialManipulator.flag,half_eq,low,validFlag]
  apply beq_false_of_ne
  omega

lemma Holds.marked (holds : Holds board strict m s p n) (rest : List Byte) (short : rest.length ≤ 1) :
    Quiet board strict (program m (p+4) (0::rest)) ∧ EndsAt board strict (program m (p+4) (0::rest)) s (p+n) := by
  have large := holds.whole.large
  have start := holds.used.le
  obtain ⟨stop,_⟩ := last_eq holds.mapped
  have below := holds.below
  have length : (0::rest : List Byte).length = rest.length+1 := rfl
  have whole : Whole board strict (program m (p+4) (0::rest)) p n := by
    refine holds.whole.frame (program_before le_rfl) (program_after (by omega)) ?_
    rw [marked_flag]
    decide
  have ends : EndsAt board strict (program m (p+4) (0::rest)) s (p+n) := by
    refine ⟨(holds.used.congr (program_before (by omega))).append ?_,below,holds.before,?_⟩
    · exact .entry whole (validEntry_marked rest) (.nil _)
    · exact Agree.blank (program_after (by omega)) holds.blank
  refine ⟨fun t mapped => ?_,ends⟩
  by_cases same : t = s
  · exact ⟨p+n,same ▸ ends⟩
  · obtain ⟨e,ends⟩ := holds.others t mapped same
    exact ⟨e,ends.congr mapped (program_apart holds.mapped (by omega) (by omega) mapped same)⟩

def Tidy (board : FlashBoard) (strict : Bool) (m : Image) : Prop :=
  Quiet board strict m ∨ ∃ s p n, Holds board strict m s p n

/-- A save that succeeds leaves its entry in use; one that fails leaves the flash in order,
unchanged if not interrupted. -/
def Saved (board : FlashBoard) (strict : Bool) (data : List Byte) (m : Image) (outcome : FlashOutcome)
    (result : Int × Image) : Prop :=
  if 0 ≤ result.1 then ∃ s p n, Holds board strict result.2 s p n ∧ Stored board result.2 p data
  else Tidy board strict result.2 ∧ (outcome = ⟨none,none,none⟩ → result.2 = m)

variable {outcome : FlashOutcome} {token : Nat} {result : Int × Image}

lemma saved_of_error {r : Int} (negative : r < 0) (tidy : Tidy board strict m')
    (kept : outcome = ⟨none,none,none⟩ → m' = m) : Saved board strict data m outcome (r,m') := by
  rw [Saved,if_neg (by simpa using negative)]
  exact ⟨tidy,kept⟩

def Harmless (board : FlashBoard) (data : List Byte) (stop : Option Nat) : Prop :=
  ∀ done, stop = some done → done < 4 ∨ ∀ b ∈ (board.entryBytes parametersToken data).drop done, b = 0xff

structure Room (board : FlashBoard) (strict : Bool) (m : Image) (s : SectorDescriptor) (q n : Nat) : Prop where
  mapped : s ∈ board.sectorMap
  ends : EndsAt board strict m s q
  below : q+n ≤ s.last
  before : strict = true → q+n ≠ s.last

lemma Room.holds (room : Room board strict m s q (totalSize data.length)) (quiet : Quiet board strict m)
    (small : totalSize data.length < 2^16) (plain : strict → Plain data) :
    let m' := program m q (board.entryBytes parametersToken data)
    Holds board strict m' s q (totalSize data.length) ∧ Stored board m' q data := by
  obtain ⟨mapped,ends,below,before⟩ := room
  obtain ⟨stop,_⟩ := last_eq mapped
  have size := length_entryBytes board parametersToken data
  have start := ends.used.le
  have written : bytes (program m q (board.entryBytes parametersToken data)) q (totalSize data.length) =
      board.entryBytes parametersToken data := by
    rw [← size]
    exact program_blank (ends.blank.mono le_rfl (by omega))
  have stored := stored_of_bytes small written
  refine ⟨⟨mapped,ends.used.congr (program_before le_rfl),stored.whole small plain,stored.valid,below,before,?_,?_⟩,stored⟩
  · rw [← size]
    exact program_rest ends.blank
  · intro t other ne
    obtain ⟨e,ends⟩ := quiet t other
    exact ⟨e,ends.congr other (program_apart mapped start (by omega) other ne)⟩

lemma program_nil : program m q [] = m := by
  funext c
  exact program_outside (by simp; omega)

lemma encode_magic : encode 4 magicSig ++ rest = 0xc3::0x3c::0x55::0xaa::rest := rfl

lemma scrap_word (blank : Blank m q (q+4)) (rest : List Byte) (some_ : 0 < done) (few : done < 4) :
    let w := word (program m q ((encode 4 magicSig ++ rest).take done)) q
    w ≠ magicSig ∧ w ≠ blankSig := by
  have b0 := blank q (by omega) (by omega)
  have b1 := blank (q+1) (by omega) (by omega)
  have b2 := blank (q+2) (by omega) (by omega)
  have b3 := blank (q+3) (by omega) (by omega)
  rw [encode_magic]
  obtain rfl | rfl | rfl : done = 1 ∨ done = 2 ∨ done = 3 := by omega
  all_goals
    simp [word_eq,program,b0,b1,b2,b3,magicSig,blankSig]

lemma Room.interrupted (room : Room board strict m s q (totalSize data.length)) (quiet : Quiet board strict m)
    (few : done < 4) :
    Quiet board strict (program m q ((board.entryBytes parametersToken data).take done)) := by
  obtain ⟨mapped,ends,below,before⟩ := room
  obtain ⟨stop,_⟩ := last_eq mapped
  obtain ⟨total,words,_⟩ := totalSize_eq data.length
  have start := ends.used.le
  have size : ((board.entryBytes parametersToken data).take done).length = done := by
    rw [length_take,length_entryBytes]
    omega
  obtain rfl | some_ := Nat.eq_zero_or_pos done
  · rw [take_zero,program_nil]
    exact quiet
  intro t other
  by_cases same : t = s
  · subst same
    have layout : board.entryBytes parametersToken data = encode 4 magicSig ++ _ := append_assoc .. |>.trans
      (append_assoc ..)
    obtain ⟨noMagic,noBlank⟩ := scrap_word (ends.blank.mono le_rfl (by omega)) _ some_ few
    refine ⟨q+4,?_,by omega,fun _ => by omega,?_⟩
    · refine (ends.used.congr (program_before le_rfl)).append (.scrap ?_ ?_ (.nil _)) <;> rw [layout]
      · exact noMagic
      · exact noBlank
    · exact (program_rest ends.blank).mono (by omega) le_rfl
  · obtain ⟨e,ends⟩ := quiet t other
    exact ⟨e,ends.congr other (program_apart mapped start (by omega) other same)⟩

lemma entryBytes_all (board : FlashBoard) (token : Nat) (small : totalSize data.length < 2^16) :
    (board.entryBytes token data).take (totalSize data.length % 2^16) = board.entryBytes token data := by
  rw [take_of_length_le]
  rw [length_entryBytes]
  omega

lemma programEntry_done (token : Nat) (small : totalSize data.length < 2^16)
    (blank : Blank m q (q+totalSize data.length)) :
    board.programEntry m q token data none = ((data.length : Int),program m q (board.entryBytes token data)) := by
  obtain ⟨total,_,_⟩ := totalSize_eq data.length
  have size := length_entryBytes board token data
  have written := program_blank (size.symm ▸ blank)
  rw [size] at written
  simp only [programEntry,upProgmemWrite,entryBytes_all board token small,elim_none,size,if_pos written,headerSize]
  rw [if_pos (by omega)]
  congr 1
  omega

lemma programEntry_stopped (token : Nat) (small : totalSize data.length < 2^16) (done : Nat) :
    board.programEntry m q token data (some done) = (-eio,program m q ((board.entryBytes token data).take done)) := by
  simp only [programEntry,upProgmemWrite,entryBytes_all board token small,elim_some]
  rw [if_neg]
  rw [eio]
  omega

lemma Room.saved (room : Room board strict m s q (totalSize data.length)) (quiet : Quiet board strict m)
    (small : totalSize data.length < 2^16) (plain : strict → Plain data)
    (harmless : board.Harmless data outcome.program) (before : Image) :
    Saved board strict data before outcome (board.programEntry m q parametersToken data outcome.program) := by
  obtain ⟨holds,stored⟩ := room.holds quiet small plain
  cases stop : outcome.program with
  | none =>
    obtain ⟨last,_⟩ := last_eq room.mapped
    have below := room.below
    rw [programEntry_done parametersToken small (room.ends.blank.mono le_rfl (by omega)),Saved,if_pos (by simp)]
    exact ⟨s,q,_,holds,stored⟩
  | some done =>
    rw [programEntry_stopped parametersToken small]
    refine saved_of_error (by decide) ?_ fun complete => by simp [complete] at stop
    rcases harmless done stop with few | rest
    · exact .inl (room.interrupted quiet few)
    · rw [← program_append_blank _ _ rest,take_append_drop]
      exact .inr ⟨s,q,_,holds⟩

lemma eraseEntry_done : eraseEntry m p none = (2,program m (p+4) [0,0]) := by
  have written : bytes (program m (p+4) [0,0]) (p+4) 2 = [0,0] := by simp [bytes,List.range,List.range.loop,program]
  have zeros : encode 2 erasedFlag = [0,0] := rfl
  rw [eraseEntry,upProgmemWrite,zeros,elim_none]
  exact if_pos written

lemma eraseEntry_stopped (m : Image) (p done : Nat) : (eraseEntry m p (some done)).1 < 0 := by
  have result : (eraseEntry m p (some done)).1 = -eio := rfl
  rw [result]
  decide

section
variable (holds : Holds board strict m s p n)
include holds

lemma Holds.failed (done : Nat) : Tidy board strict (eraseEntry m p (some done)).2 := by
  have result : (eraseEntry m p (some done)).2 = program m (p+4) (List.take done [0,0]) := rfl
  rw [result]
  cases done with
  | zero =>
    rw [take_zero,program_nil]
    exact .inr ⟨s,p,n,holds⟩
  | succ done =>
    rw [take_succ_cons]
    exact .inl (holds.marked _ (by simp)).1

lemma Holds.checkFreeSpace (size : Nat) : board.checkFreeSpaceInSector m p size =
      some (if s.address ≤ p+n+size ∧ p+n+size ≤ s.address+s.size-1 then none else some s) := by
  obtain ⟨stop,_⟩ := last_eq holds.mapped
  have start := holds.used.le
  have below := holds.below
  have large := holds.whole.large
  have inside : s.Contains p := (contains_iff holds.mapped).mpr ⟨start,by omega⟩
  have magic : validMagic m p := beq_iff_eq.mpr holds.whole.magic
  rw [checkFreeSpaceInSector,getSectorInfo_eq holds.mapped inside,map_some,magic]
  simp only [if_true,nextEntry,holds.whole.size]

lemma Holds.behind (small : totalSize data.length < 2^16)
    (plain : strict → Plain data) (below : p+n+totalSize data.length ≤ s.last)
    (before : strict → p+n+totalSize data.length ≠ s.last)
    (harmless : board.Harmless data outcome.program) :
    Saved board strict data m outcome (board.updateBehind m p parametersToken data outcome) := by
  simp only [updateBehind]
  cases mark : outcome.mark with
  | none =>
    obtain ⟨quiet,ends⟩ := holds.marked [0] (by simp)
    have next : nextEntry (program m (p+4) [0,0]) p = p+n := by
      have large := holds.whole.large
      have same : Agree m (program m (p+4) [0,0]) (p+6) (p+n) := program_after (by simp)
      rw [nextEntry,entrySize,same.half (by omega) (by omega)]
      exact congrArg (p + ·) holds.whole.size
    rw [eraseEntry_done,if_neg (by simp),next]
    exact Room.saved ⟨holds.mapped,ends,below,before⟩ quiet small plain harmless m
  | some done =>
    rw [if_pos (eraseEntry_stopped m p done)]
    exact saved_of_error (eraseEntry_stopped m p done) (holds.failed done) fun complete => by simp [complete] at mark

end

lemma Quiet.cleared (quiet : Quiet board strict m) (mapped : t ∈ board.sectorMap) (large : 4 ≤ size)
    (checked : blankCheck m t.address size) : EndsAt board strict m t t.address := by
  obtain ⟨e,ends⟩ := quiet t mapped
  rw [blankCheck,all_eq_true] at checked
  have blank := beq_iff_eq.mp (checked 0 (mem_range.mpr (by omega)))
  rw [Nat.mul_zero,Nat.add_zero] at blank
  have here := ends.used.eq_of_blank blank
  exact here ▸ ends

lemma eraseSector_done (mapped : t ∈ board.sectorMap) :
    board.eraseSector m t.address t none = (0,erase m t.address t.size) := by
  obtain ⟨page,positive⟩ := board.paged t mapped
  rw [eraseSector,if_pos ⟨by omega,page⟩]
  rfl

lemma Quiet.erased (quiet : Quiet board strict m) (mapped : t ∈ board.sectorMap) :
    Quiet board strict (erase m t.address t.size) ∧ EndsAt board strict (erase m t.address t.size) t t.address := by
  obtain ⟨_,room,_⟩ := last_eq mapped
  have ends : EndsAt board strict (erase m t.address t.size) t t.address :=
    ⟨.nil _,by omega,fun _ => by omega,blank_erase _ _ _⟩
  refine ⟨fun u other => ?_,ends⟩
  by_cases same : u = t
  · exact ⟨t.address,same ▸ ends⟩
  · obtain ⟨e,ends⟩ := quiet u other
    exact ⟨e,ends.congr other (erase_apart mapped other same)⟩

lemma Holds.into (holds : Holds board strict m s p n) (mapped : t ∈ board.sectorMap)
    (small : totalSize data.length < 2^16) (plain : strict → Plain data)
    (below : t.address+totalSize data.length ≤ t.last)
    (before : strict → t.address+totalSize data.length ≠ t.last)
    (erases : outcome.erase = none) (harmless : board.Harmless data outcome.program) :
    Saved board strict data m outcome (board.updateInto m p t parametersToken data outcome) := by
  obtain ⟨total,_,_⟩ := totalSize_eq data.length
  simp only [updateInto]
  cases mark : outcome.mark with
  | none =>
    obtain ⟨quiet,_⟩ := holds.marked [0] (by simp)
    rw [eraseEntry_done,if_neg (by simp),erases,eraseSector_done mapped]
    split
    next checked =>
      exact Room.saved ⟨mapped,quiet.cleared mapped (by omega) checked,below,before⟩ quiet small plain harmless m
    · obtain ⟨quiet,ends⟩ := quiet.erased mapped
      exact Room.saved ⟨mapped,ends,below,before⟩ quiet small plain harmless m
  | some done =>
    rw [if_pos (eraseEntry_stopped m p done)]
    exact saved_of_error (eraseEntry_stopped m p done) (holds.failed done) fun complete => by simp [complete] at mark

def Fits (board : FlashBoard) (data : List Byte) : Prop :=
  totalSize data.length < 2^16 ∧ ∀ s ∈ board.sectorMap, totalSize data.length < s.size

lemma Fits.start (fits : board.Fits data) (mapped : t ∈ board.sectorMap) :
    t.address+totalSize data.length ≤ t.last := by
  obtain ⟨_,size,_⟩ := board.aligned t mapped
  obtain ⟨_,words,_⟩ := totalSize_eq data.length
  have smaller := fits.2 t mapped
  rw [SectorDescriptor.last]
  omega

lemma Holds.write (holds : Holds board strict m s p n) (fits : board.Fits data) (plain : strict → Plain data)
    (clear : strict → p+n+totalSize data.length ≠ s.last ∧
      ∀ t ∈ board.sectorMap, t.address+totalSize data.length ≠ t.last)
    (erases : outcome.erase = none) (harmless : board.Harmless data outcome.program) :
    ∃ result, board.parameterFlashfsWrite m parametersToken data outcome = some result ∧
      Saved board strict data m outcome result := by
  obtain ⟨start,words,_⟩ := board.aligned s holds.mapped
  obtain ⟨stop,_,aligned,_⟩ := last_eq holds.mapped
  obtain ⟨_,words',_⟩ := totalSize_eq data.length
  have place := holds.used.aligned
  have first := holds.used.le
  have entry := holds.whole.aligned
  rw [parameterFlashfsWrite,holds.findEntry,bind_some,elim_some,holds.checkFreeSpace,bind_some]
  split
  next room =>
    refine ⟨_,rfl,holds.behind fits.1 plain ?_ (fun strict => (clear strict).1) harmless⟩
    simp only [SectorDescriptor.stop] at stop
    omega
  · obtain ⟨t,mapped,next⟩ := getNextSectorDescriptor_mem holds.mapped
    have smaller := fits.2 t mapped
    rw [elim_some,next,map_some,if_neg (by omega)]
    exact ⟨_,rfl,holds.into mapped fits.1 plain (fits.start mapped) (fun strict => (clear strict).2 t mapped) erases
      harmless⟩

lemma write_free (absent : board.findEntry m token = some none)
    (found : board.findFree m (totalSize data.length) = some (some q)) (outcome : FlashOutcome) :
    board.parameterFlashfsWrite m token data outcome = some (board.programEntry m q token data outcome.program) := by
  rw [parameterFlashfsWrite,absent,bind_some,elim_none,found]
  rfl

lemma write_full (absent : board.findEntry m token = some none)
    (found : board.findFree m (totalSize data.length) = some none) (outcome : FlashOutcome) :
    board.parameterFlashfsWrite m token data outcome = some (-enospc,m) := by
  rw [parameterFlashfsWrite,absent,bind_some,elim_none,found]
  rfl

lemma Quiet.write (quiet : Quiet board true m) (fits : board.Fits data) (plain : Plain data)
    (clear : ∀ pf, board.findFree m (totalSize data.length) = some (some pf) →
      ∀ s ∈ board.sectorMap, s.Contains pf → pf+totalSize data.length < s.last)
    (harmless : board.Harmless data outcome.program) :
    ∃ result, board.parameterFlashfsWrite m parametersToken data outcome = some result ∧
      Saved board true data m outcome result := by
  obtain ⟨total,words,_⟩ := totalSize_eq data.length
  obtain ⟨found,search,_⟩ := quiet.findFree words
  have absent := quiet.findEntry parametersToken
  cases found with
  | none => exact ⟨_,write_full absent search outcome,saved_of_error (by decide) (.inl quiet) fun _ => rfl⟩
  | some q =>
    refine ⟨_,write_free absent search outcome,?_⟩
    obtain ⟨s,mapped,ends,below⟩ := quiet.place words (by omega) fits.1 search (clear q search)
    exact Room.saved ⟨mapped,ends,by omega,fun _ => by omega⟩ quiet fits.1 (fun _ => plain) harmless m

lemma erased_write (erased : board.Erased m) (fits : board.Fits data) (harmless : board.Harmless data outcome.program) :
    ∃ result, board.parameterFlashfsWrite m parametersToken data outcome = some result ∧
      Saved board false data m outcome result := by
  obtain ⟨total,words,_⟩ := totalSize_eq data.length
  have quiet := quiet_of_erased false erased
  obtain ⟨found,search,_⟩ := (quiet_of_erased true erased).findFree words
  have absent := quiet.findEntry parametersToken
  cases found with
  | none => exact ⟨_,write_full absent search outcome,saved_of_error (by decide) (.inl quiet) fun _ => rfl⟩
  | some q =>
    refine ⟨_,write_free absent search outcome,?_⟩
    obtain ⟨s,mapped,rfl,ends⟩ := erased_place erased words (by omega) fits.1
      (fun s mapped => (fits.2 s mapped).le) search
    exact Room.saved ⟨mapped,ends,fits.start mapped,by simp⟩ quiet fits.1 (by simp) harmless m

lemma Holds.read (holds : Holds board strict m s p n) (stored : Stored board m p data)
    (small : totalSize data.length < 2^16) :
    board.parameterFlashfsRead m parametersToken = some (some (p+16,data)) := by
  rw [parameterFlashfsRead,holds.findEntry,map_some,map_some,entryData,headerSize,stored.length small,
    stored.contents]

lemma blank_eraseAll (sectors : List SectorDescriptor) (blank : Blank m a b) :
    Blank (sectors.foldl (fun m s => (board.eraseSector m s.address s none).2) m) a b := by
  induction sectors generalizing m with
  | nil => exact blank
  | cons s rest ih =>
    apply ih
    intro c low high
    simp only [eraseSector]
    split
    · simp only [elim_none,erase]
      split
      · rfl
      · exact blank c low high
    · exact blank c low high

lemma erased_erase (m : Image) : board.Erased (board.parameterFlashfsErase m) := by
  have all (sectors : List SectorDescriptor) (part : ∀ s ∈ sectors, s ∈ board.sectorMap) (m : Image) :
      ∀ s ∈ sectors, Blank (sectors.foldl (fun m s => (board.eraseSector m s.address s none).2) m) s.address s.stop := by
    induction sectors generalizing m with
    | nil => simp
    | cons t rest ih =>
      intro s member
      rw [foldl_cons]
      rcases mem_cons.mp member with rfl | member
      · rw [eraseSector_done (part s mem_cons_self)]
        exact blank_eraseAll rest (blank_erase _ _ _)
      · exact ih (fun u inside => part u (mem_cons_of_mem _ inside)) _ s member
  exact all board.sectorMap (fun _ member => member) m

lemma Quiet.init (quiet : Quiet board true m) (size : Nat) :
    ∃ m', board.parameterFlashfsInit m size = some m' ∧ (m' = m ∨ board.Erased m') := by
  obtain ⟨_,words,_⟩ := totalSize_eq size
  obtain ⟨found,search,_⟩ := quiet.findFree words
  rw [parameterFlashfsInit,quiet.findEntry,bind_some,elim_none,search,map_some]
  cases found with
  | none => exact ⟨_,rfl,.inr (erased_erase m)⟩
  | some pf => exact ⟨_,rfl,.inl rfl⟩

lemma Holds.init (holds : Holds board strict m s p n) (size : Nat) : board.parameterFlashfsInit m size = some m := by
  rw [parameterFlashfsInit,holds.findEntry,bind_some,elim_some]

def Uninterrupted (board : FlashBoard) : FlashStep → Prop
  | .init _ => True
  | .write token data outcome => token = parametersToken ∧ board.Fits data ∧ outcome = ⟨none,none,none⟩

/-- The entry ends before the last word of its sector, behind the entry in use or at the start of a sector. -/
structure EndsBefore (board : FlashBoard) (m : Image) (size : Nat) : Prop where
  behind : ∀ pf, board.findEntry m parametersToken = some (some pf) → ∀ s ∈ board.sectorMap, s.Contains pf →
    nextEntry m pf+size ≠ s.last
  free : board.findEntry m parametersToken = some none → ∀ pf, board.findFree m size = some (some pf) →
    ∀ s ∈ board.sectorMap, s.Contains pf → pf+size < s.last
  start : ∀ s ∈ board.sectorMap, s.address+size ≠ s.last

/-- Programming is not interrupted behind the magic word, and the data look like no entry or free space. -/
def Survivable (board : FlashBoard) (m : Image) : FlashStep → Prop
  | .init _ => True
  | .write token data outcome => token = parametersToken ∧ board.Fits data ∧ outcome.erase = none ∧
      board.Harmless data outcome.program ∧ Plain data ∧ board.EndsBefore m (totalSize data.length)

def ReadsBack (board : FlashBoard) (m : Image) : FlashStep → Prop
  | .init size => ∃ m', board.parameterFlashfsInit m size = some m'
  | .write token data outcome => ∃ r m', board.parameterFlashfsWrite m token data outcome = some (r,m') ∧
      (0 ≤ r → ∃ address, board.parameterFlashfsRead m' token = some (some (address,data)))

lemma Saved.readsBack (saved : Saved board strict data m outcome result) (small : totalSize data.length < 2^16)
    (returned : board.parameterFlashfsWrite m parametersToken data outcome = some result) :
    board.ReadsBack m (.write parametersToken data outcome) := by
  refine ⟨result.1,result.2,returned,fun success => ?_⟩
  rw [Saved,if_pos success] at saved
  obtain ⟨s,p,n,holds,stored⟩ := saved
  exact ⟨p+16,holds.read stored small⟩

lemma Saved.tidy (saved : Saved board strict data m outcome result) : Tidy board strict result.2 := by
  rw [Saved] at saved
  split at saved
  · obtain ⟨s,p,n,holds,_⟩ := saved
    exact .inr ⟨s,p,n,holds⟩
  · exact saved.1

lemma step_write (returned : board.parameterFlashfsWrite m token data outcome = some result) :
    board.step m (.write token data outcome) = result.2 := by
  rw [step,returned]
  rfl

lemma uninterrupted_step (state : board.Erased m ∨ ∃ s p n, Holds board false m s p n) {step : FlashStep}
    (whole : board.Uninterrupted step) :
    board.ReadsBack m step ∧
      (board.Erased (board.step m step) ∨ ∃ s p n, Holds board false (board.step m step) s p n) := by
  cases step with
  | init size =>
    rcases state with erased | ⟨s,p,n,holds⟩
    · obtain ⟨m',returned,kept⟩ := (quiet_of_erased true erased).init size
      refine ⟨⟨m',returned⟩,.inl ?_⟩
      rw [step,returned,getD_some]
      rcases kept with rfl | erased'
      · exact erased
      · exact erased'
    · rw [step,holds.init size]
      exact ⟨⟨m,holds.init size⟩,.inr ⟨s,p,n,holds⟩⟩
  | write token data outcome =>
    obtain ⟨rfl,fits,rfl⟩ := whole
    have harmless : board.Harmless data none := fun done stopped => by cases stopped
    obtain ⟨result,returned,saved⟩ : ∃ result,
        board.parameterFlashfsWrite m parametersToken data ⟨none,none,none⟩ = some result ∧
          Saved board false data m ⟨none,none,none⟩ result := by
      rcases state with erased | ⟨s,p,n,holds⟩
      · exact erased_write erased fits harmless
      · exact holds.write fits (by simp) (by simp) rfl harmless
    refine ⟨saved.readsBack fits.1 returned,?_⟩
    rw [step_write returned]
    rw [Saved] at saved
    split at saved
    · obtain ⟨s,p,n,holds,_⟩ := saved
      exact .inr ⟨s,p,n,holds⟩
    · rw [saved.2 rfl]
      exact state

lemma survivable_step (tidy : Tidy board true m) {step : FlashStep} (survivable : board.Survivable m step) :
    board.ReadsBack m step ∧ Tidy board true (board.step m step) := by
  cases step with
  | init size =>
    rcases tidy with quiet | ⟨s,p,n,holds⟩
    · obtain ⟨m',returned,kept⟩ := quiet.init size
      refine ⟨⟨m',returned⟩,.inl ?_⟩
      rw [step,returned,getD_some]
      rcases kept with rfl | erased
      · exact quiet
      · exact quiet_of_erased true erased
    · rw [step,holds.init size]
      exact ⟨⟨m,holds.init size⟩,.inr ⟨s,p,n,holds⟩⟩
  | write token data outcome =>
    obtain ⟨rfl,fits,erases,harmless,plain,clear⟩ := survivable
    obtain ⟨result,returned,saved⟩ : ∃ result,
        board.parameterFlashfsWrite m parametersToken data outcome = some result ∧
          Saved board true data m outcome result := by
      rcases tidy with quiet | ⟨s,p,n,holds⟩
      · exact quiet.write fits plain (clear.free (quiet.findEntry parametersToken)) harmless
      refine holds.write fits (fun _ => plain) (fun _ => ⟨?_,clear.start⟩) erases harmless
      obtain ⟨stop,_⟩ := last_eq holds.mapped
      have large := holds.whole.large
      have below := holds.below
      have inside := (contains_iff holds.mapped).mpr ⟨holds.used.le,(by omega : p < s.stop)⟩
      have behind := clear.behind p holds.findEntry s holds.mapped inside
      rwa [nextEntry,holds.whole.size] at behind
    refine ⟨saved.readsBack fits.1 returned,?_⟩
    rw [step_write returned]
    exact saved.tidy

/-- Every history from erased flash: each save that reports success is read back. -/
theorem reads_back (board : FlashBoard) (m : Image) (erased : board.Erased m) (steps : List FlashStep)
    (admitted : (∀ step ∈ steps, board.Uninterrupted step) ∨ Along board.step board.Survivable m steps) :
    Along board.step board.ReadsBack m steps := by
  rcases admitted with whole | survivable
  · have along : Along board.step (fun _ step => board.Uninterrupted step) m steps :=
      along_of_mem (fun step member _ => whole step member) m
    exact along_of_invariant (fun m => board.Erased m ∨ ∃ s p n, Holds board false m s p n)
      (fun m step whole state => (uninterrupted_step state whole).2)
      (fun m step whole state => (uninterrupted_step state whole).1) along (.inl erased)
  · exact along_of_invariant (Tidy board true) (fun m step survivable tidy => (survivable_step tidy survivable).2)
      (fun m step survivable tidy => (survivable_step tidy survivable).1) survivable
      (.inl (quiet_of_erased true erased))

def crc32Nuttx (data : List Byte) : BitVec 32 :=
  data.foldl (fun crc b => (List.range 8).foldl
    (fun crc _ => if crc.getLsbD 0 then (crc >>> 1) ^^^ 0xedb88320 else crc >>> 1) (crc ^^^ b.setWidth 32)) 0

def canFlow : FlashBoard where
  sectorMap := [⟨2,16 * 1024,0x08008000⟩,⟨3,16 * 1024,0x0800c000⟩]
  crc32 := crc32Nuttx
  getpage a := ((a - 0x08000000) / 0x4000 : Nat)
  nonempty := by simp
  paged := by decide
  aligned := by decide
  disjoint := by decide

def blankImage : Image := fun _ => 0xff

lemma blank_blankImage (a b : Nat) : Blank blankImage a b := fun _ _ _ => rfl

lemma erased_blankImage : canFlow.Erased blankImage := fun _ _ => blank_blankImage _ _

lemma first_save (stop : Option Nat) :
    canFlow.parameterFlashfsWrite blankImage parametersToken [1,2,3,4] ⟨none,none,stop⟩ =
      some (canFlow.programEntry blankImage 0x08008000 parametersToken [1,2,3,4] stop) := by
  have absent := (quiet_of_erased true erased_blankImage).findEntry parametersToken
  exact write_free absent (by decide +kernel) ⟨none,none,stop⟩

lemma fits_canFlow {data : List Byte} (small : totalSize data.length < 16 * 1024) : canFlow.Fits data := by
  refine ⟨by omega,fun s mapped => ?_⟩
  have both : s = ⟨2,16 * 1024,0x08008000⟩ ∨ s = ⟨3,16 * 1024,0x0800c000⟩ := by
    rcases mem_cons.mp mapped with first | rest
    · exact .inl first
    · exact .inr (mem_singleton.mp rest)
  rcases both with rfl | rfl
  · exact small
  · exact small

def savedImage : Image := program blankImage 0x08008000 (canFlow.entryBytes parametersToken [1,2,3,4])

lemma step_first_save : canFlow.step blankImage (.write parametersToken [1,2,3,4] ⟨none,none,none⟩) = savedImage := by
  rw [step_write (first_save none),programEntry_done _ (by decide) (blank_blankImage _ _)]
  rfl

lemma findEntry_savedImage : canFlow.findEntry savedImage parametersToken = some (some 0x08008000) := by
  decide +kernel

theorem reads_back_before_cut : Along canFlow.step canFlow.ReadsBack blankImage
    [.write parametersToken [1,2,3,4] ⟨none,none,none⟩,.write parametersToken [5,6,7,8] ⟨none,none,some 2⟩] := by
  refine reads_back canFlow blankImage erased_blankImage _ (.inr ⟨?_,?_,trivial⟩)
  · refine ⟨rfl,fits_canFlow (by decide),rfl,?_,?_,⟨?_,?_,by decide⟩⟩
    · intro done stopped
      cases stopped
    · intro o aligned inside
      obtain rfl : o = 0 := by simp at inside; omega
      decide
    · intro pf found
      rw [(quiet_of_erased true erased_blankImage).findEntry parametersToken] at found
      cases found
    · intro _ pf found
      have place : canFlow.findFree blankImage (totalSize ([1,2,3,4] : List Byte).length) = some (some 0x08008000) := by
        decide +kernel
      cases place.symm.trans found
      decide
  · rw [step_first_save]
    have next : nextEntry savedImage 0x08008000 = 0x08008014 := by decide +kernel
    refine ⟨rfl,fits_canFlow (by decide),rfl,?_,?_,⟨?_,?_,by decide⟩⟩
    · intro done stopped
      cases stopped
      exact .inl (by decide)
    · intro o aligned inside
      obtain rfl : o = 0 := by simp at inside; omega
      decide
    · intro pf found
      cases findEntry_savedImage.symm.trans found
      rw [next]
      decide
    · intro absent
      cases findEntry_savedImage.symm.trans absent

def cutImage : Image := program blankImage 0x08008000 ((canFlow.entryBytes parametersToken [1,2,3,4]).take 16)

def hiddenImage : Image := program cutImage 0x08008010 (canFlow.entryBytes parametersToken [5,6,7,8])

lemma findEntry_of_cut (blank : Blank image 0x0800c000 0x0800fffc)
    (first : canFlow.findEntryLoop image parametersToken scanBound 0x08008000 0x0800bffc = some none) :
    canFlow.findEntry image parametersToken = some none := by
  have second : canFlow.findEntryLoop image parametersToken scanBound 0x0800c000 0x0800fffc = some none :=
    scan_blank _ blank (by decide) (by decide) (by decide)
  have unfolded : canFlow.findEntry image parametersToken =
      (canFlow.findEntryLoop image parametersToken scanBound 0x08008000 0x0800bffc).bind fun found => found.elim
        ((canFlow.findEntryLoop image parametersToken scanBound 0x0800c000 0x0800fffc).bind fun found =>
          found.elim (some none) fun pf => some (some pf)) fun pf => some (some pf) := rfl
  rw [unfolded,first,second]
  rfl

/-- The next save goes behind the header, where no scan comes. -/
theorem cut_entry_hides : canFlow.Erased blankImage ∧ ¬ Along canFlow.step canFlow.ReadsBack blankImage
    [.write parametersToken [1,2,3,4] ⟨none,none,some 16⟩,.write parametersToken [5,6,7,8] ⟨none,none,none⟩] := by
  refine ⟨erased_blankImage,fun along => ?_⟩
  have cut : canFlow.step blankImage (.write parametersToken [1,2,3,4] ⟨none,none,some 16⟩) = cutImage := by
    rw [step_write (first_save (some 16)),programEntry_stopped _ (by decide)]
    rfl
  have second := along.2.1
  rw [cut] at second
  obtain ⟨r,m',returned,reads⟩ := second
  have blank (a b : Nat) (behind : 0x08008010 ≤ a) : Blank cutImage a b :=
    Agree.blank (program_after behind) (blank_blankImage a b)
  have absent := findEntry_of_cut (blank 0x0800c000 0x0800fffc (by decide)) (by decide +kernel)
  have found : canFlow.findFree cutImage (totalSize ([5,6,7,8] : List Byte).length) = some (some 0x08008010) := by decide +kernel
  have saved : canFlow.parameterFlashfsWrite cutImage parametersToken [5,6,7,8] ⟨none,none,none⟩ =
      some (4,hiddenImage) := by
    rw [write_free absent found,programEntry_done _ (by decide) (blank _ _ le_rfl)]
    rfl
  rw [saved,Option.some_inj,Prod.mk.injEq] at returned
  obtain ⟨address,read⟩ := reads (returned.1 ▸ by decide)
  rw [← returned.2] at read
  have still : Blank hiddenImage 0x0800c000 0x0800fffc :=
    Agree.blank (program_after (by decide)) (blank 0x0800c000 0x0800fffc (by decide))
  have hidden := findEntry_of_cut still (by decide +kernel)
  have nothing : canFlow.parameterFlashfsRead hiddenImage parametersToken = some none := by
    rw [parameterFlashfsRead,hidden]
    rfl
  rw [nothing] at read
  cases read

end FlashBoard
end AerialManipulator
