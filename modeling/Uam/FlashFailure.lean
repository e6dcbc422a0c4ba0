import Uam.FlashHistory

/-! What is read after a save that failed. The entry in use is marked as erased before the new one is written. -/
namespace AerialManipulator
open Bytes Flash Option

namespace FlashBoard
variable {board : FlashBoard} {m m' : Image} {pf token : Nat} {data : List Byte}

lemma findEntryLoop_valid (found : board.findEntryLoop m token fuel pmagic pe = some (some pf)) : validEntry m pf := by
  induction fuel generalizing pmagic with
  | zero => cases found
  | succ fuel ih =>
    rw [findEntryLoop] at found
    split at found
    · cases found
    split at found
    · split at found
      · split at found
        next good =>
          cases found
          exact (Bool.and_eq_true _ _ ▸ good).1
        · split at found
          · cases found
          · exact ih found
      · cases found
    · exact ih found

lemma findEntry_valid (found : board.findEntry m token = some (some pf)) : validEntry m pf := by
  rw [findEntry] at found
  generalize board.sectorMap = sectors at found
  induction sectors with
  | nil => cases found
  | cons s rest ih =>
    rw [List.foldr_cons] at found
    cases loop : board.findEntryLoop m token scanBound s.address s.last with
    | none =>
      rw [loop] at found
      cases found
    | some here =>
      rw [loop,bind_some] at found
      cases here with
      | none => exact ih found
      | some pf' =>
        cases found
        exact findEntryLoop_valid loop

lemma read_ne (held : board.findEntry m token = some (some pf)) (low : m' (pf+4) = 0 ∨ m' (pf+4) = 0xff) :
    board.parameterFlashfsRead m' token ≠ board.parameterFlashfsRead m token := by
  intro same
  rw [parameterFlashfsRead,parameterFlashfsRead,held,map_some,map_some,map_eq_some_iff] at same
  obtain ⟨found,search,same⟩ := same
  rw [map_eq_some_iff] at same
  obtain ⟨pf',rfl,same⟩ := same
  have address : pf'+headerSize = pf+headerSize := congrArg Prod.fst same
  obtain rfl : pf' = pf := by omega
  have valid := findEntry_valid search
  rw [validEntry,flag,half_eq,beq_iff_eq,validFlag] at valid
  have byte : (m' (pf'+4)).toNat = 0 ∨ (m' (pf'+4)).toNat = 0xff :=
    low.imp (fun zero => by rw [zero]; rfl) (fun blank => by rw [blank]; rfl)
  omega

def HasRoom (board : FlashBoard) (m : Image) (pf size : Nat) : Prop :=
  board.checkFreeSpaceInSector m pf size = some none ∨
    ∃ sm next, board.checkFreeSpaceInSector m pf size = some (some sm) ∧
      board.getNextSectorDescriptor sm = some next ∧ size ≤ next.size

lemma eraseEntry_nothing : eraseEntry m pf (some 0) = (-eio,m) := by
  have result : eraseEntry m pf (some 0) = (-eio,program m (pf+4) []) := rfl
  rw [result,program_nil]

lemma programEntry_nothing (q : Nat) : board.programEntry m q token data (some 0) = (-eio,m) := by
  simp only [programEntry,upProgmemWrite,elim_some,List.take_zero,program_nil]
  rw [if_neg]
  rw [eio]
  omega

variable {mark : Option Nat}

lemma behind_loses (board : FlashBoard) (m : Image) (pf token : Nat) (data : List Byte) (marks : mark ≠ some 0) :
    let result := board.updateBehind m pf token data ⟨mark,none,some 0⟩
    result.1 < 0 ∧ result.2 (pf+4) = 0 := by
  have negative : -eio < 0 := by decide
  simp only [updateBehind]
  cases mark with
  | none =>
    rw [eraseEntry_done,if_neg (by simp),programEntry_nothing]
    exact ⟨negative,marked_flag _⟩
  | some done =>
    cases done with
    | zero => exact absurd rfl marks
    | succ done =>
      rw [if_pos (eraseEntry_stopped m pf _)]
      exact ⟨eraseEntry_stopped m pf _,marked_flag _⟩

lemma into_loses (board : FlashBoard) (m : Image) (pf token : Nat) (data : List Byte)
    (marks : mark ≠ some 0) (next : SectorDescriptor) :
    let result := board.updateInto m pf next token data ⟨mark,none,some 0⟩
    result.1 < 0 ∧ (result.2 (pf+4) = 0 ∨ result.2 (pf+4) = 0xff) := by
  have negative : -eio < 0 := by decide
  simp only [updateInto]
  cases mark with
  | none =>
    rw [eraseEntry_done,if_neg (by simp)]
    split
    · rw [programEntry_nothing]
      exact ⟨negative,.inl (marked_flag _)⟩
    rw [programEntry_nothing]
    refine ⟨negative,?_⟩
    simp only [eraseSector]
    split
    · simp only [elim_none,erase]
      split
      · exact .inr rfl
      · exact .inl (marked_flag _)
    · exact .inl (marked_flag _)
  | some done =>
    cases done with
    | zero => exact absurd rfl marks
    | succ done =>
      rw [if_pos (eraseEntry_stopped m pf _)]
      exact ⟨eraseEntry_stopped m pf _,.inl (marked_flag _)⟩

section
variable (held : board.findEntry m token = some (some pf))
include held

lemma write_held (outcome : FlashOutcome) : board.parameterFlashfsWrite m token data outcome =
      (board.checkFreeSpaceInSector m pf (totalSize data.length)).bind fun full => full.elim
        (some (board.updateBehind m pf token data outcome))
        fun sm => (board.getNextSectorDescriptor sm).map fun next =>
          if next.size < totalSize data.length then (-enospc,m)
          else board.updateInto m pf next token data outcome := by
  rw [parameterFlashfsWrite,held]
  rfl

lemma failure_loses (room : board.HasRoom m pf (totalSize data.length)) (marks : mark ≠ some 0) :
    ∃ r m', board.parameterFlashfsWrite m token data ⟨mark,none,some 0⟩ = some (r,m') ∧ r < 0 ∧
      board.parameterFlashfsRead m' token ≠ board.parameterFlashfsRead m token := by
  rcases room with behind | ⟨sm,next,full,there,fits⟩
  · obtain ⟨negative,low⟩ := behind_loses board m pf token data marks
    refine ⟨_,_,?_,negative,read_ne held (.inl low)⟩
    rw [write_held held,behind]
    rfl
  · obtain ⟨negative,low⟩ := into_loses board m pf token data marks next
    refine ⟨_,_,?_,negative,read_ne held low⟩
    rw [write_held held,full,bind_some,elim_some,there,map_some,if_neg (by omega)]

lemma failure_keeps {outcome : FlashOutcome}
    (kept : board.HasRoom m pf (totalSize data.length) → outcome.mark = some 0) {r : Int}
    (returned : board.parameterFlashfsWrite m token data outcome = some (r,m')) : m' = m := by
  have negative : -eio < 0 := by decide
  rw [write_held held,bind_eq_some_iff] at returned
  obtain ⟨full,checked,returned⟩ := returned
  cases full with
  | none =>
    have mark := kept (.inl checked)
    rw [elim_none,some_inj,updateBehind,mark,eraseEntry_nothing,if_pos negative] at returned
    exact (Prod.mk.inj returned).2.symm
  | some sm =>
    rw [elim_some,map_eq_some_iff] at returned
    obtain ⟨next,there,returned⟩ := returned
    split at returned
    · exact (Prod.mk.inj returned).2.symm
    · have mark := kept (.inr ⟨sm,next,checked,there,by omega⟩)
      rw [updateInto,mark,eraseEntry_nothing,if_pos negative] at returned
      exact (Prod.mk.inj returned).2.symm

end

/-- Every failure leaves the stored data if there is no room anyway or the entry in use could not be marked. -/
theorem failure_atomic_iff (board : FlashBoard) (m : Image) (token pf : Nat) (data : List Byte) (mark : Option Nat)
    (held : board.findEntry m token = some (some pf)) :
    (∀ erase program r m', board.parameterFlashfsWrite m token data ⟨mark,erase,program⟩ = some (r,m') → r < 0 →
        board.parameterFlashfsRead m' token = board.parameterFlashfsRead m token) ↔
      (board.HasRoom m pf (totalSize data.length) → mark = some 0) := by
  constructor
  · intro atomic room
    by_contra marks
    obtain ⟨r,m',returned,negative,lost⟩ := failure_loses held room marks
    exact lost (atomic none (some 0) r m' returned negative)
  · intro kept erase program r m' returned negative
    rw [failure_keeps held kept returned]

theorem failure_atomic_when_unmarked : canFlow.findEntry savedImage parametersToken = some (some 0x08008000) ∧
      ∀ erase program r m', canFlow.parameterFlashfsWrite savedImage parametersToken [5,6,7,8] ⟨some 0,erase,program⟩ =
        some (r,m') → r < 0 →
          canFlow.parameterFlashfsRead m' parametersToken = canFlow.parameterFlashfsRead savedImage parametersToken :=
  ⟨findEntry_savedImage,
    (failure_atomic_iff canFlow savedImage parametersToken 0x08008000 [5,6,7,8] (some 0) findEntry_savedImage).mpr
      fun _ => rfl⟩

theorem failure_loses_first_save :
    canFlow.parameterFlashfsRead (canFlow.step blankImage (.write parametersToken [1,2,3,4] ⟨none,none,none⟩))
        parametersToken = some (some (0x08008010,[1,2,3,4])) ∧
      ∃ m', canFlow.parameterFlashfsWrite (canFlow.step blankImage (.write parametersToken [1,2,3,4] ⟨none,none,none⟩))
          parametersToken [5,6,7,8] ⟨none,none,some 0⟩ = some (-eio,m') ∧
        canFlow.parameterFlashfsRead m' parametersToken = some none := by
  rw [step_first_save]
  refine ⟨?_,program savedImage 0x08008004 [0,0],?_,?_⟩
  · rw [parameterFlashfsRead,findEntry_savedImage]
    decide +kernel
  · have behind : canFlow.checkFreeSpaceInSector savedImage 0x08008000 (totalSize ([5,6,7,8] : List Byte).length) =
        some none := by decide +kernel
    rw [write_held findEntry_savedImage,behind]
    simp only [Option.bind_some,Option.elim_none,updateBehind,eraseEntry_done,programEntry_nothing]
    rfl
  · have blank : Blank (program savedImage 0x08008004 [0,0]) 0x0800c000 0x0800fffc :=
      Agree.blank (program_after (by decide)) (Agree.blank (program_after (by decide)) (blank_blankImage _ _))
    have absent := findEntry_of_cut blank (by decide +kernel)
    rw [parameterFlashfsRead,absent]
    rfl

end FlashBoard
end AerialManipulator
