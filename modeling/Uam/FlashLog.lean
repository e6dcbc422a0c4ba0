import Uam.FlashFs
import Uam.Library.Runs

/-! The log that the scans find again. A sector in order has marked entries and words that are
neither blank nor magic, then the entry in use, if any, and blank rest. -/
namespace AerialManipulator
open Bytes Flash List

def PlainAt (m : Image) (p n : Nat) : Prop :=
  ∀ o, 4 ∣ o → 16 ≤ o → o < n → word m (p + o) ≠ magicSig ∧ ¬ Blank m (p + o) (p + min (o + 16) n)

namespace FlashBoard
variable {board : FlashBoard} {strict : Bool} {m : Image} {p q e n : Nat}

/-- A whole entry of `n` bytes. Its data only matter if `strict`. -/
structure Whole (board : FlashBoard) (strict : Bool) (m : Image) (p n : Nat) : Prop where
  magic : word m p = magicSig
  size : entrySize m p = n
  crc : board.crcMatches m p = true
  token : entryToken m p = parametersToken
  large : 16 ≤ n
  aligned : 4 ∣ n
  small : n < 2^16
  mark : m (p+4) ≠ 0xc3 ∧ m (p+4) ≠ 0xff
  plain : strict = true → PlainAt m p n

inductive Used (board : FlashBoard) (strict : Bool) (m : Image) : Nat → Nat → Prop
  | nil (p : Nat) : Used board strict m p p
  | entry {p n e : Nat} (whole : Whole board strict m p n) (erased : validEntry m p = false)
      (rest : Used board strict m (p+n) e) : Used board strict m p e
  | scrap {p e : Nat} (other : word m p ≠ magicSig) (written : word m p ≠ blankSig)
      (rest : Used board strict m (p+4) e) : Used board strict m p e

lemma entryCrcLength_eq (size : entrySize m p = n) (large : 16 ≤ n) (small : n < 2^16) : entryCrcLength m p = n-10 := by
  rw [entryCrcLength,size,sizeOffset]
  omega

lemma Whole.frame (whole : Whole board strict m p n) (head : Agree m m' p (p+4))
    (tail : Agree m m' (p+6) (p+n)) (mark : m' (p+4) ≠ 0xc3 ∧ m' (p+4) ≠ 0xff) :
    Whole board strict m' p n := by
  have large := whole.large
  have size : entrySize m' p = n := (tail.half (by omega) (by omega)).trans whole.size
  refine ⟨(head.word le_rfl le_rfl).trans whole.magic,size,?_,?_,whole.large,whole.aligned,whole.small,mark,?_⟩
  · have crc := whole.crc
    rw [crcMatches,entryCrcLength_eq whole.size whole.large whole.small] at crc
    rw [crcMatches,entryCrcLength_eq size whole.large whole.small,tail.word (by omega) (by omega),sizeOffset,
      tail.bytes (by omega) (by omega)]
    exact crc
  · exact (tail.word (by omega) (by omega)).trans whole.token
  · intro strict o aligned behind inside
    obtain ⟨other,written⟩ := whole.plain strict o aligned behind inside
    have whole4 : o+4 ≤ n := by have := whole.aligned; omega
    refine ⟨by rwa [tail.word (by omega) (by omega)],fun blank => written fun c low high => ?_⟩
    rw [← tail c (by omega) (by omega)]
    exact blank c low high

lemma Whole.congr (whole : Whole board strict m p n) (agree : Agree m m' p (p+n)) : Whole board strict m' p n := by
  have large := whole.large
  refine whole.frame (agree.mono le_rfl (by omega)) (agree.mono (by omega) le_rfl) ?_
  rw [agree (p+4) (by omega) (by omega)]
  exact whole.mark

lemma validEntry_congr (agree : Agree m m' p (p+n)) (large : 16 ≤ n) : validEntry m' p = validEntry m p := by
  rw [validEntry,validEntry,flag,flag,agree.half (by omega) (by omega)]

lemma Used.le (used : Used board strict m p e) : p ≤ e := by
  induction used with
  | nil => exact le_rfl
  | entry whole erased rest ih | scrap other written rest ih => omega

lemma Used.append (first : Used board strict m p q) (second : Used board strict m q e) : Used board strict m p e := by
  induction first with
  | nil => exact second
  | entry whole erased rest ih => exact .entry whole erased (ih second)
  | scrap other written rest ih => exact .scrap other written (ih second)

section
variable (used : Used board strict m p e)
include used

lemma Used.congr (agree : Agree m m' p e) : Used board strict m' p e := by
  induction used with
  | nil => exact .nil _
  | entry whole erased rest ih =>
    have := rest.le
    have same := agree.mono le_rfl this
    refine .entry (whole.congr same) ?_ (ih (agree.mono (by omega) le_rfl))
    rwa [validEntry_congr same whole.large]
  | scrap other written rest ih =>
    have := rest.le
    have same := agree.word le_rfl this
    exact .scrap (same ▸ other) (same ▸ written) (ih (agree.mono (by omega) le_rfl))

lemma Used.aligned : 4 ∣ e - p := by
  induction used with
  | nil => simp
  | entry whole erased rest ih =>
    have := rest.le
    have := whole.aligned
    omega
  | scrap other written rest ih =>
    have := rest.le
    omega

lemma Used.starts (stop : word m e ≠ blankSig) : word m p ≠ blankSig := by
  cases used with
  | nil => exact stop
  | entry whole erased rest => rw [whole.magic]; decide
  | scrap other written rest => exact written

lemma Used.eq_of_blank (blank : word m p = blankSig) : p = e := by
  cases used with
  | nil => rfl
  | entry whole erased rest => exact absurd (whole.magic.symm.trans blank) (by decide)
  | scrap other written rest => exact absurd blank written

end

variable {pe fuel need : Nat}

lemma findEntryLoop_scrap (other : word m p ≠ magicSig) (token fuel : Nat) (before : p ≠ pe) :
    board.findEntryLoop m token (fuel+1) p pe = board.findEntryLoop m token fuel (p+4) pe := by
  have other : validMagic m p = false := beq_false_of_ne other
  rw [findEntryLoop,if_neg before,other]
  rfl

lemma findEntryLoop_entry (whole : Whole board strict m p n) (erased : validEntry m p = false) (token fuel : Nat)
    (before : p ≠ pe) : board.findEntryLoop m token (fuel+1) p pe =
      if blankEntry m (p+n) then some none else board.findEntryLoop m token fuel (p+n) pe := by
  have magic : validMagic m p := beq_iff_eq.mpr whole.magic
  rw [findEntryLoop,if_neg before,magic,whole.crc,erased,nextEntry,whole.size]
  simp only [if_true,Bool.false_and,Bool.false_eq_true,if_false]

lemma scan_blank (token : Nat) (blank : Blank m p pe) (below : p ≤ pe) (aligned : 4 ∣ pe - p)
    (enough : (pe - p) / 4 < fuel) : board.findEntryLoop m token fuel p pe = some none := by
  induction fuel generalizing p with
  | zero => omega
  | succ fuel ih =>
    by_cases last : p = pe
    · rw [findEntryLoop,if_pos last]
    have other : word m p ≠ magicSig := by
      rw [blank_word blank le_rfl (by omega)]
      decide
    rw [findEntryLoop_scrap other token fuel last]
    exact ih (blank.mono (by omega) le_rfl) (by omega) (by omega) (by omega)

lemma scan_used (used : Used board strict m p e) (token : Nat) (below : e ≤ pe)
    (blank : Blank m e pe) (aligned : 4 ∣ pe - p) (enough : (pe - p) / 4 < fuel) :
    board.findEntryLoop m token fuel p pe = some none := by
  induction used generalizing fuel with
  | nil p => exact scan_blank token blank below aligned enough
  | @entry p n e whole erased rest ih =>
    obtain ⟨more,rfl⟩ : ∃ more, fuel = more+1 := ⟨fuel-1,by omega⟩
    have := rest.le
    have := whole.large
    have := whole.aligned
    rw [findEntryLoop_entry whole erased token more (by omega)]
    split
    · rfl
    · exact ih below blank (by omega) (by omega)
  | @scrap p e other written rest ih =>
    obtain ⟨more,rfl⟩ : ∃ more, fuel = more+1 := ⟨fuel-1,by omega⟩
    have := rest.le
    rw [findEntryLoop_scrap other token more (by omega)]
    exact ih below blank (by omega) (by omega)

lemma scan_found (used : Used board strict m p q) (whole : Whole board strict m q n)
    (valid : validEntry m q) (below : q < pe) (aligned : 4 ∣ pe - p) (enough : (pe - p) / 4 < fuel) :
    board.findEntryLoop m parametersToken fuel p pe = some (some q) := by
  induction used generalizing fuel with
  | nil p =>
    obtain ⟨more,rfl⟩ : ∃ more, fuel = more+1 := ⟨fuel-1,by omega⟩
    have magic : validMagic m p := beq_iff_eq.mpr whole.magic
    rw [findEntryLoop,if_neg (by omega),magic,whole.crc,valid,whole.token]
    rfl
  | @entry p n q first erased rest ih =>
    obtain ⟨more,rfl⟩ : ∃ more, fuel = more+1 := ⟨fuel-1,by omega⟩
    have := rest.le
    have := first.large
    have := first.aligned
    have next : blankEntry m (p+n) = false := by
      have written := rest.starts (by rw [whole.magic]; decide)
      rw [blankEntry,beq_false_of_ne written,Bool.false_and]
    rw [findEntryLoop_entry first erased parametersToken more (by omega),next]
    exact ih whole valid below (by omega) (by omega)
  | @scrap p q other written rest ih =>
    obtain ⟨more,rfl⟩ : ∃ more, fuel = more+1 := ⟨fuel-1,by omega⟩
    have := rest.le
    rw [findEntryLoop_scrap other parametersToken more (by omega)]
    exact ih whole valid below (by omega) (by omega)

structure EndsAt (board : FlashBoard) (strict : Bool) (m : Image) (s : SectorDescriptor) (e : Nat) : Prop where
  used : Used board strict m s.address e
  below : e ≤ s.last
  before : strict = true → e ≠ s.last
  blank : Blank m e s.stop

def Quiet (board : FlashBoard) (strict : Bool) (m : Image) : Prop :=
  ∀ s ∈ board.sectorMap, ∃ e, EndsAt board strict m s e

structure Holds (board : FlashBoard) (strict : Bool) (m : Image) (s : SectorDescriptor) (p n : Nat) : Prop where
  mapped : s ∈ board.sectorMap
  used : Used board strict m s.address p
  whole : Whole board strict m p n
  valid : validEntry m p = true
  below : p+n ≤ s.last
  before : strict = true → p+n ≠ s.last
  blank : Blank m (p+n) s.stop
  others : ∀ t ∈ board.sectorMap, t ≠ s → ∃ e, EndsAt board strict m t e

variable {s : SectorDescriptor}

lemma last_eq (mapped : s ∈ board.sectorMap) : s.last+4 = s.stop ∧ s.address+16 ≤ s.last ∧
    4 ∣ s.last - s.address ∧ (s.last - s.address) / 4 < scanBound := by
  obtain ⟨start,size,large,stop⟩ := board.aligned s mapped
  rw [headerSize] at large
  rw [SectorDescriptor.stop] at stop
  simp only [SectorDescriptor.last,SectorDescriptor.stop,scanBound]
  refine ⟨?_,?_,?_,?_⟩ <;> omega

lemma EndsAt.scan (ends : EndsAt board strict m s e) (mapped : s ∈ board.sectorMap) (token : Nat) :
    board.findEntryLoop m token scanBound s.address s.last = some none := by
  obtain ⟨stop,_,aligned,enough⟩ := last_eq mapped
  exact scan_used ends.used token ends.below (ends.blank.mono le_rfl (by omega)) aligned enough

lemma Quiet.findEntry (quiet : Quiet board strict m) (token : Nat) : board.findEntry m token = some none := by
  have all (sectors : List SectorDescriptor) (part : ∀ s ∈ sectors, s ∈ board.sectorMap) :
      sectors.foldr (fun s rest => (board.findEntryLoop m token scanBound s.address s.last).bind fun found =>
        found.elim rest fun pf => some (some pf)) (some none) = some none := by
    induction sectors with
    | nil => rfl
    | cons s rest ih =>
      obtain ⟨e,ends⟩ := quiet s (part s mem_cons_self)
      rw [foldr_cons,ends.scan (part s mem_cons_self)]
      exact ih fun t member => part t (mem_cons_of_mem _ member)
  exact all board.sectorMap fun _ member => member

lemma Holds.findEntry (holds : Holds board strict m s p n) : board.findEntry m parametersToken = some (some p) := by
  have found : board.findEntryLoop m parametersToken scanBound s.address s.last = some (some p) := by
    obtain ⟨_,_,aligned,enough⟩ := last_eq holds.mapped
    have := holds.whole.large
    have := holds.below
    exact scan_found holds.used holds.whole holds.valid (by omega) aligned enough
  have all (sectors : List SectorDescriptor) (part : ∀ t ∈ sectors, t ∈ board.sectorMap) (here : s ∈ sectors) :
      sectors.foldr (fun t rest => (board.findEntryLoop m parametersToken scanBound t.address t.last).bind fun found =>
        found.elim rest fun pf => some (some pf)) (some none) = some (some p) := by
    induction sectors with
    | nil => cases here
    | cons t rest ih =>
      by_cases same : t = s
      · rw [foldr_cons,same,found]
        rfl
      · obtain ⟨e,ends⟩ := holds.others t (part t mem_cons_self) same
        rw [foldr_cons,ends.scan (part t mem_cons_self)]
        refine ih (fun u member => part u (mem_cons_of_mem _ member)) ?_
        exact (mem_cons.mp here).resolve_left fun eq => same eq.symm
  exact all board.sectorMap (fun _ member => member) holds.mapped

lemma quiet_of_erased (strict : Bool) (erased : board.Erased m) : Quiet board strict m := by
  intro s mapped
  obtain ⟨_,room,_,_⟩ := last_eq mapped
  exact ⟨s.address,.nil _,by omega,fun _ => by omega,erased s mapped⟩

lemma blankCheck_of_blank (blank : Blank m p (p+required)) : blankCheck m p required := by
  rw [blankCheck,all_eq_true]
  intro i inside
  have := mem_range.mp inside
  exact beq_iff_eq.mpr (blank_word blank (by omega) (by omega))

lemma blank_of_blankCheck (aligned : 4 ∣ need) (checked : blankCheck m p need) : Blank m p (p + need) := by
  intro c low high
  rw [blankCheck,all_eq_true] at checked
  have word := word_blank (beq_iff_eq.mp (checked ((c - p) / 4) (mem_range.mpr (by omega))))
  exact word c (by omega) (by omega)

lemma blankEntry_of_blank (blank : Blank m p (p+6)) : blankEntry m p := by
  rw [blankEntry,blank_word blank le_rfl (by omega),flag,half_eq,blank (p+4) (by omega) (by omega),
    blank (p+4+1) (by omega) (by omega)]
  rfl

lemma free_here (advance : board.findFreeAdvance m p = q) (large : 16 ≤ need)
    (blank : Blank m q (q+need)) : board.findFreeLoop m need (fuel+1) p pe = some (some q) := by
  have magic : blankMagic m q := beq_iff_eq.mpr (blank_word blank le_rfl (by omega))
  rw [findFreeLoop,advance,magic,blankEntry_of_blank (blank.mono le_rfl (by omega)),blankCheck_of_blank blank]
  rfl

lemma free_next (advance : board.findFreeAdvance m p = q) (written : word m q ≠ blankSig) (before : q+4 ≠ pe) :
    board.findFreeLoop m need (fuel+1) p pe = board.findFreeLoop m need fuel (q+4) pe := by
  have other : blankMagic m q = false := beq_false_of_ne written
  rw [findFreeLoop,advance,other,if_neg before]
  rfl

lemma advance_other (other : word m p ≠ magicSig) : board.findFreeAdvance m p = p := by
  have other : validMagic m p = false := beq_false_of_ne other
  rw [findFreeAdvance,other]
  rfl

lemma advance_entry (whole : Whole board strict m p n) : board.findFreeAdvance m p = p+n := by
  have magic : validMagic m p := beq_iff_eq.mpr whole.magic
  rw [findFreeAdvance,magic,whole.crc,nextEntry,whole.size]
  rfl

lemma free_blank (board : FlashBoard) (need : Nat) (blank : Blank m p pe) (below : p < pe) (aligned : 4 ∣ pe - p)
    (enough : (pe - p) / 4 ≤ fuel) :
    ∃ found, board.findFreeLoop m need fuel p pe = some found ∧ ∀ q, found = some q → p ≤ q ∧ q < pe := by
  induction fuel generalizing p with
  | zero => omega
  | succ fuel ih =>
    have other : word m p ≠ magicSig := by
      rw [blank_word blank le_rfl (by omega)]
      decide
    rw [findFreeLoop,advance_other other]
    split_ifs
    · exact ⟨_,rfl,fun q same => by cases same; omega⟩
    · exact ⟨none,rfl,fun q same => by cases same⟩
    · obtain ⟨found,loop,place⟩ := ih (p := p+4) (blank.mono (by omega) le_rfl) (by omega) (by omega) (by omega)
      refine ⟨found,loop,fun q same => ?_⟩
      have := place q same
      omega

def Inside (board : FlashBoard) (m : Image) (p e : Nat) : Prop :=
  ∃ start n, Whole board true m start n ∧ start < p ∧ p < start + n ∧ 4 ∣ p - start ∧ Used board true m (start + n) e

lemma Whole.inside (whole : Whole board true m start n) (above : start < p) (below : p < start+n)
    (aligned : 4 ∣ p - start) : word m p ≠ magicSig ∧ ∀ need, 16 ≤ need → 4 ∣ need →
      blankCheck m p need = false := by
  have whole4 := whole.aligned
  -- Where the word is not blank there is nothing to check.
  have written (other : word m p ≠ blankSig) (need : Nat) (large : 16 ≤ need) (words : 4 ∣ need) :
      blankCheck m p need = false := by
    rw [Bool.eq_false_iff]
    intro checked
    exact other (blank_word (blank_of_blankCheck words checked) le_rfl (by omega))
  have magicSig_eq : magicSig = 0xaa553cc3 := rfl
  have blankSig_eq : blankSig = 0xffffffff := rfl
  obtain ⟨o,rfl⟩ := Nat.exists_eq_add_of_lt above
  obtain rfl | rfl | rfl | far : o = 3 ∨ o = 7 ∨ o = 11 ∨ 15 ≤ o := by omega
  · -- The flag, with its low byte first.
    have ne (c : Byte) (differs : m (start+4) ≠ c) : (m (start+4)).toNat ≠ c.toNat :=
      fun same => differs (BitVec.eq_of_toNat_eq same)
    have magic : (m (start+4)).toNat ≠ 0xc3 := ne _ whole.mark.1
    have blank : (m (start+4)).toNat ≠ 0xff := ne _ whole.mark.2
    have := (m (start+4)).isLt
    have value := word_eq m (start+4)
    have other : word m (start+4) ≠ magicSig := by omega
    have used : word m (start+4) ≠ blankSig := by omega
    exact ⟨other,written used⟩
  · -- The size is a multiple of four.
    have size : (m (start + 10)).toNat + 256 * (m (start + 11)).toNat = n := whole.size
    have := (m (start+8)).isLt
    have := (m (start+9)).isLt
    have := (m (start+10)).isLt
    have value : word m (start + 8) = (m (start + 8)).toNat + 256 * ((m (start + 9)).toNat +
      256 * ((m (start + 10)).toNat + 256 * (m (start + 11)).toNat)) := word_eq m (start + 8)
    have other : word m (start+8) ≠ magicSig := by omega
    have used : word m (start+8) ≠ blankSig := by omega
    exact ⟨other,written used⟩
  · have token : word m (start+12) = parametersToken := whole.token
    exact ⟨by rw [token]; decide,written (by rw [token]; decide)⟩
  · obtain ⟨other,used⟩ := whole.plain rfl (o+1) (by omega) (by omega) (by omega)
    refine ⟨other,fun need large words => Bool.eq_false_iff.mpr fun checked => used ?_⟩
    exact (blank_of_blankCheck words checked).mono le_rfl (by omega)

def FreeStep (board : FlashBoard) (m : Image) (required fuel p e pe : Nat) : Prop :=
  (required < 16 ∧ ∃ q, board.findFreeLoop m required (fuel+1) p pe = some (some q)) ∨
    board.findFreeLoop m required (fuel+1) p pe = board.findFreeLoop m required (fuel+1) e pe ∨
    ∃ next, p + 4 ≤ next ∧ 4 ∣ next - p ∧ (Used board true m next e ∨ Inside board m next e) ∧
      board.findFreeLoop m required (fuel+1) p pe = board.findFreeLoop m required fuel next pe

lemma Inside.lt (inside : Inside board m p e) : p < e := by
  obtain ⟨start,n,whole,above,within,words,used⟩ := inside
  exact lt_of_lt_of_le within used.le

lemma free_used (used : Used board true m p e) (blank : Blank m e pe) (below : e < pe)
    (aligned : 4 ∣ pe - p) : FreeStep board m need fuel p e pe := by
  cases used with
  | nil => exact .inr (.inl rfl)
  | @entry _ n _ whole erased rest =>
    have jump := advance_entry whole
    have large := whole.large
    have words := whole.aligned
    cases rest with
    | nil =>
      -- Nothing is behind it.
      have free : word m (p+n) = blankSig := blank_word blank le_rfl (by omega)
      have stays : board.findFreeAdvance m (p+n) = p+n := advance_other (by rw [free]; decide)
      refine .inr (.inl ?_)
      rw [findFreeLoop,findFreeLoop,jump,stays]
    | @entry _ k _ second erased rest =>
      have size := second.large
      have words' := second.aligned
      have behind := rest.le
      refine .inr (.inr ⟨p+n+4,by omega,by omega,.inr ⟨p+n,k,second,by omega,by omega,by omega,rest⟩,?_⟩)
      exact free_next jump (by rw [second.magic]; decide) (by omega)
    | scrap other written rest =>
      have behind := rest.le
      exact .inr (.inr ⟨p+n+4,by omega,by omega,.inl rest,free_next jump written (by omega)⟩)
  | scrap other written rest =>
    have behind := rest.le
    refine .inr (.inr ⟨p+4,le_rfl,by omega,.inl rest,?_⟩)
    exact free_next (advance_other other) written (by omega)

lemma free_inside (words : 4 ∣ need) (inside : Inside board m p e) (below : e < pe) :
    FreeStep board m need fuel p e pe := by
  obtain ⟨start,n,whole,above,within,words',used⟩ := inside
  obtain ⟨other,blocked⟩ := whole.inside above within words'
  have behind := used.le
  have size := whole.aligned
  rw [FreeStep,findFreeLoop,advance_other other]
  split
  next taken =>
    refine .inl ⟨?_,_,rfl⟩
    by_contra large
    rw [blocked need (by omega) words] at taken
    simp at taken
  · rw [if_neg (by omega)]
    refine .inr (.inr ⟨p+4,le_rfl,by omega,?_,rfl⟩)
    by_cases last : p+4 = start+n
    · exact .inl (last ▸ used)
    · exact .inr ⟨start,n,whole,by omega,by omega,by omega,used⟩

lemma free_reaches (fuel : Nat) (words : 4 ∣ need)
    (place : Used board true m p e ∨ Inside board m p e) (blank : Blank m e pe) (below : e < pe) (aligned : 4 ∣ pe - p) (enough : (pe - p) / 4 ≤ fuel) :
    (need < 16 ∧ ∃ q, board.findFreeLoop m need fuel p pe = some (some q)) ∨ ∃ more, (pe - e) / 4 ≤ more ∧
        board.findFreeLoop m need fuel p pe = board.findFreeLoop m need more e pe := by
  have within {p : Nat} (place : Used board true m p e ∨ Inside board m p e) : p ≤ e :=
    place.elim Used.le fun inside => inside.lt.le
  induction fuel generalizing p with
  | zero =>
    have before := within place
    omega
  | succ fuel ih =>
    have step : FreeStep board m need fuel p e pe :=
      place.elim (fun used => free_used used blank below aligned) fun inside => free_inside words inside below
    have before := within place
    rcases step with small | ended | ⟨next,on,aligned',place',same⟩
    · exact .inl small
    · exact .inr ⟨fuel+1,by omega,ended⟩
    · have before' := within place'
      rw [same]
      exact ih place' (by omega) (by omega)

lemma EndsAt.free (ends : EndsAt board true m s e) (mapped : s ∈ board.sectorMap) (need : Nat) (words : 4 ∣ need) :
    ∃ found, board.findFreeLoop m need scanBound s.address s.last = some found ∧ (16 ≤ need →
      (∀ q, found = some q → e ≤ q ∧ q < s.last) ∧ (Blank m e (e+need) → found = some e)) := by
  obtain ⟨stop,_,aligned,enough⟩ := last_eq mapped
  have start := ends.used.le
  have words' := ends.used.aligned
  have below : e < s.last := lt_of_le_of_ne ends.below (ends.before rfl)
  have blank : Blank m e s.last := ends.blank.mono le_rfl (by omega)
  rcases free_reaches scanBound words (.inl ends.used) blank below aligned (by omega) with ⟨small,q,loop⟩ | ⟨more,enough,loop⟩
  · exact ⟨some q,loop,fun large => by omega⟩
  rw [loop]
  by_cases room : 16 ≤ need ∧ Blank m e (e+need)
  · obtain ⟨more,rfl⟩ : ∃ fewer, more = fewer+1 := ⟨more-1,by omega⟩
    have other : word m e ≠ magicSig := by
      rw [blank_word blank le_rfl (by omega)]
      decide
    refine ⟨some e,free_here (advance_other other) room.1 room.2,fun _ => ⟨?_,fun _ => rfl⟩⟩
    rintro q ⟨⟩
    exact ⟨le_rfl,below⟩
  · obtain ⟨found,loop,place⟩ := free_blank board need blank below (by omega) enough
    exact ⟨found,loop,fun large => ⟨place,fun room' => absurd ⟨large,room'⟩ room⟩⟩

lemma Quiet.findFree (quiet : Quiet board true m) (words : 4 ∣ need) :
    ∃ found, board.findFree m need = some found ∧ (16 ≤ need → need < 2^16 → ∀ q, found = some q →
      ∃ s ∈ board.sectorMap, ∃ e, EndsAt board true m s e ∧ e ≤ q ∧ q < s.last ∧
        (Blank m e (e+need) → q = e)) := by
  have all (sectors : List SectorDescriptor) (part : ∀ s ∈ sectors, s ∈ board.sectorMap) :
      ∃ found, sectors.foldr (fun s rest =>
        (board.findFreeLoop m (need % 2^16) scanBound s.address s.last).bind fun found =>
          found.elim rest fun pf => some (some pf)) (some none) = some found ∧
        (16 ≤ need → need < 2^16 → ∀ q, found = some q →
          ∃ s ∈ board.sectorMap, ∃ e, EndsAt board true m s e ∧ e ≤ q ∧ q < s.last ∧
            (Blank m e (e+need) → q = e)) := by
    induction sectors with
    | nil =>
      refine ⟨none,rfl,fun _ _ q same => ?_⟩
      cases same
    | cons s rest ih =>
      have mapped := part s mem_cons_self
      obtain ⟨e,ends⟩ := quiet s mapped
      obtain ⟨found,loop,place⟩ := ends.free mapped (need % 2^16) (by omega)
      rw [foldr_cons,loop,Option.bind_some]
      cases found with
      | none => exact ih fun t member => part t (mem_cons_of_mem _ member)
      | some q =>
        refine ⟨some q,rfl,fun large small q' same => ?_⟩
        cases same
        rw [Nat.mod_eq_of_lt small] at place
        obtain ⟨within,room⟩ := place large
        exact ⟨s,mapped,e,ends,(within q rfl).1,(within q rfl).2,fun blank => Option.some_inj.mp (room blank)⟩
  exact all board.sectorMap fun _ member => member

lemma contains_iff (mapped : s ∈ board.sectorMap) : s.Contains a ↔ s.address ≤ a ∧ a < s.stop := by
  obtain ⟨stop,room,_⟩ := last_eq mapped
  simp only [SectorDescriptor.Contains,SectorDescriptor.stop] at *
  omega

lemma Quiet.place (quiet : Quiet board true m) (words : 4 ∣ need) (large : 16 ≤ need)
    (small : need < 2^16) (found : board.findFree m need = some (some q))
    (clear : ∀ s ∈ board.sectorMap, s.Contains q → q+need < s.last) :
    ∃ s ∈ board.sectorMap, EndsAt board true m s q ∧ q+need < s.last := by
  obtain ⟨found',search,place⟩ := quiet.findFree words
  rw [search,Option.some_inj] at found
  obtain ⟨s,mapped,e,ends,above,below,room⟩ := place large small q found
  obtain ⟨stop,_⟩ := last_eq mapped
  have start := ends.used.le
  have ends' := clear s mapped ((contains_iff mapped).mpr ⟨by omega,by omega⟩)
  have here := room (ends.blank.mono le_rfl (by omega))
  exact ⟨s,mapped,here ▸ ends,ends'⟩

lemma erased_place (erased : board.Erased m) (words : 4 ∣ need) (large : 16 ≤ need)
    (small : need < 2^16) (fits : ∀ s ∈ board.sectorMap, need ≤ s.size)
    (found : board.findFree m need = some (some q)) :
    ∃ s ∈ board.sectorMap, q = s.address ∧ EndsAt board false m s q := by
  obtain ⟨found',search,place⟩ := (quiet_of_erased true erased).findFree words
  rw [search,Option.some_inj] at found
  obtain ⟨s,mapped,e,ends,above,below,room⟩ := place large small q found
  obtain ⟨stop,size,_⟩ := last_eq mapped
  have start := ends.used.eq_of_blank (blank_word (erased s mapped) le_rfl (by omega))
  have inside := fits s mapped
  have here := room ((erased s mapped).mono (by omega) (by rw [SectorDescriptor.stop]; omega))
  refine ⟨s,mapped,by omega,?_⟩
  rw [here,← start]
  exact ⟨.nil _,by omega,by simp,erased s mapped⟩

section
variable {data : List Byte}

lemma totalSize_eq (n : Nat) : totalSize n = 16 + n + sizeAdjust n ∧ 4 ∣ totalSize n ∧ sizeAdjust n < 4 := by
  rw [sizeAdjust,totalSize,headerSize]
  omega

lemma length_entryBody (token : Nat) (data : List Byte) : (entryBody token data).length = totalSize data.length-10 := by
  obtain ⟨total,_,_⟩ := totalSize_eq data.length
  simp [entryBody]
  omega

lemma length_entryBytes (board : FlashBoard) (token : Nat) (data : List Byte) :
    (board.entryBytes token data).length = totalSize data.length := by
  obtain ⟨total,_,_⟩ := totalSize_eq data.length
  simp [entryBytes,length_entryBody]
  omega

/-- No aligned word is the magic word, no sixteen bytes in a row are blank, and the last word is not. -/
def Plain (data : List Byte) : Prop :=
  ∀ o, 4 ∣ o → o < data.length → ((data ++ List.replicate (sizeAdjust data.length) 0xff).drop o).take 4 ≠ encode 4 magicSig ∧
    ∃ b ∈ ((data ++ List.replicate (sizeAdjust data.length) 0xff).drop o).take 16, b ≠ 0xff

structure Stored (board : FlashBoard) (m : Image) (p : Nat) (data : List Byte) : Prop where
  magic : word m p = magicSig
  flag : flag m p = validFlag+sizeAdjust data.length
  crc : word m (p+6) = (board.crc32 (entryBody parametersToken data)).toNat
  body : bytes m (p+10) (totalSize data.length-10) = entryBody parametersToken data

lemma stored_of_bytes (small : totalSize data.length < 2^16)
    (written : bytes m p (totalSize data.length) = board.entryBytes parametersToken data) : Stored board m p data := by
  obtain ⟨total,_,adjust⟩ := totalSize_eq data.length
  have checked : (entryBody parametersToken data).take
      ((totalSize data.length % 2^16 + 2^16 - sizeOffset) % 2^16) = entryBody parametersToken data := by
    rw [sizeOffset,take_of_length_le]
    rw [length_entryBody]
    omega
  have slice (o k : Nat) (inside : o+k ≤ totalSize data.length) :
      bytes m (p+o) k = ((board.entryBytes parametersToken data).drop o).take k := written ▸ bytes_slice inside
  rw [entryBytes,checked] at slice
  refine ⟨?_,?_,?_,?_⟩
  · rw [word,← Nat.add_zero p,slice 0 4 (by omega)]
    simp [decode_encode,magicSig]
  · rw [AerialManipulator.flag,half,slice 4 2 (by omega)]
    have fits : validFlag+sizeAdjust data.length < 256^2 := by
      rw [validFlag]
      omega
    simp [decode_encode_of_lt fits]
  · have fits : (board.crc32 (entryBody parametersToken data)).toNat < 256^4 := BitVec.isLt _
    rw [word,slice 6 4 (by omega),append_assoc,drop_left' (by simp),take_left' (by simp),
      decode_encode_of_lt fits]
  · rw [slice 10 _ (by omega),drop_left' (by simp),take_of_length_le (by rw [length_entryBody])]

section
variable (stored : Stored board m p data)
include stored

lemma Stored.part (o k : Nat) (inside : 10+o+k ≤ totalSize data.length) :
    bytes m (p+10+o) k = ((entryBody parametersToken data).drop o).take k := by
  rw [← stored.body]
  exact bytes_slice (by omega)

lemma Stored.size (small : totalSize data.length < 2^16) : entrySize m p = totalSize data.length := by
  obtain ⟨total,_,_⟩ := totalSize_eq data.length
  have part := stored.part 0 2 (by omega)
  rw [entrySize,half]
  rw [Nat.add_zero] at part
  rw [part,drop_zero,entryBody,append_assoc,append_assoc,take_left' (by simp),
    decode_encode_of_lt (by omega)]

lemma Stored.token : entryToken m p = parametersToken := by
  obtain ⟨total,_,_⟩ := totalSize_eq data.length
  have part : bytes m (p+12) 4 = _ := stored.part 2 4 (by omega)
  rw [entryToken,word,part,entryBody,append_assoc,append_assoc,drop_left' (by simp),
    take_left' (by simp)]
  rfl

lemma Stored.padded :
    bytes m (p + 16) (totalSize data.length - 16) = data ++ List.replicate (sizeAdjust data.length) 0xff := by
  obtain ⟨total,_,_⟩ := totalSize_eq data.length
  have part := stored.part 6 (totalSize data.length-16) (by omega)
  rw [part,entryBody,append_assoc,drop_left' (by simp),take_of_length_le (by simp; omega)]

lemma Stored.contents : bytes m (p+16) data.length = data := by
  obtain ⟨total,_,_⟩ := totalSize_eq data.length
  have part := bytes_slice (m := m) (a := p+16) (o := 0) (k := data.length) (t := totalSize data.length-16) (by omega)
  rw [Nat.add_zero] at part
  rw [part,stored.padded,drop_zero,take_left' rfl]

lemma Stored.valid : validEntry m p := by
  obtain ⟨_,_,adjust⟩ := totalSize_eq data.length
  rw [validEntry,stored.flag,beq_iff_eq,validFlag]
  omega

lemma Stored.length (small : totalSize data.length < 2^16) : entryDataLength m p = data.length := by
  obtain ⟨total,_,adjust⟩ := totalSize_eq data.length
  rw [entryDataLength,entrySizeAdjust,stored.size small,stored.flag,headerSize,validFlag]
  omega

lemma Stored.plain (plain : Plain data) : PlainAt m p (totalSize data.length) := by
  obtain ⟨total,words,adjust⟩ := totalSize_eq data.length
  intro o aligned behind inside
  obtain ⟨o,rfl⟩ := Nat.exists_eq_add_of_le behind
  obtain ⟨other,b,member,written⟩ := plain o (by omega) (by omega)
  rw [← stored.padded] at other member
  constructor
  · intro magic
    rw [word_iff (by decide),← Nat.add_assoc] at magic
    exact other ((bytes_slice (by omega)).symm.trans magic)
  · intro blank
    obtain ⟨i,low,rfl⟩ := mem_iff_getElem.mp member
    simp only [length_take,length_drop,length_bytes] at low
    refine written ?_
    simp only [getElem_take,getElem_drop,bytes,getElem_map,getElem_range]
    exact blank _ (by omega) (by omega)

lemma Stored.whole (small : totalSize data.length < 2^16)
    (plain : strict → Plain data) : Whole board strict m p (totalSize data.length) := by
  obtain ⟨total,words,adjust⟩ := totalSize_eq data.length
  have size := stored.size small
  refine ⟨stored.magic,size,?_,stored.token,by omega,words,small,?_,fun strict => stored.plain (plain strict)⟩
  · rw [crcMatches,entryCrcLength_eq size (by omega) small,sizeOffset,stored.body,beq_iff_eq]
    exact stored.crc
  have flag : (m (p + 4)).toNat + 256 * (m (p + 5)).toNat = validFlag + sizeAdjust data.length := stored.flag
  rw [validFlag] at flag
  have := (m (p+4)).isLt
  have low : (m (p+4)).toNat = 0xac+sizeAdjust data.length := by omega
  constructor
  · intro same
    rw [same] at low
    have : (0xc3 : Byte).toNat = 0xc3 := rfl
    omega
  · intro same
    rw [same] at low
    have : (0xff : Byte).toNat = 0xff := rfl
    omega

end
end
end FlashBoard
end AerialManipulator
