import Uam.Library.Flash

/-! The parameter store in flash, after `flashfs.c`. A sector holds entries, each a header with a
checksum and the data, found again by scanning for the magic word. -/
namespace AerialManipulator
open Bytes Flash

def magicSig : Nat := 0xaa553cc3
def blankSig : Nat := 0xffffffff

def blankFlag : Nat := 0xffff
def validFlag : Nat := 0xa5ac
def erasedFlag : Nat := 0x0000

def headerSize : Nat := 16
def sizeOffset : Nat := 10

/-- The letters of "parm", the only file in use. -/
def parametersToken : Nat := 0x6d726170

def enospc : Int := 28
def eio : Int := 5
def enoent : Int := 2

/-- Pointers have 32 bits: a scan that goes on for longer than there are words does not end. -/
def scanBound : Nat := 2^30

structure SectorDescriptor where
  page : Nat
  size : Nat
  address : Nat
  deriving DecidableEq

namespace SectorDescriptor

def stop (s : SectorDescriptor) : Nat := s.address+s.size

def last (s : SectorDescriptor) : Nat := s.address + 4 * (s.size / 4 - 1)

def Contains (s : SectorDescriptor) (a : Nat) : Prop := s.address ≤ a ∧ a ≤ s.address+s.size-1

instance (s : SectorDescriptor) (a : Nat) : Decidable (s.Contains a) := inferInstanceAs (Decidable (_ ∧ _))

end SectorDescriptor

/-- A board: its sector map, and the system's checksum and page functions. The pages are whole and distinct. -/
structure FlashBoard where
  sectorMap : List SectorDescriptor
  crc32 : List Byte → BitVec 32
  getpage : Nat → Int
  nonempty : sectorMap ≠ []
  paged : ∀ s ∈ sectorMap, getpage s.address = s.page ∧ 0 < s.page
  aligned : ∀ s ∈ sectorMap, 4 ∣ s.address ∧ 4 ∣ s.size ∧ headerSize < s.size ∧ s.stop ≤ 2^32
  disjoint : sectorMap.Pairwise fun s t => s.stop ≤ t.address ∨ t.stop ≤ s.address

section
variable (m : Image) (pf : Nat)

def validMagic : Bool := word m pf == magicSig
def blankMagic : Bool := word m pf == blankSig
def flag : Nat := half m (pf+4)
def blankEntry : Bool := word m pf == blankSig && flag m pf == blankFlag
def validEntry : Bool := flag m pf - flag m pf % 4 == validFlag
def entrySizeAdjust : Nat := flag m pf % 4
def entrySize : Nat := half m (pf+10)
def entryToken : Nat := word m (pf+12)
def nextEntry : Nat := pf+entrySize m pf
def entryData : Nat := pf+headerSize

def entryDataLength : Nat := (entrySize m pf + 2^16 - (headerSize + entrySizeAdjust m pf)) % 2^16
def entryCrcLength : Nat := (entrySize m pf + 2^16 - sizeOffset) % 2^16

def blankCheck (newSize : Nat) : Bool := (List.range (newSize / 4)).all fun i => word m (pf + 4 * i) == blankSig

end

/-- How the flash operations of a call end: completely, or after so many bytes. -/
structure FlashOutcome where
  mark : Option Nat
  erase : Option Nat
  program : Option Nat
  deriving DecidableEq

def upProgmemWrite (m : Image) (address : Nat) (data : List Byte) (stop : Option Nat) : Int × Image :=
  stop.elim
    (if bytes (program m address data) address data.length = data then (data.length,program m address data)
      else (-eio,program m address data))
    fun done => (-eio,program m address (data.take done))

def totalSize (bufSize : Nat) : Nat := (bufSize + headerSize + 3) / 4 * 4

def sizeAdjust (bufSize : Nat) : Nat := totalSize bufSize-(bufSize+headerSize)

def entryBody (token : Nat) (data : List Byte) : List Byte :=
  encode 2 (totalSize data.length) ++ encode 4 token ++ data ++ List.replicate (sizeAdjust data.length) 0xff

namespace FlashBoard
variable (board : FlashBoard) (m : Image) (pf : Nat)

def crcMatches : Bool :=
  word m (pf+6) == (board.crc32 (bytes m (pf+sizeOffset) (entryCrcLength m pf))).toNat

def findEntryLoop (token : Nat) : Nat → Nat → Nat → Option (Option Nat)
  | 0,_,_ => none
  | fuel+1,pmagic,pe =>
    if pmagic = pe then some none
    else if validMagic m pmagic then
      if board.crcMatches m pmagic then
        if validEntry m pmagic && entryToken m pmagic == token then some (some pmagic)
        else if blankEntry m (nextEntry m pmagic) then some none
        else findEntryLoop token fuel (nextEntry m pmagic) pe
      else
        -- The pointer is advanced, but then the loop over the sectors goes on.
        some none
    else findEntryLoop token fuel (pmagic+4) pe

def findEntry (token : Nat) : Option (Option Nat) :=
  board.sectorMap.foldr (fun s rest => (board.findEntryLoop m token scanBound s.address s.last).bind fun found =>
    found.elim rest fun pf => some (some pf)) (some none)

def findFreeAdvance : Nat :=
  if validMagic m pf then if board.crcMatches m pf then nextEntry m pf else pf+4 else pf

def findFreeLoop (required : Nat) : Nat → Nat → Nat → Option (Option Nat)
  | 0,_,_ => none
  | fuel+1,pmagic,pe =>
    if blankMagic m (board.findFreeAdvance m pmagic) && (blankEntry m (board.findFreeAdvance m pmagic) &&
        blankCheck m (board.findFreeAdvance m pmagic) required) then some (some (board.findFreeAdvance m pmagic))
    else if board.findFreeAdvance m pmagic+4 = pe then some none
    else findFreeLoop required fuel (board.findFreeAdvance m pmagic+4) pe

/-- The size is passed in 16 bits. -/
def findFree (required : Nat) : Option (Option Nat) :=
  board.sectorMap.foldr (fun s rest =>
    (board.findFreeLoop m (required % 2^16) scanBound s.address s.last).bind fun found =>
      found.elim rest fun pf => some (some pf)) (some none)

def getNextSectorDescriptor (current : SectorDescriptor) : Option SectorDescriptor :=
  (board.sectorMap.findIdx? (· == current)).bind fun i => (board.sectorMap[i+1]?).elim board.sectorMap[0]? some

def getSectorInfo (current : Nat) : Option SectorDescriptor := board.sectorMap.find? fun s => s.Contains current

def eraseSector (sm : SectorDescriptor) (stop : Option Nat) : Int × Image :=
  if board.getpage pf > 0 ∧ board.getpage pf = sm.page then
    stop.elim (0,erase m sm.address sm.size) fun done => (-eio,erase m sm.address done)
  else (0,m)

def eraseEntry (stop : Option Nat) : Int × Image := upProgmemWrite m (pf + 4) (encode 2 erasedFlag) stop

def checkFreeSpaceInSector (newSize : Nat) : Option (Option SectorDescriptor) :=
  (board.getSectorInfo pf).map fun sm =>
    if sm.address ≤ (if validMagic m pf then nextEntry m pf else pf)+newSize ∧
      (if validMagic m pf then nextEntry m pf else pf)+newSize ≤ sm.address+sm.size-1 then none else some sm

def entryBytes (token : Nat) (data : List Byte) : List Byte :=
  encode 4 magicSig ++ encode 2 (validFlag + sizeAdjust data.length) ++
    encode 4 (board.crc32 ((entryBody token data).take
      ((totalSize data.length % 2^16 + 2^16 - sizeOffset) % 2^16))).toNat ++ entryBody token data

def programEntry (token : Nat) (data : List Byte) (stop : Option Nat) : Int × Image :=
  let written := upProgmemWrite m pf ((board.entryBytes token data).take (totalSize data.length % 2^16)) stop
  (if written.1 ≥ headerSize+sizeAdjust data.length then written.1-(headerSize+sizeAdjust data.length)
    else written.1,written.2)

def updateBehind (token : Nat) (data : List Byte) (outcome : FlashOutcome) : Int × Image :=
  let marked := eraseEntry m pf outcome.mark
  if marked.1 < 0 then marked
  else board.programEntry marked.2 (nextEntry marked.2 pf) token data outcome.program

/-- Marks the entry and writes the new one at the start of another sector, whether or not that was erased. -/
def updateInto (next : SectorDescriptor) (token : Nat) (data : List Byte) (outcome : FlashOutcome) : Int × Image :=
  let marked := eraseEntry m pf outcome.mark
  if marked.1 < 0 then marked
  else if blankCheck marked.2 next.address (totalSize data.length) then
    board.programEntry marked.2 next.address token data outcome.program
  else
    board.programEntry (board.eraseSector marked.2 next.address next outcome.erase).2 next.address token data
      outcome.program

/-- Nothing is returned by a call that hangs in a scan. -/
def parameterFlashfsWrite (token : Nat) (data : List Byte) (outcome : FlashOutcome) : Option (Int × Image) :=
  (board.findEntry m token).bind fun found => found.elim
    ((board.findFree m (totalSize data.length)).map fun free =>
      free.elim (-enospc,m) fun pf => board.programEntry m pf token data outcome.program)
    fun pf => (board.checkFreeSpaceInSector m pf (totalSize data.length)).bind fun full => full.elim
      (some (board.updateBehind m pf token data outcome))
      fun sm => (board.getNextSectorDescriptor sm).map fun next =>
        if next.size < totalSize data.length then (-enospc,m)
        else board.updateInto m pf next token data outcome

def parameterFlashfsRead (token : Nat) : Option (Option (Nat × List Byte)) :=
  (board.findEntry m token).map fun found => found.map fun pf =>
    (entryData pf,bytes m (entryData pf) (entryDataLength m pf))

def parameterFlashfsErase : Image :=
  board.sectorMap.foldl (fun m s => (board.eraseSector m s.address s none).2) m

/-- The size of the buffer only decides how much space must be free. -/
def parameterFlashfsInit (size : Nat) : Option Image :=
  (board.findEntry m parametersToken).bind fun found => found.elim
    ((board.findFree m (totalSize size)).map fun free => free.elim (board.parameterFlashfsErase m) fun _ => m)
    fun _ => some m

end FlashBoard

inductive FlashStep
  | init (size : Nat)
  | write (token : Nat) (data : List Byte) (outcome : FlashOutcome)
  deriving DecidableEq

/-- The image that is left. A call that hangs changes nothing. -/
def FlashBoard.step (board : FlashBoard) (m : Image) : FlashStep → Image
  | .init size => (board.parameterFlashfsInit m size).getD m
  | .write token data outcome => ((board.parameterFlashfsWrite m token data outcome).map Prod.snd).getD m

def FlashBoard.Erased (board : FlashBoard) (m : Image) : Prop := ∀ s ∈ board.sectorMap, Blank m s.address s.stop

end AerialManipulator
