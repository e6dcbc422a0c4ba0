import Uam.Library.Bytes

/-! The data manager's two back ends, after `dataman.cpp`. All items share one linear space; an item
is its length in a byte, three unused bytes, and its data. -/
namespace AerialManipulator
open Bytes

def dmSectorHdrSize : Nat := 4

def dmKeySafePoints : Nat := 0
def dmKeyFencePoints : Nat := 1
def dmKeyWaypointsOffboard0 : Nat := 2
def dmKeyWaypointsOffboard1 : Nat := 3
def dmKeyMissionState : Nat := 4
def dmKeyCompat : Nat := 5
def dmKeyNumKeys : Nat := 6

def e2big : Int := 7

structure DmItemInfo where
  maxIndex : Nat
  size : Nat

/-- The tables `g_per_item_max_index` and `g_per_item_size` of a build. -/
structure DatamanLayout where
  perItem : List DmItemInfo
  keys : perItem.length = dmKeyNumKeys
  sized : ∀ info ∈ perItem, 0 < info.maxIndex ∧ dmSectorHdrSize ≤ info.size ∧ info.size ≤ 255
  /-- Offsets are of type `int`. -/
  total : (perItem.map fun info => info.maxIndex * info.size).sum < 2^31
  /-- `struct dataman_compat_s` is one number of 64 bits. -/
  compat : perItem[dmKeyCompat]? = some ⟨1,8+dmSectorHdrSize⟩

namespace DatamanLayout
variable (layout : DatamanLayout)

def itemSize (item : Nat) : Nat := (layout.perItem[item]?).elim 0 DmItemInfo.size

def maxIndex (item : Nat) : Nat := (layout.perItem[item]?).elim 0 DmItemInfo.maxIndex

/-- `g_key_offsets`, filled from the first item type on. -/
def keyOffset : Nat → Nat
  | 0 => 0
  | i+1 => keyOffset i + (layout.perItem[i]?).elim 0 fun info => info.maxIndex * info.size

def maxOffset : Nat := layout.keyOffset dmKeyNumKeys

def calculateOffset (item index : Nat) : Option Nat :=
  (layout.perItem[item]?).bind fun info =>
    if index ≥ info.maxIndex then none else some (layout.keyOffset item + index * info.size)

def compatKey : Nat :=
  2 * 2^32 + (layout.itemSize dmKeyWaypointsOffboard0 - dmSectorHdrSize) * 2^24 +
    (layout.itemSize dmKeyMissionState - dmSectorHdrSize) * 2^16 + 4 * 2^12 +
    (layout.itemSize dmKeyFencePoints - dmSectorHdrSize) * 2^8 +
    (layout.itemSize dmKeySafePoints - dmSectorHdrSize) * 2^4 + 8

end DatamanLayout

def datamanLayout : DatamanLayout where
  perItem := [⟨8,28⟩,⟨64,36⟩,⟨500,60⟩,⟨500,60⟩,⟨1,20⟩,⟨1,12⟩]
  keys := rfl
  sized := by decide
  total := by decide
  compat := rfl

def dmSector (buf : List Byte) : List Byte := [BitVec.ofNat 8 buf.length,0,0,0] ++ buf

inductive DmOp
  | write (item index : Nat) (buf : List Byte)
  | read (item index count : Nat)
  | clear (item : Nat)
  deriving DecidableEq

structure DmResult where
  result : Int
  data : List Byte
  deriving DecidableEq

section
variable (layout : DatamanLayout)

def ramWrite (data : List Byte) (item index : Nat) (buf : List Byte) : DmResult × List Byte :=
  (layout.calculateOffset item index).elim (⟨-1,[]⟩,data) fun offset =>
    if buf.length > layout.itemSize item-dmSectorHdrSize then (⟨-e2big,[]⟩,data)
    else if offset > data.length-1 then (⟨-1,[]⟩,data)
    else (⟨buf.length,[]⟩,poke data offset (dmSector buf))

def ramRead (data : List Byte) (item index count : Nat) : DmResult :=
  (layout.calculateOffset item index).elim ⟨-1,[]⟩ fun offset =>
    if count > layout.itemSize item-dmSectorHdrSize then ⟨-e2big,[]⟩
    else if offset > data.length-1 then ⟨-1,[]⟩
    else if (data.getD offset 0).toNat > count then ⟨-1,[]⟩
    else ⟨(data.getD offset 0).toNat,slice data (offset+dmSectorHdrSize) (data.getD offset 0).toNat⟩

def ramClearLoop (size : Nat) : Nat → Nat → List Byte → Int × List Byte
  | 0,_,data => (0,data)
  | left+1,offset,data =>
    if offset > data.length-1 then (-1,data) else ramClearLoop size left (offset+size) (poke data offset [0])

def ramClear (data : List Byte) (item : Nat) : DmResult × List Byte :=
  (layout.calculateOffset item 0).elim (⟨-1,[]⟩,data) fun offset =>
    let cleared := ramClearLoop (layout.itemSize item) (layout.maxIndex item) offset data
    (⟨cleared.1,[]⟩,cleared.2)

def ramInitialize : List Byte := List.replicate layout.maxOffset 0

def ramStep (data : List Byte) : DmOp → DmResult × List Byte
  | .write item index buf => ramWrite layout data item index buf
  | .read item index count => (ramRead layout data item index count,data)
  | .clear item => ramClear layout data item

/-! A file. Its operations succeed at the first attempt; a read ends at the end of the file. -/

def fileWrite (f : File) (item index : Nat) (buf : List Byte) : DmResult × File :=
  (layout.calculateOffset item index).elim (⟨-1,[]⟩,f) fun offset =>
    if buf.length > layout.itemSize item-dmSectorHdrSize then (⟨-e2big,[]⟩,f)
    else (⟨buf.length,[]⟩,(f.seek offset).write (dmSector buf))

def fileRead (f : File) (item index count : Nat) : DmResult × File :=
  if item ≥ dmKeyNumKeys then (⟨-1,[]⟩,f)
  else
    (layout.calculateOffset item index).elim (⟨-1,[]⟩,f) fun offset =>
      if count > layout.itemSize item-dmSectorHdrSize then (⟨-e2big,[]⟩,f)
      else
        let buffer := ((f.seek offset).read (count+dmSectorHdrSize)).1
        -- An empty read stands for an empty item.
        (if (buffer.getD 0 0).toNat > count then ⟨-1,[]⟩
          else ⟨(buffer.getD 0 0).toNat,slice buffer dmSectorHdrSize (buffer.getD 0 0).toNat⟩,
          ((f.seek offset).read (count+dmSectorHdrSize)).2)

/-- The loop ends behind the end of the file, and writes only where there is something. -/
def fileClearLoop (size : Nat) : Nat → Nat → File → File
  | 0,_,f => f
  | left+1,offset,f =>
    if ((f.seek offset).read 1).1.length < 1 then ((f.seek offset).read 1).2
    else if ((f.seek offset).read 1).1.getD 0 0 = 0 then
      fileClearLoop size left (offset+size) ((f.seek offset).read 1).2
    else fileClearLoop size left (offset+size) ((((f.seek offset).read 1).2.seek offset).write [0])

def fileClear (f : File) (item : Nat) : DmResult × File :=
  (layout.calculateOffset item 0).elim (⟨-1,[]⟩,f) fun offset =>
    (⟨0,[]⟩,fileClearLoop (layout.itemSize item) (layout.maxIndex item) offset f)

/-- On a device without a data file. The compatibility key is written first. -/
def fileInitialize : File :=
  (fileWrite layout ⟨[],layout.maxOffset⟩ dmKeyCompat 0 (encode 8 layout.compatKey)).2

def fileStep (f : File) : DmOp → DmResult × File
  | .write item index buf => fileWrite layout f item index buf
  | .read item index count => fileRead layout f item index count
  | .clear item => fileClear layout f item

end
end AerialManipulator
