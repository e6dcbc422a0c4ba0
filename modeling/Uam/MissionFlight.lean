import Uam.Geofence

/-! Flying a mission with jumps, after `advance_mission`, `read_mission_item` and
`prepare_mission_items`. Reading the current item counts jumps, reading ahead does not. -/
namespace AerialManipulator

inductive MissionExecutionMode
  | normal
  | reverse
  | fastForward
  deriving DecidableEq

inductive WorkItemType
  | default
  | takeoff
  | moveToLand
  | align
  | transitionAfterTakeoff
  | moveToLandAfterTransition
  | precisionLand
  deriving DecidableEq

structure Mission (K D : Type) where
  items : List (MissionItem K D)
  currentMissionIndex : Int
  missionExecutionMode : MissionExecutionMode
  workItemType : WorkItemType
  active : Bool

structure MissionAccess where
  readable : Nat → Bool
  writable : Nat → Bool

def MissionAccess.working : MissionAccess := ⟨fun _ => true,fun _ => true⟩

structure FlightMessage where
  text : String
  numbers : List Int

/-- What a read comes to: the item, its index, the items stored then, the jumps, and what it tells the ground. -/
structure MissionRead (K D : Type) where
  item : Option (MissionItem K D)
  index : Int
  items : List (MissionItem K D)
  followed : List Nat
  messages : List FlightMessage

section
variable {K D : Type}

def isJump (item : MissionItem K D) : Bool := item.navCmd = MavCmd.doJump.number

/-- `vertexCount` is also `do_jump_current_count`. -/
def jumpsLeft (item : MissionItem K D) : Nat := if isJump item then item.doJumpRepeatCount-item.vertexCount else 0

def countJump (item : MissionItem K D) : MissionItem K D := {item with vertexCount := item.vertexCount+1}

namespace MissionRead

def follow (jump : Nat) (read : MissionRead K D) : MissionRead K D := {read with followed := jump :: read.followed}

def tell (messages : List FlightMessage) (read : MissionRead K D) : MissionRead K D :=
  {read with messages := messages ++ read.messages}

end MissionRead

namespace MissionAccess
variable (access : MissionAccess)

def read (items : List (MissionItem K D)) (index : Nat) : Option (MissionItem K D) :=
  if access.readable index then items[index]? else none

def readLoop (mode : MissionExecutionMode) (current : Bool) : Nat → Int → List (MissionItem K D) → MissionRead K D
  | 0,index,items => ⟨none,index,items,[],[⟨"DO JUMP is cycling, giving up.\t",[]⟩]⟩
  | tries+1,index,items =>
    if index < 0 || index ≥ items.length then
      ⟨none,index,items,[],if index ≠ items.length && index ≠ -1 then
        [⟨"Mission item index out of bound, index: %d, max: %u.\t",[index,items.length]⟩] else []⟩
    else
      (access.read items index.toNat).elim ⟨none,index,items,[],[⟨"Waypoint could not be read.\t",[]⟩]⟩ fun item =>
        if isJump item then
          if item.vertexCount < item.doJumpRepeatCount && mode = .normal then
            if current then
              if access.writable index.toNat then
                (readLoop mode current tries item.doJumpMissionIndex (items.set index.toNat (countJump item))).follow
                  index.toNat
              else ⟨none,index,items,[],[⟨"DO JUMP waypoint could not be written.\t",[]⟩]⟩
            else (readLoop mode current tries item.doJumpMissionIndex items).follow index.toNat
          else
            (readLoop mode current tries (if mode = .reverse then index-1 else index+1) items).tell
              (if current && mode = .normal then [⟨"DO JUMP repetitions completed.\t",[]⟩] else [])
        else ⟨some item,index,items,[],[]⟩

def previousPosition (items : List (MissionItem K D)) : Nat → Int
  | 0 => -1
  | i+1 => (access.read items i).elim (-1) fun item => if itemContainsPosition item then i else previousPosition items i

end MissionAccess

namespace Mission
variable (access : MissionAccess) (m : Mission K D)

def readMissionItem (offset : Int) : MissionRead K D :=
  if m.items.length = 0 then ⟨none,m.currentMissionIndex+offset,m.items,[],[]⟩
  else access.readLoop m.missionExecutionMode (offset = 0) 10 (m.currentMissionIndex+offset) m.items

def afterRead (offset : Int) : Mission K D :=
  { m with
    items := (m.readMissionItem access offset).items
    currentMissionIndex := if offset = 0 then (m.readMissionItem access 0).index else m.currentMissionIndex }

def advanceMission : Mission K D :=
  if m.workItemType = .default && m.active then
    { m with
      currentMissionIndex := if m.missionExecutionMode = .reverse then
        access.previousPosition m.items m.currentMissionIndex.toNat else m.currentMissionIndex+1 }
  else m

def searchPosition : Nat → Int → Option (MissionItem K D) × Int
  | 0,offset => (none,offset)
  | tries+1,offset =>
    (m.readMissionItem access offset).item.elim (none,offset) fun item =>
      let offset := if m.missionExecutionMode = .reverse then offset-1 else offset+1
      if itemContainsPosition item then (some item,offset) else searchPosition tries offset

end Mission

structure PreparedItems (K D : Type) where
  current : Option (MissionItem K D)
  next : Option (MissionItem K D)
  afterNext : Option (MissionItem K D)
  mission : Mission K D

/-- Both searches move away from the current item, so they end behind the last item or before the first. -/
def Mission.prepareMissionItems (access : MissionAccess) (m : Mission K D) (wantsAfterNext : Bool) :
    PreparedItems K D :=
  let current := (m.readMissionItem access 0).item
  let m := m.afterRead access 0
  if current.isSome then
    let found := m.searchPosition access (m.items.length+1) (if m.missionExecutionMode = .reverse then -1 else 1)
    { current := current
      next := found.1
      afterNext :=
        if m.missionExecutionMode ≠ .reverse && wantsAfterNext then
          (m.searchPosition access (m.items.length+1) found.2).1
        else none
      mission := m }
  else ⟨none,none,none,m⟩

namespace MissionAccess
variable (current : Bool) (tries : Nat) {k : Nat} {index : Int} {items : List (MissionItem K D)}
  {item : MissionItem K D}

lemma pass_cases (index : Int) (items : List (MissionItem K D)) : (index < 0 ∨ items.length ≤ index) ∨
    ∃ (k : Nat) (item : MissionItem K D), index = k ∧ items[k]? = some item ∧
      (isJump item = false ∨ isJump item ∧ (jumpsLeft item = 0 ∨ 0 < jumpsLeft item)) := by
  by_cases outside : index < 0 ∨ items.length ≤ index
  · exact .inl outside
  have bound : index.toNat < items.length := by omega
  refine .inr ⟨index.toNat,items[index.toNat],by omega,List.getElem?_eq_getElem bound,?_⟩
  cases isJump items[index.toNat] with
  | false => exact .inl rfl
  | true => exact .inr ⟨rfl,Nat.eq_zero_or_pos _⟩

lemma readLoop_outside (outside : index < 0 ∨ items.length ≤ index) :
    ∃ messages, working.readLoop .normal current (tries+1) index items = ⟨none,index,items,[],messages⟩ := by
  have refused : (decide (index < 0) || decide (index ≥ items.length)) := by simpa using outside
  exact ⟨_,if_pos refused⟩

section
variable (read : items[k]? = some item)
include read

lemma readLoop_inside : working.readLoop .normal current (tries+1) k items = if isJump item then
      if 0 < jumpsLeft item then
        (working.readLoop .normal current tries item.doJumpMissionIndex
          (if current then items.set k (countJump item) else items)).follow k
      else (working.readLoop .normal current tries (k+1) items).tell
        (if current then [⟨"DO JUMP repetitions completed.\t",[]⟩] else [])
    else ⟨some item,k,items,[],[]⟩ := by
  have bound : k < items.length := (List.getElem?_eq_some_iff.mp read).1
  have found : working.read items (k : Int).toNat = some item := read
  rw [readLoop,if_neg (by simp; omega),found,Option.elim_some,Int.toNat_natCast]
  cases jump : isJump item with
  | false => rfl
  | true =>
    have left : 0 < jumpsLeft item ↔ item.vertexCount < item.doJumpRepeatCount := by
      rw [jumpsLeft,jump]
      exact Nat.sub_pos_iff_lt
    by_cases live : item.vertexCount < item.doJumpRepeatCount
    · cases current <;> simp [live,left,working]
    · cases current <;> simp [live,left]

lemma readLoop_item (other : isJump item = false) :
    working.readLoop .normal current (tries+1) k items = ⟨some item,k,items,[],[]⟩ := by
  rw [readLoop_inside current tries read,other]
  rfl

lemma readLoop_passed (jump : isJump item) (done : jumpsLeft item = 0) :
    working.readLoop .normal current (tries+1) k items = (working.readLoop .normal current tries (k+1) items).tell
      (if current then [⟨"DO JUMP repetitions completed.\t",[]⟩] else []) := by
  rw [readLoop_inside current tries read,if_pos jump,if_neg (Nat.not_lt.mpr done.le)]

lemma readLoop_followed (jump : isJump item) (live : 0 < jumpsLeft item) :
    working.readLoop .normal current (tries+1) k items =
      (working.readLoop .normal current tries item.doJumpMissionIndex
        (if current then items.set k (countJump item) else items)).follow k := by
  rw [readLoop_inside current tries read,if_pos jump,if_pos live]

end
end MissionAccess
end
end AerialManipulator
