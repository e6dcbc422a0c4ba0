import Uam.MissionEnds

/-! Looking ahead for the next position. Each read starts from an offset to the current item, so a
jump is forgotten by the next. -/
namespace AerialManipulator
variable {K D : Type}

def addJumps (count : Nat) (item : MissionItem K D) : MissionItem K D :=
  {item with vertexCount := item.vertexCount+count}

def counted (jumps : List Nat) (items : List (MissionItem K D)) : List (MissionItem K D) :=
  items.mapIdx fun k item => addJumps (jumps.count k) item

section
variable (jumps : List Nat) {items : List (MissionItem K D)} {k : Nat} {item : MissionItem K D}

lemma jumpsLeft_addJumps (count : Nat) : jumpsLeft (addJumps count item) = jumpsLeft item-count := by
  have same : isJump (addJumps count item) = isJump item := rfl
  have vertices : (addJumps count item).vertexCount = item.vertexCount+count := rfl
  have often : (addJumps count item).doJumpRepeatCount = item.doJumpRepeatCount := rfl
  rw [jumpsLeft,jumpsLeft,same,vertices,often]
  split <;> omega

lemma counted_nil : counted [] items = items := by
  apply List.ext_getElem?
  intro k
  rw [counted,List.getElem?_mapIdx]
  cases items[k]? <;> rfl

lemma getElem?_counted (read : items[k]? = some item) :
    (counted jumps items)[k]? = some (addJumps (jumps.count k) item) := by
  rw [counted,List.getElem?_mapIdx,read]
  rfl

lemma counted_set (read : items[k]? = some item) :
    (counted jumps items).set k (countJump (addJumps (jumps.count k) item)) = counted (jumps ++ [k]) items := by
  have bound : k < (counted jumps items).length := by
    rw [counted,List.length_mapIdx]
    exact (List.getElem?_eq_some_iff.mp read).1
  apply List.ext_getElem?
  intro other
  by_cases same : k = other
  · subst same
    rw [List.getElem?_set_self bound,getElem?_counted _ read,List.count_append,List.count_singleton_self]
    rfl
  · rw [List.getElem?_set_ne same,counted,counted,List.getElem?_mapIdx,List.getElem?_mapIdx,List.count_append,
      List.count_singleton,if_neg (by simpa using same)]
    rfl

end

structure MissionRead.Agrees (items : List (MissionItem K D)) (jumps : List Nat) (ahead real : MissionRead K D) :
    Prop where
  item : real.item = ahead.item
  index : real.index = ahead.index
  items : real.items = counted (jumps ++ ahead.followed) items

section
variable {items : List (MissionItem K D)} {jumps : List Nat} {ahead real : MissionRead K D}

lemma MissionRead.Agrees.tell (agrees : Agrees items jumps ahead real) (messages messages' : List FlightMessage) :
    Agrees items jumps (ahead.tell messages) (real.tell messages') := ⟨agrees.item,agrees.index,agrees.items⟩

lemma MissionRead.Agrees.follow (agrees : Agrees items (jumps ++ [k]) ahead real) :
    Agrees items jumps (ahead.follow k) (real.follow k) := by
  refine ⟨agrees.item,agrees.index,agrees.items.trans ?_⟩
  rw [List.append_assoc]
  rfl

end

namespace MissionAccess

lemma readLoop_agrees (tries : Nat) (index : Int) (items : List (MissionItem K D)) (jumps : List Nat) (within : ∀ jump,
      (jumps ++ (working.readLoop .normal false tries index items).followed).count jump ≤ leftAt items jump) :
    MissionRead.Agrees items jumps (working.readLoop .normal false tries index items)
      (working.readLoop .normal true tries index (counted jumps items)) := by
  induction tries generalizing index jumps with
  | zero => exact ⟨rfl,rfl,congrArg (counted · items) (List.append_nil jumps).symm⟩
  | succ tries ih =>
    rcases pass_cases index items with outside | ⟨k,item,rfl,read,kind⟩
    · have outside' : index < 0 ∨ (counted jumps items).length ≤ index := by
        rw [counted,List.length_mapIdx]
        exact outside
      obtain ⟨_,ahead⟩ := readLoop_outside false tries outside
      obtain ⟨_,real⟩ := readLoop_outside true tries outside'
      rw [ahead,real]
      exact ⟨rfl,rfl,congrArg (counted · items) (List.append_nil jumps).symm⟩
    · have read' := getElem?_counted jumps read
      have here := within k
      rw [List.count_append,leftAt,read,Option.elim_some] at here
      have before : jumps.count k ≤ jumpsLeft item := (Nat.le_add_right _ _).trans here
      rcases kind with other | ⟨jump,done | live⟩
      · -- What is no jump was never counted.
        have none : jumps.count k = 0 := by
          rw [jumpsLeft,other] at before
          exact Nat.eq_zero_of_le_zero before
        rw [none] at read'
        rw [readLoop_item false tries read other,readLoop_item true tries read' other]
        exact ⟨rfl,rfl,congrArg (counted · items) (List.append_nil jumps).symm⟩
      · have done' : jumpsLeft (addJumps (jumps.count k) item) = 0 := by rw [jumpsLeft_addJumps,done,Nat.zero_sub]
        rw [readLoop_passed false tries read jump done] at within ⊢
        rw [readLoop_passed true tries read' jump done']
        exact (ih (k+1) jumps within).tell _ _
      · rw [readLoop_followed false tries read jump live] at within here ⊢
        have once :
            (MissionRead.follow k (working.readLoop .normal false tries item.doJumpMissionIndex items)).followed.count k =
              (working.readLoop .normal false tries item.doJumpMissionIndex items).followed.count k+1 :=
          List.count_cons_self
        have live' : 0 < jumpsLeft (addJumps (jumps.count k) item) := by
          rw [jumpsLeft_addJumps]
          rw [if_neg Bool.false_ne_true] at here
          omega
        rw [readLoop_followed true tries read' jump live',if_pos rfl,counted_set jumps read]
        refine (ih item.doJumpMissionIndex (jumps ++ [k]) fun other => ?_).follow
        rw [List.append_assoc]
        exact within other

lemma readLoop_more {index : Int} (found : (working.readLoop .normal false tries index items).item.isSome) :
    working.readLoop .normal false (tries+1) index items = working.readLoop .normal false tries index items := by
  induction tries generalizing index with
  | zero => cases found
  | succ tries ih =>
    rcases pass_cases index items with outside | ⟨k,item,rfl,read,kind⟩
    · obtain ⟨_,result⟩ := readLoop_outside false tries outside
      rw [result] at found
      cases found
    · rcases kind with other | ⟨jump,done | live⟩
      · rw [readLoop_item false _ read other,readLoop_item false _ read other]
      · rw [readLoop_passed false tries read jump done] at found ⊢
        rw [readLoop_passed false _ read jump done,ih found]
      · rw [readLoop_followed false tries read jump live] at found ⊢
        rw [readLoop_followed false _ read jump live,if_neg Bool.false_ne_true,ih found]

lemma readLoop_plain {index : Int} (found : (working.readLoop .normal false (tries+1) index items).item.isSome)
    (plain : (working.readLoop .normal false (tries+1) index items).followed = []) :
    (working.readLoop .normal false (tries+1) index items).index = index ∨
      working.readLoop .normal false (tries+1) index items =
        working.readLoop .normal false (tries+1) (index+1) items := by
  rcases pass_cases index items with outside | ⟨k,item,rfl,read,kind⟩
  · obtain ⟨_,result⟩ := readLoop_outside false tries outside
    rw [result] at found
    cases found
  · rcases kind with other | ⟨jump,done | live⟩
    · rw [readLoop_item false tries read other]
      exact .inl rfl
    · rw [readLoop_passed false tries read jump done] at found ⊢
      rw [readLoop_more found]
      exact .inr rfl
    · rw [readLoop_followed false tries read jump live] at plain
      cases plain

end MissionAccess

namespace Mission
open MissionAccess

inductive NextPosition : Mission K D → MissionItem K D → Prop
  | here {m : Mission K D} {item : MissionItem K D} (read : m.nextRead.item = some item)
      (position : itemContainsPosition item = true) : NextPosition m item
  | later {m : Mission K D} {other item : MissionItem K D} (read : m.nextRead.item = some other)
      (passed : itemContainsPosition other = false) (next : NextPosition (m.flyOn []) item) : NextPosition m item

/-- No read of the search takes a jump more often than it is left, and one that jumps ends the search. -/
def foreseeableFrom (m : Mission K D) : Nat → Int → Bool
  | 0,_ => true
  | tries+1,offset =>
    let read := m.readMissionItem .working offset
    read.followed.all (fun jump => read.followed.count jump ≤ leftAt m.items jump) && read.item.elim true fun item =>
        itemContainsPosition item || read.followed.isEmpty && foreseeableFrom m tries (offset+1)

def foreseeable (m : Mission K D) : Bool := m.foreseeableFrom (m.items.length+1) 1

def glance (m : Mission K D) (index : Int) : MissionRead K D := working.readLoop .normal false 10 index m.items

def heading (m : Mission K D) (index : Int) : Mission K D := {m with currentMissionIndex := index-1}

variable {m : Mission K D} {item : MissionItem K D} {index : Int}

lemma nextPosition_none (failed : m.nextRead.item = none) : ¬NextPosition m item := by
  intro next
  cases next with
  | here read | later read => exact nomatch failed.symm.trans read

variable {other : MissionItem K D}

lemma nextPosition_here (read : m.nextRead.item = some other)
    (position : itemContainsPosition other) : NextPosition m item ↔ other = item := by
  constructor
  · intro next
    cases next with
    | here read' => exact Option.some.inj (read.symm.trans read')
    | later read' passed =>
      cases Option.some.inj (read.symm.trans read')
      exact nomatch position.symm.trans passed
  · rintro rfl
    exact .here read position

lemma nextPosition_later (read : m.nextRead.item = some other)
    (passed : itemContainsPosition other = false) : NextPosition m item ↔ NextPosition (m.flyOn []) item := by
  constructor
  · intro next
    cases next with
    | here read' position =>
      cases Option.some.inj (read.symm.trans read')
      exact nomatch position.symm.trans passed
    | later _ _ next => exact next
  · exact .later read passed

lemma Flies.heading (flies : m.Flies) (index : Int) : (m.heading index).Flies :=
  ⟨flies.normal,flies.free,flies.active⟩

lemma Flies.readMissionItem (flies : m.Flies) (some : m.items ≠ []) {offset : Int} (ahead : offset ≠ 0) :
    m.readMissionItem .working offset = m.glance (m.currentMissionIndex+offset) := by
  rw [Mission.readMissionItem,if_neg (List.length_eq_zero_iff.not.mpr some),flies.normal,decide_eq_false ahead]
  rfl

lemma Flies.nextRead (flies : m.Flies) (some : m.items ≠ []) :
    m.nextRead = working.readLoop .normal true 10 (m.currentMissionIndex+1) m.items := by
  rw [Mission.nextRead,flies.advance,Mission.readMissionItem,if_neg (List.length_eq_zero_iff.not.mpr some)]
  rw [flies.normal,Int.add_zero]
  rfl

lemma glance_plain (found : (m.glance index).item.isSome) (plain : (m.glance index).followed = []) :
    (m.glance index).index = index ∨ m.glance index = m.glance (index+1) := readLoop_plain found plain

section
variable (flies : m.Flies) (some : m.items ≠ [])
include flies some

lemma Flies.agrees (index : Int) (within : ∀ jump, (m.glance index).followed.count jump ≤ leftAt m.items jump) :
    MissionRead.Agrees m.items [] (m.glance index) (m.heading index).nextRead := by
  have real := (flies.heading index).nextRead some
  have place : (m.heading index).currentMissionIndex+1 = index := Int.sub_add_cancel index 1
  rw [place] at real
  have agrees := readLoop_agrees 10 index m.items [] within
  rw [counted_nil] at agrees
  rw [real]
  exact agrees

lemma Flies.passes (plain : (m.glance index).followed = [])
    (read : (m.glance index).item = .some other) (passed : itemContainsPosition other = false) :
    NextPosition (m.heading index) item ↔ NextPosition (m.heading ((m.glance index).index+1)) item := by
  have agrees := flies.agrees some index (fun jump => by rw [plain]; exact Nat.zero_le _)
  rw [nextPosition_later (agrees.item.trans read) passed]
  have items : (m.heading index).nextRead.items = m.items := by
    rw [agrees.items,plain]
    exact counted_nil
  have behind (place : Int) : m.heading (place+1) = {m with currentMissionIndex := place} := by
    rw [Mission.heading,Int.add_sub_cancel]
  have on : (m.heading index).flyOn [] = m.heading ((m.glance index).index+1) := by
    have after : (m.heading index).flyOn [] = {(m.heading index).advanceMission .working with
      items := (m.heading index).nextRead.items, currentMissionIndex := (m.heading index).nextRead.index} := rfl
    rw [after,behind,items,agrees.index,(flies.heading index).advance]
    rfl
  rw [on]

lemma Flies.search_iff {tries : Nat} {offset : Int} (ahead : 0 < offset)
    (enough : m.items.length < m.currentMissionIndex+offset+tries)
    (foreseeable : m.foreseeableFrom tries offset) :
    (m.searchPosition .working tries offset).1 = .some item ↔
      NextPosition (m.heading (m.currentMissionIndex+offset)) item := by
  induction tries generalizing offset with
  | zero =>
    have real := (flies.heading (m.currentMissionIndex+offset)).nextRead some
    have place : (m.heading (m.currentMissionIndex+offset)).currentMissionIndex+1 =
      m.currentMissionIndex+offset :=
      Int.sub_add_cancel _ 1
    have beyond : m.currentMissionIndex+offset < 0 ∨ m.items.length ≤ m.currentMissionIndex+offset :=
      .inr (by omega)
    obtain ⟨_,outside⟩ := readLoop_outside true 9 beyond
    rw [place] at real
    have failed : (m.heading (m.currentMissionIndex+offset)).nextRead.item = none := by
      rw [real]
      exact congrArg MissionRead.item outside
    exact ⟨fun found => (nomatch found),fun next => absurd next (nextPosition_none failed)⟩
  | succ tries ih =>
    rw [foreseeableFrom,Bool.and_eq_true] at foreseeable
    rw [searchPosition]
    rw [flies.readMissionItem some (by omega)] at foreseeable ⊢
    obtain ⟨often,rest⟩ := foreseeable
    generalize place : m.currentMissionIndex+offset = index at often rest ⊢
    have within : ∀ jump, (m.glance index).followed.count jump ≤ leftAt m.items jump := by
      intro jump
      by_cases member : jump ∈ (m.glance index).followed
      · exact of_decide_eq_true (List.all_eq_true.mp often jump member)
      · rw [List.count_eq_zero_of_not_mem member]
        exact Nat.zero_le _
    have agrees := flies.agrees some index within
    cases read : (m.glance index).item with
    | none => exact ⟨fun found => (nomatch found),fun next => absurd next (nextPosition_none (agrees.item.trans read))⟩
    | some other =>
      rw [read,Option.elim_some] at rest
      rw [Option.elim_some]
      cases position : itemContainsPosition other with
      | true =>
        rw [nextPosition_here (agrees.item.trans read) position]
        exact ⟨Option.some.inj,congrArg Option.some⟩
      | false =>
        rw [position,Bool.false_or,Bool.and_eq_true] at rest
        have plain : (m.glance index).followed = [] := List.isEmpty_iff.mp rest.1
        have forward : m.currentMissionIndex+(offset+1) = index+1 := by omega
        have next : (m.searchPosition .working tries (offset+1)).1 = .some item ↔
            NextPosition (m.heading (m.currentMissionIndex+(offset+1))) item := ih (by omega) (by omega) rest.2
        rw [forward] at next
        have direction : m.missionExecutionMode ≠ .reverse := by
          rw [flies.normal]
          decide
        simp only [direction,if_false,Bool.false_eq_true]
        rw [next,flies.passes some plain read position]
        rcases glance_plain (by rw [read]; rfl) plain with here | same
        · rw [here]
        · rw [same] at plain read ⊢
          exact flies.passes some plain read position

end

/-- With a current item, the next position item is reported exactly if the flight comes to it first. -/
def Predicts (m : Mission K D) : Prop :=
  (m.readMissionItem .working 0).item.isSome = true → ∀ wantsAfterNext item,
    (m.prepareMissionItems .working wantsAfterNext).next = some item ↔ NextPosition (m.afterRead .working 0) item

/-- Looking ahead predicts the flight where no read takes a jump too often, or to an item without a position. -/
theorem look_ahead_predicts (m : Mission K D) (flies : m.Flies)
    (foreseeable : (m.afterRead .working 0).foreseeable = true) : m.Predicts := by
  intro available wantsAfterNext item
  have counted := flies.counted_current
  obtain ⟨low,high,_⟩ := counted.found available
  have flies' : (m.afterRead .working 0).Flies := ⟨flies.normal,flies.free,flies.active⟩
  have index : (m.afterRead .working 0).currentMissionIndex = (m.readMissionItem .working 0).index := rfl
  have length : (m.afterRead .working 0).items.length = m.items.length := counted.length
  have some : (m.afterRead .working 0).items ≠ [] := by
    intro empty
    rw [empty,List.length_nil] at length
    omega
  have next : (m.prepareMissionItems .working wantsAfterNext).next =
      ((m.afterRead .working 0).searchPosition .working ((m.afterRead .working 0).items.length+1) 1).1 := by
    rw [prepareMissionItems]
    rw [if_pos available,flies'.normal]
    rfl
  have here : (m.afterRead .working 0).heading ((m.afterRead .working 0).currentMissionIndex+1) =
    m.afterRead .working 0 := by
    rw [heading,Int.add_sub_cancel]
  rw [next,flies'.search_iff some Int.one_pos (by omega) foreseeable,here]

theorem look_ahead_predicts_round : (round .default).Flies ∧
    ((round .default).afterRead .working 0).foreseeable = true ∧
    (round .default).Predicts :=
  ⟨⟨rfl,rfl,rfl⟩,by decide +kernel,look_ahead_predicts _ ⟨rfl,rfl,rfl⟩ (by decide +kernel)⟩

/-! A jump to a change of speed, with one waypoint before it and one behind it. -/

def changeSpeed : MissionItem Int Int := {(.zero : MissionItem Int Int) with navCmd := MavCmd.doChangeSpeed.number}

def detour : Mission Int Int := ⟨[waypoint 1,jumpTo 3 1,waypoint 2,changeSpeed,waypoint 3],0,.normal,.default,true⟩

/-- The waypoint before the change of speed is reported, and the one behind it is flown to. -/
theorem detour_not_predicted : detour.Flies ∧ ¬ detour.Predicts := by
  refine ⟨⟨rfl,rfl,rfl⟩,fun predicts => ?_⟩
  have reported : (detour.prepareMissionItems .working false).next = some (waypoint 2) := rfl
  have next := (predicts rfl false (waypoint 2)).mp reported
  have speed : (detour.afterRead .working 0).nextRead.item = some changeSpeed := rfl
  have behind : ((detour.afterRead .working 0).flyOn []).nextRead.item = some (waypoint 3) := rfl
  have same := (nextPosition_here behind rfl).mp ((nextPosition_later speed rfl).mp next)
  exact absurd (congrArg MissionItem.lat same) (by decide)

end Mission
end AerialManipulator
