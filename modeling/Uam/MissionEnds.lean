import Uam.Library.Runs
import Uam.MissionFlight

/-! Missions with jumps end. Each jump is counted where it is stored, and between two jumps the index goes up. -/
namespace AerialManipulator
open Runs
variable {K D : Type}

def leftAt (items : List (MissionItem K D)) (jump : Nat) : Nat := items[jump]?.elim 0 jumpsLeft

def leftAll (items : List (MissionItem K D)) : Nat := (items.map jumpsLeft).sum

section
variable {items : List (MissionItem K D)} {k : Nat} {item : MissionItem K D}

lemma jumpsLeft_countJump (live : 0 < jumpsLeft item) : jumpsLeft (countJump item)+1 = jumpsLeft item := by
  have same : isJump (countJump item) = isJump item := rfl
  have count : (countJump item).vertexCount = item.vertexCount+1 := rfl
  have often : (countJump item).doJumpRepeatCount = item.doJumpRepeatCount := rfl
  unfold jumpsLeft at live ⊢
  rw [same,count,often]
  split_ifs at live ⊢ <;> omega

lemma leftAll_set (read : items[k]? = some item) (live : 0 < jumpsLeft item) :
    leftAll (items.set k (countJump item))+1 = leftAll items := by
  induction items generalizing k with
  | nil => cases read
  | cons first rest ih =>
    cases k with
    | zero =>
      cases read
      have lower := jumpsLeft_countJump live
      simp only [leftAll,List.set_cons_zero,List.map_cons,List.sum_cons]
      omega
    | succ k =>
      have lower := ih read
      simp only [leftAll,List.set_cons_succ,List.map_cons,List.sum_cons] at lower ⊢
      omega

lemma leftAt_set (read : items[k]? = some item) (live : 0 < jumpsLeft item) (jump : Nat) :
    leftAt (items.set k (countJump item)) jump+[k].count jump = leftAt items jump := by
  have bound := (List.getElem?_eq_some_iff.mp read).1
  unfold leftAt
  by_cases same : k = jump
  · subst same
    rw [List.getElem?_set_self bound,read,List.count_singleton_self]
    exact jumpsLeft_countJump live
  · rw [List.getElem?_set_ne same,List.count_singleton,if_neg (by simpa using same)]
    rfl

end

namespace MissionRead

structure Counted (items : List (MissionItem K D)) (index : Int) (read : MissionRead K D) : Prop where
  length : read.items.length = items.length
  each : ∀ jump, leftAt read.items jump+read.followed.count jump = leftAt items jump
  all : leftAll read.items+read.followed.length = leftAll items
  found : read.item.isSome = true → 0 ≤ read.index ∧ read.index < items.length ∧
    (read.followed = [] → index ≤ read.index)

variable {items : List (MissionItem K D)} {k : Nat} {read : MissionRead K D}

lemma counted_failed (items : List (MissionItem K D)) (index place : Int) (messages : List FlightMessage) :
    (⟨none,place,items,[],messages⟩ : MissionRead K D).Counted items index :=
  ⟨rfl,fun _ => rfl,rfl,fun found => absurd found Bool.false_ne_true⟩

lemma Counted.tell (rest : Counted items (k+1) read) (messages : List FlightMessage) :
    (read.tell messages).Counted items k where
  length := rest.length
  each := rest.each
  all := rest.all
  found found := by
    obtain ⟨low,high,ahead⟩ := rest.found found
    exact ⟨low,high,fun none => (Int.le_add_one (le_refl _)).trans (ahead none)⟩

lemma Counted.follow {item : MissionItem K D} (stored : items[k]? = some item) (live : 0 < jumpsLeft item)
    {target : Int} (rest : Counted (items.set k (countJump item)) target read) : (read.follow k).Counted items k where
  length := rest.length.trans List.length_set
  each jump := by
    have followed : (read.follow k).followed.count jump = read.followed.count jump+[k].count jump := by
      rw [Nat.add_comm,← List.count_append]
      rfl
    rw [followed,← leftAt_set stored live jump,← rest.each jump,Nat.add_assoc]
    rfl
  all := by
    rw [← leftAll_set stored live,← rest.all]
    rfl
  found found := by
    obtain ⟨low,high,_⟩ := rest.found found
    rw [List.length_set] at high
    exact ⟨low,high,fun none => (nomatch none)⟩

end MissionRead

namespace MissionAccess

lemma counted_readLoop (tries : Nat) (index : Int) (items : List (MissionItem K D)) :
    (working.readLoop .normal true tries index items).Counted items index := by
  induction tries generalizing index items with
  | zero => exact MissionRead.counted_failed ..
  | succ tries ih =>
    rcases pass_cases index items with outside | ⟨k,item,rfl,read,kind⟩
    · obtain ⟨messages,result⟩ := readLoop_outside true tries outside
      rw [result]
      exact MissionRead.counted_failed ..
    · rcases kind with other | ⟨jump,done | live⟩
      · have bound := (List.getElem?_eq_some_iff.mp read).1
        rw [readLoop_item true tries read other]
        exact ⟨rfl,fun _ => rfl,rfl,fun _ => ⟨Int.natCast_nonneg k,Int.ofNat_lt.mpr bound,fun _ => le_refl _⟩⟩
      · rw [readLoop_passed true tries read jump done]
        exact (ih (k+1) items).tell _
      · rw [readLoop_followed true tries read jump live]
        exact (ih item.doJumpMissionIndex (items.set k (countJump item))).follow read live

lemma items_readLoop_ahead (access : MissionAccess) (mode : MissionExecutionMode) (tries : Nat) (index : Int)
    (items : List (MissionItem K D)) : (access.readLoop mode false tries index items).items = items := by
  induction tries generalizing index with
  | zero => rfl
  | succ tries ih =>
    rw [readLoop]
    split
    · rfl
    cases access.read items index.toNat with
    | none => rfl
    | some item =>
      rw [Option.elim_some]
      split
      · split
        all_goals exact ih _
      · rfl

end MissionAccess

namespace Mission

def lookAhead (m : Mission K D) (offsets : List Int) : Mission K D :=
  offsets.foldl (fun m offset => m.afterRead .working offset) m

def nextRead (m : Mission K D) : MissionRead K D := (m.advanceMission .working).readMissionItem .working 0

def flyOn (m : Mission K D) (offsets : List Int) : Mission K D :=
  ((m.lookAhead offsets).advanceMission .working).afterRead .working 0

def followed (m : Mission K D) (between : List (List Int)) : List Nat :=
  (outputs (fun m offsets => ((m.lookAhead offsets).nextRead.followed,m.flyOn offsets)) m between).flatten

structure Flies (m : Mission K D) : Prop where
  normal : m.missionExecutionMode = .normal
  free : m.workItemType = .default
  active : m.active = true

variable {m : Mission K D}

lemma afterRead_ahead (access : MissionAccess) {offset : Int} (ahead : offset ≠ 0) : m.afterRead access offset = m := by
  have items : (m.readMissionItem access offset).items = m.items := by
    rw [readMissionItem,decide_eq_false ahead]
    split
    · rfl
    · exact MissionAccess.items_readLoop_ahead ..
  rw [afterRead,items,if_neg ahead]

variable {offsets : List Int}

lemma lookAhead_eq (ahead : 0 ∉ offsets) : m.lookAhead offsets = m := by
  induction offsets with
  | nil => rfl
  | cons offset rest ih =>
    rw [List.mem_cons,not_or] at ahead
    rw [lookAhead,List.foldl_cons,afterRead_ahead _ (Ne.symm ahead.1)]
    exact ih ahead.2

section
variable (flies : m.Flies)
include flies

lemma Flies.advance : m.advanceMission .working = {m with currentMissionIndex := m.currentMissionIndex+1} := by
  rw [advanceMission,flies.free,flies.active,flies.normal]
  rfl

lemma Flies.advanced : (m.advanceMission .working).Flies := by
  rw [flies.advance]
  exact ⟨flies.normal,flies.free,flies.active⟩

lemma Flies.flyOn (ahead : 0 ∉ offsets) : (m.flyOn offsets).Flies := by
  rw [Mission.flyOn,lookAhead_eq ahead]
  exact ⟨flies.advanced.normal,flies.advanced.free,flies.advanced.active⟩

lemma Flies.counted_current : (m.readMissionItem .working 0).Counted m.items m.currentMissionIndex := by
  rw [readMissionItem,flies.normal,Int.add_zero]
  split
  · exact MissionRead.counted_failed ..
  · exact MissionAccess.counted_readLoop ..

lemma Flies.counted : m.nextRead.Counted m.items (m.currentMissionIndex+1) := by
  have counted := flies.advanced.counted_current
  rw [flies.advance] at counted
  rw [nextRead,flies.advance]
  exact counted

end

lemma items_flyOn (ahead : 0 ∉ offsets) : (m.flyOn offsets).items = m.nextRead.items := by
  rw [flyOn,lookAhead_eq ahead]
  rfl

lemma index_flyOn (ahead : 0 ∉ offsets) : (m.flyOn offsets).currentMissionIndex = m.nextRead.index := by
  rw [flyOn,lookAhead_eq ahead]
  rfl

def distance (m : Mission K D) : Nat :=
  leftAll m.items * (m.items.length + 1) + (m.items.length - m.currentMissionIndex).toNat

lemma Flies.distance_lt (flies : m.Flies) (ahead : 0 ∉ offsets)
    (found : m.nextRead.item ≠ none) : (m.flyOn offsets).distance < m.distance := by
  have counted := flies.counted
  obtain ⟨low,high,on⟩ := counted.found (Option.isSome_iff_ne_none.mpr found)
  have all := counted.all
  rw [distance,distance,items_flyOn ahead,index_flyOn ahead,counted.length]
  by_cases none : m.nextRead.followed = []
  · rw [none,List.length_nil,Nat.add_zero] at all
    have further := on none
    rw [all]
    omega
  · have some : 0 < m.nextRead.followed.length := List.length_pos_iff.mpr none
    have lower : (leftAll m.nextRead.items + 1) * (m.items.length + 1) ≤ leftAll m.items * (m.items.length + 1) :=
      Nat.mul_le_mul_right _ (by omega)
    rw [Nat.add_mul] at lower
    omega

lemma Flies.followed_le (flies : m.Flies) (ahead : ∀ offsets ∈ between, 0 ∉ offsets)
    (jump : Nat) : (m.followed between).count jump ≤ leftAt m.items jump := by
  induction between generalizing m with
  | nil => exact Nat.zero_le _
  | cons offsets rest ih =>
    obtain ⟨here,later⟩ := List.forall_mem_cons.mp ahead
    have first := flies.counted.each jump
    have next := ih (flies.flyOn here) later
    have split : m.followed (offsets::rest) = m.nextRead.followed ++ (m.flyOn offsets).followed rest := by
      rw [followed,outputs,List.flatten_cons,lookAhead_eq here]
      rfl
    rw [items_flyOn here] at next
    rw [split,List.count_append]
    omega

/-- A mission comes to a read that fails; each jump is followed at most as often as it is left, and
reads ahead change nothing. -/
theorem missions_end (m : Mission K D) (flies : m.Flies) : ∃ bound, ∀ between : List (List Int),
    (∀ offsets ∈ between, 0 ∉ offsets) →
    (bound ≤ between.length → ∃ n ≤ bound, ((between.take n).foldl flyOn m).nextRead.item = none) ∧
      (∀ jump, (m.followed between).count jump ≤ leftAt m.items jump) ∧
      Along flyOn (fun m offsets => m.lookAhead offsets = m) m between := by
  refine ⟨m.distance,fun between ahead => ⟨fun long => ?_,flies.followed_le ahead,?_⟩⟩
  · have admitted : Along flyOn (fun _ offsets => 0 ∉ offsets) m between :=
      along_of_mem (fun e member _ => ahead e member) m
    refine exists_goal Flies (fun m => m.nextRead.item = none) distance (fun _ _ ahead flies => flies.flyOn ahead)
      (fun _ _ ahead flies found => flies.distance_lt ahead found) (fun m flies zero => ?_) admitted flies long
    -- Nothing is left to jump or to fly.
    by_contra found
    obtain ⟨_,high,on⟩ := flies.counted.found (Option.isSome_iff_ne_none.mpr found)
    rw [distance] at zero
    have all := flies.counted.all
    have none : leftAll m.items = 0 := by
      by_contra some
      have positive : 0 < leftAll m.items * (m.items.length + 1) :=
        Nat.mul_pos (Nat.pos_of_ne_zero some) (Nat.succ_pos _)
      omega
    have further := on (List.eq_nil_of_length_eq_zero (by omega))
    omega
  · exact along_of_mem (fun offsets member _ => lookAhead_eq (ahead offsets member)) m

/-! A waypoint, and a jump back to it that is to be repeated twice. -/

def waypoint (number : Int) : MissionItem Int Int :=
  {(.zero : MissionItem Int Int) with navCmd := MavCmd.navWaypoint.number, lat := number}

def jumpTo (target : Int) (repeats : Nat) : MissionItem Int Int :=
  { (.zero : MissionItem Int Int) with
    navCmd := MavCmd.doJump.number, doJumpMissionIndex := target, doJumpRepeatCount := repeats }

def round (workItemType : WorkItemType) : Mission Int Int := ⟨[waypoint 1,jumpTo 0 2],0,.normal,workItemType,true⟩

theorem missions_end_round : (round .default).Flies ∧ ∃ bound, ∀ between : List (List Int),
    (∀ offsets ∈ between, 0 ∉ offsets) →
    (bound ≤ between.length → ∃ n ≤ bound, ((between.take n).foldl flyOn (round .default)).nextRead.item = none) ∧
      (∀ jump, ((round .default).followed between).count jump ≤ leftAt (round .default).items jump) ∧
      Along flyOn (fun m offsets => m.lookAhead offsets = m) (round .default) between :=
  ⟨⟨rfl,rfl,rfl⟩,missions_end _ ⟨rfl,rfl,rfl⟩⟩

/-- While a takeoff is flown before the waypoint, the mission does not advance, and the waypoint is read forever. -/
theorem takeoff_never_ends : (round .takeoff).missionExecutionMode = .normal ∧
    ¬ ∃ n, ((List.replicate n []).foldl flyOn (round .takeoff)).nextRead.item = none := by
  have stays (n : Nat) : (List.replicate n []).foldl flyOn (round .takeoff) = round .takeoff := by
    induction n with
    | zero => rfl
    | succ n ih =>
      have same : (round .takeoff).flyOn [] = round .takeoff := rfl
      rw [List.replicate_succ,List.foldl_cons,same,ih]
  refine ⟨rfl,fun ⟨n,failed⟩ => ?_⟩
  rw [stays] at failed
  cases failed

end Mission
end AerialManipulator
