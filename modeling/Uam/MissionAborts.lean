import Uam.MissionHistory

/-! Uploads that end without acceptance. Waypoints go to a storage of their own; fence and safe
points replace those in force. -/
namespace AerialManipulator
open MissionLists Runs MissionSystem

def MissionMark.before {K D : Type} (lists : MissionLists K D) : MissionMark K D → MissionLists K D → MissionLists K D
  | .opened _ _ _ _,_ => lists
  | _,before => before

section
variable {K D : Type} {t t' : MissionTransfer} {l l' before : MissionLists K D} {items : List (MissionItem K D)}
  {missionType : Nat}

structure Replaced (l before : MissionLists K D) (missionType : Nat) (items : List (MissionItem K D)) : Prop where
  size : l.size missionType = before.size missionType
  stored : missionType ≠ mavMissionTypeMission → ∀ k (bound : k < items.length),
    l.point l.active missionType k = some (.ofItem missionType items[k])
  kept : ∀ k, missionType = mavMissionTypeMission ∨ items.length ≤ k →
    l.point l.active missionType k = before.point before.active missionType k

def Repeated (before : MissionLists K D) (missionType : Nat) (items : List (MissionItem K D)) : Prop :=
  ∀ k (bound : k < items.length), k < before.size missionType →
    before.point before.active missionType k = some (.ofItem missionType items[k])

lemma Replaced.list_iff (replaced : Replaced l before missionType items) :
    l.list missionType = before.list missionType ∨ l.list missionType = [] ↔
      missionType = mavMissionTypeMission ∨ Repeated before missionType items := by
  have list : l.list missionType = before.list missionType ↔ ∀ k, k < before.size missionType →
      l.point l.active missionType k = before.point before.active missionType k := by
    rw [MissionLists.list,MissionLists.list,replaced.size,List.map_inj_left]
    simp only [List.mem_range]
  have empty : l.list missionType = [] → before.size missionType = 0 := by
    intro empty
    rw [MissionLists.list,List.map_eq_nil_iff,List.range_eq_nil] at empty
    rw [← replaced.size,empty]
  constructor
  · intro kept
    by_cases mission : missionType = mavMissionTypeMission
    · exact .inl mission
    refine .inr fun k bound inside => ?_
    rcases kept with same | gone
    · rw [← list.mp same k inside]
      exact replaced.stored mission k bound
    · have none := empty gone
      omega
  · rintro (mission | repeated)
    · exact .inl (list.mpr fun k _ => replaced.kept k (.inl mission))
    refine .inl (list.mpr fun k inside => ?_)
    by_cases bound : k < items.length
    · by_cases mission : missionType = mavMissionTypeMission
      · exact replaced.kept k (.inl mission)
      · rw [replaced.stored mission k bound,repeated k bound inside]
    · exact replaced.kept k (.inr (not_lt.mp bound))

lemma Replaced.put (replaced : Replaced l before t.missionType items) (receiving : Receiving t l items) (small : t.count < 2^16)
    (apart : t.missionType = mavMissionTypeMission → t.datamanId ≠ l.active) (item : MissionItem K D) :
    Replaced (l.put t item) before t.missionType (items ++ [item]) := by
  obtain ⟨length,stored⟩ := receiving.put small item
  refine ⟨(size_put t item _).trans replaced.size,fun other k bound => ?_,fun k outside => ?_⟩
  · rw [point_storage other _ t.datamanId]
    exact stored k bound
  rw [active_put]
  rcases outside with mission | beyond
  · rw [point_put_other item receiving.known fun _ _ => ⟨mission,(apart mission).symm⟩]
    exact replaced.kept k (.inl mission)
  rw [length] at beyond
  rw [point_put_other item receiving.known fun _ next => absurd next (by omega)]
  refine replaced.kept k (.inr ?_)
  rw [(receiving.counted small).1]
  omega

structure Tracked (t : MissionTransfer) (l before : MissionLists K D) (items : List (MissionItem K D)) : Prop where
  small : t.count < 2^16
  receiving : Receiving t l items
  apart : t.missionType = mavMissionTypeMission → t.datamanId ≠ l.active
  replaced : Replaced l before t.missionType items

lemma Tracked.move (move : MissionMove m (t,l) (t',l')) (tracked : t.state = .getlist → Tracked t l before items)
    (fits : ∀ sysid compid missionType count, m = .opened sysid compid missionType count → count < 2^16)
    (busy : t'.state = .getlist) : Tracked t' l' (m.before l before) (m.items items) := by
  have receiving := Receiving.move move (fun busy => (tracked busy).receiving) busy
  cases move.openMove busy with
  | keep => exact tracked busy
  | start missionType count known positive =>
    refine ⟨fits _ _ _ count rfl,receiving,fun _ => inactive_ne_active,rfl,fun _ k bound => ?_,fun _ _ => rfl⟩
    exact absurd bound (Nat.not_lt_zero k)
  | take busy item more =>
    have before := tracked busy
    refine ⟨before.small,receiving,?_,before.replaced.put before.receiving before.small before.apart item⟩
    rw [active_put]
    exact before.apart

lemma Tracked.ends_iff (tracked : Tracked t l before items) (move : MissionMove m (t,l) (t',l'))
    (busy : t.state = .getlist) (ended : t'.state ≠ .getlist) (rejected : ∀ item, m ≠ .completed item) :
    l'.list t.missionType = before.list t.missionType ∨ l'.list t.missionType = [] ↔
      t.missionType = mavMissionTypeMission ∨ m = .emptied ∨ Repeated before t.missionType (m.items items) := by
  cases move with
  | keep | take busy => exact absurd busy ended
  | clear idle | start idle => simp [idle] at busy
  | stop =>
    rw [tracked.replaced.list_iff]
    simp [MissionMark.items]
  | empty busy fence =>
    have gone : (l.setCount mavMissionTypeFence 0).list t.missionType = [] := by
      rw [fence]
      simp [MissionLists.list,size,setCount,mavMissionTypeMission,mavMissionTypeFence]
    simp [gone]
  | download _ _ _ _ _ loaded =>
    have same : l'.list t.missionType = l.list t.missionType := by
      have size : l'.size t.missionType = l.size t.missionType := by
        rw [size,size,loaded.stored]
        split
        next mission =>
          rw [mission,loaded.mission]
        · rfl
      rw [MissionLists.list,MissionLists.list,size,loaded.active]
      refine List.map_congr_left fun k _ => ?_
      rw [point,point,loaded.waypoint,loaded.fencePoint,loaded.safePoint]
    rw [same,tracked.replaced.list_iff]
    simp [MissionMark.items]
  | serve sending => simp [sending] at busy
  | fail busy item last =>
    rw [(tracked.replaced.put tracked.receiving tracked.small tracked.apart item).list_iff]
    simp [MissionMark.items]
  | complete _ item => exact absurd rfl (rejected item)

end

def MissionLists.Served {K D : Type} (l : MissionLists K D) : Prop :=
  ∀ missionType, missionType = mavMissionTypeFence ∨ missionType = mavMissionTypeRally →
    l.count missionType = (l.stored missionType).getD 0

lemma MissionMove.served {K D : Type} {m : MissionMark K D} {t t' : MissionTransfer} {l l' : MissionLists K D}
    (move : MissionMove m (t,l) (t',l')) (served : l.Served) : l'.Served := by
  have other {type : Nat} (known : type = mavMissionTypeFence ∨ type = mavMissionTypeRally) :
      type ≠ mavMissionTypeMission := by
    rcases known with rfl | rfl <;> decide
  have setCount {l : MissionLists K D} (served : l.Served) (own count : Nat) : (l.setCount own count).Served := by
    intro type known
    by_cases eq : type = own
    · subst eq
      simp [setCount]
    · rw [count_setCount eq,stored_setCount eq]
      exact served type known
  have put (item : MissionItem K D) : (l.put t item).Served := by
    rw [put]
    split_ifs <;> exact served
  cases move with
  | keep | stop | serve | start => exact served
  | clear _ _ cleared =>
    intro type known
    rcases cleared.other type (other known) with ⟨count,stored⟩ | ⟨count,stored⟩
    · rw [count,stored]
      exact served type known
    · rw [count,stored]
      rfl
  | empty => exact setCount served mavMissionTypeFence 0
  | download _ _ _ _ _ loaded =>
    intro type known
    rw [loaded.stored]
    rcases loaded.count type with same | read
    · rw [same]
      exact served type known
    · rw [read]
      rfl
  | take _ item | fail _ item => exact put item
  | complete _ item =>
    rw [activate]
    split_ifs
    · intro type known
      rw [count_setActive (other known)]
      exact put item type known
    · exact setCount (put item) t.missionType t.count
    · exact put item

lemma MissionSystem.mark_opened {κ K D : Type} {setup : MissionSetup K D} {s : MissionSystem κ K D} {e : MissionEvent κ K}
    {sysid compid type count : Nat} (opened : s.mark setup e = .opened sysid compid type count) :
    e.count = count := by
  have item (h : MissionHandling K D) (header : MissionHeader) (env : MissionSurroundings) (wp : MavlinkMissionItem K) :
      (if MissionHandling.addressed setup header then h.markItem setup env wp else .other) ≠
        .opened sysid compid type count := by
    rw [MissionHandling.markItem,MissionHandling.markTaken]
    split_ifs <;> simp
  cases e with
  | message i header message env =>
    cases message with
    | missionCount =>
      rw [mark,MissionHandling.mark] at opened
      split at opened
      · cases opened
        rfl
      · cases opened
    | missionItem | missionItemInt => exact absurd opened (item _ _ _ _)
    | _ => cases opened
  | send | checkActiveMission => cases opened

namespace MissionHistory
variable {K D : Type}

def Tracks (s : MissionHistory Unit K D) : Prop := (s.system.manager ()).state = .getlist →
  Tracked (s.system.manager ()).transfer s.system.lists (s.record ()).before (s.record ()).items

lemma tracks_start (store : MissionStore K D) (stateRead fenceRead safeRead : Bool) :
    (start store stateRead fenceRead safeRead : MissionHistory Unit K D).Tracks := fun busy => by cases busy

lemma served_start (store : MissionStore K D) (stateRead : Bool) :
    (start store stateRead true true : MissionHistory Unit K D).system.lists.Served := by
  have entry (type : Nat) (count : (start store stateRead true true : MissionHistory Unit K D).system.lists.count type =
      (store.stats type).elim 0 MissionStatsEntry.numItems) :
      (start store stateRead true true : MissionHistory Unit K D).system.lists.count type =
        ((store.stats type).map MissionStatsEntry.numItems).getD 0 := by
    rw [count]
    cases store.stats type <;> rfl
  rintro type (rfl | rfl)
  · exact entry mavMissionTypeFence rfl
  · exact entry mavMissionTypeRally rfl

variable [Zero K] [Zero D] {setup : MissionSetup K D} {s : MissionHistory Unit K D}

def Ends (setup : MissionSetup K D) (s : MissionHistory Unit K D) (e : MissionEvent Unit K) : Prop :=
  (s.system.manager ()).state = .getlist ∧ ((s.system.step setup e).manager ()).state ≠ .getlist ∧
    ∀ item, s.system.mark setup e ≠ .completed item

def Harmless (setup : MissionSetup K D) (s : MissionHistory Unit K D) (e : MissionEvent Unit K) : Prop :=
  (s.system.step setup e).lists.list (s.system.manager ()).missionType =
      (s.record ()).before.list (s.system.manager ()).missionType ∨
    (s.system.step setup e).lists.list (s.system.manager ()).missionType = []

/-- It has waypoints, or the fence is emptied, or no stored item differs from the one it replaced. -/
def Spares (setup : MissionSetup K D) (s : MissionHistory Unit K D) (e : MissionEvent Unit K) : Prop :=
  (s.system.manager ()).missionType = mavMissionTypeMission ∨ s.system.mark setup e = .emptied ∨
    Repeated (s.record ()).before (s.system.manager ()).missionType ((s.system.mark setup e).items (s.record ()).items)

lemma before_recordAfter (s : MissionHistory Unit K D) (e : MissionEvent Unit K) : (s.recordAfter setup e).before =
    (s.system.mark setup e).before s.system.lists (s.record ()).before := by
  rw [recordAfter]
  cases s.system.mark setup e with
  | other =>
    dsimp only
    split <;> rfl
  | _ => rfl

lemma tracks_step (tracks : s.Tracks) {e : MissionEvent Unit K} (fits : e.count < 2^16) : (s.step setup e).Tracks := by
  intro busy
  have move := s.system.move_step setup e
  have record : (s.step setup e).record () = s.recordAfter setup e := by rw [record_step,if_pos rfl]
  rw [record,before_recordAfter,items_recordAfter]
  exact Tracked.move move tracks (fun sysid compid missionType count opened => mark_opened opened ▸ fits) busy

lemma harmless_iff (tracks : s.Tracks) (ends : s.Ends setup e) : s.Harmless setup e ↔ s.Spares setup e :=
  (tracks ends.1).ends_iff (s.system.move_step setup e) ends.1 ends.2.1 ends.2.2

def cancelledFence : List (MissionEvent Unit Int) :=
  [.message () station (.missionCount 2 mavMissionTypeFence) (working 1),
    .message () station (numberedItem mavMissionTypeFence 0 10) (working 2),
    .message () station (numberedItem mavMissionTypeFence 1 11) (working 3),
    .message () station (.missionCount 2 mavMissionTypeFence) (working 4),
    .message () station (numberedItem mavMissionTypeFence 0 20) (working 5)]

def cancel : MissionEvent Unit Int :=
  .message () station (.missionAck mavMissionOperationCancelled mavMissionTypeFence) (working 6)

end MissionHistory
end AerialManipulator
