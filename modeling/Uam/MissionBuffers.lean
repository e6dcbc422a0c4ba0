import Uam.MissionHistory

/-! Double buffering of the waypoints: uploads go to the storage that is not active. -/
namespace AerialManipulator
open Function MissionLists MissionManager Runs
open MissionSystem (emptyStore station working)

def MissionTransfer.Uploading (t : MissionTransfer) : Prop := t.state = .getlist ∧ t.missionType = mavMissionTypeMission

def MissionMark.inForce {K D : Type} (missionType : Nat) (items : List (MissionItem K D)) :
    MissionMark K D → List (Option (MissionPoint K D)) → List (Option (MissionPoint K D))
  | .completed item,inForce =>
    if missionType = mavMissionTypeMission then (items ++ [item]).map fun item => some (.waypoint item) else inForce
  | _,inForce => inForce

section
variable {κ K D : Type} {t : κ → MissionTransfer} {l : MissionLists K D} {items : κ → List (MissionItem K D)} {inForce : List (Option (MissionPoint K D))} {i : κ}

/-- Uploads of waypoints go to different storages, and not to the active one, with the
waypoints in force, unless empty. -/
structure Buffered (t : κ → MissionTransfer) (l : MissionLists K D) (items : κ → List (MissionItem K D))
    (inForce : List (Option (MissionPoint K D))) : Prop where
  receiving : ∀ i, (t i).Uploading → Receiving (t i) l (items i)
  apart : ∀ i, (t i).Uploading → l.count mavMissionTypeMission = 0 ∨ (t i).datamanId ≠ l.active
  distinct : ∀ i j, (t i).Uploading → (t j).Uploading → (t i).datamanId = (t j).datamanId → i = j
  list : l.count mavMissionTypeMission = 0 ∨ l.list mavMissionTypeMission = inForce

lemma point_mission (datamanId k : Nat) :
    l.point datamanId mavMissionTypeMission k = (l.waypoint datamanId k).map .waypoint := if_pos rfl

lemma list_mission : l.list mavMissionTypeMission =
    (List.range (l.count mavMissionTypeMission)).map fun k => (l.waypoint l.active k).map .waypoint := by
  have size : l.size mavMissionTypeMission = l.count mavMissionTypeMission := if_pos rfl
  rw [list,size]
  exact List.map_congr_left fun k _ => point_mission l.active k

lemma receiving_congr {t : MissionTransfer} {items : List (MissionItem K D)} (active : t.Uploading)
    (receiving : Receiving t l items) (same : l'.waypoint = l.waypoint) : Receiving t l' items := by
  refine ⟨receiving.known,receiving.counted,fun small k bound => ?_⟩
  have stored := receiving.stored small k bound
  rw [active.2,point_mission] at stored ⊢
  rw [same]
  exact stored

lemma waypoint_put_other {t : MissionTransfer} (item : MissionItem K D) (other : t.missionType ≠ mavMissionTypeMission) :
    (l.put t item).waypoint = l.waypoint := by
  rw [put,if_neg other]
  split_ifs <;> rfl

lemma waypoint_put {t : MissionTransfer} (item : MissionItem K D) (other : datamanId ≠ t.datamanId) (k : Nat) :
    (l.put t item).waypoint datamanId k = l.waypoint datamanId k := by
  by_cases mission : t.missionType = mavMissionTypeMission
  · rw [put,if_pos mission]
    exact congrFun (update_of_ne other ..) k
  · rw [waypoint_put_other item mission]

lemma count_put (t : MissionTransfer) (item : MissionItem K D) : (l.put t item).count = l.count := by
  rw [put]
  split_ifs <;> rfl

lemma mission_activate {t : MissionTransfer} (other : t.missionType ≠ mavMissionTypeMission) :
    (l.activate t).waypoint = l.waypoint ∧ (l.activate t).active = l.active ∧
      (l.activate t).count mavMissionTypeMission = l.count mavMissionTypeMission := by
  rw [activate,if_neg other]
  split
  · exact ⟨rfl,rfl,count_setCount other.symm t.count⟩
  · exact ⟨rfl,rfl,rfl⟩

lemma Buffered.put (kept : Buffered t l items inForce) (active : (t i).Uploading) (item : MissionItem K D) :
    (∀ j, j ≠ i → (t j).Uploading → Receiving (t j) (l.put (t i) item) (items j)) ∧
      (l.count mavMissionTypeMission = 0 ∨ (l.put (t i) item).list mavMissionTypeMission = inForce) := by
  constructor
  · intro j ne other
    have apart : (t j).datamanId ≠ (t i).datamanId := fun same => ne (kept.distinct j i other active same)
    have receiving := kept.receiving j other
    refine ⟨receiving.known,receiving.counted,fun small k bound => ?_⟩
    have stored := receiving.stored small k bound
    rw [other.2,point_mission] at stored ⊢
    rw [waypoint_put item apart]
    exact stored
  · rcases kept.apart i active with empty | apart
    · exact .inl empty
    · refine kept.list.imp_right fun list => ?_
      rw [← list,list_mission,list_mission,count_put,active_put]
      exact List.map_congr_left fun k _ => by rw [waypoint_put item apart.symm]

lemma Buffered.kept (kept : Buffered t l items inForce) (move : MissionMove m (t i,l) (t',l'))
    (bound : k < l.count mavMissionTypeMission) : l'.waypoint l.active k = l.waypoint l.active k := by
  have put (busy : (t i).state = .getlist) (item : MissionItem K D) :
      (l.put (t i) item).waypoint l.active k = l.waypoint l.active k := by
    by_cases mission : (t i).missionType = mavMissionTypeMission
    · rcases kept.apart i ⟨busy,mission⟩ with empty | apart
      · omega
      · exact waypoint_put item apart.symm k
    · rw [waypoint_put_other item mission]
  cases move with
  | keep => rfl
  | stop => rfl
  | empty => rfl
  | serve => rfl
  | start => rfl
  | clear _ _ cleared => rw [cleared.waypoint]
  | download _ _ _ _ _ loaded => rw [loaded.waypoint]
  | take busy item | fail busy item => exact put busy item
  | complete busy item =>
    rw [← put busy item,activate]
    split_ifs <;> rfl

variable [DecidableEq κ]

lemma uploading_update (other : ¬t'.Uploading) (active : (update t i t' j).Uploading) : j ≠ i ∧ (t j).Uploading := by
  have ne : j ≠ i := by
    rintro rfl
    rw [update_self] at active
    exact other active
  rw [update_of_ne ne] at active
  exact ⟨ne,active⟩

section
variable (kept : Buffered t l items inForce)
include kept

lemma Buffered.other (quiet : ¬t'.Uploading) (waypoint : l'.waypoint = l.waypoint)
    (mission : (l'.active = l.active ∧ l'.count mavMissionTypeMission = l.count mavMissionTypeMission) ∨
      l'.count mavMissionTypeMission = 0) (new : List (MissionItem K D)) :
    Buffered (update t i t') l' (update items i new) inForce := by
  refine ⟨fun j uploading => ?_,fun j uploading => ?_,fun j k first second same => ?_,?_⟩
  · obtain ⟨ne,uploading⟩ := uploading_update quiet uploading
    rw [update_of_ne ne,update_of_ne ne]
    exact receiving_congr uploading (kept.receiving j uploading) waypoint
  · obtain ⟨ne,uploading⟩ := uploading_update quiet uploading
    rw [update_of_ne ne]
    rcases mission with ⟨active,count⟩ | empty
    · rw [active,count]
      exact kept.apart j uploading
    · exact .inl empty
  · obtain ⟨ne,first⟩ := uploading_update quiet first
    obtain ⟨ne',second⟩ := uploading_update quiet second
    rw [update_of_ne ne,update_of_ne ne'] at same
    exact kept.distinct j k first second same
  · rcases mission with ⟨active,count⟩ | empty
    · rw [count]
      refine kept.list.imp_right fun list => ?_
      rw [← list,list_mission,list_mission,waypoint,count,active]
    · exact .inl empty

lemma Buffered.take (active : (t i).Uploading) (item : MissionItem K D)
    (receiving : t'.Uploading → Receiving t' (l.put (t i) item) (items i ++ [item])) (same : t'.datamanId = (t i).datamanId) :
    Buffered (update t i t') (l.put (t i) item) (update items i (items i ++ [item])) inForce := by
  have old {j : κ} (other : (update t i t' j).Uploading) : (t j).Uploading := by
    by_cases eq : j = i
    · rw [eq]
      exact active
    · rw [update_of_ne eq] at other
      exact other
  have storage (j : κ) : (update t i t' j).datamanId = (t j).datamanId := by
    by_cases eq : j = i
    · rw [eq,update_self,same]
    · rw [update_of_ne eq]
  obtain ⟨others,list⟩ := kept.put active item
  refine ⟨fun j other => ?_,fun j other => ?_,fun j k first second shared => ?_,?_⟩
  · by_cases eq : j = i
    · subst eq
      rw [update_self] at other
      rw [update_self,update_self]
      exact receiving other
    · have other := old other
      rw [update_of_ne eq,update_of_ne eq]
      exact others j eq other
  · rw [storage,count_put,active_put]
    exact kept.apart j (old other)
  · rw [storage,storage] at shared
    exact kept.distinct j k (old first) (old second) shared
  · rw [count_put]
    exact list

lemma Buffered.complete (active : (t i).Uploading) (item : MissionItem K D)
    (last : ((t i).seq + 1) % 2^16 = (t i).count) (idle : ¬t'.Uploading) (same : t'.datamanId = (t i).datamanId) :
    Buffered (update t i t') ((l.put (t i) item).activate (t i)) (update items i (items i ++ [item]))
      ((items i ++ [item]).map fun item => some (.waypoint item)) := by
  have small : (t i).count < 2^16 := by omega
  have activated : (l.put (t i) item).activate (t i) = (l.put (t i) item).setActive (t i).datamanId (t i).count :=
    if_pos active.2
  have taken := kept.take active item (fun busy => absurd busy idle) same
  rw [activated]
  refine ⟨fun j other => ?_,fun j other => ?_,taken.distinct,.inr ?_⟩
  · exact receiving_congr other (taken.receiving j other) rfl
  · obtain ⟨ne,other⟩ := uploading_update idle other
    rw [update_of_ne ne]
    exact .inr fun shared => ne (kept.distinct j i other active shared)
  · obtain ⟨length,stored⟩ := (kept.receiving i active).put small item
    have next := ((kept.receiving i active).counted small).2
    have count : (items i ++ [item]).length = (t i).count := by rw [length,← last,Nat.mod_eq_of_lt (by omega)]
    rw [list_mission]
    apply List.ext_getElem
    · simp [setActive,← count]
    intro k bound bound'
    have received : k < (items i ++ [item]).length := by simpa using bound'
    have point := stored k received
    rw [active.2,point_mission,MissionPoint.ofItem,if_pos rfl] at point
    rw [List.getElem_map,List.getElem_map,List.getElem_range]
    exact point

lemma Buffered.start (receiving : Receiving t' l [])
    (inactive : t'.datamanId = l.inactive) (free : ∀ j, (t j).Uploading → (t j).datamanId ≠ l.inactive) :
    Buffered (update t i t') l (update items i []) inForce := by
  refine ⟨fun j other => ?_,fun j other => ?_,fun j k first second shared => ?_,kept.list⟩
  · by_cases eq : j = i
    · rw [eq,update_self,update_self]
      exact receiving
    · rw [update_of_ne eq] at other
      rw [update_of_ne eq,update_of_ne eq]
      exact kept.receiving j other
  · by_cases eq : j = i
    · rw [eq,update_self,inactive]
      exact .inr inactive_ne_active
    · rw [update_of_ne eq] at other ⊢
      exact kept.apart j other
  · by_cases first' : j = i <;> by_cases second' : k = i
    · rw [first',second']
    · rw [update_of_ne second'] at second
      rw [first',update_self,update_of_ne second',inactive] at shared
      exact absurd shared.symm (free k second)
    · rw [update_of_ne first'] at first
      rw [second',update_self,update_of_ne first',inactive] at shared
      exact absurd shared (free j first)
    · rw [update_of_ne first'] at first shared
      rw [update_of_ne second'] at second shared
      exact kept.distinct j k first second shared

lemma Buffered.move (move : MissionMove m (t i,l) (t',l'))
    (free : ∀ sysid compid count, m = .opened sysid compid mavMissionTypeMission count →
      ∀ j, (t j).Uploading → (t j).datamanId ≠ l.inactive) :
    Buffered (update t i t') l' (update items i (m.items (items i)))
      (m.inForce (t i).missionType (items i) inForce) := by
  have stopped {w : WpmState} {t' : MissionTransfer} (state : t'.state = w) (free : w ≠ .getlist) : ¬t'.Uploading :=
    fun uploading => free (state.symm.trans uploading.1)
  cases move with
  | keep =>
    rw [update_eq_self]
    have same : update items i (items i) = items := update_eq_self i items
    rw [MissionMark.items,same]
    exact kept
  | clear idle missionType cleared =>
    refine kept.other ?_ cleared.waypoint cleared.mission _
    exact stopped idle (by simp)
  | stop =>
    refine kept.other ?_ rfl (.inl ⟨rfl,rfl⟩) _
    exact stopped rfl (by simp)
  | empty =>
    have waypoint : (l.setCount mavMissionTypeFence 0).waypoint = l.waypoint := rfl
    refine kept.other ?_ waypoint
      (.inl ⟨rfl,count_setCount (by decide) 0⟩) _
    exact stopped rfl (by simp)
  | download _ missionType count sysid compid loaded =>
    refine kept.other ?_ loaded.waypoint (.inl ⟨loaded.active,loaded.mission⟩) _
    exact stopped rfl (by simp)
  | serve sending notBusy =>
    refine kept.other ?_ rfl (.inl ⟨rfl,rfl⟩) _
    exact stopped rfl notBusy
  | start idle missionType count known positive =>
    by_cases mission : missionType = mavMissionTypeMission
    · refine kept.start ⟨known,fun _ => ⟨rfl,positive⟩,fun _ k bound => absurd bound (Nat.not_lt_zero k)⟩ rfl ?_
      exact free _ _ count (by rw [mission])
    · refine kept.other ?_ rfl (.inl ⟨rfl,rfl⟩) _
      exact fun uploading => mission uploading.2
  | take busy item more =>
    by_cases mission : (t i).missionType = mavMissionTypeMission
    · refine kept.take ⟨busy,mission⟩ item (fun _ => ?_) rfl
      exact Receiving.move (.take busy item more l) (fun _ => kept.receiving i ⟨busy,mission⟩) busy
    · refine kept.other ?_ (waypoint_put_other item mission) (.inl ⟨active_put (t i) item,by rw [count_put]⟩) _
      exact fun uploading => mission uploading.2
  | fail busy item last =>
    by_cases mission : (t i).missionType = mavMissionTypeMission
    · refine kept.take ⟨busy,mission⟩ item (fun uploading => absurd uploading ?_) rfl
      exact stopped rfl (by simp)
    · refine kept.other ?_ (waypoint_put_other item mission) (.inl ⟨active_put (t i) item,by rw [count_put]⟩) _
      exact stopped rfl (by simp)
  | complete busy item last =>
    by_cases mission : (t i).missionType = mavMissionTypeMission
    · rw [MissionMark.inForce,if_pos mission]
      refine kept.complete ⟨busy,mission⟩ item last ?_ rfl
      exact stopped rfl (by simp)
    · rw [MissionMark.inForce,if_neg mission]
      obtain ⟨waypoint,active,count⟩ := mission_activate (l := l.put (t i) item) mission
      refine kept.other ?_ (waypoint.trans (waypoint_put_other item mission))
        (.inl ⟨active.trans (active_put (t i) item),count.trans (by rw [count_put])⟩) _
      exact stopped rfl (by simp)

end
end

namespace MissionSystem
variable {κ K D : Type}

/-- Waypoints are uploaded while another upload goes to the same storage. -/
def Overlaps (setup : MissionSetup K D) (s : MissionSystem κ K D) (e : MissionEvent κ K) : Prop :=
  (∃ sysid compid count, s.mark setup e = .opened sysid compid mavMissionTypeMission count) ∧
    ∃ j, (s.manager j).transfer.Uploading ∧ (s.manager j).transferDatamanId = s.lists.inactive

end MissionSystem

namespace MissionHistory
variable {κ K D : Type} {setup : MissionSetup K D} {s : MissionHistory κ K D}

def Buffered (s : MissionHistory κ K D) : Prop :=
  AerialManipulator.Buffered (fun i => (s.system.manager i).transfer) s.system.lists (fun i => (s.record i).items) s.inForce

/-- The active storage has the waypoints of the last accepted upload, or there is none. -/
def Intact (s : MissionHistory κ K D) : Prop :=
  s.system.lists.count mavMissionTypeMission = 0 ∨ s.system.lists.list mavMissionTypeMission = s.inForce

lemma buffered_start (store : MissionStore K D) (stateRead fenceRead safeRead : Bool) :
    (start store stateRead fenceRead safeRead : MissionHistory κ K D).Buffered where
  receiving := fun _ uploading => absurd uploading.1 (by simp [start,MissionSystem.start,fresh,transfer])
  apart := fun _ uploading => absurd uploading.1 (by simp [start,MissionSystem.start,fresh,transfer])
  distinct := fun _ _ uploading => absurd uploading.1 (by simp [start,MissionSystem.start,fresh,transfer])
  list := .inr rfl

variable [DecidableEq κ] [Zero K] [Zero D]

lemma buffered_step (kept : s.Buffered) (disjoint : ¬s.system.Overlaps setup e) : (s.step setup e).Buffered := by
  have move := s.system.move_step setup e
  have moved := AerialManipulator.Buffered.move (i := e.manager) kept move
    fun sysid compid count opened j uploading shared => disjoint ⟨⟨sysid,compid,count,opened⟩,j,uploading,shared⟩
  have transfer : (fun i => ((s.step setup e).system.manager i).transfer) =
      update (fun i => (s.system.manager i).transfer) e.manager
        ((s.system.step setup e).manager e.manager).transfer := by
    funext i
    rw [update_apply]
    split
    next eq =>
      rw [eq]
      rfl
    next ne =>
      exact congrArg transfer (s.system.manager_step_other setup ne)
  have items : (fun i => ((s.step setup e).record i).items) = update (fun i => (s.record i).items) e.manager
      ((s.system.mark setup e).items (s.record e.manager).items) := by
    funext i
    rw [update_apply,← items_recordAfter,record_step]
    split <;> rfl
  have inForce : (s.step setup e).inForce = (s.system.mark setup e).inForce
      (s.system.manager e.manager).missionType (s.record e.manager).items s.inForce := by
    rw [step,inForceAfter]
    cases s.system.mark setup e <;> rfl
  rw [Buffered,transfer,items,inForce]
  exact moved

/-- If no two uploads of waypoints go to one storage, the active mission is what one upload
brought, and no event changes it. -/
theorem active_mission_intact (setup : MissionSetup K D) (store : MissionStore K D) (stateRead fenceRead safeRead : Bool)
    (events : List (MissionEvent κ K))
    (disjoint : Along (step setup) (fun s e => ¬ s.system.Overlaps setup e)
      (start store stateRead fenceRead safeRead) events) :
    (events.foldl (step setup) (start store stateRead fenceRead safeRead)).Intact ∧
      Along (step setup) (fun s e => ∀ k, k < s.system.statics.count mavMissionTypeMission →
          (s.step setup e).system.store.waypoint s.system.statics.datamanId k =
            s.system.store.waypoint s.system.statics.datamanId k)
        (start store stateRead fenceRead safeRead) events := by
  have first : (start store stateRead fenceRead safeRead : MissionHistory κ K D).Buffered :=
    buffered_start store stateRead fenceRead safeRead
  constructor
  · have last := foldl_invariant Buffered (fun s e disjoint buffered => buffered_step buffered disjoint) disjoint first
    exact last.list
  · refine along_of_invariant Buffered (fun s e disjoint buffered => buffered_step buffered disjoint) ?_ disjoint first
    intro s e _ buffered k bound
    exact AerialManipulator.Buffered.kept (i := e.manager) buffered (s.system.move_step setup e) bound

def singleUpload : List (MissionEvent Bool Int) :=
  [.message true station (.missionCount 1 mavMissionTypeMission) (working 1),
    .message true station (numberedItem mavMissionTypeMission 0 10) (working 2)]

theorem active_mission_single_upload :
    (singleUpload.foldl (step numbered) (start emptyStore true true true)).Intact := by
  have disjoint : Along (step numbered) (fun s e => ¬ s.system.Overlaps numbered e)
      (start emptyStore true true true) singleUpload := by
    refine ⟨?_,?_,trivial⟩
    · rintro ⟨_,j,⟨busy,_⟩,_⟩
      cases busy
    · rintro ⟨⟨_,_,_,opened⟩,_⟩
      cases opened
  exact (active_mission_intact numbered emptyStore true true true singleUpload disjoint).1

def mixedUploads : List (MissionEvent Bool Int) :=
  [.message true station (.missionCount 2 mavMissionTypeMission) (working 1),
    .message false station (.missionRequestList mavMissionTypeMission) (working 1),
    .send false (working 6000000),
    .message false station (.missionCount 2 mavMissionTypeMission) (working 6000000),
    .message true station (numberedItem mavMissionTypeMission 0 10) (working 6000000),
    .message false station (numberedItem mavMissionTypeMission 0 20) (working 6000000),
    .message true station (numberedItem mavMissionTypeMission 1 11) (working 6000000)]

theorem active_mission_mixed :
    ¬ (mixedUploads.foldl (step numbered) (start emptyStore true true true)).Intact := by
  rintro (empty | same)
  · revert empty
    decide +kernel
  · have numbers := congrArg (List.map (Option.map MissionPoint.number)) same
    revert numbers
    decide +kernel

end MissionHistory
end AerialManipulator
