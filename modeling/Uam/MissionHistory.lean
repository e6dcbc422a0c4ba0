import Uam.MissionTransfer
import Uam.MissionUpload

/-! Runs of the managers with what there is to remember of each upload: its opener, its items,
the lists before and after. -/
namespace AerialManipulator
open Function

inductive MissionPoint (K D : Type)
  | waypoint (item : MissionItem K D)
  | fence (point : MissionFencePoint K D)
  | safe (point : MissionSafePoint K D)

def MissionPoint.ofItem {K D : Type} (missionType : Nat) (item : MissionItem K D) : MissionPoint K D :=
  if missionType = mavMissionTypeMission then .waypoint item
  else if missionType = mavMissionTypeFence then .fence (.ofItem item)
  else .safe (.ofItem item)

namespace MissionLists
variable {K D : Type} (l : MissionLists K D)

def point (datamanId missionType k : Nat) : Option (MissionPoint K D) :=
  if missionType = mavMissionTypeMission then (l.waypoint datamanId k).map .waypoint
  else if missionType = mavMissionTypeFence then (l.fencePoint (k+1)).map .fence
  else (l.safePoint (k+1)).map .safe

def size (missionType : Nat) : Nat :=
  if missionType = mavMissionTypeMission then l.count missionType else (l.stored missionType).getD 0

def list (missionType : Nat) : List (Option (MissionPoint K D)) :=
  (List.range (l.size missionType)).map (l.point l.active missionType)

variable {l}

lemma point_storage (other : missionType ≠ mavMissionTypeMission) (datamanId datamanId' k : Nat) :
    l.point datamanId missionType k = l.point datamanId' missionType k := by
  rw [point,point,if_neg other,if_neg other]

lemma inactive_ne_active : l.inactive ≠ l.active := by
  rw [inactive]
  split
  next first =>
    rw [first]
    decide
  next first =>
    exact fun same => first same.symm

variable {t : MissionTransfer}

lemma point_put_self (known : t.missionType < 3) (item : MissionItem K D) :
    (l.put t item).point t.datamanId t.missionType t.seq = some (.ofItem t.missionType item) := by
  rw [put,point,MissionPoint.ofItem]
  split_ifs
  · simp
  · simp
  · simp
  next mission fence rally =>
    simp only [mavMissionTypeMission,mavMissionTypeFence,mavMissionTypeRally] at mission fence rally
    omega

lemma point_put_other (item : MissionItem K D) (known : missionType < 3)
    (elsewhere : missionType = t.missionType → k = t.seq → missionType = mavMissionTypeMission ∧ datamanId ≠ t.datamanId) :
    (l.put t item).point datamanId missionType k = l.point datamanId missionType k := by
  rw [put]
  split
  next mission =>
    by_cases type : missionType = mavMissionTypeMission
    · rw [point,point,if_pos type,if_pos type]
      simp only [update_apply]
      split
      next same =>
        have place : k ≠ t.seq := fun seq => (elsewhere (type.trans mission.symm) seq).2 same
        rw [update_of_ne place,same]
      · rfl
    · rw [point,point,if_neg type,if_neg type]
  · have place {other : Nat} (type : missionType = other) (own : t.missionType = other) (list : other ≠ mavMissionTypeMission) :
        k+1 ≠ t.seq+1 := by
      intro seq
      exact list (type ▸ (elsewhere (type.trans own.symm) (by omega)).1)
    split
    next fence =>
      by_cases type : missionType = mavMissionTypeFence
      · rw [point,point]
        simp [type,update_of_ne (place type fence (by decide))]
      · rw [point,point,if_neg type,if_neg type]
    · split
      next rally =>
        rw [point,point]
        split
        · rfl
        split
        · rfl
        next mission fence =>
          have type : missionType = mavMissionTypeRally := by
            simp only [mavMissionTypeMission,mavMissionTypeFence,mavMissionTypeRally] at mission fence ⊢
            omega
          simp [update_of_ne (place type rally (by decide))]
      · rfl

section
variable (t)

lemma point_activate (datamanId type k : Nat) : (l.activate t).point datamanId type k = l.point datamanId type k := by
  rw [activate]
  split_ifs <;> rfl

lemma size_put (item : MissionItem K D) (missionType : Nat) : (l.put t item).size missionType = l.size missionType := by
  rw [put]
  split_ifs <;> rfl

lemma active_put (item : MissionItem K D) : (l.put t item).active = l.active := by
  rw [put]
  split_ifs <;> rfl

end

lemma count_activate (known : t.missionType < 3) :
    (l.activate t).count t.missionType = t.count ∧ (l.activate t).size t.missionType = t.count := by
  rw [activate,size]
  split_ifs with mission listed
  · simp [setActive,mission]
  · simp [setCount]
  · simp only [mavMissionTypeMission,mavMissionTypeFence,mavMissionTypeRally] at mission listed
    omega

end MissionLists

namespace MissionEvent
variable {κ K : Type}

def manager : MissionEvent κ K → κ
  | .message i _ _ _ => i
  | .send i _ => i
  | .checkActiveMission i _ => i

def count : MissionEvent κ K → Nat
  | .message _ _ (.missionCount count _) _ => count
  | _ => 0

def sender : MissionEvent κ K → Nat × Nat
  | .message _ header _ _ => (header.sysid,header.compid)
  | _ => (0,0)

end MissionEvent

namespace MissionSystem
variable {κ K D : Type} (setup : MissionSetup K D) (s : MissionSystem κ K D)

def lists : MissionLists K D := .of s.statics s.store

def view (i : κ) : MissionTransfer × MissionLists K D := ((s.manager i).transfer,s.lists)

def mark : MissionEvent κ K → MissionMark K D
  | .message i header message env => (s.entering i).mark setup env header message
  | _ => .other

variable [DecidableEq κ] [Zero K] [Zero D]

lemma manager_step_other {e : MissionEvent κ K} (other : j ≠ e.manager) : (s.step setup e).manager j = s.manager j := by
  cases e with
  | message | send | checkActiveMission => exact update_of_ne other ..

lemma move_step (e : MissionEvent κ K) :
    MissionMove (s.mark setup e) (s.view e.manager) ((s.step setup e).view e.manager) := by
  have leaving (i : κ) (h : MissionHandling K D) : (s.leaving i h).view i = h.view := by
    have manager : (s.leaving i h).manager i = h.manager := update_self ..
    rw [view,manager]
    rfl
  cases e with
  | message i header message env =>
    rw [step,MissionEvent.manager,leaving]
    exact MissionHandling.move_handleMessage setup env header message
  | send i env =>
    rw [step,MissionEvent.manager,leaving]
    exact MissionHandling.move_send (h := s.entering i) setup env
  | checkActiveMission i env =>
    rw [step,MissionEvent.manager,leaving]
    exact MissionHandling.move_checkActiveMission (h := s.entering i) env

end MissionSystem

structure MissionRecord (K D : Type) where
  opener : Nat × Nat
  announced : Nat
  items : List (MissionItem K D)
  before : MissionLists K D
  /-- The type of the upload and the lists right after it, if it was accepted. -/
  accepted : Option (Nat × MissionLists K D)

structure MissionHistory (κ K D : Type) where
  system : MissionSystem κ K D
  record : κ → MissionRecord K D
  inForce : List (Option (MissionPoint K D))

namespace MissionHistory
variable {κ K D : Type} (setup : MissionSetup K D) (s : MissionHistory κ K D)

def start (store : MissionStore K D) (stateRead fenceRead safeRead : Bool) : MissionHistory κ K D :=
  let system : MissionSystem κ K D := .start store stateRead fenceRead safeRead
  { system := system
    record := fun _ => ⟨(0,0),0,[],system.lists,none⟩
    inForce := system.lists.list mavMissionTypeMission }

def repeats : MissionEvent κ K → Bool
  | .message i header (.missionCount _ _) _ => MissionHandling.addressed setup header &&
      (s.system.manager i).state = .getlist && (s.system.manager i).transferSeq = 0 &&
      (header.sysid,header.compid) = (s.record i).opener
  | _ => false

end MissionHistory

namespace MissionHistory
variable {κ K D : Type} [DecidableEq κ] [Zero K] [Zero D] (setup : MissionSetup K D) (s : MissionHistory κ K D)

def recordAfter (e : MissionEvent κ K) : MissionRecord K D :=
  let r := s.record e.manager
  match s.system.mark setup e with
  | .opened sysid compid _ count => ⟨(sysid,compid),count,[],s.system.lists,none⟩
  | .taken item => {r with items := r.items ++ [item]}
  | .completed item => { r with
      items := r.items ++ [item]
      accepted := some ((s.system.manager e.manager).missionType,(s.system.step setup e).lists) }
  | .emptied => r
  | .other => if s.repeats setup e then {r with announced := e.count} else r

def inForceAfter (e : MissionEvent κ K) : List (Option (MissionPoint K D)) :=
  match s.system.mark setup e with
  | .completed item =>
    if (s.system.manager e.manager).missionType = mavMissionTypeMission then
      ((s.record e.manager).items ++ [item]).map fun item => some (.waypoint item)
    else s.inForce
  | _ => s.inForce

def step (e : MissionEvent κ K) : MissionHistory κ K D where
  system := s.system.step setup e
  record := Function.update s.record e.manager (s.recordAfter setup e)
  inForce := s.inForceAfter setup e

lemma record_step (e : MissionEvent κ K) (i : κ) :
    (s.step setup e).record i = if i = e.manager then s.recordAfter setup e else s.record i := update_apply ..

end MissionHistory

def MissionMark.items {K D : Type} : MissionMark K D → List (MissionItem K D) → List (MissionItem K D)
  | .opened _ _ _ _,_ => []
  | .taken item,items => items ++ [item]
  | .completed item,items => items ++ [item]
  | .emptied,items => items
  | .other,items => items

section
variable {K D : Type} {t t' : MissionTransfer} {l l' : MissionLists K D} {items : List (MissionItem K D)}

lemma MissionHistory.items_recordAfter {κ : Type} [DecidableEq κ] [Zero K] [Zero D] (setup : MissionSetup K D)
    (s : MissionHistory κ K D) (e : MissionEvent κ K) :
    (s.recordAfter setup e).items = (s.system.mark setup e).items (s.record e.manager).items := by
  rw [recordAfter]
  cases s.system.mark setup e with
  | opened | taken | completed | emptied => rfl
  | other =>
    dsimp only
    split <;> rfl

/-- An upload has stored the items before the next one. The counter has 16 bits: a longer one never ends. -/
structure Receiving (t : MissionTransfer) (l : MissionLists K D) (items : List (MissionItem K D)) : Prop where
  known : t.missionType < 3
  counted : t.count < 2^16 → items.length = t.seq ∧ t.seq < t.count
  stored : t.count < 2^16 → ∀ k (bound : k < items.length),
    l.point t.datamanId t.missionType k = some (.ofItem t.missionType items[k])

lemma Receiving.put (receiving : Receiving t l items) (small : t.count < 2^16) (item : MissionItem K D) :
    (items ++ [item]).length = t.seq + 1 ∧ ∀ k (bound : k < (items ++ [item]).length),
      (l.put t item).point t.datamanId t.missionType k = some (.ofItem t.missionType (items ++ [item])[k]) := by
  have length := (receiving.counted small).1
  refine ⟨by simp [length],fun k bound => ?_⟩
  by_cases last : k = t.seq
  · subst last
    rw [MissionLists.point_put_self receiving.known]
    congr 2
    rw [List.getElem_append_right length.le]
    simp [length]
  · have bound' : k < items.length := by
      simp only [List.length_append,List.length_singleton] at bound
      omega
    rw [MissionLists.point_put_other item receiving.known fun _ next => absurd next last,List.getElem_append_left bound']
    exact receiving.stored small k bound'

inductive OpenMove : MissionMark K D → MissionTransfer × MissionLists K D → MissionTransfer × MissionLists K D → Prop
  | keep (t : MissionTransfer) (busy : t.state = .getlist) (l : MissionLists K D) : OpenMove .other (t,l) (t,l)
  | start (missionType count : Nat) (known : missionType < 3) (positive : 0 < count) (sysid compid : Nat)
      (t : MissionTransfer) (l : MissionLists K D) : OpenMove (.opened sysid compid missionType count) (t,l)
        (⟨.getlist,missionType,l.inactive,count,0,sysid,compid⟩,l)
  | take {t : MissionTransfer} (busy : t.state = .getlist) (item : MissionItem K D)
      (more : (t.seq + 1) % 2^16 ≠ t.count) (l : MissionLists K D) :
      OpenMove (.taken item) (t,l) ({t with seq := (t.seq + 1) % 2^16},l.put t item)

lemma MissionMove.openMove (move : MissionMove m (t,l) (t',l')) (busy : t'.state = .getlist) :
    OpenMove m (t,l) (t',l') := by
  cases move with
  | keep => exact .keep t busy l
  | clear idle => simp [idle] at busy
  | stop | empty | download | fail | complete => simp at busy
  | serve _ free => exact absurd busy free
  | start idle missionType count known positive sysid compid => exact .start missionType count known positive ..
  | take getting item more => exact .take getting item more l

lemma Receiving.move (move : MissionMove m (t,l) (t',l'))
    (receiving : t.state = .getlist → Receiving t l items) (busy : t'.state = .getlist) :
    Receiving t' l' (m.items items) := by
  cases move.openMove busy with
  | keep => exact receiving busy
  | start missionType count known positive =>
    exact ⟨known,fun _ => ⟨rfl,positive⟩,fun _ k bound => absurd bound (Nat.not_lt_zero k)⟩
  | take busy item more =>
    have before := receiving busy
    refine ⟨before.known,fun small => ?_,fun small => (before.put small item).2⟩
    have small : t.count < 2^16 := small
    obtain ⟨length,_⟩ := before.put small item
    have next := (before.counted small).2
    have fits : (t.seq + 1) % 2^16 = t.seq + 1 := Nat.mod_eq_of_lt (by omega)
    rw [fits] at more ⊢
    exact ⟨length,lt_of_le_of_ne next more⟩

end

def numbered : MissionSetup Int Int where
  layout := datamanLayout
  sysid := 1
  compid := 1
  parseMavlinkMissionItem := fun intMode wp => ⟨mavMissionAccepted,intMode,{(.zero : MissionItem Int Int) with lat := wp.param1}⟩

def numberedItem (missionType seq : Nat) (number : Int) : MissionMessage Int :=
  .missionItemInt ⟨seq,missionType,0,16,false,true,number,0,0,0,0,0,0⟩

def MissionPoint.number : MissionPoint Int Int → Int
  | .waypoint item => item.lat
  | .fence point => point.lat
  | .safe point => point.lat

end AerialManipulator
