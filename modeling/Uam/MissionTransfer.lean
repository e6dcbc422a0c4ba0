import Uam.MavlinkMission

/-! What one handler can do to the transfer of its manager and to the lists in force and being written. -/
namespace AerialManipulator
open Function

structure MissionTransfer where
  state : WpmState
  missionType : Nat
  datamanId : Nat
  count : Nat
  seq : Nat
  sysid : Nat
  compid : Nat

def MissionManager.transfer (m : MissionManager) : MissionTransfer where
  state := m.state
  missionType := m.missionType
  datamanId := m.transferDatamanId
  count := m.transferCount
  seq := m.transferSeq
  sysid := m.transferPartnerSysid
  compid := m.transferPartnerCompid

/-- What all managers share: which waypoints are active, the items, how many there are, and how many are stored. -/
structure MissionLists (K D : Type) where
  active : Nat
  count : Nat → Nat
  waypoint : Nat → Nat → Option (MissionItem K D)
  fencePoint : Nat → Option (MissionFencePoint K D)
  safePoint : Nat → Option (MissionSafePoint K D)
  stored : Nat → Option Nat

namespace MissionLists
variable {K D : Type}

def of (statics : MissionStatics) (store : MissionStore K D) : MissionLists K D where
  active := statics.datamanId
  count := statics.count
  waypoint := store.waypoint
  fencePoint := store.fencePoint
  safePoint := store.safePoint
  stored := fun missionType => (store.stats missionType).map MissionStatsEntry.numItems

variable (l : MissionLists K D)

def inactive : Nat := if l.active = dmKeyWaypointsOffboard0 then dmKeyWaypointsOffboard1 else dmKeyWaypointsOffboard0

def setActive (datamanId count : Nat) : MissionLists K D :=
  {l with active := datamanId, count := Function.update l.count mavMissionTypeMission count}

def setCount (missionType count : Nat) : MissionLists K D :=
  { l with
    count := Function.update l.count missionType count
    stored := Function.update l.stored missionType (some count) }

def put (t : MissionTransfer) (item : MissionItem K D) : MissionLists K D :=
  if t.missionType = mavMissionTypeMission then
    {l with waypoint := Function.update l.waypoint t.datamanId (Function.update (l.waypoint t.datamanId) t.seq (some item))}
  else if t.missionType = mavMissionTypeFence then
    {l with fencePoint := Function.update l.fencePoint (t.seq+1) (some (.ofItem item))}
  else if t.missionType = mavMissionTypeRally then
    {l with safePoint := Function.update l.safePoint (t.seq+1) (some (.ofItem item))}
  else l

def activate (t : MissionTransfer) : MissionLists K D :=
  if t.missionType = mavMissionTypeMission then l.setActive t.datamanId t.count
  else if t.missionType = mavMissionTypeFence ∨ t.missionType = mavMissionTypeRally then
    l.setCount t.missionType t.count
  else l

structure Cleared (l l' : MissionLists K D) : Prop where
  waypoint : l'.waypoint = l.waypoint
  fencePoint : l'.fencePoint = l.fencePoint
  safePoint : l'.safePoint = l.safePoint
  mission : (l'.active = l.active ∧ l'.count mavMissionTypeMission = l.count mavMissionTypeMission) ∨
    l'.count mavMissionTypeMission = 0
  other : ∀ missionType, missionType ≠ mavMissionTypeMission →
    (l'.count missionType = l.count missionType ∧ l'.stored missionType = l.stored missionType) ∨
      (l'.count missionType = 0 ∧ l'.stored missionType = some 0)

structure Loaded (l l' : MissionLists K D) : Prop where
  active : l'.active = l.active
  waypoint : l'.waypoint = l.waypoint
  fencePoint : l'.fencePoint = l.fencePoint
  safePoint : l'.safePoint = l.safePoint
  stored : l'.stored = l.stored
  mission : l'.count mavMissionTypeMission = l.count mavMissionTypeMission
  count : ∀ missionType, l'.count missionType = l.count missionType ∨ l.stored missionType = some (l'.count missionType)

variable {l}

lemma Cleared.refl : l.Cleared l := ⟨rfl,rfl,rfl,.inl ⟨rfl,rfl⟩,fun _ _ => .inl ⟨rfl,rfl⟩⟩

lemma Cleared.trans (first : l.Cleared l') (second : l'.Cleared l'') : l.Cleared l'' where
  waypoint := second.waypoint.trans first.waypoint
  fencePoint := second.fencePoint.trans first.fencePoint
  safePoint := second.safePoint.trans first.safePoint
  mission := by
    rcases second.mission with ⟨active,count⟩ | empty
    · rw [active,count]
      exact first.mission
    · exact .inr empty
  other := by
    intro missionType ne
    rcases second.other missionType ne with ⟨count,stored⟩ | empty
    · rw [count,stored]
      exact first.other missionType ne
    · exact .inr empty

variable {missionType other : Nat}

lemma count_setCount (ne : other ≠ missionType) (count : Nat) :
    (l.setCount missionType count).count other = l.count other := update_of_ne ne ..

lemma stored_setCount (ne : other ≠ missionType) (count : Nat) :
    (l.setCount missionType count).stored other = l.stored other := update_of_ne ne ..

lemma count_setActive (ne : other ≠ mavMissionTypeMission) (datamanId count : Nat) :
    (l.setActive datamanId count).count other = l.count other := update_of_ne ne ..

lemma cleared_setActive (datamanId : Nat) : l.Cleared (l.setActive datamanId 0) where
  waypoint := rfl
  fencePoint := rfl
  safePoint := rfl
  mission := .inr (by simp [setActive])
  other := fun _ ne => .inl ⟨count_setActive ne datamanId 0,rfl⟩

lemma cleared_setCount (ne : missionType ≠ mavMissionTypeMission) : l.Cleared (l.setCount missionType 0) where
  waypoint := rfl
  fencePoint := rfl
  safePoint := rfl
  mission := .inl ⟨rfl,count_setCount ne.symm 0⟩
  other := by
    intro other _
    by_cases eq : other = missionType
    · subst eq
      exact .inr ⟨update_self ..,update_self ..⟩
    · exact .inl ⟨count_setCount eq 0,stored_setCount eq 0⟩

lemma Loaded.refl : l.Loaded l := ⟨rfl,rfl,rfl,rfl,rfl,rfl,fun _ => .inl rfl⟩

end MissionLists

inductive MissionMark (K D : Type)
  | opened (sysid compid missionType count : Nat)
  | taken (item : MissionItem K D)
  | completed (item : MissionItem K D)
  | emptied
  | other

inductive MissionMove {K D : Type} : MissionMark K D →
    MissionTransfer × MissionLists K D → MissionTransfer × MissionLists K D → Prop
  | keep (t : MissionTransfer) (l : MissionLists K D) : MissionMove .other (t,l) (t,l)
  | clear {t : MissionTransfer} (idle : t.state = .idle) (missionType : Nat) {l l' : MissionLists K D}
      (cleared : l.Cleared l') : MissionMove .other (t,l) ({t with missionType := missionType},l')
  | stop {t : MissionTransfer} (busy : t.state ≠ .idle) (l : MissionLists K D) :
      MissionMove .other (t,l) ({t with state := .idle},l)
  | empty {t : MissionTransfer} (busy : t.state = .getlist) (fence : t.missionType = mavMissionTypeFence)
      (l : MissionLists K D) : MissionMove .emptied (t,l) ({t with state := .idle},l.setCount mavMissionTypeFence 0)
  | download (t : MissionTransfer) (missionType count sysid compid : Nat) {l l' : MissionLists K D} (loaded : l.Loaded l') :
      MissionMove .other (t,l)
        ({t with state := .sendlist, missionType := missionType, count := count, seq := 0, sysid := sysid, compid := compid},l')
  | serve {t : MissionTransfer} (sending : t.state = .sendlist) {w : WpmState} (free : w ≠ .getlist) (l : MissionLists K D) :
      MissionMove .other (t,l) ({t with state := w, seq := t.seq+1},l)
  | start {t : MissionTransfer} (idle : t.state = .idle) (missionType count : Nat) (known : missionType < 3)
      (positive : 0 < count) (sysid compid : Nat) (l : MissionLists K D) :
      MissionMove (.opened sysid compid missionType count) (t,l) (⟨.getlist,missionType,l.inactive,count,0,sysid,compid⟩,l)
  | take {t : MissionTransfer} (busy : t.state = .getlist) (item : MissionItem K D) (more : (t.seq + 1) % 2^16 ≠ t.count)
      (l : MissionLists K D) : MissionMove (.taken item) (t,l) ({t with seq := (t.seq + 1) % 2^16},l.put t item)
  | fail {t : MissionTransfer} (busy : t.state = .getlist) (item : MissionItem K D)
      (last : (t.seq + 1) % 2^16 = t.count) (l : MissionLists K D) :
      MissionMove (.taken item) (t,l) ({t with state := .idle, seq := (t.seq + 1) % 2^16},l.put t item)
  | complete {t : MissionTransfer} (busy : t.state = .getlist) (item : MissionItem K D)
      (last : (t.seq + 1) % 2^16 = t.count) (l : MissionLists K D) :
      MissionMove (.completed item) (t,l)
        ({t with state := .idle, seq := (t.seq + 1) % 2^16},(l.put t item).activate t)

namespace MissionHandling
variable {K D : Type} (setup : MissionSetup K D) (env : MissionSurroundings) (h : MissionHandling K D)

def lists : MissionLists K D := .of h.statics h.store

def view : MissionTransfer × MissionLists K D := (h.manager.transfer,h.lists)

@[simp] lemma view_setTransferInProgress (inProgress : Bool) : (h.setTransferInProgress inProgress).view = h.view := rfl

@[simp] lemma view_storageError (text : String) : (h.storageError text).view = h.view := by
  rw [storageError]
  split <;> rfl

@[simp] lemma view_sendMissionAck (type : Nat) : (h.sendMissionAck type).view = h.view := rfl

@[simp] lemma view_sendMissionRequest : (h.sendMissionRequest setup env).view = h.view := by
  rw [sendMissionRequest]
  split <;> rfl

@[simp] lemma view_sendMissionItem [Zero K] [Zero D] (sysid compid seq : Nat) :
    (h.sendMissionItem env sysid compid seq).view = h.view := by
  rw [sendMissionItem]
  cases (if env.itemRead then h.storedItem seq else none) with
  | none =>
    simp only [Option.elim_none,view_storageError]
    split <;> rfl
  | some item =>
    split <;> rfl

@[simp] lemma view_switchToIdleState :
    h.switchToIdleState.view = ({h.manager.transfer with state := .idle},h.lists) := by
  rw [switchToIdleState]
  split <;> rfl

@[simp] lemma view_updateActiveMission (datamanId count : Nat) (seq : Int) :
    (h.updateActiveMission env datamanId count seq).view =
      (h.manager.transfer,if env.missionStateWritten then h.lists.setActive datamanId count else h.lists) := by
  rw [updateActiveMission]
  split
  · rfl
  · exact view_storageError h _

lemma view_updateStatsCount (type : Nat) (written : Bool) (count : Nat) : (h.updateStatsCount type written count).view =
      (h.manager.transfer,if written then h.lists.setCount type count else h.lists) := by
  rw [updateStatsCount]
  cases written with
  | false => exact view_storageError _ _
  | true =>
    have stored (stats : Nat → Option MissionStatsEntry) (counter : Nat) :
        (fun other => (Function.update stats type (some ⟨count,counter⟩) other).map MissionStatsEntry.numItems) =
          Function.update (fun other => (stats other).map MissionStatsEntry.numItems) type (some count) := by
      funext other
      simp only [update_apply]
      split <;> rfl
    simp only [if_true,view,lists,MissionLists.of,MissionLists.setCount,stored]

@[simp] lemma view_updateGeofenceCount (count : Nat) : (h.updateGeofenceCount env count).view =
    (h.manager.transfer,if env.fenceStatsWritten then h.lists.setCount mavMissionTypeFence count else h.lists) :=
  view_updateStatsCount h mavMissionTypeFence env.fenceStatsWritten count

@[simp] lemma view_updateSafepointCount (count : Nat) : (h.updateSafepointCount env count).view =
    (h.manager.transfer,if env.safeStatsWritten then h.lists.setCount mavMissionTypeRally count else h.lists) :=
  view_updateStatsCount h mavMissionTypeRally env.safeStatsWritten count

lemma loaded_loadStats (type : Nat) : h.lists.Loaded (h.loadStats env type).lists ∧
    (h.loadStats env type).manager = h.manager := by
  have load {type : Nat} (ne : type ≠ mavMissionTypeMission) {stats : MissionStatsEntry}
      (read : h.store.stats type = some stats) :
      h.lists.Loaded {h.lists with count := Function.update h.lists.count type stats.numItems} := by
    refine ⟨rfl,rfl,rfl,rfl,rfl,update_of_ne ne.symm ..,fun other => ?_⟩
    by_cases eq : other = type
    · subst eq
      right
      simp [lists,MissionLists.of,read]
    · exact .inl (update_of_ne eq ..)
  rw [loadStats]
  split_ifs
  · rw [loadGeofenceStats]
    split
    · cases read : h.store.stats mavMissionTypeFence with
      | none => exact ⟨.refl,rfl⟩
      | some stats => exact ⟨load (by decide) read,rfl⟩
    · exact ⟨.refl,rfl⟩
  · rw [loadSafepointStats]
    split
    · cases read : h.store.stats mavMissionTypeRally with
      | none => exact ⟨.refl,rfl⟩
      | some stats => exact ⟨load (by decide) read,rfl⟩
    · exact ⟨.refl,rfl⟩
  · exact ⟨.refl,rfl⟩

lemma view_activate : (h.activate env).view =
    (h.manager.transfer,if h.activated env then h.lists.activate h.manager.transfer else h.lists) := by
  have type : h.manager.transfer.missionType = h.manager.missionType := rfl
  rw [activate,activated,MissionLists.activate,type]
  by_cases mission : h.manager.missionType = mavMissionTypeMission
  · rw [if_pos mission,if_pos mission,if_pos mission,view_updateActiveMission]
    rfl
  rw [if_neg mission,if_neg mission,if_neg mission]
  by_cases fence : h.manager.missionType = mavMissionTypeFence
  · rw [if_pos fence,if_pos fence,view_updateGeofenceCount]
    simp only [fence,true_or,if_true]
    rfl
  · rw [if_neg fence,if_neg fence]
    by_cases rally : h.manager.missionType = mavMissionTypeRally
    · rw [if_pos rally,if_pos rally,view_updateSafepointCount]
      simp only [rally,or_true,if_true]
      rfl
    · rw [if_neg rally,if_neg rally,if_neg (not_or.mpr ⟨fence,rally⟩),ite_self]
      rfl

lemma view_finishUpload : (h.finishUpload env).view = ({h.manager.transfer with state := .idle},
    if h.activated env then h.lists.activate h.manager.transfer else h.lists) := by
  obtain ⟨transfer,lists⟩ := Prod.mk.inj (view_activate env h)
  rw [finishUpload,view_setTransferInProgress,view_sendMissionAck,view_switchToIdleState,transfer,lists]

variable {g : MissionHandling K D} {wp : MavlinkMissionItem K} {item : MissionItem K D}

lemma view_finishUpload_of_view (taken : g.view = ({h.manager.transfer with seq := n},l)) :
    (g.finishUpload env).view = ({h.manager.transfer with state := .idle, seq := n},
      if h.activated env then l.activate h.manager.transfer else l) := by
  obtain ⟨transfer,lists⟩ := Prod.mk.inj taken
  have type : g.manager.missionType = h.manager.missionType := congrArg MissionTransfer.missionType transfer
  have activated : g.activated env = h.activated env := by rw [MissionHandling.activated,MissionHandling.activated,type]
  rw [view_finishUpload,transfer,lists,activated]
  rfl

lemma view_stored (seq : wp.seq = h.manager.transferSeq)
    (kept : ((h.storeItem env wp item).writeFailed || (h.storeItem env wp item).checkFailed) = false) :
    (h.storeItem env wp item).handling.view = (h.manager.transfer,h.lists.put h.manager.transfer item) := by
  have type : h.manager.transfer.missionType = h.manager.missionType := rfl
  have next : h.manager.transfer.seq = wp.seq := seq.symm
  rw [MissionLists.put,type,next]
  -- Each branch fails, or puts the item where it belongs.
  revert kept
  simp only [storeItem,storeWaypoint,storeFencePoint,storeSafePoint]
  split_ifs <;> intro kept
  all_goals first | rfl | simp at kept

lemma view_refused (refused : ((h.storeItem env wp item).writeFailed || (h.storeItem env wp item).checkFailed)) :
    (h.storeItem env wp item).handling.view = (h.manager.transfer,
      if (h.storeItem env wp item).checkFailed ∧ h.manager.missionType = mavMissionTypeFence ∧
        env.fenceStatsWritten then h.lists.setCount mavMissionTypeFence 0 else h.lists) := by
  by_cases fence : h.manager.missionType = mavMissionTypeFence
  · have mission : ¬h.manager.missionType = mavMissionTypeMission := by
      rw [fence]
      decide
    rw [storeItem,if_neg mission,if_pos fence,storeFencePoint] at refused ⊢
    by_cases vertex : (isPolygonVertex item.navCmd && decide (item.vertexCount < 3)) = true
    · rw [if_pos vertex,view_updateGeofenceCount]
      simp only [fence,true_and]
    · rw [if_neg vertex] at refused ⊢
      cases written : env.itemWritten with
      | true => simp [written] at refused
      | false => simp [view]
  · simp only [fence,false_and,and_false,if_false]
    revert refused
    simp only [storeItem,storeWaypoint,storeSafePoint,fence,if_false]
    split_ifs <;> intro refused
    all_goals first | rfl | simp at refused

def opens (header : MissionHeader) (count missionType : Nat) : Bool :=
  addressed setup header && h.manager.state = .idle && !h.statics.transferInProgress && 0 < count &&
    count ≤ {h with manager := {h.manager with missionType := missionType}}.currentMaxItemCount setup

def expects (wp : MavlinkMissionItem K) : Bool :=
  wp.missionType = h.manager.missionType && h.manager.state = .getlist && wp.seq = h.manager.transferSeq &&
    (setup.parseMavlinkMissionItem h.manager.intMode wp).result = mavMissionAccepted

def markTaken (wp : MavlinkMissionItem K) (item : MissionItem K D) : MissionMark K D :=
  let stored := h.storeItem env wp item
  if stored.writeFailed || stored.checkFailed then
    if stored.checkFailed = true ∧ h.manager.missionType = mavMissionTypeFence ∧ env.fenceStatsWritten = true then .emptied
    else .other
  else if (wp.seq + 1) % 2^16 = h.manager.transferCount then
    if h.activated env then .completed item else .taken item
  else .taken item

def markItem (wp : MavlinkMissionItem K) : MissionMark K D :=
  if h.expects setup wp then h.markTaken env wp (setup.parseMavlinkMissionItem h.manager.intMode wp).item else .other

def mark (header : MissionHeader) : MissionMessage K → MissionMark K D
  | .missionCount count missionType =>
    if h.opens setup header count missionType then .opened header.sysid header.compid missionType count else .other
  | .missionItem wp =>
    if addressed setup header then {h with manager := {h.manager with intMode := false}}.markItem setup env wp else .other
  | .missionItemInt wp =>
    if addressed setup header then {h with manager := {h.manager with intMode := true}}.markItem setup env wp else .other
  | _ => .other

variable {h}

variable {h' : MissionHandling K D}

lemma move_keep (same : h'.view = h.view) : MissionMove .other h.view h'.view := by
  rw [same]
  exact .keep _ _

lemma move_guarded {c : Prop} [Decidable c]
    (move : c → MissionMove .other h.view h'.view) : MissionMove .other h.view (if c then h' else h).view := by
  split
  next holds => exact move holds
  · exact move_keep rfl

lemma move_congr
    (move : MissionMove m g.view after) (same : g.view = h.view) : MissionMove m h.view after := same ▸ move

lemma move_stop (busy : h.manager.state ≠ .idle)
    (idle : h'.view = ({h.manager.transfer with state := .idle},h.lists)) : MissionMove .other h.view h'.view := by
  rw [idle]
  exact .stop busy _

variable (header : MissionHeader)

lemma move_handleMissionAck (type missionType : Nat) :
    MissionMove .other h.view (h.handleMissionAck setup env header type missionType).view := by
  rw [handleMissionAck]
  split
  · split
    next sending =>
      exact move_stop (by simp [sending.1]) (view_switchToIdleState _)
    · split
      next busy =>
        split_ifs
        · refine move_keep ?_
          rw [view_sendMissionRequest]
          rfl
        · exact move_stop (by simp [busy]) (view_switchToIdleState _)
        · exact move_keep rfl
      · exact move_keep rfl
  · exact move_keep rfl

lemma move_handleMissionSetCurrent (seq : Nat) : MissionMove .other h.view (h.handleMissionSetCurrent env seq).view := by
  have same : h.lists.setActive h.statics.datamanId (h.statics.count mavMissionTypeMission) = h.lists := by
    rw [MissionLists.setActive]
    have count : Function.update h.lists.count mavMissionTypeMission (h.statics.count mavMissionTypeMission) =
        h.lists.count := update_eq_self _ _
    rw [count]
    rfl
  rw [handleMissionSetCurrent]
  split
  · split
    · dsimp only
      have updated : ((h.received env).updateActiveMission env h.statics.datamanId
          (h.statics.count mavMissionTypeMission) seq).view = h.view := by
        have lists : (h.received env).lists = h.lists := rfl
        rw [view_updateActiveMission,lists,same,ite_self]
        rfl
      split <;> exact move_keep updated
    · exact move_keep rfl
  · exact move_keep rfl

lemma view_startDownload (h : MissionHandling K D) (header : MissionHeader) (type : Nat) :
    ∃ count lists, h.lists.Loaded lists ∧ (h.startDownload env header type).view =
      (⟨.sendlist,type,h.manager.transfer.datamanId,count,0,header.sysid,header.compid⟩,lists) := by
  have load := loaded_loadStats env {h with manager := {h.manager with
      timeLastRecv := env.now, state := .sendlist, missionType := type}} type
  rw [startDownload]
  revert load
  generalize ({h with manager := {h.manager with
      timeLastRecv := env.now, state := .sendlist, missionType := type}}.loadStats env type) = k
  rintro ⟨loaded,manager⟩
  refine ⟨k.currentItemCount,k.lists,loaded,?_⟩
  simp only [view,MissionManager.transfer,manager]
  rfl

lemma move_handleMissionRequestList (type : Nat) :
    MissionMove .other h.view (h.handleMissionRequestList env header type).view := by
  have download (g : MissionHandling K D) (lists : g.lists = h.lists)
      (storage : g.manager.transferDatamanId = h.manager.transferDatamanId) :
      MissionMove .other h.view (g.startDownload env header type).view := by
    obtain ⟨count,loaded,load,eq⟩ := view_startDownload env g header type
    rw [lists] at load
    rw [eq]
    have storage : g.manager.transfer.datamanId = h.manager.transfer.datamanId := storage
    rw [storage]
    exact .download h.manager.transfer type count header.sysid header.compid load
  rw [handleMissionRequestList]
  cases completed : h.maybeCompleted with
  | true =>
    have idle : h.switchToIdleState.manager.state = .idle :=
      congrArg (fun view => view.1.state) (view_switchToIdleState h)
    rw [if_pos rfl,if_pos (.inl idle)]
    refine download h.switchToIdleState (congrArg Prod.snd (view_switchToIdleState h)) ?_
    exact congrArg (fun view => view.1.datamanId) (view_switchToIdleState h)
  | false =>
    simp only [Bool.false_eq_true,if_false]
    split
    · exact download h rfl rfl
    · exact move_keep rfl

lemma view_answerRequest [Zero K] [Zero D] (h : MissionHandling K D) (seq : Nat) :
    (h.answerRequest env seq).view = h.view ∨
      (h.answerRequest env seq).view = ({h.manager.transfer with state := .idle},h.lists) := by
  rw [answerRequest]
  split
  · exact .inl (view_sendMissionItem env h _ _ seq)
  · exact .inr (view_switchToIdleState h)

lemma move_handleMissionRequestBoth [Zero K] [Zero D] (seq type : Nat) :
    MissionMove .other h.view (h.handleMissionRequestBoth env header seq type).view := by
  rw [handleMissionRequestBoth]
  split
  · split
    next sending =>
      split_ifs
      · exact move_keep rfl
      · have sending' : h.manager.transfer.state = .sendlist := sending
        rcases view_answerRequest env {h.received env with manager := {(h.received env).manager with
          transferSeq := h.manager.transferSeq+1}} seq with answered | refused
        · rw [answered]
          have served := MissionMove.serve sending' (w := .sendlist) (by simp) h.lists
          rw [← sending'] at served
          exact served
        · rw [refused]
          exact .serve sending' (by simp) h.lists
      · rcases view_answerRequest env (h.received env) seq with answered | refused
        · exact move_keep answered
        · exact move_stop (by simp [sending]) refused
      · exact move_stop (by simp [sending]) (view_switchToIdleState _)
    · split
      all_goals exact move_keep rfl
  · exact move_keep rfl

def Clears (h h' : MissionHandling K D) : Prop :=
  h.lists.Cleared h'.lists ∧ h'.manager.transfer = h.manager.transfer

lemma cleared_updateActiveMission (h : MissionHandling K D) : h.Clears (h.updateActiveMission env h.otherDatamanId 0 0) := by
  obtain ⟨transfer,lists⟩ := Prod.mk.inj (view_updateActiveMission env h h.otherDatamanId 0 0)
  refine ⟨?_,transfer⟩
  rw [lists]
  split
  · exact MissionLists.cleared_setActive _
  · exact .refl

lemma cleared_updateStatsCount (h : MissionHandling K D) (type : Nat) (ne : type ≠ mavMissionTypeMission)
    (written : Bool) :
    h.Clears (h.updateStatsCount type written 0) := by
  obtain ⟨transfer,lists⟩ := Prod.mk.inj (view_updateStatsCount h type written 0)
  refine ⟨?_,transfer⟩
  rw [lists]
  split
  · exact MissionLists.cleared_setCount ne
  · exact .refl

lemma cleared_clearAll (h : MissionHandling K D) (type : Nat) : h.Clears (h.clearAll env type) := by
  rw [clearAll]
  split_ifs
  · exact cleared_updateActiveMission env h
  · exact cleared_updateStatsCount h _ (by decide) _
  · exact cleared_updateStatsCount h _ (by decide) _
  · obtain ⟨mission,transfer⟩ := cleared_updateActiveMission env h
    obtain ⟨fence,transfer'⟩ := cleared_updateStatsCount (h.updateActiveMission env h.otherDatamanId 0 0)
      mavMissionTypeFence (by decide) env.fenceStatsWritten
    obtain ⟨safe,transfer''⟩ := cleared_updateStatsCount
      ((h.updateActiveMission env h.otherDatamanId 0 0).updateGeofenceCount env 0)
      mavMissionTypeRally (by decide) env.safeStatsWritten
    exact ⟨(mission.trans fence).trans safe,transfer''.trans (transfer'.trans transfer)⟩
  · exact ⟨.refl,rfl⟩

lemma cleared_clearCount (h : MissionHandling K D) : h.Clears (h.clearCount env) := by
  rw [clearCount]
  split_ifs
  · exact cleared_updateActiveMission env h
  · exact cleared_updateStatsCount h _ (by decide) _
  · exact cleared_updateStatsCount h _ (by decide) _
  · exact ⟨.refl,rfl⟩

lemma view_startUpload (h : MissionHandling K D) (header : MissionHeader) (count : Nat) :
    (h.startUpload env header count).view =
      (⟨.getlist,h.manager.missionType,h.lists.inactive,count,0,header.sysid,header.compid⟩,h.lists) := by
  rw [startUpload]
  split_ifs <;> rfl

lemma move_clear {g' : MissionHandling K D} (cleared : g.lists.Cleared g'.lists ∧ g'.manager.transfer = g.manager.transfer)
    (idle : h.manager.state = .idle) (type : Nat) (lists : g.lists = h.lists)
    (moved : g.manager.transfer = {h.manager.transfer with missionType := type}) :
    MissionMove .other h.view g'.view := by
  rw [view,view,cleared.2,moved]
  exact .clear idle type (lists ▸ cleared.1)

lemma move_handleMissionClearAll (type : Nat) : MissionMove .other h.view (h.handleMissionClearAll env type).view := by
  rw [handleMissionClearAll]
  split
  next idle =>
    exact move_clear (cleared_clearAll env _ type) idle type rfl rfl
  · exact move_keep rfl

lemma move_handleMissionCount [Zero K] [Zero D] (count type : Nat) :
    MissionMove (h.mark setup env header (.missionCount count type)) h.view
      (h.handleMessage setup env header (.missionCount count type)).view := by
  rw [mark,handleMessage,opens]
  by_cases addressed : addressed setup header = true
  · rw [addressed,if_pos rfl,Bool.true_and,handleMissionCount]
    by_cases idle : h.manager.state = .idle
    · rw [if_pos idle,decide_eq_true idle,Bool.true_and]
      cases busy : h.statics.transferInProgress with
      | true => exact move_keep rfl
      | false =>
        simp only [Bool.not_false,Bool.true_and,Bool.false_eq_true,if_false]
        by_cases space : count ≤ {h with manager := {h.manager with missionType := type}}.currentMaxItemCount setup
        · have space' : ¬(count > {(h.received env).setTransferInProgress true with
            manager := {(h.received env).manager with missionType := type}}.currentMaxItemCount setup) := not_lt.mpr space
          rw [if_neg space',decide_eq_true space,Bool.and_true]
          by_cases zero : count = 0
          · rw [if_pos zero,decide_eq_false (by omega),if_neg (by simp)]
            exact move_clear (cleared_clearCount env _) idle type rfl rfl
          rw [if_neg zero,decide_eq_true (by omega),if_pos rfl,view_sendMissionRequest,view_startUpload]
          have known : type < 3 := by
            by_contra unknown
            rw [currentMaxItemCount,if_pos (not_lt.mp unknown)] at space
            omega
          exact .start idle type count known (by omega) header.sysid header.compid h.lists
        · have space' : count > {(h.received env).setTransferInProgress true with
            manager := {(h.received env).manager with missionType := type}}.currentMaxItemCount setup := not_le.mp space
          rw [if_pos space',decide_eq_false space,Bool.and_false,if_neg (by simp)]
          exact .clear idle type .refl
    · rw [if_neg idle,decide_eq_false idle]
      simp only [Bool.false_and,Bool.false_eq_true,if_false]
      split_ifs
      · exact move_keep (view_sendMissionRequest setup env _)
      · exact move_keep rfl
      · exact move_keep rfl
  · rw [if_neg addressed,Bool.eq_false_iff.mpr addressed]
    exact move_keep rfl

lemma markTaken_congr (same : g.view = h.view) (wp : MavlinkMissionItem K) (item : MissionItem K D) :
    g.markTaken env wp item = h.markTaken env wp item := by
  have type : g.manager.missionType = h.manager.missionType := congrArg (fun view => view.1.missionType) same
  have count : g.manager.transferCount = h.manager.transferCount := congrArg (fun view => view.1.count) same
  have failed : (g.storeItem env wp item).writeFailed = (h.storeItem env wp item).writeFailed ∧
      (g.storeItem env wp item).checkFailed = (h.storeItem env wp item).checkFailed := by
    simp only [storeItem,type,storeWaypoint,storeFencePoint,storeSafePoint]
    split_ifs <;> exact ⟨rfl,rfl⟩
  rw [markTaken,markTaken,failed.1,failed.2,activated,activated,type,count]

lemma move_takeItem (same : g.view = h.view)
    (busy : h.manager.state = .getlist) (seq : wp.seq = h.manager.transferSeq) :
    MissionMove (h.markTaken env wp item) h.view (g.takeItem setup env wp item).view := by
  rw [← markTaken_congr env same,← same]
  have busy : g.manager.state = .getlist := (congrArg (fun view => view.1.state) same).trans busy
  have seq : wp.seq = g.manager.transferSeq := seq.trans (congrArg (fun view => view.1.seq) same).symm
  rw [markTaken,takeItem]
  cases refused : ((g.storeItem env wp item).writeFailed || (g.storeItem env wp item).checkFailed) with
  | true =>
    obtain ⟨transfer,lists⟩ := Prod.mk.inj (view_refused env g refused)
    have told : (if (g.storeItem env wp item).writeFailed then
          ((g.storeItem env wp item).handling.sendMissionAck mavMissionError).act (.critical "Unable to write on micro SD\t")
        else (g.storeItem env wp item).handling.sendMissionAck mavMissionError).view =
        (g.storeItem env wp item).handling.view := by
      split <;> rfl
    obtain ⟨transfer',lists'⟩ := Prod.mk.inj told
    rw [if_pos rfl,if_pos rfl,view_setTransferInProgress,view_switchToIdleState,transfer',lists',transfer,lists]
    split
    next empties =>
      exact .empty busy empties.2.1 g.lists
    · exact .stop (by simp [MissionManager.transfer,busy]) g.lists
  | false =>
    obtain ⟨transfer,lists⟩ := Prod.mk.inj (view_stored env g seq refused)
    simp only [Bool.false_eq_true,if_false]
    -- What the item leaves, up to the number of the item that is current.
    have taken (current : Int) : {(g.storeItem env wp item).handling with
        manager := {(g.storeItem env wp item).handling.manager with
          transferCurrentSeq := current, transferSeq := (wp.seq + 1) % 2^16}}.view =
        ({g.manager.transfer with seq := (wp.seq + 1) % 2^16},g.lists.put g.manager.transfer item) := by
      rw [← lists,← transfer]
      rfl
    revert taken
    generalize (g.storeItem env wp item).handling = k at transfer lists
    intro taken
    have count : k.manager.transferCount = g.manager.transferCount := congrArg MissionTransfer.count transfer
    have next : g.manager.transfer.seq = wp.seq := seq.symm
    by_cases last : (wp.seq + 1) % 2^16 = g.manager.transferCount
    · rw [if_pos last,if_pos (last.trans count.symm),view_finishUpload_of_view env g (taken _),← next]
      rw [← next] at last
      split
      · exact .complete busy item last g.lists
      · exact .fail busy item last g.lists
    · rw [if_neg last,if_neg (by rw [count]; exact last),view_sendMissionRequest,taken,← next]
      exact .take busy item (by rw [next]; exact last) g.lists

lemma move_handleMissionItemBoth (wp : MavlinkMissionItem K) :
    MissionMove (h.markItem setup env wp) h.view (h.handleMissionItemBoth setup env wp).view := by
  rw [handleMissionItemBoth,markItem,expects]
  by_cases type : wp.missionType = h.manager.missionType
  · rw [if_neg (not_not.mpr type),decide_eq_true type,Bool.true_and]
    by_cases busy : h.manager.state = .getlist
    · rw [if_pos busy,decide_eq_true busy,Bool.true_and]
      by_cases seq : wp.seq = h.manager.transferSeq
      · rw [if_neg (not_not.mpr seq),decide_eq_true seq,Bool.true_and]
        by_cases understood : (setup.parseMavlinkMissionItem h.manager.intMode wp).result = mavMissionAccepted
        · rw [if_neg (not_not.mpr understood),decide_eq_true understood,if_pos rfl]
          exact move_takeItem setup env rfl busy seq
        · rw [if_pos understood,decide_eq_false understood]
          exact move_stop (by simp [busy]) (view_switchToIdleState _)
      · rw [if_pos seq,decide_eq_false seq]
        exact move_keep rfl
    · rw [if_neg busy,decide_eq_false busy]
      simp only [Bool.false_and,Bool.false_eq_true,if_false]
      split
      · split
        all_goals exact move_keep rfl
      · exact move_keep rfl
  · rw [if_pos type,decide_eq_false type]
    exact move_keep rfl

lemma move_handleMessage [Zero K] [Zero D] (message : MissionMessage K) :
    MissionMove (h.mark setup env header message) h.view (h.handleMessage setup env header message).view := by
  cases message with
  | missionAck type missionType => exact move_guarded fun _ => move_handleMissionAck setup env header type missionType
  | missionSetCurrent seq => exact move_guarded fun _ => move_handleMissionSetCurrent env seq
  | missionRequestList missionType => exact move_guarded fun _ => move_handleMissionRequestList env header missionType
  | missionRequest seq missionType | missionRequestInt seq missionType =>
    rw [handleMessage]
    split
    · exact move_congr (move_handleMissionRequestBoth env header seq missionType) rfl
    · exact move_keep rfl
  | missionCount count missionType => exact move_handleMissionCount setup env header count missionType
  | missionItem item | missionItemInt item =>
    rw [handleMessage,mark]
    split
    · exact move_handleMissionItemBoth setup env item
    · exact move_keep rfl
  | missionClearAll missionType => exact move_guarded fun _ => move_handleMissionClearAll env missionType

section
variable (h)

lemma view_newCurrentSeq (result : MissionResult) : (h.newCurrentSeq result).view = h.view := by
  rw [newCurrentSeq]
  split_ifs <;> rfl

lemma view_newReached (result : MissionResult) : (h.newReached result).view = h.view := by
  rw [newReached]
  split_ifs <;> rfl

lemma view_sendSlowly : (h.sendSlowly env).view = h.view := by
  rw [sendSlowly]
  split_ifs <;> rfl

lemma view_resendJump [Zero K] [Zero D] (result : MissionResult) :
    (h.resendJump env result).view = h.view ∨ h.manager.state = .idle ∧
      (h.resendJump env result).view = ({h.manager.transfer with missionType := mavMissionTypeMission},h.lists) := by
  rw [resendJump]
  split
  next changed =>
    right
    refine ⟨changed.2.2.2,?_⟩
    rw [view_sendMissionItem]
    rfl
  · exact .inl rfl

lemma view_tellProgress [Zero K] [Zero D] : (h.tellProgress env).view = h.view ∨ h.manager.state = .idle ∧
      (h.tellProgress env).view = ({h.manager.transfer with missionType := mavMissionTypeMission},h.lists) := by
  cases result : env.missionResult with
  | none =>
    have slowly : h.tellProgress env = h.sendSlowly env := by rw [tellProgress,result,Option.elim_none]
    rw [slowly]
    exact .inl (view_sendSlowly env h)
  | some result' =>
    have told : h.tellProgress env = ((h.newCurrentSeq result').newReached result').resendJump env result' := by
      rw [tellProgress,result,Option.elim_some]
    have same : ((h.newCurrentSeq result').newReached result').view = h.view :=
      (view_newReached _ result').trans (view_newCurrentSeq h result')
    rw [told]
    obtain ⟨transfer,lists⟩ := Prod.mk.inj same
    rcases view_resendJump env ((h.newCurrentSeq result').newReached result') result' with kept | ⟨idle,sent⟩
    · exact .inl (kept.trans same)
    · rw [transfer,lists] at sent
      exact .inr ⟨(congrArg MissionTransfer.state transfer).symm.trans idle,sent⟩

lemma view_checkTimeouts : (h.checkTimeouts setup env).view = h.view ∨
    h.manager.state ≠ .idle ∧ (h.checkTimeouts setup env).view = ({h.manager.transfer with state := .idle},h.lists) := by
  rw [checkTimeouts]
  split
  · exact .inl (view_sendMissionRequest setup env h)
  split
  next timedOut =>
    right
    refine ⟨fun idle => ?_,view_switchToIdleState _⟩
    rw [MissionHandling.timedOut,idle] at timedOut
    simp at timedOut
  · split <;> exact .inl rfl

end

lemma move_send [Zero K] [Zero D] : MissionMove .other h.view (h.send setup env).view := by
  rw [send]
  split
  · exact move_keep rfl
  rcases view_tellProgress env h with told | ⟨idle,resent⟩
  · rcases view_checkTimeouts setup env (h.tellProgress env) with kept | ⟨busy,stopped⟩
    · exact move_keep (kept.trans told)
    · obtain ⟨transfer,lists⟩ := Prod.mk.inj told
      rw [transfer,lists] at stopped
      exact move_stop (fun idle => busy ((congrArg MissionTransfer.state transfer).trans idle)) stopped
  · rcases view_checkTimeouts setup env (h.tellProgress env) with kept | ⟨busy,_⟩
    · rw [kept,resent]
      exact .clear idle mavMissionTypeMission .refl
    · exact absurd ((congrArg (fun view => view.1.state) resent).trans idle) busy

lemma move_checkActiveMission : MissionMove .other h.view (h.checkActiveMission env).view := by
  rw [checkActiveMission]
  split_ifs <;> exact move_keep rfl

end MissionHandling
end AerialManipulator
