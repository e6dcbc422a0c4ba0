import Uam.MavlinkMission
import Uam.Library.Runs

/-! Mutual exclusion of mission uploads: the flag that all managers share against the state of each. -/
namespace AerialManipulator
open Option Function Runs

section
variable {κ : Type} {state : κ → WpmState} {inProgress : Bool}

/-- At most one manager receives a list, and the flag says whether one does. -/
structure UploadExclusive (state : κ → WpmState) (inProgress : Bool) : Prop where
  one : ∀ i j, state i = .getlist → state j = .getlist → i = j
  flag : inProgress = true ↔ ∃ i, state i = .getlist

inductive UploadMove : WpmState → Bool → WpmState → Bool → Prop
  | keep (w : WpmState) (inProgress : Bool) : UploadMove w inProgress w inProgress
  | claim : UploadMove .idle false .getlist true
  | release (inProgress : Bool) : UploadMove .getlist inProgress .idle false
  | download {w : WpmState} (other : w ≠ .getlist) (inProgress : Bool) : UploadMove w inProgress .sendlist inProgress
  | leave (inProgress : Bool) : UploadMove .sendlist inProgress .idle inProgress

lemma getlist_update [DecidableEq κ] (other : state i ≠ .getlist) (new : w ≠ .getlist) :
    update state i w j = .getlist ↔ state j = .getlist := by
  by_cases eq : j = i
  · subst eq
    simp [other,new]
  · rw [update_of_ne eq]

lemma UploadExclusive.congr (sole : UploadExclusive state inProgress)
    (same : ∀ j, state' j = .getlist ↔ state j = .getlist) : UploadExclusive state' inProgress := by
  refine ⟨fun i j first second => sole.one i j ((same i).mp first) ((same j).mp second),?_⟩
  simp only [same]
  exact sole.flag

lemma UploadMove.exclusive [DecidableEq κ] (sole : UploadExclusive state inProgress)
    (move : UploadMove (state i) inProgress w inProgress') : UploadExclusive (update state i w) inProgress' := by
  generalize before : state i = v at move
  cases move with
  | keep =>
    rw [← before,update_eq_self]
    exact sole
  | claim =>
    have nobody (j : κ) : state j ≠ .getlist := fun busy => by simpa using sole.flag.mpr ⟨j,busy⟩
    have only (j : κ) (busy : update state i .getlist j = .getlist) : j = i := by
      by_contra ne
      rw [update_of_ne ne] at busy
      exact nobody j busy
    refine ⟨fun j k first second => (only j first).trans (only k second).symm,fun _ => ⟨i,?_⟩,fun _ => rfl⟩
    exact update_self i _ _
  | release =>
    have nobody (j : κ) : update state i .idle j ≠ .getlist := by
      by_cases eq : j = i
      · subst eq
        simp
      · rw [update_of_ne eq]
        exact fun busy => eq (sole.one j i busy before)
    exact ⟨fun j _ first => absurd first (nobody j),by simp [nobody]⟩
  | download other => exact sole.congr fun j => getlist_update (before ▸ other) (by simp)
  | leave => exact sole.congr fun j => getlist_update (by simp [before]) (by simp)

end

namespace MissionHandling
variable {K D : Type} (setup : MissionSetup K D) (env : MissionSurroundings) (h : MissionHandling K D)

def phase : WpmState × Bool := (h.manager.state,h.statics.transferInProgress)

@[simp] lemma phase_mk (manager : MissionManager) (statics : MissionStatics) (store : MissionStore K D)
    (actions : List (MissionAction K D)) :
    (mk manager statics store actions).phase = (manager.state,statics.transferInProgress) := rfl

@[simp] lemma phase_fst : h.phase.1 = h.manager.state := rfl

@[simp] lemma phase_snd : h.phase.2 = h.statics.transferInProgress := rfl

@[simp] lemma pair_phase : (h.manager.state,h.statics.transferInProgress) = h.phase := rfl

@[simp] lemma phase_act (action : MissionAction K D) : (h.act action).phase = h.phase := rfl

@[simp] lemma phase_received : (h.received env).phase = h.phase := rfl

@[simp] lemma phase_setTransferInProgress (inProgress : Bool) :
    (h.setTransferInProgress inProgress).phase = (h.phase.1,inProgress) := rfl

@[simp] lemma phase_storageError (text : String) : (h.storageError text).phase = h.phase := by
  rw [storageError]
  split <;> rfl

@[simp] lemma phase_updateActiveMission (datamanId count : Nat) (seq : Int) :
    (h.updateActiveMission env datamanId count seq).phase = h.phase := by
  rw [updateActiveMission]
  split
  · rfl
  · simp

variable (missionType : Nat)

@[simp] lemma phase_updateStatsCount (written : Bool) (count : Nat) :
    (h.updateStatsCount missionType written count).phase = h.phase := by
  rw [updateStatsCount]
  split
  · rfl
  · exact phase_storageError _ _

@[simp] lemma phase_loadStats : (h.loadStats env missionType).phase = h.phase := by
  rw [loadStats,loadGeofenceStats,loadSafepointStats]
  cases h.store.stats mavMissionTypeFence <;> cases h.store.stats mavMissionTypeRally <;> (split_ifs <;> rfl)

@[simp] lemma phase_sendMissionAck (type : Nat) : (h.sendMissionAck type).phase = h.phase := rfl

@[simp] lemma phase_sendMissionRequest : (h.sendMissionRequest setup env).phase = h.phase := by
  rw [sendMissionRequest]
  split <;> rfl

def clock : (WpmState × Bool) × Nat := (h.phase,h.manager.timeLastRecv)

lemma clock_sendMissionItem [Zero K] [Zero D] (sysid compid seq : Nat) :
    (h.sendMissionItem env sysid compid seq).clock = h.clock := by
  rw [sendMissionItem]
  cases (if env.itemRead then h.storedItem seq else none) with
  | none =>
    simp only [elim_none,storageError]
    split_ifs <;> rfl
  | some item =>
    split_ifs <;> rfl

@[simp] lemma phase_sendMissionItem [Zero K] [Zero D] (sysid compid seq : Nat) :
    (h.sendMissionItem env sysid compid seq).phase = h.phase :=
  congrArg Prod.fst (clock_sendMissionItem env h sysid compid seq)

@[simp] lemma phase_switchToIdleState : h.switchToIdleState.phase = (.idle,h.phase.2) := by
  rw [switchToIdleState]
  split <;> rfl

@[simp] lemma phase_clearCount : (h.clearCount env).phase = h.phase := by
  rw [clearCount,updateGeofenceCount,updateSafepointCount]
  split_ifs <;> simp

@[simp] lemma phase_clearAll : (h.clearAll env missionType).phase = h.phase := by
  simp only [clearAll,updateGeofenceCount,updateSafepointCount]
  split_ifs <;> simp

variable (header : MissionHeader)

@[simp] lemma phase_startDownload (type : Nat) : (h.startDownload env header type).phase = (.sendlist,h.phase.2) :=
  phase_loadStats env {h with manager := {h.manager with
      timeLastRecv := env.now, state := .sendlist, missionType := type}} type

@[simp] lemma phase_startUpload (count : Nat) : (h.startUpload env header count).phase = (.getlist,h.phase.2) := by
  rw [startUpload]
  split_ifs <;> rfl

variable (wp : MavlinkMissionItem K)

@[simp] lemma phase_storeItem (item : MissionItem K D) : (h.storeItem env wp item).handling.phase = h.phase := by
  simp only [storeItem,storeWaypoint,storeFencePoint,storeSafePoint,updateGeofenceCount]
  split_ifs <;> simp

def Moves (h h' : MissionHandling K D) : Prop :=
  UploadMove h.manager.state h.statics.transferInProgress h'.manager.state h'.statics.transferInProgress

variable {h} {h' : MissionHandling K D}

lemma Moves.of_phase (move : UploadMove h.phase.1 h.phase.2 h'.phase.1 h'.phase.2) : h.Moves h' := move

lemma Moves.keep (same : h'.phase = h.phase) : h.Moves h' := by
  apply Moves.of_phase
  rw [same]
  exact .keep _ _

lemma Moves.guarded {c : Prop} [Decidable c] (moves : c → h.Moves h') : h.Moves (if c then h' else h) := by
  split
  next holds => exact moves holds
  · exact .keep rfl

lemma Moves.of_same {g : MissionHandling K D} (move : g.Moves h') (same : g.phase = h.phase) : h.Moves h' := by
  apply Moves.of_phase
  rw [← same]
  exact move

lemma Moves.release (busy : h.manager.state = .getlist) (free : h'.phase = (.idle,false)) : h.Moves h' := by
  apply Moves.of_phase
  rw [free,phase,busy]
  exact .release _

lemma Moves.claim (idle : h.phase = (.idle,false)) (claims : h'.phase = (.getlist,true)) : h.Moves h' := by
  apply Moves.of_phase
  rw [idle,claims]
  exact .claim

lemma Moves.leave (sending : h.manager.state = .sendlist) (free : h'.phase = (.idle,h.phase.2)) : h.Moves h' := by
  apply Moves.of_phase
  rw [free,phase,sending]
  exact .leave _

lemma Moves.download (other : h.manager.state ≠ .getlist) (sends : h'.phase = (.sendlist,h.phase.2)) : h.Moves h' := by
  apply Moves.of_phase
  rw [sends]
  exact .download other _

lemma moves_handleMissionAck (type missionType : Nat) :
    h.Moves (h.handleMissionAck setup env header type missionType) := by
  rw [handleMissionAck]
  split
  · split
    next sending =>
      exact .leave sending.1 (by simp)
    · split
      next busy =>
        split_ifs
        · exact .keep (by simp)
        · exact .release busy (by simp)
        · exact .keep rfl
      · exact .keep rfl
  · exact .keep (by simp)

lemma moves_handleMissionSetCurrent (seq : Nat) : h.Moves (h.handleMissionSetCurrent env seq) := by
  rw [handleMissionSetCurrent]
  split
  · split
    · dsimp only
      split <;> exact .keep (by simp)
    · exact .keep (by simp)
  · exact .keep (by simp)

lemma moves_handleMissionRequestList (type : Nat) (stays : ¬(h.manager.state = .getlist ∧ h.maybeCompleted)) :
    h.Moves (h.handleMissionRequestList env header type) := by
  rw [handleMissionRequestList]
  cases completed : h.maybeCompleted with
  | true =>
    have free : h.manager.state ≠ .getlist := fun busy => stays ⟨busy,completed⟩
    rw [if_pos rfl,if_pos (.inl (congrArg Prod.fst (phase_switchToIdleState h)))]
    exact .download free (by simp)
  | false =>
    simp only [Bool.false_eq_true,if_false]
    split
    next free =>
      have free : h.manager.state ≠ .getlist := by
        rcases free with idle | ⟨sending,_⟩
        · simp [idle]
        · simp [sending]
      exact .download free (by simp)
    · exact .keep (by simp)

lemma handleMissionRequestList_completed (type : Nat) (completed : h.maybeCompleted) :
    (h.handleMissionRequestList env header type).phase = (.sendlist,h.phase.2) := by
  rw [handleMissionRequestList,completed,if_pos rfl,if_pos (.inl (congrArg Prod.fst (phase_switchToIdleState h)))]
  simp

lemma moves_answerRequest [Zero K] [Zero D] (seq : Nat) (sending : h.manager.state = .sendlist) :
    h.Moves (h.answerRequest env seq) := by
  rw [answerRequest]
  split
  · exact .keep (by simp)
  · exact .leave sending (by simp [refuseRequest])

lemma moves_handleMissionRequestBoth [Zero K] [Zero D] (seq type : Nat) :
    h.Moves (h.handleMissionRequestBoth env header seq type) := by
  rw [handleMissionRequestBoth]
  split
  · split
    next sending =>
      split_ifs
      · exact .keep rfl
      · exact .of_same (moves_answerRequest env seq (by exact sending)) rfl
      · exact .of_same (moves_answerRequest env seq (by exact sending)) rfl
      · exact .leave sending (by simp [refuseRequest])
    · split
      · exact .keep rfl
      · exact .keep (by simp)
  · exact .keep (by simp)

lemma moves_handleMissionCount (count type : Nat) : h.Moves (h.handleMissionCount setup env header count type) := by
  rw [handleMissionCount]
  split
  next idle =>
    split
    · exact .keep (by simp)
    next unclaimed =>
      have free : h.phase = (.idle,false) := by rw [phase,idle,Bool.eq_false_iff.mpr unclaimed]
      dsimp only
      split_ifs
      · exact .keep (free.symm ▸ congrArg (·,false) idle)
      · refine .keep (Eq.trans ?_ free.symm)
        simp [← idle]
        rfl
      · refine .claim free ?_
        simp
        rfl
  · split
    · split <;> exact .keep (by simp)
    · exact .keep (by simp)

lemma moves_takeItem (item : MissionItem K D) (busy : h.manager.state = .getlist) :
    h.Moves (h.takeItem setup env wp item) := by
  simp only [takeItem]
  split
  · exact .release busy (by simp)
  · split
    · exact .release busy (by simp [finishUpload])
    · exact .keep (by simp)

lemma moves_handleMissionItemBoth : h.Moves (h.handleMissionItemBoth setup env wp) := by
  rw [handleMissionItemBoth]
  split
  · exact .keep (by simp)
  split
  next busy =>
    split
    · exact .keep (by simp)
    · dsimp only
      split
      · exact .release busy (by simp [abortUpload])
      · exact .of_same (moves_takeItem setup env wp _ (by exact busy)) rfl
  · split
    · split <;> exact .keep (by simp)
    · exact .keep (by simp)

lemma moves_handleMissionClearAll : h.Moves (h.handleMissionClearAll env missionType) := by
  rw [handleMissionClearAll]
  split <;> exact .keep (by simp)

lemma moves_handleMessage [Zero K] [Zero D] (message : MissionMessage K)
    (stays : ∀ missionType, message = .missionRequestList missionType → addressed setup header →
      ¬(h.manager.state = .getlist ∧ h.maybeCompleted)) :
    h.Moves (h.handleMessage setup env header message) := by
  cases message with
  | missionAck type missionType => exact .guarded fun _ => moves_handleMissionAck setup env header type missionType
  | missionSetCurrent seq => exact .guarded fun _ => moves_handleMissionSetCurrent env seq
  | missionRequestList missionType =>
    exact .guarded fun addressed =>
      moves_handleMissionRequestList env header missionType (stays missionType rfl addressed)
  | missionRequest seq missionType | missionRequestInt seq missionType =>
    rw [handleMessage]
    split
    · exact .of_same (moves_handleMissionRequestBoth env header seq missionType) rfl
    · exact .keep rfl
  | missionCount count missionType =>
      exact .guarded fun _ => moves_handleMissionCount setup env header count missionType
  | missionItem item | missionItemInt item =>
    rw [handleMessage]
    split
    · exact .of_same (moves_handleMissionItemBoth setup env item) rfl
    · exact .keep rfl
  | missionClearAll missionType => exact .guarded fun _ => moves_handleMissionClearAll env missionType

section
variable (h)

lemma clock_sendSlowly : (h.sendSlowly env).clock = h.clock := by
  rw [sendSlowly]
  split_ifs <;> rfl

lemma clock_newCurrentSeq (result : MissionResult) : (h.newCurrentSeq result).clock = h.clock := by
  rw [newCurrentSeq]
  split_ifs <;> rfl

lemma clock_newReached (result : MissionResult) : (h.newReached result).clock = h.clock := by
  rw [newReached]
  split_ifs <;> rfl

variable [Zero K] [Zero D]

lemma clock_resendJump (result : MissionResult) : (h.resendJump env result).clock = h.clock := by
  rw [resendJump]
  split
  · exact clock_sendMissionItem env _ _ _ _
  · rfl

lemma clock_tellProgress : (h.tellProgress env).clock = h.clock := by
  cases result : env.missionResult with
  | none =>
    have slowly : h.tellProgress env = h.sendSlowly env := by rw [tellProgress,result,elim_none]
    rw [slowly]
    exact clock_sendSlowly env h
  | some result' =>
    have told : h.tellProgress env = ((h.newCurrentSeq result').newReached result').resendJump env result' := by
      rw [tellProgress,result,elim_some]
    rw [told,clock_resendJump,clock_newReached,clock_newCurrentSeq]

@[simp] lemma phase_tellProgress : (h.tellProgress env).phase = h.phase := congrArg Prod.fst (clock_tellProgress env h)

lemma timedOut_tellProgress : (h.tellProgress env).timedOut env = h.timedOut env := by
  obtain ⟨same,recv⟩ := Prod.mk.inj (clock_tellProgress env h)
  rw [timedOut,timedOut,← phase_fst,same,recv]
  rfl

end

def GivesUp (env : MissionSurroundings) (h : MissionHandling K D) : Prop :=
  env.iridium = false ∧ h.manager.state = .sendlist ∧ h.timedOut env = true

lemma moves_send [Zero K] [Zero D] (stays : ¬(h.GivesUp env ∧ h.statics.transferInProgress)) :
    h.Moves (h.send setup env) := by
  rw [send]
  split
  · exact .keep rfl
  next talking =>
    rw [checkTimeouts]
    split
    · exact .keep (by simp)
    split
    next timedOut =>
      rw [timedOut_tellProgress] at timedOut
      cases state : h.manager.state with
      | idle => simp [MissionHandling.timedOut,state] at timedOut
      | sendlist =>
        have unclaimed : h.statics.transferInProgress = false := by
          rw [Bool.eq_false_iff]
          exact fun claimed => stays ⟨⟨by simpa using talking,state,timedOut⟩,claimed⟩
        exact .leave state (by simp [unclaimed])
      | getlist => exact .release state (by simp)
    · split <;> exact .keep (by simp)

lemma send_givesUp [Zero K] [Zero D] (givesUp : h.GivesUp env) : (h.send setup env).phase = (.idle,false) := by
  obtain ⟨talking,sending,timedOut⟩ := givesUp
  have state : (h.tellProgress env).manager.state = .sendlist :=
    (congrArg Prod.fst (phase_tellProgress env h)).trans sending
  have noRetry : (h.tellProgress env).retryDue env = false := by simp [retryDue,state]
  rw [send,talking,if_neg (by simp),checkTimeouts,noRetry,if_neg (by simp),timedOut_tellProgress,timedOut,if_pos rfl]
  simp

lemma moves_checkActiveMission : h.Moves (h.checkActiveMission env) := by
  rw [checkActiveMission]
  split_ifs <;> exact .keep rfl

def Acks (result : Nat) (h : MissionHandling K D) : Prop :=
  ∃ sysid compid missionType, .ack sysid compid result missionType ∈ h.actions

variable {result : Nat}

lemma acks_act (other : ∀ sysid compid missionType,
    action ≠ .ack sysid compid result missionType) : (h.act action).Acks result ↔ h.Acks result := by
  constructor
  · rintro ⟨sysid,compid,missionType,member⟩
    rcases List.mem_append.mp member with before | last
    · exact ⟨sysid,compid,missionType,before⟩
    · exact absurd (List.mem_singleton.mp last).symm (other sysid compid missionType)
  · rintro ⟨sysid,compid,missionType,member⟩
    exact ⟨sysid,compid,missionType,List.mem_append_left _ member⟩

lemma acks_storageError (text : String) : (h.storageError text).Acks result ↔ h.Acks result := by
  rw [storageError]
  split
  · exact acks_act (by simp)
  · exact Iff.rfl

lemma acks_updateActiveMission (datamanId count : Nat) (seq : Int) :
    (h.updateActiveMission env datamanId count seq).Acks result ↔ h.Acks result := by
  rw [updateActiveMission]
  split
  · have published : (h.act (.publish ⟨env.now,datamanId,count,seq⟩)).Acks result ↔ h.Acks result := acks_act (by simp)
    exact published
  · exact acks_storageError _

lemma acks_updateStatsCount (written : Bool) (count : Nat) :
    (h.updateStatsCount missionType written count).Acks result ↔ h.Acks result := by
  rw [updateStatsCount]
  split
  · exact Iff.rfl
  · exact acks_storageError _

lemma acks_sendMissionRequest : (h.sendMissionRequest setup env).Acks result ↔ h.Acks result := by
  rw [sendMissionRequest]
  split <;> exact acks_act (by simp)

def Rejects (h : MissionHandling K D) : Prop := h.Acks mavMissionError

lemma rejects_clearCount : (h.clearCount env).Rejects ↔ h.Rejects := by
  rw [clearCount,updateGeofenceCount,updateSafepointCount]
  split_ifs
  · exact acks_updateActiveMission env _ _ _
  · exact acks_updateStatsCount _ _ _
  · exact acks_updateStatsCount _ _ _
  · exact Iff.rfl

lemma rejects_startUpload (count : Nat) : (h.startUpload env header count).Rejects ↔ h.Rejects := by
  rw [startUpload]
  split_ifs
  · exact acks_act (by simp)
  · exact Iff.rfl
  · exact Iff.rfl

lemma rejects_handleMissionCount (count type : Nat)
    (idle : h.manager.state = .idle) (unclaimed : h.statics.transferInProgress = false) :
    (h.handleMissionCount setup env header count type).Rejects ↔ h.Rejects := by
  rw [handleMissionCount,if_pos idle,unclaimed,if_neg (by simp)]
  dsimp only
  split_ifs
  · exact acks_act (by simp [mavMissionNoSpace,mavMissionError])
  · refine Iff.trans (acks_act (by simp [mavMissionAccepted,mavMissionError])) ?_
    exact rejects_clearCount env
  · refine (acks_sendMissionRequest setup env).trans ?_
    exact rejects_startUpload env header count

end MissionHandling

namespace MissionSystem
variable {κ K D : Type} {setup : MissionSetup K D} {s : MissionSystem κ K D}

/-- Uploads exclude each other, and an idle manager accepts one whenever there is none. -/
structure Exclusive (setup : MissionSetup K D) (s : MissionSystem κ K D) : Prop where
  upload : UploadExclusive (fun i => (s.manager i).state) s.statics.transferInProgress
  admits : ∀ i, (s.manager i).state = .idle → (∀ j, (s.manager j).state ≠ .getlist) → ∀ env header count missionType,
      ¬ ((s.entering i).handleMissionCount setup env header count missionType).Rejects

lemma exclusive_iff : s.Exclusive setup ↔
    UploadExclusive (fun i => (s.manager i).state) s.statics.transferInProgress := by
  refine ⟨Exclusive.upload,fun upload => ⟨upload,fun i idle nobody env header count missionType rejects => ?_⟩⟩
  have unclaimed : s.statics.transferInProgress = false := by
    rw [Bool.eq_false_iff]
    intro claimed
    obtain ⟨j,busy⟩ := upload.flag.mp claimed
    exact nobody j busy
  rw [MissionHandling.rejects_handleMissionCount setup env header count missionType idle unclaimed] at rejects
  obtain ⟨_,_,_,member⟩ := rejects
  cases member

lemma exclusive_start (store : MissionStore K D) (stateRead fenceRead safeRead : Bool) :
    (start store stateRead fenceRead safeRead : MissionSystem κ K D).Exclusive setup := by
  refine exclusive_iff.mpr ⟨fun i j busy => ?_,?_⟩
  · cases busy
  constructor
  · intro claimed
    cases claimed
  · rintro ⟨i,busy⟩
    cases busy

/-- A list is asked for where one is being received, and so many items have been received as are stored. -/
def Deserts (setup : MissionSetup K D) (s : MissionSystem κ K D) : MissionEvent κ K → Prop
  | .message i header (.missionRequestList _) _ => MissionHandling.addressed setup header = true ∧
      (s.manager i).state = .getlist ∧ (s.entering i).maybeCompleted = true
  | _ => False

def GivesUp (s : MissionSystem κ K D) : MissionEvent κ K → Prop
  | .send i env => (s.entering i).GivesUp env ∧ ∃ j, (s.manager j).state = .getlist
  | _ => False

variable [DecidableEq κ]

lemma states_leaving (i : κ) (h : MissionHandling K D) :
    (fun j => ((s.leaving i h).manager j).state) = update (fun j => (s.manager j).state) i h.manager.state := by
  funext j
  simp only [leaving,update_apply]
  split <;> rfl

lemma exclusive_leaving (sole : s.Exclusive setup)
    (moves : (s.entering i).Moves h) : (s.leaving i h).Exclusive setup := by
  rw [exclusive_iff,states_leaving]
  exact UploadMove.exclusive (i := i) sole.upload moves

variable [Zero K] [Zero D]

lemma exclusive_step (sole : s.Exclusive setup) (e : MissionEvent κ K) (stays : ¬s.Deserts setup e)
    (persists : ¬s.GivesUp e) : (s.step setup e).Exclusive setup := by
  cases e with
  | message i header message env =>
    refine exclusive_leaving sole (MissionHandling.moves_handleMessage setup env header message ?_)
    rintro missionType rfl addressed ⟨busy,completed⟩
    exact stays ⟨addressed,busy,completed⟩
  | send i env =>
    refine exclusive_leaving sole (MissionHandling.moves_send setup env ?_)
    rintro ⟨givesUp,claimed⟩
    exact persists ⟨givesUp,sole.upload.flag.mp claimed⟩
  | checkActiveMission i env => exact exclusive_leaving sole (MissionHandling.moves_checkActiveMission env)

lemma not_exclusive_deserts (sole : s.Exclusive setup) (deserts : s.Deserts setup e) :
    ¬(s.step setup e).Exclusive setup := by
  intro after
  cases e with
  | send | checkActiveMission => exact deserts
  | message i header message env =>
    cases message with
    | missionRequestList missionType =>
      obtain ⟨addressed,busy,completed⟩ := deserts
      obtain ⟨state,flag⟩ := Prod.mk.inj
        (MissionHandling.handleMissionRequestList_completed env header missionType completed)
      have upload := after.upload
      rw [step,MissionHandling.handleMessage,if_pos addressed,states_leaving,state] at upload
      have claimed := sole.upload.flag.mpr ⟨i,busy⟩
      obtain ⟨j,busy'⟩ := upload.flag.mp (flag.trans claimed)
      by_cases eq : j = i
      · subst eq
        simp at busy'
      · rw [update_of_ne eq] at busy'
        exact eq (sole.upload.one j i busy' busy)
    | _ => exact deserts

lemma not_exclusive_givesUp (givesUp : s.GivesUp e) : ¬(s.step setup e).Exclusive setup := by
  intro after
  cases e with
  | message | checkActiveMission => exact givesUp
  | send i env =>
    obtain ⟨givesUp,j,busy⟩ := givesUp
    obtain ⟨_,flag⟩ := Prod.mk.inj (MissionHandling.send_givesUp setup env givesUp)
    have upload := after.upload
    rw [step,states_leaving] at upload
    have other : j ≠ i := by
      rintro rfl
      have sending : (s.manager j).state = .sendlist := givesUp.2.1
      simp [sending] at busy
    have claimed := upload.flag.mpr ⟨j,by rw [update_of_ne other]; exact busy⟩
    exact absurd (flag.symm.trans claimed) (by simp)

/-- Uploads exclude each other exactly if no manager deserts an upload or gives up a download
while another receives a list. -/
theorem uploads_exclusive_iff (setup : MissionSetup K D) (store : MissionStore K D) (stateRead fenceRead safeRead : Bool)
    (events : List (MissionEvent κ K)) :
    (start store stateRead fenceRead safeRead : MissionSystem κ K D).Exclusive setup ∧
      (Along (step setup) (fun s e => (s.step setup e).Exclusive setup)
          (start store stateRead fenceRead safeRead) events ↔
        Along (step setup) (fun s e => ¬ s.Deserts setup e ∧ ¬ s.GivesUp e)
          (start store stateRead fenceRead safeRead) events) := by
  refine ⟨exclusive_start store stateRead fenceRead safeRead,?_⟩
  refine along_congr_along (R := fun _ _ => True) (Exclusive setup) (fun s e _ after _ => after) ?_
    (along_of_forall (fun _ _ => trivial) _ events) (exclusive_start store stateRead fenceRead safeRead)
  intro s e _ exclusive
  constructor
  · exact fun after => ⟨fun deserts => not_exclusive_deserts exclusive deserts after,
      fun givesUp => not_exclusive_givesUp givesUp after⟩
  · exact fun stays => exclusive_step exclusive e stays.1 stays.2

def twoLinks : MissionSetup Int Int where
  layout := datamanLayout
  sysid := 1
  compid := 1
  parseMavlinkMissionItem := fun intMode _ => ⟨mavMissionAccepted,intMode,.zero⟩

def emptyStore : MissionStore Int Int := ⟨fun _ _ => none,fun _ => none,fun _ => none,fun _ => none,none⟩

def working (now : Nat) : MissionSurroundings := ⟨now,false,none,true,true,true,true,true,true,true,true⟩

def station : MissionHeader := ⟨255,190,1,1⟩

def secondUpload : List (MissionEvent Bool Int) :=
  [.message true station (.missionCount 1 mavMissionTypeMission) (working 1),
    .message false station (.missionRequestList mavMissionTypeMission) (working 1),
    .send false (working 6000000),
    .message false station (.missionCount 1 mavMissionTypeMission) (working 6000000)]

def desertedUpload : List (MissionEvent Bool Int) :=
  [.message true station (.missionCount 1 mavMissionTypeMission) (working 1),
    .message true station (.missionRequestList mavMissionTypeMission) (working 1),
    .message true station (.missionAck mavMissionAccepted mavMissionTypeMission) (working 1)]

theorem uploads_overlap :
    ((secondUpload.foldl (step twoLinks) (start emptyStore true true true)).manager true).state = .getlist ∧
      ((secondUpload.foldl (step twoLinks) (start emptyStore true true true)).manager false).state = .getlist ∧
      ((desertedUpload.foldl (step twoLinks) (start emptyStore true true true)).manager true).state = .idle ∧
      ((desertedUpload.foldl (step twoLinks) (start emptyStore true true true)).manager false).state = .idle ∧
      (desertedUpload.foldl (step twoLinks) (start emptyStore true true true)).statics.transferInProgress = true := by
  decide +kernel

end MissionSystem
end AerialManipulator
