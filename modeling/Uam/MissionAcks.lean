import Uam.MissionHistory

/-! When an item is acknowledged. An idle manager goes by the counter of its last transfer, whatever became of that. -/
namespace AerialManipulator
open Runs MissionSystem
open MissionHandling (addressed)

namespace MissionHandling
variable {K D : Type} (setup : MissionSetup K D) (env : MissionSurroundings) {h : MissionHandling K D}

def Accepts (h : MissionHandling K D) : Prop := h.Acks mavMissionAccepted

lemma accepts_sendMissionAck (type : Nat) : (h.sendMissionAck type).Accepts ↔ h.Accepts ∨ type = mavMissionAccepted := by
  by_cases accepted : type = mavMissionAccepted
  · subst accepted
    simp only [or_true,iff_true]
    exact ⟨_,_,_,List.mem_append_right _ (List.mem_singleton.mpr rfl)⟩
  · simp only [accepted,or_false]
    refine acks_act fun sysid compid missionType same => accepted ?_
    injection same

lemma accepts_switchToIdleState : h.switchToIdleState.Accepts ↔ h.Accepts := by
  rw [switchToIdleState]
  split
  · exact acks_act (h := {h with manager := {h.manager with geofenceLocked := false}}) (by simp)
  · exact Iff.rfl

lemma accepts_activate : (h.activate env).Accepts ↔ h.Accepts := by
  rw [activate]
  split_ifs
  · exact acks_updateActiveMission env _ _ _
  · exact acks_updateStatsCount _ _ _
  · exact acks_updateStatsCount _ _ _
  · exact Iff.rfl

lemma accepts_storeItem (wp : MavlinkMissionItem K) (item : MissionItem K D) :
    (h.storeItem env wp item).handling.Accepts ↔ h.Accepts := by
  rw [storeItem]
  split_ifs
  · rw [storeWaypoint]
    split_ifs <;> exact Iff.rfl
  · rw [storeFencePoint]
    split
    · exact acks_updateStatsCount _ _ _
    · split_ifs <;> exact Iff.rfl
  · rw [storeSafePoint]
    split_ifs <;> exact Iff.rfl
  · exact acks_act (by simp)

lemma accepts_finishUpload {g : MissionHandling K D} (type : g.manager.missionType = h.manager.missionType) :
    (g.finishUpload env).Accepts ↔ g.Accepts ∨ h.activated env := by
  have answer : (g.finishUpload env).Accepts ↔ ((g.activate env).switchToIdleState.sendMissionAck
    (if g.activated env then mavMissionAccepted else mavMissionError)).Accepts := Iff.rfl
  have activated : g.activated env = h.activated env := by rw [MissionHandling.activated,MissionHandling.activated,type]
  rw [answer,accepts_sendMissionAck,accepts_switchToIdleState,accepts_activate,activated]
  cases h.activated env <;> simp [mavMissionAccepted,mavMissionError]

lemma accepts_takeItem {g : MissionHandling K D} {wp : MavlinkMissionItem K} (same : g.view = h.view)
    (actions : g.actions = h.actions) (seq : wp.seq = h.manager.transferSeq) :
    (g.takeItem setup env wp item).Accepts ↔ h.Accepts ∨ ∃ item', h.markTaken env wp item = .completed item' := by
  have before : h.Accepts ↔ g.Accepts := by rw [Accepts,Accepts,Acks,Acks,actions]
  have seq : wp.seq = g.manager.transferSeq := seq.trans (congrArg (fun view => view.1.seq) same).symm
  rw [← markTaken_congr env same,before,markTaken,takeItem]
  cases refused : ((g.storeItem env wp item).writeFailed || (g.storeItem env wp item).checkFailed) with
  | true =>
    have told : (if (g.storeItem env wp item).writeFailed then
          ((g.storeItem env wp item).handling.sendMissionAck mavMissionError).act (.critical "Unable to write on micro SD\t")
        else (g.storeItem env wp item).handling.sendMissionAck mavMissionError).Accepts ↔ g.Accepts := by
      have error : ((g.storeItem env wp item).handling.sendMissionAck mavMissionError).Accepts ↔ g.Accepts := by
        rw [accepts_sendMissionAck,accepts_storeItem]
        simp [mavMissionAccepted,mavMissionError]
      split
      · exact (acks_act (by simp)).trans error
      · exact error
    have marked : ¬∃ item' : MissionItem K D, (if (g.storeItem env wp item).checkFailed ∧ g.manager.missionType = mavMissionTypeFence ∧
        env.fenceStatsWritten then MissionMark.emptied else MissionMark.other) = .completed item' := by
      rintro ⟨item',completed⟩
      split at completed <;> cases completed
    rw [if_pos rfl,if_pos rfl]
    simp only [marked,or_false]
    exact accepts_switchToIdleState.trans told
  | false =>
    obtain ⟨transfer,_⟩ := Prod.mk.inj (view_stored env g seq refused)
    have stored := accepts_storeItem env (h := g) wp item
    simp only [Bool.false_eq_true,if_false]
    generalize (g.storeItem env wp item).handling = k at transfer stored
    have type : k.manager.missionType = g.manager.missionType := congrArg MissionTransfer.missionType transfer
    have count : k.manager.transferCount = g.manager.transferCount := congrArg MissionTransfer.count transfer
    by_cases last : (wp.seq + 1) % 2^16 = g.manager.transferCount
    · rw [if_pos last,if_pos (last.trans count.symm),accepts_finishUpload env (h := g) (by exact type)]
      refine or_congr stored ?_
      cases g.activated env <;> simp
    · rw [if_neg last,if_neg (by rw [count]; exact last)]
      simp only [reduceCtorEq,exists_false,or_false]
      exact (acks_sendMissionRequest setup env).trans stored

lemma accepts_handleMissionItemBoth (wp : MavlinkMissionItem K) : (h.handleMissionItemBoth setup env wp).Accepts ↔
    h.Accepts ∨ (∃ item, h.markItem setup env wp = .completed item) ∨
      wp.missionType = h.manager.missionType ∧ h.manager.state = .idle ∧ h.manager.transferSeq = wp.seq+1 := by
  have error : (h.sendMissionAck mavMissionError).Accepts ↔ h.Accepts := by
    rw [accepts_sendMissionAck]
    simp [mavMissionAccepted,mavMissionError]
  have refused (text : String) : ((h.act (.critical text)).sendMissionAck mavMissionError).Accepts ↔ h.Accepts := by
    have told : (h.act (.critical text)).Accepts ↔ h.Accepts := acks_act (by simp)
    rw [accepts_sendMissionAck,told]
    simp [mavMissionAccepted,mavMissionError]
  rw [handleMissionItemBoth,markItem,expects]
  by_cases type : wp.missionType = h.manager.missionType
  · rw [if_neg (not_not.mpr type),decide_eq_true type,Bool.true_and]
    by_cases busy : h.manager.state = .getlist
    · rw [if_pos busy,decide_eq_true busy,Bool.true_and]
      simp only [busy,reduceCtorEq,false_and,and_false,or_false]
      by_cases seq : wp.seq = h.manager.transferSeq
      · rw [if_neg (not_not.mpr seq),decide_eq_true seq,Bool.true_and]
        by_cases understood : (setup.parseMavlinkMissionItem h.manager.intMode wp).result = mavMissionAccepted
        · rw [if_neg (not_not.mpr understood),decide_eq_true understood,if_pos rfl]
          exact accepts_takeItem setup env rfl rfl seq
        rw [if_pos understood,decide_eq_false understood]
        simp only [Bool.false_eq_true,if_false,reduceCtorEq,exists_false,or_false]
        refine accepts_switchToIdleState.trans ((accepts_sendMissionAck _).trans ?_)
        simp only [understood,or_false]
        exact acks_act (by simp)
      · rw [if_pos seq,decide_eq_false seq]
        simp
        exact Iff.rfl
    · rw [if_neg busy,decide_eq_false busy]
      simp only [Bool.false_and,Bool.false_eq_true,if_false,reduceCtorEq,exists_false,false_or,type,true_and]
      by_cases idle : h.manager.state = .idle
      · rw [if_pos idle]
        simp only [idle,true_and]
        split
        next behind =>
          rw [accepts_sendMissionAck]
          simp [behind]
        next behind =>
          rw [refused]
          simp [behind]
      · rw [if_neg idle,refused]
        simp [idle]
  · rw [if_pos type,decide_eq_false type,error]
    simp [type]

end MissionHandling

def MissionMark.accepted {K D : Type} (missionType : Nat) (lists : MissionLists K D) :
    MissionMark K D → Option (Nat × MissionLists K D) → Option (Nat × MissionLists K D)
  | .opened _ _ _ _,_ => none
  | .completed _,_ => some (missionType,lists)
  | _,accepted => accepted

section
variable {K D : Type} {t : MissionTransfer} {l : MissionLists K D} {items : List (MissionItem K D)} {accepted : Option (Nat × MissionLists K D)}

structure Delivers (l : MissionLists K D) (missionType : Nat) (items : List (MissionItem K D)) : Prop where
  count : l.count missionType = items.length
  size : l.size missionType = items.length
  stored : ∀ k (bound : k < items.length), l.point l.active missionType k = some (.ofItem missionType items[k])

lemma Receiving.delivers (receiving : Receiving t l items) (last : (t.seq + 1) % 2^16 = t.count) (item : MissionItem K D) :
    Delivers ((l.put t item).activate t) t.missionType (items ++ [item]) := by
  have small : t.count < 2^16 := by omega
  obtain ⟨length,stored⟩ := receiving.put small item
  have next := (receiving.counted small).2
  have all : t.count = (items ++ [item]).length := by rw [length,← last,Nat.mod_eq_of_lt (by omega)]
  obtain ⟨count,size⟩ := MissionLists.count_activate (l := l.put t item) receiving.known
  refine ⟨count.trans all,size.trans all,fun k bound => ?_⟩
  rw [MissionLists.point_activate,← stored k bound]
  by_cases mission : t.missionType = mavMissionTypeMission
  · have active : ((l.put t item).activate t).active = t.datamanId := by
      rw [MissionLists.activate,if_pos mission]
      rfl
    rw [active]
  · exact MissionLists.point_storage mission _ _ k

lemma MissionMove.completed (move : MissionMove (.completed item) (t,l) (t',l')) :
    t.state = .getlist ∧ (t.seq + 1) % 2^16 = t.count := by
  cases move with
  | complete busy _ last => exact ⟨busy,last⟩

structure Accounted (t : MissionTransfer) (l : MissionLists K D) (items : List (MissionItem K D))
    (accepted : Option (Nat × MissionLists K D)) : Prop where
  receiving : t.state = .getlist → Receiving t l items
  pending : t.state = .getlist → accepted = none
  delivered : ∀ missionType lists, accepted = some (missionType,lists) → Delivers lists missionType items

lemma Accounted.move (accounted : Accounted t l items accepted) (move : MissionMove m (t,l) (t',l')) :
    Accounted t' l' (m.items items) (m.accepted t.missionType l' accepted) := by
  refine ⟨Receiving.move move accounted.receiving,fun busy => ?_,fun missionType lists delivered => ?_⟩
  · cases move.openMove busy with
    | keep | take busy => exact accounted.pending busy
    | start => rfl
  · cases move with
    | start => cases delivered
    | take busy | fail busy =>
      have delivered : accepted = some (missionType,lists) := delivered
      rw [accounted.pending busy] at delivered
      cases delivered
    | complete busy item last =>
      cases delivered
      exact (accounted.receiving busy).delivers last item
    | _ => exact accounted.delivered missionType lists delivered

end

def MissionEvent.item {κ K : Type} : MissionEvent κ K → Option (MavlinkMissionItem K)
  | .message _ _ (.missionItem wp) _ => some wp
  | .message _ _ (.missionItemInt wp) _ => some wp
  | _ => none

namespace MissionSystem
variable {κ K D : Type}

def Answers [Zero K] [Zero D] (setup : MissionSetup K D) (s : MissionSystem κ K D) (wp : MavlinkMissionItem K)
    (e : MissionEvent κ K) : Prop :=
  e.item = some wp ∧ match e with
    | .message i header message env => ((s.entering i).handleMessage setup env header message).Accepts
    | _ => False

def Resent (setup : MissionSetup K D) (s : MissionSystem κ K D) (wp : MavlinkMissionItem K) (e : MissionEvent κ K) : Prop :=
  e.item = some wp ∧ match e with
    | .message i header _ _ => addressed setup header = true ∧ wp.missionType = (s.manager i).missionType ∧
        (s.manager i).state = .idle ∧ (s.manager i).transferSeq = wp.seq+1
    | _ => False

variable {setup : MissionSetup K D} {wp : MavlinkMissionItem K}

lemma completed_expects {h : MissionHandling K D} (completed : h.markItem setup env wp = .completed item) :
    wp.missionType = h.manager.missionType ∧ wp.seq = h.manager.transferSeq := by
  rw [MissionHandling.markItem] at completed
  split at completed
  next expects =>
    simp only [MissionHandling.expects,Bool.and_eq_true,decide_eq_true_eq] at expects
    exact ⟨expects.1.1.1,expects.1.2⟩
  · cases completed

lemma completed_item {s : MissionSystem κ K D} {e : MissionEvent κ K} (found : e.item = some wp)
    (completed : s.mark setup e = .completed item) :
    wp.missionType = (s.manager e.manager).missionType ∧ wp.seq = (s.manager e.manager).transferSeq := by
  cases e with
  | message i header message env =>
    cases message with
    | missionItem wp' | missionItemInt wp' =>
      cases found
      rw [mark,MissionHandling.mark] at completed
      split at completed
      · exact completed_expects completed
      · cases completed
    | _ => cases found
  | send | checkActiveMission => cases found

lemma answers_iff [Zero K] [Zero D] {s : MissionSystem κ K D}
    : s.Answers setup wp e ↔ (e.item = some wp ∧ ∃ item, s.mark setup e = .completed item) ∨ s.Resent setup wp e := by
  unfold Answers Resent
  rw [← and_or_left]
  refine and_congr_right fun found => ?_
  have answer (i : κ) (header : MissionHeader) (env : MissionSurroundings) (intMode : Bool) :
      (if addressed setup header then {s.entering i with manager := {(s.entering i).manager with
          intMode := intMode}}.handleMissionItemBoth setup env wp
        else {s.entering i with manager := {(s.entering i).manager with intMode := intMode}}).Accepts ↔
      (∃ item, (if addressed setup header then {s.entering i with manager := {(s.entering i).manager with
          intMode := intMode}}.markItem setup env wp else .other) = .completed item) ∨
        addressed setup header ∧ wp.missionType = (s.manager i).missionType ∧
          (s.manager i).state = .idle ∧ (s.manager i).transferSeq = wp.seq+1 := by
    have quiet : ¬({s.entering i with manager := {(s.entering i).manager with intMode := intMode}} :
        MissionHandling K D).Accepts := by
      rintro ⟨_,_,_,member⟩
      cases member
    by_cases addressed : addressed setup header = true
    · rw [if_pos addressed,if_pos addressed,MissionHandling.accepts_handleMissionItemBoth]
      simp only [quiet,false_or,addressed,true_and]
      exact Iff.rfl
    · rw [if_neg addressed,if_neg addressed]
      simp [quiet,addressed]
  cases e with
  | message i header message env =>
    cases message with
    | missionItem wp' =>
      cases found
      exact answer i header env false
    | missionItemInt wp' =>
      cases found
      exact answer i header env true
    | _ => cases found
  | send | checkActiveMission => cases found

end MissionSystem

namespace MissionHistory
variable {K D : Type} [Zero K] [Zero D] {setup : MissionSetup K D} {s : MissionHistory Unit K D}

def Accounted (s : MissionHistory Unit K D) : Prop :=
  AerialManipulator.Accounted (s.system.manager ()).transfer s.system.lists (s.record ()).items (s.record ()).accepted

lemma accepted_recordAfter (s : MissionHistory Unit K D) (e : MissionEvent Unit K) : (s.recordAfter setup e).accepted =
    (s.system.mark setup e).accepted (s.system.manager ()).missionType (s.system.step setup e).lists (s.record ()).accepted := by
  rw [recordAfter]
  cases s.system.mark setup e with
  | other =>
    dsimp only
    split <;> rfl
  | _ => rfl

lemma accounted_step (accounted : s.Accounted) (e : MissionEvent Unit K) : (s.step setup e).Accounted := by
  have move := s.system.move_step setup e
  have record : (s.step setup e).record () = s.recordAfter setup e := by rw [record_step,if_pos rfl]
  rw [Accounted,record,items_recordAfter,accepted_recordAfter]
  exact AerialManipulator.Accounted.move accounted move

/-- The item belongs to an accepted upload: all its items were stored and its count activated. -/
def Delivered (r : MissionRecord K D) (wp : MavlinkMissionItem K) : Prop :=
  ∃ lists, r.accepted = some (wp.missionType,lists) ∧ wp.seq < r.items.length ∧ Delivers lists wp.missionType r.items

/-- The manager's last upload had the item's type and such an item, and was accepted. -/
def Remembered (r : MissionRecord K D) (wp : MavlinkMissionItem K) : Prop :=
  (∃ lists, r.accepted = some (wp.missionType,lists)) ∧ wp.seq < r.items.length

lemma recordAfter_resent (resent : s.system.Resent setup wp e) : s.recordAfter setup e = s.record () := by
  have idle (env : MissionSurroundings) (header : MissionHeader) (intMode : Bool) (wp' : MavlinkMissionItem K)
      (idle : (s.system.manager ()).state = .idle) :
      (if addressed setup header then {s.system.entering () with
        manager := {(s.system.entering ()).manager with intMode := intMode}}.markItem setup env wp' else .other) = .other := by
    have state : (s.system.entering ()).manager.state = .idle := idle
    simp [MissionHandling.markItem,MissionHandling.expects,state]
  obtain ⟨found,there⟩ := resent
  cases e with
  | message i header message env =>
    cases message with
    | missionItem wp' =>
      have mark : s.system.mark setup (.message i header (.missionItem wp') env) = .other := idle env header false wp' there.2.2.1
      rw [recordAfter,mark]
      rfl
    | missionItemInt wp' =>
      have mark : s.system.mark setup (.message i header (.missionItemInt wp') env) = .other := idle env header true wp' there.2.2.1
      rw [recordAfter,mark]
      rfl
    | _ => cases found
  | send | checkActiveMission => cases found

lemma sound_iff (accounted : s.Accounted) (e : MissionEvent Unit K) :
    (∀ wp, s.system.Answers setup wp e → Delivered ((s.step setup e).record ()) wp) ↔
      ∀ wp, s.system.Resent setup wp e → Remembered (s.record ()) wp := by
  have record : (s.step setup e).record () = s.recordAfter setup e := by rw [record_step,if_pos rfl]
  rw [record]
  constructor
  · intro sound wp resent
    obtain ⟨lists,accepted,bound,_⟩ := sound wp (answers_iff.mpr (.inr resent))
    rw [recordAfter_resent resent] at accepted bound
    exact ⟨⟨lists,accepted⟩,bound⟩
  · intro known wp answers
    rcases answers_iff.mp answers with ⟨found,item,completed⟩ | resent
    · obtain ⟨type,seq⟩ := completed_item found completed
      have move := s.system.move_step setup e
      rw [completed] at move
      obtain ⟨busy,last⟩ := MissionMove.completed move
      have small : (s.system.manager ()).transfer.count < 2^16 := by
        rw [← last]
        exact Nat.mod_lt _ (by decide)
      obtain ⟨length,_⟩ := (accounted.receiving busy).put small item
      have after : (s.step setup e).Accounted := accounted_step accounted e
      have accepted : (s.recordAfter setup e).accepted = some (wp.missionType,(s.system.step setup e).lists) := by
        rw [accepted_recordAfter,completed,type]
        rfl
      have items : (s.recordAfter setup e).items = (s.record ()).items ++ [item] := by
        rw [items_recordAfter,completed]
        rfl
      rw [Accounted,record] at after
      refine ⟨_,accepted,?_,after.delivered _ _ accepted⟩
      rw [items,length,seq]
      exact Nat.lt_succ_self _
    · obtain ⟨⟨lists,accepted⟩,bound⟩ := known wp resent
      rw [recordAfter_resent resent]
      exact ⟨lists,accepted,bound,accounted.delivered _ _ accepted⟩

/-- Acceptance means that the item's upload was activated, exactly if what an idle manager accepts belongs to one. -/
theorem acceptance_sound_iff (setup : MissionSetup K D) (store : MissionStore K D) (stateRead fenceRead safeRead : Bool)
    (events : List (MissionEvent Unit K)) :
    Along (step setup) (fun s e => ∀ wp, s.system.Answers setup wp e → Delivered ((s.step setup e).record ()) wp)
        (start store stateRead fenceRead safeRead) events ↔
      Along (step setup) (fun s e => ∀ wp, s.system.Resent setup wp e → Remembered (s.record ()) wp)
        (start store stateRead fenceRead safeRead) events := by
  refine along_congr_invariant Accounted (fun s e accounted => accounted_step accounted e)
    (fun s e accounted => sound_iff accounted e) ⟨fun busy => ?_,fun _ => rfl,fun _ _ accepted => ?_⟩ events
  · cases busy
  · cases accepted

/-! A waypoint upload of two items is cancelled after the first, which is then sent again. -/

def cancelledMission : List (MissionEvent Unit Int) :=
  [.message () station (.missionCount 2 mavMissionTypeMission) (working 1),
    .message () station (numberedItem mavMissionTypeMission 0 10) (working 2),
    .message () station (.missionAck mavMissionOperationCancelled mavMissionTypeMission) (working 3)]

def sentAgain : MissionEvent Unit Int :=
  .message () station (numberedItem mavMissionTypeMission 0 10) (working 4)

theorem acceptance_after_cancelling : ∃ wp,
    (cancelledMission.foldl (step numbered) (start emptyStore true true true)).system.Answers numbered wp sentAgain ∧
      ¬ Delivered (((cancelledMission ++ [sentAgain]).foldl (step numbered)
        (start emptyStore true true true)).record ()) wp := by
  refine ⟨⟨0,mavMissionTypeMission,0,16,false,true,10,0,0,0,0,0,0⟩,⟨rfl,255,190,0,List.Mem.head _⟩,?_⟩
  rintro ⟨lists,accepted,_⟩
  cases accepted

end MissionHistory
end AerialManipulator
