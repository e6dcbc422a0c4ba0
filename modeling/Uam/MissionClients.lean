import Uam.MissionHistory

/-! Several clients on a link: whose items an upload is made of, and how many. -/
namespace AerialManipulator
open Runs

def MissionMark.claim {K D : Type} : MissionMark K D → (Nat × Nat) × Nat → (Nat × Nat) × Nat
  | .opened sysid compid _ count,_ => ((sysid,compid),count)
  | _,claim => claim

section
variable {K D : Type} {t t' : MissionTransfer} {l l' : MissionLists K D} {items : List (MissionItem K D)} {claim : (Nat × Nat) × Nat}

structure Owned (t : MissionTransfer) (items : List (MissionItem K D)) (claim : (Nat × Nat) × Nat) : Prop where
  opener : claim.1 = (t.sysid,t.compid)
  announced : claim.2 = t.count
  counted : t.count < 2^16 → items.length = t.seq ∧ t.seq < t.count

lemma Owned.move (move : MissionMove m (t,l) (t',l')) (owned : t.state = .getlist → Owned t items claim)
    (busy : t'.state = .getlist) : Owned t' (m.items items) (m.claim claim) := by
  cases move.openMove busy with
  | keep => exact owned busy
  | start missionType count known positive => exact ⟨rfl,rfl,fun _ => ⟨rfl,positive⟩⟩
  | take busy item more =>
    have before := owned busy
    refine ⟨before.opener,before.announced,fun small => ?_⟩
    obtain ⟨length,next⟩ := before.counted small
    have small : t.count < 2^16 := small
    have fits : (t.seq + 1) % 2^16 = t.seq + 1 := Nat.mod_eq_of_lt (by omega)
    rw [fits] at more ⊢
    exact ⟨by simp [MissionMark.items,length],lt_of_le_of_ne next more⟩

lemma MissionMove.stores (move : MissionMove m (t,l) (t',l')) :
    (m = .taken item → t.state = .getlist) ∧ (m = .completed item → t.state = .getlist) := by
  cases move with
  | take busy | fail busy | complete busy => exact ⟨fun _ => busy,fun _ => busy⟩
  | _ => simp

lemma Owned.complete (owned : t.state = .getlist → Owned t items claim)
    (move : MissionMove (.completed item) (t,l) (t',l')) : (items ++ [item]).length = claim.2 := by
  cases move with
  | complete busy _ last =>
    have before := owned busy
    have small : t.count < 2^16 := by omega
    obtain ⟨length,next⟩ := before.counted small
    rw [before.announced,← last,Nat.mod_eq_of_lt (by omega)]
    simp [length]

end

/-- It reaches `handle_mission_item_both`. -/
def MissionEvent.bringsItem {κ K D : Type} (setup : MissionSetup K D) : MissionEvent κ K → Bool
  | .message _ header (.missionItem _) _ | .message _ header (.missionItemInt _) _ => MissionHandling.addressed setup header
  | _ => false

namespace MissionHistory

lemma busy_of_repeats {κ K D : Type} {setup : MissionSetup K D} {s : MissionHistory κ K D} {e : MissionEvent κ K}
    (repeats : s.repeats setup e = true) :
    (s.system.manager e.manager).state = .getlist := by
  cases e with
  | message i header message env =>
    cases message with
    | missionCount =>
      simp only [MissionHistory.repeats,Bool.and_eq_true,decide_eq_true_eq] at repeats
      exact repeats.1.1.2
    | _ => cases repeats
  | send | checkActiveMission => cases repeats

variable {κ K D : Type} [DecidableEq κ] [Zero K] [Zero D] {setup : MissionSetup K D} {s : MissionHistory κ K D}

def Stores (setup : MissionSetup K D) (s : MissionHistory κ K D) (e : MissionEvent κ K) (item : MissionItem K D) : Prop :=
  s.system.mark setup e = .taken item ∨ s.system.mark setup e = .completed item

/-- Stored items come from the opener of the upload, and an accepted one has as many as were announced last. -/
structure OneClient (setup : MissionSetup K D) (s : MissionHistory κ K D) (e : MissionEvent κ K) : Prop where
  sender : ∀ item, s.Stores setup e item → e.sender = (s.record e.manager).opener
  count : ∀ item, s.system.mark setup e = .completed item →
    ((s.step setup e).record e.manager).items.length = (s.record e.manager).announced

/-- During an upload items come from the partner, and a count repeated before the first item is the same one. -/
structure Faithful (setup : MissionSetup K D) (s : MissionHistory κ K D) (e : MissionEvent κ K) : Prop where
  sender : e.bringsItem setup = true → (s.system.manager e.manager).state = .getlist →
    e.sender = ((s.system.manager e.manager).transferPartnerSysid,(s.system.manager e.manager).transferPartnerCompid)
  count : s.repeats setup e = true → e.count = (s.system.manager e.manager).transferCount

omit [DecidableEq κ] [Zero K] [Zero D] in
lemma bringsItem_of_stores (stores : s.Stores setup e item) : e.bringsItem setup = true := by
  unfold Stores MissionSystem.mark at stores
  cases e with
  | message i header message env => cases message <;> grind [MissionHandling.mark,MissionEvent.bringsItem]
  | _ => simp at stores

def Owned (s : MissionHistory κ K D) : Prop := ∀ i, (s.system.manager i).transfer.state = .getlist →
  AerialManipulator.Owned (s.system.manager i).transfer (s.record i).items ((s.record i).opener,(s.record i).announced)

variable {e : MissionEvent κ K}

section
variable (owned : s.Owned) (faithful : s.Faithful setup e)
include owned faithful

lemma claim_recordAfter : ((s.recordAfter setup e).opener,(s.recordAfter setup e).announced) =
      (s.system.mark setup e).claim ((s.record e.manager).opener,(s.record e.manager).announced) := by
  rw [recordAfter]
  cases mark : s.system.mark setup e with
  | other =>
    dsimp only
    split
    · rename_i repeats
      have announced := (owned e.manager (busy_of_repeats repeats)).announced
      rw [MissionMark.claim,faithful.count repeats]
      · exact congrArg (Prod.mk _) announced.symm
      · simp
    · rfl
  | _ => rfl

lemma owned_step : (s.step setup e).Owned := by
  intro i busy
  by_cases own : i = e.manager
  · subst own
    rw [record_step,if_pos rfl,items_recordAfter,claim_recordAfter owned faithful]
    exact AerialManipulator.Owned.move (s.system.move_step setup e) (owned e.manager) busy
  · have same : (s.step setup e).system.manager i = s.system.manager i := s.system.manager_step_other setup own
    rw [record_step,if_neg own,same]
    rw [same] at busy
    exact owned i busy

lemma oneClient_of_faithful : s.OneClient setup e := by
  have move := s.system.move_step setup e
  constructor
  · intro item stores
    have busy : (s.system.manager e.manager).transfer.state = .getlist := by
      rcases stores with taken | completed
      · rw [taken] at move
        exact (MissionMove.stores move).1 rfl
      · rw [completed] at move
        exact (MissionMove.stores move).2 rfl
    rw [faithful.sender (bringsItem_of_stores stores) busy]
    exact (owned e.manager busy).opener.symm
  · intro item completed
    rw [completed] at move
    have length := AerialManipulator.Owned.complete (owned e.manager) move
    rw [record_step,if_pos rfl,items_recordAfter,completed]
    exact length

end

/-- If items come from the partner during an upload, and that one keeps its count, the upload belongs to one client. -/
theorem upload_of_one_client (setup : MissionSetup K D) (store : MissionStore K D) (stateRead fenceRead safeRead : Bool)
    (events : List (MissionEvent κ K))
    (faithful : Along (step setup) (Faithful setup) (start store stateRead fenceRead safeRead) events) :
    Along (step setup) (OneClient setup) (start store stateRead fenceRead safeRead) events := by
  refine along_of_invariant Owned (fun s e faithful owned => owned_step owned faithful)
    (fun s e faithful owned => oneClient_of_faithful owned faithful) faithful fun i busy => ?_
  cases busy

def client (sysid : Nat) : MissionHeader := ⟨sysid,190,1,1⟩

def counting (count now : Nat) : MissionEvent Unit Int :=
  .message () (client 255) (.missionCount count mavMissionTypeMission) (MissionSystem.working now)

def bringing (sysid seq now : Nat) : MissionEvent Unit Int :=
  .message () (client sysid) (numberedItem mavMissionTypeMission seq 10) (MissionSystem.working now)

/-- The count is sent twice; then the client's items are taken, and the upload is accepted. -/
theorem upload_of_one_client_accepted : let started := start MissionSystem.emptyStore true true true
    Along (step numbered) (OneClient numbered) started [counting 2 1,counting 2 2,bringing 255 0 3,bringing 255 1 4] ∧
      (([counting 2 1,counting 2 2,bringing 255 0 3,bringing 255 1 4].foldl (step numbered) started).record ()).accepted.isSome := by
  refine ⟨upload_of_one_client _ _ _ _ _ _ ?_,by decide +kernel⟩
  refine ⟨?_,?_,?_,?_,trivial⟩ <;> constructor <;> decide +kernel

theorem upload_of_two_clients : let started := start MissionSystem.emptyStore true true true
    ¬(step numbered started (counting 1 1)).OneClient numbered (bringing 254 0 3) ∧
      ¬([counting 1 1,counting 3 2].foldl (step numbered) started).OneClient numbered (bringing 255 0 3) := by
  constructor
  · intro one
    have sender := one.sender _ (.inr rfl)
    revert sender
    decide +kernel
  · intro one
    have count := one.count _ rfl
    revert count
    decide +kernel

end MissionHistory
end AerialManipulator
