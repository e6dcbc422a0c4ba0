import Uam.NavState
import Uam.Library.Runs

/-! Which estimates are there for the navigation state that a call leaves. -/
namespace AerialManipulator
open Numeric Commander Runs

def NavState.Needs (flags : VehicleStatusFlags) : NavState → Prop
  | .autoRtl => flags.globalPositionValid = true ∧ flags.homePositionValid = true
  | .autoMission | .autoLoiter | .autoFollowTarget | .orbit => flags.globalPositionValid = true
  | .posctl | .autoTakeoff | .autoLand | .autoPrecland => flags.localPositionValid = true ∨
    flags.globalPositionValid = true
  | .altctl | .descend => flags.localAltitudeValid = true
  | _ => True

instance (flags : VehicleStatusFlags) : ∀ navState : NavState,Decidable (navState.Needs flags)
  | .autoRtl => inferInstanceAs (Decidable (_ ∧ _))
  | .autoMission | .autoLoiter | .autoFollowTarget | .orbit => inferInstanceAs (Decidable (_ = true))
  | .posctl | .autoTakeoff | .autoLand | .autoPrecland => inferInstanceAs (Decidable (_ ∨ _))
  | .altctl | .descend => inferInstanceAs (Decidable (_ = true))
  | .manual | .autoLandengfail | .acro | .termination | .offboard | .stab | .autoVtolTakeoff => .isTrue trivial

def LinkLossActions.Keeps : LinkLossActions → Prop
  | disabled | lockdown | unlisted _ => True
  | _ => False

def OffboardLossActions.Keeps : OffboardLossActions → Prop
  | disabled | lockdown | unlisted => True
  | _ => False

def OffboardLossRcActions.Keeps : OffboardLossRcActions → Prop
  | disabled | lockdown | unlisted => True
  | _ => False

namespace Commander
variable {s : Commander} {call : NavCall}

lemma needs_linkLand : (s.linkLand call).navState.Needs call.flags := by
  unfold linkLand
  split
  next valid => exact .inr valid
  · split
    next valid => exact .inl valid
    · split
      next valid => exact valid
      · trivial

lemma needs_linkLoiter : (s.linkLoiter call).navState.Needs call.flags := by
  unfold linkLoiter
  split
  next valid => exact valid
  · exact needs_linkLand

lemma needs_linkRtl : (s.linkRtl call).navState.Needs call.flags := by
  unfold linkRtl
  split
  next valid => exact valid
  · exact needs_linkLoiter

lemma needs_offboardMitigate : (s.offboardMitigate call).navState.Needs call.flags := by
  unfold offboardMitigate
  split
  next valid => exact valid
  · trivial

lemma needs_offboardLand : (s.offboardLand call).navState.Needs call.flags := by
  unfold offboardLand
  split
  next valid => exact .inr valid
  · exact needs_offboardMitigate

lemma needs_offboardLoiter : (s.offboardLoiter call).navState.Needs call.flags := by
  unfold offboardLoiter
  split
  next valid => exact valid
  · exact needs_offboardLand

lemma needs_offboardRtl : (s.offboardRtl call).navState.Needs call.flags := by
  unfold offboardRtl
  split
  next valid => exact valid
  · exact needs_offboardLoiter

lemma needs_manualAltitude : (s.manualAltitude call).navState.Needs call.flags := by
  unfold manualAltitude
  split
  next valid => exact valid
  · trivial

lemma needs_manualPosition : (s.manualPosition call).navState.Needs call.flags := by
  unfold manualPosition
  split
  next valid => exact .inl valid.2
  · split
    next valid => exact .inr valid
    · exact needs_manualAltitude

@[simp] lemma navState_enableFailsafe (old : Bool) (reason : FailsafeReason) :
    (s.enableFailsafe call old reason).navState = s.navState := by
  unfold enableFailsafe
  split <;> rfl

lemma needs_fallBack (old useRc usingGlobalPos : Bool) :
    (s.fallBack call old useRc usingGlobalPos).navState.Needs call.flags := by
  unfold fallBack
  rw [navState_enableFailsafe]
  split
  · split
    next valid => exact .inl valid.2
    · split
      next valid => exact valid
      · trivial
  · split
    next valid => exact .inl valid
    · split
      next valid => exact valid
      · trivial

variable (s call)

lemma linkLoss_cases (act : LinkLossActions) (delay : Flt ℚ) :
    (act.Keeps ∧ (s.setLinkLossNavState call act delay).navState = s.navState) ∨
      (s.setLinkLossNavState call act delay).navState.Needs call.flags := by
  unfold setLinkLossNavState
  rcases s.linkLossDelayed_cases call act delay with loiter | same
  · rw [loiter]
    exact .inr needs_linkLoiter
  rw [same]
  cases act with
  | disabled | lockdown | unlisted => exact .inl ⟨trivial,rfl⟩
  | autoRtl => exact .inr needs_linkRtl
  | autoLoiter => exact .inr needs_linkLoiter
  | autoLand => exact .inr needs_linkLand
  | terminate => exact .inr trivial

lemma quadchute_cases (act : QuadchuteActions) :
    ((act = .noAction ∨ ¬call.flags.globalPositionValid ∨ (act = .autoRtl ∧ ¬call.flags.homePositionValid)) ∧
        (s.setQuadchuteNavState call act).navState = s.navState) ∨
      (s.setQuadchuteNavState call act).navState.Needs call.flags := by
  cases act with
  | noAction => exact .inl ⟨.inl rfl,rfl⟩
  | autoRtl =>
    unfold setQuadchuteNavState
    dsimp only
    split
    next valid => exact .inr valid
    next missing =>
    rw [not_and_or] at missing
    exact .inl ⟨.inr (missing.imp_right fun home => ⟨rfl,home⟩),rfl⟩
  | autoLand =>
    unfold setQuadchuteNavState
    dsimp only
    split
    next valid => exact .inr (.inr valid)
    next missing => exact .inl ⟨.inr (.inl missing),rfl⟩
  | autoLoiter =>
    unfold setQuadchuteNavState
    dsimp only
    split
    next valid => exact .inr valid
    next missing => exact .inl ⟨.inr (.inl missing),rfl⟩

lemma offboardLoss_cases (act : OffboardLossActions) :
    (act.Keeps ∧ (s.setOffboardLossNavState call act).navState = s.navState) ∨
      (s.setOffboardLossNavState call act).navState.Needs call.flags := by
  cases act with
  | disabled | lockdown | unlisted => exact .inl ⟨trivial,rfl⟩
  | autoRtl => exact .inr needs_offboardRtl
  | autoLoiter => exact .inr needs_offboardLoiter
  | autoLand => exact .inr needs_offboardLand
  | terminate => exact .inr trivial

lemma offboardLossRc_cases (act : OffboardLossRcActions) :
    (act.Keeps ∧ (s.setOffboardLossRcNavState call act).navState = s.navState) ∨
      (s.setOffboardLossRcNavState call act).navState.Needs call.flags := by
  cases act with
  | disabled | lockdown | unlisted => exact .inl ⟨trivial,rfl⟩
  | manualPosition => exact .inr needs_manualPosition
  | manualAltitude => exact .inr needs_manualAltitude
  | manualAttitude | terminate => exact .inr trivial
  | autoRtl => exact .inr needs_offboardRtl
  | autoLoiter => exact .inr needs_offboardLoiter
  | autoLand => exact .inr needs_offboardLand

end Commander

namespace NavBranch
variable {acts : LossActions} {call : NavCall} {navState : NavState}

lemma manual_enter (taken : manual acts call mode = .enter navState) : navState = mode := by grind [manual]

lemma posctl_enter (taken : posctl acts call = .enter navState) : navState = .posctl ∧
    (call.flags.localPositionValid ∨ call.flags.globalPositionValid) := by
  grind [posctl,fallbackRequired]

lemma offboard_enter (taken : offboard acts call = .enter navState) : navState = .offboard := by grind [offboard]

section
variable (armed : call.isArmed = true) (sound : call.engineFailure = false)
include armed sound

lemma autoMission_enter (taken : autoMission acts call = .enter navState) :
    ((navState = .autoRtl ∧ call.missionFailure) ∨ navState = .autoMission) ∧
      call.flags.globalPositionValid := by
  grind [autoMission,fallbackRequired]

lemma holding_enter (taken : holding acts call usingGlobalPos mode = .enter navState) :
    navState = mode ∧ fallbackRequired call usingGlobalPos = false := by
  grind [holding]

lemma estimate_enter (taken : estimate call usingGlobalPos mode = .enter navState) :
    navState = mode ∧ fallbackRequired call usingGlobalPos = false := by
  grind [estimate]

lemma orbit_enter (taken : orbit acts call = .enter navState) : navState = .orbit ∧ call.flags.globalPositionValid := by
  grind [orbit,fallbackRequired]

lemma enter_needs {mainState : MainState} (taken : ofMainState acts call mainState = .enter navState) :
    navState.Needs call.flags ∨ (navState = .altctl ∧ mainState = .altctl) ∨
      (navState = .autoRtl ∧ (mainState = .autoRtl ∨ mainState = .autoMission ∧ call.missionFailure) ∧
        call.flags.globalPositionValid) := by
  have global (valid : fallbackRequired call true = false) : call.flags.globalPositionValid := by
    simpa [fallbackRequired] using valid
  have near (valid : fallbackRequired call false = false) : call.flags.localPositionValid := by
    have both : call.flags.localPositionValid ∧ call.flags.localVelocityValid := by
      simpa [fallbackRequired] using valid
    exact both.1
  cases mainState with
  | acro | manual | stab => cases manual_enter taken; exact .inl trivial
  | altctl => cases manual_enter taken; exact .inr (.inl ⟨rfl,rfl⟩)
  | posctl =>
    obtain ⟨rfl,valid⟩ := posctl_enter taken
    exact .inl valid
  | autoMission =>
    obtain ⟨⟨rfl,failed⟩ | rfl,valid⟩ := autoMission_enter armed sound taken
    · exact .inr (.inr ⟨rfl,.inr ⟨rfl,failed⟩,valid⟩)
    · exact .inl valid
  | autoLoiter =>
    obtain ⟨rfl,valid⟩ := holding_enter armed sound taken
    exact .inl (global valid)
  | autoRtl =>
    obtain ⟨rfl,valid⟩ := estimate_enter armed sound taken
    exact .inr (.inr ⟨rfl,.inl rfl,global valid⟩)
  | autoFollowTarget =>
    obtain ⟨rfl,valid⟩ := estimate_enter armed sound taken
    exact .inl (global valid)
  | orbit =>
    obtain ⟨rfl,valid⟩ := orbit_enter armed sound taken
    exact .inl valid
  | autoTakeoff =>
    obtain ⟨rfl,valid⟩ := holding_enter armed sound taken
    exact .inl (.inl (near valid))
  | autoVtolTakeoff =>
    obtain ⟨rfl,-⟩ := holding_enter armed sound taken
    exact .inl trivial
  | autoLand | autoPrecland =>
    obtain ⟨rfl,valid⟩ := estimate_enter armed sound taken
    exact .inl (.inl (near valid))
  | offboard => cases offboard_enter taken; exact .inl trivial
  | max => cases taken

end

/-- The branches that leave the navigation state: nothing to do, locking down, a value without a
case, or a quadchute without estimate. -/
def Keeps (acts : LossActions) (call : NavCall) : NavBranch → Prop
  | .stay => True
  | .linkLoss act _ _ => act.Keeps
  | .quadchute => acts.quadchuteAct = .noAction ∨ ¬ call.flags.globalPositionValid ∨
      (acts.quadchuteAct = .autoRtl ∧ ¬ call.flags.homePositionValid)
  | .offboardLoss _ => acts.offbLossAct.Keeps
  | .offboardLossRc => acts.offbLossRcAct.Keeps
  | .enter _ | .fallBack _ _ => False

lemma run_cases (acts : LossActions) (call : NavCall) (old : Bool) (s : Commander) (branch : NavBranch) :
    (branch.Keeps acts call ∧ (branch.run acts call old s).navState = s.navState) ∨
    (∃ navState,branch = .enter navState ∧ (branch.run acts call old s).navState = navState) ∨
      (branch.run acts call old s).navState.Needs call.flags := by
  cases branch with
  | enter navState => exact .inr (.inl ⟨navState,rfl,rfl⟩)
  | stay => exact .inl ⟨trivial,rfl⟩
  | fallBack useRc usingGlobalPos => exact .inr (.inr (needs_fallBack old useRc usingGlobalPos))
  | linkLoss act delay reason =>
    have reacts := linkLoss_cases (s.enableFailsafe call old reason) call act delay
    rw [navState_enableFailsafe] at reacts
    exact reacts.imp_right .inr
  | quadchute =>
    have reacts := quadchute_cases s call acts.quadchuteAct
    exact reacts.imp_right .inr
  | offboardLoss reason =>
    have reacts := offboardLoss_cases (s.enableFailsafe call old reason) call acts.offbLossAct
    rw [navState_enableFailsafe] at reacts
    exact reacts.imp_right .inr
  | offboardLossRc =>
    have reacts := offboardLossRc_cases (s.enableFailsafe call old .noOffboard) call
      acts.offbLossRcAct
    rw [navState_enableFailsafe] at reacts
    exact reacts.imp_right .inr

end NavBranch

namespace Commander

def navStep (s : Commander) (e : LossActions × NavCall) : Commander := s.setNavState e.1 e.2

def Kept (s : Commander) (e : LossActions × NavCall) : Prop :=
  (s.branch e.1 e.2).Keeps e.1 e.2 ∧ (s.navStep e).navState = s.navState

/-- The call enters a navigation state with its estimates, but for the altitude of one flown by hand
and the home position of some returns. -/
def Entered (s : Commander) (e : LossActions × NavCall) : Prop :=
  e.2.isArmed = true → e.2.engineFailure = false → (s.navStep e).navState.Needs e.2.flags ∨
    ((s.navStep e).navState = .altctl ∧ s.found e.2 = .altctl) ∨
    ((s.navStep e).navState = .autoRtl ∧ e.2.flags.globalPositionValid = true ∧
      (s.found e.2 = .autoRtl ∨ s.found e.2 = .autoMission ∧ e.2.missionFailure = true))

lemma navState_resetLinkLossGlobals (s : Commander) (old : Bool) (act : LinkLossActions) :
    (s.resetLinkLossGlobals old act).navState = s.navState := by
  rw [resetLinkLossGlobals]
  split_ifs <;> rfl

lemma navState_resetOffboardLossGlobals (s : Commander) (old : Bool) (act : OffboardLossActions)
    (rcAct : OffboardLossRcActions) : (s.resetOffboardLossGlobals old act rcAct).navState = s.navState := by
  rw [resetOffboardLossGlobals]
  split <;> rfl

lemma navState_reset (s : Commander) (acts : LossActions) (call : NavCall) :
    (s.reset acts call).navState = s.navState := by
  rw [reset,navState_resetOffboardLossGlobals,navState_resetLinkLossGlobals,navState_resetLinkLossGlobals]

lemma navState_setNavState (s : Commander) (acts : LossActions) (call : NavCall) : (s.setNavState acts call).navState =
    ((s.branch acts call).run acts call s.failsafe (s.reset acts call)).navState := by
  unfold setNavState
  split <;> rfl

lemma kept_or_entered (s : Commander) (e : LossActions × NavCall) : s.Kept e ∨ s.Entered e := by
  have outcome := NavBranch.run_cases e.1 e.2 s.failsafe (s.reset e.1 e.2) (s.branch e.1 e.2)
  rw [← navState_setNavState,navState_reset] at outcome
  rcases outcome with kept | ⟨navState,taken,rfl⟩ | needs
  · exact .inl kept
  · right
    intro armed sound
    rcases NavBranch.enter_needs armed sound taken with needs | altctl | ⟨rtl,main,valid⟩
    · exact .inl needs
    · exact .inr (.inl altctl)
    · exact .inr (.inr ⟨rtl,valid,main⟩)
  · exact .inr fun _ _ => .inl needs

end Commander
end AerialManipulator
