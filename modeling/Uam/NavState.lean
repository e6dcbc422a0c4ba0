import Uam.Library.Flt

/-! The failsafe decisions of `state_machine_helper.cpp`: from main state, links and estimates to a navigation state. -/
namespace AerialManipulator
open Numeric

inductive MainState
  | manual | altctl | posctl | autoMission | autoLoiter | autoRtl | acro | offboard | stab | autoTakeoff | autoLand
  | autoFollowTarget | autoPrecland | orbit | autoVtolTakeoff | max
  deriving DecidableEq

inductive NavState
  | manual | altctl | posctl | autoMission | autoLoiter | autoRtl | autoLandengfail | acro | descend | termination |
    offboard
  | stab | autoTakeoff | autoLand | autoFollowTarget | autoPrecland | orbit | autoVtolTakeoff
  deriving DecidableEq

inductive VehicleType
  | unknown | rotaryWing | fixedWing | rover | airship
  deriving DecidableEq

/-- A parameter is cast to an action unchecked: `unlisted` is a value without a case, such as 4. -/
inductive LinkLossActions
  | disabled | autoLoiter | autoRtl | autoLand | terminate | lockdown | unlisted (positive : Bool)
  deriving DecidableEq

inductive QuadchuteActions
  | noAction | autoRtl | autoLand | autoLoiter
  deriving DecidableEq

inductive OffboardLossActions
  | disabled | autoLand | autoLoiter | autoRtl | terminate | lockdown | unlisted
  deriving DecidableEq

inductive OffboardLossRcActions
  | disabled | manualPosition | manualAltitude | manualAttitude | autoRtl | autoLand | autoLoiter | terminate | lockdown
  | unlisted
  deriving DecidableEq

inductive PositionNavLossActions
  | altitudeManual | landTerminate
  deriving DecidableEq

inductive FailsafeReason
  | noRc | noOffboard | noRcAndNoOffboard | noLocalPosition | noGlobalPosition | noDatalink | noRcAndNoDatalink | noGps
  deriving DecidableEq

def FailsafeReason.text : FailsafeReason → String
  | .noRc => "No manual control stick input"
  | .noOffboard => "no offboard"
  | .noRcAndNoOffboard => "no RC and no offboard"
  | .noLocalPosition => "no local position"
  | .noGlobalPosition => "no global position"
  | .noDatalink => "no datalink"
  | .noRcAndNoDatalink => "no RC and no datalink"
  | .noGps => "no GPS"

structure VehicleStatusFlags where
  autoMissionAvailable : Bool
  localAltitudeValid : Bool
  localPositionValid : Bool
  localVelocityValid : Bool
  globalPositionValid : Bool
  homePositionValid : Bool
  offboardControlSignalLost : Bool
  rcSignalFoundOnce : Bool
  vtolTransitionFailure : Bool

structure LossActions where
  dataLinkLossAct : LinkLossActions
  rcLossAct : LinkLossActions
  offbLossAct : OffboardLossActions
  quadchuteAct : QuadchuteActions
  offbLossRcAct : OffboardLossRcActions
  posctlNavLossAct : PositionNavLossActions

/-- What a call finds besides: the status that others write, the flags, and the clock. -/
structure NavCall where
  /-- what the main state was set to since the last call -/
  mainState : Option MainState
  isArmed : Bool
  rcSignalLost : Bool
  dataLinkLost : Bool
  engineFailure : Bool
  missionFailure : Bool
  vehicleType : VehicleType
  flags : VehicleStatusFlags
  missionFinished : Bool
  stayInFailsafe : Bool
  landed : Bool
  comRclActT : Flt ℚ
  comRclExcept : BitVec 32
  enableTime : BitVec 64
  stampTime : BitVec 64
  reactTime : BitVec 64

structure Commander where
  navState : NavState
  failsafe : Bool
  failsafeTimestamp : BitVec 64
  forceFailsafe : Bool
  lockdown : Bool
  mainState : MainState
  mainStateChanges : Nat
  mainStateTimestamp : BitVec 64
  reports : List String

namespace Commander
variable (s : Commander) (call : NavCall)

def enableFailsafe (oldFailsafe : Bool) (reason : FailsafeReason) : Commander :=
  if ¬ oldFailsafe ∧ call.isArmed then
    let stamp := s.failsafeTimestamp = 0#64 ∨ 30000000 < (call.enableTime-s.failsafeTimestamp).toNat
    { s with failsafeTimestamp := if stamp then call.stampTime else s.failsafeTimestamp
             reports := s.reports ++ ["Failsafe enabled: " ++ reason.text]
             failsafe := true }
  else {s with failsafe := true}

def admits (newMainState : MainState) : Bool :=
  match newMainState with
  | .manual | .stab | .acro => true
  | .altctl => call.flags.localAltitudeValid || call.flags.globalPositionValid
  | .posctl => call.flags.localPositionValid || call.flags.globalPositionValid
  | .autoLoiter => call.flags.globalPositionValid
  | .autoFollowTarget | .orbit | .autoVtolTakeoff => call.vehicleType = .rotaryWing
  | .autoMission => call.flags.globalPositionValid && call.flags.autoMissionAvailable
  | .autoRtl => call.flags.globalPositionValid && call.flags.homePositionValid
  | .autoTakeoff | .autoLand => call.flags.localPositionValid
  | .autoPrecland => call.flags.localPositionValid && call.flags.globalPositionValid && call.vehicleType = .rotaryWing
  | .offboard => !call.flags.offboardControlSignalLost
  | .max => false

def mainStateTransition (newMainState : MainState) : Commander :=
  if admits call newMainState ∧ s.mainState ≠ newMainState then
    {s with mainState := newMainState,mainStateChanges := s.mainStateChanges+1,mainStateTimestamp := call.reactTime}
  else s

/-! The reactions. A case that does not return falls through to the next one. -/

def linkTerminate : Commander := {s with navState := .termination,forceFailsafe := true}

def linkLand : Commander :=
  if call.flags.globalPositionValid then {s.mainStateTransition call .autoLand with navState := .autoLand}
  else if call.flags.localPositionValid then {s with navState := .autoLand}
  else if call.flags.localAltitudeValid then {s with navState := .descend}
  else s.linkTerminate

def linkLoiter : Commander :=
  if call.flags.globalPositionValid then {s with navState := .autoLoiter} else s.linkLand call

def linkRtl : Commander :=
  if call.flags.globalPositionValid ∧ call.flags.homePositionValid then
    {s.mainStateTransition call .autoRtl with navState := .autoRtl}
  else s.linkLoiter call

def linkLossDelayed (act : LinkLossActions) (delay : Flt ℚ) : LinkLossActions :=
  if Flt.fin ((call.reactTime - s.failsafeTimestamp).toNat : ℚ) < delay * Flt.fin ((1000000 : Nat) : ℚ) ∧
    act ≠ .disabled then
    .autoLoiter
  else act

lemma linkLossDelayed_cases (act : LinkLossActions) (delay : Flt ℚ) :
    s.linkLossDelayed call act delay = .autoLoiter ∨ s.linkLossDelayed call act delay = act := by
  unfold linkLossDelayed
  split
  · exact .inl rfl
  · exact .inr rfl

def setLinkLossNavState (act : LinkLossActions) (delay : Flt ℚ) : Commander :=
  match s.linkLossDelayed call act delay with
  | .disabled | .unlisted _ => s
  | .autoRtl => s.linkRtl call
  | .autoLoiter => s.linkLoiter call
  | .autoLand => s.linkLand call
  | .terminate => s.linkTerminate
  | .lockdown => {s with lockdown := true}

def resetLinkLossGlobals (oldFailsafe : Bool) (act : LinkLossActions) : Commander :=
  if oldFailsafe then
    if act = .terminate then {s with forceFailsafe := false}
    else if act = .lockdown then {s with lockdown := false} else s
  else s

def setQuadchuteNavState (act : QuadchuteActions) : Commander :=
  match act with
  | .noAction => s
  | .autoRtl =>
    if call.flags.globalPositionValid ∧ call.flags.homePositionValid then {s with navState := .autoRtl} else s
  | .autoLand => if call.flags.globalPositionValid then {s with navState := .autoLand} else s
  | .autoLoiter => if call.flags.globalPositionValid then {s with navState := .autoLoiter} else s

def offboardMitigate : Commander :=
  if call.flags.localAltitudeValid then {s with navState := .descend} else {s with navState := .termination}

def offboardLand : Commander :=
  if call.flags.globalPositionValid then {s with navState := .autoLand} else s.offboardMitigate call

def offboardLoiter : Commander :=
  if call.flags.globalPositionValid then {s with navState := .autoLoiter} else s.offboardLand call

def offboardRtl : Commander :=
  if call.flags.globalPositionValid ∧ call.flags.homePositionValid then {s with navState := .autoRtl}
  else s.offboardLoiter call

def setOffboardLossNavState (act : OffboardLossActions) : Commander :=
  match act with
  | .disabled | .unlisted => s
  | .terminate => {s with navState := .termination,forceFailsafe := true}
  | .lockdown => {s with lockdown := true}
  | .autoRtl => s.offboardRtl call
  | .autoLoiter => s.offboardLoiter call
  | .autoLand => s.offboardLand call

def manualAltitude : Commander :=
  if call.flags.localAltitudeValid then {s with navState := .altctl} else {s with navState := .manual}

def manualPosition : Commander :=
  if call.vehicleType = .rotaryWing ∧ call.flags.localPositionValid then {s with navState := .posctl}
  else if call.flags.globalPositionValid then {s with navState := .posctl}
  else s.manualAltitude call

def setOffboardLossRcNavState (act : OffboardLossRcActions) : Commander :=
  match act with
  | .disabled | .unlisted => s
  | .terminate => {s with navState := .termination,forceFailsafe := true}
  | .lockdown => {s with lockdown := true}
  | .manualPosition => s.manualPosition call
  | .manualAltitude => s.manualAltitude call
  | .manualAttitude => {s with navState := .manual}
  | .autoRtl => s.offboardRtl call
  | .autoLoiter => s.offboardLoiter call
  | .autoLand => s.offboardLand call

def resetOffboardLossGlobals (oldFailsafe : Bool) (act : OffboardLossActions) (rcAct : OffboardLossRcActions) :
    Commander :=
  if oldFailsafe then
    { s with forceFailsafe := if act = .terminate ∨ rcAct = .terminate then false else s.forceFailsafe
             lockdown := if act = .lockdown ∨ rcAct = .lockdown then false else s.lockdown }
  else s

def fallbackRequired (usingGlobalPos : Bool) : Bool :=
  if usingGlobalPos then !call.flags.globalPositionValid
  else !call.flags.localPositionValid || !call.flags.localVelocityValid

def fallBack (oldFailsafe useRc usingGlobalPos : Bool) : Commander :=
  let nav : NavState :=
    if useRc then
      if call.vehicleType = .rotaryWing ∧ call.flags.localPositionValid then .posctl
      else if call.flags.localAltitudeValid then .altctl else .stab
    else if call.flags.localPositionValid then .autoLand
    else if call.flags.localAltitudeValid then .descend else .termination
  enableFailsafe {s with navState := nav} call oldFailsafe (if usingGlobalPos then .noGlobalPosition else .noLocalPosition)

end Commander

inductive NavBranch
  | enter (navState : NavState)
  | stay
  | fallBack (useRc usingGlobalPos : Bool)
  | linkLoss (act : LinkLossActions) (delay : Flt ℚ) (reason : FailsafeReason)
  | quadchute
  | offboardLoss (reason : FailsafeReason)
  | offboardLossRc

namespace NavBranch
variable (acts : LossActions) (call : NavCall)

def exceptMission : Bool := call.comRclExcept.getLsbD 0
def exceptHold : Bool := call.comRclExcept.getLsbD 1
def exceptOffboard : Bool := call.comRclExcept.getLsbD 2

def dataLinkLossActConfigured : Bool := acts.dataLinkLossAct ≠ .disabled ∧ acts.dataLinkLossAct ≠ .unlisted false

def manual (navState : NavState) : NavBranch :=
  if call.rcSignalLost ∧ call.isArmed then .linkLoss acts.rcLossAct call.comRclActT .noRc else .enter navState

def posctl : NavBranch :=
  let rcFallbackAllowed := acts.posctlNavLossAct ≠ .landTerminate ∨ ¬ call.isArmed
  let usingGlobalPos : Bool := call.vehicleType = .fixedWing
  if call.rcSignalLost ∧ call.isArmed then .linkLoss acts.rcLossAct call.comRclActT .noRc
  else if Commander.fallbackRequired call usingGlobalPos then .fallBack rcFallbackAllowed usingGlobalPos
  else .enter .posctl

def autoMission : NavBranch :=
  if call.isArmed ∧ Commander.fallbackRequired call true then .fallBack false true
  else if call.engineFailure then .enter .autoLandengfail
  else if call.flags.vtolTransitionFailure then .quadchute
  else if call.missionFailure then .enter .autoRtl
  else if call.dataLinkLost ∧ dataLinkLossActConfigured acts ∧ call.isArmed ∧ ¬ call.landed then
    .linkLoss acts.dataLinkLossAct (.fin 0) .noDatalink
  else if call.rcSignalLost ∧ ¬ exceptMission call ∧ call.flags.rcSignalFoundOnce ∧ call.isArmed ∧ ¬ call.landed then
    .linkLoss acts.rcLossAct call.comRclActT .noRc
  else if call.rcSignalLost ∧ ¬ exceptMission call ∧ call.dataLinkLost ∧ ¬ dataLinkLossActConfigured acts ∧
      call.isArmed ∧ ¬ call.landed then
    .linkLoss acts.rcLossAct (.fin 0) .noRcAndNoDatalink
  else if call.rcSignalLost ∧ exceptMission call ∧ call.dataLinkLost ∧ ¬ dataLinkLossActConfigured acts ∧
      call.isArmed ∧ ¬ call.landed ∧ call.missionFinished then
    .linkLoss .autoRtl (.fin 0) .noRcAndNoDatalink
  else if ¬ call.stayInFailsafe then .enter .autoMission
  else .stay

def holding (usingGlobalPos : Bool) (navState : NavState) : NavBranch :=
  if call.engineFailure then .enter .autoLandengfail
  else if call.isArmed ∧ Commander.fallbackRequired call usingGlobalPos then .fallBack false usingGlobalPos
  else if call.flags.vtolTransitionFailure then .quadchute
  else if call.dataLinkLost ∧ dataLinkLossActConfigured acts ∧ ¬ call.landed ∧ call.isArmed then
    .linkLoss acts.dataLinkLossAct (.fin 0) .noDatalink
  else if call.rcSignalLost ∧ ¬ exceptHold call ∧ call.flags.rcSignalFoundOnce ∧ call.isArmed ∧ ¬ call.landed then
    .linkLoss acts.rcLossAct call.comRclActT .noRc
  else if call.rcSignalLost ∧ ¬ exceptHold call ∧ call.dataLinkLost ∧ ¬ dataLinkLossActConfigured acts ∧
      call.isArmed ∧ ¬ call.landed then
    .linkLoss acts.rcLossAct (.fin 0) .noRcAndNoDatalink
  else .enter navState

def estimate (usingGlobalPos : Bool) (navState : NavState) : NavBranch :=
  if call.engineFailure then .enter .autoLandengfail
  else if call.isArmed ∧ Commander.fallbackRequired call usingGlobalPos then .fallBack false usingGlobalPos
  else .enter navState

def orbit : NavBranch :=
  if call.engineFailure then .enter .autoLandengfail
  else if call.isArmed ∧ Commander.fallbackRequired call true then .fallBack false true
  else if call.dataLinkLost ∧ dataLinkLossActConfigured acts ∧ ¬ call.landed ∧ call.isArmed then
    -- failsafe is enabled after the reaction here, which has no delay and so does not read the time of it
    .linkLoss acts.dataLinkLossAct (.fin 0) .noDatalink
  else if call.rcSignalLost ∧ call.dataLinkLost ∧ ¬ dataLinkLossActConfigured acts ∧ call.isArmed then
    .linkLoss acts.rcLossAct (.fin 0) .noRc
  else .enter .orbit

def offboard : NavBranch :=
  if call.flags.offboardControlSignalLost then
    if call.rcSignalLost then .offboardLoss .noRcAndNoOffboard
    else if exceptOffboard call then .offboardLoss .noOffboard
    else .offboardLossRc
  else if call.rcSignalLost ∧ ¬ exceptOffboard call then .linkLoss acts.rcLossAct call.comRclActT .noRc
  else .enter .offboard

def ofMainState (mainState : MainState) : NavBranch :=
  match mainState with
  | .acro => manual acts call .acro
  | .manual => manual acts call .manual
  | .stab => manual acts call .stab
  | .altctl => manual acts call .altctl
  | .posctl => posctl acts call
  | .autoMission => autoMission acts call
  | .autoLoiter => holding acts call true .autoLoiter
  | .autoRtl => estimate call true .autoRtl
  | .autoFollowTarget => estimate call true .autoFollowTarget
  | .orbit => orbit acts call
  | .autoTakeoff => holding acts call false .autoTakeoff
  | .autoVtolTakeoff => holding acts call false .autoVtolTakeoff
  | .autoLand => estimate call false .autoLand
  | .autoPrecland => estimate call false .autoPrecland
  | .offboard => offboard acts call
  | .max => .stay

def run (oldFailsafe : Bool) (s : Commander) : NavBranch → Commander
  | .enter navState => {s with navState := navState}
  | .stay => s
  | .fallBack useRc usingGlobalPos => s.fallBack call oldFailsafe useRc usingGlobalPos
  | .linkLoss act delay reason => (s.enableFailsafe call oldFailsafe reason).setLinkLossNavState call act delay
  | .quadchute => s.setQuadchuteNavState call acts.quadchuteAct
  | .offboardLoss reason => (s.enableFailsafe call oldFailsafe reason).setOffboardLossNavState call acts.offbLossAct
  | .offboardLossRc => (s.enableFailsafe call oldFailsafe .noOffboard).setOffboardLossRcNavState call acts.offbLossRcAct

def leavesOrbit : NavBranch → Bool
  | .enter .orbit => false
  | _ => true

end NavBranch

namespace Commander
variable (acts : LossActions) (s : Commander) (call : NavCall)

def found : MainState := call.mainState.getD s.mainState

def reset : Commander :=
  let s' := {s with mainState := s.found call,failsafe := false}
  ((s'.resetLinkLossGlobals s.failsafe acts.rcLossAct).resetLinkLossGlobals s.failsafe acts.dataLinkLossAct).resetOffboardLossGlobals
    s.failsafe acts.offbLossAct acts.offbLossRcAct

def branch : NavBranch := NavBranch.ofMainState acts call (s.found call)

def setNavState : Commander :=
  let s' := (s.branch acts call).run acts call s.failsafe (s.reset acts call)
  if s.found call = .orbit ∧ (s.branch acts call).leavesOrbit then {s' with mainState := .posctl} else s'

end Commander
end AerialManipulator
