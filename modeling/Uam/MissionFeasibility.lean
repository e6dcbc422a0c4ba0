import Uam.Geofence

/-! The checks of a mission before it is flown, after `MissionFeasibilityChecker`. A mission is what
its reads give, `none` where one fails; a check that fails returns its message. -/
namespace AerialManipulator
open Numeric MavCmd

/-- A text, with its numbers; those of the landing approach are rounded up. -/
structure GroundMessage (R : Type) where
  text : String
  numbers : List (Flt R)

section
variable (R : Type)

abbrev Feasibility := Except (List (GroundMessage R))

abbrev MissionReads := List (Option (MissionItem (Flt R) (Flt R)))

end

structure FenceRead (R : Type) where
  item : Option (MissionItem (Flt R) (Flt R))
  locked : Bool

namespace MissionFeasibilityChecker
variable {R : Type} [Field R] [LinearOrder R]

def reject {α : Type} (text : String) : Feasibility R α := .error [⟨text,[]⟩]

section
variable (geo : Geodesy R) (params : GeofenceParams R) (data : FenceData (Flt R) (Flt R)) (around : FenceSurroundings R)

def fenceItem (missionitem : MissionItem (Flt R) (Flt R)) : MissionItem (Flt R) (Flt R) :=
  { missionitem with
    altitude := if missionitem.altitudeIsRelative then missionitem.altitude+around.homeAlt else missionitem.altitude }

def checkGeofenceLoop : Nat → Geofence R → List (FenceRead R) → Feasibility R Unit × Geofence R
  | _,g,[] => (.ok (),g)
  | i,g,read::rest =>
    read.item.elim (.error [],g) fun missionitem =>
      if missionitem.altitudeIsRelative && !around.homeGlobalPositionValid then
        (reject "Geofence requires valid home position\t",g)
      else if itemContainsPosition missionitem then
        let checked := g.checkItem geo params data {around with locked := read.locked} (fenceItem around missionitem)
        if checked.1 then checkGeofenceLoop (i+1) checked.2 rest
        else (.error [⟨"Geofence violation for waypoint %zu\t",[.fin (i + 1 : Nat)]⟩],checked.2)
      else checkGeofenceLoop (i+1) g rest

def checkGeofence (g : Geofence R) (mission : List (FenceRead R)) : Feasibility R Unit × Geofence R :=
  if Geofence.isHomeRequired params && !around.homeGlobalPositionValid then
    (reject "Geofence requires valid home position\t",g)
  else checkGeofenceLoop geo params data around 0 g mission

end

def navEpsilonPosition : Flt R := .fin 0.001

structure TakeoffRule (R : Type) where
  takeoffRequired : Bool
  landed : Bool
  homeAlt : Flt R
  defaultAcceptanceRadius : Flt R

structure TakeoffFlags where
  hasTakeoff : Bool
  takeoffFirst : Bool
  /-- `none` is an index of -1. -/
  takeoffIndex : Option Nat

def TakeoffFlags.found (flags : TakeoffFlags) (i : Nat) : TakeoffFlags where
  hasTakeoff := true
  takeoffFirst := flags.takeoffFirst || i = 0
  takeoffIndex := if i = 0 then flags.takeoffIndex else flags.takeoffIndex.elim (some i) some

def precedesTakeoff (missionitem : MissionItem (Flt R) (Flt R)) : Bool :=
  missionitem.navCmd = navCmdIdle || missionitem.navCmd = navDelay.number ||
    missionitem.navCmd = doJump.number || missionitem.navCmd = doChangeSpeed.number ||
    missionitem.navCmd = doSetHome.number || missionitem.navCmd = doSetServo.number ||
    missionitem.navCmd = doLandStart.number || missionitem.navCmd = doTriggerControl.number ||
    missionitem.navCmd = doDigicamControl.number || missionitem.navCmd = imageStartCapture.number ||
    missionitem.navCmd = imageStopCapture.number || missionitem.navCmd = videoStartCapture.number ||
    missionitem.navCmd = videoStopCapture.number || missionitem.navCmd = doControlVideo.number ||
    missionitem.navCmd = doMountConfigure.number || missionitem.navCmd = doMountControl.number ||
    missionitem.navCmd = doGimbalManagerPitchyaw.number ||
    missionitem.navCmd = doGimbalManagerConfigure.number || missionitem.navCmd = doSetRoi.number ||
    missionitem.navCmd = doSetRoiLocation.number || missionitem.navCmd = doSetRoiWpnextOffset.number ||
    missionitem.navCmd = doSetRoiNone.number || missionitem.navCmd = doSetCamTriggDist.number ||
    missionitem.navCmd = obliqueSurvey.number || missionitem.navCmd = doSetCamTriggInterval.number ||
    missionitem.navCmd = setCameraMode.number || missionitem.navCmd = setCameraZoom.number ||
    missionitem.navCmd = setCameraFocus.number || missionitem.navCmd = doVtolTransition.number

section
variable (rule : TakeoffRule R)

def takeoffTooLow (missionitem : MissionItem (Flt R) (Flt R)) : Bool :=
  let takeoffAlt := if missionitem.altitudeIsRelative then missionitem.altitude else missionitem.altitude-rule.homeAlt
  let acceptanceRadius :=
    if missionitem.acceptanceRadius > navEpsilonPosition then missionitem.acceptanceRadius
    else rule.defaultAcceptanceRadius
  decide (takeoffAlt - .fin 1.0 < acceptanceRadius)

def takeoffLoop : Nat → TakeoffFlags → MissionReads R → Feasibility R TakeoffFlags
  | _,flags,[] => .ok flags
  | i,flags,read::rest =>
    read.elim (.error []) fun missionitem =>
      if missionitem.navCmd = navTakeoff.number then
        if takeoffTooLow rule missionitem then reject "Mission rejected: Takeoff altitude too low!\t"
        else takeoffLoop (i+1) (flags.found i) rest
      else takeoffLoop (i+1) flags rest

/-- The second loop sets the flag anew for each item before the takeoff. -/
def precedingLoop : Bool → MissionReads R → Feasibility R Bool
  | takeoffFirst,[] => .ok takeoffFirst
  | _,read::rest => read.elim (.error []) fun missionitem => precedingLoop (precedesTakeoff missionitem) rest

def checkTakeoff (mission : MissionReads R) : Feasibility R Unit := do
  let flags ← takeoffLoop rule 0 ⟨false,false,none⟩ mission
  let takeoffFirst ← flags.takeoffIndex.elim (.ok flags.takeoffFirst) fun index =>
    precedingLoop flags.takeoffFirst (mission.take index)
  if rule.takeoffRequired && rule.landed then
    if !flags.hasTakeoff then reject "Mission rejected: takeoff waypoint required.\t"
    else if !takeoffFirst then reject "Mission rejected: takeoff not first waypoint item\t"
    else .ok ()
  else .ok ()

end

structure LandingStatus (R : Type) where
  timestamp : Nat
  flareLength : Flt R
  horizontalSlopeDisplacement : Flt R
  slopeAngleRad : Flt R
  distanceToNextWaypoint : Flt R → Flt R → Flt R → Flt R → Flt R
  tanf : Flt R → Flt R

namespace LandingStatus
variable (status : LandingStatus R)

def slopeAbsoluteAltitude (distance altitude : Flt R) : Flt R :=
  (distance - status.horizontalSlopeDisplacement) * status.tanf status.slopeAngleRad + altitude

def slopeWPDistance (slopeAltitude altitude : Flt R) : Flt R :=
  (slopeAltitude - altitude) / status.tanf status.slopeAngleRad + status.horizontalSlopeDisplacement

end LandingStatus

structure LandingFlags where
  landingValid : Bool
  landStartFound : Bool
  doLandStartIndex : Nat
  landingApproachIndex : Nat
  deriving DecidableEq

def LandingFlags.start : LandingFlags := ⟨false,false,0,0⟩

def landStart (i : Nat) (flags : LandingFlags) (missionitem : MissionItem (Flt R) (Flt R)) :
    Feasibility R LandingFlags :=
  if missionitem.navCmd = doLandStart.number then
    if flags.landStartFound then reject "Mission rejected: more than one land start.\t"
    else .ok {flags with landStartFound := true, doLandStartIndex := i}
  else .ok flags

def landingReturn (i : Nat) (flags : LandingFlags) (missionitem : MissionItem (Flt R) (Flt R)) :
    Feasibility R LandingFlags :=
  if missionitem.navCmd = navReturnToLaunch.number && flags.landStartFound && flags.doLandStartIndex < i then
    reject "Mission rejected: land start item before RTL item not possible.\t"
  else .ok flags

def landingApproach (status : LandingStatus R) (missionitem previous : MissionItem (Flt R) (Flt R)) :
    Feasibility R Unit :=
  let wpDistance := status.distanceToNextWaypoint previous.lat previous.lon missionitem.lat missionitem.lon
  if itemContainsPosition previous then
    if status.timestamp > 0 && wpDistance > status.flareLength then
      if missionitem.altitude-previous.altitude < 0 then
        let slopeAltReq := status.slopeAbsoluteAltitude wpDistance missionitem.altitude
        if previous.altitude > slopeAltReq + .fin 1.0 then
          .error [⟨"Mission rejected: adjust landing approach.\t",[]⟩,
            ⟨"Move down %d m or move further away by %d m.\t",[slopeAltReq - previous.altitude,
              status.slopeWPDistance previous.altitude missionitem.altitude-wpDistance]⟩]
        else .ok ()
      else reject "Mission rejected: landing above last waypoint.\t"
    else reject "Mission rejected: waypoint within landing flare.\t"
  else reject "Mission rejected: need landing approach.\t"

def fixedWingLandingPass (status : LandingStatus R) (mission : MissionReads R) (i : Nat) (flags : LandingFlags)
    (missionitem : MissionItem (Flt R) (Flt R)) : Feasibility R LandingFlags := do
  let flags ← landStart i flags missionitem
  if missionitem.navCmd = navLand.number then
    if i > 0 then
      (mission[i-1]?.join).elim (.error []) fun previous => do
        landingApproach status missionitem previous
        .ok {flags with landingValid := true, landingApproachIndex := i-1}
    else reject "Mission rejected: starts with land waypoint.\t"
  else landingReturn i flags missionitem

def vtolLandingPass (mission : MissionReads R) (i : Nat) (flags : LandingFlags)
    (missionitem : MissionItem (Flt R) (Flt R)) : Feasibility R LandingFlags := do
  let flags ← landStart i flags missionitem
  if missionitem.navCmd = navLand.number || missionitem.navCmd = navVtolLand.number then
    if i > 0 then
      (mission[i-1]?.join).elim (.error []) fun _ => .ok {flags with landingApproachIndex := i-1}
    else reject "Mission rejected: starts with land waypoint.\t"
  else landingReturn i flags missionitem

def landingLoop (pass : Nat → LandingFlags → MissionItem (Flt R) (Flt R) → Feasibility R LandingFlags) :
    Nat → LandingFlags → MissionReads R → Feasibility R LandingFlags
  | _,flags,[] => .ok flags
  | i,flags,read::rest =>
    read.elim (.error []) fun missionitem => do
      let flags ← pass i flags missionitem
      landingLoop pass (i+1) flags rest

def checkFixedWingLanding (status : LandingStatus R) (mission : MissionReads R) (landStartReq : Bool) :
    Feasibility R Unit := do
  let flags ← landingLoop (fixedWingLandingPass status mission) 0 .start mission
  if landStartReq && !flags.landStartFound then reject "Mission rejected: landing pattern required.\t"
  else if flags.landStartFound && (!flags.landingValid || flags.doLandStartIndex > flags.landingApproachIndex) then
    reject "Mission rejected: invalid land start.\t"
  else .ok ()

def checkVTOLLanding (mission : MissionReads R) (landStartReq : Bool) : Feasibility R Unit := do
  let flags ← landingLoop (vtolLandingPass mission) 0 .start mission
  if landStartReq && !flags.landStartFound then reject "Mission rejected: landing pattern required.\t"
  else if flags.landStartFound && flags.doLandStartIndex > flags.landingApproachIndex then
    reject "Mission rejected: invalid land start.\t"
  else .ok ()

end MissionFeasibilityChecker
end AerialManipulator
