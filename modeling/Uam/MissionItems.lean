import Uam.Library.Truncation
import Uam.MavlinkMission
import Mathlib.Algebra.Order.ToIntervalMod

/-! Mission items on the link and in the vehicle, after `parse_mavlink_mission_item`
and `format_mavlink_mission_item`. Numbers are exact; the words of a message are
integers or floats, by the mode. -/
namespace AerialManipulator
open Truncation

inductive MavCmd
  | navWaypoint | navLoiterUnlim | navLoiterTime | navReturnToLaunch | navLand | navTakeoff | navLoiterToAlt
  | navRoi | navVtolTakeoff | navVtolLand | navDelay | conditionDelay | conditionDistance | doJump
  | doChangeSpeed | doSetHome | doSetServo | doLandStart | doSetRoiLocation | doSetRoiWpnextOffset
  | doSetRoiNone | doControlVideo | doSetRoi | doDigicamControl | doMountConfigure | doMountControl
  | doSetCamTriggDist | doSetCamTriggInterval | obliqueSurvey | setCameraMode | setCameraZoom
  | setCameraFocus | doGimbalManagerPitchyaw | doGimbalManagerConfigure | imageStartCapture
  | imageStopCapture | doTriggerControl | videoStartCapture | videoStopCapture | doVtolTransition
  | conditionGate | navFenceReturnPoint | navFencePolygonVertexInclusion | navFencePolygonVertexExclusion
  | navFenceCircleInclusion | navFenceCircleExclusion | navRallyPoint
  deriving DecidableEq

def MavCmd.number : MavCmd → Nat
  | .navWaypoint => 16
  | .navLoiterUnlim => 17
  | .navLoiterTime => 19
  | .navReturnToLaunch => 20
  | .navLand => 21
  | .navTakeoff => 22
  | .navLoiterToAlt => 31
  | .navRoi => 80
  | .navVtolTakeoff => 84
  | .navVtolLand => 85
  | .navDelay => 93
  | .conditionDelay => 112
  | .conditionDistance => 114
  | .doJump => 177
  | .doChangeSpeed => 178
  | .doSetHome => 179
  | .doSetServo => 183
  | .doLandStart => 189
  | .doSetRoiLocation => 195
  | .doSetRoiWpnextOffset => 196
  | .doSetRoiNone => 197
  | .doControlVideo => 200
  | .doSetRoi => 201
  | .doDigicamControl => 203
  | .doMountConfigure => 204
  | .doMountControl => 205
  | .doSetCamTriggDist => 206
  | .doSetCamTriggInterval => 214
  | .obliqueSurvey => 260
  | .setCameraMode => 530
  | .setCameraZoom => 531
  | .setCameraFocus => 532
  | .doGimbalManagerPitchyaw => 1000
  | .doGimbalManagerConfigure => 1001
  | .imageStartCapture => 2000
  | .imageStopCapture => 2001
  | .doTriggerControl => 2003
  | .videoStartCapture => 2500
  | .videoStopCapture => 2501
  | .doVtolTransition => 3000
  | .conditionGate => 4501
  | .navFenceReturnPoint => 5000
  | .navFencePolygonVertexInclusion => mavCmdNavFencePolygonVertexInclusion
  | .navFencePolygonVertexExclusion => mavCmdNavFencePolygonVertexExclusion
  | .navFenceCircleInclusion => mavCmdNavFenceCircleInclusion
  | .navFenceCircleExclusion => mavCmdNavFenceCircleExclusion
  | .navRallyPoint => mavCmdNavRallyPoint

def MavCmd.all : List MavCmd := [
  .navWaypoint,.navLoiterUnlim,.navLoiterTime,.navReturnToLaunch,.navLand,.navTakeoff,.navLoiterToAlt,.navRoi,
  .navVtolTakeoff,.navVtolLand,.navDelay,.conditionDelay,.conditionDistance,.doJump,.doChangeSpeed,.doSetHome,
  .doSetServo,.doLandStart,.doSetRoiLocation,.doSetRoiWpnextOffset,.doSetRoiNone,.doControlVideo,.doSetRoi,
  .doDigicamControl,.doMountConfigure,.doMountControl,.doSetCamTriggDist,.doSetCamTriggInterval,
  .obliqueSurvey,.setCameraMode,.setCameraZoom,.setCameraFocus,.doGimbalManagerPitchyaw,
  .doGimbalManagerConfigure,.imageStartCapture,.imageStopCapture,.doTriggerControl,.videoStartCapture,
  .videoStopCapture,.doVtolTransition,.conditionGate,.navFenceReturnPoint,.navFencePolygonVertexInclusion,
  .navFencePolygonVertexExclusion,.navFenceCircleInclusion,.navFenceCircleExclusion,.navRallyPoint]

def MavCmd.ofNumber (number : Nat) : Option MavCmd := MavCmd.all.find? fun cmd => cmd.number = number

def navCmdInvalid : Nat := 65535

def mavFrameGlobal : Nat := 0
def mavFrameMission : Nat := 2
def mavFrameGlobalRelativeAlt : Nat := 3
def mavFrameGlobalInt : Nat := 5
def mavFrameGlobalRelativeAltInt : Nat := 6

def mavRoiNone : Int := 0
def mavRoiWpnext : Int := 1
def mavRoiWpindex : Int := 2
def mavRoiLocation : Int := 3

def mavMissionUnsupportedFrame : Nat := 2
def mavMissionInvalidParam1 : Nat := 6

def originMavlink : Nat := 0

structure MissionNumbers (K : Type) [Field K] [LinearOrder K] [FloorRing K] where
  toInt : Conversion K (-2^31) (2^31-1)
  toInt16 : Conversion K (-2^15) (2^15-1)
  toUint16 : Conversion K 0 (2^16-1)
  ofFloat : BitVec 32 → K
  toFloat : K → BitVec 32
  pi : K
  pi_pos : 0 < pi

namespace MissionNumbers
variable {K : Type} [Field K] [LinearOrder K] [FloorRing K] (numbers : MissionNumbers K)

def radians (degrees : K) : K := degrees * (numbers.pi / 180.0)

def degrees (radians : K) : K := radians * (180.0 / numbers.pi)

def wrapFloating (x low high : K) : K :=
  if low ≤ x ∧ x < high then x
  else
    let range := high-low
    let invRange := 1 / range
    let numWraps := ⌊(x - low) * invRange⌋
    x - range * numWraps

def wrap2pi (x : K) : K := wrapFloating x 0 (numbers.pi * 2.0)

def parseRoi (intMode : Bool) (wp : MavlinkMissionItem K) (item : MissionItem K K) : MissionParse K K :=
  if numbers.toInt.convert wp.param1 = mavRoiLocation then ⟨mavMissionAccepted,intMode,{ item with
    navCmd := MavCmd.doSetRoi.number
    timeInside := (mavRoiLocation : K)
    altitude := wp.z }⟩
  else if numbers.toInt.convert wp.param1 = mavRoiNone then ⟨mavMissionAccepted,intMode,{ item with
    navCmd := MavCmd.doSetRoi.number
    timeInside := (mavRoiNone : K) }⟩
  else ⟨mavMissionInvalidParam1,intMode,item⟩

def parseCoordinates (intMode : Bool) (wp : MavlinkMissionItem K) (item : MissionItem K K) : MavCmd → MissionParse K K
  | .navWaypoint => ⟨mavMissionAccepted,intMode,{ item with
      navCmd := MavCmd.navWaypoint.number
      timeInside := wp.param1
      acceptanceRadius := wp.param2
      yaw := numbers.wrap2pi (numbers.radians wp.param4) }⟩
  | .navLoiterUnlim => ⟨mavMissionAccepted,intMode,{ item with
      navCmd := MavCmd.navLoiterUnlim.number
      loiterRadius := wp.param3
      yaw := numbers.wrap2pi (numbers.radians wp.param4) }⟩
  | .navLoiterTime => ⟨mavMissionAccepted,intMode,{ item with
      navCmd := MavCmd.navLoiterTime.number
      timeInside := wp.param1
      forceHeading := wp.param2 > 0
      loiterRadius := wp.param3
      loiterExitXtrack := wp.param4 > 0
      yaw := numbers.wrap2pi (numbers.radians wp.param4) }⟩
  | .navLand => ⟨mavMissionAccepted,intMode,{ item with
      navCmd := MavCmd.navLand.number
      yaw := numbers.wrap2pi (numbers.radians wp.param4)
      vertexCount := (numbers.toUint16.convert wp.param2).toNat }⟩
  | .navTakeoff => ⟨mavMissionAccepted,intMode,{ item with
      navCmd := MavCmd.navTakeoff.number
      yaw := numbers.wrap2pi (numbers.radians wp.param4) }⟩
  | .navLoiterToAlt => ⟨mavMissionAccepted,intMode,{ item with
      navCmd := MavCmd.navLoiterToAlt.number
      forceHeading := wp.param1 > 0
      loiterRadius := wp.param2
      loiterExitXtrack := wp.param4 > 0 }⟩
  | .navRoi | .doSetRoi => numbers.parseRoi intMode wp item
  | .doSetRoiLocation => ⟨mavMissionAccepted,intMode,{ item with
      navCmd := MavCmd.doSetRoiLocation.number
      altitude := wp.z }⟩
  | .navVtolTakeoff | .navVtolLand => ⟨mavMissionAccepted,intMode,{ item with
      navCmd := wp.command
      yaw := numbers.wrap2pi (numbers.radians wp.param4) }⟩
  | .navFencePolygonVertexInclusion | .navFencePolygonVertexExclusion => ⟨mavMissionAccepted,intMode,{ item with
      navCmd := wp.command
      vertexCount := (numbers.toUint16.convert (wp.param1+0.5)).toNat }⟩
  | .navFenceCircleInclusion | .navFenceCircleExclusion => ⟨mavMissionAccepted,intMode,{ item with
      navCmd := wp.command
      timeInside := wp.param1 }⟩
  | .conditionGate | .navFenceReturnPoint | .navRallyPoint => ⟨mavMissionAccepted,intMode,{ item with
      navCmd := wp.command }⟩
  | _ => ⟨mavMissionUnsupported,intMode,{item with navCmd := navCmdInvalid}⟩

def parseRoiMode (intMode : Bool) (wp : MavlinkMissionItem K) (item : MissionItem K K) : MissionParse K K :=
  let roiMode := numbers.toInt.convert wp.param1
  if roiMode = mavRoiNone ∨ roiMode = mavRoiWpnext ∨ roiMode = mavRoiWpindex then ⟨mavMissionAccepted,intMode,
    {item with navCmd := MavCmd.doSetRoi.number}⟩
  else ⟨mavMissionInvalidParam1,intMode,item⟩

def parseParameters (intMode : Bool) (wp : MavlinkMissionItem K) (item : MissionItem K K) : MavCmd → MissionParse K K
  | .doJump => ⟨mavMissionAccepted,intMode,{ item with
      navCmd := MavCmd.doJump.number
      doJumpMissionIndex := numbers.toInt16.convert wp.param1
      vertexCount := 0
      doJumpRepeatCount := (numbers.toUint16.convert wp.param2).toNat }⟩
  | .navRoi | .doSetRoi => numbers.parseRoiMode intMode wp item
  | .doChangeSpeed | .doSetHome | .doSetServo | .doLandStart | .doTriggerControl | .doDigicamControl | .doMountConfigure
  | .doMountControl | .doGimbalManagerPitchyaw | .setCameraFocus | .doGimbalManagerConfigure | .imageStartCapture
  | .imageStopCapture | .videoStartCapture | .videoStopCapture | .doControlVideo | .doSetCamTriggDist | .obliqueSurvey
  | .doSetCamTriggInterval | .setCameraMode | .setCameraZoom | .doVtolTransition | .navDelay | .navReturnToLaunch
  | .doSetRoiWpnextOffset | .doSetRoiNone | .conditionDelay | .conditionDistance => ⟨mavMissionAccepted,intMode,
      {item with navCmd := wp.command}⟩
  | _ => ⟨mavMissionUnsupported,intMode,{item with navCmd := navCmdInvalid}⟩

def parseCommand (intMode : Bool) (wp : MavlinkMissionItem K) (item : MissionItem K K)
    (parse : MavCmd → MissionParse K K) : MissionParse K K :=
  (MavCmd.ofNumber wp.command).elim ⟨mavMissionUnsupported,intMode,{item with navCmd := navCmdInvalid}⟩ parse

def accept (wp : MavlinkMissionItem K) (p : MissionParse K K) : MissionParse K K :=
  if p.result = mavMissionAccepted then
    {p with item := {p.item with frame := wp.frame,autocontinue := wp.autocontinue,origin := originMavlink}}
  else p

def parseMavlinkMissionItem (intMode : Bool) (wp : MavlinkMissionItem K) : MissionParse K K :=
  if wp.frame = mavFrameGlobal ∨ wp.frame = mavFrameGlobalRelativeAlt ∨
      (intMode ∧ (wp.frame = mavFrameGlobalInt ∨ wp.frame = mavFrameGlobalRelativeAltInt)) then
    let intMode := if wp.frame = mavFrameGlobalInt ∨ wp.frame = mavFrameGlobalRelativeAltInt then true else intMode
    let item : MissionItem K K := { (MissionItem.zero : MissionItem K K) with
      lat := if intMode then (wp.x.toInt : K) * 1e-7 else numbers.ofFloat wp.x
      lon := if intMode then (wp.y.toInt : K) * 1e-7 else numbers.ofFloat wp.y
      altitude := wp.z
      altitudeIsRelative := if wp.frame = mavFrameGlobal ∨ wp.frame = mavFrameGlobalInt then false
        else wp.frame = mavFrameGlobalRelativeAlt ∨ wp.frame = mavFrameGlobalRelativeAltInt }
    accept wp (parseCommand intMode wp item (numbers.parseCoordinates intMode wp item))
  else if wp.frame = mavFrameMission then
    let item : MissionItem K K := { (MissionItem.zero : MissionItem K K) with
      timeInside := wp.param1
      acceptanceRadius := wp.param2
      loiterRadius := wp.param3
      yaw := wp.param4
      latFloat := if intMode then (wp.x.toInt : K) else numbers.ofFloat wp.x
      lonFloat := if intMode then (wp.y.toInt : K) else numbers.ofFloat wp.y
      altitude := wp.z }
    accept wp (parseCommand intMode wp item (numbers.parseParameters intMode wp item))
  else ⟨mavMissionUnsupportedFrame,intMode,.zero⟩

end MissionNumbers

structure MissionFormat (K : Type) where
  ok : Bool
  message : MavlinkMissionItem K

def MavlinkMissionItem.zero {K : Type} [Zero K] : MavlinkMissionItem K := ⟨0,0,0,0,false,false,0,0,0,0,0,0,0⟩

namespace MissionNumbers
variable {K : Type} [Field K] [LinearOrder K] [FloorRing K] (numbers : MissionNumbers K)

def formatCoordinates (item : MissionItem K K) (wp : MavlinkMissionItem K) : MavCmd → MissionFormat K
  | .navWaypoint => ⟨true,{ wp with
      param1 := item.timeInside,param2 := item.acceptanceRadius,param4 := numbers.degrees item.yaw }⟩
  | .navLoiterUnlim => ⟨true,{wp with param3 := item.loiterRadius,param4 := numbers.degrees item.yaw}⟩
  | .navLoiterTime => ⟨true,{ wp with
      param1 := item.timeInside
      param2 := if item.forceHeading then 1 else 0
      param3 := item.loiterRadius
      param4 := if item.loiterExitXtrack then 1 else 0 }⟩
  | .navLand => ⟨true,{wp with param2 := (item.vertexCount : K),param4 := numbers.degrees item.yaw}⟩
  | .navTakeoff => ⟨true,{wp with param4 := numbers.degrees item.yaw}⟩
  | .navLoiterToAlt => ⟨true,{ wp with
      param1 := if item.forceHeading then 1 else 0
      param2 := item.loiterRadius
      param4 := if item.loiterExitXtrack then 1 else 0 }⟩
  | .navVtolTakeoff | .navVtolLand => ⟨true,{wp with param4 := numbers.degrees item.yaw}⟩
  | .navFenceReturnPoint => ⟨true,wp⟩
  | .navFencePolygonVertexInclusion | .navFencePolygonVertexExclusion =>
    ⟨true,{wp with param1 := (item.vertexCount : K)}⟩
  | .navFenceCircleInclusion | .navFenceCircleExclusion => ⟨true,{wp with param1 := item.timeInside}⟩
  | .navRallyPoint => ⟨true,wp⟩
  | _ => ⟨false,wp⟩

def formatParameters (item : MissionItem K K) (wp : MavlinkMissionItem K) : MavCmd → MissionFormat K
  | .doJump => ⟨true,{wp with param1 := (item.doJumpMissionIndex : K),param2 := (item.doJumpRepeatCount : K)}⟩
  | .doChangeSpeed | .doSetHome | .doSetServo | .doLandStart | .doTriggerControl | .doDigicamControl | .imageStartCapture
  | .imageStopCapture | .videoStartCapture | .videoStopCapture | .doControlVideo | .doMountConfigure | .doMountControl
  | .doGimbalManagerPitchyaw | .doGimbalManagerConfigure | .doSetRoi | .doSetCamTriggDist | .obliqueSurvey
  | .doSetCamTriggInterval | .setCameraMode | .setCameraZoom | .setCameraFocus | .doVtolTransition => ⟨true,wp⟩
  | _ => ⟨false,wp⟩

def formatCommand (item : MissionItem K K) (wp : MavlinkMissionItem K) (format : MavCmd → MissionFormat K) : MissionFormat K :=
  (MavCmd.ofNumber item.navCmd).elim ⟨false,wp⟩ format

def toInt32 (x : K) : BitVec 32 := BitVec.ofInt 32 (numbers.toInt.convert (nearest x : K))

def formatMavlinkMissionItem (intMode : Bool) (item : MissionItem K K) (wp : MavlinkMissionItem K) : MissionFormat K :=
  let wp := {wp with frame := item.frame,command := item.navCmd,autocontinue := item.autocontinue}
  if item.frame = mavFrameMission then
    let wp := { wp with
      param1 := item.timeInside
      param2 := item.acceptanceRadius
      param3 := item.loiterRadius
      param4 := item.yaw
      x := if intMode then numbers.toInt32 item.latFloat else numbers.toFloat item.latFloat
      y := if intMode then numbers.toInt32 item.lonFloat else numbers.toFloat item.lonFloat
      z := item.altitude }
    formatCommand item wp (formatParameters item wp)
  else
    let wp := { wp with
      param1 := 0
      param2 := 0
      param3 := 0
      param4 := 0
      x := if intMode then numbers.toInt32 (item.lat * 1e7) else numbers.toFloat item.lat
      y := if intMode then numbers.toInt32 (item.lon * 1e7) else numbers.toFloat item.lon
      z := item.altitude
      frame := if item.altitudeIsRelative then if intMode then mavFrameGlobalRelativeAltInt else mavFrameGlobalRelativeAlt
        else if intMode then mavFrameGlobalInt else mavFrameGlobal }
    formatCommand item wp (numbers.formatCoordinates item wp)

/-- What `send_mission_item` sends; the result of the formatting is not looked at. -/
def sentItem (intMode : Bool) (seq : Nat) (current : Bool) (item : MissionItem K K) : MavlinkMissionItem K :=
  {(numbers.formatMavlinkMissionItem intMode item .zero).message with seq := seq,current := current}

end MissionNumbers
end AerialManipulator
