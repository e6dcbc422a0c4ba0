import Uam.ControlMath
import Uam.MissionItems

/-! The geofence of the navigator, after `Geofence`. The areas are loaded from the
data manager; a position is checked against them and the distance from home, and a
counter decides when to report. -/
namespace AerialManipulator
open Numeric ControlMath

def navCmdIdle : Nat := 0
def navCmdDoFollowReposition : Nat := 33

def gfActionRtl : Int := 3
def gfAltModeWgs84 : Int := 0
def gfSourceGlobalpos : Int := 0

def itemContainsPosition {K D : Type} (item : MissionItem K D) : Bool :=
  item.navCmd = MavCmd.navWaypoint.number || item.navCmd = MavCmd.navLoiterUnlim.number ||
    item.navCmd = MavCmd.navLoiterTime.number || item.navCmd = MavCmd.navLand.number ||
    item.navCmd = MavCmd.navTakeoff.number || item.navCmd = MavCmd.navLoiterToAlt.number ||
    item.navCmd = MavCmd.navVtolTakeoff.number || item.navCmd = MavCmd.navVtolLand.number ||
    item.navCmd = navCmdDoFollowReposition

def FenceExtent.vertices {K : Type} : FenceExtent K → Nat
  | .vertexCount count => count
  | .circleRadius _ => 0

def FenceExtent.radius {K : Type} [Zero K] : FenceExtent K → K
  | .vertexCount _ => 0
  | .circleRadius radius => radius

structure PolygonInfo (K : Type) where
  fenceType : Nat
  datamanIndex : Nat
  extent : FenceExtent K

def isCircle (navCmd : Nat) : Bool := navCmd = mavCmdNavFenceCircleInclusion || navCmd = mavCmdNavFenceCircleExclusion

def PolygonInfo.span {K : Type} (area : PolygonInfo K) : Nat :=
  if isCircle area.fenceType then 1 else area.extent.vertices

structure FenceData (K D : Type) where
  stats : Option MissionStatsEntry
  point : Nat → Option (MissionFencePoint K D)
  allocated : Nat → Bool

def FenceData.of {K D : Type} (store : MissionStore K D) (statsRead : Bool) (pointRead allocated : Nat → Bool) :
    FenceData K D where
  stats := if statsRead then store.stats mavMissionTypeFence else none
  point seq := if pointRead seq then store.fencePoint seq else none
  allocated := allocated

/-- The area that begins with a point: none at a return point, an unknown command or an empty polygon. -/
def MissionFencePoint.area {K D : Type} (point : MissionFencePoint K D) (currentSeq : Nat) : Option (PolygonInfo K) :=
  if isCircle point.navCmd then some ⟨point.navCmd,currentSeq,point.extent⟩
  else if isPolygonVertex point.navCmd && point.extent.vertices ≠ 0 then some ⟨point.navCmd,currentSeq,point.extent⟩
  else none

namespace FenceData
variable {K D : Type} (data : FenceData K D)

def numFenceItems : Nat := data.stats.elim 0 MissionStatsEntry.numItems

/-- `none` is a loop that has not ended. -/
def updateFenceLoop : Nat → Nat → List (PolygonInfo K) → Option (List (PolygonInfo K))
  | 0,_,_ => none
  | fuel+1,currentSeq,polygons =>
    if currentSeq ≤ data.numFenceItems then
      (data.point currentSeq).elim (some polygons) fun point =>
        (point.area currentSeq).elim (updateFenceLoop fuel (currentSeq+1) polygons) fun area =>
          if data.allocated polygons.length then
            updateFenceLoop fuel (currentSeq + area.span) (polygons ++ [area])
          else some []
    else some polygons

def polygons : List (PolygonInfo K) := (data.updateFenceLoop (data.numFenceItems+1) 1 []).getD []

lemma ends_updateFenceLoop (enough : data.numFenceItems+1 < fuel+currentSeq)
    (positive : 0 < fuel) (found : List (PolygonInfo K)) : (data.updateFenceLoop fuel currentSeq found).isSome := by
  induction fuel generalizing currentSeq found with
  | zero => exact absurd positive (Nat.lt_irrefl 0)
  | succ fuel ih =>
    rw [updateFenceLoop]
    split
    next inside =>
      have next (step : Nat) (forward : 0 < step) (found : List (PolygonInfo K)) :
          (data.updateFenceLoop fuel (currentSeq+step) found).isSome :=
        ih (by omega) (by omega) found
      cases data.point currentSeq with
      | none => rfl
      | some point =>
        rw [Option.elim_some]
        cases begins : point.area currentSeq with
        | none => exact next 1 Nat.one_pos found
        | some area =>
          rw [Option.elim_some]
          split
          · refine next _ ?_ _
            unfold MissionFencePoint.area at begins
            unfold PolygonInfo.span
            grind
          · rfl
    · rfl

end FenceData

structure Geofence (R : Type) where
  polygons : List (PolygonInfo (Flt R))
  updateCounter : Nat
  outsideCounter : Nat
  projectionReference : Option (Flt R × Flt R)
  altitudeMin : Flt R
  altitudeMax : Flt R

structure GeofenceParams (R : Type) where
  action : Int
  altmode : Int
  source : Int
  count : Int
  maxHorDist : Flt R
  maxVerDist : Flt R

/-- The distance of `get_distance_to_point_global_wgs84`, and `MapProjection::project` from a reference. -/
structure Geodesy (R : Type) where
  distanceXy : Flt R → Flt R → Flt R → Flt R → Flt R → Flt R → Flt R
  project : Flt R × Flt R → Flt R → Flt R → Vector2 (Flt R)

structure FenceSurroundings (R : Type) where
  locked : Bool
  homeGlobalPositionValid : Bool
  homeAltValid : Bool
  homeLat : Flt R
  homeLon : Flt R
  homeAlt : Flt R

structure VehiclePosition (R : Type) where
  lat : Flt R
  lon : Flt R
  alt : Flt R
  gpsLat : Int
  gpsLon : Int
  gpsAlt : Int
  baroAltMeter : Flt R

def supportedFrame (frame : Nat) : Bool :=
  frame = mavFrameGlobal || frame = mavFrameGlobalInt || frame = mavFrameGlobalRelativeAlt ||
    frame = mavFrameGlobalRelativeAltInt

namespace Geofence
variable {R : Type} [Field R] [LinearOrder R] (geo : Geodesy R) (params : GeofenceParams R)
  (data : FenceData (Flt R) (Flt R)) (around : FenceSurroundings R) (g : Geofence R) (lat lon altitude : Flt R)

def setReference (reference : Option (Flt R × Flt R)) : Geofence R := {g with projectionReference := reference}

def setOutsideCounter (count : Nat) : Geofence R := {g with outsideCounter := count}

def updateFence : Geofence R :=
  { g with
    polygons := data.polygons
    updateCounter := data.stats.elim g.updateCounter MissionStatsEntry.updateCounter }

def start : Geofence R := (⟨[],0,0,none,.fin 0,.fin 0⟩ : Geofence R).updateFence data

def crosses (vertexI vertexJ : MissionFencePoint (Flt R) (Flt R)) : Bool :=
  decide (vertexI.lon ≥ lon) != decide (vertexJ.lon ≥ lon) &&
    decide (lat ≤ (vertexJ.lat - vertexI.lat) * (lon - vertexI.lon) / (vertexJ.lon - vertexI.lon) + vertexI.lat)

def insidePolygonLoop (polygon : PolygonInfo (Flt R)) : List Nat → Nat → Bool → Bool
  | [],_,c => c
  | i::rest,j,c =>
    (data.point (polygon.datamanIndex+i)).elim c fun vertexI =>
      (data.point (polygon.datamanIndex+j)).elim c fun vertexJ =>
        if supportedFrame vertexI.frame then
          insidePolygonLoop polygon rest i (if crosses lat lon vertexI vertexJ then !c else c)
        else c

def insidePolygon (polygon : PolygonInfo (Flt R)) : Bool :=
  insidePolygonLoop data lat lon polygon (List.range polygon.extent.vertices) (polygon.extent.vertices-1) false

def insideCircle (polygon : PolygonInfo (Flt R)) (reference : Option (Flt R × Flt R)) : Bool × Option (Flt R × Flt R) :=
  (data.point polygon.datamanIndex).elim (false,reference) fun circlePoint =>
    if supportedFrame circlePoint.frame then
      let center := reference.getD (lat,lon)
      let d := geo.project center lat lon-geo.project center circlePoint.lat circlePoint.lon
      (decide (d.x * d.x + d.y * d.y < circlePoint.extent.radius * circlePoint.extent.radius),some center)
    else (false,reference)

structure AreaVerdict (R : Type) where
  outsideExclusion : Bool
  insideInclusion : Bool
  hadInclusionAreas : Bool
  reference : Option (Flt R × Flt R)

def insideArea (area : PolygonInfo (Flt R)) (reference : Option (Flt R × Flt R)) : Bool × Option (Flt R × Flt R) :=
  if isCircle area.fenceType then insideCircle geo data lat lon area reference
  else (insidePolygon data lat lon area,reference)

def checkArea (verdict : AreaVerdict R) (area : PolygonInfo (Flt R)) : AreaVerdict R :=
  let inside := insideArea geo data lat lon area verdict.reference
  if area.fenceType = mavCmdNavFenceCircleInclusion || area.fenceType = mavCmdNavFencePolygonVertexInclusion then
    { verdict with
      insideInclusion := verdict.insideInclusion || inside.1
      hadInclusionAreas := true
      reference := inside.2 }
  else {verdict with outsideExclusion := verdict.outsideExclusion && !inside.1, reference := inside.2}

def refresh : Geofence R :=
  if data.stats.any fun stats => g.updateCounter ≠ stats.updateCounter then g.updateFence data else g

def altitudeViolated : Bool :=
  decide (g.altitudeMax > g.altitudeMin) && (decide (altitude > g.altitudeMax) || decide (altitude < g.altitudeMin))

def verdict : AreaVerdict R :=
  g.polygons.foldl (checkArea geo data lat lon) ⟨true,false,false,g.projectionReference⟩

def isInsidePolygonOrCircle : Bool × Geofence R :=
  if around.locked then
    let g := g.refresh data
    if g.polygons.isEmpty then (true,g)
    else if g.altitudeViolated altitude then (false,g)
    else
      let verdict := g.verdict geo data lat lon
      ((!verdict.hadInclusionAreas || verdict.insideInclusion) && verdict.outsideExclusion,
        g.setReference verdict.reference)
  else (true,g)

def isHomeRequired : Bool :=
  decide (params.maxHorDist > fltEpsilon) || decide (params.maxVerDist > fltEpsilon) || params.action = gfActionRtl

def isCloserThanMaxDistToHome : Bool :=
  !(isHomeRequired params && around.homeGlobalPositionValid && decide (params.maxHorDist > fltEpsilon) &&
    decide (geo.distanceXy lat lon altitude around.homeLat around.homeLon around.homeAlt > params.maxHorDist))

def isBelowMaxAltitude : Bool :=
  !(isHomeRequired params && around.homeAltValid && decide (params.maxVerDist > fltEpsilon) &&
    decide (altitude-around.homeAlt > params.maxVerDist))

/-- The areas are looked at only where the distances from home are kept. -/
def insideFence : Bool × Geofence R :=
  if isCloserThanMaxDistToHome geo params around lat lon altitude && isBelowMaxAltitude params around altitude then
    g.isInsidePolygonOrCircle geo data around lat lon altitude
  else (false,g)

def checkAll : Bool × Geofence R :=
  let inside := g.insideFence geo params data around lat lon altitude
  if inside.1 then (true,inside.2.setOutsideCounter 0)
  else (decide ((g.outsideCounter+1 : Nat) ≤ params.count),inside.2.setOutsideCounter (g.outsideCounter+1))

def checkVehicle (position : VehiclePosition R) : Bool × Geofence R :=
  let lat := if params.source = gfSourceGlobalpos then position.lat else .fin (position.gpsLat * 1.0e-7)
  let lon := if params.source = gfSourceGlobalpos then position.lon else .fin (position.gpsLon * 1.0e-7)
  let altitude :=
    if params.altmode = gfAltModeWgs84 then
      if params.source = gfSourceGlobalpos then position.alt else .fin (position.gpsAlt * 1.0e-3)
    else position.baroAltMeter
  g.checkAll geo params data around lat lon altitude

def checkItem (missionItem : MissionItem (Flt R) (Flt R)) : Bool × Geofence R :=
  g.checkAll geo params data around missionItem.lat missionItem.lon missionItem.altitude

end Geofence
end AerialManipulator
