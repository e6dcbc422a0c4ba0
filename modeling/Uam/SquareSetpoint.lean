import Uam.ExperimentMarker

/-! The setpoints of the square node. A tracking differentiator follows a target along the sides; it
is set anew when the experiment begins and when the clock has not gone on. -/
namespace AerialManipulator
open Numeric
variable {K : Type*}

/-- `std::min`; the order of the comparison decides what NaN gives. -/
def stdMin [LT K] [DecidableLT K] (a b : K) : K := if b < a then b else a

def stdMax [LT K] [DecidableLT K] (a b : K) : K := if a < b then b else a

structure TrackingDifferentiator (K : Type*) where
  position : Vector3 (Flt K)
  velocity : Vector3 (Flt K)
  initialized : Bool

namespace TrackingDifferentiator
variable [Field K] [LinearOrder K]

def clampValue (value limit : Flt K) : Flt K :=
  if limit ≤ 0 then value else stdMax (-limit) (stdMin limit value)

def resetTd (position : Vector3 (Flt K)) : TrackingDifferentiator K := ⟨position,0,true⟩

def updateTdAxis (target dt bandwidthRadS accLimit velLimit position velocity : Flt K) : Flt K × Flt K :=
  let error := target-position
  let acceleration := clampValue (bandwidthRadS * bandwidthRadS * error - .fin 2.0 * bandwidthRadS * velocity) accLimit
  let velocity := clampValue (velocity + acceleration * dt) velLimit
  (position + velocity * dt,velocity)

def updateTd (td : TrackingDifferentiator K) (target : Vector3 (Flt K)) (dt : K)
    (bandwidthRadS accLimit velLimit : Flt K) : TrackingDifferentiator K :=
  if !td.initialized || decide (dt ≤ 0) then resetTd target
  else
    let axis i := updateTdAxis (target.get i) (.fin dt) bandwidthRadS accLimit velLimit
      (td.position.get i) (td.velocity.get i)
    {td with position := .ofAxes fun i => (axis i).1, velocity := .ofAxes fun i => (axis i).2}

end TrackingDifferentiator

structure SquareParams (K : Type*) where
  sideLength : Flt K
  altitude : Flt K
  originX : Flt K
  originY : Flt K
  cornerHoldS : Flt K
  pathSpeedMps : Flt K
  reachTolM : Flt K
  activationAltitudeM : Flt K
  activationHoldS : Flt K
  staticValidationDelayS : Flt K
  staticValidationReachM : Flt K
  smoothSegments : Bool
  useTdSetpoint : Bool
  tdBandwidthHz : Flt K
  tdAccelLimitMps2 : Flt K
  tdVelLimitMps : Flt K

namespace SquareParams
variable [Field K] [LinearOrder K] (p : SquareParams K)

def pathSpeed : Flt K := stdMax (.fin 0.05) p.pathSpeedMps
def tdBandwidth : Flt K := stdMax (.fin 0.01) p.tdBandwidthHz
def tdAccelLimit : Flt K := stdMax (.fin 0.01) p.tdAccelLimitMps2
def tdVelLimit : Flt K := stdMax (.fin 0.05) p.tdVelLimitMps
def tdBandwidthRadS [Libm K] : Flt K := .fin 2.0 * .fin Libm.pi * p.tdBandwidth

def firstCorner : Vector3 (Flt K) := ⟨p.originX,p.originY,p.altitude⟩

def waypoints : List (Vector3 (Flt K)) :=
  [p.firstCorner,⟨p.originX+p.sideLength,p.originY,p.altitude⟩,
    ⟨p.originX+p.sideLength,p.originY+p.sideLength,p.altitude⟩,
    ⟨p.originX,p.originY+p.sideLength,p.altitude⟩,⟨p.originX,p.originY,p.altitude⟩]

def waypoint (i : Nat) : Vector3 (Flt K) := p.waypoints.getD i p.firstCorner

def markerParams : MarkerParams K :=
  ⟨p.firstCorner,p.reachTolM,p.activationAltitudeM,p.activationHoldS,p.staticValidationDelayS,
    p.staticValidationReachM⟩

end SquareParams

structure SquareClock (K : Type*) where
  start : K
  check : K
  enabled : K
  elapsed : K
  phase : K
  stamp : K

structure SquareNode (K : Type*) where
  marker : Marker K
  wpIdx : Nat
  td : TrackingDifferentiator K
  lastSetpointTime : K
  phaseStart : K
  movingSegment : Bool
  squareComplete : Bool

namespace SquareNode
variable [Field K] [LinearOrder K] [Libm K]

def init (p : SquareParams K) (now : K) : SquareNode K :=
  ⟨.init,0,.resetTd p.firstCorner,now,0,false,false⟩

def waypointDistance (a b : Vector3 (Flt K)) : Flt K :=
  let dx := b.x-a.x
  let dy := b.y-a.y
  let dz := b.z-a.z
  (dx * dx + dy * dy + dz * dz).sqrt

def clampRatio (ratio : Flt K) : Flt K := stdMax 0 (stdMin 1 ratio)

def interpolateWaypoint (a b : Vector3 (Flt K)) (ratio : Flt K) : Vector3 (Flt K) :=
  let ratio := clampRatio ratio
  ⟨a.x + (b.x - a.x) * ratio,a.y + (b.y - a.y) * ratio,a.z + (b.z - a.z) * ratio⟩

def smoothstep (ratio : Flt K) : Flt K :=
  let ratio := clampRatio ratio
  ratio * ratio * (.fin 3.0 - .fin 2.0 * ratio)

/-- The quotient by the time of a segment. Where that is zero it is infinite, which all its uses
take as one, or zero if negative. -/
def segmentRatio (elapsed : K) (segmentTimeS : Flt K) : Flt K :=
  if segmentTimeS = 0 ∧ elapsed ≠ 0 then if 0 < elapsed then 1 else 0 else .fin elapsed / segmentTimeS

def activate (s : SquareNode K) (p : SquareParams K) (v : Vehicle K) (now : SquareClock K) : SquareNode K :=
  let marker := s.marker.activateSquare p.markerParams v ⟨now.start,now.check⟩
  if !s.marker.armMotionEnabled && marker.armMotionEnabled then
    { s with
      marker := marker, phaseStart := now.enabled, td := .resetTd p.firstCorner, lastSetpointTime := now.enabled }
  else {s with marker := marker}

def proceed (s : SquareNode K) (p : SquareParams K) (now : SquareClock K) : Vector3 (Flt K) × SquareNode K :=
  if s.marker.armMotionEnabled && !s.squareComplete then
    let phaseElapsed := now.elapsed-s.phaseStart
    if !s.movingSegment then
      (p.waypoint s.wpIdx,
        if .fin phaseElapsed ≥ p.cornerHoldS then
          if s.wpIdx+1 ≥ p.waypoints.length then {s with squareComplete := true}
          else {s with movingSegment := true, phaseStart := now.phase}
        else s)
    else
      let startWp := p.waypoint s.wpIdx
      let endWp := p.waypoint (s.wpIdx+1)
      let ratio := segmentRatio phaseElapsed (waypointDistance startWp endWp / p.pathSpeed)
      if ratio ≥ 1 then
        (p.waypoint (s.wpIdx+1),
          {s with wpIdx := s.wpIdx+1, movingSegment := false, phaseStart := now.phase})
      else (interpolateWaypoint startWp endWp (if p.smoothSegments then smoothstep ratio else ratio),s)
  else (p.waypoint s.wpIdx,s)

def follow (s : SquareNode K) (p : SquareParams K) (target : Vector3 (Flt K)) (stamp : K) : SquareNode K :=
  { s with
    lastSetpointTime := stamp
    td :=
      if p.useTdSetpoint then
        s.td.updateTd target (stamp-s.lastSetpointTime) p.tdBandwidthRadS p.tdAccelLimit p.tdVelLimit
      else .resetTd target }

def iterate (s : SquareNode K) (p : SquareParams K) (v : Vehicle K) (now : SquareClock K) : SquareNode K :=
  let s := s.activate p v now
  (s.proceed p now).2.follow p (s.proceed p now).1 now.stamp

end SquareNode
end AerialManipulator
