import Uam.ControlMath

/-! The position controller with its extended state observer. `update` checks the inputs, advances
the observer, and runs the two stages; NaN in a setpoint means not commanded. -/
namespace AerialManipulator
open Numeric
variable {K : Type*}

structure PositionESO (K : Type*) where
  beta1 : Vector3 (Flt K)
  beta2 : Vector3 (Flt K)
  beta3 : Vector3 (Flt K)
  z1 : Vector3 (Flt K)
  z2 : Vector3 (Flt K)
  z3 : Vector3 (Flt K)
  deriving DecidableEq, Repr

namespace PositionESO
variable [Field K]

def setBandwidth (eso : PositionESO K) (bw : Vector3 (Flt K)) : PositionESO K :=
  { eso with
    beta1 := bw * Flt.fin (3 : K)
    beta2 := bw.emult bw * Flt.fin (3 : K)
    beta3 := (bw.emult bw).emult bw }

def resetZero (eso : PositionESO K) : PositionESO K := {eso with z1 := 0, z2 := 0, z3 := 0}

def reset (eso : PositionESO K) (posMeas velMeas : Vector3 (Flt K)) : PositionESO K :=
  {eso with z1 := posMeas, z2 := velMeas, z3 := 0}

def update (eso : PositionESO K) (posMeas uControl : Vector3 (Flt K)) (dt : Flt K) : PositionESO K :=
  let err := posMeas-eso.z1
  let z1Dot := eso.z2+eso.beta1.emult err
  let z2Dot := eso.z3+uControl+eso.beta2.emult err
  let z3Dot := eso.beta3.emult err
  {eso with z1 := eso.z1 + z1Dot * dt, z2 := eso.z2 + z2Dot * dt, z3 := eso.z3 + z3Dot * dt}

def fresh : PositionESO K :=
  (resetZero ⟨0,0,0,0,0,0⟩).setBandwidth ⟨.fin 8,.fin 8,.fin 4⟩

end PositionESO

structure PositionControlStates (K : Type*) where
  position : Vector3 (Flt K)
  velocity : Vector3 (Flt K)
  acceleration : Vector3 (Flt K)
  yaw : Flt K
  deriving DecidableEq, Repr

structure LocalPositionSetpoint (K : Type*) where
  position : Vector3 (Flt K)
  velocity : Vector3 (Flt K)
  acceleration : Vector3 (Flt K)
  yaw : Flt K
  yawspeed : Flt K
  thrust : Vector3 (Flt K)
  deriving DecidableEq, Repr

def resetSetpointToNan : LocalPositionSetpoint K :=
  let unset : Vector3 (Flt K) := ⟨.nan,.nan,.nan⟩
  ⟨unset,unset,unset,.nan,.nan,unset⟩

namespace PositionControl

/-- What `update` only reads: gains, limits, hover thrust and the inputs of the centrifugal compensation. -/
structure Settings (K : Type*) where
  gainPosP : Vector3 (Flt K)
  gainPosI : Vector3 (Flt K)
  gainVelP : Vector3 (Flt K)
  limPosInt : Flt K
  limVelHorizontal : Flt K
  limVelUp : Flt K
  limVelDown : Flt K
  limThrMin : Flt K
  limThrMax : Flt K
  limThrXyMargin : Flt K
  limTilt : Flt K
  hoverThrust : Flt K
  bodyRate : Vector3 (Flt K)
  sysComPos : Vector3 (Flt K)
  attitude : Quat (Flt K)
  dynFfEnabled : Bool
  deriving DecidableEq, Repr

end PositionControl

structure PositionControl (K : Type*) where
  settings : PositionControl.Settings K
  pos : Vector3 (Flt K)
  vel : Vector3 (Flt K)
  velDot : Vector3 (Flt K)
  velInt : Vector3 (Flt K)
  yaw : Flt K
  posInt : Vector3 (Flt K)
  eso : PositionESO K
  esoDisturbance : Vector3 (Flt K)
  esoUpdateEnabled : Bool
  esoUpdateEnabledPrev : Bool
  accCmdPrev : Vector3 (Flt K)
  esoInput : Vector3 (Flt K)
  posSp : Vector3 (Flt K)
  velSp : Vector3 (Flt K)
  accSp : Vector3 (Flt K)
  thrSp : Vector3 (Flt K)
  yawSp : Flt K
  yawspeedSp : Flt K
  deriving DecidableEq, Repr

namespace PositionControl
open ControlMath

def setState (c : PositionControl K) (states : PositionControlStates K) : PositionControl K :=
  { c with pos := states.position, vel := states.velocity, yaw := states.yaw,
           velDot := states.acceleration }

def setInputSetpoint (c : PositionControl K) (setpoint : LocalPositionSetpoint K) : PositionControl K :=
  { c with posSp := setpoint.position, velSp := setpoint.velocity, accSp := setpoint.acceleration,
           yawSp := setpoint.yaw, yawspeedSp := setpoint.yawspeed }

def setESOUpdateEnabled (c : PositionControl K) (enabled : Bool) : PositionControl K :=
  {c with esoUpdateEnabled := enabled}

/-- Every axis needs a setpoint, horizontal ones come in pairs, and each controlled state needs its estimate. -/
def inputValid (c : PositionControl K) : Bool :=
  let commanded (p v a : Flt K) := p.isFinite || v.isFinite || a.isFinite
  let estimated (p pos v vel velDot : Flt K) :=
    (!p.isFinite || pos.isFinite) && (!v.isFinite || (vel.isFinite && velDot.isFinite))
  commanded c.posSp.x c.velSp.x c.accSp.x &&
  commanded c.posSp.y c.velSp.y c.accSp.y &&
  commanded c.posSp.z c.velSp.z c.accSp.z &&
  (c.posSp.x.isFinite == c.posSp.y.isFinite) &&
  (c.velSp.x.isFinite == c.velSp.y.isFinite) &&
  (c.accSp.x.isFinite == c.accSp.y.isFinite) &&
  estimated c.posSp.x c.pos.x c.velSp.x c.vel.x c.velDot.x &&
  estimated c.posSp.y c.pos.y c.velSp.y c.vel.y c.velDot.y &&
  estimated c.posSp.z c.pos.z c.velSp.z c.vel.z c.velDot.z

def Settings.defaults [Field K] : Settings K where
  gainPosP := ⟨.fin 1.57042,.fin 1.82178630576241,.fin 1.54265⟩
  gainPosI := ⟨.fin 0.35494,.fin 0.2910956920072665,.fin 0.13⟩
  gainVelP := ⟨.fin 2.6543,.fin 3.4518786353089626,.fin 1.47839⟩
  limPosInt := .fin 0.3682
  limVelHorizontal := .fin 3.35
  limVelUp := .fin 3
  limVelDown := .fin 1
  limThrMin := .fin 0.12
  limThrMax := .fin 1
  limThrXyMargin := .fin 0.3
  limTilt := .fin 0.785398
  hoverThrust := .fin 0.5
  bodyRate := 0
  sysComPos := 0
  attitude := ⟨1,0,0,0⟩
  dynFfEnabled := true

def fresh [Field K] (settings : Settings K) (bw : Vector3 (Flt K)) : PositionControl K where
  settings := settings
  pos := 0
  vel := 0
  velDot := 0
  velInt := 0
  yaw := 0
  posInt := 0
  eso := PositionESO.fresh.setBandwidth bw
  esoDisturbance := 0
  esoUpdateEnabled := true
  esoUpdateEnabledPrev := true
  accCmdPrev := 0
  esoInput := 0
  posSp := 0
  velSp := 0
  accSp := 0
  thrSp := 0
  yawSp := 0
  yawspeedSp := 0

section
variable [Field K] [LinearOrder K] [Libm K]

def resetIntegral (c : PositionControl K) : PositionControl K :=
  { c with velInt := 0, posInt := 0, esoInput := 0, accCmdPrev := 0, eso := c.eso.resetZero,
           esoUpdateEnabledPrev := false }

/-- `update` calls `_eso.reset(_pos, _vel)` on the enable edge. -/
def reinitialises (c : PositionControl K) : Bool := c.esoUpdateEnabled && !c.esoUpdateEnabledPrev

def observerBeforeAdvance (c : PositionControl K) : PositionESO K :=
  if c.reinitialises then c.eso.reset c.pos c.vel else c.eso

def observe (c : PositionControl K) (dt : Flt K) : PositionControl K :=
  let eso := c.observerBeforeAdvance
  let eso := if c.esoUpdateEnabled then eso.update c.pos c.esoInput dt else eso
  {c with eso := eso, esoDisturbance := if c.esoUpdateEnabled then eso.z3 else 0}

def arwGain (p : Flt K) : Flt K := if p > fltEpsilon then .fin 2.0 / p else 0

def velSpP (c : PositionControl K) : Vector3 (Flt K) := (c.posSp-c.pos).emult c.settings.gainPosP

def velSpUnc (c : PositionControl K) : Vector3 (Flt K) :=
  addIfNotNanVector3f (c.velSpP+c.posInt.emult c.settings.gainPosI) c.velSp

def velSpLimited (c : PositionControl K) : Vector3 (Flt K) :=
  let limited := setZeroIfNanVector3f c.velSpUnc
  let limited := limited.setXy
    (constrainXY limited.xy (limited-c.velSpP-c.posInt.emult c.settings.gainPosI).xy
      c.settings.limVelHorizontal)
  {limited with z := Math.constrain limited.z (-c.settings.limVelUp) c.settings.limVelDown}

def positionControl (c : PositionControl K) (dt : Flt K) : PositionControl K :=
  let posErr := c.posSp-c.pos
  let saturationDiff := c.velSpUnc-c.velSpLimited
  let posErrForInt := posErr-saturationDiff.emult (c.settings.gainPosP.map arwGain)
  let posInt :=
    if posErr.isFinite then
      (c.posInt + posErrForInt * dt).map
        (Math.constrain · (-c.settings.limPosInt) c.settings.limPosInt)
    else c.posInt
  {c with posInt := posInt, velSp := c.velSpLimited}

def centrifugal (s : Settings K) : Vector3 (Flt K) :=
  if s.dynFfEnabled then
    s.attitude.rotateVector (s.bodyRate.cross (s.bodyRate.cross s.sysComPos)) * Flt.fin (-1 : K)
  else 0

def bodyZ (s : Settings K) (accSp : Vector3 (Flt K)) : Vector3 (Flt K) :=
  limitTilt (⟨-accSp.x,-accSp.y,oneG⟩ : Vector3 (Flt K)).unit ⟨0,0,1⟩ s.limTilt

def upright (s : Settings K) (accSp : Vector3 (Flt K)) : Flt K := (⟨0,0,1⟩ : Vector3 (Flt K)).dot (bodyZ s accSp)

/-- Before it is limited. -/
def collectiveThrust (s : Settings K) (accSp : Vector3 (Flt K)) : Flt K :=
  (accSp.z * (s.hoverThrust / oneG) - s.hoverThrust) / upright s accSp

def accelerationControl (s : Settings K) (accSp : Vector3 (Flt K)) : Vector3 (Flt K) :=
  bodyZ s accSp * Math.min (collectiveThrust s accSp) (-s.limThrMin)

def prioritizeThrust (s : Settings K) (thrSp : Vector3 (Flt K)) : Vector3 (Flt K) :=
  let thrustSpXyNorm := thrSp.xy.norm
  let thrustMaxSquared := Math.sq s.limThrMax
  let allocatedHorizontalThrust := Math.min thrustSpXyNorm s.limThrXyMargin
  let thrustZMaxSquared := thrustMaxSquared-Math.sq allocatedHorizontalThrust
  let z := Math.max thrSp.z (-thrustZMaxSquared.sqrt)
  let thrustMaxXySquared := thrustMaxSquared-Math.sq z
  let thrustMaxXy := if thrustMaxXySquared > 0 then thrustMaxXySquared.sqrt else 0
  let xy :=
    if thrustSpXyNorm > thrustMaxXy then thrSp.xy.divScalar thrustSpXyNorm * thrustMaxXy
    else thrSp.xy
  ⟨xy.x,xy.y,z⟩

def accelerationCommand (c : PositionControl K) : Vector3 (Flt K) :=
  setZeroIfNanVector3f c.accSp + (c.velSp - c.vel).emult c.settings.gainVelP
    - c.esoDisturbance - centrifugal c.settings

/-- The source also clears the vertical velocity error under saturation, after its last use. -/
def velocityControl (c : PositionControl K) : PositionControl K :=
  let accSp := c.accelerationCommand
  let thrSp := prioritizeThrust c.settings (accelerationControl c.settings accSp)
  let accCmdPrev :=
    if c.settings.hoverThrust > fltEpsilon then thrSp * ((oneG : Flt K) / c.settings.hoverThrust)
    else thrSp * (oneG : Flt K)
  { c with accSp := accSp, thrSp := thrSp, accCmdPrev := accCmdPrev,
           esoInput := accCmdPrev+⟨0,0,oneG⟩+centrifugal c.settings }

def control (c : PositionControl K) (dt : Flt K) : PositionControl K :=
  let c := ((c.observe dt).positionControl dt).velocityControl
  { c with
    yawspeedSp := if c.yawspeedSp.isFinite then c.yawspeedSp else 0
    yawSp := if c.yawSp.isFinite then c.yawSp else c.yaw }

def update (c : PositionControl K) (dt : Flt K) : Bool × PositionControl K :=
  let valid := c.inputValid
  let next := if valid then c.control dt else c
  let next := {next with esoUpdateEnabledPrev := next.esoUpdateEnabled}
  (valid && next.accSp.isFinite && next.thrSp.isFinite,next)

lemma update_valid {c : PositionControl K} (valid : c.inputValid = true) (dt : Flt K) :
    (c.update dt).2 = {c.control dt with esoUpdateEnabledPrev := c.esoUpdateEnabled} := by
  simp only [update,valid,if_true]
  rfl

lemma update_invalid {c : PositionControl K} (invalid : c.inputValid = false) (dt : Flt K) :
    c.update dt = (false,{c with esoUpdateEnabledPrev := c.esoUpdateEnabled}) := by
  simp [update,invalid]

end
end PositionControl
end AerialManipulator
