import Uam.ControlMath

/-! The rate controller with its extended state observer. `update` computes the physical torque and
returns it normalized to [-1, 1]. -/
namespace AerialManipulator
open Numeric ControlMath
variable {K : Type*}

structure AttitudeESO (K : Type*) where
  beta1 : Vector3 (Flt K)
  beta2 : Vector3 (Flt K)
  z1EstOmega : Vector3 (Flt K)
  z2EstDist : Vector3 (Flt K)
  deriving DecidableEq, Repr

namespace AttitudeESO
variable [Field K]

def init (bandwidth : Vector3 (Flt K)) : AttitudeESO K :=
  ⟨bandwidth * Flt.fin (2.0 : K),bandwidth.emult bandwidth,0,0⟩

def reset (eso : AttitudeESO K) : AttitudeESO K := {eso with z1EstOmega := 0, z2EstDist := 0}

def update (eso : AttitudeESO K) (omegaMeas uInput : Vector3 (Flt K)) (dt : Flt K) : AttitudeESO K :=
  let err := omegaMeas-eso.z1EstOmega
  let z1Dot := uInput+eso.z2EstDist+eso.beta1.emult err
  let z2Dot := eso.beta2.emult err
  {eso with z1EstOmega := eso.z1EstOmega + z1Dot * dt, z2EstDist := eso.z2EstDist + z2Dot * dt}

end AttitudeESO

namespace RateControl

structure Params (K : Type*) where
  gainP : Vector3 (Flt K)
  gainI : Vector3 (Flt K)
  limInt : Vector3 (Flt K)
  inertia : Matrix3 (Flt K)
  inertiaInv : Matrix3 (Flt K)
  kBeta : Flt K
  maxTorque : Flt K
  integralScale : Flt K
  tauSScale : Flt K
  tauSAxisScale : Vector3 (Flt K)
  tauSObsAxisScale : Vector3 (Flt K)
  tauSCtrlAxisScale : Vector3 (Flt K)
  tauSLimitNm : Flt K
  tauSFilterTau : Flt K
  deriving DecidableEq, Repr

structure Aux (K : Type*) where
  omegaRDot : Vector3 (Flt K)
  betaV : Vector3 (Flt K)
  tauS : Vector3 (Flt K)
  deriving DecidableEq, Repr

end RateControl

structure RateControl (K : Type*) where
  params : RateControl.Params K
  rateInt : Vector3 (Flt K)
  aux : RateControl.Aux K
  eso : AttitudeESO K
  tauSFilterValid : Bool
  tauSFiltered : Vector3 (Flt K)
  lastTorque : Vector3 (Flt K)
  saturationPositive : Vector3 Bool
  saturationNegative : Vector3 Bool
  deriving DecidableEq, Repr

namespace RateControl

instance [Field K] : Zero (Aux K) := ⟨⟨0,0,0⟩⟩

def Params.defaults [Field K] : Params K where
  gainP := ⟨.fin 0.24055,.fin 0.16968,.fin 0.16⟩
  gainI := ⟨.fin 0.12,.fin 0.12,.fin 0.05⟩
  limInt := ⟨.fin 0.18,.fin 0.18,.fin 0.12⟩
  inertia := .diag ⟨.fin 0.045,.fin 0.045,.fin 0.08⟩
  inertiaInv := .diag ⟨.fin (1 / 0.045),.fin (1 / 0.045),.fin (1 / 0.08)⟩
  kBeta := .fin 0.6753983577239936
  maxTorque := .fin 1.5689237741310784
  integralScale := .fin 0.12430763687449435
  tauSScale := .fin 0.07656162909208254
  tauSAxisScale := ⟨.fin 0.04196685956703164,.fin (-0.45179684856908414),.fin 0.3153866653296281⟩
  tauSObsAxisScale := ⟨.fin 1.1742838498096384,.fin 0.9975129600067933,1⟩
  tauSCtrlAxisScale := ⟨.fin 0.912981734991624,.fin 1.2030863580577495,1⟩
  tauSLimitNm := .fin 0.2777730262275409
  tauSFilterTau := .fin 0.13486946443819608

def defaultBandwidth [Field K] : Vector3 (Flt K) :=
  ⟨.fin 3.7450942682339265,.fin 2.272848954518408,.fin 0.8⟩

def fresh [Field K] (params : Params K) (bandwidth : Vector3 (Flt K)) : RateControl K where
  params := params
  rateInt := 0
  aux := 0
  eso := .init bandwidth
  tauSFilterValid := false
  tauSFiltered := 0
  lastTorque := 0
  saturationPositive := ⟨false,false,false⟩
  saturationNegative := ⟨false,false,false⟩

def setAttitudeAux (c : RateControl K) (omegaRDot betaV tauS : Vector3 (Flt K)) : RateControl K :=
  {c with aux := ⟨omegaRDot,betaV,tauS⟩}

def setSaturationStatus (c : RateControl K) (saturationPositive saturationNegative : Vector3 Bool) : RateControl K :=
  {c with saturationPositive := saturationPositive, saturationNegative := saturationNegative}

section
variable [Field K]

def resetIntegral (c : RateControl K) : RateControl K := {c with rateInt := 0}

def resetESO (c : RateControl K) : RateControl K :=
  {c with eso := c.eso.reset, lastTorque := 0, aux := 0}

def finiteOrZero (x : Flt K) : Flt K := if !x.isFinite then 0 else x

variable [LinearOrder K]

def radians400 : Flt K := .fin 6.981317

def updateIntegralAxis (saturationPositive saturationNegative : Bool)
    (rateInt gainI limInt rateError dt : Flt K) : Flt K :=
  let rateError := if saturationPositive then Math.min rateError 0 else rateError
  let rateError := if saturationNegative then Math.max rateError 0 else rateError
  let iFactor := rateError / radians400
  -- the integral action fades out towards large rate errors
  let iFactor := Math.max 0 (1 - iFactor * iFactor)
  let rateI := rateInt + iFactor * gainI * rateError * dt
  if rateI.isFinite then Math.constrain rateI (-limInt) limInt else rateInt

def updateIntegral (c : RateControl K) (rateError : Vector3 (Flt K)) (dt : Flt K) : Vector3 (Flt K) :=
  .ofAxes fun i => updateIntegralAxis (c.saturationPositive.get i) (c.saturationNegative.get i)
    (c.rateInt.get i) (c.params.gainI.get i) (c.params.limInt.get i) (rateError.get i) dt

def tauSBase (c : RateControl K) : Vector3 (Flt K) :=
  let tauSLimitNm := Math.max c.params.tauSLimitNm 0
  let tauS := (c.aux.tauS.map finiteOrZero).map (Math.constrain · (-tauSLimitNm) tauSLimitNm)
  (tauS * Math.constrain c.params.tauSScale 0 1).emult c.params.tauSAxisScale

/-- The low-pass filter of the arm compensation: the value in use, the state and whether that is valid. -/
def filterTauS (c : RateControl K) (dt : Flt K) (landed : Bool) : Vector3 (Flt K) × Vector3 (Flt K) × Bool :=
  if landed ∨ Math.constrain c.params.tauSScale 0 1 ≤ fltEpsilon ∨ Math.max c.params.tauSLimitNm 0 ≤ fltEpsilon then
    (0,0,false)
  else if !c.tauSFilterValid ∨ !dt.isFinite ∨ dt ≤ .fin 0.000001 ∨ c.params.tauSFilterTau ≤ fltEpsilon then
    (c.tauSBase,c.tauSBase,true)
  else
    let alpha := Math.constrain (dt / (c.params.tauSFilterTau + dt)) 0 1
    let tauSFiltered := c.tauSFiltered + (c.tauSBase - c.tauSFiltered) * alpha
    (tauSFiltered,tauSFiltered,true)

def torqueNorm (p : Params K) (torque : Vector3 (Flt K)) : Vector3 (Flt K) :=
  torque.map fun t => Math.constrain (t / Math.max p.maxTorque (.fin 0.001)) (-1) 1

/-- The acceleration estimate is an argument of the source that is not used. -/
def update (c : RateControl K) (rate rateSp _angularAccel : Vector3 (Flt K)) (dt : Flt K) (landed : Bool) :
    Vector3 (Flt K) × RateControl K :=
  let p := c.params
  let omegaRDot := c.aux.omegaRDot.map finiteOrZero
  let betaV := c.aux.betaV.map finiteOrZero
  let (tauS,tauSFiltered,tauSFilterValid) := c.filterTauS dt landed
  let tauSObs := tauS.emult p.tauSObsAxisScale
  let tauSCtrl := tauS.emult p.tauSCtrlAxisScale
  let eOmega := rateSp-rate
  let coriolisTerm := rate.cross (p.inertia.mulVec rate)
  let eso := if landed then c.eso.reset else c.eso
  let lastTorque := if landed then 0 else c.lastTorque
  let uNominal := p.inertiaInv.mulVec (lastTorque-coriolisTerm+tauSObs)
  let eso := eso.update rate uNominal dt
  let rateInt := if !landed ∧ dt.isFinite ∧ dt > .fin 0.000001 then c.updateIntegral eOmega dt else c.rateInt
  let inertiaTerm := p.inertia.mulVec (omegaRDot-eso.z2EstDist)
  let feedbackTerm := p.gainP.emult eOmega
  let integralTerm := rateInt * p.integralScale
  let betaTerm := -betaV * p.kBeta
  let torque := inertiaTerm+coriolisTerm+feedbackTerm+betaTerm+integralTerm-tauSCtrl
  let output := torqueNorm p torque
  (output,{ c with rateInt := rateInt, eso := eso, tauSFilterValid := tauSFilterValid,
                   tauSFiltered := tauSFiltered,
                   lastTorque := output * Math.max p.maxTorque (.fin 0.001) })

end
end RateControl
end AerialManipulator
