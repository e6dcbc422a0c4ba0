import Uam.RateControl

/-! What a landed cycle of the rate controller remembers of the flight. It clears all but the integrals. -/
namespace AerialManipulator.RateControl
open Numeric ControlMath
open Flt (fin fin_lt fin_neg one_eq)
variable {K : Type*}

inductive Call (K : Type*) where
  | update (rate rateSp angularAccel : Vector3 (Flt K)) (dt : Flt K) (landed : Bool)
  | setAttitudeAux (omegaRDot betaV tauS : Vector3 (Flt K))
  | setSaturationStatus (saturationPositive saturationNegative : Vector3 Bool)

section
variable [Field K] [LinearOrder K]

def call (c : RateControl K) : Call K → RateControl K
  | .update rate rateSp angularAccel dt landed => (c.update rate rateSp angularAccel dt landed).2
  | .setAttitudeAux omegaRDot betaV tauS => c.setAttitudeAux omegaRDot betaV tauS
  | .setSaturationStatus positive negative => c.setSaturationStatus positive negative

def history (params : Params K) (bandwidth : Vector3 (Flt K)) (calls : List (Call K)) : RateControl K :=
  calls.foldl call (fresh params bandwidth)

def landedOutput (c : RateControl K) (aux : Aux K) (rate rateSp angularAccel : Vector3 (Flt K)) (dt : Flt K) :
    Vector3 (Flt K) :=
  ((c.setAttitudeAux aux.omegaRDot aux.betaV aux.tauS).update rate rateSp angularAccel dt true).1

def ForgetsFlight (c₁ c₂ : RateControl K) : Prop :=
  ∀ aux rate rateSp angularAccel dt,
    landedOutput c₁ aux rate rateSp angularAccel dt = landedOutput c₂ aux rate rateSp angularAccel dt

def IntegralsAgree (c₁ c₂ : RateControl K) : Prop :=
  c₁.rateInt * c₁.params.integralScale = c₂.rateInt * c₂.params.integralScale

structure Kept (params : Params K) (bandwidth : Vector3 (Flt K)) (c : RateControl K) : Prop where
  params : c.params = params
  observer : c.eso.reset = .init bandwidth
  finite : c.rateInt.isFinite = true

lemma isFinite_updateIntegralAxis {rateInt : Flt K} (finite : rateInt.isFinite)
    (positive negative : Bool) (gainI limInt rateError dt : Flt K) :
    (updateIntegralAxis positive negative rateInt gainI limInt rateError dt).isFinite := by
  unfold updateIntegralAxis
  extract_lets _ _ _ _ rateI
  split
  next known => exact Math.isFinite_constrain known
  · exact finite

variable {c : RateControl K}

lemma isFinite_updateIntegral (finite : c.rateInt.isFinite)
    (rateError : Vector3 (Flt K)) (dt : Flt K) : (c.updateIntegral rateError dt).isFinite := by
  rw [Vector3.isFinite_iff_get] at finite ⊢
  intro i
  rw [updateIntegral,Vector3.get_ofAxes]
  exact isFinite_updateIntegralAxis (finite i) _ _ _ _ _ _

lemma update_rateInt (c : RateControl K) (rate rateSp angularAccel : Vector3 (Flt K)) (dt : Flt K)
    (landed : Bool) : (c.update rate rateSp angularAccel dt landed).2.rateInt =
      if !landed ∧ dt.isFinite ∧ dt > .fin 0.000001 then c.updateIntegral (rateSp-rate) dt
      else c.rateInt := rfl

lemma kept_call {params : Params K} {bw : Vector3 (Flt K)}
    (kept : Kept params bw c) (event : Call K) : Kept params bw (c.call event) := by
  cases event with
  | update rate rateSp angularAccel dt landed =>
    refine ⟨kept.params,?_,?_⟩
    · change (AttitudeESO.update (if landed then c.eso.reset else c.eso) _ _ _).reset = _
      cases landed <;> exact kept.observer
    · rw [call,update_rateInt]
      split
      · exact isFinite_updateIntegral kept.finite _ _
      · exact kept.finite
  | setAttitudeAux | setSaturationStatus => exact ⟨kept.params,kept.observer,kept.finite⟩

lemma kept_history (params : Params K) (bw : Vector3 (Flt K)) (calls : List (Call K)) :
    Kept params bw (history params bw calls) := by
  have start : Kept params bw (fresh params bw) := ⟨rfl,rfl,rfl⟩
  exact List.foldlRecOn calls call start fun c kept event _ => kept_call kept event

def landedTerms (params : Params K) (bandwidth : Vector3 (Flt K)) (aux : Aux K)
    (rate rateSp : Vector3 (Flt K)) (dt : Flt K) : Vector3 (Flt K) :=
  let coriolisTerm := rate.cross (params.inertia.mulVec rate)
  let uNominal := params.inertiaInv.mulVec
    (0-coriolisTerm+(0 : Vector3 (Flt K)).emult params.tauSObsAxisScale)
  let eso := (AttitudeESO.init bandwidth).update rate uNominal dt
  params.inertia.mulVec (aux.omegaRDot.map finiteOrZero - eso.z2EstDist) + coriolisTerm
    + params.gainP.emult (rateSp - rate) + -(aux.betaV.map finiteOrZero) * params.kBeta

lemma landedOutput_eq {params : Params K} {bw : Vector3 (Flt K)}
    (kept : Kept params bw c) (aux : Aux K) (rate rateSp angularAccel : Vector3 (Flt K)) (dt : Flt K) :
    landedOutput c aux rate rateSp angularAccel dt =
      torqueNorm params (landedTerms params bw aux rate rateSp dt +
        c.rateInt * params.integralScale - (0 : Vector3 (Flt K)).emult params.tauSCtrlAxisScale) := by
  have parameters := kept.params
  have observer := kept.observer
  subst parameters
  simp only [landedOutput,update,setAttitudeAux,filterTauS,landedTerms,true_or,if_true,
    Bool.not_true,Bool.false_eq_true,false_and,if_false,observer]

/-- Finite parameters with which every axis answers to rate setpoint or attitude error. -/
structure Params.Steerable (p : Params K) (bandwidth : Vector3 (Flt K)) : Prop where
  gainP : p.gainP.isFinite = true
  inertia : p.inertia.isFinite = true
  inertiaInv : p.inertiaInv.isFinite = true
  kBeta : p.kBeta.isFinite = true
  integralScale : p.integralScale.isFinite = true
  tauSObsAxisScale : p.tauSObsAxisScale.isFinite = true
  tauSCtrlAxisScale : p.tauSCtrlAxisScale.isFinite = true
  bandwidth : bandwidth.isFinite = true
  answers : ∀ i, p.kBeta ≠ 0 ∨ p.gainP.get i ≠ 0

section
variable {params : Params K} {bw : Vector3 (Flt K)}

omit [LinearOrder K] in
private lemma zero_combination : (0-0 : Vector3 (Flt K)) = 0 ∧ (0+0 : Vector3 (Flt K)) = 0 ∧
    (0 : Vector3 (Flt K)).cross 0 = 0 := by
  refine ⟨?_,?_,?_⟩ <;> ext <;> simp [Vector3.cross]

omit [LinearOrder K] in
lemma map_finiteOrZero {v : Vector3 (Flt K)} (finite : v.isFinite) : v.map finiteOrZero = v := by
  rw [Vector3.isFinite_iff] at finite
  ext <;> simp [finiteOrZero,finite]

omit [LinearOrder K] in
lemma landedTerms_still (usable : params.Steerable bw) {betaV : Vector3 (Flt K)}
    (finite : betaV.isFinite) (rateSp : Vector3 (Flt K)) :
    landedTerms params bw ⟨0,betaV,0⟩ 0 rateSp 1 =
      0 + params.gainP.emult (rateSp - 0) + -betaV * params.kBeta := by
  obtain ⟨difference,sum,cross⟩ := zero_combination (K := K)
  have estimate : ((AttitudeESO.init bw).update 0 0 1).z2EstDist = 0 := by
    have gain : (bw.emult bw).emult 0 = 0 := Vector3.emult_zero _ (by simp [usable.bandwidth])
    simp only [AttitudeESO.update,AttitudeESO.init,difference,gain]
    ext <;> simp
  have idle : (0 : Vector3 (Flt K)).map finiteOrZero = 0 := map_finiteOrZero rfl
  simp only [landedTerms,Matrix3.mulVec_zero usable.inertia,cross,difference,sum,
    Vector3.zero_emult _ usable.tauSObsAxisScale,Matrix3.mulVec_zero usable.inertiaInv,estimate,
    map_finiteOrZero finite,idle]

variable [IsStrictOrderedRing K]

lemma maxTorque_pos (p : Params K) : ∃ m, Math.max p.maxTorque (.fin 0.001) = .fin m ∧ 0 < m := by
  have floor : (0 : K) < 0.001 := by norm_num
  unfold Math.max
  split
  next above =>
    cases h : p.maxTorque with
    | nan => simp [h] at above
    | fin m =>
      rw [h] at above
      exact ⟨m,rfl,floor.trans above⟩
  · exact ⟨0.001,rfl,floor⟩

lemma landedOutput_still (usable : params.Steerable bw) {c : RateControl K}
    (kept : Kept params bw c) {betaV rateSp : Vector3 (Flt K)} (finite : betaV.isFinite)
    (i : Axis) {gain setpoint beta kBeta integral : K} (hg : params.gainP.get i = .fin gain)
    (hr : rateSp.get i = .fin setpoint) (hb : betaV.get i = .fin beta) (hk : params.kBeta = .fin kBeta)
    (hi : c.rateInt.get i * params.integralScale = .fin integral) :
    (landedOutput c ⟨0,betaV,0⟩ 0 rateSp 0 1).get i = Math.constrain (.fin (gain * setpoint - beta * kBeta + integral) /
        Math.max params.maxTorque (.fin 0.001)) (-1) 1 := by
  rw [landedOutput_eq kept,landedTerms_still usable finite,
    Vector3.zero_emult _ usable.tauSCtrlAxisScale]
  simp only [torqueNorm,Vector3.get_map,Vector3.get_sub,Vector3.get_add,Vector3.get_mul,
    Vector3.get_emult,Vector3.get_neg,Vector3.get_zero,hg,hr,hb,hk,hi]
  congr 2
  simp
  ring

lemma eq_zero_of_clamped_eq {t m : K} (positive : 0 < m)
    (equal : Math.constrain (fin t / .fin m) (-1) 1 = Math.constrain (fin (-t) / .fin m) (-1) 1) :
    t = 0 := by
  have opposite : -t / m = -(t / m) := neg_div m t
  simp only [Flt.fin_div,positive.ne',if_false,opposite,one_eq,fin_neg] at equal
  suffices zero : t / m = 0 by
    rcases div_eq_zero_iff.mp zero with top | bottom
    · exact top
    · exact absurd bottom positive.ne'
  generalize t / m = ratio at equal
  simp only [Math.constrain,gt_iff_lt,fin_lt] at equal
  split_ifs at equal <;> simp only [fin.injEq] at equal <;> linarith

lemma integrals_agree_axis (usable : params.Steerable bw)
    (kept₁ : Kept params bw c₁) (kept₂ : Kept params bw c₂) (forgets : ForgetsFlight c₁ c₂)
    (i : Axis) : c₁.rateInt.get i * params.integralScale = c₂.rateInt.get i * params.integralScale := by
  have known (c : RateControl K) (kept : Kept params bw c) : ∃ a, c.rateInt.get i * params.integralScale = .fin a := by
    rw [← Flt.isFinite_iff,Flt.isFinite_mul,(Vector3.isFinite_iff_get _).mp kept.finite i,
      usable.integralScale]
    rfl
  obtain ⟨a,ha⟩ := known c₁ kept₁
  obtain ⟨b,hb⟩ := known c₂ kept₂
  obtain ⟨gain,hg⟩ := Flt.isFinite_iff.mp ((Vector3.isFinite_iff_get _).mp usable.gainP i)
  obtain ⟨k,hk⟩ := Flt.isFinite_iff.mp usable.kBeta
  obtain ⟨m,hm,positive⟩ := maxTorque_pos params
  -- a finite stimulus that moves the axis to the middle of the two integrals
  obtain ⟨setpoint,beta,centred⟩ : ∃ setpoint beta, gain * setpoint - beta * k = -(a + b) / 2 := by
    rcases usable.answers i with attitude | rate
    · have nonzero : k ≠ 0 := by simpa [hk] using attitude
      exact ⟨0,(a + b) / 2 / k,by field_simp; ring⟩
    · have nonzero : gain ≠ 0 := by simpa [hg] using rate
      exact ⟨-(a + b) / 2 / gain,0,by field_simp; ring⟩
  have stimulus : ∀ v : K, (⟨.fin v,.fin v,.fin v⟩ : Vector3 (Flt K)).get i = .fin v := by
    intro v
    cases i <;> rfl
  have same := congrArg (·.get i) (forgets ⟨0,⟨.fin beta,.fin beta,.fin beta⟩,0⟩ 0
    ⟨.fin setpoint,.fin setpoint,.fin setpoint⟩ 0 1)
  simp only [landedOutput_still usable kept₁ rfl i hg (stimulus setpoint) (stimulus beta) hk ha,
    landedOutput_still usable kept₂ rfl i hg (stimulus setpoint) (stimulus beta) hk hb,hm,centred] at same
  have first : -(a + b) / 2 + a = (a - b) / 2 := by ring
  have second : -(a + b) / 2 + b = -((a - b) / 2) := by ring
  rw [first,second] at same
  have zero := eq_zero_of_clamped_eq positive same
  rw [ha,hb]
  congr 1
  linarith

lemma defaults_steerable : (Params.defaults : Params K).Steerable defaultBandwidth where
  gainP := rfl
  inertia := rfl
  inertiaInv := rfl
  kBeta := rfl
  integralScale := rfl
  tauSObsAxisScale := rfl
  tauSCtrlAxisScale := rfl
  bandwidth := rfl
  answers i := .inl (by simp only [Params.defaults,Flt.zero_eq,ne_eq,fin.injEq]; norm_num)

end
end

/-- Two histories are alike on the ground if their integral terms agree; with a steerable axis model only then. -/
theorem landed_forgets_iff_integrals_agree (params : Params ℝ) (bandwidth : Vector3 (Flt ℝ))
    (first second : List (Call ℝ)) :
    (IntegralsAgree (history params bandwidth first) (history params bandwidth second) →
      ForgetsFlight (history params bandwidth first) (history params bandwidth second)) ∧
    (params.Steerable bandwidth → ForgetsFlight (history params bandwidth first) (history params bandwidth second) →
        IntegralsAgree (history params bandwidth first) (history params bandwidth second)) := by
  have kept₁ := kept_history params bandwidth first
  have kept₂ := kept_history params bandwidth second
  constructor
  · intro agree aux rate rateSp angularAccel dt
    rw [IntegralsAgree,kept₁.params,kept₂.params] at agree
    rw [landedOutput_eq kept₁,landedOutput_eq kept₂,agree]
  · intro steerable forgets
    rw [IntegralsAgree,kept₁.params,kept₂.params]
    apply Vector3.ext_get
    intro i
    simpa using integrals_agree_axis steerable kept₁ kept₂ forgets i

def turnedOnGround [Field K] : List (Call K) :=
  [.setAttitudeAux ⟨1,1,1⟩ 0 ⟨1,1,1⟩,.update ⟨1,0,0⟩ 0 0 (.fin 0.01) true]

theorem landed_forgets_ground : ForgetsFlight (history (.defaults : Params ℝ) defaultBandwidth [])
        (history .defaults defaultBandwidth turnedOnGround) ∧
      IntegralsAgree (history (.defaults : Params ℝ) defaultBandwidth [])
        (history .defaults defaultBandwidth turnedOnGround) :=
  have both := landed_forgets_iff_integrals_agree (.defaults : Params ℝ) defaultBandwidth [] turnedOnGround
  have forgets := both.1 (by simp [IntegralsAgree,history,turnedOnGround,call,update_rateInt]; rfl)
  ⟨forgets,both.2 defaults_steerable forgets⟩

def rolled [Field K] : List (Call K) := [.update 0 ⟨.fin 3.4906585,0,0⟩ 0 (.fin 0.01) false]

lemma rolled_integral : (history (.defaults : Params ℝ) defaultBandwidth rolled).rateInt.x =
    .fin (0.75 * 0.12 * 3.4906585 * 0.01) := by
  have active : (fin 0.01 : Flt ℝ) > .fin 0.000001 := by
    norm_num
  have run : history (.defaults : Params ℝ) defaultBandwidth rolled =
      ((fresh .defaults defaultBandwidth).update 0 ⟨.fin 3.4906585,0,0⟩ 0 (.fin 0.01) false).2 := rfl
  rw [run,update_rateInt,if_pos ⟨rfl,rfl,active⟩]
  simp only [updateIntegral,Vector3.ofAxes,Vector3.get,fresh,Params.defaults,Vector3.sub_x,Vector3.zero_x,
    updateIntegralAxis,radians400,Math.max,Math.constrain,Bool.false_eq_true,if_false,
    Flt.fin_sub,Flt.fin_div,fin_neg,one_eq,Flt.zero_eq,gt_iff_lt,fin_lt]
  norm_num

theorem landed_remembers_roll : landedOutput (history (.defaults : Params ℝ) defaultBandwidth []) 0 0 0 0 1 ≠
      landedOutput (history .defaults defaultBandwidth rolled) 0 0 0 0 1 := by
  intro same
  have rest : (0 : Vector3 (Flt ℝ)).isFinite := rfl
  have still : (0 : Vector3 (Flt ℝ)).get .x = .fin 0 := rfl
  have empty : (history (.defaults : Params ℝ) defaultBandwidth []).rateInt.get .x *
      (.defaults : Params ℝ).integralScale = .fin (0 * 0.12430763687449435) := rfl
  have filled : (history (.defaults : Params ℝ) defaultBandwidth rolled).rateInt.get .x *
      (.defaults : Params ℝ).integralScale = .fin (0.75 * 0.12 * 3.4906585 * 0.01 * 0.12430763687449435) := by
    change (history (.defaults : Params ℝ) defaultBandwidth rolled).rateInt.x * _ = _
    rw [rolled_integral]
    rfl
  have left := landedOutput_still defaults_steerable (kept_history (.defaults : Params ℝ) defaultBandwidth [])
    rest .x rfl still rfl rfl empty
  have right := landedOutput_still defaults_steerable (kept_history (.defaults : Params ℝ) defaultBandwidth rolled)
    rest .x rfl still rfl rfl filled
  have equal := left.symm.trans ((congrArg (·.get .x) same).trans right)
  simp only [Params.defaults,Math.max,Math.constrain,one_eq,fin_neg,gt_iff_lt,fin_lt] at equal
  norm_num at equal

end AerialManipulator.RateControl
