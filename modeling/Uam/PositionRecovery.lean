import Uam.PositionFinite

/-! Recovery of the position controller from lost estimates. A NaN that reaches the memory of
the observer never leaves it. -/
namespace AerialManipulator.PositionControl
open Numeric ControlMath Vector3
variable {K : Type*}

structure Cycle (K : Type*) where
  settings : Settings K
  states : PositionControlStates K
  setpoint : LocalPositionSetpoint K
  dt : Flt K

def prepare (c : PositionControl K) (cycle : Cycle K) : PositionControl K :=
  ({c with settings := cycle.settings}.setState cycle.states).setInputSetpoint cycle.setpoint

namespace Cycle

def Finite (cycle : Cycle K) : Prop :=
  cycle.states.position.isFinite = true ∧ cycle.states.velocity.isFinite = true ∧
    cycle.states.acceleration.isFinite = true ∧ cycle.states.yaw.isFinite = true ∧
    cycle.setpoint.position.isFinite = true ∧ cycle.setpoint.velocity.isFinite = true ∧
    cycle.setpoint.acceleration.isFinite = true ∧ cycle.setpoint.yaw.isFinite = true ∧
    cycle.setpoint.yawspeed.isFinite = true ∧ cycle.dt.isFinite = true

section
variable [Field K]

def valid (cycle : Cycle K) : Bool := ((fresh cycle.settings 0).prepare cycle).inputValid

lemma inputValid_prepare (c : PositionControl K) (cycle : Cycle K) : (c.prepare cycle).inputValid = cycle.valid := rfl

variable [LinearOrder K] [Libm K]

/-- An accepted cycle feeds no NaN to the observer: the horizontal velocity is estimated and limited. -/
def Tracked (cycle : Cycle K) : Prop :=
  cycle.valid = true → cycle.states.position.isFinite = true ∧
    cycle.states.velocity.x.isFinite = true ∧ cycle.states.velocity.y.isFinite = true ∧
    (cycle.setpoint.position.x.isFinite = true ∨ cycle.settings.limVelHorizontal ≤ cycle.setpoint.velocity.xy.norm)

end
end Cycle

section
variable {c : PositionControl K} {cycle : Cycle K}

def FiniteOutcome (c : PositionControl K) : Prop :=
  c.eso.z1.isFinite = true ∧ c.eso.z2.isFinite = true ∧ c.eso.z3.isFinite = true ∧
    c.esoDisturbance.isFinite = true ∧ c.accSp.isFinite = true ∧ c.thrSp.isFinite = true

def observerFinite (c : PositionControl K) : Bool :=
  c.eso.z1.isFinite && c.eso.z2.isFinite && c.eso.z3.isFinite && c.esoInput.isFinite

lemma observerFinite_iff (c : PositionControl K) : c.observerFinite ↔
    c.eso.z1.isFinite ∧ c.eso.z2.isFinite ∧ c.eso.z3.isFinite ∧ c.esoInput.isFinite := by
  simp [observerFinite,and_assoc]

structure Running (c : PositionControl K) : Prop where
  enabled : c.esoUpdateEnabled = true
  prev : c.esoUpdateEnabledPrev = true
  beta1 : c.eso.beta1.isFinite = true
  beta2 : c.eso.beta2.isFinite = true
  beta3 : c.eso.beta3.isFinite = true
  posInt : c.posInt.isFinite = true

lemma paired_of_inputValid (valid : c.inputValid) :
    c.posSp.x.isFinite = c.posSp.y.isFinite ∧ c.velSp.x.isFinite = c.velSp.y.isFinite := by
  simp only [inputValid,Bool.and_eq_true,beq_iff_eq] at valid
  exact ⟨valid.1.1.1.1.1.2,valid.1.1.1.1.2⟩

lemma running_prepare (running : Running c) (cycle : Cycle K) : Running (c.prepare cycle) :=
  ⟨running.enabled,running.prev,running.beta1,running.beta2,running.beta3,running.posInt⟩

variable [Field K]

lemma isFinite_update_z2 (eso : PositionESO K) (pos u : Vector3 (Flt K)) (dt : Flt K) :
    (eso.update pos u dt).z2.isFinite = (eso.z2.isFinite && (eso.z3.isFinite && u.isFinite &&
      (eso.beta2.isFinite && (pos.isFinite && eso.z1.isFinite)) && dt.isFinite)) := by
  simp [PositionESO.update]

lemma running_fresh (settings : Settings K) (bw : Vector3 (Flt K)) (finite : bw.isFinite) :
    Running (fresh settings bw) ∧ (fresh settings bw).observerFinite := by
  refine ⟨⟨rfl,rfl,?_,?_,?_,rfl⟩,rfl⟩ <;>
    simp [fresh,PositionESO.setBandwidth,finite]

variable [LinearOrder K] [Libm K]

def runCycle (c : PositionControl K) (cycle : Cycle K) : PositionControl K :=
  ((c.prepare cycle).update cycle.dt).2

lemma control_eso (running : Running c) (dt : Flt K) : (c.control dt).eso = c.eso.update c.pos c.esoInput dt ∧
      (c.control dt).esoDisturbance = (c.eso.update c.pos c.esoInput dt).z3 := by
  have edge : c.reinitialises = false := by simp [reinitialises,running.prev]
  have observed : (c.observe dt).eso = c.eso.update c.pos c.esoInput dt ∧
      (c.observe dt).esoDisturbance = (c.eso.update c.pos c.esoInput dt).z3 := by
    simp [observe,observerBeforeAdvance,edge,running.enabled]
  exact observed

section
variable (c)

lemma runCycle_invalid (invalid : cycle.valid = false) :
    c.runCycle cycle = {c.prepare cycle with esoUpdateEnabledPrev := c.esoUpdateEnabled} := by
  rw [runCycle,update_invalid (by rwa [Cycle.inputValid_prepare])]
  rfl

lemma runCycle_valid (valid : cycle.valid) : c.runCycle cycle = {(c.prepare cycle).control cycle.dt with
      esoUpdateEnabledPrev := c.esoUpdateEnabled} := by
  rw [runCycle,update_valid (by rwa [Cycle.inputValid_prepare])]
  rfl

lemma observerFinite_runCycle_valid (valid : cycle.valid) :
    (c.runCycle cycle).observerFinite = ((c.prepare cycle).control cycle.dt).observerFinite := by
  rw [runCycle_valid c valid]
  generalize (c.prepare cycle).control cycle.dt = after
  rfl

end

lemma Cycle.Finite.tracked (finite : cycle.Finite) : cycle.valid ∧ cycle.Tracked := by
  obtain ⟨pos,vel,acc,-,posSp,velSp,accSp,-⟩ := finite
  rw [isFinite_iff] at vel acc posSp velSp accSp
  refine ⟨?_,fun _ => ⟨pos,vel.1,vel.2.1,.inl posSp.1⟩⟩
  rw [isFinite_iff] at pos
  simp [Cycle.valid,inputValid,prepare,setInputSetpoint,setState,pos,vel,acc,posSp,velSp,accSp]

lemma isFinite_accSp_of_input (c : PositionControl K) (dt : Flt K) (input : (c.control dt).esoInput.isFinite) :
    (c.control dt).accSp.x.isFinite ∧ (c.control dt).accSp.y.isFinite := by
  by_contra lost
  have unknown : (c.control dt).accSp.x = .nan ∨ (c.control dt).accSp.y = .nan := by
    rw [← Flt.not_isFinite_iff,← Flt.not_isFinite_iff]
    simpa [or_iff_not_imp_left] using lost
  have nan := (velocityControl_lost ((c.observe dt).positionControl dt) unknown).2
  rw [isFinite_iff] at input
  have x : ((c.observe dt).positionControl dt).velocityControl.esoInput.x.isFinite := input.1
  simp [nan] at x

variable [IsStrictOrderedRing K] [LawfulLibm K]

lemma running_runCycle (running : Running c)
    (usable : cycle.settings.Usable) (time : cycle.dt.isFinite) : Running (c.runCycle cycle) := by
  have prepared := running_prepare running cycle
  cases valid : cycle.valid with
  | false =>
    rw [runCycle_invalid c valid]
    exact {prepared with enabled := running.enabled, prev := running.enabled}
  | true =>
    have integral := isFinite_posInt (c.prepare cycle) usable time prepared.posInt
      (paired_of_inputValid valid).2
    have observer := (control_eso prepared cycle.dt).1
    rw [runCycle_valid c valid]
    refine ⟨running.enabled,running.enabled,?_,?_,?_,integral⟩
    · exact (congrArg (·.beta1.isFinite) observer).trans running.beta1
    · exact (congrArg (·.beta2.isFinite) observer).trans running.beta2
    · exact (congrArg (·.beta3.isFinite) observer).trans running.beta3

structure Fed (c : PositionControl K) : Prop where
  observer : c.observerFinite = true
  pos : c.pos.isFinite = true
  velX : c.vel.x.isFinite = true
  velY : c.vel.y.isFinite = true
  commanded : c.HorizontallyCommanded

lemma Fed.of_control (running : Running c) (usable : c.settings.Usable)
    (valid : c.inputValid) (finite : (c.control dt).observerFinite) :
    c.Fed := by
  obtain ⟨-,z2,-,input⟩ := (observerFinite_iff _).mp finite
  rw [(control_eso running dt).1,isFinite_update_z2] at z2
  simp only [Bool.and_eq_true] at z2
  obtain ⟨velocity,⟨⟨disturbance,old⟩,-,pos,position⟩,-⟩ := z2
  have acceleration := isFinite_accSp_of_input c dt input
  rw [control_accSp] at acceleration
  simp only [sub_x,sub_y,add_x,add_y,emult_x,emult_y,
    Flt.isFinite_sub,Flt.isFinite_add,Flt.isFinite_mul,Bool.and_eq_true] at acceleration
  obtain ⟨⟨⟨⟨-,⟨limited,velX⟩,-⟩,-⟩,-⟩,⟨⟨⟨-,⟨-,velY⟩,-⟩,-⟩,-⟩⟩ := acceleration
  refine ⟨(observerFinite_iff _).mpr ⟨position,velocity,disturbance,old⟩,pos,velX,velY,?_⟩
  by_contra uncommanded
  simp only [HorizontallyCommanded,not_or,Bool.not_eq_true] at uncommanded
  have paired := paired_of_inputValid valid
  have positive : 0 < c.settings.limVelHorizontal := by
    obtain ⟨m,equal,positive⟩ := usable.limVelHorizontal_pos
    rw [equal]
    exact positive
  have lost := velSpLimited_lost c (Flt.not_isFinite_iff.mp uncommanded.1)
    (Flt.not_isFinite_iff.mp (paired.1 ▸ uncommanded.1)) paired.2 positive uncommanded.2
  have nan : c.velSpLimited.x = .nan := congrArg Vector2.x lost
  simp [nan] at limited

lemma Fed.control (fed : c.Fed) (running : Running c) (usable : c.settings.Usable) (valid : c.inputValid) {dt : Flt K}
    (time : dt.isFinite) :
    (c.control dt).observerFinite ∧ (c.control dt).esoDisturbance.isFinite ∧
      (c.control dt).thrSp.isFinite ∧
      (c.vel.z.isFinite → (c.control dt).accSp.isFinite) := by
  obtain ⟨z1,z2,z3,input⟩ := (observerFinite_iff _).mp fed.observer
  have paired := paired_of_inputValid valid
  have limited := isFinite_velSpLimited c usable running.posInt fed.pos paired.1 paired.2 fed.commanded
  have advanced : (c.eso.update c.pos c.esoInput dt).z1.isFinite ∧ (c.eso.update c.pos c.esoInput dt).z2.isFinite ∧
      (c.eso.update c.pos c.esoInput dt).z3.isFinite := by
    simp [PositionESO.update,z1,z2,z3,input,fed.pos,running.beta1,running.beta2,running.beta3,time]
  obtain ⟨observer,disturbance⟩ := control_eso running dt
  have estimate : (c.control dt).esoDisturbance.isFinite := by
    rw [disturbance]
    exact advanced.2.2
  have forward := (isFinite_iff _).mp (isFinite_setZeroIfNan c.accSp)
  have gains := (isFinite_iff _).mp usable.gainVelP
  have turning := (isFinite_iff _).mp (isFinite_centrifugal usable)
  have estimates := (isFinite_iff _).mp estimate
  have wanted := (isFinite_iff _).mp limited
  have x : (c.control dt).accSp.x.isFinite := by
    simp [control_accSp,forward,gains,turning,estimates,wanted,fed.velX]
  have y : (c.control dt).accSp.y.isFinite := by
    simp [control_accSp,forward,gains,turning,estimates,wanted,fed.velY]
  obtain ⟨thrust,fedInput⟩ := isFinite_thrust c usable dt x y
  refine ⟨?_,estimate,thrust,?_⟩
  · rw [observerFinite_iff,observer]
    exact ⟨advanced.1,advanced.2.1,advanced.2.2,fedInput⟩
  · intro vertical
    rw [isFinite_iff]
    exact ⟨x,y,by simp [control_accSp,forward,gains,turning,estimates,wanted,vertical]⟩

lemma observerFinite_runCycle (running : Running c) (usable : cycle.settings.Usable) (time : cycle.dt.isFinite) :
    (c.runCycle cycle).observerFinite ↔ c.observerFinite ∧ cycle.Tracked := by
  cases valid : cycle.valid with
  | false =>
    rw [runCycle_invalid c valid]
    have tracked : cycle.Tracked := fun accepted => absurd accepted (by simp [valid])
    exact ⟨fun finite => ⟨finite,tracked⟩,fun both => both.1⟩
  | true =>
    have prepared := running_prepare running cycle
    rw [observerFinite_runCycle_valid c valid]
    constructor
    · intro finite
      have fed := Fed.of_control prepared usable valid finite
      exact ⟨fed.observer,fun _ => ⟨fed.pos,fed.velX,fed.velY,fed.commanded⟩⟩
    · rintro ⟨finite,tracked⟩
      obtain ⟨pos,velX,velY,commanded⟩ := tracked valid
      have fed : (c.prepare cycle).Fed := ⟨finite,pos,velX,velY,commanded⟩
      exact (fed.control prepared usable valid time).1

lemma observerFinite_run (cycles : List (Cycle K)) (running : Running c)
    (usable : ∀ cycle ∈ cycles, cycle.settings.Usable ∧ cycle.dt.isFinite) :
    Running (cycles.foldl runCycle c) ∧ ((cycles.foldl runCycle c).observerFinite ↔
      c.observerFinite ∧ ∀ cycle ∈ cycles, cycle.Tracked) := by
  induction cycles generalizing c with
  | nil => exact ⟨running,by simp⟩
  | cons cycle rest ih =>
    obtain ⟨settings,time⟩ := usable cycle (by simp)
    obtain ⟨kept,finite⟩ := ih (running_runCycle running settings time)
      (fun next member => usable next (by simp [member]))
    refine ⟨kept,?_⟩
    rw [List.foldl_cons,finite,observerFinite_runCycle running settings time,List.forall_mem_cons,
      and_assoc]

lemma finiteOutcome_iff (running : Running c) (usable : cycle.settings.Usable) (finite : cycle.Finite) :
    FiniteOutcome (c.runCycle cycle) ↔ c.observerFinite := by
  have prepared := running_prepare running cycle
  obtain ⟨valid,tracked⟩ := finite.tracked
  obtain ⟨-,vel,-,-,-,-,-,-,-,time⟩ := finite
  rw [runCycle_valid c valid]
  constructor
  · rintro ⟨-,z2,-⟩
    have advanced : (c.eso.update cycle.states.position c.esoInput cycle.dt).z2.isFinite :=
      (congrArg (·.z2.isFinite) (control_eso prepared cycle.dt).1).symm.trans z2
    rw [isFinite_update_z2] at advanced
    simp only [Bool.and_eq_true] at advanced
    obtain ⟨velocity,⟨⟨disturbance,input⟩,-,-,position⟩,-⟩ := advanced
    exact (observerFinite_iff c).mpr ⟨position,velocity,disturbance,input⟩
  · intro observer
    obtain ⟨pos,velX,velY,commanded⟩ := tracked valid
    have fed : (c.prepare cycle).Fed := ⟨observer,pos,velX,velY,commanded⟩
    obtain ⟨after,disturbance,thrust,acceleration⟩ := fed.control prepared usable valid time
    obtain ⟨z1,z2,z3,-⟩ := (observerFinite_iff _).mp after
    exact ⟨z1,z2,z3,disturbance,acceleration ((isFinite_iff _).mp vel).2.2,thrust⟩

omit [Libm K] [LawfulLibm K] in
lemma defaults_usable : (Settings.defaults : Settings K).Usable where
  gainPosP := rfl
  gainPosI := rfl
  gainVelP := rfl
  limVelHorizontal := by
    change (0.001 : K) ≤ 3.35
    norm_num
  limThrMin := rfl
  limThrXyMargin := by
    change (0.3 : K) * 0.3 ≤ 1 * 1
    norm_num
  limTilt := rfl
  hoverThrust := rfl
  bodyRate := rfl
  sysComPos := rfl
  attitude := rfl
  rotation := by simp [Settings.defaults,Quat.normSq]

end

/-- A cycle with finite inputs has a finite outcome exactly if every accepted cycle before was tracked. -/
theorem finite_again_iff_tracked (settings : Settings ℝ) (bw : Vector3 (Flt ℝ))
    (bandwidth : bw.isFinite = true) (before : List (Cycle ℝ)) (last : Cycle ℝ)
    (usable : ∀ cycle ∈ before, cycle.settings.Usable ∧ cycle.dt.isFinite = true)
    (usableLast : last.settings.Usable) (finite : last.Finite) :
    FiniteOutcome ((before.foldl runCycle (fresh settings bw)).runCycle last) ↔ ∀ cycle ∈ before, cycle.Tracked := by
  obtain ⟨running,start⟩ := running_fresh settings bw bandwidth
  obtain ⟨kept,observer⟩ := observerFinite_run before running usable
  rw [finiteOutcome_iff kept usableLast finite,observer]
  exact and_iff_right start

def holding [Field K] : Cycle K := ⟨.defaults,⟨0,0,0,0⟩,⟨0,0,0,0,0,0⟩,.fin 0.004⟩

def withoutPosition [Field K] : Cycle K :=
  ⟨.defaults,⟨⟨.nan,.nan,.nan⟩,0,0,0⟩,⟨⟨.nan,.nan,.nan⟩,⟨.fin 4.0,0,0⟩,0,0,0,0⟩,.fin 0.004⟩

lemma holding_finite [Field K] : (holding : Cycle K).Finite := ⟨rfl,rfl,rfl,rfl,rfl,rfl,rfl,rfl,rfl,rfl⟩

theorem finite_after_holding :
    FiniteOutcome (([(holding : Cycle ℝ)].foldl runCycle (fresh .defaults ⟨.fin 8,.fin 8,.fin 4⟩)).runCycle holding) :=
  (finite_again_iff_tracked .defaults ⟨.fin 8,.fin 8,.fin 4⟩ rfl [holding] holding
    (by simpa using ⟨defaults_usable,rfl⟩) defaults_usable holding_finite).mpr
      (by simpa using (holding_finite (K := ℝ)).tracked.2)

theorem lost_after_withoutPosition :
    (holding : Cycle ℝ).Finite ∧ ¬ FiniteOutcome (([(withoutPosition : Cycle ℝ)].foldl runCycle
      (fresh .defaults ⟨.fin 8,.fin 8,.fin 4⟩)).runCycle holding) := by
  refine ⟨holding_finite,?_⟩
  obtain ⟨running,-⟩ := running_fresh (.defaults : Settings ℝ) ⟨.fin 8,.fin 8,.fin 4⟩ rfl
  obtain ⟨kept,observer⟩ := observerFinite_run [withoutPosition] running
    (by simpa using ⟨defaults_usable,rfl⟩)
  rw [finiteOutcome_iff kept defaults_usable holding_finite,observer]
  rintro ⟨-,tracked⟩
  obtain ⟨known,-⟩ := tracked withoutPosition (by simp) rfl
  exact absurd known (by decide)

end AerialManipulator.PositionControl
