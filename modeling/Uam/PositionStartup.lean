import Uam.PositionControl
import Uam.Library.Runs

/-! Start-up of the position observer over whole runs, which carry whether the previous
`update` advanced the observer. -/
namespace AerialManipulator.PositionControl
open Numeric Runs
variable {K : Type*} [Field K] [LinearOrder K] [Libm K]

inductive Call (K : Type*) where
  | setESOUpdateEnabled (enabled : Bool)
  | setState (states : PositionControlStates K)
  | setInputSetpoint (setpoint : LocalPositionSetpoint K)
  | resetIntegral
  | update (dt : Flt K)

def call (c : PositionControl K) : Call K → PositionControl K
  | .setESOUpdateEnabled enabled => c.setESOUpdateEnabled enabled
  | .setState states => c.setState states
  | .setInputSetpoint setpoint => c.setInputSetpoint setpoint
  | .resetIntegral => c.resetIntegral
  | .update dt => (c.update dt).2

def advances (c : PositionControl K) : Bool := c.inputValid && c.esoUpdateEnabled

/-- The controller, whether the last `update` advanced the observer, or was skipped for
invalid inputs with it enabled. -/
structure Watched (K : Type*) where
  control : PositionControl K
  lastAdvanced : Bool
  skipped : Bool

namespace Watched

def step (w : Watched K) (event : Call K) : Watched K where
  control := w.control.call event
  lastAdvanced := match event with
    | .update _ => w.control.advances
    | _ => w.lastAdvanced
  skipped := match event with
    | .update _ => w.control.esoUpdateEnabled && !w.control.inputValid
    | .resetIntegral => false
    | _ => w.skipped

/-- `first` says whether the construction stands for an advance, so that the first `update` is not yet a start. -/
def init (settings : Settings K) (bw : Vector3 (Flt K)) (first : Bool) : Watched K :=
  ⟨fresh settings bw,first,!first⟩

def StartsMeasured (w : Watched K) : Call K → Prop
  | .update _ => w.control.advances = true → w.lastAdvanced = false →
      w.control.reinitialises = true ∧ w.control.observerBeforeAdvance.z1 = w.control.pos ∧
        w.control.observerBeforeAdvance.z2 = w.control.vel ∧ w.control.observerBeforeAdvance.z3 = 0
  | _ => True

def StartsUnskipped (w : Watched K) : Call K → Prop
  | .update _ => w.control.advances = true → w.skipped = false
  | _ => True

structure Detector (w : Watched K) : Prop where
  missed : w.skipped = true → w.control.esoUpdateEnabledPrev = true ∧ w.lastAdvanced = false
  caught : w.skipped = false → w.lastAdvanced = false → w.control.esoUpdateEnabledPrev = false

omit [LinearOrder K] [Libm K] in
lemma detector_init (settings : Settings K) (bw : Vector3 (Flt K)) (first : Bool) :
    Detector (init settings bw first) := by
  cases first
  · exact ⟨fun _ => ⟨rfl,rfl⟩,by simp [init]⟩
  · exact ⟨by simp [init],by simp [init]⟩

lemma prev_call (c : PositionControl K) (event : Call K) : (c.call event).esoUpdateEnabledPrev = match event with
      | .update _ => c.esoUpdateEnabled
      | .resetIntegral => false
      | _ => c.esoUpdateEnabledPrev := by
  cases event with
  | update dt =>
    by_cases valid : c.inputValid = true
    · simp [call,update_valid valid]
    · simp [call,update_invalid (by simpa using valid)]
  | _ => rfl

lemma detector_step (w : Watched K) (event : Call K) (remembered : Detector w) : Detector (w.step event) := by
  have prev := prev_call w.control event
  cases event with
  | update dt =>
    constructor
    · intro skipped
      have both : w.control.esoUpdateEnabled ∧ w.control.inputValid = false := by simpa [step] using skipped
      exact ⟨prev.trans both.1,by simp [step,advances,both.2]⟩
    · intro unskipped idle
      refine prev.trans ?_
      simp only [step,advances] at unskipped idle
      cases h : w.control.esoUpdateEnabled <;> simp_all
  | resetIntegral => exact ⟨by simp [step],fun _ _ => rfl⟩
  | _ => exact ⟨remembered.missed,remembered.caught⟩

omit [LinearOrder K] [Libm K] in
lemma startsMeasured_iff (w : Watched K) (event : Call K) (remembered : Detector w) :
    StartsMeasured w event ↔ StartsUnskipped w event := by
  cases event with
  | update dt =>
    constructor
    · intro measured advance
      by_contra skipped
      have missed := remembered.missed (by simpa using skipped)
      obtain ⟨edge,-⟩ := measured advance missed.2
      simp [reinitialises,missed.1] at edge
    · intro unskipped advance idle
      have caught := remembered.caught (unskipped advance) idle
      have enabled : w.control.esoUpdateEnabled := by
        simp only [advances,Bool.and_eq_true] at advance
        exact advance.2
      have edge : w.control.reinitialises := by simp [reinitialises,enabled,caught]
      refine ⟨edge,?_⟩
      rw [observerBeforeAdvance,if_pos edge]
      exact ⟨rfl,rfl,rfl⟩
  | _ => exact Iff.rfl

/-- The observer starts from the measurement exactly if no advance follows on an `update` that was skipped. -/
theorem starts_measured_iff_unskipped (settings : Settings K) (bw : Vector3 (Flt K)) (first : Bool)
    (calls : List (Call K)) :
    Along step StartsMeasured (init settings bw first) calls ↔
      Along step StartsUnskipped (init settings bw first) calls :=
  along_congr_invariant Detector detector_step startsMeasured_iff
    (detector_init settings bw first) calls

def atRest : PositionControlStates K := ⟨⟨0,0,.fin (-1)⟩,0,0,0⟩

def hold : LocalPositionSetpoint K := ⟨⟨0,0,.fin (-1)⟩,0,0,0,0,0⟩

/-- One cycle without a setpoint, then a valid cycle: the observer starts from zero. -/
theorem start_after_invalid_cycle_unmeasured :
    ¬ Along step StartsMeasured (init (.defaults : Settings ℝ) ⟨.fin 8,.fin 8,.fin 4⟩ true)
      [.setState atRest,.setInputSetpoint resetSetpointToNan,.update (.fin 0.004),
        .setInputSetpoint hold,.update (.fin 0.004)] := by
  rintro ⟨-,-,-,-,start,-⟩
  obtain ⟨edge,-⟩ := start rfl rfl
  exact absurd edge (by decide)

end Watched
end AerialManipulator.PositionControl
