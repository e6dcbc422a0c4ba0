import Uam.PositionControl
import Uam.RateControl
import Uam.Library.LinearStep
import Mathlib.LinearAlgebra.Matrix.Notation

/-! The estimation errors of the two observers against a plant with a constant disturbance. One step
multiplies the error by a number plus a nilpotent matrix. -/
namespace AerialManipulator
open Numeric Filter Topology Matrix Vector3
variable {K : Type*} [Field K]

namespace PositionESO

def plant (p v d : Vector3 K) (u : ℕ → Vector3 K) (dt : K) : ℕ → Vector3 K × Vector3 K
  | 0 => (p,v)
  | n+1 =>
    let s := plant p v d u dt n
    (s.1 + s.2 * dt,s.2 + (u n + d) * dt)

def run (eso : PositionESO K) (pos u : ℕ → Vector3 K) (dt : K) : ℕ → PositionESO K
  | 0 => eso
  | n+1 => (run eso pos u dt n).update ((pos n).map .fin) ((u n).map .fin) (.fin dt)

def errorMatrix (w dt : ℝ) : Matrix (Fin 3) (Fin 3) ℝ :=
  !![1 - 3 • w * dt,dt,0; -(3 • w^2 * dt),1,dt; -(w^3 * dt),0,1]

structure IsOff (eso : PositionESO ℝ) (axis : Axis) (p v d : ℝ) (error : Fin 3 → ℝ) : Prop where
  z1 : eso.z1.get axis = .fin (p-error 0)
  z2 : eso.z2.get axis = .fin (v-error 1)
  z3 : eso.z3.get axis = .fin (d-error 2)

structure HasBandwidth (eso : PositionESO ℝ) (axis : Axis) (w : ℝ) : Prop where
  beta1 : eso.beta1.get axis = .fin (w * 3)
  beta2 : eso.beta2.get axis = .fin (w * w * 3)
  beta3 : eso.beta3.get axis = .fin (w * w * w)

lemma errorMatrix_nilpotent (w dt : ℝ) : (errorMatrix w dt - (1 - w * dt) • (1 : Matrix (Fin 3) (Fin 3) ℝ))^3 = 0 := by
  have shifted : errorMatrix w dt - (1 - w * dt) • (1 : Matrix (Fin 3) (Fin 3) ℝ) =
      !![-(2 * w * dt),dt,0; -(3 * w^2 * dt),w * dt,dt; -(w^3 * dt),0,w * dt] := by
    ext i j
    fin_cases i <;> fin_cases j <;> simp [errorMatrix]
    ring
  rw [shifted,pow_three]
  ext i j
  fin_cases i <;> fin_cases j <;> simp [mul_apply,Fin.sum_univ_three] <;> ring

section
variable {eso : PositionESO ℝ} {axis : Axis} {w : ℝ}

lemma HasBandwidth.update (bandwidth : eso.HasBandwidth axis w) (pos u : Vector3 (Flt ℝ)) (dt : Flt ℝ) :
    (eso.update pos u dt).HasBandwidth axis w :=
  ⟨bandwidth.beta1,bandwidth.beta2,bandwidth.beta3⟩

lemma IsOff.update {p v d : ℝ} (off : eso.IsOff axis p v d error)
    (bandwidth : eso.HasBandwidth axis w) {pos : Vector3 ℝ} (measured : pos.get axis = p) (u : Vector3 ℝ) (dt : ℝ) :
    (eso.update (pos.map .fin) (u.map .fin) (.fin dt)).IsOff axis (p + v * dt) (v + (u.get axis + d) * dt) d
      (errorMatrix w dt *ᵥ error) := by
  have rows : errorMatrix w dt *ᵥ error = ![(1 - 3 * w * dt) * error 0 + dt * error 1,
      -(3 * w^2 * dt) * error 0 + error 1 + dt * error 2,-(w^3 * dt) * error 0 + error 2] := by
    ext i
    fin_cases i <;> simp [errorMatrix,mulVec,dotProduct,Fin.sum_univ_three]
  constructor
  all_goals
    simp only [PositionESO.update,get_add,get_mul,get_emult,get_sub,get_map,
      off.z1,off.z2,off.z3,bandwidth.beta1,bandwidth.beta2,bandwidth.beta3,measured,Flt.fin_add,Flt.fin_sub,Flt.fin_mul,
      rows,cons_val]
    ring_nf

end

/-- The errors follow a matrix with one triple eigenvalue; they vanish after three steps, or in the limit. -/
theorem error_run (before : PositionESO ℝ) (bw z1 z2 z3 p v d : Vector3 ℝ) (u : ℕ → Vector3 ℝ) (dt : ℝ)
    (axis : Axis) :
    let A := errorMatrix (bw.get axis) dt
    let error := ![p.get axis - z1.get axis,v.get axis - z2.get axis,d.get axis - z3.get axis]
    let eso := { before.setBandwidth (bw.map .fin) with z1 := z1.map .fin, z2 := z2.map .fin, z3 := z3.map .fin }
    let off (n : ℕ) : (Fin 3 → ℝ) → Prop := (eso.run (fun k => (plant p v d u dt k).1) u dt n).IsOff axis
      ((plant p v d u dt n).1.get axis) ((plant p v d u dt n).2.get axis) (d.get axis)
    (A - (1 - bw.get axis * dt) • (1 : Matrix (Fin 3) (Fin 3) ℝ)) ^ 3 = 0 ∧ (∀ n, off n (A ^ n *ᵥ error)) ∧
      (bw.get axis * dt = 1 → ∀ n, 3 ≤ n → off n 0) ∧
      (|1 - bw.get axis * dt| < 1 → Tendsto (fun n => A ^ n *ᵥ error) atTop (𝓝 0)) := by
  intro A error eso off
  have nilpotent := errorMatrix_nilpotent (bw.get axis) dt
  have bandwidth : eso.HasBandwidth axis (bw.get axis) := by
    constructor <;> simp [eso,setBandwidth]
  have start : eso.IsOff axis (p.get axis) (v.get axis) (d.get axis) error := by
    constructor <;> simp [eso,error]
  have run := LinearStep.run (P := fun n e => (eso.run (fun k => (plant p v d u dt k).1) u dt n).HasBandwidth axis _ ∧
    off n e) nilpotent ⟨bandwidth,start⟩ fun n e held => ⟨held.1.update _ _ _,?_⟩
  · exact ⟨nilpotent,fun n => (run.1 n).2,fun matched n late => (run.2.1 (by rw [matched,sub_self]) n late).2,run.2.2⟩
  · simp only [off,plant,Vector3.get_add,Vector3.get_mul]
    exact held.2.update held.1 rfl (u n) dt

end PositionESO

namespace AttitudeESO

def plant (omega d : Vector3 K) (u : ℕ → Vector3 K) (dt : K) : ℕ → Vector3 K
  | 0 => omega
  | n + 1 => plant omega d u dt n + (u n + d) * dt

def run (eso : AttitudeESO K) (omega u : ℕ → Vector3 K) (dt : K) : ℕ → AttitudeESO K
  | 0 => eso
  | n+1 => (run eso omega u dt n).update ((omega n).map .fin) ((u n).map .fin) (.fin dt)

def errorMatrix (w dt : ℝ) : Matrix (Fin 2) (Fin 2) ℝ := !![1 - 2 • w * dt,dt; -(w^2 * dt),1]

structure IsOff (eso : AttitudeESO ℝ) (axis : Axis) (omega d : ℝ) (error : Fin 2 → ℝ) : Prop where
  z1 : eso.z1EstOmega.get axis = .fin (omega-error 0)
  z2 : eso.z2EstDist.get axis = .fin (d-error 1)

structure HasBandwidth (eso : AttitudeESO ℝ) (axis : Axis) (w : ℝ) : Prop where
  beta1 : eso.beta1.get axis = .fin (w * 2)
  beta2 : eso.beta2.get axis = .fin (w * w)

lemma errorMatrix_nilpotent (w dt : ℝ) : (errorMatrix w dt - (1 - w * dt) • (1 : Matrix (Fin 2) (Fin 2) ℝ))^2 = 0 := by
  have shifted : errorMatrix w dt - (1 - w * dt) • (1 : Matrix (Fin 2) (Fin 2) ℝ) =
      !![-(w * dt),dt; -(w^2 * dt),w * dt] := by
    ext i j
    fin_cases i <;> fin_cases j <;> simp [errorMatrix]
    ring
  rw [shifted,pow_two]
  ext i j
  fin_cases i <;> fin_cases j <;> simp [mul_apply] <;> ring

section
variable {eso : AttitudeESO ℝ} {axis : Axis} {w : ℝ}

lemma IsOff.update {omega d : ℝ} (off : eso.IsOff axis omega d error)
    (bandwidth : eso.HasBandwidth axis w) {rate : Vector3 ℝ} (measured : rate.get axis = omega) (u : Vector3 ℝ)
    (dt : ℝ) : (eso.update (rate.map .fin) (u.map .fin) (.fin dt)).IsOff axis (omega + (u.get axis + d) * dt) d
      (errorMatrix w dt *ᵥ error) := by
  have rows : errorMatrix w dt *ᵥ error =
      ![(1 - 2 * w * dt) * error 0 + dt * error 1,-(w^2 * dt) * error 0 + error 1] := by
    ext i
    fin_cases i <;> simp [errorMatrix,mulVec,dotProduct]
  constructor
  all_goals
    simp only [AttitudeESO.update,get_add,get_mul,get_emult,get_sub,get_map,
      off.z1,off.z2,bandwidth.beta1,bandwidth.beta2,measured,Flt.fin_add,Flt.fin_sub,Flt.fin_mul,rows,cons_val]
    ring_nf

end

/-- So do those of the rate observer, with a double eigenvalue. -/
theorem rate_error_run (bandwidth z1 z2 omega d : Vector3 ℝ) (u : ℕ → Vector3 ℝ) (dt : ℝ) (axis : Axis) :
    let B := errorMatrix (bandwidth.get axis) dt
    let error := ![omega.get axis - z1.get axis,d.get axis - z2.get axis]
    let eso := { init (bandwidth.map .fin) with z1EstOmega := z1.map .fin, z2EstDist := z2.map .fin }
    let off (n : ℕ) : (Fin 2 → ℝ) → Prop :=
      (eso.run (plant omega d u dt) u dt n).IsOff axis ((plant omega d u dt n).get axis) (d.get axis)
    (B - (1 - bandwidth.get axis * dt) • (1 : Matrix (Fin 2) (Fin 2) ℝ)) ^ 2 = 0 ∧ (∀ n, off n (B ^ n *ᵥ error)) ∧
      (bandwidth.get axis * dt = 1 → ∀ n, 2 ≤ n → off n 0) ∧
      (|1 - bandwidth.get axis * dt| < 1 → Tendsto (fun n => B ^ n *ᵥ error) atTop (𝓝 0)) := by
  intro B error eso off
  have nilpotent := errorMatrix_nilpotent (bandwidth.get axis) dt
  have gains : eso.HasBandwidth axis (bandwidth.get axis) := by
    constructor <;> simp [eso,init]
    norm_num
  have start : eso.IsOff axis (omega.get axis) (d.get axis) error := by
    constructor <;> simp [eso,error]
  have run := LinearStep.run (P := fun n e => (eso.run (plant omega d u dt) u dt n).HasBandwidth axis _ ∧ off n e)
    nilpotent ⟨gains,start⟩ fun n e held => ⟨⟨held.1.beta1,held.1.beta2⟩,?_⟩
  · exact ⟨nilpotent,fun n => (run.1 n).2,fun matched n late => (run.2.1 (by rw [matched,sub_self]) n late).2,run.2.2⟩
  · simp only [off,plant,Vector3.get_add,Vector3.get_mul]
    exact held.2.update held.1 rfl (u n) dt

end AttitudeESO
end AerialManipulator
