import Uam.Takeoff

/-! The order of a takeoff over every run: no readiness before the spool-up, no flight before the
end of the ramp, and on it a limit that only rises. -/
namespace AerialManipulator.Takeoff
open Numeric List TakeoffState Runs
variable {K : Type*}

inductive Call (K : Type*) where
  | updateTakeoffState (armed landed wantTakeoff : Bool) (takeoffDesiredVz : Flt K) (nowUs : HrtAbstime)
  | updateRamp (dt : K) (takeoffDesiredVz : Flt K)

namespace Call

def request : Call K → Option Hysteresis.Request
  | updateTakeoffState armed _ _ _ nowUs => some (armed,nowUs)
  | updateRamp _ _ => none

def dt [Zero K] : Call K → K
  | updateTakeoffState .. => 0
  | updateRamp dt _ => dt

end Call

section
variable [Field K]

def configured (spoolupTime : HrtAbstime) (rampTime vzInit : K) : Takeoff K :=
  { (fresh : Takeoff K) with
    spoolupTimeHysteresis := .slowToTrue spoolupTime, takeoffRampTime := .fin rampTime,
    takeoffRampVzInit := .fin vzInit }

def rampTotal (calls : List (Call K)) : K := (calls.map Call.dt).sum

variable [LinearOrder K]

def step (t : Takeoff K) : Call K → Takeoff K
  | .updateTakeoffState armed landed wantTakeoff takeoffDesiredVz nowUs =>
    t.updateTakeoffState armed landed wantTakeoff takeoffDesiredVz false nowUs
  | .updateRamp dt takeoffDesiredVz => (t.updateRamp (.fin dt) takeoffDesiredVz).2

def limits (t : Takeoff K) : List (Call K) → List (Flt K)
  | [] => []
  | .updateRamp dt takeoffDesiredVz::rest =>
    (t.updateRamp (.fin dt) takeoffDesiredVz).1::limits (t.step (.updateRamp dt takeoffDesiredVz)) rest
  | call::rest => limits (t.step call) rest

def InRampup : Takeoff K → List (Call K) → Prop := Along step fun t _ => t.takeoffState = .rampup

lemma setters_configured [FloorSemiring K] (spoolup span gain : K) (positive : 0.01 < gain) (nonzero : gain ≠ 0) :
    (((fresh : Takeoff K).setSpoolupTime spoolup).setTakeoffRampTime (.fin span)).generateInitialRampValue (.fin gain) =
      configured (BitVec.ofNat 64 ⌊spoolup * 1000000⌋₊) span (-9.80665 / gain) := by
  simp [fresh,setSpoolupTime,setTakeoffRampTime,generateInitialRampValue,configured,Hysteresis.slowToTrue,
    ControlMath.oneG,Math.max,positive,nonzero]

structure Switched (t t' : Takeoff K) : Prop where
  hysteresis : t'.spoolupTimeHysteresis = t.spoolupTimeHysteresis
  rampTime : t'.takeoffRampTime = t.takeoffRampTime
  vzInit : t'.takeoffRampVzInit = t.takeoffRampVzInit
  ready : .readyForTakeoff ≤ t'.takeoffState → .readyForTakeoff ≤ t.takeoffState ∨ t.spoolupTimeHysteresis.state = true
  ramp : t'.takeoffState = .rampup → t.takeoffState = .rampup ∨ t'.takeoffRampProgress = 0
  inRamp : t.takeoffState = .rampup → t'.takeoffRampProgress = t.takeoffRampProgress ∧
    (t'.takeoffState ≠ .rampup → t.takeoffRampProgress ≥ 1)

lemma switch_switched (t : Takeoff K) (armed landed want : Bool) : Switched t (t.switch armed landed want) := by
  unfold switch caseDisarmed caseSpoolup caseReadyForTakeoff caseRampup caseFlight
  cases state : t.takeoffState <;> dsimp only <;> split_ifs <;> constructor <;> simp_all [le_iff,status]

def informed (t : Takeoff K) (armed : Bool) (nowUs : HrtAbstime) : Takeoff K :=
  {t with spoolupTimeHysteresis := t.spoolupTimeHysteresis.setStateAndUpdate armed nowUs}

section
variable (t : Takeoff K) (armed landed want : Bool) (vz : Flt K) (nowUs : HrtAbstime)

lemma updateTakeoffState_armed : t.updateTakeoffState true landed wantTakeoff vz false nowUs =
      (t.informed true nowUs).switch true landed wantTakeoff := by
  simp [updateTakeoffState,informed]

lemma updateTakeoffState_disarmed : t.updateTakeoffState false landed want vz false nowUs =
      {(t.informed false nowUs).switch false landed want with takeoffState := .disarmed} := by
  simp [updateTakeoffState,informed]

lemma updateTakeoffState_frame : let t' := t.updateTakeoffState armed landed want vz false nowUs
    t'.spoolupTimeHysteresis = t.spoolupTimeHysteresis.setStateAndUpdate armed nowUs ∧
      t'.takeoffRampTime = t.takeoffRampTime ∧ t'.takeoffRampVzInit = t.takeoffRampVzInit := by
  have switched := switch_switched (t.informed armed nowUs) armed landed want
  cases armed with
  | true =>
    rw [updateTakeoffState_armed]
    exact ⟨switched.hysteresis,switched.rampTime,switched.vzInit⟩
  | false =>
    rw [updateTakeoffState_disarmed]
    exact ⟨switched.hysteresis,switched.rampTime,switched.vzInit⟩

variable {t}

lemma updateTakeoffState_ready (spooled : .readyForTakeoff ≤ t.takeoffState → t.spoolupTimeHysteresis.state)
    (ready : .readyForTakeoff ≤ (t.updateTakeoffState armed landed want vz false nowUs).takeoffState) :
    (t.updateTakeoffState armed landed want vz false nowUs).spoolupTimeHysteresis.state := by
  rw [(t.updateTakeoffState_frame armed landed want vz nowUs).1]
  cases armed with
  | true =>
    rw [updateTakeoffState_armed] at ready
    rcases (switch_switched (t.informed true nowUs) true landed want).ready ready with already | spooled'
    · rw [(t.spoolupTimeHysteresis.setStateAndUpdate_true nowUs).2.2,spooled already,Bool.true_or]
    · exact spooled'
  | false =>
    rw [updateTakeoffState_disarmed] at ready
    simp [le_iff,status] at ready

lemma updateTakeoffState_inRamp (ramp : t.takeoffState = .rampup) :
    let t' := t.updateTakeoffState armed landed want vz false nowUs
    t'.takeoffRampProgress = t.takeoffRampProgress ∧
      (t'.takeoffState ≠ .rampup → t'.takeoffState ≠ .disarmed → t.takeoffRampProgress ≥ 1) := by
  obtain ⟨kept,ended⟩ := (switch_switched (t.informed armed nowUs) armed landed want).inRamp ramp
  cases armed with
  | true =>
    rw [updateTakeoffState_armed]
    exact ⟨kept,fun left _ => ended left⟩
  | false =>
    rw [updateTakeoffState_disarmed]
    exact ⟨kept,fun _ grounded => absurd rfl grounded⟩

lemma updateTakeoffState_rampup (ramp : (t.updateTakeoffState armed landed want vz false nowUs).takeoffState = .rampup) :
    t.takeoffState = .rampup ∨
      (t.updateTakeoffState armed landed want vz false nowUs).takeoffRampProgress = 0 := by
  cases armed with
  | true =>
    rw [updateTakeoffState_armed] at ramp ⊢
    exact (switch_switched (t.informed true nowUs) true landed want).ramp ramp
  | false => simp [updateTakeoffState_disarmed] at ramp

end

variable {t : Takeoff K}

lemma updateRamp_frame (t : Takeoff K) (dt vz : Flt K) : (t.updateRamp dt vz).2 =
      if t.takeoffState = .rampup then {t with takeoffRampProgress := t.rampProgress dt} else t := by
  by_cases ramp : t.takeoffState = .rampup <;> simp [updateRamp,ramp]

def advance (rampTime p dt : K) : K := if dt < rampTime then p + dt / rampTime else 1

lemma rampProgress_fin {span p dt : K} (time : t.takeoffRampTime = .fin span)
    (progress : t.takeoffRampProgress = .fin p) (forward : 0 ≤ dt) :
    t.rampProgress (.fin dt) = .fin (advance span p dt) := by
  by_cases more : dt < span
  · have nonzero : span ≠ 0 := (forward.trans_lt more).ne'
    simp [rampProgress,advance,time,progress,more,nonzero]
  · simp [rampProgress,advance,time,more]

lemma updateRamp_limit {vzInit p desired : K} (ramp : t.takeoffState = .rampup)
    (init : t.takeoffRampVzInit = .fin vzInit) (progress : t.rampProgress dt = .fin p) :
    (t.updateRamp dt (.fin desired)).1 = .fin (vzInit + min p 1 * (desired - vzInit)) := by
  have above : ¬(rampup < rampup) := by decide
  by_cases ongoing : p < 1
  · simp [updateRamp,ramp,init,progress,ongoing,min_eq_left ongoing.le]
  · simp [updateRamp,ramp,init,progress,ongoing,min_eq_right (not_lt.mp ongoing),above]

/-- A call comes to flight if it ends there, or lands again: then it is ready although a takeoff is
wanted, or it was on the ramp. -/
def Flies (t t' : Takeoff K) (want : Bool) : Prop :=
  t'.takeoffState = .flight ∨ t'.takeoffState = .readyForTakeoff ∧ (want = true ∨ t.takeoffState = .rampup)

section
variable [IsStrictOrderedRing K]

-- the progress is reset on the way to the ramp, so no call passes it
lemma switch_flies (flies : Flies t (t.switch armed landed want) want) :
    t.takeoffState = .flight ∨ t.takeoffState = .rampup := by
  have reset : ¬(1 : Flt K) ≤ 0 := (zero_lt_one' K).not_ge
  revert flies
  unfold Flies switch caseDisarmed caseSpoolup caseReadyForTakeoff caseRampup caseFlight
  cases state : t.takeoffState <;> dsimp only <;> split_ifs <;> simp_all

lemma step_flies (flies : Flies t (t.step (.updateTakeoffState armed landed want vz nowUs)) want) :
    t.takeoffState = .flight ∨ t.takeoffState = .rampup := by
  rw [step] at flies
  cases armed with
  | true =>
    rw [updateTakeoffState_armed] at flies
    exact switch_flies (t := t.informed true nowUs) flies
  | false => simp [Flies,updateTakeoffState_disarmed] at flies

variable {span vzInit : K} {t : Takeoff K} {phase calls : List (Call K)} {spool : HrtAbstime}

lemma advance_nonneg {p dt : K} (begun : 0 ≤ p) (forward : 0 ≤ dt) : 0 ≤ advance span p dt := by
  unfold advance
  split
  next more => exact add_nonneg begun (div_nonneg forward (forward.trans more.le))
  · exact zero_le_one

lemma min_one_le_advance {p dt : K} (forward : 0 ≤ dt) : min p 1 ≤ min (advance span p dt) 1 := by
  unfold advance
  split
  next more => exact min_le_min_right 1 (le_add_of_nonneg_right (div_nonneg forward (forward.trans more.le)))
  · simp

lemma advance_covered {p dt total : K} (forward : 0 ≤ dt) (passed : 0 ≤ total)
    (covered : rampTime ≤ total ∨ p * rampTime ≤ total) :
    rampTime ≤ total + dt ∨ advance rampTime p dt * rampTime ≤ total + dt := by
  unfold advance
  split
  next more =>
    have positive : 0 < rampTime := forward.trans_lt more
    rcases covered with done | share
    · exact .inl (done.trans (le_add_of_nonneg_right forward))
    · right
      rw [add_mul,div_mul_cancel₀ _ positive.ne']
      exact add_le_add_left share dt
  next long => exact .inl ((not_lt.mp long).trans (le_add_of_nonneg_left passed))

omit [IsStrictOrderedRing K] in
lemma inRampup_append {older : List (Call K)} (inside : InRampup (older.foldl step t) phase)
    (ramping : ((older ++ phase).foldl step t).takeoffState = .rampup) :
    InRampup (older.foldl step t) (phase ++ [call]) := by
  rw [foldl_append] at ramping
  exact (along_append _ phase _).mpr ⟨inside,ramping,trivial⟩

structure Sequenced (spoolupTime : HrtAbstime) (rampTime vzInit : K) (calls : List (Call K)) (t : Takeoff K) :
    Prop where
  hysteresis : t.spoolupTimeHysteresis =
    (calls.filterMap Call.request).foldl Hysteresis.request (.slowToTrue spoolupTime)
  time : t.takeoffRampTime = .fin rampTime
  init : t.takeoffRampVzInit = .fin vzInit
  spooled : .readyForTakeoff ≤ t.takeoffState → t.spoolupTimeHysteresis.state = true
  ramp : t.takeoffState = .rampup → ∃ p, t.takeoffRampProgress = .fin p ∧ 0 ≤ p ∧
    ∃ older phase, calls = older ++ phase ∧ InRampup (older.foldl step (configured spoolupTime rampTime vzInit)) phase ∧
      0 ≤ rampTotal phase ∧ (rampTime ≤ rampTotal phase ∨ p * rampTime ≤ rampTotal phase)

omit [IsStrictOrderedRing K] in
lemma sequenced_updateTakeoffState
    (before : Sequenced spool span vzInit calls (calls.foldl step (configured spool span vzInit)))
    (armed landed want : Bool) (vz : Flt K) (nowUs : HrtAbstime) :
    let call := Call.updateTakeoffState armed landed want vz nowUs
    Sequenced spool span vzInit (calls ++ [call])
      ((calls.foldl step (configured spool span vzInit)).step call) := by
  generalize found : calls.foldl step (configured spool span vzInit) = t at before
  obtain ⟨hysteresis,time,init⟩ := t.updateTakeoffState_frame armed landed want vz nowUs
  refine ⟨?_,time.trans before.time,init.trans before.init,
    updateTakeoffState_ready armed landed want vz nowUs before.spooled,fun ramp => ?_⟩
  · refine hysteresis.trans ?_
    rw [before.hysteresis,filterMap_append,foldl_append]
    rfl
  · rcases updateTakeoffState_rampup armed landed want vz nowUs ramp with ramping | begun
    · obtain ⟨p,progress,begun,older,phase,split,inside,passed,covered⟩ := before.ramp ramping
      refine ⟨p,(updateTakeoffState_inRamp armed landed want vz nowUs ramping).1.trans progress,begun,
        older,phase ++ [_],by rw [split,append_assoc],?_,?_⟩
      · exact inRampup_append inside (by rw [← split,found,ramping])
      · simpa [rampTotal,Call.dt] using ⟨passed,covered⟩
    · exact ⟨0,begun,le_refl 0,calls ++ [_],[],(append_nil _).symm,trivial,by simp [rampTotal],by simp [rampTotal]⟩

lemma sequenced_updateRamp
    (before : Sequenced spool span vzInit calls (calls.foldl step (configured spool span vzInit)))
    {dt : K} (forward : 0 ≤ dt) (vz : Flt K) :
    Sequenced spool span vzInit (calls ++ [.updateRamp dt vz])
      ((calls.foldl step (configured spool span vzInit)).step (.updateRamp dt vz)) := by
  generalize found : calls.foldl step (configured spool span vzInit) = t at before
  have requests : (calls ++ [Call.updateRamp dt vz]).filterMap Call.request = calls.filterMap Call.request := by
    rw [filterMap_append]
    simp [Call.request,filterMap_cons]
  have result : t.step (.updateRamp dt vz) =
      if t.takeoffState = .rampup then {t with takeoffRampProgress := t.rampProgress (.fin dt)} else t :=
    t.updateRamp_frame (.fin dt) vz
  by_cases ramping : t.takeoffState = .rampup
  · rw [result,if_pos ramping]
    obtain ⟨p,progress,begun,older,phase,split,inside,passed,covered⟩ := before.ramp ramping
    refine ⟨requests ▸ before.hysteresis,before.time,before.init,before.spooled,fun _ =>
      ⟨advance span p dt,rampProgress_fin before.time progress forward,advance_nonneg begun forward,
        older,phase ++ [_],by rw [split,append_assoc],?_,?_⟩⟩
    · exact inRampup_append inside (by rw [← split,found,ramping])
    · have total : rampTotal (phase ++ [.updateRamp dt vz]) = rampTotal phase + dt := by simp [rampTotal,Call.dt]
      rw [total]
      exact ⟨add_nonneg passed forward,advance_covered forward passed covered⟩
  · rw [result,if_neg ramping]
    exact ⟨requests ▸ before.hysteresis,before.time,before.init,before.spooled,fun ramp => absurd ramp ramping⟩

lemma sequenced_run (spool : HrtAbstime) (span vzInit : K) (calls : List (Call K))
    (forward : ∀ call ∈ calls, 0 ≤ call.dt) :
    Sequenced spool span vzInit calls (calls.foldl step (configured spool span vzInit)) := by
  refine foldl_history (fun calls t => (∀ call ∈ calls, 0 ≤ call.dt) → Sequenced spool span vzInit calls t)
    (fun _ => ?_) (fun earlier call sequenced forward => ?_) calls forward
  · exact ⟨rfl,rfl,rfl,by simp [configured,fresh,le_iff,status],by simp [configured,fresh]⟩
  have before := sequenced fun call member => forward call (by simp [member])
  cases call with
  | updateTakeoffState armed landed want vz nowUs =>
    exact sequenced_updateTakeoffState before armed landed want vz nowUs
  | updateRamp dt vz => exact sequenced_updateRamp before (forward (.updateRamp dt vz) (by simp)) vz

lemma limits_rise {p desired : K}
    (inside : InRampup t phase) (time : t.takeoffRampTime = .fin rampTime) (init : t.takeoffRampVzInit = .fin vzInit)
    (progress : t.takeoffRampProgress = .fin p) (forward : ∀ call ∈ phase, 0 ≤ call.dt)
    (constant : ∀ dt vz, .updateRamp dt vz ∈ phase → vz = .fin desired) (upwards : vzInit ≤ desired) :
    (∀ limit ∈ limits t phase,
      .fin (vzInit + min p 1 * (desired - vzInit)) ≤ limit ∧ limit ≤ .fin desired) ∧
      (limits t phase).Pairwise (· ≤ ·) := by
  induction phase generalizing t p with
  | nil => simp [limits]
  | cons call rest ih =>
    obtain ⟨ramp,inside⟩ := inside
    have forward' := fun call member => forward call (mem_cons_of_mem _ member)
    have constant' := fun dt vz member => constant dt vz (mem_cons_of_mem _ member)
    cases call with
    | updateTakeoffState armed landed want vz nowUs =>
      obtain ⟨-,time',init'⟩ := t.updateTakeoffState_frame armed landed want vz nowUs
      have progress' := (updateTakeoffState_inRamp armed landed want vz nowUs ramp).1
      exact ih inside (time'.trans time) (init'.trans init) (progress'.trans progress) forward' constant'
    | updateRamp dt vz =>
      obtain rfl := constant dt vz (by simp)
      have elapsed : 0 ≤ dt := forward (.updateRamp dt (.fin desired)) (by simp)
      have advanced := rampProgress_fin time progress elapsed
      have result : t.step (.updateRamp dt (.fin desired)) =
          {t with takeoffRampProgress := .fin (advance rampTime p dt)} := by
        rw [step,updateRamp_frame,if_pos ramp,advanced]
      rw [result] at inside
      obtain ⟨bounds,sorted⟩ := ih inside time init rfl forward' constant'
      rw [limits,updateRamp_limit ramp init advanced,result]
      have span : 0 ≤ desired-vzInit := sub_nonneg.mpr upwards
      have rises : vzInit + min p 1 * (desired - vzInit) ≤
          vzInit + min (advance rampTime p dt) 1 * (desired - vzInit) := by
        have clipped : min p 1 ≤ min (advance rampTime p dt) 1 := min_one_le_advance elapsed
        linarith [mul_le_mul_of_nonneg_right clipped span]
      have below : vzInit + min (advance rampTime p dt) 1 * (desired - vzInit) ≤ desired := by
        linarith [mul_le_mul_of_nonneg_right (min_le_right (advance rampTime p dt) 1) span]
      refine ⟨?_,pairwise_cons.mpr ⟨fun limit member => (bounds limit member).1,sorted⟩⟩
      intro limit member
      rcases mem_cons.mp member with rfl | member
      · exact ⟨rises,below⟩
      · exact ⟨Flt.le_trans ((Flt.fin_le _ _).mpr rises) (bounds limit member).1,(bounds limit member).2⟩

lemma ramp_complete (sequenced : Sequenced spool span vzInit calls t) (ramp : t.takeoffState = .rampup)
    (flies : Flies t (t.step (.updateTakeoffState armed landed want vz nowUs)) want) : ∃ older phase, calls = older ++ phase ∧
      InRampup (older.foldl step (configured spool span vzInit)) phase ∧ span ≤ rampTotal phase := by
  obtain ⟨p,progress,begun,older,phase,split,inside,passed,covered⟩ := sequenced.ramp ramp
  refine ⟨older,phase,split,inside,?_⟩
  have complete : (1 : K) ≤ p := by
    have ended := (updateTakeoffState_inRamp armed landed want vz nowUs ramp).2
    rw [progress] at ended
    refine ended ?_ ?_ <;> rintro other <;> rw [Flies,step,other] at flies <;> simp at flies
  rcases covered with done | share
  · exact done
  · by_cases positive : 0 ≤ span
    · exact (le_mul_of_one_le_left positive complete).trans share
    · exact (not_le.mp positive).le.trans passed

lemma limits_between {desired : K} (sequenced : Sequenced spool span vzInit older t) (inside : InRampup t phase)
    (forward : ∀ call ∈ phase, 0 ≤ call.dt) (constant : ∀ dt vz, .updateRamp dt vz ∈ phase → vz = .fin desired)
    (upwards : vzInit ≤ desired) :
    (limits t phase).Pairwise (· ≤ ·) ∧ ∀ limit ∈ limits t phase, .fin vzInit ≤ limit ∧ limit ≤ .fin desired := by
  rcases phase with _ | ⟨call,rest⟩
  · simp [limits]
  obtain ⟨p,progress,begun,-⟩ := sequenced.ramp inside.1
  obtain ⟨bounds,sorted⟩ := limits_rise inside sequenced.time sequenced.init progress forward constant upwards
  refine ⟨sorted,fun limit member => ⟨?_,(bounds limit member).2⟩⟩
  have start : vzInit ≤ vzInit + min p 1 * (desired - vzInit) :=
    le_add_of_nonneg_right (mul_nonneg (le_min begun zero_le_one) (sub_nonneg.mpr upwards))
  exact Flt.le_trans ((Flt.fin_le _ _).mpr start) (bounds limit member).1

/-- Readiness follows an armed spool-up, flight a whole ramp, and on the ramp the limits rise from
the initial to the desired velocity. -/
theorem takeoff_sequencing (spoolupTime : HrtAbstime) (rampTime vzInit : K) (calls : List (Call K))
    (ordered : ((calls.filterMap Call.request).map Prod.snd).Pairwise (· ≤ ·))
    (forward : ∀ call ∈ calls, 0 ≤ call.dt) :
    let run (calls : List (Call K)) := calls.foldl step (configured spoolupTime rampTime vzInit)
    (.readyForTakeoff ≤ (run calls).takeoffState → Hysteresis.RequestedFor spoolupTime (calls.filterMap Call.request)) ∧
    (∀ armed landed wantTakeoff vz nowUs,
      Flies (run calls) ((run calls).step (.updateTakeoffState armed landed wantTakeoff vz nowUs)) wantTakeoff →
      (run calls).takeoffState = .flight ∨ (run calls).takeoffState = .rampup ∧
        ∃ older phase, calls = older ++ phase ∧ InRampup (run older) phase ∧ rampTime ≤ rampTotal phase) ∧
    (∀ older phase desired, calls = older ++ phase → InRampup (run older) phase →
      (∀ dt vz, .updateRamp dt vz ∈ phase → vz = .fin desired) → vzInit ≤ desired →
      (limits (run older) phase).Pairwise (· ≤ ·) ∧
        ∀ limit ∈ limits (run older) phase, .fin vzInit ≤ limit ∧ limit ≤ .fin desired) := by
  have sequenced := sequenced_run spoolupTime rampTime vzInit calls forward
  refine ⟨fun ready => ?_,fun armed landed wantTakeoff vz nowUs flies => ?_,?_⟩
  · exact Hysteresis.requestedFor_of_state ordered (sequenced.hysteresis ▸ sequenced.spooled ready)
  · rcases step_flies flies with flight | ramp
    · exact .inl flight
    · exact .inr ⟨ramp,ramp_complete sequenced ramp flies⟩
  · intro older phase desired split inside constant upwards
    have before := sequenced_run spoolupTime rampTime vzInit older fun call member => forward call (by simp [split,member])
    exact limits_between before inside (fun call member => forward call (by simp [split,member])) constant upwards

end

def ramped : List (Call K) :=
  [.updateTakeoffState true false true (.fin 3.0) 1000#64,.updateRamp 0.25 (.fin 3.0),
    .updateTakeoffState true false true (.fin 3.0) 1001000#64,.updateRamp 0.25 (.fin 3.0),.updateRamp 0.25 (.fin 3.0)]

theorem ramped_takes_off : let t := (ramped : List (Call ℚ)).foldl step (configured 1000000#64 (1 / 2) (-2))
    t.takeoffState = .rampup ∧
      (t.step (.updateTakeoffState true false true (.fin 3) 1002000#64)).takeoffState = .flight ∧
      Hysteresis.RequestedFor 1000000#64 ((ramped : List (Call ℚ)).filterMap Call.request) ∧
      ∃ older phase, (ramped : List (Call ℚ)) = older ++ phase ∧
        InRampup (older.foldl step (configured 1000000#64 (1 / 2) (-2))) phase ∧ 1 / 2 ≤ rampTotal phase := by
  have ramp : ((ramped : List (Call ℚ)).foldl step (configured 1000000#64 (1 / 2) (-2))).takeoffState = .rampup := by
    decide +kernel
  have flight : (((ramped : List (Call ℚ)).foldl step (configured 1000000#64 (1 / 2) (-2))).step
      (.updateTakeoffState true false true (.fin 3) 1002000#64)).takeoffState = .flight := by
    decide +kernel
  obtain ⟨spooled,whole,-⟩ := takeoff_sequencing 1000000#64 (1 / 2) (-2) (ramped : List (Call ℚ)) (by decide)
    (by decide +kernel)
  have complete := whole _ _ _ _ _ (.inl flight)
  rw [ramp] at complete
  exact ⟨ramp,flight,spooled (by rw [ramp]; decide),(complete.resolve_left nofun).2⟩

end
end AerialManipulator.Takeoff
