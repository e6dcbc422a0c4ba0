import Uam.NavState
import Uam.Library.Runs

/-! When the outputs that a failsafe forces are withdrawn with it. -/
namespace AerialManipulator
open Numeric LinkLossActions Runs

def LossActions.Terminates (acts : LossActions) : Prop :=
  acts.rcLossAct = .terminate ∨ acts.dataLinkLossAct = .terminate ∨ acts.offbLossAct = .terminate ∨
    acts.offbLossRcAct = .terminate

def LossActions.LocksDown (acts : LossActions) : Prop :=
  acts.rcLossAct = .lockdown ∨ acts.dataLinkLossAct = .lockdown ∨ acts.offbLossAct = .lockdown ∨
    acts.offbLossRcAct = .lockdown

instance (acts : LossActions) : Decidable acts.Terminates := inferInstanceAs (Decidable (_ ∨ _))

namespace NavCall

def Blind (call : NavCall) : Prop :=
  call.flags.globalPositionValid = false ∧ call.flags.localPositionValid = false ∧ call.flags.localAltitudeValid = false

instance (call : NavCall) : Decidable call.Blind := inferInstanceAs (Decidable (_ ∧ _))

end NavCall

namespace NavBranch

def FallsThrough (call : NavCall) (oldFailsafe : Bool) (s : Commander) : NavBranch → Prop
  | .linkLoss act delay reason => call.Blind ∧
      (s.enableFailsafe call oldFailsafe reason).linkLossDelayed call act delay ∈
        [LinkLossActions.autoRtl,LinkLossActions.autoLoiter,LinkLossActions.autoLand]
  | _ => False

instance (call : NavCall) (oldFailsafe : Bool) (s : Commander) : ∀ branch : NavBranch,
    Decidable (branch.FallsThrough call oldFailsafe s)
  | .linkLoss _ _ _ => inferInstanceAs (Decidable (_ ∧ _))
  | .enter _ | .stay | .fallBack _ _ | .quadchute | .offboardLoss _ | .offboardLossRc => .isFalse id

lemma linkLoss_act (taken : ofMainState acts call mainState = .linkLoss act delay reason) :
    act = acts.rcLossAct ∨ act = acts.dataLinkLossAct ∨ act = .autoRtl := by
  cases mainState with
  | acro | manual | stab | altctl => exact .inl (by grind [ofMainState,manual])
  | posctl => exact .inl (by grind [ofMainState,posctl])
  | autoMission => grind [ofMainState,autoMission]
  | autoLoiter | autoTakeoff | autoVtolTakeoff => grind [ofMainState,holding]
  | orbit => grind [ofMainState,orbit]
  | offboard => exact .inl (by grind [ofMainState,offboard])
  | autoRtl | autoFollowTarget | autoLand | autoPrecland => grind [ofMainState,estimate]
  | max => cases taken

end NavBranch

namespace Commander
variable {acts : LossActions} {s : Commander} {call : NavCall}

def outputs (s : Commander) : Bool × Bool × Bool := (s.failsafe,s.forceFailsafe,s.lockdown)

lemma outputs_eq_iff {failsafe force lock : Bool} : s.outputs = (failsafe,force,lock) ↔
    s.failsafe = failsafe ∧ s.forceFailsafe = force ∧ s.lockdown = lock := by
  simp only [outputs,Prod.mk.injEq]

@[simp] lemma outputs_enableFailsafe (old : Bool) (reason : FailsafeReason) :
    (s.enableFailsafe call old reason).outputs = (true,s.forceFailsafe,s.lockdown) := by
  unfold enableFailsafe
  split <;> rfl

@[simp] lemma outputs_mainStateTransition (mainState : MainState) (navState : NavState) :
    outputs {s.mainStateTransition call mainState with navState := navState} = s.outputs := by
  unfold mainStateTransition
  split <;> rfl

lemma outputs_sighted (sighted : ¬call.Blind) {after : Commander} (same : after.outputs = s.outputs) :
    after.outputs = if call.Blind then (s.failsafe,true,s.lockdown) else s.outputs := by
  rw [if_neg sighted,same]

lemma outputs_linkLand : (s.linkLand call).outputs = if call.Blind then (s.failsafe,true,s.lockdown) else s.outputs := by
  unfold linkLand
  split
  next valid => exact outputs_sighted (fun blind => by simp [blind.1] at valid) (outputs_mainStateTransition ..)
  next far =>
  split
  next valid => exact outputs_sighted (fun blind => by simp [blind.2.1] at valid) rfl
  next near =>
  split
  next valid => exact outputs_sighted (fun blind => by simp [blind.2.2] at valid) rfl
  next low =>
  have blind : call.Blind := ⟨by simpa using far,by simpa using near,by simpa using low⟩
  rw [if_pos blind]
  rfl

lemma outputs_linkLoiter : (s.linkLoiter call).outputs = if call.Blind then (s.failsafe,true,s.lockdown) else s.outputs := by
  unfold linkLoiter
  split
  next valid => exact outputs_sighted (fun blind => by simp [blind.1] at valid) rfl
  · exact outputs_linkLand

lemma outputs_linkRtl : (s.linkRtl call).outputs = if call.Blind then (s.failsafe,true,s.lockdown) else s.outputs := by
  unfold linkRtl
  split
  next valid => exact outputs_sighted (fun blind => by simp [blind.1] at valid) (outputs_mainStateTransition ..)
  · exact outputs_linkLoiter

lemma outputs_setLinkLossNavState (act : LinkLossActions) (delay : Flt ℚ) :
    (s.setLinkLossNavState call act delay).outputs =
    match s.linkLossDelayed call act delay with
    | .disabled | .unlisted _ => s.outputs
    | .autoRtl | .autoLoiter | .autoLand => if call.Blind then (s.failsafe,true,s.lockdown) else s.outputs
    | .terminate => (s.failsafe,true,s.lockdown)
    | .lockdown => (s.failsafe,s.forceFailsafe,true) := by
  unfold setLinkLossNavState
  cases s.linkLossDelayed call act delay with
  | disabled | terminate | lockdown | unlisted => rfl
  | autoRtl => exact outputs_linkRtl
  | autoLoiter => exact outputs_linkLoiter
  | autoLand => exact outputs_linkLand

@[simp] lemma outputs_setQuadchuteNavState (act : QuadchuteActions) :
    (s.setQuadchuteNavState call act).outputs = s.outputs := by
  unfold setQuadchuteNavState
  cases act <;> dsimp only <;> (try split) <;> rfl

@[simp] lemma outputs_offboardRtl : (s.offboardRtl call).outputs = s.outputs := by
  unfold offboardRtl offboardLoiter offboardLand offboardMitigate
  split_ifs <;> rfl

@[simp] lemma outputs_offboardLoiter : (s.offboardLoiter call).outputs = s.outputs := by
  unfold offboardLoiter offboardLand offboardMitigate
  split_ifs <;> rfl

@[simp] lemma outputs_offboardLand : (s.offboardLand call).outputs = s.outputs := by
  unfold offboardLand offboardMitigate
  split_ifs <;> rfl

@[simp] lemma outputs_manualPosition : (s.manualPosition call).outputs = s.outputs := by
  unfold manualPosition manualAltitude
  split_ifs <;> rfl

@[simp] lemma outputs_manualAltitude : (s.manualAltitude call).outputs = s.outputs := by
  unfold manualAltitude
  split_ifs <;> rfl

lemma outputs_setOffboardLossNavState (act : OffboardLossActions) : (s.setOffboardLossNavState call act).outputs =
    (s.failsafe,s.forceFailsafe || act = .terminate,s.lockdown || act = .lockdown) := by
  cases act with
  | terminate | lockdown => simp [setOffboardLossNavState,outputs]
  | _ =>
    simp [setOffboardLossNavState]
    rfl

lemma outputs_setOffboardLossRcNavState (act : OffboardLossRcActions) : (s.setOffboardLossRcNavState call act).outputs =
    (s.failsafe,s.forceFailsafe || act = .terminate,s.lockdown || act = .lockdown) := by
  cases act with
  | terminate | lockdown | manualAttitude => simp [setOffboardLossRcNavState,outputs]
  | _ =>
    simp [setOffboardLossRcNavState]
    rfl

structure Sets (acts : LossActions) (falls : Prop) (after : Bool × Bool × Bool) : Prop where
  force : after.2.1 = true → after.1 = true ∧ (acts.Terminates ∨ falls)
  lock : after.2.2 = true → after.1 = true ∧ acts.LocksDown

lemma sets_nothing (falls : Prop) (failsafe : Bool) : Sets acts falls (failsafe,false,false) :=
  ⟨(fun set => nomatch set),(fun set => nomatch set)⟩

lemma sets_unchanged {failsafe : Bool} (falls : Prop) (start : s.outputs = (failsafe,false,false)) :
    Sets acts falls s.outputs := by
  rw [start]
  exact sets_nothing falls failsafe

lemma configured_delayed (configured : act = acts.rcLossAct ∨ act = acts.dataLinkLossAct ∨ act = .autoRtl)
    (effective : s.linkLossDelayed call act delay = chosen) (loiters : chosen ≠ .autoLoiter)
    (returns : chosen ≠ .autoRtl) : acts.rcLossAct = chosen ∨ acts.dataLinkLossAct = chosen := by
  have same : act = chosen := by
    rcases s.linkLossDelayed_cases call act delay with loiter | same
    · exact absurd (effective.symm.trans loiter) loiters
    · exact same.symm.trans effective
  rcases configured with rc | link | rtl
  · exact .inl (rc.symm.trans same)
  · exact .inr (link.symm.trans same)
  · exact absurd (same.symm.trans rtl) returns

lemma sets_linkLoss {act : LinkLossActions}
    (configured : act = acts.rcLossAct ∨ act = acts.dataLinkLossAct ∨ act = .autoRtl)
    (delay : Flt ℚ) (falls : Prop) (through : call.Blind → s.linkLossDelayed call act delay ∈
      [autoRtl,autoLoiter,autoLand] → falls)
    (start : s.outputs = (true,false,false)) : Sets acts falls (s.setLinkLossNavState call act delay).outputs := by
  obtain ⟨failsafe,force,lock⟩ := outputs_eq_iff.mp start
  -- the three steps of the ladder end alike
  have ladder (step : s.linkLossDelayed call act delay ∈ [autoRtl,autoLoiter,autoLand]) :
      Sets acts falls (if call.Blind then (s.failsafe,true,s.lockdown) else s.outputs) := by
    split
    · next blind =>
      rw [lock]
      exact ⟨fun _ => ⟨failsafe,.inr (through blind step)⟩,fun set => nomatch set⟩
    · exact sets_unchanged falls start
  rw [outputs_setLinkLossNavState]
  cases effective : s.linkLossDelayed call act delay with
  | disabled | unlisted => exact sets_unchanged falls start
  | autoRtl | autoLoiter | autoLand => exact ladder (by simp [effective])
  | terminate =>
    have chosen := configured_delayed configured effective (by decide) (by decide)
    rw [lock]
    exact ⟨fun _ => ⟨failsafe,.inl (chosen.imp_right .inl)⟩,fun set => nomatch set⟩
  | lockdown =>
    have chosen := configured_delayed configured effective (by decide) (by decide)
    rw [force]
    exact ⟨(fun set => nomatch set),fun _ => ⟨failsafe,chosen.imp_right .inl⟩⟩

lemma sets_offboard {falls terminates locks : Prop} [Decidable terminates] [Decidable locks]
    (start : s.outputs = (true,false,false))
    (configured : terminates → acts.Terminates) (locked : locks → acts.LocksDown) :
    Sets acts falls (s.failsafe,s.forceFailsafe || decide terminates,s.lockdown || decide locks) := by
  obtain ⟨failsafe,force,lock⟩ := outputs_eq_iff.mp start
  rw [failsafe,force,lock]
  exact ⟨fun set => ⟨rfl,.inl (configured (by simpa using set))⟩,fun set => ⟨rfl,locked (by simpa using set)⟩⟩

lemma sets_run {mainState : MainState} {branch : NavBranch} (taken : NavBranch.ofMainState acts call mainState = branch)
    (old : Bool) (start : s.outputs = (false,false,false)) :
    Sets acts (branch.FallsThrough call old s) (branch.run acts call old s).outputs := by
  obtain ⟨_,force,lock⟩ := outputs_eq_iff.mp start
  have enabled (reason : FailsafeReason) : (s.enableFailsafe call old reason).outputs = (true,false,false) := by
    rw [outputs_enableFailsafe,force,lock]
  cases branch with
  | enter navState | stay => exact sets_unchanged _ start
  | fallBack useRc usingGlobalPos =>
    change Sets _ _ (s.fallBack call old useRc usingGlobalPos).outputs
    rw [fallBack,outputs_enableFailsafe]
    rw [force,lock]
    exact sets_nothing _ _
  | linkLoss act delay reason =>
    exact sets_linkLoss (NavBranch.linkLoss_act taken) delay _ (fun blind step => ⟨blind,step⟩) (enabled reason)
  | quadchute =>
    change Sets _ _ (s.setQuadchuteNavState call acts.quadchuteAct).outputs
    rw [outputs_setQuadchuteNavState,start]
    exact sets_nothing _ _
  | offboardLoss reason =>
    change Sets _ _ ((s.enableFailsafe call old reason).setOffboardLossNavState call acts.offbLossAct).outputs
    rw [outputs_setOffboardLossNavState]
    exact sets_offboard (enabled reason) (fun act => .inr (.inr (.inl act))) (fun act => .inr (.inr (.inl act)))
  | offboardLossRc =>
    change Sets _ _ ((s.enableFailsafe call old .noOffboard).setOffboardLossRcNavState call
      acts.offbLossRcAct).outputs
    rw [outputs_setOffboardLossRcNavState]
    exact sets_offboard (enabled .noOffboard) (fun act => .inr (.inr (.inr act))) (fun act => .inr (.inr (.inr act)))

/-- Between the calls: outputs are set in failsafe only, by configured actions only. -/
structure Withdrawable (acts : LossActions) (s : Commander) : Prop where
  force : s.forceFailsafe = true → s.failsafe = true ∧ acts.Terminates
  lock : s.lockdown = true → s.failsafe = true ∧ acts.LocksDown

section
variable (old : Bool) (act : LinkLossActions) (offboard : OffboardLossActions)
  (offboardRc : OffboardLossRcActions)

lemma outputs_resetLinkLossGlobals : (s.resetLinkLossGlobals old act).outputs =
    (s.failsafe,s.forceFailsafe && !(old && act = .terminate),
      s.lockdown && !(old && act = .lockdown)) := by
  unfold resetLinkLossGlobals
  cases old with
  | false => simp [outputs]
  | true => cases act <;> simp [outputs]

lemma outputs_resetOffboardLossGlobals : (s.resetOffboardLossGlobals old offboard offboardRc).outputs =
    (s.failsafe,s.forceFailsafe && !(old && decide (offboard = .terminate ∨ offboardRc = .terminate)),
      s.lockdown && !(old && decide (offboard = .lockdown ∨ offboardRc = .lockdown))) := by
  unfold resetOffboardLossGlobals
  cases old with
  | false => simp [outputs]
  | true => cases offboard <;> cases offboardRc <;> simp [outputs]

end

lemma outputs_reset (withdrawable : s.Withdrawable acts) (call : NavCall) :
    (s.reset acts call).outputs = (false,false,false) := by
  unfold reset
  simp only [outputs_resetOffboardLossGlobals,outputs_eq_iff.mp (outputs_resetLinkLossGlobals ..),Prod.mk.injEq,true_and]
  constructor
  · cases set : s.forceFailsafe with
    | false => simp
    | true =>
      obtain ⟨failsafe,configured⟩ := withdrawable.force set
      rw [failsafe]
      rcases configured with act | act | act | act <;> simp [act]
  · cases set : s.lockdown with
    | false => simp
    | true =>
      obtain ⟨failsafe,configured⟩ := withdrawable.lock set
      rw [failsafe]
      rcases configured with act | act | act | act <;> simp [act]

def Intended (acts : LossActions) (s : Commander) (call : NavCall) : Prop :=
  acts.Terminates ∨ ¬ (s.branch acts call).FallsThrough call s.failsafe (s.reset acts call)

instance (acts : LossActions) (s : Commander) (call : NavCall) : Decidable (s.Intended acts call) :=
  inferInstanceAs (Decidable (_ ∨ _))

lemma outputs_setNavState (acts : LossActions) (s : Commander) (call : NavCall) : (s.setNavState acts call).outputs =
    ((s.branch acts call).run acts call s.failsafe (s.reset acts call)).outputs := by
  unfold setNavState
  split <;> rfl

lemma withdrawable_setNavState (intended : s.Intended acts call) (withdrawable : s.Withdrawable acts) :
    (s.setNavState acts call).Withdrawable acts := by
  have taken : NavBranch.ofMainState acts call (s.found call) = s.branch acts call := rfl
  have sets := sets_run taken s.failsafe (outputs_reset withdrawable call)
  rw [← outputs_setNavState] at sets
  constructor
  · intro set
    obtain ⟨failsafe,configured | falls⟩ := sets.force set
    · exact ⟨failsafe,configured⟩
    · exact ⟨failsafe,intended.resolve_right (not_not.mpr falls)⟩
  · exact sets.lock

def Withdrawn (s : Commander) : Prop := s.failsafe = false → s.forceFailsafe = false ∧ s.lockdown = false

instance (s : Commander) : Decidable s.Withdrawn := inferInstanceAs (Decidable (_ → _))

lemma Withdrawable.withdrawn (withdrawable : s.Withdrawable acts) : s.Withdrawn := by
  intro ended
  refine ⟨?_,?_⟩
  · cases set : s.forceFailsafe with
    | false => rfl
    | true => exact nomatch (withdrawable.force set).1.symm.trans ended
  · cases set : s.lockdown with
    | false => rfl
    | true => exact nomatch (withdrawable.lock set).1.symm.trans ended

/-- Unless a reaction falls through unintended, both outputs are withdrawn as soon as the failsafe ends. -/
theorem outputs_withdrawn (acts : LossActions) (force : s.forceFailsafe = false) (lock : s.lockdown = false)
    {calls : List NavCall} (intended : Along (setNavState acts) (Intended acts) s calls) :
    Along (setNavState acts) (fun s call => (s.setNavState acts call).Withdrawn) s calls := by
  have start : s.Withdrawable acts := by
    constructor
    · intro set
      exact nomatch force.symm.trans set
    · intro set
      exact nomatch lock.symm.trans set
  exact along_of_invariant (Withdrawable acts) (fun s call => withdrawable_setNavState)
    (fun s call intended withdrawable => (withdrawable_setNavState intended withdrawable).withdrawn) intended start

theorem outputs_withdrawn_after_descent :
    let acts : LossActions := ⟨.disabled,.autoRtl,.autoLand,.noAction,.autoLand,.altitudeManual⟩
    let call : NavCall := {
      mainState := some .manual,isArmed := true,rcSignalLost := false,dataLinkLost := false,engineFailure := false
      missionFailure := false,vehicleType := .rotaryWing,flags := ⟨false,true,false,false,false,false,false,true,false⟩
      missionFinished := false,stayInFailsafe := false,landed := false,comRclActT := .fin 0,comRclExcept := 0#32
      enableTime := 1#64,stampTime := 1#64,reactTime := 1#64 }
    let start : Commander := ⟨.manual,false,0#64,false,false,.manual,0,0#64,[]⟩
    let calls := [{ call with rcSignalLost := true },call]
    (start.forceFailsafe = false ∧ start.lockdown = false ∧ Along (setNavState acts) (Intended acts) start calls) ∧
    Along (setNavState acts) (fun s call => (s.setNavState acts call).Withdrawn) start calls :=
  ⟨by decide +kernel,outputs_withdrawn _ rfl rfl (by decide +kernel)⟩

/-- Without the altitude: the return ends in termination, and the outputs stay forced when RC is back. -/
theorem outputs_not_withdrawn :
    let acts : LossActions := ⟨.disabled,.autoRtl,.autoLand,.noAction,.autoLand,.altitudeManual⟩
    let call : NavCall := {
      mainState := some .manual,isArmed := true,rcSignalLost := false,dataLinkLost := false,engineFailure := false
      missionFailure := false,vehicleType := .rotaryWing,flags := ⟨false,false,false,false,false,false,false,true,false⟩
      missionFinished := false,stayInFailsafe := false,landed := false,comRclActT := .fin 0,comRclExcept := 0#32
      enableTime := 1#64,stampTime := 1#64,reactTime := 1#64 }
    let start : Commander := ⟨.manual,false,0#64,false,false,.manual,0,0#64,[]⟩
    let calls := [{ call with rcSignalLost := true },call]
    let after := calls.foldl (setNavState acts) start
    ¬ Along (setNavState acts) (fun s call => (s.setNavState acts call).Withdrawn) start calls ∧
    after.failsafe = false ∧ after.navState = .manual ∧ after.forceFailsafe = true := by
  decide +kernel

end Commander
end AerialManipulator
