import Uam.ControlMath
import Uam.Library.Runs
import Mathlib.Data.Fintype.Basic
import Mathlib.Tactic.FinCases

/-! Voting between redundant sensors, after `DataValidator` and `DataValidatorGroup`. A validator
keeps the time of the last call for all components, and of each its last finite value. -/
namespace AerialManipulator
open Numeric List Runs Function

structure DataValidator (K : Type) where
  errorMask : Nat
  timeoutInterval : Nat
  timeLast : Nat
  eventCount : Nat
  errorCount : Nat
  errorDensity : Int
  priority : Nat
  mean : Fin 3 → Flt K
  lp : Fin 3 → Flt K
  m2 : Fin 3 → Flt K
  rms : Fin 3 → Flt K
  value : Fin 3 → Flt K
  valueEqualCount : Nat
  valueEqualCountThreshold : Nat

namespace DataValidator

def errorFlagNoError : Nat := 0
def errorFlagNoData : Nat := 1
def errorFlagStaleData : Nat := 2
def errorFlagTimeout : Nat := 4
def errorFlagHighErrcount : Nat := 8
def errorFlagHighErrdensity : Nat := 16

def noreturnErrcount : Nat := 10000
def errorDensityWindow : Int := 100

section
variable {K : Type} [Field K] [LinearOrder K]

def new : DataValidator K :=
  ⟨errorFlagNoError,40000,0,0,0,0,0,fun _ => 0,fun _ => 0,fun _ => 0,fun _ => 0,fun _ => 0,0,100⟩

def statistics (sqrtf : Flt K → Flt K) (val : Fin 3 → Flt K) (v : DataValidator K) (i : Fin 3) : DataValidator K :=
  let lpVal := val i-v.lp i
  let deltaVal := lpVal-v.mean i
  let mean := v.mean i + deltaVal / .fin v.eventCount
  let m2 := v.m2 i + deltaVal * (lpVal - mean)
  { v with
    mean := update v.mean i mean
    m2 := update v.m2 i m2
    rms := update v.rms i (sqrtf (m2 / .fin ((v.eventCount + (2^64 - 1)) % 2^64 : Nat)))
    valueEqualCount := if (v.value i - val i).abs < .fin 0.000001 then (v.valueEqualCount + 1) % 2^32 else 0 }

def putComponent (sqrtf : Flt K → Flt K) (val : Fin 3 → Flt K) (v : DataValidator K) (i : Fin 3) : DataValidator K :=
  if (val i).isFinite then
    let v :=
      if v.timeLast = 0 then
        { v with
          mean := update v.mean i 0
          lp := update v.lp i (val i)
          m2 := update v.m2 i 0 }
      else statistics sqrtf val v i
    { v with
      lp := update v.lp i (v.lp i * .fin 0.99 + .fin 0.01 * val i)
      value := update v.value i (val i) }
  else v

def countErrors (errorCountIn : Nat) (v : DataValidator K) : DataValidator K :=
  { v with
    errorDensity :=
      if errorCountIn > v.errorCount then (v.errorDensity+(errorCountIn-v.errorCount : Nat)).bmod (2^32)
      else if v.errorDensity > 0 then v.errorDensity-1 else v.errorDensity
    errorCount := errorCountIn }

def put (sqrtf : Flt K → Flt K) (timestamp : Nat) (val : Fin 3 → Flt K) (errorCountIn priorityIn : Nat)
    (v : DataValidator K) : DataValidator K :=
  let counted := countErrors errorCountIn {v with eventCount := (v.eventCount + 1) % 2^64}
  { (List.finRange 3).foldl (putComponent sqrtf val) { counted with priority := priorityIn } with
    timeLast := timestamp }

def flag (error : Nat) (v : DataValidator K) : DataValidator K := {v with errorMask := v.errorMask ||| error}

def resetState (v : DataValidator K) : DataValidator K := {v with errorMask := errorFlagNoError}

def capDensity (v : DataValidator K) : DataValidator K :=
  if v.errorDensity > errorDensityWindow then
    {v.flag errorFlagHighErrdensity with errorDensity := errorDensityWindow}
  else v

def confidence (timestamp : Nat) (v : DataValidator K) : Flt K × DataValidator K :=
  if v.timeLast = 0 then (0,v.flag errorFlagNoData)
  else if timestamp > (v.timeLast + v.timeoutInterval) % 2^64 then (0,v.flag errorFlagTimeout)
  else if v.valueEqualCount > v.valueEqualCountThreshold then (0,v.flag errorFlagStaleData)
  else if v.errorCount > noreturnErrcount then (0,v.flag errorFlagHighErrcount)
  else
    let v := v.capDensity
    let ret := 1 - .fin (v.errorDensity : K) / .fin (errorDensityWindow : K)
    (ret,if ret > 0 then v.resetState else v)

end
end DataValidator

structure DataValidatorGroup (K : Type) where
  validators : List (DataValidator K)
  timeoutIntervalUs : Nat
  currBest : Int
  prevBest : Int
  firstFailoverTime : Nat
  toggleCount : Nat

structure BestScan (K : Type) where
  preCheckConfidence : Flt K
  preCheckPrio : Int
  maxConfidence : Flt K
  maxPriority : Int
  best : Option Nat

structure BestResult (K : Type) where
  index : Int
  value : Option (Fin 3 → Flt K)

namespace DataValidatorGroup
variable {K : Type} [Field K] [LinearOrder K]

def minRegularConfidence : Flt K := .fin 0.9

def new (siblings : Nat) : DataValidatorGroup K :=
  ⟨List.replicate siblings DataValidator.new,if siblings = 0 then 0 else 40000,-1,-1,0,0⟩

def addNewValidator (g : DataValidatorGroup K) : DataValidatorGroup K :=
  {g with validators := g.validators ++ [{DataValidator.new with timeoutInterval := g.timeoutIntervalUs}]}

def setTimeout (timeoutIntervalUs : Nat) (g : DataValidatorGroup K) : DataValidatorGroup K :=
  { g with
    validators := g.validators.map fun v => {v with timeoutInterval := timeoutIntervalUs}
    timeoutIntervalUs := timeoutIntervalUs }

def setEqualValueThreshold (threshold : Nat) (g : DataValidatorGroup K) : DataValidatorGroup K :=
  {g with validators := g.validators.map fun v => {v with valueEqualCountThreshold := threshold}}

def put (sqrtf : Flt K → Flt K) (index timestamp : Nat) (val : Fin 3 → Flt K) (errorCount priority : Nat)
    (g : DataValidatorGroup K) : DataValidatorGroup K :=
  {g with validators := g.validators.modify index (DataValidator.put sqrtf timestamp val errorCount priority)}

/-- Switch for a higher confidence and no lower priority, or about the same and a higher priority. -/
def switches (s : BestScan K) (confidence : Flt K) (priority : Int) : Bool :=
  (s.maxConfidence < minRegularConfidence && minRegularConfidence ≤ confidence ||
    confidence > s.maxConfidence && priority ≥ s.maxPriority ||
    (confidence-s.maxConfidence).abs < .fin 0.01 && priority > s.maxPriority) && confidence > 0

def preCheck (preCheckBest : Int) (i : Nat) (confidence : Flt K) (priority : Int) (s : BestScan K) : BestScan K :=
  if i = preCheckBest then {s with preCheckPrio := priority, preCheckConfidence := confidence} else s

def consider (timestamp : Nat) (preCheckBest : Int) (s : BestScan K) (entry : DataValidator K × Nat) : BestScan K :=
  let confidence := (entry.1.confidence timestamp).1
  let s := preCheck preCheckBest entry.2 confidence entry.1.priority s
  if switches s confidence entry.1.priority then
    {s with best := some entry.2, maxConfidence := confidence, maxPriority := entry.1.priority}
  else s

def scan (timestamp : Nat) (g : DataValidatorGroup K) : BestScan K :=
  g.validators.zipIdx.foldl (consider timestamp g.currBest) ⟨1,-1,-1,-1000,none⟩

def maxIndex (s : BestScan K) : Int := s.best.elim (-1) Nat.cast

def prefers (s : BestScan K) : Bool :=
  s.preCheckPrio ≠ -1 && s.preCheckPrio < s.maxPriority && (s.preCheckConfidence-s.maxConfidence).abs < .fin 0.1

def switchBest (timestamp : Nat) (s : BestScan K) (g : DataValidatorGroup K) : DataValidatorGroup K :=
  let failover := decide (0 ≤ g.currBest) && !prefers s
  { g with
    validators :=
      if prefers s then s.best.elim g.validators fun i => g.validators.modify i DataValidator.resetState
      else g.validators
    prevBest := if g.currBest < 0 then maxIndex s else g.currBest
    toggleCount := if failover then (g.toggleCount + 1) % 2^32 else g.toggleCount
    firstFailoverTime := if failover && g.firstFailoverTime = 0 then timestamp else g.firstFailoverTime
    currBest := maxIndex s }

def getBest (timestamp : Nat) (g : DataValidatorGroup K) : BestResult K × DataValidatorGroup K :=
  let s := scan timestamp g
  let g := {g with validators := g.validators.map fun v => (v.confidence timestamp).2}
  let g :=
    if maxIndex s ≠ g.currBest || s.maxConfidence < ControlMath.fltEpsilon && 0 ≤ g.currBest then
      switchBest timestamp s g
    else g
  (⟨maxIndex s,s.best.bind fun i => g.validators[i]?.map DataValidator.value⟩,g)

end DataValidatorGroup

structure SensorPut (K : Type) where
  index : Nat
  timestamp : Nat
  val : Fin 3 → Flt K
  errorCount : Nat
  priority : Nat

inductive SensorEvent (K : Type)
  | put (sample : SensorPut K)
  | getBest (timestamp : Nat)
  | setTimeout (timeoutIntervalUs : Nat)
  | setEqualValueThreshold (threshold : Nat)
  | addNewValidator

namespace DataValidatorGroup
variable {K : Type} [Field K] [LinearOrder K] (sqrtf : Flt K → Flt K)

def step (g : DataValidatorGroup K) : SensorEvent K → DataValidatorGroup K
  | .put sample => g.put sqrtf sample.index sample.timestamp sample.val sample.errorCount sample.priority
  | .getBest timestamp => (g.getBest timestamp).2
  | .setTimeout timeoutIntervalUs => g.setTimeout timeoutIntervalUs
  | .setEqualValueThreshold threshold => g.setEqualValueThreshold threshold
  | .addNewValidator => g.addNewValidator

/-- What is returned was delivered, finite, no longer than the timeout interval before. -/
def Fresh (siblings : Nat) (events : List (SensorEvent K)) : Prop :=
  ∀ before timestamp after, events = before ++ .getBest timestamp :: after →
    let g := before.foldl (step sqrtf) (new siblings)
    ∀ value, (g.getBest timestamp).1.value = some value → ∀ i, ∃ sample, .put sample ∈ before ∧
      sample.val i = value i ∧ (value i).isFinite = true ∧ timestamp ≤ sample.timestamp+g.timeoutIntervalUs

def AllFinite (events : List (SensorEvent K)) : Prop :=
  ∀ sample, .put sample ∈ events → ∀ i, (sample.val i).isFinite = true

end DataValidatorGroup

namespace DataValidator
variable {K : Type} [Field K] [LinearOrder K] (sqrtf : Flt K → Flt K)

lemma putComponent_value (finite : (val i).isFinite) (v : DataValidator K) :
    (putComponent sqrtf val v i).value = update v.value i (val i) := by
  rw [putComponent,if_pos finite]
  split <;> rfl

lemma putComponent_timeoutInterval (val : Fin 3 → Flt K) (v : DataValidator K) (i : Fin 3) :
    (putComponent sqrtf val v i).timeoutInterval = v.timeoutInterval := by
  rw [putComponent]
  split_ifs
  · rfl
  · rfl
  · rfl

lemma put_value (finite : ∀ i, (val i).isFinite) (now errorCountIn priorityIn : Nat)
    (v : DataValidator K) : (put sqrtf now val errorCountIn priorityIn v).value = val := by
  have three : List.finRange 3 = [0,1,2] := by decide
  rw [put,three]
  simp only [foldl_cons,foldl_nil,putComponent_value sqrtf (finite _)]
  funext i
  fin_cases i <;> rfl

lemma put_timeoutInterval (now : Nat) (val : Fin 3 → Flt K) (errorCountIn priorityIn : Nat)
    (v : DataValidator K) : (put sqrtf now val errorCountIn priorityIn v).timeoutInterval =
      v.timeoutInterval := by
  apply foldl_preserved (fun w : DataValidator K => w.timeoutInterval = v.timeoutInterval)
  · intro w i same
    rw [putComponent_timeoutInterval,same]
  · rfl

def delivery (v : DataValidator K) : Nat × Nat × (Fin 3 → Flt K) := (v.timeoutInterval,v.timeLast,v.value)

lemma confidence_delivery (now : Nat) (v : DataValidator K) : (v.confidence now).2.delivery = v.delivery := by
  have capped : v.capDensity.delivery = v.delivery := by
    rw [capDensity]
    split <;> rfl
  rw [confidence]
  split
  · rfl
  split
  · rfl
  split
  · rfl
  split
  · rfl
  dsimp only
  split <;> exact capped

lemma fresh_of_confidence {now : Nat} {v : DataValidator K} (confident : (v.confidence now).1 > 0) :
    v.timeLast ≠ 0 ∧ now ≤ v.timeLast+v.timeoutInterval := by
  rw [confidence] at confident
  split at confident
  · exact absurd confident (lt_irrefl (0 : K))
  next used =>
    split at confident
    · exact absurd confident (lt_irrefl (0 : K))
    next recent => exact ⟨used,(not_lt.mp recent).trans (Nat.mod_le _ _)⟩

end DataValidator

namespace DataValidatorGroup
variable {K : Type} [Field K] [LinearOrder K] (sqrtf : Flt K → Flt K)

omit [Field K] [LinearOrder K] in
lemma preCheck_best (preCheckBest : Int) (i : Nat) (confidence : Flt K) (priority : Int) (s : BestScan K) :
    (preCheck preCheckBest i confidence priority s).best = s.best := by
  rw [preCheck]
  split <;> rfl

lemma confident_of_best {preCheckBest : Int} (entries : List (DataValidator K × Nat))
    (s : BestScan K) (unset : s.best = none) :
    ∀ i, (entries.foldl (consider timestamp preCheckBest) s).best = some i →
      ∃ v, (v,i) ∈ entries ∧ (v.confidence timestamp).1 > 0 := by
  apply foldl_history fun before (found : BestScan K) => ∀ i, found.best = some i →
    ∃ v, (v,i) ∈ before ∧ (DataValidator.confidence timestamp v).1 > 0
  · simp [unset]
  intro before entry earlier i best
  generalize before.foldl (consider timestamp preCheckBest) s = found at earlier best
  rw [consider] at best
  split at best
  next better =>
    cases best
    rw [switches,Bool.and_eq_true] at better
    exact ⟨entry.1,mem_append_right _ mem_cons_self,of_decide_eq_true better.2⟩
  · obtain ⟨v,member,confident⟩ := earlier i ((preCheck_best _ _ _ _ found).symm.trans best)
    exact ⟨v,mem_append_left _ member,confident⟩

variable (timestamp : Nat)

lemma switchBest_delivery (s : BestScan K) (g : DataValidatorGroup K) (i : Nat) :
    (switchBest timestamp s g).validators[i]?.map DataValidator.delivery =
      g.validators[i]?.map DataValidator.delivery := by
  rw [switchBest]
  split
  · cases s.best with
    | none => rfl
    | some j =>
      rw [Option.elim_some,getElem?_modify]
      cases g.validators[i]? with
      | none => rfl
      | some v =>
        by_cases here : j = i
        · simp [here,DataValidator.resetState,DataValidator.delivery]
        · simp [here]
  · rfl

lemma getBest_delivery (g : DataValidatorGroup K) (i : Nat) :
    (g.getBest timestamp).2.validators[i]?.map DataValidator.delivery =
      g.validators[i]?.map DataValidator.delivery := by
  have scanned : (g.validators.map fun v => (v.confidence timestamp).2)[i]?.map DataValidator.delivery =
      g.validators[i]?.map DataValidator.delivery := by
    rw [getElem?_map,Option.map_map]
    congr
    funext v
    exact v.confidence_delivery timestamp
  rw [getBest]
  split
  · rw [switchBest_delivery,scanned]
  · exact scanned

lemma getBest_timeoutIntervalUs (g : DataValidatorGroup K) :
    (g.getBest timestamp).2.timeoutIntervalUs = g.timeoutIntervalUs := by
  rw [getBest]
  split <;> rfl

variable {g : DataValidatorGroup K} {before : List (SensorEvent K)}

lemma getBest_validator {now : Nat} {value : Fin 3 → Flt K} (found : (g.getBest now).1.value = some value) :
    ∃ (i : Nat) (v : DataValidator K), g.validators[i]? = some v ∧ (v.confidence now).1 > 0 ∧
      v.value = value := by
  obtain ⟨i,best,place⟩ := Option.bind_eq_some_iff.mp found
  obtain ⟨v,member,confident⟩ := confident_of_best g.validators.zipIdx _ rfl i best
  rw [mk_mem_zipIdx_iff_getElem?] at member
  obtain ⟨w,there,rfl⟩ := Option.map_eq_some_iff.mp place
  have same := getBest_delivery now g i
  rw [member] at same
  have equal : w.delivery = v.delivery := by
    have moved : (g.getBest now).2.validators[i]? = some w := there
    rw [moved] at same
    exact Option.some.inj same
  exact ⟨i,v,member,confident,(congrArg (fun d => d.2.2) equal).symm⟩

def Holds (before : List (SensorEvent K)) (g : DataValidatorGroup K) : Prop :=
  ∀ (i : Nat) (v : DataValidator K), g.validators[i]? = some v → v.timeoutInterval = g.timeoutIntervalUs ∧
    (v.timeLast ≠ 0 → ∃ sample, .put sample ∈ before ∧ sample.timestamp = v.timeLast ∧ sample.val = v.value)

omit [Field K] [LinearOrder K] in
lemma Holds.of_delivery {next : DataValidatorGroup K} (holds : Holds before g)
    (timeout : next.timeoutIntervalUs = g.timeoutIntervalUs)
    (same : ∀ i : Nat, next.validators[i]?.map DataValidator.delivery = g.validators[i]?.map DataValidator.delivery) :
    Holds before next := by
  intro i w place
  have same := same i
  rw [place,Option.map_some,eq_comm,Option.map_eq_some_iff] at same
  obtain ⟨v,there,equal⟩ := same
  have interval : v.timeoutInterval = w.timeoutInterval := congrArg Prod.fst equal
  have last : v.timeLast = w.timeLast := congrArg (fun d => d.2.1) equal
  have value : v.value = w.value := congrArg (fun d => d.2.2) equal
  rw [timeout,← interval,← last,← value]
  exact holds i v there

omit [Field K] [LinearOrder K] in
lemma Holds.later (holds : Holds before g) (event : SensorEvent K) : Holds (before ++ [event]) g := by
  intro i v place
  refine ⟨(holds i v place).1,fun used => ?_⟩
  obtain ⟨sample,member,same⟩ := (holds i v place).2 used
  exact ⟨sample,mem_append_left _ member,same⟩

lemma Holds.put (holds : Holds before g) (sample : SensorPut K) (finite : ∀ i, (sample.val i).isFinite) :
    Holds (before ++ [.put sample]) (step sqrtf g (.put sample)) := by
  intro i w place
  rw [step,DataValidatorGroup.put,getElem?_modify] at place
  obtain ⟨v,there,rfl⟩ := Option.map_eq_some_iff.mp place
  by_cases here : sample.index = i
  · rw [if_pos here]
    refine ⟨(DataValidator.put_timeoutInterval _ _ _ _ _ v).trans (holds i v there).1,fun _ => ?_⟩
    exact ⟨sample,mem_append_right _ mem_cons_self,rfl,(DataValidator.put_value sqrtf finite _ _ _ v).symm⟩
  · rw [if_neg here]
    exact holds.later _ i v there

omit [Field K] [LinearOrder K] in
lemma Holds.setTimeout (holds : Holds before g)
    (timeoutIntervalUs : Nat) : Holds before (g.setTimeout timeoutIntervalUs) := by
  intro i w place
  rw [DataValidatorGroup.setTimeout,getElem?_map] at place
  obtain ⟨v,there,rfl⟩ := Option.map_eq_some_iff.mp place
  exact ⟨rfl,(holds i v there).2⟩

omit [LinearOrder K] in
lemma Holds.addNewValidator (holds : Holds before g) : Holds before g.addNewValidator := by
  intro i w place
  rw [DataValidatorGroup.addNewValidator,getElem?_append] at place
  split at place
  · exact holds i w place
  · cases mem_singleton.mp (mem_of_getElem? place)
    exact ⟨rfl,fun used => absurd rfl used⟩

lemma Holds.step (holds : Holds before g) (event : SensorEvent K) (finite : AllFinite (before ++ [event])) :
    Holds (before ++ [event]) (step sqrtf g event) := by
  cases event with
  | put sample => exact holds.put sqrtf sample (finite sample (mem_append_right _ mem_cons_self))
  | getBest timestamp =>
    exact (holds.later _).of_delivery (getBest_timeoutIntervalUs timestamp g) (getBest_delivery timestamp g)
  | setTimeout timeoutIntervalUs => exact (holds.later _).setTimeout timeoutIntervalUs
  | setEqualValueThreshold threshold =>
    refine (holds.later _).of_delivery rfl fun i => ?_
    rw [DataValidatorGroup.step,setEqualValueThreshold,getElem?_map,Option.map_map]
    rfl
  | addNewValidator => exact (holds.later _).addNewValidator

lemma holds_run (siblings : Nat) (events : List (SensorEvent K)) (finite : AllFinite events) :
    Holds events (events.foldl (DataValidatorGroup.step sqrtf) (new siblings)) := by
  revert finite
  apply foldl_history fun before (g : DataValidatorGroup K) => AllFinite before → Holds before g
  · intro _ i v place
    have member := mem_of_getElem? place
    rw [new,mem_replicate] at member
    obtain ⟨some,rfl⟩ := member
    refine ⟨?_,fun used => absurd rfl used⟩
    rw [new,if_neg some]
    rfl
  · intro before event holds finite
    exact (holds fun sample member => finite sample (mem_append_left _ member)).step sqrtf event finite

/-- As long as every sample is finite in all components, what is returned is fresh. -/
theorem fresh_of_allFinite (siblings : Nat) (events : List (SensorEvent K)) (finite : AllFinite events) :
    Fresh sqrtf siblings events := by
  intro before timestamp after split g value found i
  have earlier : AllFinite before := fun sample member => finite sample (split ▸ List.mem_append_left _ member)
  obtain ⟨j,v,place,confident,rfl⟩ := getBest_validator found
  obtain ⟨used,recent⟩ := DataValidator.fresh_of_confidence confident
  obtain ⟨interval,delivered⟩ := holds_run sqrtf siblings before earlier j v place
  obtain ⟨sample,member,last,same⟩ := delivered used
  refine ⟨sample,member,congrFun same i,?_,?_⟩
  · rw [← same]
    exact earlier sample member i
  · rw [last]
    exact interval ▸ recent

/-- The second sensor has the higher priority, and stops delivering. -/
def twoSensors : List (SensorEvent ℚ) :=
  [.put ⟨0,1000,fun _ => .fin 1,0,50⟩,.put ⟨1,2000,fun _ => .fin 2,0,75⟩,.getBest 3000,
    .put ⟨0,60000,fun _ => .fin 3,0,50⟩,.getBest 61000]

theorem fresh_twoSensors : AllFinite twoSensors ∧ Fresh id 2 twoSensors ∧
    outputs (fun g e => (match e with | .getBest now => (g.getBest now).1.value.map (· 0) | _ => none,g.step id e))
      (new 2) twoSensors = [none,none,some (.fin 2),none,some (.fin 3)] := by
  have finite : AllFinite twoSensors := by
    intro sample member i
    simp only [twoSensors,List.mem_cons,SensorEvent.put.injEq,reduceCtorEq,List.not_mem_nil,or_false,false_or] at member
    rcases member with rfl | rfl | rfl <;> rfl
  exact ⟨finite,fresh_of_allFinite id 2 twoSensors finite,by decide +kernel⟩

def staleSample : List (SensorEvent ℚ) :=
  [.put ⟨0,1000,fun _ => .fin 1,0,50⟩,.put ⟨0,1000000,fun _ => .nan,0,50⟩,.getBest 1000000]

theorem not_fresh_staleSample : ¬ Fresh id 1 staleSample := by
  intro fresh
  let before : List (SensorEvent ℚ) := staleSample.take 2
  have returned : (((before.foldl (step id) (new 1)).getBest 1000000).1.value.map fun value => value 0) =
      some (.fin 1) := by decide +kernel
  obtain ⟨value,found,one⟩ := Option.map_eq_some_iff.mp returned
  obtain ⟨sample,member,same,_,recent⟩ := fresh before 1000000 [] rfl value found 0
  rcases List.mem_cons.mp member with first | second
  · cases first
    revert recent
    decide +kernel
  · cases List.mem_singleton.mp second
    rw [one] at same
    cases same

end DataValidatorGroup
end AerialManipulator
