import Uam.DataValidator

/-! Which sensor of a group is chosen. The rules for leaving one for the next are transitive on
hundredths, where less than one percent apart means equal. -/
namespace AerialManipulator
open Numeric Flt List

section
variable {K : Type} [Field K] [LinearOrder K]

def grade (n : Int) : Flt K := .fin (n / 100)

namespace DataValidator
variable (now : Nat) (v : DataValidator K)

def hundredths : Int :=
  if v.timeLast = 0 then 0
  else if now > (v.timeLast + v.timeoutInterval) % 2^64 then 0
  else if v.valueEqualCount > v.valueEqualCountThreshold then 0
  else if v.errorCount > noreturnErrcount then 0
  else 100-min v.errorDensity errorDensityWindow

end DataValidator

/-- The chosen sensor has some confidence, regular if any has, and none is better in one
respect and no worse in the other. -/
structure Elected (now : Nat) (sensors : List (DataValidator K)) (best : DataValidator K) : Prop where
  confident : 0 < (best.confidence now).1
  undominated : ∀ other ∈ sensors, ¬ ((best.confidence now).1 ≤ (other.confidence now).1 ∧
    best.priority ≤ other.priority ∧
    ((best.confidence now).1 < (other.confidence now).1 ∨ best.priority < other.priority))
  regular : ∀ other ∈ sensors, DataValidatorGroup.minRegularConfidence ≤ (other.confidence now).1 →
    DataValidatorGroup.minRegularConfidence ≤ (best.confidence now).1

variable [IsStrictOrderedRing K]

lemma grade_lt (m n : Int) : (grade m : Flt K) < grade n ↔ m < n := by
  rw [grade,grade,fin_lt,div_lt_div_iff_of_pos_right (by norm_num),Int.cast_lt]

lemma grade_le (m n : Int) : (grade m : Flt K) ≤ grade n ↔ m ≤ n := by
  rw [grade,grade,fin_le,div_le_div_iff_of_pos_right (by norm_num),Int.cast_le]

omit [LinearOrder K] [IsStrictOrderedRing K] in
lemma zero_eq_grade : (0 : Flt K) = grade 0 := by simp [grade]

lemma regular_eq_grade : (DataValidatorGroup.minRegularConfidence : Flt K) = grade 90 := by
  rw [DataValidatorGroup.minRegularConfidence,grade]
  norm_num

lemma grade_close (m n : Int) : (grade n-grade m : Flt K).abs < .fin 0.01 ↔ n = m := by
  have scaled : (grade n-grade m : Flt K).abs = grade |n-m| := by
    simp [grade,← sub_div,abs_div]
  have percent : (.fin 0.01 : Flt K) = grade 1 := by
    rw [grade]
    norm_num
  rw [scaled,percent,grade_lt,Int.abs_lt_one_iff,sub_eq_zero]

lemma DataValidator.confidence_eq (now : Nat) (v : DataValidator K) :
    (v.confidence now).1 = grade (v.hundredths now) := by
  have capped : v.capDensity.errorDensity = min v.errorDensity errorDensityWindow := by
    rw [capDensity]
    split
    next above => exact (min_eq_right above.le).symm
    next below => exact (min_eq_left (not_lt.mp below)).symm
  rw [confidence,hundredths]
  split_ifs
  · exact zero_eq_grade
  · exact zero_eq_grade
  · exact zero_eq_grade
  · exact zero_eq_grade
  · dsimp only
    rw [capped]
    simp [grade,errorDensityWindow,sub_div]

end

namespace DataValidatorGroup
variable {K : Type} [Field K] [LinearOrder K] [IsStrictOrderedRing K] {now : Nat}

lemma switches_iff {s : BestScan K} (most : s.maxConfidence = grade m) (first : s.maxPriority = q) (n p : Int) :
    switches s (grade n) p = true ↔ (m < 90 ∧ 90 ≤ n ∨ m < n ∧ q ≤ p ∨ n = m ∧ q < p) ∧ 0 < n := by
  simp only [switches,most,first,regular_eq_grade,zero_eq_grade,Bool.and_eq_true,Bool.or_eq_true,decide_eq_true_iff,
    GT.gt,GE.ge,grade_lt,grade_le,grade_close]
  tauto

def Leads (now : Nat) (seen : List (DataValidator K × Nat)) (s : BestScan K) : Prop :=
  ∃ m q : Int, s.maxConfidence = grade m ∧ s.maxPriority = q ∧
    (s.best = none ∧ m = -100 ∧ q = -1000 ∨
      ∃ e ∈ seen, s.best = some e.2 ∧ m = e.1.hundredths now ∧ q = e.1.priority ∧ 0 < m) ∧
    ∀ e ∈ seen, 0 < e.1.hundredths now → (90 ≤ e.1.hundredths now → 90 ≤ m) ∧
      ¬ (m ≤ e.1.hundredths now ∧ q ≤ e.1.priority ∧ (m < e.1.hundredths now ∨ q < e.1.priority))

lemma Leads.consider {seen : List (DataValidator K × Nat)} {s : BestScan K} (leads : Leads now seen s)
    (current : Int) (e : DataValidator K × Nat) :
    Leads now (seen ++ [e]) (DataValidatorGroup.consider now current s e) := by
  have checked : Leads now seen (preCheck current e.2 (e.1.confidence now).1 e.1.priority s) := by
    rw [preCheck]
    split <;> exact leads
  rw [DataValidatorGroup.consider]
  generalize preCheck current e.2 _ _ s = s at checked
  obtain ⟨m,q,most,first,led,behind⟩ := checked
  rw [DataValidator.confidence_eq]
  split
  next better =>
    rw [switches_iff most first] at better
    refine ⟨e.1.hundredths now,e.1.priority,rfl,rfl,.inr ⟨e,by simp,rfl,rfl,rfl,better.2⟩,?_⟩
    rw [forall_mem_append,forall_mem_singleton]
    refine ⟨fun other before => ?_,by omega⟩
    have := behind other before
    omega
  next worse =>
    rw [switches_iff most first] at worse
    refine ⟨m,q,most,first,?_,forall_mem_append.mpr ⟨behind,forall_mem_singleton.mpr (by omega)⟩⟩
    rcases led with unset | ⟨leader,member,set⟩
    · exact .inl unset
    · exact .inr ⟨leader,mem_append_left _ member,set⟩

lemma leads_scan (now : Nat) (g : DataValidatorGroup K) : Leads now g.validators.zipIdx (scan now g) := by
  apply Runs.foldl_history (Leads now)
  · exact ⟨-100,-1000,by simp [grade],rfl,.inl ⟨rfl,rfl,rfl⟩,by simp⟩
  · exact fun before e leads => leads.consider g.currBest e

/-- The chosen sensor is elected by all, and none is only if none has any confidence. -/
structure Votes (now : Nat) (g : DataValidatorGroup K) : Prop where
  chosen : ∀ i : Nat, (g.getBest now).1.index = i →
    ∃ best, g.validators[i]? = some best ∧ Elected now g.validators best
  nothing : (g.getBest now).1.value = none ↔ ∀ v ∈ g.validators, ¬ 0 < (v.confidence now).1

lemma confident_iff (v : DataValidator K) : 0 < (v.confidence now).1 ↔ 0 < v.hundredths now := by
  rw [v.confidence_eq,zero_eq_grade,grade_lt]

/-- Every group votes in this way, at any time and after any history. -/
theorem votes (now : Nat) (g : DataValidatorGroup K) : g.Votes now := by
  have index : (g.getBest now).1.index = maxIndex (scan now g) := rfl
  have value : (g.getBest now).1.value = (scan now g).best.bind fun i =>
    (g.getBest now).2.validators[i]?.map DataValidator.value := rfl
  obtain ⟨m,q,_,_,⟨unset,rfl,rfl⟩ | ⟨⟨best,i⟩,member,set,rfl,rfl,positive⟩,behind⟩ := leads_scan now g
  · rw [maxIndex,unset] at index
    rw [unset] at value
    refine ⟨fun i chosen => ?_,iff_of_true value fun v member => ?_⟩
    · rw [index] at chosen
      cases chosen
    · obtain ⟨i,there⟩ := mem_iff_getElem?.mp member
      have low := behind (v,i) (mk_mem_zipIdx_iff_getElem?.mpr there)
      dsimp only at low
      rw [confident_iff]
      omega
  · have there := mk_mem_zipIdx_iff_getElem?.mp member
    have elected : Elected now g.validators best := by
      refine ⟨(confident_iff best).mpr positive,fun other among => ?_,fun other among => ?_⟩
      all_goals
        obtain ⟨j,place⟩ := mem_iff_getElem?.mp among
        have apart := behind (other,j) (mk_mem_zipIdx_iff_getElem?.mpr place)
        dsimp only at apart positive
        simp only [regular_eq_grade,DataValidator.confidence_eq,grade_le,grade_lt]
        omega
    rw [maxIndex,set] at index
    refine ⟨fun j chosen => ?_,iff_of_false ?_ fun none => none best (mem_of_getElem? there) elected.confident⟩
    · rw [index] at chosen
      cases Int.ofNat.inj chosen
      exact ⟨best,there,elected⟩
    · have same := getBest_delivery now g i
      rw [value,set]
      intro missing
      simp_all

theorem votes_twoSensors : let g := (twoSensors.take 2).foldl (step id) (new 2)
    g.Votes 3000 ∧ (g.getBest 3000).1.index = 1 := ⟨votes 3000 _,by decide +kernel⟩

end DataValidatorGroup
end AerialManipulator
