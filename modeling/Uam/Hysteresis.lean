import Mathlib.Data.BitVec
import Uam.Library.Runs

/-! The time hysteresis of the flight stack: a state is taken over once it has been requested
for the time of its direction. -/
namespace AerialManipulator

/-- Absolute time in microseconds; the machine arithmetic wraps around. -/
abbrev HrtAbstime := BitVec 64

structure Hysteresis where
  lastTimeToChangeState : HrtAbstime
  timeFromTrueUs : HrtAbstime
  timeFromFalseUs : HrtAbstime
  state : Bool
  requestedState : Bool
  deriving DecidableEq, Repr

namespace Hysteresis

def init (initState : Bool) : Hysteresis := ⟨0,0,0,initState,initState⟩

def setHysteresisTimeFrom (h : Hysteresis) (fromState : Bool) (newHysteresisTimeUs : HrtAbstime) : Hysteresis :=
  if fromState then {h with timeFromTrueUs := newHysteresisTimeUs}
  else {h with timeFromFalseUs := newHysteresisTimeUs}

def update (h : Hysteresis) (nowUs : HrtAbstime) : Hysteresis :=
  if h.requestedState ≠ h.state then
    let elapsed := nowUs-h.lastTimeToChangeState
    if h.state && !h.requestedState then
      -- true -> false
      if elapsed ≥ h.timeFromTrueUs then {h with state := false} else h
    else if !h.state && h.requestedState then
      -- false -> true
      if elapsed ≥ h.timeFromFalseUs then {h with state := true} else h
    else h
  else h

def setStateAndUpdate (h : Hysteresis) (newState : Bool) (nowUs : HrtAbstime) : Hysteresis :=
  let h :=
    if newState ≠ h.state then
      if newState ≠ h.requestedState then
        {h with requestedState := newState, lastTimeToChangeState := nowUs}
      else h
    else {h with requestedState := h.state}
  h.update nowUs

variable {h : Hysteresis} {delay : HrtAbstime} {requests : List Request}

lemma setStateAndUpdate_false (quick : h.timeFromTrueUs = 0) (nowUs : HrtAbstime) :
    (h.setStateAndUpdate false nowUs).state = false ∧ (h.setStateAndUpdate false nowUs).requestedState = false := by
  have elapsed : ∀ time : HrtAbstime, 0#64 ≤ time := fun time => by bv_omega
  cases old : h.state <;> cases asked : h.requestedState <;>
    simp [setStateAndUpdate,update,old,asked,quick,elapsed]

lemma setStateAndUpdate_true (h : Hysteresis) (nowUs : HrtAbstime) :
    (h.setStateAndUpdate true nowUs).requestedState ∧ (h.setStateAndUpdate true nowUs).lastTimeToChangeState =
        (if h.state || h.requestedState then h.lastTimeToChangeState else nowUs) ∧
      (h.setStateAndUpdate true nowUs).state =
        (h.state || h.timeFromFalseUs ≤ nowUs-(h.setStateAndUpdate true nowUs).lastTimeToChangeState) := by
  cases old : h.state <;> cases asked : h.requestedState <;> simp [setStateAndUpdate,update,old,asked]
  all_goals split <;> simp_all

lemma update_times (h : Hysteresis) (nowUs : HrtAbstime) :
    (h.update nowUs).timeFromTrueUs = h.timeFromTrueUs ∧ (h.update nowUs).timeFromFalseUs = h.timeFromFalseUs := by
  cases old : h.state <;> cases asked : h.requestedState <;> simp [update,old,asked]
  all_goals split <;> exact ⟨rfl,rfl⟩

lemma setStateAndUpdate_times (h : Hysteresis) (newState : Bool) (nowUs : HrtAbstime) :
    (h.setStateAndUpdate newState nowUs).timeFromTrueUs = h.timeFromTrueUs ∧
      (h.setStateAndUpdate newState nowUs).timeFromFalseUs = h.timeFromFalseUs := by
  unfold setStateAndUpdate
  simp only [update_times]
  constructor <;> split_ifs <;> rfl

abbrev Request := Bool × HrtAbstime

def request (h : Hysteresis) (r : Request) : Hysteresis := h.setStateAndUpdate r.1 r.2

def slowToTrue (delay : HrtAbstime) : Hysteresis := (init false).setHysteresisTimeFrom false delay

def RequestedFor (delay : HrtAbstime) (requests : List Request) : Prop :=
  ∃ older first window last, requests = older ++ first::window ∧ (∀ r ∈ first::window, r.1 = true) ∧
    (first::window).getLast? = some last ∧ first.2.toNat+delay.toNat ≤ last.2.toNat

structure Remembers (delay : HrtAbstime) (requests : List Request) (h : Hysteresis) : Prop where
  quick : h.timeFromTrueUs = 0
  slow : h.timeFromFalseUs = delay
  since : (h.state || h.requestedState) = true → ∃ older first window, requests = older ++ first::window ∧
    (∀ r ∈ first::window, r.1 = true) ∧ first.2 = h.lastTimeToChangeState
  reached : h.state = true → ∃ last, requests.getLast? = some last ∧
    h.lastTimeToChangeState.toNat+delay.toNat ≤ last.2.toNat

section
variable (before : Remembers delay requests h)
include before

lemma since_request_true (now : HrtAbstime) :
    ∃ older first window, requests ++ [(true,now)] = older ++ first::window ∧ (∀ r ∈ first::window, r.1) ∧
      first.2 = (h.setStateAndUpdate true now).lastTimeToChangeState := by
  obtain ⟨-,last,-⟩ := h.setStateAndUpdate_true now
  by_cases running : (h.state || h.requestedState) = true
  · obtain ⟨older,first,window,split,armed,start⟩ := before.since running
    refine ⟨older,first,window ++ [(true,now)],by simp [split],?_,?_⟩
    · simpa [or_imp,forall_and] using armed
    · rw [start]
      simp [last,running]
  · exact ⟨requests,(true,now),[],rfl,by simp,by simp [last,running]⟩

lemma reached_request_true (past : ∀ earlier ∈ requests, earlier.2 ≤ now) (on : (h.setStateAndUpdate true now).state) :
    (h.setStateAndUpdate true now).lastTimeToChangeState.toNat+delay.toNat ≤ now.toNat := by
  obtain ⟨-,last,state⟩ := h.setStateAndUpdate_true now
  -- the state was on, and the clock only went on, or the delay has passed since
  by_cases already : h.state = true
  · obtain ⟨latest,found,reached⟩ := before.reached already
    have earlier := past latest (List.mem_of_getLast? found)
    simp only [already,Bool.true_or,if_true] at last
    rw [last]
    bv_omega
  · have begun : (h.setStateAndUpdate true now).lastTimeToChangeState ≤ now := by
      rw [last]
      split
      next running =>
        obtain ⟨older,first,window,split,-,start⟩ := before.since running
        exact start ▸ past first (by simp [split])
      · exact BitVec.le_refl now
    simp only [state,already,Bool.false_or,decide_eq_true_eq,before.slow] at on
    bv_omega

lemma remembers_request (r : Request) (ordered : ((requests ++ [r]).map Prod.snd).Pairwise (· ≤ ·)) :
    Remembers delay (requests ++ [r]) (h.request r) := by
  obtain ⟨asked,now⟩ := r
  have past : ∀ earlier ∈ requests, earlier.2 ≤ now := by
    rw [List.map_append,List.pairwise_append] at ordered
    exact fun earlier member => ordered.2.2 _ (List.mem_map_of_mem member) now (by simp)
  obtain ⟨quick,slow⟩ := h.setStateAndUpdate_times asked now
  cases asked with
  | false =>
    obtain ⟨off,idle⟩ := setStateAndUpdate_false before.quick now
    refine ⟨quick.trans before.quick,slow.trans before.slow,?_,?_⟩ <;> simp [request,off,idle]
  | true =>
    exact ⟨quick.trans before.quick,slow.trans before.slow,fun _ => since_request_true before now,
      fun on => ⟨(true,now),by simp,reached_request_true before past on⟩⟩

end

lemma remembers_run (ordered : (requests.map Prod.snd).Pairwise (· ≤ ·)) :
    Remembers delay requests (requests.foldl request (slowToTrue delay)) := by
  refine Runs.foldl_history (fun requests h => (requests.map Prod.snd).Pairwise (· ≤ ·) → Remembers delay requests h)
    (fun _ => ?_) (fun earlier r remembers ordered => ?_) requests ordered
  · exact ⟨rfl,rfl,by simp [slowToTrue,init,setHysteresisTimeFrom],by simp [slowToTrue,init,setHysteresisTimeFrom]⟩
  · refine remembers_request (remembers ?_) r ordered
    rw [List.map_append,List.pairwise_append] at ordered
    exact ordered.1

lemma requestedFor_of_state (ordered : (requests.map Prod.snd).Pairwise (· ≤ ·))
    (on : (requests.foldl request (slowToTrue delay)).state) : RequestedFor delay requests := by
  have remembers : Remembers delay requests _ := remembers_run ordered
  obtain ⟨older,first,window,split,armed,start⟩ := remembers.since (by simp [on])
  obtain ⟨last,found,reached⟩ := remembers.reached on
  refine ⟨older,first,window,last,split,armed,?_,start ▸ reached⟩
  rw [split] at found
  simpa using found

end Hysteresis
end AerialManipulator
