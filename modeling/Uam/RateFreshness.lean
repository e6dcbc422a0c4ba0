import Uam.RateModule

/-! Freshness of the attitude loop's inputs in the rate loop, over every order of publications and
samples. The runs carry the newest message and whether each cycle kept it. -/
namespace AerialManipulator.RateModule
open Numeric Runs
variable {K : Type*} [Field K]

inductive Event (K : Type*) where
  | publish (message : EsoRateAux K)
  | sample (sample : GyroSample K)

/-- At most 100 ms older than the sample; a newer message is fresh. -/
def Fresh (message : EsoRateAux K) (now : HrtAbstime) : Prop :=
  now.toNat ≤ message.timestamp.toNat+esoAuxTimeout.toNat

instance (message : EsoRateAux K) (now : HrtAbstime) : Decidable (Fresh message now) :=
  inferInstanceAs (Decidable (_ ≤ _))

def expectedAux (newest : Option (EsoRateAux K)) (now : HrtAbstime) : RateControl.Aux K :=
  match newest with
  | some message => if Fresh message now then message.aux else 0
  | none => 0

def recent (message : EsoRateAux K) (now : HrtAbstime) : Bool :=
  message.timestamp != 0 && decide (now-message.timestamp ≤ esoAuxTimeout)

def keeps (message : EsoRateAux K) (sample : GyroSample K) : Bool :=
  recent message sample.timestampSample && !(controllerRuns sample && resets sample)

structure Received (K : Type*) where
  module : RateModule K
  newest : Option (EsoRateAux K)
  intact : Bool

namespace Received

def step [LinearOrder K] (r : Received K) : Event K → Received K
  | .publish message => ⟨r.module.publish message,some message,true⟩
  | .sample sample => ⟨r.module.run sample,r.newest,r.intact && r.newest.any (keeps · sample)⟩

def init (params : RateControl.Params K) (bandwidth : Vector3 (Flt K)) : Received K :=
  ⟨.fresh params bandwidth,none,true⟩

def cached (newest : Option (EsoRateAux K)) (intact : Bool) : RateControl.Aux K :=
  match newest with
  | some message => if intact then message.aux else 0
  | none => 0

structure Tracks (r : Received K) : Prop where
  unread : ∀ message, r.module.esoRateAuxSub = some message → r.newest = some message ∧ r.intact = true
  stamp : r.module.esoRateAuxSub = none → r.module.lastEsoAuxTimestamp = (r.newest.map (·.timestamp)).getD 0
  aux : r.module.esoRateAuxSub = none → r.module.rateControl.aux = cached r.newest r.intact

end Received

variable (m : RateModule K)

lemma expireAux_aux (now : HrtAbstime) : (m.expireAux now).rateControl.aux =
    if m.lastEsoAuxTimestamp ≠ 0 ∧ now-m.lastEsoAuxTimestamp ≤ esoAuxTimeout then m.rateControl.aux
    else 0 := by
  unfold expireAux
  split
  next expired =>
    rw [if_neg]
    · rfl
    · rintro ⟨nonzero,young⟩
      rcases expired with zero | old
      · exact nonzero zero
      · exact absurd young (BitVec.not_le.mpr old)
  next current =>
    rw [not_or] at current
    rw [if_pos ⟨current.1,BitVec.not_lt.mp current.2⟩]

lemma judgeAux_unread {m : RateModule K} (unread : m.esoRateAuxSub = some message)
    (now : HrtAbstime) : (m.judgeAux now).rateControl.aux = if recent message now then message.aux else 0 := by
  have stamp : (m.receiveAux now).lastEsoAuxTimestamp = message.timestamp := by
    simp only [receiveAux,unread]
    split <;> rfl
  rw [judgeAux,expireAux_aux,stamp]
  by_cases current : message.timestamp ≠ 0 ∧ now-message.timestamp ≤ esoAuxTimeout
  · have accepted : recent message now = true := by simpa [recent] using current
    rw [if_pos current,if_pos accepted]
    simp only [receiveAux,unread]
    rw [if_pos current.2]
    rfl
  · have rejected : recent message now ≠ true := by simpa [recent] using current
    rw [if_neg current,if_neg rejected]

lemma judgeAux_read {m : RateModule K} (read : m.esoRateAuxSub = none) (now : HrtAbstime) :
    (m.judgeAux now).rateControl.aux =
      if m.lastEsoAuxTimestamp ≠ 0 ∧ now-m.lastEsoAuxTimestamp ≤ esoAuxTimeout then m.rateControl.aux
      else 0 := by
  have same : m.receiveAux now = m := by simp [receiveAux,read]
  rw [judgeAux,same,expireAux_aux]

variable [LinearOrder K]

lemma beforeUpdate_aux (sample : GyroSample K) :
    (m.beforeUpdate sample).rateControl.aux = if controllerRuns sample && resets sample then 0
      else (m.judgeAux sample.timestampSample).rateControl.aux := by
  have kept : ∀ n : RateModule K, (n.allocate sample).rateControl.aux = n.rateControl.aux := by
    intro n
    unfold allocate
    split <;> rfl
  cases runs : controllerRuns sample <;> cases reset : resets sample <;>
    simp [beforeUpdate,resetDisarmed,runs,reset,kept,RateControl.resetESO]

omit [Field K] [LinearOrder K] in
lemma receiveAux_subscription (now : HrtAbstime) :
    (m.receiveAux now).esoRateAuxSub = none ∧ (m.receiveAux now).lastEsoAuxTimestamp =
      (m.esoRateAuxSub.map (·.timestamp)).getD m.lastEsoAuxTimestamp := by
  cases unread : m.esoRateAuxSub with
  | none => simp [receiveAux,unread]
  | some message =>
    simp only [receiveAux,unread]
    split <;> exact ⟨rfl,rfl⟩

lemma run_subscription (sample : GyroSample K) :
    (m.run sample).esoRateAuxSub = none ∧ (m.run sample).lastEsoAuxTimestamp =
      (m.esoRateAuxSub.map (·.timestamp)).getD m.lastEsoAuxTimestamp := by
  have expired : ∀ n : RateModule K, (n.expireAux sample.timestampSample).esoRateAuxSub = n.esoRateAuxSub ∧
      (n.expireAux sample.timestampSample).lastEsoAuxTimestamp = n.lastEsoAuxTimestamp := by
    intro n
    unfold expireAux
    split <;> exact ⟨rfl,rfl⟩
  have prepared : ∀ n : RateModule K, ((n.resetDisarmed sample).allocate sample).esoRateAuxSub = n.esoRateAuxSub ∧
      ((n.resetDisarmed sample).allocate sample).lastEsoAuxTimestamp = n.lastEsoAuxTimestamp := by
    intro n
    unfold allocate resetDisarmed
    split <;> split <;> exact ⟨rfl,rfl⟩
  have received := receiveAux_subscription m sample.timestampSample
  have judged := expired (m.receiveAux sample.timestampSample)
  change (m.beforeUpdate sample).esoRateAuxSub = none ∧ (m.beforeUpdate sample).lastEsoAuxTimestamp = _
  unfold beforeUpdate judgeAux
  split
  · exact ⟨(prepared _).1.trans (judged.1.trans received.1), (prepared _).2.trans (judged.2.trans received.2)⟩
  · exact ⟨judged.1.trans received.1,judged.2.trans received.2⟩

lemma run_aux (sample : GyroSample K) : (m.run sample).rateControl.aux = (m.beforeUpdate sample).rateControl.aux := by
  unfold run
  split <;> rfl

namespace Received

lemma beforeUpdate_cached (tracks : Tracks r) (sample : GyroSample K) :
    (r.module.beforeUpdate sample).rateControl.aux = cached r.newest (r.intact && r.newest.any (keeps · sample)) := by
  have judged : (r.module.judgeAux sample.timestampSample).rateControl.aux =
      cached r.newest (r.intact && r.newest.any (recent · sample.timestampSample)) := by
    cases subscription : r.module.esoRateAuxSub with
    | some message =>
      obtain ⟨newest,intact⟩ := tracks.unread message subscription
      simp [judgeAux_unread subscription,newest,intact,cached]
    | none =>
      rw [judgeAux_read subscription,tracks.stamp subscription,tracks.aux subscription]
      cases newest : r.newest with
      | none => simp [cached]
      | some message => cases r.intact <;> simp [cached,recent]
  rw [beforeUpdate_aux,judged]
  cases reset : controllerRuns sample && resets sample <;> cases newest : r.newest <;>
    simp [cached,keeps,reset]

lemma tracks_step (r : Received K) (event : Event K) (tracks : Tracks r) : Tracks (r.step event) := by
  cases event with
  | publish message =>
    refine ⟨?_,by simp [step,publish],by simp [step,publish]⟩
    intro other unread
    obtain rfl : message = other := by simpa [step,publish] using unread
    exact ⟨rfl,rfl⟩
  | sample sample =>
    obtain ⟨read,stamp⟩ := run_subscription r.module sample
    refine ⟨?_,?_,?_⟩
    · intro message unread
      rw [step,read] at unread
      cases unread
    · intro _
      refine stamp.trans ?_
      cases subscription : r.module.esoRateAuxSub with
      | some message => simp [step,(tracks.unread message subscription).1]
      | none => simpa [step] using tracks.stamp subscription
    · intro _
      exact (run_aux r.module sample).trans (beforeUpdate_cached tracks sample)

/-- The controller uses the newest message while it is fresh, and zero otherwise. -/
def UsesFresh (r : Received K) : Event K → Prop
  | .sample sample => controllerRuns sample = true → (r.module.beforeUpdate sample).rateControl.aux =
      expectedAux r.newest sample.timestampSample
  | .publish _ => True

/-- While fresh, the newest message has been kept by every cycle, unless it carries zeros. -/
def KeptFresh (r : Received K) : Event K → Prop
  | .sample sample => controllerRuns sample = true → ∀ message ∈ r.newest,
      Fresh message sample.timestampSample → (r.intact = true ∧ keeps message sample = true) ∨ message.aux = 0
  | .publish _ => True

omit [Field K] [LinearOrder K] in
lemma Fresh.of_recent (accepted : recent message now = true) : Fresh message now := by
  simp only [recent,Bool.and_eq_true,decide_eq_true_eq] at accepted
  have young := accepted.2
  unfold Fresh
  bv_omega

lemma usesFresh_iff (r : Received K) (event : Event K) (tracks : Tracks r) : UsesFresh r event ↔ KeptFresh r event := by
  cases event with
  | publish => exact Iff.rfl
  | sample sample =>
    apply imp_congr_right
    intro runs
    rw [beforeUpdate_cached tracks]
    cases newest : r.newest with
    | none => simp [cached,expectedAux]
    | some message =>
      have stale : ¬Fresh message sample.timestampSample → keeps message sample = false := by
        intro old
        by_contra kept
        simp only [keeps,Bool.not_eq_false,Bool.and_eq_true] at kept
        exact old (Fresh.of_recent kept.1)
      simp only [cached,expectedAux,Option.any_some,Option.mem_some_iff,forall_eq']
      by_cases fresh : Fresh message sample.timestampSample
      · rcases Bool.eq_false_or_eq_true (keeps message sample) with kept | dropped
        · cases r.intact with
          | true => simp [fresh,kept]
          | false => simpa [fresh,kept] using eq_comm
        · simpa [fresh,dropped] using eq_comm
      · simp [fresh,stale fresh]

/-- The module uses fresh inputs throughout exactly if no cycle meets a fresh message that was dropped. -/
theorem uses_fresh_iff_kept (params : RateControl.Params K) (bandwidth : Vector3 (Flt K))
    (events : List (Event K)) :
    Along step UsesFresh (init params bandwidth) events ↔
      Along step KeptFresh (init params bandwidth) events := by
  have start : Tracks (init params bandwidth) := ⟨by simp [init,RateModule.fresh],fun _ => rfl,fun _ => rfl⟩
  exact along_congr_invariant Tracks tracks_step usesFresh_iff start events

def armedSample (now : HrtAbstime) : GyroSample K :=
  ⟨now,0,0,0,true,false,true,true,false,false,none⟩

theorem newer_message_unused :
    ¬ Along step UsesFresh (init (.defaults : RateControl.Params ℝ) RateControl.defaultBandwidth)
      [.publish ⟨2001000#64,⟨⟨1,1,1⟩,0,0⟩⟩,.sample (armedSample 2000000#64)] := by
  rintro ⟨-,used,-⟩
  have dropped : (((init (.defaults : RateControl.Params ℝ) RateControl.defaultBandwidth).module.publish
      ⟨2001000#64,⟨⟨1,1,1⟩,0,0⟩⟩).beforeUpdate (armedSample 2000000#64)).rateControl.aux = 0 := by
    rw [beforeUpdate_aux,judgeAux_unread rfl]
    rfl
  have zero : 0 = expectedAux (some ⟨2001000#64,⟨⟨1,1,1⟩,0,0⟩⟩) 2000000#64 := dropped.symm.trans (used rfl)
  have fresh : Fresh (⟨2001000#64,⟨⟨1,1,1⟩,0,0⟩⟩ : EsoRateAux ℝ) 2000000#64 := by
    decide
  rw [expectedAux,if_pos fresh] at zero
  have axis : (0 : Flt ℝ) = 1 := congrArg (·.omegaRDot.x) zero
  simp at axis

end Received
end AerialManipulator.RateModule
