import Uam.Numerics

/-! A subscription with an interval. A successful read moves the last update on by the interval, so
a late read gives credit for one more. -/
namespace AerialManipulator

structure IntervalCall where
  check : UInt64
  now : UInt64
  unread : Bool
  deriving DecidableEq

structure SubscriptionInterval where
  lastUpdate : UInt64
  intervalUs : UInt32

namespace SubscriptionInterval

def updated (s : SubscriptionInterval) (c : IntervalCall) : Bool :=
  decide (c.check-s.lastUpdate ≥ s.intervalUs.toUInt64) && c.unread

def copy (s : SubscriptionInterval) (now : UInt64) : SubscriptionInterval :=
  { s with
    lastUpdate := Math.constrain (s.lastUpdate+s.intervalUs.toUInt64) (now-s.intervalUs.toUInt64) now }

def update (s : SubscriptionInterval) (c : IntervalCall) : Bool × SubscriptionInterval :=
  if s.updated c then (true,s.copy c.now) else (false,s)

def after (s : SubscriptionInterval) (calls : List IntervalCall) : SubscriptionInterval :=
  calls.foldl (fun s c => (s.update c).2) s

def successes : SubscriptionInterval → List IntervalCall → List IntervalCall
  | _,[] => []
  | s,c :: rest => if (s.update c).1 then c :: successes (s.update c).2 rest else successes (s.update c).2 rest

def Timed : UInt64 → List IntervalCall → Prop
  | _,[] => True
  | start,c :: rest => start ≤ c.check ∧ c.check ≤ c.now ∧ Timed c.now rest

section
variable {s : SubscriptionInterval} {c : IntervalCall} {calls rest : List IntervalCall}

lemma Timed.mono (timed : Timed late calls) (le : early ≤ late) : Timed early calls := by
  cases calls with
  | nil => trivial
  | cons c rest => exact ⟨UInt64.le_trans le timed.1,timed.2⟩

lemma updated_iff (started : s.lastUpdate ≤ c.check) : s.updated c ↔
    s.lastUpdate.toNat+s.intervalUs.toNat ≤ c.check.toNat ∧ c.unread := by
  have elapsed := UInt64.toNat_sub_of_le _ _ started
  have earlier : s.lastUpdate.toNat ≤ c.check.toNat := started
  rw [updated,Bool.and_eq_true,decide_eq_true_iff,ge_iff_le,UInt64.le_iff_toNat_le,elapsed,UInt32.toNat_toUInt64]
  exact and_congr_left' (by omega)

lemma toNat_copy (now : UInt64) (elapsed : s.lastUpdate.toNat+s.intervalUs.toNat ≤ now.toNat) :
    (s.copy now).lastUpdate.toNat = max (s.lastUpdate.toNat+s.intervalUs.toNat) (now.toNat-s.intervalUs.toNat) := by
  have size := now.toNat_lt
  have sum : (s.lastUpdate+s.intervalUs.toUInt64).toNat = s.lastUpdate.toNat+s.intervalUs.toNat := by
    rw [UInt64.toNat_add,UInt32.toNat_toUInt64,Nat.mod_eq_of_lt (by omega)]
  have difference : (now-s.intervalUs.toUInt64).toNat = now.toNat-s.intervalUs.toNat := by
    rw [UInt64.toNat_sub_of_le _ _ (by rw [UInt64.le_iff_toNat_le,UInt32.toNat_toUInt64]; omega),UInt32.toNat_toUInt64]
  rw [copy,Math.constrain]
  simp only [UInt64.lt_iff_toNat_lt,gt_iff_lt,sum,difference]
  split
  next behind => rw [difference,max_eq_right behind.le]
  next recent => rw [if_neg (by omega),sum,max_eq_left (by omega)]

lemma update_cases (timed : Timed s.lastUpdate (c::calls)) : s.update c = (false,s) ∧ Timed s.lastUpdate calls ∨
    ∃ next, s.update c = (true,⟨next,s.intervalUs⟩) ∧ Timed next calls ∧ next ≤ c.now ∧
      s.lastUpdate.toNat+s.intervalUs.toNat ≤ c.check.toNat ∧
      next.toNat = max (s.lastUpdate.toNat+s.intervalUs.toNat) (c.now.toNat-s.intervalUs.toNat) := by
  have later : c.check.toNat ≤ c.now.toNat := timed.2.1
  cases read : s.updated c with
  | false =>
    refine .inl ⟨?_,timed.2.2.mono (UInt64.le_trans timed.1 timed.2.1)⟩
    rw [update,read]
    rfl
  | true =>
    have elapsed := ((updated_iff timed.1).mp read).1
    have moved := toNat_copy c.now (elapsed.trans later)
    have upto : (s.copy c.now).lastUpdate ≤ c.now := by
      rw [UInt64.le_iff_toNat_le,moved]
      omega
    exact .inr ⟨_,if_pos read,timed.2.2.mono upto,upto,elapsed,moved⟩

lemma successes_late (timed : Timed s.lastUpdate calls) (found : (s.successes calls)[j]? = some a) :
    s.lastUpdate.toNat + (j + 1) * s.intervalUs.toNat ≤ a.check.toNat := by
  induction calls generalizing s j with
  | nil => exact nomatch found
  | cons c rest ih =>
    rcases update_cases timed with ⟨same,timed⟩ | ⟨next,same,timed,_,elapsed,moved⟩
    · rw [successes,same] at found
      exact ih timed found
    rw [successes,same,if_pos rfl] at found
    cases j with
    | zero =>
      obtain rfl : c = a := Option.some.inj found
      omega
    | succ j =>
      have later : next.toNat + (j + 1) * s.intervalUs.toNat ≤ a.check.toNat := ih timed found
      have split := Nat.add_one_mul (j+1) s.intervalUs.toNat
      omega

lemma successes_spaced (timed : Timed s.lastUpdate calls)
    (first : (s.successes calls)[n]? = some a) (second : (s.successes calls)[n+(k+1)]? = some b) :
    a.now.toNat + k * s.intervalUs.toNat ≤ b.check.toNat := by
  induction calls generalizing s n with
  | nil => exact nomatch first
  | cons c rest ih =>
    rcases update_cases timed with ⟨same,timed⟩ | ⟨next,same,timed,_,_,moved⟩
    · rw [successes,same] at first second
      exact ih timed first second
    rw [successes,same,if_pos rfl] at first second
    cases n with
    | zero =>
      obtain rfl : c = a := Option.some.inj first
      rw [Nat.zero_add,List.getElem?_cons_succ] at second
      have later : next.toNat + (k + 1) * s.intervalUs.toNat ≤ b.check.toNat := successes_late timed second
      have split := Nat.add_one_mul k s.intervalUs.toNat
      omega
    | succ n =>
      rw [Nat.succ_add,List.getElem?_cons_succ] at second
      exact ih (s := ⟨next,s.intervalUs⟩) timed first second

lemma after_of_no_success (timed : Timed s.lastUpdate (calls ++ rest)) (none_read : s.successes calls = []) :
    s.after calls = s := by
  induction calls with
  | nil => rfl
  | cons c calls ih =>
    rcases update_cases timed with ⟨same,timed⟩ | ⟨next,same,_⟩
    · rw [successes,same] at none_read
      rw [after,List.foldl_cons,same]
      exact ih timed none_read
    · rw [successes,same] at none_read
      exact nomatch none_read

lemma timed_after (timed : Timed s.lastUpdate (before ++ rest)) :
    Timed (s.after before).lastUpdate rest ∧ (s.after before).intervalUs = s.intervalUs := by
  induction before generalizing s with
  | nil => exact ⟨timed,rfl⟩
  | cons c before ih =>
    rw [after,List.foldl_cons]
    rcases update_cases timed with ⟨same,timed⟩ | ⟨next,same,timed,_⟩
    all_goals
      rw [same]
      exact ih timed

lemma next_read (read : (s.update p).1) (none_between : (s.update p).2.successes between = [])
    (timed : Timed s.lastUpdate (p::(between ++ c::rest)))
    (later : p.now.toNat+s.intervalUs.toNat ≤ c.check.toNat) (unread : c.unread) :
    (((s.update p).2.after between).update c).1 := by
  rcases update_cases timed with ⟨same,_⟩ | ⟨next,same,timed,upto,_⟩
  · rw [same] at read
    exact nomatch read
  rw [same] at none_between ⊢
  rw [after_of_no_success timed none_between]
  have upto : next.toNat ≤ p.now.toNat := upto
  have started : next ≤ c.check := UInt64.le_iff_toNat_le.mpr (by omega)
  have again : updated ⟨next,s.intervalUs⟩ c := (updated_iff started).mpr ⟨by dsimp only; omega,unread⟩
  rw [update,again]
  rfl

end

/-- Successful reads keep the interval, and one is not refused once the interval has passed. -/
theorem reads_rate_limited (intervalUs : UInt32) (calls : List IntervalCall) (timed : Timed 0 calls) :
    let s : SubscriptionInterval := ⟨0,intervalUs⟩
    (∀ n k a b, 1 ≤ k → (s.successes calls)[n]? = some a → (s.successes calls)[n + k]? = some b →
      a.now.toNat + (k - 1) * intervalUs.toNat ≤ b.check.toNat) ∧
    (∀ before p between c rest, calls = before ++ p :: (between ++ c :: rest) →
      ((s.after before).update p).1 = true → ((s.after before).update p).2.successes between = [] →
      p.now.toNat + intervalUs.toNat ≤ c.check.toNat → c.unread = true →
        ((((s.after before).update p).2.after between).update c).1 = true) := by
  intro s
  constructor
  · intro n k a b positive first second
    obtain ⟨k,rfl⟩ := Nat.exists_eq_add_of_le' positive
    exact successes_spaced (s := s) timed first second
  · intro before p between c rest parts read none_between later unread
    subst parts
    obtain ⟨timed,interval⟩ := timed_after (s := s) timed
    exact next_read read none_between timed (by rw [interval]; exact later) unread

theorem reads_rate_limited_late : let calls : List IntervalCall := [⟨10,10,true⟩,⟨29,29,true⟩,⟨30,30,true⟩,⟨31,31,true⟩]
    (⟨0,10⟩ : SubscriptionInterval).successes calls = calls.take 3 ∧
      ∀ a b, calls[0]? = some a → calls[2]? = some b → a.now.toNat + 10 ≤ b.check.toNat := by
  intro calls
  have timed : Timed 0 calls := by simp [Timed,calls]
  have reads : (⟨0,10⟩ : SubscriptionInterval).successes calls = calls.take 3 := by decide +kernel
  refine ⟨reads,fun a b first second => ?_⟩
  have spaced := (reads_rate_limited 10 calls timed).1 0 2 a b (by decide)
  rw [reads] at spaced
  exact spaced first second

end SubscriptionInterval
end AerialManipulator
