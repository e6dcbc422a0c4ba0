import Mathlib.Data.List.Induction

/-! Runs of a deterministic machine over a list of events. A property of runs is stated of every
state reached and the event met there. -/
namespace Runs
variable {σ τ ε : Type*} {step : σ → ε → σ} {P Q : σ → ε → Prop}

/-- `P` holds of every event of the run and the state it finds. -/
def Along (step : σ → ε → σ) (P : σ → ε → Prop) : σ → List ε → Prop
  | _,[] => True
  | s,e::rest => P s e ∧ Along step P (step s e) rest

instance Along.decidable [∀ s e, Decidable (P s e)] : ∀ (s : σ) (events : List ε), Decidable (Along step P s events)
  | _,[] => .isTrue trivial
  | s,e::rest => @instDecidableAnd _ _ inferInstance (Along.decidable (step s e) rest)

@[simp] lemma along_nil (s : σ) : Along step P s [] := trivial

@[simp] lemma along_cons (s : σ) (e : ε) (rest : List ε) :
    Along step P s (e::rest) ↔ P s e ∧ Along step P (step s e) rest := Iff.rfl

variable {events : List ε}

lemma along_of_mem (always : ∀ e ∈ events, ∀ s, P s e) (s : σ) : Along step P s events := by
  induction events generalizing s with
  | nil => trivial
  | cons e rest ih =>
    exact ⟨always e List.mem_cons_self s,ih (fun other member => always other (List.mem_cons_of_mem _ member)) (step s e)⟩

lemma along_of_forall (always : ∀ s e, P s e) (s : σ) (events : List ε) : Along step P s events :=
  along_of_mem (fun e _ s => always s e) s

lemma along_append (s : σ) (first second : List ε) : Along step P s (first++second) ↔
      Along step P s first ∧ Along step P (first.foldl step s) second := by
  induction first generalizing s with
  | nil => simp
  | cons e rest ih => simp [ih,and_assoc]

lemma along_and (s : σ) (events : List ε) :
    Along step (fun s e => P s e ∧ Q s e) s events ↔ Along step P s events ∧ Along step Q s events := by
  induction events generalizing s with
  | nil => simp
  | cons e rest ih =>
    simp only [along_cons,ih]
    tauto

variable {s : σ}

lemma along_or_last (each : Along step (fun s e => P s e ∨ Q s e) s events) :
    Along step P s events ∨ ∃ before e after, events = before ++ e::after ∧ Q (before.foldl step s) e ∧
      Along step P (step (before.foldl step s) e) after := by
  induction events generalizing s with
  | nil => exact .inl trivial
  | cons e rest ih =>
    rcases ih each.2 with first | ⟨before,other,after,rfl,second,first⟩
    · rcases each.1 with holds | holds
      · exact .inl ⟨holds,first⟩
      · exact .inr ⟨[],e,rest,rfl,holds,first⟩
    · exact .inr ⟨e::before,other,after,rfl,second,first⟩

/-- The history rule: what every further event keeps up with holds of the whole run. -/
lemma foldl_history (tracks : List ε → σ → Prop) (start : tracks [] s)
    (grows : ∀ before e, tracks before (before.foldl step s) →
      tracks (before++[e]) (step (before.foldl step s) e)) (events : List ε) :
    tracks events (events.foldl step s) := by
  induction events using List.reverseRecOn with
  | nil => exact start
  | append_singleton before e ih =>
    rw [List.foldl_append]
    exact grows before e ih

variable (invariant : σ → Prop)

lemma foldl_invariant (preserved : ∀ s e, P s e → invariant s → invariant (step s e))
    (admitted : Along step P s events) (start : invariant s) :
    invariant (events.foldl step s) := by
  induction events generalizing s with
  | nil => exact start
  | cons e rest ih => exact ih admitted.2 (preserved s e admitted.1 start)

lemma foldl_preserved (preserved : ∀ s e, invariant s → invariant (step s e))
    (start : invariant s) (events : List ε) : invariant (events.foldl step s) := by
  induction events generalizing s with
  | nil => exact start
  | cons e rest ih => exact ih (preserved s e start)

/-- The invariant rule: what every admitted step preserves gives a property of the whole run. -/
lemma along_of_invariant (preserved : ∀ s e, P s e → invariant s → invariant (step s e))
    (property : ∀ s e, P s e → invariant s → Q s e) (admitted : Along step P s events) (start : invariant s) :
    Along step Q s events := by
  induction events generalizing s with
  | nil => trivial
  | cons e rest ih => exact ⟨property s e admitted.1 start,ih admitted.2 (preserved s e admitted.1 start)⟩

/-- Two properties that agree wherever an invariant holds agree on runs; only steps with the first have to keep it. -/
lemma along_congr_along (preserved : ∀ s e, R s e → P s e → invariant s → invariant (step s e))
    (agree : ∀ s e, R s e → invariant s → (P s e ↔ Q s e)) (admitted : Along step R s events) (start : invariant s) :
    Along step P s events ↔ Along step Q s events := by
  induction events generalizing s with
  | nil => exact Iff.rfl
  | cons e rest ih =>
    rw [along_cons,along_cons,← agree s e admitted.1 start]
    exact and_congr_right fun holds => ih admitted.2 (preserved s e admitted.1 holds start)

lemma along_congr_invariant (preserved : ∀ s e, invariant s → invariant (step s e))
    (agree : ∀ s e, invariant s → (P s e ↔ Q s e)) (start : invariant s) (events : List ε) :
    Along step P s events ↔ Along step Q s events :=
  along_congr_along invariant (fun s e _ _ => preserved s e) (fun s e _ => agree s e) (along_of_forall (fun _ _ => trivial) s events) start

/-- The variant rule: if every admitted step away from the goal lowers the measure, the goal is met. -/
lemma exists_goal (invariant goal : σ → Prop) (measure : σ → Nat)
    (preserved : ∀ s e, P s e → invariant s → invariant (step s e))
    (lowers : ∀ s e, P s e → invariant s → ¬goal s → measure (step s e) < measure s)
    (least : ∀ s, invariant s → measure s = 0 → goal s)
    (admitted : Along step P s events) (start : invariant s) (long : measure s ≤ events.length) :
    ∃ n ≤ measure s, goal ((events.take n).foldl step s) := by
  induction events generalizing s with
  | nil => exact ⟨0,Nat.zero_le _,least s start (Nat.le_zero.mp long)⟩
  | cons e rest ih =>
    by_cases met : goal s
    · exact ⟨0,Nat.zero_le _,met⟩
    have lower := lowers s e admitted.1 start met
    have long : measure (step s e) ≤ rest.length := by
      rw [List.length_cons] at long
      omega
    obtain ⟨n,within,reached⟩ := ih admitted.2 (preserved s e admitted.1 start) long
    exact ⟨n+1,by omega,reached⟩

lemma exists_first {first : ε → Prop} (found : ∃ e ∈ events, first e) :
    ∃ before e after, events = before ++ e::after ∧ first e ∧ ∀ other ∈ before, ¬first other := by
  induction events with
  | nil => simp at found
  | cons e rest ih =>
    by_cases here : first e
    · exact ⟨[],e,rest,rfl,here,by simp⟩
    obtain ⟨other,member,holds⟩ := found
    rcases List.mem_cons.mp member with rfl | member
    · exact absurd holds here
    obtain ⟨before,next,after,rfl,holds,none⟩ := ih ⟨other,member,holds⟩
    refine ⟨e::before,next,after,rfl,holds,?_⟩
    intro other member
    rcases List.mem_cons.mp member with rfl | member
    · exact here
    · exact none other member

def Reaches (step : σ → ε → σ) (s t : σ) : Prop := ∃ events : List ε, events.foldl step s = t

lemma Reaches.refl (s : σ) : Reaches step s s := ⟨[],rfl⟩

lemma Reaches.single (s : σ) (e : ε) : Reaches step s (step s e) := ⟨[e],rfl⟩

lemma Reaches.trans (first : Reaches step s t) (second : Reaches step t u) : Reaches step s u := by
  obtain ⟨before,rfl⟩ := first
  obtain ⟨after,rfl⟩ := second
  exact ⟨before++after,List.foldl_append⟩

def states (step : σ → ε → σ) (s : σ) (events : Nat → ε) : Nat → σ
  | 0 => s
  | i+1 => step (states step s events i) (events i)

/-- The variant rule for them: a rank that never rises and is lowered again and again leads to the goal. -/
lemma eventually_of_rank (goal : Nat → Prop) (rank : Nat → Nat) (kept : ∀ k, i ≤ k → ¬goal k → rank (k+1) ≤ rank k)
    (lowered : ∀ k, i ≤ k → ∃ l, k ≤ l ∧ (goal l ∨ rank (l+1) < rank l)) : ∃ k, i ≤ k ∧ goal k := by
  by_contra never
  simp only [not_exists,not_and] at never
  have falls (k l : Nat) (after : i ≤ k) (later : k ≤ l) : rank l ≤ rank k := by
    induction later with
    | refl => exact Nat.le_refl _
    | step later ih =>
      have since := Nat.le_trans after later
      exact Nat.le_trans (kept _ since (never _ since)) ih
  have bounded (n : Nat) : ∃ k, i ≤ k ∧ rank k+n ≤ rank i := by
    induction n with
    | zero => exact ⟨i,Nat.le_refl _,Nat.le_refl _⟩
    | succ n ih =>
      obtain ⟨k,after,low⟩ := ih
      obtain ⟨l,later,less⟩ := lowered k after
      have less := less.resolve_left (never l (Nat.le_trans after later))
      have between := falls k l after later
      exact ⟨l+1,by omega,by omega⟩
  obtain ⟨k,_,low⟩ := bounded (rank i+1)
  omega

/-- What the steps of a run give, in their order. -/
def collected {ρ : Type*} (step : σ → ε → σ) (out : σ → ε → List ρ) : σ → List ε → List ρ
  | _,[] => []
  | s,e::rest => out s e ++ collected step out (step s e) rest

lemma collected_snoc {ρ : Type*} (out : σ → ε → List ρ) (s : σ) (before : List ε) (e : ε) :
    collected step out s (before ++ [e]) = collected step out s before ++ out (before.foldl step s) e := by
  induction before generalizing s with
  | nil => simp [collected]
  | cons other rest ih => simp [collected,ih]

def outputs {ρ : Type*} (step : σ → ε → ρ × σ) : σ → List ε → List ρ
  | _,[] => []
  | s,e::rest => (step s e).1 :: outputs step (step s e).2 rest

/-- The simulation rule: machines whose related states answer alike and stay related answer alike. -/
lemma outputs_eq {ρ : Type*} {first : σ → ε → ρ × σ} {second : τ → ε → ρ × τ} (related : σ → τ → Prop)
    (simulates : ∀ s t e, related s t → (first s e).1 = (second t e).1 ∧ related (first s e).2 (second t e).2)
    {t : τ} (start : related s t) (events : List ε) : outputs first s events = outputs second t events := by
  induction events generalizing s t with
  | nil => rfl
  | cons e rest ih =>
    obtain ⟨answer,next⟩ := simulates s t e start
    rw [outputs,outputs,answer,ih next]

end Runs
