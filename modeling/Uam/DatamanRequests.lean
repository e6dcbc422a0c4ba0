import Uam.DatamanRefinement
import Uam.DatamanShutdown

/-! The requests to the data manager, as if executed one after the other, on an abstract map. -/
namespace AerialManipulator
open Runs

/-- In a call whose request has not been executed. -/
def DmClient.Open (client : DmClient) : Prop := client.stage ≠ .idle ∧ (client.Enqueued → client.result = none)

/-- The result in the work item, or what the last call returned if it was not refused. -/
def DmClient.Has (client : DmClient) (result : DmResult) : Prop :=
  client.Enqueued ∧ client.result = some result ∨
    client.stage = .idle ∧ client.returned = some result ∧ result ≠ ⟨-1,[]⟩

namespace DmTask
variable {σ : Type}

def asks (c : Nat) (s : DmTask σ) : DmEvent → List DmOp
  | .call d request => if d = c ∧ (s.client c).stage = .idle then [request] else []
  | _ => []

def executes (s : DmTask σ) : DmEvent → List (Nat × DmOp)
  | .work => match s.stage with
    | .serving c => [(c,(s.client c).request)]
    | _ => []
  | _ => []

section
variable (serve : σ → DmOp → DmResult × σ) (initial : σ) (ops : List (Nat × DmOp))

def stored : σ := ops.foldl (fun store op => (serve store op.2).2) initial

/-- Its requests are executed in the order of its calls, none twice, and it has the result of the last one. -/
structure Explained (c : Nat) (asked : List DmOp) (client : DmClient) : Prop where
  once : ((ops.filter (·.1 = c)).map Prod.snd).Sublist asked
  opened : client.Open → ((ops.filter (·.1 = c)).map Prod.snd ++ [client.request]).Sublist asked
  result : ∀ result, client.Has result → ∃ before after, ops = before ++ (c,client.request)::after ∧
    c ∉ after.map Prod.fst ∧ result = (serve (stored serve initial before) client.request).1

def Atomic (asked : Nat → List DmOp) (s : DmTask σ) : Prop :=
  s.store = stored serve initial ops ∧ ∀ c, Explained serve initial ops c (asked c) (s.client c)

end

variable {serve : σ → DmOp → DmResult × σ} {initial : σ} {ops : List (Nat × DmOp)} {c : Nat}

section
variable {owner : DmClient} (explained : Explained serve initial ops d asked owner)
include explained

lemma Explained.move {owner' : DmClient} (request : owner'.request = owner.request) (opens : owner'.Open → owner.Open)
    (has : ∀ result, owner'.Has result → owner.Has result) : Explained serve initial ops d asked owner' := by
  refine ⟨explained.once,fun still => ?_,fun result given => ?_⟩
  · rw [request]
    exact explained.opened (opens still)
  · rw [request]
    exact explained.result result (has result given)

lemma Explained.snoc (other : d ≠ c) (request : DmOp) :
    Explained serve initial (ops ++ [(c,request)]) d asked owner := by
  have same : (ops ++ [(c,request)]).filter (·.1 = d) = ops.filter (·.1 = d) := by simp [other.symm]
  refine ⟨same ▸ explained.once,same ▸ explained.opened,fun result has => ?_⟩
  obtain ⟨before,after,rfl,last,found⟩ := explained.result result has
  exact ⟨before,after ++ [(c,request)],by simp,by simpa [other] using last,found⟩

end

section
variable {s : DmTask σ} {asked : Nat → List DmOp} (atomic : s.Atomic serve initial ops asked) (sound : s.Sound)
include atomic sound

lemma Atomic.answer (stage : s.stage = .serving c) :
    (s.taskMain serve).Atomic serve initial (ops ++ [(c,(s.client c).request)]) asked := by
  obtain ⟨same,explained⟩ := atomic
  obtain ⟨enqueued,waits⟩ := (sound.pending c).mpr (.inr stage)
  have busy : (s.client c).stage ≠ .idle := by rcases enqueued with stage | stage <;> simp [stage]
  rw [taskMain_serving stage]
  refine ⟨?_,(Function.forall_update_iff s.client _).mpr ⟨⟨?_,fun still => ?_,fun result has => ?_⟩,
    fun other ne => (explained other).snoc ne _⟩⟩
  · change (serve s.store _).2 = _
    rw [stored,List.foldl_append,same]
    rfl
  · simpa using (explained c).opened ⟨busy,fun _ => waits⟩
  · cases still.2 enqueued
  · rcases has with ⟨_,found⟩ | ⟨idle,_⟩
    · exact ⟨ops,[],rfl,by simp,by rw [← Option.some.inj found,same]⟩
    · exact absurd idle busy

lemma Atomic.step (e : DmEvent) :
    (s.step serve e).Atomic serve initial (ops ++ s.executes e) (fun c => asked c ++ s.asks c e) := by
  have grown : s.Atomic serve initial ops (fun c => asked c ++ s.asks c e) := by
    refine ⟨atomic.1,fun c => ?_⟩
    obtain ⟨once,opened,result⟩ := atomic.2 c
    have longer := List.sublist_append_left (asked c) (s.asks c e)
    exact ⟨once.trans longer,fun still => (opened still).trans longer,result⟩
  have moved {c : Nat} {owner : DmClient} (explained : Explained serve initial ops c (asked c ++ s.asks c e) owner) :
      (s.setClient c owner).Atomic serve initial ops (fun c => asked c ++ s.asks c e) :=
    ⟨atomic.1,(Function.forall_update_iff s.client _).mpr ⟨explained,fun other _ => grown.2 other⟩⟩
  cases e with
  | work =>
    cases stage : s.stage with
    | serving c =>
      rw [executes,stage]
      exact grown.answer sound stage
    | _ =>
      rw [executes,stage,List.append_nil,DmTask.step,taskMain,stage]
      cases s.workQ <;> first | exact grown | (dsimp only; split <;> exact grown)
  | call c request =>
    simp only [executes,List.append_nil,DmTask.step]
    split_ifs with idle
    · refine moved ⟨(grown.2 c).once,fun _ => ?_,by simp [DmClient.Has,DmClient.Enqueued]⟩
      simpa [asks,idle] using (atomic.2 c).once
    · exact moved ((grown.2 c).move rfl (by simp [DmClient.Open]) (by simp [DmClient.Has,DmClient.Enqueued]))
    · exact grown
  | stop => simpa only [executes,List.append_nil]
  | postStop =>
    simp only [executes,List.append_nil,DmTask.step]
    split <;> exact grown
  | checkExit c | createWorkItem c | enqueue c | post c | takeResult c =>
    have fresh := sound.fresh c
    simp only [executes,List.append_nil,DmTask.step]
    split_ifs
    all_goals first
      | exact grown
      | exact moved ((grown.2 c).move rfl (by grind [DmClient.Open,DmClient.Enqueued])
          (by grind [DmClient.Has,DmClient.Enqueued]))

end

section
variable {τ : Type} {spec : τ → DmOp → DmResult × τ} {R : σ → τ → Prop}

def Over (R : σ → τ → Prop) (s : DmTask σ) (t : DmTask τ) : Prop :=
  t = {s with store := t.store} ∧ R s.store t.store

variable (refines : ∀ {x y}, R x y → ∀ op, (serve x op).1 = (spec y op).1 ∧ R (serve x op).2 (spec y op).2)
include refines

lemma Over.step {s : DmTask σ} {t : DmTask τ} (held : s.Over R t) (e : DmEvent) :
    (s.step serve e).Over R (t.step spec e) := by
  obtain ⟨running,shouldExit,workQ,workQueued,stopping,stage,client,x⟩ := s
  obtain ⟨same,related⟩ := held
  rw [same]
  cases e with
  | work =>
    cases stage with
    | serving c =>
      obtain ⟨answer,still⟩ := refines (x := x) related (client c).request
      refine ⟨?_,still⟩
      simp only [DmTask.step,taskMain,setClient,answer]
    | draining => cases workQ <;> exact ⟨rfl,related⟩
    | waiting => cases workQueued <;> exact ⟨rfl,related⟩
    | _ => exact ⟨rfl,related⟩
  | stop => exact ⟨rfl,related⟩
  | _ =>
    simp only [DmTask.step]
    split_ifs <;> exact ⟨rfl,related⟩

lemma client_eq (related : R x y) (events : List DmEvent) :
    (run serve x events).client = (run spec y events).client := by
  have held : (run serve x events).Over R (run spec y events) :=
    foldl_history (fun events s => Over R s (run spec y events)) ⟨rfl,related⟩
      (fun before e held => by
        rw [run,List.foldl_append]
        exact held.step refines e) events
  exact (congrArg DmTask.client held.1).symm

end

end DmTask
end AerialManipulator
