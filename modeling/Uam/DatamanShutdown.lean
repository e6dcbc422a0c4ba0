import Uam.DatamanTask
import Uam.Library.Runs

/-! When no request is lost as the data manager shuts down. -/
namespace AerialManipulator
open Runs.Reaches (single)

def DmClient.Enqueued (client : DmClient) : Prop := client.stage = .queued ∨ client.stage = .waiting

def DmClient.Pending (client : DmClient) : Prop := client.Enqueued ∧ client.result = none

def DmClient.Entering (client : DmClient) : Prop := client.stage = .admitted ∨ client.stage = .created

def DmTaskStage.Drained (stage : DmTaskStage) : Prop := stage = .deciding ∨ stage = .top ∨ stage = .waiting

namespace DmTask
variable {σ : Type} {serve : σ → DmOp → DmResult × σ} {s : DmTask σ} {c : Nat}

def PastFinalDrain (s : DmTask σ) : Prop :=
  s.stage = .closing ∨ s.stage = .ended ∨ s.stage = .deciding ∧ s.shouldExit = true

/-- Nothing stays on the queue for good, and who has enqueued an item was or can be answered. -/
def Served (serve : σ → DmOp → DmResult × σ) (s : DmTask σ) : Prop :=
  ∀ c, ¬ (s.PastFinalDrain ∧ c ∈ s.workQ) ∧
    ((s.client c).Enqueued → ∃ t, Runs.Reaches (step serve) s t ∧ (t.client c).result ≠ none)

def QuietStop (s : DmTask σ) : Prop :=
  (∀ c, ¬ (s.client c).Entering) ∧ (s.stage = .deciding → s.workQ = [])

structure Sound (s : DmTask σ) : Prop where
  pending : ∀ c, (s.client c).Pending ↔ c ∈ s.workQ ∨ s.stage = .serving c
  fresh : ∀ c, (s.client c).stage = .created → (s.client c).result = none
  once : s.workQ.Nodup
  taken : ∀ c, s.stage = .serving c → c ∉ s.workQ
  announced : s.stage.Drained → ∀ c ∈ s.workQ, (s.client c).stage = .waiting → 0 < s.workQueued
  leaving : s.stage = .closing ∨ s.stage = .ended → s.shouldExit = true

lemma sound_start (store : σ) : (start store).Sound := by
  constructor <;> simp [start,DmClient.Pending,DmClient.Enqueued]

lemma Sound.setClient (sound : s.Sound) {client : DmClient} (same : client.Pending ↔ (s.client c).Pending)
    (fresh : client.stage = .created → client.result = none)
    (announces : client.stage = .waiting → (s.client c).stage = .waiting) : (s.setClient c client).Sound := by
  refine ⟨fun other => ?_,fun other => ?_,sound.once,sound.taken,fun drained other member => ?_,sound.leaving⟩
  · rw [setClient_client]
    split
    next eq =>
      rw [same,eq]
      exact sound.pending c
    · exact sound.pending other
  · rw [setClient_client]
    split
    · exact fresh
    · exact sound.fresh other
  · rw [setClient_client]
    split
    next eq =>
      exact fun waits => sound.announced drained other member (eq ▸ announces waits)
    · exact sound.announced drained other member

lemma Sound.enqueue (sound : s.Sound) (created : (s.client c).stage = .created) :
    ({s.advance c .queued with workQ := s.workQ ++ [c]} : DmTask σ).Sound := by
  have absent : ¬(s.client c).Pending := by simp [DmClient.Pending,DmClient.Enqueued,created]
  rw [sound.pending c,not_or] at absent
  have client (other : Nat) : (s.advance c .queued).client other =
      if other = c then {s.client c with stage := .queued} else s.client other := setClient_client s c _ other
  refine ⟨fun other => ?_,fun other => ?_,?_,fun other serving => ?_,fun drained other member => ?_,sound.leaving⟩
  · rw [client]
    split
    next eq =>
      subst eq
      simp [DmClient.Pending,DmClient.Enqueued,sound.fresh other created]
    next ne =>
      rw [sound.pending other,List.mem_append,List.mem_singleton]
      exact or_congr_left (by simp [ne])
  · rw [client]
    split
    · exact fun bad => by cases bad
    · exact sound.fresh other
  · exact sound.once.append (List.nodup_singleton c) (by simpa using absent.1)
  · have ne : other ≠ c := fun eq => absent.2 (eq ▸ serving)
    simpa [ne] using sound.taken other serving
  · rw [client]
    split
    · exact fun bad => by cases bad
    next ne =>
      exact sound.announced drained other (by simpa [ne] using member)

lemma Sound.post (sound : s.Sound) (queued : (s.client c).stage = .queued) :
    ({s.advance c .waiting with workQueued := s.workQueued+1} : DmTask σ).Sound := by
  have client (other : Nat) : (s.advance c .waiting).client other =
      if other = c then {s.client c with stage := .waiting} else s.client other := setClient_client s c _ other
  refine ⟨fun other => ?_,fun other => ?_,sound.once,sound.taken,fun _ _ _ _ => Nat.succ_pos _,sound.leaving⟩
  · refine Iff.trans ?_ (sound.pending other)
    rw [client]
    split
    next eq =>
      subst eq
      simp [DmClient.Pending,DmClient.Enqueued,queued]
    · exact Iff.rfl
  · rw [client]
    split
    · exact fun bad => by cases bad
    · exact sound.fresh other

lemma taskMain_top (stage : s.stage = .top) (staying : s.shouldExit = false) :
    s.taskMain serve = {s with stage := .waiting} := by
  rw [taskMain,stage]
  simp [staying]

lemma taskMain_top_exit (stage : s.stage = .top) (exiting : s.shouldExit) :
    s.taskMain serve = {s with stage := .draining} := by
  rw [taskMain,stage]
  simp [exiting]

lemma taskMain_waiting (stage : s.stage = .waiting) (queued : 0 < s.workQueued) :
    s.taskMain serve = {s with workQueued := s.workQueued-1, stage := .draining} := by
  rw [taskMain,stage]
  exact if_neg queued.ne'

lemma taskMain_nil (stage : s.stage = .draining) (queue : s.workQ = []) :
    s.taskMain serve = {s with stage := .deciding} := by
  rw [taskMain,stage]
  simp [queue]

lemma taskMain_cons (stage : s.stage = .draining) (queue : s.workQ = c::rest) :
    s.taskMain serve = {s with workQ := rest, stage := .serving c} := by
  rw [taskMain,stage]
  simp [queue]

lemma taskMain_serving (stage : s.stage = .serving c) : s.taskMain serve =
      {s.setClient c {s.client c with result := some (serve s.store (s.client c).request).1} with
        store := (serve s.store (s.client c).request).2, stage := .draining} := by
  rw [taskMain,stage]

lemma taskMain_deciding (stage : s.stage = .deciding) (staying : s.shouldExit = false) :
    s.taskMain serve = {s with stage := .top} := by
  rw [taskMain,stage]
  simp [staying]

lemma taskMain_deciding_exit (stage : s.stage = .deciding) (exiting : s.shouldExit) :
    s.taskMain serve = {s with stage := .closing} := by
  rw [taskMain,stage]
  simp [exiting]

lemma taskMain_closing (stage : s.stage = .closing) :
    s.taskMain serve = {s with running := false, stage := .ended} := by
  rw [taskMain,stage]

section
variable (sound : s.Sound)
include sound

lemma Sound.restage {stage : DmTaskStage} {running : Bool} {queued : Nat}
    (idle : ∀ c, s.stage ≠ .serving c ∧ stage ≠ .serving c)
    (announced : stage.Drained → s.workQ = [] ∨ s.stage.Drained ∧ s.workQueued = queued)
    (leaving : stage = .closing ∨ stage = .ended → s.shouldExit) :
    ({s with running := running, stage := stage, workQueued := queued} : DmTask σ).Sound := by
  refine ⟨fun c => ?_,sound.fresh,sound.once,fun c serving => absurd serving (idle c).2,fun drained c member => ?_,leaving⟩
  · simpa [idle c] using sound.pending c
  · rcases announced drained with nothing | ⟨earlier,rfl⟩
    · exact absurd (nothing ▸ member) List.not_mem_nil
    · exact sound.announced earlier c member

lemma Sound.takeFirst (stage : s.stage = .draining) (queue : s.workQ = first::rest) : (s.taskMain serve).Sound := by
  have once := sound.once
  rw [queue,List.nodup_cons] at once
  rw [taskMain_cons stage queue]
  refine ⟨fun c => ?_,sound.fresh,once.2,fun c serving => ?_,by simp [DmTaskStage.Drained],by simp⟩
  · simpa [queue,stage,or_comm,eq_comm] using sound.pending c
  · cases serving
    exact once.1

lemma Sound.answer (stage : s.stage = .serving c) : (s.taskMain serve).Sound := by
  rw [taskMain_serving stage]
  have pending := (sound.pending c).mpr (.inr stage)
  refine ⟨fun other => ?_,fun other => ?_,sound.once,by simp,by simp [DmTaskStage.Drained],by simp⟩
  · rw [setClient_client]
    split
    next same =>
      subst same
      simpa [DmClient.Pending] using sound.taken other stage
    next ne =>
      have same : (s.client other).Pending ↔ other ∈ s.workQ := by simpa [stage,Ne.symm ne] using sound.pending other
      simpa using same
  · rw [setClient_client]
    split
    · intro created
      have enqueued := pending.1
      simp only [DmClient.Enqueued] at enqueued created
      simp [created] at enqueued
    · exact sound.fresh other

lemma Sound.taskMain : (s.taskMain serve).Sound := by
  cases stage : s.stage with
  | top =>
    cases exiting : s.shouldExit with
    | false =>
      rw [taskMain_top stage exiting]
      exact sound.restage (by simp [stage]) (by simp [stage,DmTaskStage.Drained]) (by simp)
    | true =>
      rw [taskMain_top_exit stage exiting]
      exact sound.restage (by simp [stage]) (by simp [DmTaskStage.Drained]) (by simp)
  | waiting =>
    rcases Nat.eq_zero_or_pos s.workQueued with none | queued
    · rw [DmTask.taskMain,stage]
      simpa [none] using sound
    · rw [taskMain_waiting stage queued]
      exact sound.restage (by simp [stage]) (by simp [DmTaskStage.Drained]) (by simp)
  | draining =>
    cases queue : s.workQ with
    | nil =>
      rw [taskMain_nil stage queue]
      exact sound.restage (by simp [stage]) (fun _ => .inl queue) (by simp)
    | cons first rest => exact sound.takeFirst stage queue
  | serving c => exact sound.answer stage
  | deciding =>
    cases exiting : s.shouldExit with
    | false =>
      rw [taskMain_deciding stage exiting]
      exact sound.restage (by simp [stage]) (by simp [stage,DmTaskStage.Drained]) (by simp)
    | true =>
      rw [taskMain_deciding_exit stage exiting]
      exact sound.restage (by simp [stage]) (by simp [DmTaskStage.Drained]) (by simp [exiting])
  | closing =>
    rw [taskMain_closing stage]
    exact sound.restage (by simp [stage]) (by simp [DmTaskStage.Drained]) fun _ => sound.leaving (.inl stage)
  | ended =>
    rw [DmTask.taskMain,stage]
    exact sound

lemma Sound.guarded {cond : Prop} [Decidable cond] {t : DmTask σ} (taken : cond → t.Sound) :
    (if cond then t else s).Sound := by
  split
  next holds => exact taken holds
  · exact sound

lemma Sound.step (e : DmEvent) : (s.step serve e).Sound := by
  cases e with
  | work => exact sound.taskMain
  | stop => exact ⟨sound.pending,sound.fresh,sound.once,sound.taken,sound.announced,fun _ => rfl⟩
  | postStop =>
    rw [DmTask.step]
    split
    · exact sound
    · exact ⟨sound.pending,sound.fresh,sound.once,sound.taken,fun _ _ _ _ => Nat.succ_pos _,sound.leaving⟩
  | enqueue c => exact sound.guarded sound.enqueue
  | post c => exact sound.guarded sound.post
  | takeResult c =>
    refine sound.guarded fun stage => ?_
    exact sound.setClient (by simp [DmClient.Pending,DmClient.Enqueued,stage]) (by simp) (by simp)
  | _ =>
    refine sound.guarded fun stage => ?_
    split <;> exact sound.setClient (by simp [DmClient.Pending,DmClient.Enqueued,stage]) (by simp) (by simp)

end

lemma sound_run (serve : σ → DmOp → DmResult × σ) (store : σ) (events : List DmEvent) : (run serve store events).Sound :=
  Runs.foldl_preserved Sound (fun _ e sound => sound.step e) (sound_start store) events

structure Continues (serve : σ → DmOp → DmResult × σ) (s t : DmTask σ) : Prop where
  reaches : Runs.Reaches (step serve) s t
  shouldExit : t.shouldExit = s.shouldExit
  clients : ∀ c, (t.client c).stage = (s.client c).stage
  answered : ∀ c, (s.client c).result ≠ none → (t.client c).result ≠ none

lemma Continues.refl (s : DmTask σ) : Continues serve s s := ⟨.refl s,rfl,fun _ => rfl,fun _ => id⟩

lemma Continues.trans (first : Continues serve s t) (second : Continues serve t u) : Continues serve s u :=
  ⟨first.reaches.trans second.reaches,second.shouldExit.trans first.shouldExit,
    fun c => (second.clients c).trans (first.clients c),fun c done => second.answered c (first.answered c done)⟩

lemma continues_restage {stage : DmTaskStage} {running : Bool} {queued : Nat} {workQ : List Nat}
    (work : s.taskMain serve = {s with running := running, stage := stage, workQueued := queued, workQ := workQ}) :
    Continues serve s {s with running := running, stage := stage, workQueued := queued, workQ := workQ} := by
  refine ⟨?_,rfl,fun _ => rfl,fun _ => id⟩
  rw [← work]
  exact single s DmEvent.work

section
variable (serve)

lemma continues_serving (stage : s.stage = .serving c) :
    Continues serve s (s.taskMain serve) ∧ (s.taskMain serve).stage = .draining ∧
      (s.taskMain serve).workQ = s.workQ ∧ ((s.taskMain serve).client c).result ≠ none := by
  rw [taskMain_serving stage]
  refine ⟨⟨?_,rfl,fun other => ?_,fun other done => ?_⟩,rfl,rfl,?_⟩
  · rw [← taskMain_serving stage]
    exact single s DmEvent.work
  · rw [setClient_client]
    split
    next eq =>
      rw [eq]
    · rfl
  · rw [setClient_client]
    split
    · exact Option.some_ne_none _
    · exact done
  · rw [setClient_client,if_pos rfl]
    exact Option.some_ne_none _

lemma drains (s : DmTask σ) (stage : s.stage = .draining) :
    ∃ t, Continues serve s t ∧ t.stage = .deciding ∧ ∀ c ∈ s.workQ, (t.client c).result ≠ none := by
  generalize queue : s.workQ = items
  induction items generalizing s with
  | nil => exact ⟨_,continues_restage (taskMain_nil stage queue),rfl,by simp⟩
  | cons first rest ih =>
    have taken : Continues serve s {s with workQ := rest, stage := .serving first} :=
      continues_restage (taskMain_cons stage queue)
    obtain ⟨served,draining,left,answer⟩ :=
      continues_serving serve (s := {s with workQ := rest, stage := .serving first}) rfl
    obtain ⟨t,rest,deciding,answers⟩ := ih _ draining left
    refine ⟨t,taken.trans (served.trans rest),deciding,fun c member => ?_⟩
    rcases List.mem_cons.mp member with rfl | member
    · exact rest.answered c answer
    · exact answers c member

lemma Sound.answers (sound : s.Sound) (member : c ∈ s.workQ) (announced : (s.client c).stage = .waiting)
    (working : ¬s.PastFinalDrain) : ∃ t, Continues serve s t ∧ (t.client c).result ≠ none := by
  -- It is enough that the task gets to the queue.
  have enough {t : DmTask σ} (there : Continues serve s t) (stage : t.stage = .draining) (still : c ∈ t.workQ) :
      ∃ t, Continues serve s t ∧ (t.client c).result ≠ none := by
    obtain ⟨u,rest,_,answers⟩ := drains serve t stage
    exact ⟨u,there.trans rest,answers c still⟩
  have awake (drained : s.stage.Drained) : 0 < s.workQueued := sound.announced drained c member announced
  have woken {t : DmTask σ} (there : Continues serve s t) (stage : t.stage = .waiting) (queued : 0 < t.workQueued)
      (still : c ∈ t.workQ) : ∃ t, Continues serve s t ∧ (t.client c).result ≠ none :=
    enough (there.trans (continues_restage (taskMain_waiting stage queued))) rfl still
  have onTop {t : DmTask σ} (there : Continues serve s t) (stage : t.stage = .top) (queued : 0 < t.workQueued)
      (still : c ∈ t.workQ) : ∃ t, Continues serve s t ∧ (t.client c).result ≠ none := by
    cases exiting : t.shouldExit with
    | false => exact woken (there.trans (continues_restage (taskMain_top stage exiting))) rfl queued still
    | true => exact enough (there.trans (continues_restage (taskMain_top_exit stage exiting))) rfl still
  cases stage : s.stage with
  | top => exact onTop (.refl s) stage (awake (by simp [stage,DmTaskStage.Drained])) member
  | waiting => exact woken (.refl s) stage (awake (by simp [stage,DmTaskStage.Drained])) member
  | draining => exact enough (.refl s) stage member
  | serving other =>
    obtain ⟨served,draining,left,_⟩ := continues_serving serve stage
    exact enough served draining (left ▸ member)
  | deciding =>
    have staying : s.shouldExit = false := by
      rw [Bool.eq_false_iff]
      exact fun exiting => working (.inr (.inr ⟨stage,exiting⟩))
    exact onTop (continues_restage (taskMain_deciding stage staying)) rfl
      (awake (by simp [stage,DmTaskStage.Drained])) member
  | closing => exact absurd (.inl stage) working
  | ended => exact absurd (.inr (.inl stage)) working

end

lemma Sound.served (sound : s.Sound) (kept : ∀ c, ¬(s.PastFinalDrain ∧ c ∈ s.workQ)) : s.Served serve := by
  intro c
  refine ⟨kept c,fun enqueued => ?_⟩
  by_cases open' : (s.client c).result = none
  · rcases (sound.pending c).mp ⟨enqueued,open'⟩ with member | serving
    · have working : ¬s.PastFinalDrain := fun past => kept c ⟨past,member⟩
      rcases enqueued with queued | waiting
      · -- The client announces its item first.
        let announced : DmTask σ := {s.advance c .waiting with workQueued := s.workQueued+1}
        have posted : s.step serve (.post c) = announced := if_pos queued
        have waits : (announced.client c).stage = .waiting := by
          have client := setClient_client s c {s.client c with stage := .waiting} c
          rw [if_pos rfl] at client
          exact congrArg DmClient.stage client
        obtain ⟨t,rest,done⟩ := Sound.answers serve (s := announced) (sound.post queued) member waits working
        have first : Runs.Reaches (DmTask.step serve) s announced := posted ▸ single s (DmEvent.post c)
        exact ⟨t,first.trans rest.reaches,done⟩
      · obtain ⟨t,rest,done⟩ := sound.answers serve member waiting working
        exact ⟨t,rest.reaches,done⟩
    · obtain ⟨served,_,_,done⟩ := continues_serving serve serving
      exact ⟨_,served.reaches,done⟩
  · exact ⟨s,.refl s,open'⟩

lemma shouldExit_step (s : DmTask σ) (e : DmEvent) : (s.step serve e).shouldExit ↔ s.shouldExit ∨ e = .stop := by
  cases e with
  | stop => simp [step]
  | work =>
    have kept : (s.taskMain serve).shouldExit = s.shouldExit := by
      rw [taskMain]
      cases s.stage with
      | waiting =>
        dsimp only
        split <;> rfl
      | draining => cases s.workQ <;> rfl
      | _ => rfl
    simp [step,kept]
  | _ =>
    rw [step]
    split
    all_goals (try split) <;> simp [refuse,advance]

lemma shouldExit_run (serve : σ → DmOp → DmResult × σ) (store : σ)
    (unstopped : DmEvent.stop ∉ events) : (run serve store events).shouldExit = false := by
  have others : Runs.Along (step serve) (fun _ e => e ≠ .stop) (start store) events := by
    refine Runs.along_of_mem (fun e member _ same => ?_) _
    subst same
    exact unstopped member
  refine Runs.foldl_invariant (fun s : DmTask σ => s.shouldExit = false) ?_ others rfl
  intro s e other staying
  rw [Bool.eq_false_iff,Ne,shouldExit_step]
  simp [other,staying]

lemma working_of_staying (sound : s.Sound) (staying : s.shouldExit = false) : ¬s.PastFinalDrain := by
  rintro (closing | ended | ⟨_,exiting⟩)
  · simpa [staying] using sound.leaving (.inl closing)
  · simpa [staying] using sound.leaving (.inr ended)
  · simp [staying] at exiting

structure Closed (s : DmTask σ) : Prop where
  exiting : s.shouldExit = true
  nobody : ∀ c, ¬ (s.client c).Entering
  empty : s.PastFinalDrain → s.workQ = []

lemma Closed.setClient (closed : s.Closed) {client : DmClient} (outside : ¬client.Entering) :
    (s.setClient c client).Closed := by
  refine ⟨closed.exiting,fun other => ?_,closed.empty⟩
  rw [setClient_client]
  split
  · exact outside
  · exact closed.nobody other

lemma Closed.taskMain (closed : s.Closed) : (s.taskMain serve).Closed := by
  have ⟨exiting,nobody,empty⟩ := closed
  cases stage : s.stage with
  | top =>
    rw [taskMain_top_exit stage exiting]
    exact ⟨exiting,nobody,by simp [PastFinalDrain]⟩
  | waiting =>
    rcases Nat.eq_zero_or_pos s.workQueued with none | queued
    · rw [DmTask.taskMain,stage]
      simpa [none] using closed
    · rw [taskMain_waiting stage queued]
      exact ⟨exiting,nobody,by simp [PastFinalDrain]⟩
  | draining =>
    cases queue : s.workQ with
    | nil =>
      rw [taskMain_nil stage queue]
      exact ⟨exiting,nobody,fun _ => queue⟩
    | cons first rest =>
      rw [taskMain_cons stage queue]
      exact ⟨exiting,nobody,by simp [PastFinalDrain]⟩
  | serving c =>
    rw [taskMain_serving stage]
    have answered : (s.setClient c {s.client c with result := some (serve s.store (s.client c).request).1}).Closed :=
      closed.setClient (nobody c)
    exact ⟨exiting,answered.nobody,by simp [PastFinalDrain]⟩
  | deciding =>
    rw [taskMain_deciding_exit stage exiting]
    exact ⟨exiting,nobody,fun _ => empty (.inr (.inr ⟨stage,exiting⟩))⟩
  | closing =>
    rw [taskMain_closing stage]
    exact ⟨exiting,nobody,fun _ => empty (.inl stage)⟩
  | ended =>
    rw [DmTask.taskMain,stage]
    exact closed

lemma Closed.step (closed : s.Closed) (e : DmEvent) : (s.step serve e).Closed := by
  cases e with
  | work => exact closed.taskMain
  | stop => exact ⟨rfl,closed.nobody,fun past => closed.empty (past.imp id (.imp id fun deciding =>
      ⟨deciding.1,closed.exiting⟩))⟩
  | call c request =>
    rw [DmTask.step]
    split
    · split <;> exact closed.setClient (by simp [DmClient.Entering])
    · exact closed
  | checkExit c =>
    rw [DmTask.step,if_pos closed.exiting]
    split
    · exact closed.setClient (by simp [DmClient.Entering])
    · exact closed
  | createWorkItem c allocated =>
    rw [DmTask.step,if_neg fun admitted => closed.nobody c (.inl admitted)]
    exact closed
  | enqueue c =>
    rw [DmTask.step,if_neg fun created => closed.nobody c (.inr created)]
    exact closed
  | post c =>
    rw [DmTask.step]
    split
    · have announced : (s.advance c .waiting).Closed := closed.setClient (by simp [DmClient.Entering])
      exact ⟨announced.exiting,announced.nobody,announced.empty⟩
    · exact closed
  | takeResult c =>
    rw [DmTask.step]
    split
    · exact closed.setClient (by simp [DmClient.Entering])
    · exact closed
  | postStop =>
    rw [DmTask.step]
    split
    · exact closed
    · exact ⟨closed.exiting,closed.nobody,closed.empty⟩

lemma closed_stop (sound : s.Sound) (staying : s.shouldExit = false) (quiet : s.QuietStop) :
    (s.step serve .stop).Closed := by
  refine ⟨rfl,quiet.1,?_⟩
  rintro (closing | ended | ⟨deciding,_⟩)
  · exact absurd (.inl closing) (working_of_staying sound staying)
  · exact absurd (.inr (.inl ended)) (working_of_staying sound staying)
  · exact quiet.2 deciding

section
variable (serve)

lemma reaches_past (s : DmTask σ) (exiting : s.shouldExit) (stopping : 0 < s.stopping) :
    ∃ t, Runs.Reaches (step serve) s t ∧ t.PastFinalDrain ∧ ∀ c, (t.client c).stage = (s.client c).stage := by
  have enough {t : DmTask σ} (there : Continues serve s t) (stage : t.stage = .draining) :
      ∃ t, Runs.Reaches (step serve) s t ∧ t.PastFinalDrain ∧ ∀ c, (t.client c).stage = (s.client c).stage := by
    obtain ⟨u,rest,deciding,_⟩ := drains serve t stage
    have all := there.trans rest
    exact ⟨u,all.reaches,.inr (.inr ⟨deciding,all.shouldExit.trans exiting⟩),all.clients⟩
  cases stage : s.stage with
  | top => exact enough (continues_restage (taskMain_top_exit stage exiting)) rfl
  | waiting =>
    let posted : DmTask σ := {s with stopping := s.stopping-1, workQueued := s.workQueued+1}
    have post : s.step serve .postStop = posted := if_neg stopping.ne'
    have first : Continues serve s posted := ⟨post ▸ single s DmEvent.postStop,rfl,fun _ => rfl,fun _ => id⟩
    have woken : posted.taskMain serve = {posted with workQueued := posted.workQueued-1, stage := .draining} :=
      taskMain_waiting stage (Nat.succ_pos _)
    exact enough (first.trans (continues_restage woken)) rfl
  | draining => exact enough (.refl s) stage
  | serving c =>
    obtain ⟨served,draining,_,_⟩ := continues_serving serve stage
    exact enough served draining
  | deciding => exact ⟨s,.refl s,.inr (.inr ⟨stage,exiting⟩),fun _ => rfl⟩
  | closing => exact ⟨s,.refl s,.inl stage,fun _ => rfl⟩
  | ended => exact ⟨s,.refl s,.inr (.inl stage),fun _ => rfl⟩

lemma reaches_enqueued (s : DmTask σ) (entering : (s.client c).Entering) :
    ∃ t, Runs.Reaches (step serve) s t ∧ c ∈ t.workQ ∧ (s.PastFinalDrain → t.PastFinalDrain) := by
  have enqueued (u : DmTask σ) (created : (u.client c).stage = .created) :
      c ∈ (u.step serve (.enqueue c)).workQ ∧ (u.PastFinalDrain → (u.step serve (.enqueue c)).PastFinalDrain) := by
    rw [step,if_pos created]
    exact ⟨by simp,id⟩
  rcases entering with admitted | created
  · have advanced : s.step serve (.createWorkItem c true) =
        s.setClient c {s.client c with stage := .created, result := none} := by
      rw [step,if_pos admitted,if_pos rfl]
    obtain ⟨member,past⟩ := enqueued (s.step serve (.createWorkItem c true)) (by rw [advanced,setClient_client,if_pos rfl])
    refine ⟨_,(single s (.createWorkItem c true)).trans (single _ (.enqueue c)),member,?_⟩
    exact fun before => past (advanced ▸ before)
  · obtain ⟨member,past⟩ := enqueued s created
    exact ⟨_,single s (.enqueue c),member,past⟩

lemma quiet_of_served (s : DmTask σ)
    (always : ∀ t, Runs.Reaches (step serve) (s.step serve .stop) t → t.Served serve) : s.QuietStop := by
  constructor
  · intro c entering
    obtain ⟨t,drained,past,clients⟩ := reaches_past serve (s.step serve .stop) rfl (Nat.succ_pos _)
    have still : (t.client c).Entering := by
      rw [DmClient.Entering,clients c]
      exact entering
    obtain ⟨u,enqueued,member,stays⟩ := reaches_enqueued serve t still
    exact (always u (drained.trans enqueued) c).1 ⟨stays past,member⟩
  · intro deciding
    refine List.eq_nil_iff_forall_not_mem.mpr fun c member => ?_
    exact (always _ (.refl _) c).1 ⟨.inr (.inr ⟨deciding,rfl⟩),member⟩

end

/-- Until `stop` every request can be answered, and afterwards exactly if `stop` came at a quiet moment. -/
theorem stop_loses_nothing_iff (serve : σ → DmOp → DmResult × σ) (store : σ) (before : List DmEvent)
    (unstopped : DmEvent.stop ∉ before) :
    (run serve store before).Served serve ∧ ((run serve store before).QuietStop ↔
        ∀ after, (run serve store (before ++ .stop::after)).Served serve) := by
  have sound := sound_run serve store before
  have staying := shouldExit_run serve store unstopped
  have split (after : List DmEvent) : run serve store (before ++ .stop::after) =
      after.foldl (step serve) ((run serve store before).step serve .stop) := by
    rw [run,List.foldl_append,List.foldl_cons,← run]
  refine ⟨sound.served fun c lost => working_of_staying sound staying lost.1,fun quiet after => ?_,fun always => ?_⟩
  · have closed : (run serve store (before ++ .stop::after)).Closed := by
      rw [split]
      exact Runs.foldl_preserved Closed (fun _ e closed => closed.step e) (closed_stop sound staying quiet) after
    refine (sound_run serve store _).served fun c lost => ?_
    exact absurd (closed.empty lost.1 ▸ lost.2) List.not_mem_nil
  · refine quiet_of_served serve _ fun t reached => ?_
    obtain ⟨after,rfl⟩ := reached
    exact split after ▸ always after

def clearQueued : List DmEvent := [.call 0 (.clear 0),.checkExit 0,.createWorkItem 0 true,.enqueue 0]

theorem stop_after_enqueue : (run (ramStep datamanLayout) (ramInitialize datamanLayout) clearQueued).QuietStop ∧
      ∀ after, (run (ramStep datamanLayout) (ramInitialize datamanLayout) (clearQueued ++ .stop::after)).Served
        (ramStep datamanLayout) := by
  have quiet : (run (ramStep datamanLayout) (ramInitialize datamanLayout) clearQueued).QuietStop := by
    refine ⟨fun c entering => ?_,fun deciding => by cases deciding⟩
    by_cases eq : c = 0
    · subst eq
      rcases entering with bad | bad <;> cases bad
    · simp [clearQueued,run,step,start,advance,setClient,eq,DmClient.Entering] at entering
  exact ⟨quiet,(stop_loses_nothing_iff _ _ clearQueued (by decide)).2.mp quiet⟩

def clearLate : List DmEvent :=
  [.call 0 (.clear 0),.checkExit 0,.stop,.work,.work,.work,.work,.createWorkItem 0 true,.enqueue 0]

theorem late_enqueue_lost : (run (ramStep datamanLayout) (ramInitialize datamanLayout) clearLate).stage = .ended ∧
      (run (ramStep datamanLayout) (ramInitialize datamanLayout) clearLate).workQ = [0] ∧
      ¬ (run (ramStep datamanLayout) (ramInitialize datamanLayout) clearLate).Served (ramStep datamanLayout) := by
  have ended : (run (ramStep datamanLayout) (ramInitialize datamanLayout) clearLate).stage = .ended := rfl
  have queue : (run (ramStep datamanLayout) (ramInitialize datamanLayout) clearLate).workQ = [0] := rfl
  refine ⟨ended,queue,fun served => (served 0).1 ⟨.inr (.inl ended),?_⟩⟩
  rw [queue]
  exact List.mem_singleton_self 0

end DmTask
end AerialManipulator
