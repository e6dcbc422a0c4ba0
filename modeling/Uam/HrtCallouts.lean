import Uam.CalloutQueue
import Uam.Library.Runs

/-! Callouts of the high-resolution timer on POSIX. A section under the lock is one step;
`hrt_call_invoke` releases it for each callout. The clock may read anything. -/
namespace AerialManipulator
open Linked Runs

structure HrtCall where
  deadline : UInt64
  period : UInt64
  callout : Bool

inductive HrtPhase (ι : Type)
  | idle
  /-- at the start of the loop, with the lock -/
  | looping
  /-- in the callout, without the lock -/
  | calling (call : ι) (now deadline : UInt64)

structure Hrt (ι : Type) where
  queue : SqQueue ι
  calls : ι → HrtCall
  phase : HrtPhase ι

inductive HrtEvent (ι : Type)
  | callAfter (entry : ι) (now delay : UInt64) (callout : Bool)
  | callEvery (entry : ι) (now delay interval : UInt64) (callout : Bool)
  | callAt (entry : ι) (calltime : UInt64) (callout : Bool)
  | cancel (entry : ι)
  | invoke
  | round (now : UInt64)
  | returns

def HrtEvent.armed {ι : Type} : HrtEvent ι → Option ι
  | .callAfter entry _ _ _ | .callEvery entry _ _ _ _ | .callAt entry _ _ => some entry
  | _ => none

namespace Hrt
variable {ι : Type} [DecidableEq ι]

def setCall (entry : ι) (call : HrtCall) (s : Hrt ι) : Hrt ι := {s with calls := Function.update s.calls entry call}

def hrtCallEnter (fuel : Nat) (entry : ι) (s : Hrt ι) : Option (Hrt ι) :=
  (s.queue.hrtCallEnter fuel (fun i => (s.calls i).deadline) entry).map fun queue => {s with queue := queue}

def hrtCallInternal (fuel : Nat) (entry : ι) (deadline interval : UInt64) (callout : Bool) (s : Hrt ι) :
    Option (Hrt ι) :=
  -- if the entry is currently queued, remove it
  (if (s.calls entry).deadline ≠ 0 then s.queue.sqRem fuel entry else some s.queue).bind fun queue =>
    ({s with queue := queue}.setCall entry ⟨deadline,interval,callout⟩).hrtCallEnter fuel entry

def hrtCallAfter (fuel : Nat) (entry : ι) (now delay : UInt64) (callout : Bool) : Hrt ι → Option (Hrt ι) :=
  hrtCallInternal fuel entry (now+delay) 0 callout

def hrtCallEvery (fuel : Nat) (entry : ι) (now delay interval : UInt64) (callout : Bool) : Hrt ι → Option (Hrt ι) :=
  hrtCallInternal fuel entry (now+delay) interval callout

def hrtCallAt (fuel : Nat) (entry : ι) (calltime : UInt64) (callout : Bool) : Hrt ι → Option (Hrt ι) :=
  hrtCallInternal fuel entry calltime 0 callout

def hrtCancel (fuel : Nat) (entry : ι) (s : Hrt ι) : Option (Hrt ι) :=
  (s.queue.sqRem fuel entry).map fun queue =>
    {s with queue := queue}.setCall entry {s.calls entry with deadline := 0, period := 0}

def reenter (fuel : Nat) (call : ι) (now deadline : UInt64) (s : Hrt ι) : Option (Hrt ι) :=
  if (s.calls call).period ≠ 0 then
    (s.setCall call { s.calls call with
      deadline := if (s.calls call).deadline ≤ now then deadline+(s.calls call).period
        else (s.calls call).deadline }).hrtCallEnter fuel call
  else some s

def round (fuel : Nat) (now : UInt64) (s : Hrt ι) : Option (Hrt ι) :=
  s.queue.head.elim (some {s with phase := .idle}) fun call =>
    if now < (s.calls call).deadline then some {s with phase := .idle}
    else (s.queue.sqRem fuel call).bind fun queue =>
      if (s.calls call).callout then
        some ({s with queue := queue, phase := .calling call now (s.calls call).deadline}.setCall call
          {s.calls call with deadline := 0})
      else ({s with queue := queue}.setCall call {s.calls call with deadline := 0}).reenter fuel call now
        (s.calls call).deadline

def withLock (section_ : Hrt ι → Option (Hrt ι)) (s : Hrt ι) : Option (Hrt ι) :=
  match s.phase with
  | .looping => some s
  | _ => section_ s

def step (fuel : Nat) (s : Hrt ι) : HrtEvent ι → Option (Hrt ι)
  | .callAfter entry now delay callout => s.withLock (hrtCallAfter fuel entry now delay callout)
  | .callEvery entry now delay interval callout => s.withLock (hrtCallEvery fuel entry now delay interval callout)
  | .callAt entry calltime callout => s.withLock (hrtCallAt fuel entry calltime callout)
  | .cancel entry => s.withLock (hrtCancel fuel entry)
  | .invoke =>
    match s.phase with
    | .idle => some {s with phase := .looping}
    | _ => some s
  | .round now =>
    match s.phase with
    | .looping => s.round fuel now
    | _ => some s
  | .returns =>
    match s.phase with
    | .calling call now deadline => {s with phase := .looping}.reenter fuel call now deadline
    | _ => some s

def next (fuel : Nat) (s : Option (Hrt ι)) (e : HrtEvent ι) : Option (Hrt ι) := s.bind (step fuel · e)

def init (flink : ι → Option ι) (calls : ι → HrtCall) : Hrt ι := ⟨⟨none,none,flink⟩,calls,.idle⟩

def Queued (s : Hrt ι) (entry : ι) : Prop := ∃ nodes, Chain s.queue.flink s.queue.head nodes ∧ entry ∈ nodes

def Intact (s : Hrt ι) : Prop :=
  ∃ nodes, Chain s.queue.flink s.queue.head nodes ∧ nodes.Nodup ∧
    nodes.Pairwise fun a b => (s.calls a).deadline ≤ (s.calls b).deadline

/-- The deadline 0 stands for an entry that is not queued. -/
structure Admits (s : Hrt ι) (e : HrtEvent ι) : Prop where
  /-- no callout with a period returns to find its entry queued -/
  returned : ∀ call now deadline, s.phase = .calling call now deadline → e = .returns → s.Queued call →
    (s.calls call).period = 0
  /-- no entry is armed that is queued with the deadline 0 -/
  armed : s.phase ≠ .looping → ∀ entry, e.armed = some entry → s.Queued entry → (s.calls entry).deadline ≠ 0

structure Sound (s : Hrt ι) (nodes : List ι) : Prop where
  holds : s.queue.Holds nodes
  sorted : nodes.Pairwise fun a b => (s.calls a).deadline ≤ (s.calls b).deadline

def Cancelled (s : Hrt ι) (nodes : List ι) (entry : ι) : Prop := entry ∉ nodes ∧ (s.calls entry).period = 0

variable {s : Hrt ι} {nodes : List ι} {fuel : Nat}

structure Follows (s t : Hrt ι) (nodes nodes' : List ι) (armed : Option ι) : Prop where
  sound : t.Sound nodes'
  length : nodes'.length ≤ nodes.length+1
  cancelled : ∀ i, armed ≠ some i → s.Cancelled nodes i → t.Cancelled nodes' i

section
omit [DecidableEq ι]

lemma Admits.of_empty {s : Hrt ι} (empty : s.queue.head = none) (e : HrtEvent ι) : s.Admits e := by
  have unqueued (entry : ι) : ¬s.Queued entry := by
    intro queued
    obtain ⟨nodes,chain,member⟩ := queued
    rw [List.head?_eq_none_iff.mp (chain.head_eq.symm.trans empty)] at member
    exact List.not_mem_nil member
  exact ⟨fun call _ _ _ _ queued => absurd queued (unqueued call),
    fun _ entry _ queued => absurd queued (unqueued entry)⟩

lemma Admits.of_unarmed (s : Hrt ι) (other : e ≠ .returns) (unarmed : e.armed = none) : s.Admits e :=
  ⟨fun _ _ _ _ same => absurd same other,fun _ _ armed => absurd (unarmed.symm.trans armed) nofun⟩

namespace Sound

lemma queued_iff (sound : s.Sound nodes) (entry : ι) : s.Queued entry ↔ entry ∈ nodes := by
  constructor
  · intro queued
    obtain ⟨others,chain,member⟩ := queued
    rwa [sound.holds.chain.unique chain]
  · intro member
    exact ⟨nodes,sound.holds.chain,member⟩

lemma intact (sound : s.Sound nodes) : s.Intact := ⟨nodes,sound.holds.chain,sound.holds.chain.nodup,sound.sorted⟩

lemma setPhase (sound : s.Sound nodes) (phase : HrtPhase ι) : Sound {s with phase := phase} nodes :=
  ⟨sound.holds,sound.sorted⟩

lemma follows (sound : s.Sound nodes) (armed : Option ι) : s.Follows s nodes nodes armed :=
  ⟨sound,Nat.le_succ _,fun _ _ cancelled => cancelled⟩

lemma withLock (sound : s.Sound nodes)
    (free : s.phase ≠ .looping → ∃ t nodes', section_ s = some t ∧ s.Follows t nodes nodes' armed) :
    ∃ t nodes', s.withLock section_ = some t ∧ s.Follows t nodes nodes' armed := by
  rw [Hrt.withLock]
  split
  · exact ⟨s,nodes,rfl,sound.follows armed⟩
  next other => exact free other

lemma init (flink : ι → Option ι) (calls : ι → HrtCall) : Sound (init flink calls) [] :=
  ⟨.empty flink,List.Pairwise.nil⟩

end Sound
end

namespace Sound

lemma setCall (sound : s.Sound nodes) (out : entry ∉ nodes) (call : HrtCall) : (s.setCall entry call).Sound nodes := by
  refine ⟨sound.holds,sound.sorted.imp_of_mem fun first second ordered => ?_⟩
  have one := ne_of_mem_of_not_mem first out
  have two := ne_of_mem_of_not_mem second out
  simpa [Hrt.setCall,one,two] using ordered

section
variable (sound : s.Sound nodes) (enough : nodes.length < fuel)
include sound enough

lemma sqRem (entry : ι) :
    ∃ queue, s.queue.sqRem fuel entry = some queue ∧ Sound {s with queue := queue} (nodes.erase entry) := by
  obtain ⟨queue,removed,holds⟩ := sound.holds.sqRem entry enough
  exact ⟨queue,removed,holds,sound.sorted.sublist List.erase_sublist⟩

lemma hrtCallEnter (out : entry ∉ nodes) : ∃ queue nodes', s.hrtCallEnter fuel entry = some {s with queue := queue} ∧
      Sound {s with queue := queue} nodes' ∧ nodes'.length = nodes.length+1 ∧
      ∀ i, i ∈ nodes' ↔ i = entry ∨ i ∈ nodes := by
  obtain ⟨queue,entered,holds⟩ := sound.holds.hrtCallEnter out enough fun i => (s.calls i).deadline
  refine ⟨queue,_,?_,⟨holds,SqQueue.sorted_orderedInsert sound.sorted entry⟩,List.orderedInsert_length _ _ _,
    fun i => List.mem_orderedInsert _⟩
  rw [Hrt.hrtCallEnter,entered]
  rfl

lemma hrtCallInternal (unqueued : entry ∈ nodes → (s.calls entry).deadline ≠ 0) :
    ∃ t nodes', s.hrtCallInternal fuel entry deadline interval callout = some t ∧
      s.Follows t nodes nodes' (some entry) := by
  have removed : ∃ queue,
      (if (s.calls entry).deadline ≠ 0 then s.queue.sqRem fuel entry else some s.queue) = some queue ∧
        Sound {s with queue := queue} (nodes.erase entry) := by
    split
    · exact sound.sqRem enough entry
    next zero =>
      rw [List.erase_of_not_mem fun member => zero (unqueued member)]
      exact ⟨s.queue,rfl,sound⟩
  obtain ⟨queue,found,left⟩ := removed
  have out : entry ∉ nodes.erase entry := sound.holds.chain.nodup.not_mem_erase
  have shorter : (nodes.erase entry).length ≤ nodes.length := List.erase_sublist.length_le
  obtain ⟨queue',nodes',entered,moved,length,members⟩ := (left.setCall out ⟨deadline,interval,callout⟩).hrtCallEnter
    (Nat.lt_of_le_of_lt shorter enough) out
  refine ⟨_,nodes',?_,moved,length ▸ Nat.succ_le_succ shorter,fun i other cancelled => ⟨fun member => ?_,?_⟩⟩
  · rw [Hrt.hrtCallInternal,found]
    exact entered
  · rcases (members i).mp member with rfl | inside
    · exact other rfl
    · exact cancelled.1 (List.mem_of_mem_erase inside)
  · have apart : i ≠ entry := fun same => other (congrArg some same.symm)
    simpa [Hrt.setCall,apart] using cancelled.2

lemma hrtCancel (entry : ι) (armed : Option ι) :
    ∃ t nodes', s.hrtCancel fuel entry = some t ∧ s.Follows t nodes nodes' armed ∧ t.Cancelled nodes' entry := by
  obtain ⟨queue,removed,left⟩ := sound.sqRem enough entry
  have out : entry ∉ nodes.erase entry := sound.holds.chain.nodup.not_mem_erase
  have shorter : (nodes.erase entry).length ≤ nodes.length := List.erase_sublist.length_le
  refine ⟨_,nodes.erase entry,by rw [Hrt.hrtCancel,removed]; rfl,?_,out,by simp [Hrt.setCall]⟩
  refine ⟨left.setCall out _,Nat.le_succ_of_le shorter,fun i _ cancelled => ⟨?_,?_⟩⟩
  · exact fun member => cancelled.1 (List.mem_of_mem_erase member)
  · by_cases same : i = entry
    · simp [Hrt.setCall,same]
    · simpa [Hrt.setCall,same] using cancelled.2

lemma reenter (unqueued : call ∈ nodes → (s.calls call).period = 0) (armed : Option ι) :
    ∃ t nodes', s.reenter fuel call now deadline = some t ∧ s.Follows t nodes nodes' armed := by
  rw [Hrt.reenter]
  split
  next periodic =>
    have out : call ∉ nodes := fun member => periodic (unqueued member)
    obtain ⟨queue,nodes',entered,moved,length,members⟩ := (sound.setCall out _).hrtCallEnter enough out
    refine ⟨_,nodes',entered,moved,length.le,fun i _ cancelled => ?_⟩
    have apart : i ≠ call := fun same => periodic (same ▸ cancelled.2)
    refine ⟨fun member => ?_,by simpa [Hrt.setCall,apart] using cancelled.2⟩
    rcases (members i).mp member with same | inside
    · exact apart same
    · exact cancelled.1 inside
  · exact ⟨s,nodes,rfl,sound.follows armed⟩

lemma round (armed : Option ι) : ∃ t nodes', s.round fuel now = some t ∧ s.Follows t nodes nodes' armed := by
  rw [Hrt.round,sound.holds.chain.head_eq]
  cases nodes with
  | nil => exact ⟨_,[],rfl,sound.setPhase .idle,Nat.zero_le _,fun _ _ gone => gone⟩
  | cons call rest =>
    rw [List.head?_cons,Option.elim_some]
    split
    · exact ⟨_,_,rfl,sound.setPhase .idle,Nat.le_succ _,fun _ _ gone => gone⟩
    · obtain ⟨queue,removed,left⟩ := sound.sqRem enough call
      rw [List.erase_cons_head] at left
      have out : call ∉ rest := (List.nodup_cons.mp sound.holds.chain.nodup).1
      have popped (i : ι) (gone : s.Cancelled (call::rest) i) :
          Cancelled ({s with queue := queue}.setCall call {s.calls call with deadline := 0}) rest i := by
        refine ⟨fun member => gone.1 (List.mem_cons_of_mem call member),?_⟩
        by_cases same : i = call
        · rw [← same]
          simpa [Hrt.setCall] using gone.2
        · simpa [Hrt.setCall,same] using gone.2
      rw [removed,Option.bind_some]
      split
      · exact ⟨_,rest,rfl,(left.setPhase _).setCall out _,by rw [List.length_cons]; omega,fun i _ => popped i⟩
      · have room : rest.length < fuel := Nat.lt_of_succ_lt enough
        obtain ⟨t,nodes',entered,follows⟩ := (left.setCall out {s.calls call with deadline := 0}).reenter room
          (fun member => absurd member out) armed
        exact ⟨t,nodes',entered,follows.sound,Nat.le_succ_of_le follows.length,
          fun i other gone => follows.cancelled i other (popped i gone)⟩

lemma step (admits : s.Admits e) : ∃ t nodes', s.step fuel e = some t ∧ s.Follows t nodes nodes' e.armed := by
  have unqueued {entry : ι} (armed : e.armed = some entry) (free : s.phase ≠ .looping) (member : entry ∈ nodes) :
      (s.calls entry).deadline ≠ 0 := admits.armed free entry armed ((sound.queued_iff entry).mpr member)
  cases e with
  | callAfter entry now delay callout | callEvery entry now delay interval callout | callAt entry calltime callout =>
    exact sound.withLock fun free => sound.hrtCallInternal enough (unqueued rfl free)
  | cancel entry =>
    refine sound.withLock fun _ => ?_
    obtain ⟨t,nodes',removed,follows,_⟩ := sound.hrtCancel enough entry none
    exact ⟨t,nodes',removed,follows⟩
  | invoke =>
    rw [Hrt.step]
    split
    · exact ⟨_,nodes,rfl,sound.setPhase .looping,Nat.le_succ _,fun _ _ cancelled => cancelled⟩
    · exact ⟨s,nodes,rfl,sound.follows none⟩
  | round now =>
    rw [Hrt.step]
    split
    · exact sound.round enough none
    · exact ⟨s,nodes,rfl,sound.follows none⟩
  | returns =>
    rw [Hrt.step]
    split
    next call now deadline phase =>
      have period (member : call ∈ nodes) : (s.calls call).period = 0 :=
        admits.returned call now deadline phase rfl ((sound.queued_iff call).mpr member)
      obtain ⟨t,nodes',entered,follows⟩ := (sound.setPhase .looping).reenter enough period none
      exact ⟨t,nodes',entered,follows.sound,follows.length,follows.cancelled⟩
    · exact ⟨s,nodes,rfl,sound.follows none⟩

end

lemma run {events : List (HrtEvent ι)} (sound : s.Sound nodes) (room : nodes.length+events.length ≤ fuel)
    (admitted : Along (next fuel) (fun s e => ∀ t, s = some t → t.Admits e) (some s) events) :
    ∃ t nodes', events.foldl (next fuel) (some s) = some t ∧ t.Sound nodes' ∧
      nodes'.length ≤ nodes.length+events.length ∧
      ∀ i, (∀ e ∈ events, e.armed ≠ some i) → s.Cancelled nodes i → t.Cancelled nodes' i := by
  induction events generalizing s nodes with
  | nil => exact ⟨s,nodes,rfl,sound,Nat.le_refl _,fun _ _ cancelled => cancelled⟩
  | cons e rest ih =>
    rw [List.length_cons] at room ⊢
    have enough : nodes.length < fuel := by omega
    obtain ⟨t,nodes',stepped,follows⟩ := sound.step enough (admitted.1 s rfl)
    have moved : next fuel (some s) e = some t := stepped
    have left : nodes'.length+rest.length ≤ fuel := by have length := follows.length; omega
    have others := admitted.2
    rw [moved] at others
    obtain ⟨u,nodes'',ends,final,size,cancelled⟩ := ih follows.sound left others
    refine ⟨u,nodes'',?_,final,by have length := follows.length; omega,fun i unarmed start => ?_⟩
    · rw [List.foldl_cons,moved,ends]
    · obtain ⟨first,later⟩ := List.forall_mem_cons.mp unarmed
      exact cancelled i later (follows.cancelled i first start)

end Sound

lemma not_queued_of_cancel {flink : ι → Option ι} {calls : ι → HrtCall} {before after : List (HrtEvent ι)} {entry : ι}
    {s t : Hrt ι} (room : (before ++ .cancel entry::after).length ≤ fuel)
    (admitted : Along (next fuel) (fun s e => ∀ t, s = some t → t.Admits e) (some (init flink calls))
      (before ++ .cancel entry::after))
    (reached : before.foldl (next fuel) (some (init flink calls)) = some s) (free : s.phase ≠ .looping)
    (ended : (before ++ .cancel entry::after).foldl (next fuel) (some (init flink calls)) = some t)
    (unarmed : ∀ e ∈ after, e.armed ≠ some entry) : ¬t.Queued entry := by
  rw [List.length_append,List.length_cons] at room
  obtain ⟨first,second⟩ := (along_append _ _ _).mp admitted
  obtain ⟨s',nodes,found,sound,length,_⟩ := (Sound.init flink calls).run (by rw [List.length_nil]; omega) first
  rw [List.length_nil] at length
  obtain rfl : s = s' := Option.some.inj (reached.symm.trans found)
  have enough : nodes.length < fuel := by omega
  obtain ⟨u,nodes',removed,follows,cancelled⟩ := sound.hrtCancel enough entry none
  have moved : next fuel (some s) (.cancel entry) = some u := by
    rw [next,Option.bind_some,step,withLock]
    split
    next looping => exact absurd looping free
    · exact removed
  have size := follows.length
  rw [reached,along_cons,moved] at second
  obtain ⟨v,nodes'',last,final,_,kept⟩ := follows.sound.run (by omega) second.2
  rw [List.foldl_append,reached,List.foldl_cons,moved,last] at ended
  obtain rfl : v = t := Option.some.inj ended
  rw [final.queued_iff]
  exact (kept entry unarmed cancelled).1

/-- In every admitted run the queue stays intact, the loops end, and a cancelled entry is
not queued until armed again. -/
theorem intact_of_admitted (flink : ι → Option ι) (calls : ι → HrtCall) (events : List (HrtEvent ι)) (fuel : Nat)
    (enough : events.length ≤ fuel)
    (admitted : Along (next fuel) (fun s e => ∀ t, s = some t → t.Admits e) (some (init flink calls)) events) :
    ∃ t, events.foldl (next fuel) (some (init flink calls)) = some t ∧ t.Intact ∧
      ∀ before entry after s, events = before ++ .cancel entry::after →
        before.foldl (next fuel) (some (init flink calls)) = some s → s.phase ≠ .looping →
        (∀ e ∈ after, e.armed ≠ some entry) → ¬t.Queued entry := by
  obtain ⟨t,nodes,ended,sound,_⟩ := (Sound.init flink calls).run (by rw [List.length_nil]; omega) admitted
  refine ⟨t,ended,sound.intact,fun before entry after s split reached free unarmed => ?_⟩
  rw [split] at enough admitted ended
  exact not_queued_of_cancel enough admitted reached free ended unarmed

theorem intact_of_admitted_cancelled :
    ∃ t, [.callEvery () 0 10 10 true,.invoke,.round 10,.returns,.round 10,.cancel ()].foldl (next 6)
      (some (init (fun _ => none) fun _ => ⟨0,0,false⟩)) = some t ∧ t.Intact ∧ ¬t.Queued () := by
  have admitted : Along (next 6) (fun s e => ∀ t, s = some t → t.Admits e)
      (some (init (fun _ => none) fun _ => ⟨0,0,false⟩))
      [.callEvery () 0 10 10 true,.invoke,.round 10,.returns,.round 10,.cancel ()] := by
    refine ⟨fun t found => ?_,fun t _ => .of_unarmed t nofun rfl,fun t _ => .of_unarmed t nofun rfl,fun t found => ?_,
      fun t _ => .of_unarmed t nofun rfl,fun t _ => .of_unarmed t nofun rfl,trivial⟩
    all_goals
      cases found
      exact .of_empty rfl _
  obtain ⟨t,ended,intact,cancelled⟩ := intact_of_admitted _ _ _ 6 (by decide) admitted
  refine ⟨t,ended,intact,?_⟩
  exact cancelled [.callEvery () 0 10 10 true,.invoke,.round 10,.returns,.round 10] () [] _ rfl rfl nofun nofun

/-- The callout arms its own entry, and `hrt_call_invoke` enters it again: it is its own successor. -/
theorem not_intact_rearmed :
    ∃ t, [.callEvery () 0 10 10 true,.invoke,.round 10,.callEvery () 10 10 10 true,.returns].foldl (next 5)
      (some (init (fun _ => none) fun _ => ⟨0,0,false⟩)) = some t ∧ ¬t.Intact := by
  refine ⟨_,rfl,fun intact => ?_⟩
  obtain ⟨nodes,chain,_⟩ := intact
  obtain ⟨rest,rfl⟩ := List.head?_eq_some_iff.mp chain.head_eq.symm
  have first : Chain _ _ ([] ++ ()::rest) := chain
  exact first.link_ne rfl

end Hrt
end AerialManipulator
