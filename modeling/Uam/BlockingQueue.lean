import Uam.Library.Cyclic
import Uam.Library.Runs

/-! The queue between threads of `BlockingQueue`. Its semaphores count the free places and
the items, but keep neither two producers nor two consumers apart. Each statement of
`push` and `pop` is a step. -/
namespace AerialManipulator
open List Function Cyclic Runs

inductive QueueStage where
  | accessing
  | advancing
  | posting

inductive QueueThread (T : Type) where
  | outside
  | push (newItem : T) (stage : QueueStage)
  | pop (stage : QueueStage)

namespace QueueThread
variable {T : Type}

def pushing : QueueThread T → Option QueueStage
  | .push _ stage => some stage
  | _ => none

def popping : QueueThread T → Option QueueStage
  | .pop stage => some stage
  | _ => none

end QueueThread

structure BlockingQueue (ι T : Type) where
  semHead : Nat
  semTail : Nat
  data : Nat → T
  head : Nat
  tail : Nat
  threads : ι → QueueThread T
  pushed : List (ι × T)
  popped : List T

inductive QueueStep (T : Type) where
  | push (newItem : T)
  | pop
  | next

namespace BlockingQueue
variable {ι T : Type} [DecidableEq ι] (N : Nat)

def new (default : T) : BlockingQueue ι T := ⟨N,0,fun _ => default,0,0,fun _ => .outside,[],[]⟩

def goto (i : ι) (thread : QueueThread T) (q : BlockingQueue ι T) : BlockingQueue ι T :=
  {q with threads := update q.threads i thread}

def pushNext (i : ι) (newItem : T) (q : BlockingQueue ι T) : QueueStage → BlockingQueue ι T
  | .accessing => {q with data := update q.data q.tail newItem, pushed := q.pushed ++ [(i,newItem)]}.goto i
      (.push newItem .advancing)
  | .advancing => {q with tail := (q.tail + 1) % N}.goto i (.push newItem .posting)
  | .posting => {q with semTail := q.semTail + 1}.goto i .outside

def popNext (i : ι) (q : BlockingQueue ι T) : QueueStage → BlockingQueue ι T
  | .accessing => {q with popped := q.popped ++ [q.data q.head]}.goto i (.pop .advancing)
  | .advancing => {q with head := (q.head + 1) % N}.goto i (.pop .posting)
  | .posting => {q with semHead := q.semHead + 1}.goto i .outside

/-- A thread waiting for a semaphore stays where it is. -/
def step (q : BlockingQueue ι T) (e : ι × QueueStep T) : BlockingQueue ι T :=
  match q.threads e.1,e.2 with
  | .outside,.push newItem =>
    if q.semHead = 0 then q else {q with semHead := q.semHead - 1}.goto e.1 (.push newItem .accessing)
  | .outside,.pop => if q.semTail = 0 then q else {q with semTail := q.semTail - 1}.goto e.1 (.pop .accessing)
  | .push newItem stage,.next => q.pushNext N e.1 newItem stage
  | .pop stage,.next => q.popNext N e.1 stage
  | _,_ => q

/-- Each popped value is an item of its own that was pushed, those of one producer in order,
and `N` are stored at most. -/
def Fifo (q : BlockingQueue ι T) : Prop :=
  (∃ item : Nat → Nat, Injective item ∧ (∀ k < q.popped.length, q.pushed[item k]?.map Prod.snd = q.popped[k]?) ∧
    ∀ j k, j < k → k < q.popped.length → q.pushed[item j]?.map Prod.fst = q.pushed[item k]?.map Prod.fst →
      item j < item k) ∧ q.pushed.length ≤ q.popped.length+N

/-- No thread passes the first wait of a call while another is inside one of the same kind. -/
def Alone (q : BlockingQueue ι T) (e : ι × QueueStep T) : Prop :=
  (∀ newItem, e.2 = .push newItem → q.threads e.1 = .outside → q.semHead ≠ 0 → ∀ i, (q.threads i).pushing = none) ∧
    (e.2 = .pop → q.threads e.1 = .outside → q.semTail ≠ 0 → ∀ i, (q.threads i).popping = none)

end BlockingQueue

/-! What a call at this stage has taken from one semaphore without an access, has yet to advance and to post. -/
namespace QueueStage

def taken : QueueStage → Nat
  | .accessing => 1
  | _ => 0

def behind : QueueStage → Nat
  | .advancing => 1
  | _ => 0

def owed : QueueStage → Nat
  | .accessing => 0
  | _ => 1

end QueueStage

namespace BlockingQueue
variable {ι T : Type} [DecidableEq ι]

def Inside (part : QueueThread T → Option QueueStage) (q : BlockingQueue ι T) (a : Option (ι × QueueStage)) : Prop :=
  ∀ i stage, part (q.threads i) = some stage ↔ a = some (i,stage)

/-- The place of the next of `count` accesses; `late` of them have not moved it on. -/
def Placed (N place count late : Nat) : Prop := ∃ k, place = k % N ∧ k+late = count

structure Sound (N : Nat) (q : BlockingQueue ι T) (a b : Option (ι × QueueStage)) : Prop where
  pushing : q.Inside QueueThread.pushing a
  popping : q.Inside QueueThread.popping b
  tail : Placed N q.tail q.pushed.length (a.elim 0 (·.2.behind))
  head : Placed N q.head q.popped.length (b.elim 0 (·.2.behind))
  free : q.pushed.length+q.semHead+a.elim 0 (·.2.taken)+b.elim 0 (·.2.owed) = q.popped.length+N
  items : q.popped.length+q.semTail+b.elim 0 (·.2.taken)+a.elim 0 (·.2.owed) = q.pushed.length
  contents : q.pushed.map Prod.snd = q.popped ++ window N q.data q.popped.length (q.pushed.length-q.popped.length)

variable {N : Nat} {q : BlockingQueue ι T} {a b : Option (ι × QueueStage)} {i : ι}

section
variable {part : QueueThread T → Option QueueStage} (inside : q.Inside part a)
include inside

lemma Inside.enter (only : ∀ j stage, a = some (j,stage) → j = i) (t : QueueThread T) :
    (q.goto i t).Inside part ((part t).map (i,·)) := by
  intro j stage
  by_cases here : j = i
  · subst here
    simp [goto]
  · have out : part (q.threads j) ≠ some stage := fun found => here (only j stage ((inside j stage).mp found))
    simp [goto,here,out,Ne.symm here]

lemma Inside.keep (same : part t = part (q.threads i)) : (q.goto i t).Inside part a := by
  intro j stage
  rw [← inside j stage]
  by_cases here : j = i
  · subst here
    simp [goto,same]
  · simp [goto,here]

omit [DecidableEq ι] in
lemma Inside.nobody (out : ∀ i, part (q.threads i) = none) : a = none := by
  cases a with
  | none => rfl
  | some x => cases (out x.1).symm.trans ((inside x.1 x.2).mpr rfl)

end

lemma Placed.access (placed : Placed N p n 0) : Placed N p (n+1) 1 := by
  obtain ⟨k,place,rfl⟩ := placed
  exact ⟨k,place,rfl⟩

lemma Placed.advance (placed : Placed N p n 1) : Placed N ((p + 1) % N) n 0 := by
  obtain ⟨k,rfl,rfl⟩ := placed
  exact ⟨k+1,Nat.mod_add_mod k N 1,rfl⟩

lemma Placed.eq (placed : Placed N p n 0) : p = n % N := by
  obtain ⟨k,place,rfl⟩ := placed
  exact place

omit [DecidableEq ι] in
lemma sound_new (default : T) : (new N default : BlockingQueue ι T).Sound N none none := by
  constructor
  any_goals simp [new,Inside,Placed,window,QueueThread.pushing,QueueThread.popping]

lemma Sound.pushNext (sound : q.Sound N a b) (here : q.threads i = .push newItem stage) :
    ∃ a' b', (q.pushNext N i newItem stage).Sound N a' b' := by
  obtain rfl := (sound.pushing i stage).mp (by rw [here]; rfl)
  have enter (t : QueueThread T) := sound.pushing.enter (i := i) (by grind) t
  have keep (t : QueueThread T) (other : t.popping = none) : (q.goto i t).Inside QueueThread.popping b :=
    sound.popping.keep (by rw [here]; exact other)
  have free := sound.free
  have items := sound.items
  cases stage with
  | accessing =>
    change _+_+1+_ = _ at free
    change _+_+_+0 = _ at items
    have tail := Placed.eq sound.tail
    have longer : (q.pushed ++ [(i,newItem)]).length = q.pushed.length+1 := length_append
    refine ⟨_,b,enter (.push newItem .advancing),keep _ rfl,longer ▸ Placed.access sound.tail,sound.head,?_,?_,?_⟩
    · change (q.pushed ++ [_]).length+q.semHead+0+_ = q.popped.length+N
      omega
    · change q.popped.length+q.semTail+_+1 = (q.pushed ++ [_]).length
      omega
    · change (q.pushed ++ [_]).map Prod.snd =
        q.popped ++ window N (update q.data q.tail newItem) q.popped.length ((q.pushed ++ [_]).length-q.popped.length)
      have place : q.tail = (q.popped.length + (q.pushed.length - q.popped.length)) % N := by
        rw [tail,Nat.add_sub_cancel' (by omega)]
      rw [map_append,sound.contents,longer,Nat.sub_add_comm (by omega),place,window_update q.data (by omega)]
      rw [append_assoc]
      rfl
  | advancing =>
    exact ⟨_,b,enter (.push newItem .posting),keep _ rfl,Placed.advance sound.tail,sound.head,free,items,sound.contents⟩
  | posting =>
    change _+_+_+1 = _ at items
    refine ⟨_,b,enter .outside,keep _ rfl,sound.tail,sound.head,free,?_,sound.contents⟩
    change q.popped.length+(q.semTail+1)+_+0 = q.pushed.length
    omega

lemma Sound.popNext (sound : q.Sound N a b) (here : q.threads i = .pop stage) :
    ∃ a' b', (q.popNext N i stage).Sound N a' b' := by
  obtain rfl := (sound.popping i stage).mp (by rw [here]; rfl)
  have enter (t : QueueThread T) := sound.popping.enter (i := i) (by grind) t
  have keep (t : QueueThread T) (other : t.pushing = none) : (q.goto i t).Inside QueueThread.pushing a :=
    sound.pushing.keep (by rw [here]; exact other)
  have free := sound.free
  have items := sound.items
  cases stage with
  | accessing =>
    change _+_+_+0 = _ at free
    change _+_+1+_ = _ at items
    have head := Placed.eq sound.head
    have longer : (q.popped ++ [q.data q.head]).length = q.popped.length+1 := length_append
    refine ⟨a,_,keep _ rfl,enter (.pop .advancing),sound.tail,longer ▸ Placed.access sound.head,?_,?_,?_⟩
    · change q.pushed.length+q.semHead+_+1 = (q.popped ++ [_]).length+N
      omega
    · change (q.popped ++ [_]).length+q.semTail+0+_ = q.pushed.length
      omega
    · change q.pushed.map Prod.snd = (q.popped ++ [_]) ++ window N q.data (q.popped ++ [_]).length
        (q.pushed.length-(q.popped ++ [_]).length)
      have count : q.pushed.length-q.popped.length = 1+(q.pushed.length-(q.popped.length+1)) := by omega
      rw [sound.contents,longer,count,window_add,append_assoc,head]
      rfl
  | advancing =>
    exact ⟨a,_,keep _ rfl,enter (.pop .posting),sound.tail,Placed.advance sound.head,free,items,sound.contents⟩
  | posting =>
    change _+_+_+1 = _ at free
    refine ⟨a,_,keep _ rfl,enter .outside,sound.tail,sound.head,?_,items,sound.contents⟩
    change q.pushed.length+(q.semHead+1)+_+0 = q.popped.length+N
    omega

lemma Sound.step (sound : q.Sound N a b) (e : ι × QueueStep T) (alone : q.Alone e) :
    ∃ a' b', (q.step N e).Sound N a' b' := by
  have free := sound.free
  have items := sound.items
  rw [BlockingQueue.step]
  split
  next newItem here asks =>
    split
    · exact ⟨a,b,sound⟩
    next places =>
      obtain rfl := sound.pushing.nobody (alone.1 newItem asks here places)
      change _+_+0+_ = _ at free
      refine ⟨_,b,sound.pushing.enter (by simp) (.push newItem .accessing),sound.popping.keep (by rw [here]; rfl),
        sound.tail,sound.head,?_,items,sound.contents⟩
      change q.pushed.length+(q.semHead-1)+1+_ = q.popped.length+N
      omega
  next here asks =>
    split
    · exact ⟨a,b,sound⟩
    next there =>
      obtain rfl := sound.popping.nobody (alone.2 asks here there)
      change _+_+0+_ = _ at items
      refine ⟨a,_,sound.pushing.keep (by rw [here]; rfl),sound.popping.enter (by simp) (.pop .accessing),
        sound.tail,sound.head,free,?_,sound.contents⟩
      change q.popped.length+(q.semTail-1)+1+_ = q.pushed.length
      omega
  next newItem stage here _ => exact sound.pushNext here
  next stage here _ => exact sound.popNext here
  · exact ⟨a,b,sound⟩

omit [DecidableEq ι] in
lemma Sound.fifo (sound : q.Sound N a b) : q.Fifo N ∧ q.popped <+: q.pushed.map Prod.snd := by
  have free := sound.free
  refine ⟨⟨⟨id,injective_id,fun k inside => ?_,fun _ _ before _ _ => before⟩,by omega⟩,sound.contents ▸ prefix_append _ _⟩
  rw [id,← getElem?_map,sound.contents,getElem?_append_left inside]

/-- If no two calls of one kind overlap, the queue is a bounded FIFO, for any threads and any interleaving. -/
theorem fifo_of_alone (default : T) (steps : List (ι × QueueStep T))
    (alone : Along (step N) Alone (new N default) steps) : (steps.foldl (step N) (new N default)).Fifo N := by
  obtain ⟨a,b,sound⟩ := foldl_invariant (fun q : BlockingQueue ι T => ∃ a b, q.Sound N a b)
    (fun q e alone ⟨a,b,sound⟩ => sound.step e alone) alone ⟨none,none,sound_new default⟩
  exact sound.fifo.1

/-- Two producers take turns, and a consumer that comes in between pops both items. -/
theorem fifo_of_alone_turns : let q := [(0,.push 1),(0,.next),(2,.pop),(0,.next),(0,.next),(1,.push 2),(2,.pop),(1,.next),
    (2,.next),(2,.next),(1,.next),(2,.next),(1,.next),(2,.pop),(2,.next)].foldl (step 2) (new 2 0 : BlockingQueue (Fin 3) Nat)
    q.popped = [1,2] ∧ q.Fifo 2 := by
  refine ⟨by decide,fifo_of_alone 0 _ ?_⟩
  simp [along_cons,Alone,step,pushNext,popNext,goto,new,Fin.forall_fin_succ,update,QueueThread.pushing,QueueThread.popping]

/-- Two producers store at one place before either advances: an item is lost, and the second
popped value was never pushed. -/
theorem overtaken : ¬([(0,.push 1),(1,.push 2),(0,.next),(1,.next),(0,.next),(1,.next),(0,.next),(1,.next),
    (2,.pop),(2,.next),(2,.next),(2,.next),(2,.pop),(2,.next)].foldl (step 2) (new 2 0) :
      BlockingQueue (Fin 3) Nat).Fifo 2 := by
  intro fifo
  obtain ⟨⟨item,_,values,_⟩,_⟩ := fifo
  have stale : ([(0,1),(1,2)] : List (Fin 3 × Nat))[item 1]?.map Prod.snd = some 0 := values 1 (by decide)
  generalize item 1 = k at stale
  rcases k with _ | _ | k <;> simp at stale

omit [DecidableEq ι] in
lemma Inside.nobody_of_idle {part : QueueThread T → Option QueueStage} (inside : q.Inside part a)
    (idle : a.elim 0 (·.2.taken)+a.elim 0 (·.2.owed) = 0) (i : ι) : part (q.threads i) = none := by
  cases found : part (q.threads i) with
  | none => rfl
  | some stage =>
    rw [(inside i stage).mp found] at idle
    cases stage <;> cases idle

omit [DecidableEq ι] in
lemma Sound.alone (sound : q.Sound 1 a b) (e : ι × QueueStep T) : q.Alone e := by
  have free := sound.free
  have items := sound.items
  constructor
  · exact fun _ _ _ places => sound.pushing.nobody_of_idle (by omega)
  · exact fun _ _ there => sound.popping.nobody_of_idle (by omega)

/-- With room for one item, as in `WorkQueueManager`, the semaphores keep the threads apart as well. -/
theorem fifo_one (default : T) (steps : List (ι × QueueStep T)) : let q := steps.foldl (step 1) (new 1 default)
    q.Fifo 1 ∧ q.popped <+: q.pushed.map Prod.snd := by
  obtain ⟨a,b,sound⟩ := foldl_preserved (fun q : BlockingQueue ι T => ∃ a b, q.Sound 1 a b)
    (fun _ e ⟨_,_,sound⟩ => sound.step e (sound.alone e)) ⟨none,none,sound_new default⟩ steps
  exact sound.fifo

end BlockingQueue
end AerialManipulator
