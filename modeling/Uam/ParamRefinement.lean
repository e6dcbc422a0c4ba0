import Uam.ParamStore
import Uam.Library.Runs

/-! What the parameter store is for: a parameter has a value if it was set after its last
reset, and a runtime default if the last one given differs from the static one. Every call does
this to the arrays and bitsets. -/
namespace AerialManipulator
open SortedArray Function Option ParamWbuf
open Binary32 (absSub isNan)
namespace ParamStore

def valueIn (a : List ParamWbuf) (p : Nat) : Option (BitVec 32) := (find ParamWbuf.param p a).map (·.val)

/-- The array is sorted without duplicates; the bits say which parameters have an entry. -/
structure Flagged (flags : Nat → Bool) (a : List ParamWbuf) : Prop where
  sorted : Sorted ParamWbuf.param a
  flag : ∀ p, flags p = (valueIn a p).isSome

variable {flags : Nat → Bool} {a b : List ParamWbuf} {p : Nat}

lemma flagged_nil : Flagged (fun _ => false) [] := ⟨List.Pairwise.nil,fun _ => rfl⟩

section
variable (sorted : Sorted ParamWbuf.param a)
include sorted

lemma valueIn_eq_some : valueIn a p = some w ↔ (⟨w,p⟩ : ParamWbuf) ∈ a := by
  rw [valueIn,map_eq_some_iff]
  constructor
  · rintro ⟨e,found,rfl⟩
    obtain ⟨member,rfl⟩ := (find_eq_some sorted).mp found
    exact member
  · intro member
    exact ⟨_,(find_eq_some sorted).mpr ⟨member,rfl⟩,rfl⟩

lemma utarrayFind_eq_some : utarrayFind p a = some slot ↔ a[slot.1]? = some ⟨slot.2,p⟩ := by
  rw [utarrayFind,bind_eq_some_iff]
  constructor
  · rintro ⟨i,found,read⟩
    obtain ⟨e,here,rfl⟩ := map_eq_some_iff.mp read
    obtain ⟨e',there,same⟩ := (bsearch_iff sorted i).mp found
    rw [here,some_inj] at there
    subst there same
    exact here
  · intro here
    exact ⟨slot.1,(bsearch_iff sorted slot.1).mpr ⟨_,here,rfl⟩,by rw [here]; rfl⟩

lemma utarrayFind_value : (utarrayFind p a).map (·.2) = valueIn a p := by
  apply Option.ext
  intro w
  rw [valueIn_eq_some sorted,List.mem_iff_getElem?,map_eq_some_iff]
  constructor
  · rintro ⟨slot,found,rfl⟩
    exact ⟨slot.1,(utarrayFind_eq_some sorted).mp found⟩
  · rintro ⟨i,here⟩
    exact ⟨(i,w),(utarrayFind_eq_some sorted).mpr here,rfl⟩

end

section
variable (flagged : Flagged flags a)
include flagged

lemma Flagged.slot : (if flags p then utarrayFind p a else none) = utarrayFind p a := by
  split
  · rfl
  next clear =>
    rw [flagged.flag,← utarrayFind_value flagged.sorted] at clear
    rw [Bool.not_eq_true,isSome_map,isSome_eq_false_iff,isNone_iff_eq_none] at clear
    exact clear.symm

lemma Flagged.change (sorted : Sorted param b) (value : Option (BitVec 32))
    (others : ∀ e : ParamWbuf, e.param ≠ p → (e ∈ b ↔ e ∈ a)) (here : ∀ w, ⟨w,p⟩ ∈ b ↔ value = some w) :
    Flagged (update flags p value.isSome) b ∧ valueIn b = update (valueIn a) p value := by
  have values : valueIn b = update (valueIn a) p value := by
    funext q
    apply Option.ext
    intro w
    rw [valueIn_eq_some sorted]
    by_cases same : q = p
    · subst same
      rw [update_self,here]
    · rw [update_of_ne same,valueIn_eq_some flagged.sorted,others _ same]
  refine ⟨⟨sorted,fun q => ?_⟩,values⟩
  rw [values]
  by_cases same : q = p
  · subst same
    rw [update_self,update_self]
  · rw [update_of_ne same,update_of_ne same,flagged.flag]

lemma Flagged.push (new : utarrayFind p a = none) : Flagged (update flags p true) (utarraySort (a ++ [⟨0,p⟩])) ∧
      valueIn (utarraySort (a ++ [⟨0,p⟩])) = update (valueIn a) p (some 0) := by
  have missing : valueIn a p = none := by rw [← utarrayFind_value flagged.sorted,new,map_none]
  have absent : ∀ e ∈ a, e.param ≠ p := (find_eq_none flagged.sorted).mp (map_eq_none_iff.mp missing)
  apply flagged.change (sorted_push flagged.sorted absent) (some 0)
  · intro e other
    refine mem_push.trans (or_iff_left ?_)
    rintro rfl
    exact other rfl
  · intro w
    refine mem_push.trans ((or_iff_right fun old => absent _ old rfl).trans ?_)
    rw [ParamWbuf.mk.injEq,some_inj,eq_comm]
    exact and_iff_left rfl

lemma Flagged.write {slot : Nat × BitVec 32} (found : utarrayFind p a = some slot)
    (w : BitVec 32) : Flagged (update flags p true) (a.set slot.1 ⟨w,p⟩) ∧
      valueIn (a.set slot.1 ⟨w,p⟩) = update (valueIn a) p (some w) := by
  have here := (utarrayFind_eq_some flagged.sorted).mp found
  have sorted : Sorted param (a.set slot.1 ⟨w,p⟩) := sorted_set flagged.sorted here rfl
  apply flagged.change sorted (some w)
  · intro e other
    rw [mem_set flagged.sorted here,and_iff_left other]
    refine or_iff_right ?_
    rintro rfl
    exact other rfl
  · intro w'
    rw [mem_set flagged.sorted here,or_iff_left (fun old => old.2 rfl),ParamWbuf.mk.injEq,some_inj,eq_comm]
    exact and_iff_left rfl

lemma Flagged.erase {slot : Nat × BitVec 32} (found : utarrayFind p a = some slot) :
    Flagged (update flags p false) (a.eraseIdx slot.1) ∧ valueIn (a.eraseIdx slot.1) = update (valueIn a) p none := by
  have here := (utarrayFind_eq_some flagged.sorted).mp found
  apply flagged.change (sorted_erase flagged.sorted slot.1) none
  · intro e other
    rw [mem_erase flagged.sorted here,and_iff_left other]
  · intro w
    rw [mem_erase flagged.sorted here]
    simp

lemma Flagged.clear (missing : utarrayFind p a = none) :
    Flagged (update flags p false) a ∧ valueIn a = update (valueIn a) p none := by
  have nothing : valueIn a p = none := by rw [← utarrayFind_value flagged.sorted,missing,map_none]
  apply flagged.change flagged.sorted none
  · exact fun e _ => Iff.rfl
  · intro w
    rw [← valueIn_eq_some flagged.sorted,nothing]

lemma Flagged.mark {slot : Nat × BitVec 32} (found : utarrayFind p a = some slot) :
    Flagged (update flags p true) a ∧ valueIn a = update (valueIn a) p (some slot.2) := by
  have here : valueIn a p = some slot.2 := by rw [← utarrayFind_value flagged.sorted,found,map_some]
  apply flagged.change flagged.sorted (some slot.2)
  · exact fun e _ => Iff.rfl
  · intro w
    rw [← valueIn_eq_some flagged.sorted,here]

end

def values (s : ParamStore) : List ParamWbuf := s.paramValues.getD []
def customDefaults (s : ParamStore) : List ParamWbuf := s.paramCustomDefaultValues.getD []

structure Consistent (s : ParamStore) : Prop where
  changed : Flagged s.paramsChanged s.values
  customDefault : Flagged s.paramsCustomDefault s.customDefaults

lemma consistent_initial : Consistent initial := ⟨flagged_nil,flagged_nil⟩

section
variable {parameters : List ParamInfo} {s : ParamStore} {info : ParamInfo}

lemma bind_utarrayFind (array : Option (List ParamWbuf)) (p : Nat) :
    array.bind (utarrayFind p) = utarrayFind p (array.getD []) := by
  cases array with
  | none | some a => rfl

lemma Consistent.findChanged (sound : Consistent s) (p : Nat) : s.paramFindChanged p = utarrayFind p s.values := by
  rw [paramFindChanged,bind_utarrayFind]
  exact sound.changed.slot

lemma findCustomDefault_eq (s : ParamStore) (p : Nat) : s.paramFindCustomDefault p = utarrayFind p s.customDefaults :=
  bind_utarrayFind _ p

lemma elim_snd (slot : Option (Nat × BitVec 32)) (w : BitVec 32) : slot.elim w (·.2) = (slot.map (·.2)).getD w := by
  cases slot <;> rfl

lemma Consistent.default_eq (sound : Consistent s) (p : Nat) (w : BitVec 32) :
    (if s.paramsCustomDefault p then (s.paramFindCustomDefault p).elim w (·.2) else w) =
      (valueIn s.customDefaults p).getD w := by
  rw [findCustomDefault_eq,elim_snd,utarrayFind_value sound.customDefault.sorted,sound.customDefault.flag]
  cases valueIn s.customDefaults p <;> rfl

lemma Consistent.getDefault (sound : Consistent s) (p : Nat) : s.paramGetDefaultValueInternal parameters p =
      parameters[p]?.map fun info => (valueIn s.customDefaults p).getD info.val := by
  simp only [paramGetDefaultValueInternal,sound.default_eq]

lemma Consistent.get (sound : Consistent s) (p : Nat) : s.paramGet parameters p = parameters[p]?.map fun info =>
      (valueIn s.values p).getD ((valueIn s.customDefaults p).getD info.val) := by
  rw [paramGet]
  cases known : parameters[p]? with
  | none => rfl
  | some info =>
    rw [bind_some,map_some]
    split
    next clear =>
      simp only [Bool.and_eq_true,Bool.not_eq_true',sound.changed.flag,sound.customDefault.flag,
        isSome_eq_false_iff,isNone_iff_eq_none] at clear
      rw [clear.1,clear.2]
      rfl
    · rw [paramGetValuePtr,known,map_some,sound.findChanged,elim_snd,
        utarrayFind_value sound.changed.sorted,sound.default_eq]

lemma values_createValues (s : ParamStore) : s.createValues.values = s.values ∧
    s.createValues.paramValues = some s.values ∧ s.createValues.customDefaults = s.customDefaults := by
  rw [createValues]
  cases array : s.paramValues with
  | none => simp [values,customDefaults,array]
  | some a => simp [values,array]

lemma Consistent.createValues (sound : Consistent s) : Consistent s.createValues := by
  rw [ParamStore.createValues]
  cases array : s.paramValues with
  | none => exact ⟨flagged_nil,sound.customDefault⟩
  | some a => exact sound

section
variable (s)

@[simp] lemma values_paramAutosave : s.paramAutosave.values = s.values := by
  rw [paramAutosave]
  split <;> rfl

@[simp] lemma customDefaults_paramAutosave : s.paramAutosave.customDefaults = s.customDefaults := by
  rw [paramAutosave]
  split <;> rfl

@[simp] lemma consistent_paramAutosave : Consistent s.paramAutosave ↔ Consistent s := by
  rw [paramAutosave]
  split
  · rfl
  · exact ⟨fun c => ⟨c.1,c.2⟩,fun c => ⟨c.1,c.2⟩⟩

@[simp] lemma consistent_paramNotifyChanges : Consistent s.paramNotifyChanges ↔ Consistent s :=
  ⟨fun c => ⟨c.1,c.2⟩,fun c => ⟨c.1,c.2⟩⟩

end

def settled (info : ParamInfo) (stored : Option (BitVec 32)) (val : BitVec 32) : BitVec 32 :=
  if info.type.differs (stored.getD 0) val then val else stored.getD 0

structure Becomes (s : ParamStore) (value default : Nat → Option (BitVec 32)) : Prop where
  consistent : Consistent s
  value : valueIn s.values = value
  default : valueIn s.customDefaults = default

lemma Consistent.becomes (sound : Consistent s) : Becomes s (valueIn s.values) (valueIn s.customDefaults) :=
  ⟨sound,rfl,rfl⟩

lemma Consistent.addChanged (sound : Consistent s) (array : s.paramValues = some s.values)
    (new : utarrayFind p s.values = none) :
    (s.addChanged p).paramValues = some (s.addChanged p).values ∧
      Becomes (s.addChanged p) (update (valueIn s.values) p (some 0)) (valueIn s.customDefaults) := by
  obtain ⟨flagged,pushed⟩ := sound.changed.push new
  have after : (s.addChanged p).paramValues = some (utarraySort (s.values ++ [⟨0,p⟩])) := by
    rw [ParamStore.addChanged,array,map_some]
  have same : (s.addChanged p).values = utarraySort (s.values ++ [⟨0,p⟩]) := by rw [values,after,getD_some]
  rw [same]
  exact ⟨after,⟨by rw [same]; exact flagged,sound.customDefault⟩,by rw [same]; exact pushed,rfl⟩

lemma Consistent.updateChanged (sound : Consistent s) (array : s.paramValues = some s.values)
    {slot : Nat × BitVec 32} (found : utarrayFind p s.values = some slot) (info : ParamInfo) (val : BitVec 32)
    (markSaved : Bool) : Becomes (s.updateChanged info p slot val markSaved)
      (update (valueIn s.values) p (some (if info.type.differs slot.2 val then val else slot.2)))
      (valueIn s.customDefaults) := by
  rw [ParamStore.updateChanged]
  by_cases differs : info.type.differs slot.2 val = true
  · obtain ⟨flagged,written⟩ := sound.changed.write found val
    simp only [differs,if_true,array,map_some]
    exact ⟨⟨flagged,sound.customDefault⟩,written,rfl⟩
  · obtain ⟨flagged,kept⟩ := sound.changed.mark found
    simp only [differs,if_false,Bool.false_eq_true]
    exact ⟨⟨flagged,sound.customDefault⟩,kept,rfl⟩

lemma Becomes.autosaved {value default : Nat → Option (BitVec 32)} (becomes : Becomes s value default)
    (wanted : Bool) : Becomes (if wanted then s.paramAutosave else s) value default := by
  split
  · exact ⟨(consistent_paramAutosave s).mpr becomes.consistent,by rw [values_paramAutosave,becomes.value],
      by rw [customDefaults_paramAutosave,becomes.default]⟩
  · exact becomes

lemma Becomes.notified {value default : Nat → Option (BitVec 32)} (becomes : Becomes s value default)
    (wanted : Bool) : Becomes (if wanted then s.paramNotifyChanges else s) value default := by
  split
  · exact ⟨(consistent_paramNotifyChanges s).mpr becomes.consistent,becomes.value,becomes.default⟩
  · exact becomes

lemma Consistent.slot (sound : Consistent s) (array : s.paramValues = some s.values) (p : Nat) :
    let found := if (s.paramFindChanged p).isNone then s.addChanged p else s
    found.paramValues = some found.values ∧ ∃ slot, found.paramFindChanged p = some slot ∧
      slot.2 = (valueIn s.values p).getD 0 ∧
      Becomes found (update (valueIn s.values) p (some slot.2)) (valueIn s.customDefaults) := by
  rw [sound.findChanged]
  cases found : utarrayFind p s.values with
  | none =>
    obtain ⟨after,becomes⟩ := sound.addChanged array found
    have here : (utarrayFind p (s.addChanged p).values).map (·.2) = some 0 := by
      rw [utarrayFind_value becomes.consistent.changed.sorted,becomes.value,update_self]
    obtain ⟨slot,there,zero⟩ := map_eq_some_iff.mp here
    have missing : valueIn s.values p = none := by rw [← utarrayFind_value sound.changed.sorted,found,map_none]
    refine ⟨after,slot,(becomes.consistent.findChanged p).trans there,by rw [zero,missing]; rfl,?_⟩
    rw [zero]
    exact becomes
  | some slot =>
    have here : valueIn s.values p = some slot.2 := by rw [← utarrayFind_value sound.changed.sorted,found,map_some]
    refine ⟨array,slot,(sound.findChanged p).trans found,by rw [here]; rfl,sound,?_,rfl⟩
    rw [← here,update_eq_self]
    rfl

lemma Consistent.set (sound : Consistent s) (known : parameters[p]? = some info) (val : BitVec 32)
    (markSaved notifyChanges : Bool) :
    (s.paramSetInternal parameters p (some val) markSaved notifyChanges).1 = px4Ok ∧
      Becomes (s.paramSetInternal parameters p (some val) markSaved notifyChanges).2
        (update (valueIn s.values) p (some (settled info (valueIn s.values p) val)))
        (valueIn s.customDefaults) := by
  obtain ⟨created,array,defaults⟩ := values_createValues s
  obtain ⟨array,slot,found,stored,becomes⟩ := sound.createValues.slot (created ▸ array) p
  have updated := becomes.consistent.updateChanged array ((becomes.consistent.findChanged p).symm.trans found)
    info val markSaved
  rw [becomes.value,update_idem,stored,created,becomes.default,defaults] at updated
  simp only [paramSetInternal,known,elim_some,found]
  exact ⟨trivial,(updated.autosaved _).notified _⟩

lemma createCustomDefaults_eq (s : ParamStore) : s.createCustomDefaults.customDefaults = s.customDefaults ∧
    s.createCustomDefaults.paramCustomDefaultValues = some s.customDefaults ∧
    s.createCustomDefaults.values = s.values := by
  rw [createCustomDefaults]
  cases array : s.paramCustomDefaultValues with
  | none => simp [values,customDefaults,array]
  | some a => simp [customDefaults,array]

section
variable (sound : Consistent s)
include sound

lemma Consistent.createCustomDefaults : Consistent s.createCustomDefaults := by
  rw [ParamStore.createCustomDefaults]
  cases array : s.paramCustomDefaultValues with
  | none => exact ⟨sound.changed,flagged_nil⟩
  | some a => exact sound

lemma Consistent.eraseCustomDefault
    (array : s.paramCustomDefaultValues = some s.customDefaults) (p : Nat) : Becomes (s.eraseCustomDefault p)
      (valueIn s.values) (update (valueIn s.customDefaults) p none) := by
  rw [ParamStore.eraseCustomDefault,findCustomDefault_eq]
  cases found : utarrayFind p s.customDefaults with
  | none =>
    obtain ⟨flagged,kept⟩ := sound.customDefault.clear found
    exact ⟨⟨sound.changed,flagged⟩,rfl,kept⟩
  | some slot =>
    obtain ⟨flagged,erased⟩ := sound.customDefault.erase found
    simp only [elim_some,array,map_some]
    exact ⟨⟨sound.changed,flagged⟩,rfl,erased⟩

lemma Consistent.updateCustomDefault
    (array : s.paramCustomDefaultValues = some s.customDefaults) (p : Nat) (val : BitVec 32) :
    let found := if (s.paramFindCustomDefault p).isNone then s.addCustomDefault p else s
    ∃ slot, found.paramFindCustomDefault p = some slot ∧
      Becomes (found.updateCustomDefault p slot val) (valueIn s.values)
        (update (valueIn s.customDefaults) p (some val)) := by
  rw [findCustomDefault_eq]
  cases missing : utarrayFind p s.customDefaults with
  | none =>
    obtain ⟨flagged,pushed⟩ := sound.customDefault.push missing
    have here : (utarrayFind p (utarraySort (s.customDefaults ++ [⟨0,p⟩]))).map (·.2) = some 0 := by
      rw [utarrayFind_value flagged.sorted,pushed,update_self]
    obtain ⟨slot,there,zero⟩ := map_eq_some_iff.mp here
    obtain ⟨flagged,written⟩ := flagged.write there val
    rw [update_idem] at flagged
    rw [pushed,update_idem] at written
    refine ⟨slot,?_,?_⟩
    · simpa [paramFindCustomDefault,addCustomDefault,array] using there
    · simp only [isNone_none,if_true,addCustomDefault,ParamStore.updateCustomDefault,array,map_some]
      exact ⟨⟨sound.changed,flagged⟩,rfl,written⟩
  | some slot =>
    obtain ⟨flagged,written⟩ := sound.customDefault.write missing val
    refine ⟨slot,(findCustomDefault_eq s p).trans missing,?_⟩
    simp only [isNone_some,if_false,ParamStore.updateCustomDefault,array,map_some,Bool.false_eq_true]
    exact ⟨⟨sound.changed,flagged⟩,rfl,written⟩

lemma Consistent.setDefault (known : parameters[p]? = some info) (val : BitVec 32) :
    (s.paramSetDefaultValue parameters p (some val)).1 = px4Ok ∧
      Becomes (s.paramSetDefaultValue parameters p (some val)).2 (valueIn s.values)
        (update (valueIn s.customDefaults) p (if info.type.agrees info.val val then none else some val)) := by
  obtain ⟨created,array,others⟩ := createCustomDefaults_eq s
  have array := created ▸ array
  have erased := sound.createCustomDefaults.eraseCustomDefault array p
  obtain ⟨slot,found,updated⟩ := sound.createCustomDefaults.updateCustomDefault array p val
  rw [created,others] at erased updated
  simp only [paramSetDefaultValue,known,elim_some,found]
  by_cases default : info.type.agrees info.val val = true
  · simp only [default,if_true]
    exact ⟨trivial,erased.notified _⟩
  · simp only [default,if_false,Bool.false_eq_true]
    exact ⟨trivial,updated.notified _⟩

lemma Consistent.reset (known : parameters[p]? = some info) (notify : Bool) :
    Becomes (s.paramResetInternal parameters p notify).2 (update (valueIn s.values) p none)
      (valueIn s.customDefaults) := by
  have inRange : p < parameters.length := (List.getElem?_eq_some_iff.mp known).1
  rw [paramResetInternal]
  simp only [if_pos inRange,sound.findChanged]
  have erased : Becomes
      {s with
        paramValues := (utarrayFind p s.values).elim s.paramValues fun slot => s.paramValues.map (·.eraseIdx slot.1)
        paramsChanged := update s.paramsChanged p false
        paramsUnsaved := update s.paramsUnsaved p true}
      (update (valueIn s.values) p none) (valueIn s.customDefaults) := by
    cases found : utarrayFind p s.values with
    | none =>
      obtain ⟨flagged,kept⟩ := sound.changed.clear found
      exact ⟨⟨flagged,sound.customDefault⟩,kept,rfl⟩
    | some slot =>
      obtain ⟨flagged,erased⟩ := sound.changed.erase found
      have array : (s.paramValues.map (·.eraseIdx slot.1)).getD [] = s.values.eraseIdx slot.1 := by
        rw [values]
        cases s.paramValues <;> rfl
      refine ⟨⟨?_,sound.customDefault⟩,?_,rfl⟩
      · exact (show Flagged _ ((s.paramValues.map (·.eraseIdx slot.1)).getD []) from array.symm ▸ flagged)
      · exact (congrArg valueIn array).trans erased
  exact (erased.autosaved true).notified _

lemma Consistent.resetAll (autoSave : Bool) :
    Becomes (s.paramResetAllInternal autoSave) (fun _ => none) (valueIn s.customDefaults) := by
  have flags : (if s.paramValues.isSome then fun _ => false else s.paramsChanged) = fun _ => false := by
    cases array : s.paramValues with
    | none =>
      funext p
      have nothing : s.values = [] := by rw [values,array,getD_none]
      rw [isSome_none,if_neg Bool.false_ne_true,sound.changed.flag,nothing]
      rfl
    | some a => rfl
  have freed : Becomes
      {s with
        paramsChanged := if s.paramValues.isSome then fun _ => false else s.paramsChanged
        paramValues := none} (fun _ => none) (valueIn s.customDefaults) := by
    rw [flags]
    exact ⟨⟨flagged_nil,sound.customDefault⟩,rfl,rfl⟩
  exact (freed.autosaved autoSave).notified true

end
end
end ParamStore

inductive ParamCall where
  | set (param : Nat) (val : Option (BitVec 32))
  | setNoNotification (param : Nat) (val : Option (BitVec 32))
  | setDefaultValue (param : Nat) (val : Option (BitVec 32))
  | reset (param : Nat)
  | resetAll

/-- The last value set after the last reset, and the runtime default in force. -/
structure Settings where
  value : Nat → Option (BitVec 32)
  runtimeDefault : Nat → Option (BitVec 32)

namespace ParamCall
variable (parameters : List ParamInfo)

def param : ParamCall → Option Nat
  | set p _ => some p
  | setNoNotification p _ => some p
  | setDefaultValue p _ => some p
  | reset p => some p
  | resetAll => none

def val : ParamCall → Option (BitVec 32)
  | set _ w => w
  | setNoNotification _ w => w
  | setDefaultValue _ w => w
  | reset _ => none
  | resetAll => none

def Finite (call : ParamCall) : Prop :=
  ∀ p info w, call.param = some p → parameters[p]? = some info → call.val = some w → info.type = .float →
    Binary32.isFinite w = true

end ParamCall

/-- The words are the same, or floats within `FLT_EPSILON`. -/
def ParamType.Within (type : ParamType) (a b : BitVec 32) : Prop := a = b ∨ type.agrees a b = true

def Settings.step (parameters : List ParamInfo) (settings : Settings) : ParamCall → Settings
  | .set p val => {settings with value := val.elim settings.value fun w => Function.update settings.value p (some w)}
  | .setNoNotification p val =>
    {settings with value := val.elim settings.value fun w => Function.update settings.value p (some w)}
  | .setDefaultValue p val =>
    { settings with runtimeDefault :=
      parameters[p]?.elim settings.runtimeDefault fun info => val.elim settings.runtimeDefault fun w =>
        Function.update settings.runtimeDefault p (if info.type.agrees info.val w then none else some w) }
  | .reset p => {settings with value := Function.update settings.value p none}
  | .resetAll => {settings with value := fun _ => none}

def Settings.empty : Settings := ⟨fun _ => none,fun _ => none⟩

namespace ParamStore
variable {parameters : List ParamInfo} {s : ParamStore} {info : ParamInfo} {p : Nat}

def step (parameters : List ParamInfo) (s : ParamStore) : ParamCall → ParamStore
  | .set p val => (s.paramSet parameters p val).2
  | .setNoNotification p val => (s.paramSetNoNotification parameters p val).2
  | .setDefaultValue p val => (s.paramSetDefaultValue parameters p val).2
  | .reset p => (s.paramReset parameters p).2
  | .resetAll => s.paramResetAll

def valueAfter (parameters : List ParamInfo) (value : Nat → Option (BitVec 32)) : ParamCall → Nat → Option (BitVec 32)
  | .set p val => parameters[p]?.elim value fun info => val.elim value fun w =>
    Function.update value p (some (settled info (value p) w))
  | .setNoNotification p val => parameters[p]?.elim value fun info => val.elim value fun w =>
    Function.update value p (some (settled info (value p) w))
  | .setDefaultValue _ _ => value
  | .reset p => parameters[p]?.elim value fun _ => Function.update value p none
  | .resetAll => fun _ => none

def defaultAfter (parameters : List ParamInfo) (default : Nat → Option (BitVec 32)) (call : ParamCall) :
    Nat → Option (BitVec 32) := ((⟨default,default⟩ : Settings).step parameters call).runtimeDefault

lemma Consistent.setWord (sound : Consistent s) (p : Nat) (val : Option (BitVec 32)) (notify : Bool) :
    Becomes (s.paramSetInternal parameters p val false notify).2
      (parameters[p]?.elim (valueIn s.values) fun info => val.elim (valueIn s.values) fun w =>
        update (valueIn s.values) p (some (settled info (valueIn s.values p) w)))
      (valueIn s.customDefaults) := by
  cases known : parameters[p]? with
  | none =>
    simp only [paramSetInternal,known]
    exact sound.becomes
  | some info =>
    cases val with
    | none =>
      simp only [paramSetInternal,known]
      exact sound.becomes
    | some w => exact (sound.set known w false notify).2

lemma Consistent.step (params : List ParamInfo) (sound : Consistent s) (call : ParamCall) :
    Becomes (s.step params call) (valueAfter params (valueIn s.values) call)
      (defaultAfter params (valueIn s.customDefaults) call) := by
  cases call with
  | set p val => exact sound.setWord p val true
  | setNoNotification p val => exact sound.setWord p val false
  | setDefaultValue p val =>
    simp only [ParamStore.step,valueAfter,defaultAfter,Settings.step]
    cases known : params[p]? with
    | none =>
      simp only [paramSetDefaultValue,known]
      exact sound.becomes
    | some info =>
      cases val with
      | none =>
        simp only [paramSetDefaultValue,known]
        exact sound.becomes
      | some w => exact (sound.setDefault known w).2
  | reset p =>
    simp only [ParamStore.step,valueAfter,defaultAfter,Settings.step]
    cases known : params[p]? with
    | none =>
      have outside : ¬p < params.length := by
        rw [List.getElem?_eq_none_iff] at known
        omega
      simp only [paramReset,paramResetInternal,if_neg outside]
      exact sound.becomes.autosaved true
    | some info => exact sound.reset known true
  | resetAll => exact sound.resetAll true

def Numbers (parameters : List ParamInfo) (s : ParamStore) : Prop :=
  ∀ p info w, parameters[p]? = some info → info.type = .float → valueIn s.values p = some w → Binary32.isNan w = false

lemma stored_number (numbers : Numbers parameters s) (known : parameters[p]? = some info)
    (float : info.type = .float) : isNan ((valueIn s.values p).getD 0) = false := by
  cases stored : valueIn s.values p with
  | none => decide
  | some w => exact numbers p info w known float stored

lemma settled_number (float : info.type = .float) (number : isNan (stored.getD 0) = false) (val : BitVec 32) :
    isNan (settled info stored val) = false := by
  rw [settled]
  split
  next differs =>
    rw [Bool.eq_false_iff]
    intro nan
    simp [float,ParamType.differs,absSub,nan,Binary32.Magnitude.exceeds] at differs
  · exact number

lemma settled_within {stored : Option (BitVec 32)} {val : BitVec 32}
    (number : info.type = .float → absSub (stored.getD 0) val ≠ .nan) :
    info.type.Within (settled info stored val) val := by
  rw [settled]
  split
  · exact .inl rfl
  next same =>
    rw [Bool.not_eq_true] at same
    cases type : info.type with
    | int32 =>
      rw [type] at same
      exact .inl (by simpa [ParamType.differs] using same)
    | float =>
      rw [type] at same
      exact .inr ((Binary32.Magnitude.atMost_or_exceeds (number type) _).mp same)

lemma value_step (known : parameters[p]? = some info) (value : Nat → Option (BitVec 32)) (settings : Settings)
    (call : ParamCall) :
    valueAfter parameters value call p = value p ∧ (settings.step parameters call).value p = settings.value p ∨
    valueAfter parameters value call p = none ∧ (settings.step parameters call).value p = none ∨
    ∃ w, call.param = some p ∧ call.val = some w ∧
      valueAfter parameters value call p = some (settled info (value p) w) ∧
      (settings.step parameters call).value p = some w := by
  have setting (q : Nat) (val : Option (BitVec 32)) :
      let after := parameters[q]?.elim value fun info => val.elim value fun w =>
        update value q (some (settled info (value q) w))
      let view := val.elim settings.value fun w => update settings.value q (some w)
      after p = value p ∧ view p = settings.value p ∨ after p = none ∧ view p = none ∨
      ∃ w, some q = some p ∧ val = some w ∧ after p = some (settled info (value p) w) ∧ view p = some w := by
    cases val with
    | none =>
      refine .inl ⟨?_,rfl⟩
      cases parameters[q]? <;> rfl
    | some w =>
      by_cases same : q = p
      · subst same
        refine .inr (.inr ⟨w,rfl,rfl,?_,update_self ..⟩)
        rw [known]
        exact update_self ..
      · refine .inl ⟨?_,update_of_ne (Ne.symm same) ..⟩
        cases parameters[q]? with
        | none => rfl
        | some other => exact update_of_ne (Ne.symm same) ..
  cases call with
  | set q val | setNoNotification q val => exact setting q val
  | setDefaultValue q val => exact .inl ⟨rfl,rfl⟩
  | reset q =>
    by_cases same : q = p
    · subst same
      refine .inr (.inl ⟨?_,update_self ..⟩)
      rw [valueAfter,known]
      exact update_self ..
    · refine .inl ⟨?_,update_of_ne (Ne.symm same) ..⟩
      rw [valueAfter]
      cases parameters[q]? with
      | none => rfl
      | some other => exact update_of_ne (Ne.symm same) ..
  | resetAll => exact .inr (.inl ⟨rfl,rfl⟩)

structure Represents (parameters : List ParamInfo) (s : ParamStore) (settings : Settings) : Prop where
  consistent : Consistent s
  numbers : Numbers parameters s
  value : ∀ p info, parameters[p]? = some info → Option.Rel info.type.Within (valueIn s.values p) (settings.value p)
  default : valueIn s.customDefaults = settings.runtimeDefault

lemma represents_initial : Represents parameters initial .empty := by
  refine ⟨consistent_initial,?_,fun _ _ _ => .none,rfl⟩
  intro p info w _ _ stored
  cases stored

lemma Numbers.step (sound : Consistent s) (numbers : Numbers parameters s) (call : ParamCall) :
    Numbers parameters (s.step parameters call) := by
  intro p info w known float stored
  rw [(sound.step parameters call).value] at stored
  rcases value_step known (valueIn s.values) .empty call with ⟨kept,_⟩ | ⟨gone,_⟩ | ⟨val,_,_,set,_⟩
  · exact numbers p info w known float (kept.symm.trans stored)
  · rw [gone] at stored
    cases stored
  · rw [set,some_inj] at stored
    exact stored ▸ settled_number float (stored_number numbers known float) val

lemma Represents.step (represents : Represents parameters s settings) (finite : call.Finite parameters) :
    Represents parameters (s.step parameters call) (settings.step parameters call) := by
  obtain ⟨sound,value,default⟩ := represents.consistent.step parameters call
  refine ⟨sound,represents.numbers.step represents.consistent call,?_,?_⟩
  · intro p info known
    rw [value]
    rcases value_step known (valueIn s.values) settings call with ⟨kept,kept'⟩ | ⟨gone,gone'⟩ | ⟨w,here,val,set,set'⟩
    · rw [kept,kept']
      exact represents.value p info known
    · rw [gone,gone']
      exact .none
    · rw [set,set']
      exact .some (settled_within fun float => Binary32.absSub_ne_nan (stored_number represents.numbers known float)
        (finite p info w here known val float))
  · rw [default,defaultAfter,represents.default]
    cases call <;> rfl

lemma Represents.get (represents : Represents parameters s settings)
    (known : parameters[p]? = some info) : ∃ w, s.paramGet parameters p = some w ∧
      info.type.Within w ((settings.value p).getD ((settings.runtimeDefault p).getD info.val)) := by
  rw [represents.consistent.get,known,represents.default,map_some]
  refine ⟨_,rfl,?_⟩
  have related := represents.value p info known
  revert related
  generalize valueIn s.values p = stored
  generalize settings.value p = last
  rintro (near | _)
  · exact near
  · exact .inl rfl

lemma Flagged.one_entry (flagged : Flagged flags a) (p : Nat) : flags p ↔ (a.map param).count p = 1 := by
  have distinct : (a.map param).Nodup := (List.pairwise_map.mpr flagged.sorted).imp fun less => Nat.ne_of_lt less
  rw [flagged.flag,isSome_iff_exists]
  constructor
  · rintro ⟨w,found⟩
    exact List.count_eq_one_of_mem distinct (List.mem_map_of_mem ((valueIn_eq_some flagged.sorted).mp found))
  · intro one
    have member : p ∈ a.map param := List.count_pos_iff.mp (by omega)
    obtain ⟨e,inside,rfl⟩ := List.mem_map.mp member
    exact ⟨e.val,(valueIn_eq_some flagged.sorted).mpr inside⟩

lemma update_elim_ne {β γ : Type*} (other : q ≠ p) (known : Option γ) (word : Option β)
    (values : Nat → Option (BitVec 32)) (new : γ → β → Option (BitVec 32)) :
    (known.elim values fun info => word.elim values fun w => update values q (new info w)) p = values p := by
  cases known with
  | none => rfl
  | some info =>
    cases word with
    | none => rfl
    | some w => exact update_of_ne other.symm ..

lemma Consistent.get_other (sound : Consistent s) (target : call.param = some q)
    (other : q ≠ p) : (s.step parameters call).paramGet parameters p = s.paramGet parameters p := by
  obtain ⟨consistent',value,default⟩ := sound.step parameters call
  have kept : valueAfter parameters (valueIn s.values) call p = valueIn s.values p ∧
      defaultAfter parameters (valueIn s.customDefaults) call p = valueIn s.customDefaults p := by
    cases call with
    | set p' val | setNoNotification p' val => cases target; exact ⟨update_elim_ne other ..,rfl⟩
    | setDefaultValue p' val => cases target; exact ⟨rfl,update_elim_ne other ..⟩
    | reset p' =>
        cases target; exact ⟨update_elim_ne other parameters[q]? (some ()) (valueIn s.values) (fun _ _ => none),rfl⟩
    | resetAll => cases target
  rw [consistent'.get,sound.get,value,default,kept.1,kept.2]

/-- Every history of calls: what is read, how arrays and bitsets agree, and that calls concern one parameter only. -/
theorem refines_settings (parameters : List ParamInfo) (calls : List ParamCall)
    (finite : ∀ call ∈ calls, call.Finite parameters) :
    let s := calls.foldl (step parameters) initial
    let settings := calls.foldl (Settings.step parameters) .empty
    (∀ p info, parameters[p]? = some info → ∃ w, s.paramGet parameters p = some w ∧
      info.type.Within w ((settings.value p).getD ((settings.runtimeDefault p).getD info.val))) ∧
    ((s.paramValues.getD []).Pairwise (fun a b => a.param < b.param) ∧
      ∀ p, s.paramsChanged p = true ↔ ((s.paramValues.getD []).map ParamWbuf.param).count p = 1) ∧
    ((s.paramCustomDefaultValues.getD []).Pairwise (fun a b => a.param < b.param) ∧
      ∀ p, s.paramsCustomDefault p = true ↔ ((s.paramCustomDefaultValues.getD []).map ParamWbuf.param).count p = 1) ∧
    ∀ call q p, call.param = some q → q ≠ p →
      (s.step parameters call).paramGet parameters p = s.paramGet parameters p := by
  have represents : Represents parameters (calls.foldl (step parameters) initial)
      (calls.foldl (Settings.step parameters) .empty) := by
    induction calls using List.reverseRecOn with
    | nil => exact represents_initial
    | append_singleton before call ih =>
      rw [List.foldl_append,List.foldl_append]
      exact (ih fun call member => finite call (by simp [member])).step (finite call (by simp))
  refine ⟨fun p info known => represents.get known,?_,?_,?_⟩
  · exact ⟨represents.consistent.changed.sorted,represents.consistent.changed.one_entry⟩
  · exact ⟨represents.consistent.customDefault.sorted,represents.consistent.customDefault.one_entry⟩
  · intro call q p target other
    exact represents.consistent.get_other target other

theorem refines_set_two : let parameters : List ParamInfo := [⟨⟨[65],by decide⟩,.float,0x3f800000⟩]
    let calls : List ParamCall := [.setDefaultValue 0 (some 0x40400000),.set 0 (some 0x40000000)]
    ∃ w, (calls.foldl (step parameters) initial).paramGet parameters 0 = some w ∧
      ParamType.float.Within w 0x40000000 := by
  refine (refines_settings [⟨⟨[65],by decide⟩,.float,0x3f800000⟩] _ ?_).1 0 _ rfl
  intro call member p info w _ _ val _
  simp only [List.mem_cons,List.not_mem_nil,or_false] at member
  rcases member with rfl | rfl <;> cases val <;> decide

end ParamStore
end AerialManipulator
