import Uam.FeasibilityTakeoff

/-! The landing of a mission with a land start. Its index is compared with that of the
approach, and both start at zero. -/
namespace AerialManipulator
open Numeric
open List (any_cons any_eq_true map_cons)

namespace MissionFeasibilityChecker
variable {R : Type}

def isLandStart (item : Item R) : Bool := item.navCmd = MavCmd.doLandStart.number

def isReturn (item : Item R) : Bool := item.navCmd = MavCmd.navReturnToLaunch.number

def isLand (item : Item R) : Bool := item.navCmd = MavCmd.navLand.number

def isLanding (item : Item R) : Bool := item.navCmd = MavCmd.navLand.number || item.navCmd = MavCmd.navVtolLand.number

def LandingComplete (landing : Item R → Bool) (items : List (Item R)) : Prop :=
  ∃ before start after, items = before ++ start :: after ∧ isLandStart start = true ∧
    (∀ item ∈ before ++ after, isLandStart item = false) ∧ (∃ item ∈ after, landing item = true) ∧
    ∀ item ∈ after, isReturn item = false

structure LandingStep (landing : Item R → Bool) (i : Nat) (flags : LandingFlags) (item : Item R)
    (flags' : LandingFlags) : Prop where
  single : isLandStart item = true → flags.landStartFound = false
  found : flags'.landStartFound = (flags.landStartFound || isLandStart item)
  start : flags'.doLandStartIndex = if isLandStart item then i else flags.doLandStartIndex
  approach : landing item = true → 0 < i ∧ flags'.landingApproachIndex = i-1
  kept : landing item = false → flags'.landingApproachIndex = flags.landingApproachIndex ∧
    flags'.landingValid = flags.landingValid
  stays : isReturn item = true → flags.landStartFound = true → i ≤ flags.doLandStartIndex

lemma bind_ok {α β : Type} {x : Feasibility R α} {f : α → Feasibility R β} {b : β} (ok : (x >>= f) = .ok b) :
    ∃ a, x = .ok a ∧ f a = .ok b := by
  cases x with
  | error => cases ok
  | ok a => exact ⟨a,rfl,ok⟩

variable {item : Item R}

lemma landStart_ok (ok : landStart i flags item = .ok flags') :
    (isLandStart item → flags.landStartFound = false) ∧ flags' = {flags with
        landStartFound := flags.landStartFound || isLandStart item
        doLandStartIndex := if isLandStart item then i else flags.doLandStartIndex} := by
  rw [landStart] at ok
  cases start : isLandStart item with
  | true =>
    rw [if_pos (of_decide_eq_true start)] at ok
    split at ok
    · cases ok
    · cases ok
      simp_all
  | false =>
    rw [if_neg (of_decide_eq_false start)] at ok
    cases ok
    simp

lemma landingReturn_ok (ok : landingReturn i flags item = .ok flags') :
    flags' = flags ∧ (isReturn item → flags.landStartFound → i ≤ flags.doLandStartIndex) := by
  rw [landingReturn] at ok
  split at ok
  · cases ok
  next stays =>
    cases ok
    refine ⟨rfl,fun returns found => ?_⟩
    rw [isReturn] at returns
    simpa [returns,found] using stays

lemma isReturn_of_isLandStart (start : isLandStart item) : isReturn item = false := by
  have number : item.navCmd = MavCmd.doLandStart.number := of_decide_eq_true start
  rw [isReturn,number]
  decide

lemma isReturn_of_isLanding (lands : isLanding item) : isReturn item = false := by
  rw [Bool.eq_false_iff]
  intro returns
  have number := of_decide_eq_true returns
  rw [isLanding,number] at lands
  exact absurd lands (by decide)

lemma isLanding_of_isLand (land : isLand item) : isLanding item := by
  rw [isLanding,Bool.or_eq_true]
  exact .inl land

section
variable {i : Nat} {flags flags' started : LandingFlags} {item : Item R} {landing : Item R → Bool}

lemma LandingStep.of_landing (start : landStart i flags item = .ok started) (lands : landing item)
    (stays : isReturn item = false) (later : 0 < i) (valid : Bool)
    (ok : flags' = {started with landingValid := valid, landingApproachIndex := i-1}) :
    LandingStep landing i flags item flags' := by
  obtain ⟨single,rfl⟩ := landStart_ok start
  subst ok
  refine ⟨single,rfl,rfl,fun _ => ⟨later,rfl⟩,fun other => ?_,fun returns => ?_⟩
  · exact nomatch lands.symm.trans other
  · exact nomatch returns.symm.trans stays

lemma LandingStep.of_other (start : landStart i flags item = .ok started) (other : landing item = false)
    (ok : landingReturn i started item = .ok flags') : LandingStep landing i flags item flags' := by
  obtain ⟨rfl,stays⟩ := landingReturn_ok ok
  obtain ⟨single,rfl⟩ := landStart_ok start
  refine ⟨single,rfl,rfl,fun lands => ?_,fun _ => ⟨rfl,rfl⟩,fun returns found => ?_⟩
  · exact nomatch lands.symm.trans other
  have late := stays returns (by rw [found]; rfl)
  have other : isLandStart item = false := by
    rw [Bool.eq_false_iff]
    intro start
    exact nomatch returns.symm.trans (isReturn_of_isLandStart start)
  simpa [other] using late

lemma vtolLandingPass_ok {mission : MissionReads R} (ok : vtolLandingPass mission i flags item = .ok flags') :
    LandingStep isLanding i flags item flags' := by
  rw [vtolLandingPass] at ok
  obtain ⟨started,start,rest⟩ := bind_ok ok
  split at rest
  next lands =>
    have stays : isReturn item = false := isReturn_of_isLanding lands
    split at rest
    next later =>
      cases read : mission[i-1]?.join with
      | none =>
        rw [read] at rest
        cases rest
      | some previous =>
        rw [read,Option.elim_some] at rest
        exact .of_landing start lands stays later started.landingValid (Except.ok.inj rest).symm
    · cases rest
  next other => exact .of_other start (Bool.eq_false_iff.mpr other) rest

lemma fixedWingLandingPass_ok [Field R] [LinearOrder R] {status : LandingStatus R} {mission : MissionReads R}
    (ok : fixedWingLandingPass status mission i flags item = .ok flags') : LandingStep isLand i flags item flags' := by
  rw [fixedWingLandingPass] at ok
  obtain ⟨started,start,rest⟩ := bind_ok ok
  split at rest
  next land =>
    have lands : isLand item := decide_eq_true land
    have stays : isReturn item = false := isReturn_of_isLanding (isLanding_of_isLand lands)
    split at rest
    next later =>
      cases read : mission[i-1]?.join with
      | none =>
        rw [read] at rest
        cases rest
      | some previous =>
        rw [read,Option.elim_some] at rest
        obtain ⟨_,_,done⟩ := bind_ok rest
        exact .of_landing start lands stays later true (Except.ok.inj done).symm
    · cases rest
  next other => exact .of_other start (decide_eq_false other) rest

end

structure Scanned (landing : Item R → Bool) (done : List (Item R)) (flags : LandingFlags) : Prop where
  none : flags.landStartFound = false → ∀ item ∈ done, isLandStart item = false
  start : flags.landStartFound = true → ∃ before start after, done = before ++ start :: after ∧
    before.length = flags.doLandStartIndex ∧ isLandStart start = true ∧
    (∀ item ∈ before ++ after, isLandStart item = false) ∧ ∀ item ∈ after, isReturn item = false
  approach : (∀ item ∈ done, landing item = false) ∧ flags.landingApproachIndex = 0 ∨
    ∃ item, done[flags.landingApproachIndex+1]? = some item ∧ landing item = true
  valid : flags.landingValid = true → ∃ item ∈ done, landing item = true

section
variable {landing : Item R → Bool} {done : List (Item R)} {flags flags' : LandingFlags} {item : Item R}

lemma forall_mem_append_singleton {P : Item R → Prop} (before : ∀ item ∈ done, P item) (last : P item) :
    ∀ other ∈ done ++ [item], P other := by
  intro other member
  rcases List.mem_append.mp member with earlier | here
  · exact before other earlier
  · rw [List.mem_singleton.mp here]
    exact last

lemma Scanned.step (scanned : Scanned landing done flags) (step : LandingStep landing done.length flags item flags') :
    Scanned landing (done ++ [item]) flags' where
  none := by
    rw [step.found,Bool.or_eq_false_iff]
    intro missing
    exact forall_mem_append_singleton (scanned.none missing.1) missing.2
  start := by
    intro found
    cases start : isLandStart item with
    | true =>
      have first := scanned.none (step.single start)
      refine ⟨done,item,[],rfl,?_,start,?_,fun _ member => nomatch member⟩
      · rw [step.start,if_pos start]
      · rw [List.append_nil]
        exact first
    | false =>
      rw [step.found,start,Bool.or_false] at found
      obtain ⟨before,first,after,split,index,starts,single,stays⟩ := scanned.start found
      refine ⟨before,first,after ++ [item],?_,?_,starts,?_,?_⟩
      · rw [split,List.append_assoc,List.cons_append]
      · rw [step.start,start,index]
        rfl
      · rw [← List.append_assoc]
        exact forall_mem_append_singleton single start
      -- A return would be behind the land start.
      refine forall_mem_append_singleton stays (Bool.eq_false_iff.mpr fun returns => ?_)
      have late := step.stays returns found
      rw [← index,split,List.length_append,List.length_cons] at late
      omega
  approach := by
    cases lands : landing item with
    | true =>
      obtain ⟨later,index⟩ := step.approach lands
      refine .inr ⟨item,?_,lands⟩
      rw [index,Nat.sub_add_cancel later]
      exact List.getElem?_concat_length
    | false =>
      rw [(step.kept lands).1]
      rcases scanned.approach with ⟨missing,zero⟩ | ⟨other,read,landing⟩
      · exact .inl ⟨forall_mem_append_singleton missing lands,zero⟩
      · exact .inr ⟨other,List.getElem?_append_left (List.getElem?_eq_some_iff.mp read).1 ▸ read,landing⟩
  valid := by
    intro valid
    cases lands : landing item with
    | true => exact ⟨item,List.mem_append_right _ (List.mem_singleton.mpr rfl),lands⟩
    | false =>
      rw [(step.kept lands).2] at valid
      obtain ⟨other,member,landing⟩ := scanned.valid valid
      exact ⟨other,List.mem_append_left _ member,landing⟩

lemma Scanned.run {pass : Nat → LandingFlags → Item R → Feasibility R LandingFlags}
    (step : ∀ {i flags item flags'}, pass i flags item = .ok flags' → LandingStep landing i flags item flags')
    {rest : List (Item R)} (scanned : Scanned landing done flags)
    (ok : landingLoop pass done.length flags (rest.map some) = .ok flags') : Scanned landing (done ++ rest) flags' := by
  induction rest generalizing done flags with
  | nil =>
    cases ok
    rw [List.append_nil]
    exact scanned
  | cons item rest ih =>
    rw [map_cons,landingLoop,Option.elim_some] at ok
    obtain ⟨middle,passed,ok⟩ := bind_ok ok
    have next : landingLoop pass (done ++ [item]).length middle (rest.map some) = .ok flags' := by
      rw [List.length_append]
      exact ok
    rw [List.append_cons]
    exact ih (scanned.step (step passed)) next

lemma scanned_start : Scanned landing [] .start :=
  ⟨fun _ _ member => (nomatch member),fun found => (nomatch found),.inl ⟨fun _ member => (nomatch member),rfl⟩,
    fun valid => (nomatch valid)⟩

lemma Scanned.complete (scanned : Scanned landing done flags) (found : flags.landStartFound)
    (order : flags.doLandStartIndex ≤ flags.landingApproachIndex) (lands : ∃ item ∈ done, landing item) :
    LandingComplete landing done := by
  obtain ⟨before,start,after,split,index,starts,single,stays⟩ := scanned.start found
  refine ⟨before,start,after,split,starts,single,?_,stays⟩
  rcases scanned.approach with ⟨missing,_⟩ | ⟨item,read,landing⟩
  · obtain ⟨item,member,landing⟩ := lands
    exact nomatch landing.symm.trans (missing item member)
  · rw [split,List.getElem?_append_right (by omega),List.getElem?_cons,if_neg (by omega)] at read
    exact ⟨item,List.mem_of_getElem? read,landing⟩

end

section
variable {items : List (Item R)}

lemma found_of_any (scanned : Scanned landing items flags) (starts : items.any isLandStart) : flags.landStartFound := by
  cases found : flags.landStartFound with
  | true => rfl
  | false =>
    obtain ⟨item,member,start⟩ := any_eq_true.mp starts
    exact nomatch start.symm.trans (scanned.none found item member)

def LandStartDecided (items : List (Item R)) : Prop :=
  items.head?.any isLandStart = true →
    items.any isLanding = true ∨ items.tail.any isLandStart = true ∨ items.tail.any isReturn = true

lemma vtol_complete {landStartReq : Bool} (accepted : checkVTOLLanding (items.map some) landStartReq = .ok ())
    (starts : items.any isLandStart) (decided : LandStartDecided items) : LandingComplete isLanding items := by
  obtain ⟨flags,looped,verdict⟩ := bind_ok accepted
  have scanned : Scanned isLanding items flags := scanned_start.run vtolLandingPass_ok looped
  have found := found_of_any scanned starts
  rw [found,Bool.not_true,Bool.and_false,if_neg Bool.false_ne_true,Bool.true_and] at verdict
  split at verdict
  · cases verdict
  next order =>
    simp only [decide_eq_true_eq,not_lt] at order
    refine scanned.complete found order ?_
    rcases scanned.approach with ⟨_,zero⟩ | ⟨item,read,landing⟩
    · -- Nothing was found to land with, so that the land start has to be the first item.
      obtain ⟨before,start,after,split,index,first,single,stays⟩ := scanned.start found
      have empty : before = [] := List.eq_nil_of_length_eq_zero (by omega)
      subst empty
      rw [List.nil_append] at split single
      subst split
      rcases decided first with landing | again | returns
      · exact any_eq_true.mp landing
      · obtain ⟨item,member,again⟩ := any_eq_true.mp again
        exact nomatch again.symm.trans (single item member)
      · obtain ⟨item,member,returns⟩ := any_eq_true.mp returns
        exact nomatch returns.symm.trans (stays item member)
    · exact ⟨item,List.mem_of_getElem? read,landing⟩

lemma vtolLandingPass_other
    (start : landStart i flags item = .ok started) (flies : isLanding item = false) (stays : isReturn item = false) :
    vtolLandingPass mission i flags item = .ok started := by
  have returns : landingReturn i started item = .ok started := by
    rw [landingReturn,show decide (item.navCmd = MavCmd.navReturnToLaunch.number) = false from stays]
    rfl
  rw [vtolLandingPass,start]
  exact (if_neg (Bool.eq_false_iff.mp flies)).trans returns

lemma landingLoop_quiet {rest : List (Item R)} (other : rest.any isLandStart = false)
    (flies : rest.any isLanding = false) (stays : rest.any isReturn = false) (i : Nat) (flags : LandingFlags) :
    landingLoop (vtolLandingPass mission) i flags (rest.map some) = .ok flags := by
  induction rest generalizing i with
  | nil => rfl
  | cons item rest ih =>
    rw [any_cons,Bool.or_eq_false_iff] at other flies stays
    have start : landStart i flags item = .ok flags := if_neg (of_decide_eq_false other.1)
    rw [map_cons,landingLoop,Option.elim_some,vtolLandingPass_other start flies.1 stays.1]
    exact ih other.2 flies.2 stays.2 (i+1)

lemma vtol_accepts (start : isLandStart first)
    (flies : (first::tail).any isLanding = false) (other : tail.any isLandStart = false)
    (stays : tail.any isReturn = false) : checkVTOLLanding ((first::tail).map some) false = .ok () := by
  rw [any_cons,Bool.or_eq_false_iff] at flies
  have started : landStart 0 .start first = .ok {LandingFlags.start with landStartFound := true} :=
    if_pos (of_decide_eq_true start)
  have loop : landingLoop (vtolLandingPass ((first::tail).map some)) 0 .start ((first::tail).map some) =
      .ok {LandingFlags.start with landStartFound := true} := by
    rw [map_cons,landingLoop,Option.elim_some,
      vtolLandingPass_other started flies.1 (isReturn_of_isLandStart start)]
    exact landingLoop_quiet other flies.2 stays 1 _
  rw [checkVTOLLanding,loop]
  rfl

lemma LandingComplete.any (complete : LandingComplete landing items) : ∃ item ∈ items, landing item := by
  obtain ⟨before,start,after,split,_,_,⟨item,member,lands⟩,_⟩ := complete
  rw [split]
  exact ⟨item,List.mem_append_right _ (List.mem_cons_of_mem _ member),lands⟩

variable [Field R] [LinearOrder R]

lemma fixedWing_complete {status : LandingStatus R} {landStartReq : Bool}
    (accepted : checkFixedWingLanding status (items.map some) landStartReq = .ok ())
    (starts : items.any isLandStart) : LandingComplete isLand items := by
  obtain ⟨flags,looped,verdict⟩ := bind_ok accepted
  have scanned : Scanned isLand items flags := scanned_start.run fixedWingLandingPass_ok looped
  have found := found_of_any scanned starts
  rw [found,Bool.not_true,Bool.and_false,if_neg Bool.false_ne_true,Bool.true_and] at verdict
  split at verdict
  · cases verdict
  next valid =>
    simp only [Bool.or_eq_true,Bool.not_eq_true',decide_eq_true_eq,not_or,Bool.not_eq_false,not_lt] at valid
    exact scanned.complete found valid.2 (scanned.valid valid.1)

/-- In accepted missions a land start is the only one, a landing follows it and no return does. -/
def LandingsComplete (items : List (Item R)) : Prop :=
  (∀ status landStartReq, checkFixedWingLanding status (items.map some) landStartReq = .ok () →
    items.any isLandStart = true → LandingComplete isLand items) ∧
  (∀ landStartReq, checkVTOLLanding (items.map some) landStartReq = .ok () →
    items.any isLandStart = true → LandingComplete isLanding items) ∧
  (items.any isLanding = false → items.any isReturn = false → items.any isLandStart = true →
    (∀ status landStartReq, checkFixedWingLanding status (items.map some) landStartReq ≠ .ok ()) ∧
      ∀ landStartReq, checkVTOLLanding (items.map some) landStartReq ≠ .ok ())

/-- The landings of accepted missions are complete, but one for a VTOL vehicle may be only a land start. -/
theorem landings_complete_iff (items : List (Item R)) : LandingsComplete items ↔ LandStartDecided items := by
  constructor
  · intro complete first
    cases items with
    | nil => cases first
    | cons start tail =>
      have first : isLandStart start := first
      by_contra undecided
      simp only [List.tail_cons,not_or,Bool.not_eq_true] at undecided
      obtain ⟨flies,other,stays⟩ := undecided
      have accepted := vtol_accepts first flies other stays
      obtain ⟨item,member,lands⟩ := (complete.2.1 false accepted (by rw [any_cons,first]; rfl)).any
      exact nomatch (any_eq_true.mpr ⟨item,member,lands⟩).symm.trans flies
  · intro decided
    refine ⟨fun _ _ => fixedWing_complete,fun _ accepted starts => vtol_complete accepted starts decided,
      fun flies _ starts => ⟨fun _ _ accepted => ?_,fun _ accepted => ?_⟩⟩
    · obtain ⟨item,member,lands⟩ := (fixedWing_complete accepted starts).any
      exact nomatch (any_eq_true.mpr ⟨item,member,isLanding_of_isLand lands⟩).symm.trans flies
    · obtain ⟨item,member,lands⟩ := (vtol_complete accepted starts decided).any
      exact nomatch (any_eq_true.mpr ⟨item,member,lands⟩).symm.trans flies

theorem land_start_accepted : ¬ LandingsComplete [tenMetres .doLandStart,tenMetres .navWaypoint] := by
  intro complete
  exact (complete.2.2 rfl rfl rfl).2 false (vtol_accepts rfl rfl rfl rfl)

end
end MissionFeasibilityChecker
end AerialManipulator
