import Uam.MissionFeasibility

/-! The takeoff of a mission. The flag for one that comes first is set anew for each item before it,
and one at the start is not remembered as the first. -/
namespace AerialManipulator
open Numeric List

namespace MissionFeasibilityChecker
variable {R : Type} [Field R] [LinearOrder R] (rule : TakeoffRule R)

abbrev Item (R : Type) := MissionItem (Flt R) (Flt R)

def isTakeoff (item : Item R) : Bool := item.navCmd = MavCmd.navTakeoff.number

def clears (item : Item R) : Bool := !isTakeoff item || !takeoffTooLow rule item

def Accepts (items : List (Item R)) : Prop := checkTakeoff rule (items.map some) = .ok ()

/-- What a mission should be like: there is a takeoff, all are high enough, and what comes before is listed. -/
def Admissible (items : List (Item R)) : Prop :=
  items.any isTakeoff = true ∧ items.all (clears rule) = true ∧
    (items.takeWhile fun item => !isTakeoff item).all precedesTakeoff = true

def approach (items : List (Item R)) : List (Item R) := items.take 1 ++ items.tail.takeWhile fun item => !isTakeoff item

def lastPrecedes (items : List (Item R)) : Bool := (approach items).getLast?.any precedesTakeoff

/-- If all takeoffs are high enough and one is not first, the item right before it decides about those before it. -/
def Placed (items : List (Item R)) : Prop :=
  items.all (clears rule) = true → items.tail.any isTakeoff = true →
    if items.head?.any isTakeoff then lastPrecedes items = true
    else lastPrecedes items = true → (approach items).all precedesTakeoff = true

def Lone (items : List (Item R)) : Prop := items.head?.any isTakeoff = true ∧ items.tail.any isTakeoff = false

lemma takeoffLoop_later (items : List (Item R)) (later : 0 < i) (flags : TakeoffFlags) : if items.all (clears rule) then
      takeoffLoop rule i flags (items.map some) = .ok ⟨flags.hasTakeoff || items.any isTakeoff,flags.takeoffFirst,
        flags.takeoffIndex.or ((items.findIdx? isTakeoff).map (· + i))⟩
    else ∃ messages, takeoffLoop rule i flags (items.map some) = .error messages := by
  induction items generalizing i flags with
  | nil => simp [takeoffLoop]
  | cons item rest ih =>
    have step : takeoffLoop rule i flags ((item::rest).map some) = if isTakeoff item then
          if takeoffTooLow rule item then reject "Mission rejected: Takeoff altitude too low!\t"
          else takeoffLoop rule (i+1) (flags.found i) (rest.map some)
        else takeoffLoop rule (i+1) flags (rest.map some) := by
      simp [takeoffLoop,isTakeoff]
    rw [step,all_cons,clears]
    cases takeoff : isTakeoff item with
    | false =>
      have next := ih (Nat.succ_pos i) flags
      simpa [findIdx?_cons,takeoff,Function.comp_def,Nat.add_assoc,Nat.add_comm 1] using next
    | true =>
      cases low : takeoffTooLow rule item with
      | true => simp [reject]
      | false =>
        have next := ih (Nat.succ_pos i) (flags.found i)
        have index (other : Option Nat) : (flags.found i).takeoffIndex.or other = flags.takeoffIndex.or (some i) := by
          rw [TakeoffFlags.found,if_neg (Nat.ne_of_gt later)]
          cases flags.takeoffIndex <;> rfl
        have first : (flags.found i).takeoffFirst = flags.takeoffFirst := by
          simp [TakeoffFlags.found,Nat.ne_of_gt later]
        have has : (flags.found i).hasTakeoff := rfl
        rw [index,first,has] at next
        simpa [findIdx?_cons,takeoff] using next

omit [Field R] [LinearOrder R] in
lemma precedingLoop_eq (items : List (Item R)) (takeoffFirst : Bool) :
    precedingLoop takeoffFirst (items.map some) = .ok (items.getLast?.elim takeoffFirst precedesTakeoff) := by
  induction items generalizing takeoffFirst with
  | nil => rfl
  | cons item rest ih =>
    have step : precedingLoop takeoffFirst ((item::rest).map some) = precedingLoop (precedesTakeoff item)
      (rest.map some) := rfl
    rw [step,ih,getLast?_cons]
    cases rest.getLast? <;> rfl

variable (first : Item R)

lemma takeoffLoop_start (tail : List (Item R)) : if (first::tail).all (clears rule) then
      takeoffLoop rule 0 ⟨false,false,none⟩ ((first::tail).map some) =
        .ok ⟨isTakeoff first || tail.any isTakeoff,isTakeoff first,(tail.findIdx? isTakeoff).map (· + 1)⟩
    else ∃ messages, takeoffLoop rule 0 ⟨false,false,none⟩ ((first::tail).map some) = .error messages := by
  have step : takeoffLoop rule 0 ⟨false,false,none⟩ ((first::tail).map some) =
      if isTakeoff first && takeoffTooLow rule first then reject "Mission rejected: Takeoff altitude too low!\t"
      else takeoffLoop rule 1 ⟨isTakeoff first,isTakeoff first,none⟩ (tail.map some) := by
    cases takeoff : isTakeoff first <;>
      simp_all [takeoffLoop,isTakeoff,TakeoffFlags.found]
  have rest := takeoffLoop_later rule tail Nat.one_pos ⟨isTakeoff first,isTakeoff first,none⟩
  rw [step,all_cons,clears]
  generalize isTakeoff first = takeoff at rest ⊢
  cases takeoff <;> cases takeoffTooLow rule first <;> first | simpa using rest | simp [reject]

variable {rule}

lemma accepts_iff (required : rule.takeoffRequired) (landed : rule.landed) (items : List (Item R)) :
    Accepts rule items ↔ items.any isTakeoff ∧ items.all (clears rule) ∧
      (items.tail.any isTakeoff → lastPrecedes items) := by
  cases items with
  | nil => simp [Accepts,checkTakeoff,takeoffLoop,required,landed,reject,bind,Except.bind]
  | cons first tail =>
    have loop := takeoffLoop_start rule first tail
    rw [Accepts,checkTakeoff]
    split at loop
    next clear =>
      rw [loop]
      simp only [clear,true_and,any_cons,tail_cons,required,landed]
      cases found : tail.findIdx? isTakeoff with
      | none =>
        have none : tail.any isTakeoff = false := by
          rw [← findIdx?_isSome,found]
          rfl
        cases isTakeoff first <;> simp [none,bind,Except.bind,reject]
      | some k =>
        obtain ⟨_,index⟩ := findIdx?_eq_some_iff_findIdx_eq.mp found
        have some : tail.any isTakeoff := by
          rw [← findIdx?_isSome,found]
          rfl
        have before : ((first::tail).map Option.some).take (k+1) = (approach (first::tail)).map Option.some := by
          simp [approach,takeWhile_eq_take_findIdx_not,index]
        have last : ∃ item, (approach (first::tail)).getLast? = Option.some item :=
          Option.isSome_iff_exists.mp (by simp [approach])
        obtain ⟨item,last⟩ := last
        simp only [bind,Except.bind,Option.map_some,Option.elim_some,before,precedingLoop_eq,last,lastPrecedes,some]
        cases listed : precedesTakeoff item <;> simp [listed,reject]
    next low =>
      obtain ⟨messages,refused⟩ := loop
      rw [refused]
      simp [bind,Except.bind,low]

omit [Field R] [LinearOrder R] in
lemma approach_cons (tail : List (Item R)) :
    approach (first::tail) = first::tail.takeWhile fun item => !isTakeoff item := rfl

omit [Field R] [LinearOrder R] in
lemma lastPrecedes_of_all {first : Item R} {tail : List (Item R)}
    (all : (approach (first::tail)).all precedesTakeoff) : lastPrecedes (first::tail) := by
  have nonempty : approach (first::tail) ≠ [] := cons_ne_nil _ _
  rw [lastPrecedes,getLast?_eq_some_getLast nonempty]
  exact all_eq_true.mp all _ (getLast_mem nonempty)

lemma accepts_admissible_iff (required : rule.takeoffRequired) (landed : rule.landed)
    (items : List (Item R)) : (Accepts rule items ↔ Admissible rule items) ↔ Placed rule items := by
  rw [accepts_iff required landed,Admissible,Placed]
  cases items with
  | nil => simp
  | cons first tail =>
    rw [any_cons,tail_cons,head?_cons,Option.any_some,takeWhile_cons,← approach_cons]
    cases (first::tail).all (clears rule) with
    | false => simp
    | true =>
      have last : (approach (first::tail)).all precedesTakeoff → lastPrecedes (first::tail) :=
        lastPrecedes_of_all
      cases isTakeoff first with
      | true => simp
      | false =>
        cases tail.any isTakeoff with
        | false => simp
        | true =>
          simp only [Bool.or_true,true_and,forall_const,Bool.not_false,if_true,Bool.false_eq_true,if_false]
          exact ⟨Iff.mp,fun right => ⟨right,last⟩⟩

omit [Field R] [LinearOrder R] in
lemma approach_append {tail : List (Item R)} (later : tail.any isTakeoff)
    (extra : List (Item R)) : approach (first::tail ++ extra) = approach (first::tail) := by
  rw [cons_append,approach_cons,approach_cons,takeWhile_append,if_neg]
  intro whole
  have same := (List.takeWhile_prefix _).eq_of_length whole
  obtain ⟨item,member,takeoff⟩ := any_eq_true.mp later
  rw [← same] at member
  have free := all_eq_true.mp all_takeWhile item member
  rw [takeoff] at free
  cases free

lemma appended_iff (required : rule.takeoffRequired) (landed : rule.landed) (items extra : List (Item R)) :
    (Accepts rule items → extra.all (clears rule) → Accepts rule (items ++ extra)) ↔
      (Lone items → Placed rule (items ++ extra)) := by
  rw [accepts_iff required landed,accepts_iff required landed,Lone,Placed,any_append,all_append]
  cases items with
  | nil => simp
  | cons first tail =>
    cases later : tail.any isTakeoff with
    | true =>
      have last : lastPrecedes (first::tail ++ extra) = lastPrecedes (first::tail) := by
        rw [lastPrecedes,approach_append first later,lastPrecedes]
      rw [last]
      simp only [tail_cons,later,Bool.true_eq_false,and_false,false_implies,iff_true]
      rintro ⟨takeoff,clear,placed⟩ appended
      rw [takeoff,clear,appended]
      exact ⟨rfl,rfl,fun _ => placed trivial⟩
    | false =>
      cases takeoff : isTakeoff first with
      | false => simp [later,takeoff]
      | true =>
        simp only [tail_cons,cons_append,head?_cons,Option.any_some,any_cons,later,takeoff]
        cases (first::tail).all (clears rule) <;> cases extra.all (clears rule) <;> simp

/-- Landed and with a takeoff required, the check is exact on a mission and its extensions
exactly if they are placed. -/
theorem checkTakeoff_exact_iff (required : rule.takeoffRequired = true) (landed : rule.landed = true)
    (items extra : List (Item R)) :
    (Accepts rule items ↔ Admissible rule items) ∧
        (Accepts rule items → extra.all (clears rule) = true → Accepts rule (items ++ extra)) ↔
      Placed rule items ∧ (Lone items → Placed rule (items ++ extra)) :=
  and_congr (accepts_admissible_iff required landed items) (appended_iff required landed items extra)

def tenMetres (cmd : MavCmd) : Item ℚ :=
  {(.zero : Item ℚ) with navCmd := cmd.number, altitude := .fin 10, altitudeIsRelative := true}

def onGround : TakeoffRule ℚ := ⟨true,true,.fin 0,.fin 2⟩

theorem checkTakeoff_exact_leaving : let items := [tenMetres .doChangeSpeed,tenMetres .navTakeoff]
    let extra := [tenMetres .navWaypoint,tenMetres .navLand]
    (Accepts onGround items ↔ Admissible onGround items) ∧
        (Accepts onGround items → extra.all (clears onGround) = true → Accepts onGround (items ++ extra)) ↔
      Placed onGround items ∧ (Lone items → Placed onGround (items ++ extra)) :=
  checkTakeoff_exact_iff rfl rfl [tenMetres .doChangeSpeed,tenMetres .navTakeoff]
    [tenMetres .navWaypoint,tenMetres .navLand]

/-- A waypoint is overlooked before a change of speed, and a second takeoff spoils a mission that starts with one. -/
theorem checkTakeoff_overlooks : let late := [tenMetres .navWaypoint,tenMetres .doChangeSpeed,tenMetres .navTakeoff]
    let again := [tenMetres .navWaypoint,tenMetres .navTakeoff]
    (Accepts onGround late ∧ ¬ Admissible onGround late) ∧
      Accepts onGround [tenMetres .navTakeoff] ∧ again.all (clears onGround) = true ∧
      ¬ Accepts onGround ([tenMetres .navTakeoff] ++ again) := by
  have rejected : ¬ ([tenMetres .navTakeoff,tenMetres .navWaypoint,tenMetres .navTakeoff].tail.any isTakeoff →
    lastPrecedes [tenMetres .navTakeoff,tenMetres .navWaypoint,tenMetres .navTakeoff]) := by decide +kernel
  refine ⟨⟨(accepts_iff rfl rfl _).mpr (by decide +kernel),fun admissible => ?_⟩,
    (accepts_iff rfl rfl _).mpr (by decide +kernel),by decide +kernel,fun accepted => ?_⟩
  · exact absurd admissible.2.2 (by decide +kernel)
  · exact rejected ((accepts_iff rfl rfl _).mp accepted).2.2

end MissionFeasibilityChecker
end AerialManipulator
