import Uam.MissionFlight

/-! Where the landing of a mission starts, after `find_mission_land_start`. Each marker moves the
index, also one after the position was taken, and the first item is not looked at. -/
namespace AerialManipulator
open List

structure LandPosition (K D : Type) where
  lat : D
  lon : D
  alt : K
  deriving DecidableEq

structure LandStart (K D : Type) where
  landStartAvailable : Bool
  landStartIndex : Nat
  landingStart : LandPosition K D
  landing : LandPosition K D

namespace LandStart
variable {K D : Type}

def isMarker (item : MissionItem K D) : Bool := item.navCmd = MavCmd.doLandStart.number

def isLanding (isVtol : Bool) (item : MissionItem K D) : Bool :=
  item.navCmd = MavCmd.navVtolLand.number && isVtol || item.navCmd = MavCmd.navLand.number

section
variable [Add K] (homeAlt : K) (isVtol : Bool)

def position (item : MissionItem K D) : LandPosition K D :=
  ⟨item.lat,item.lon,if item.altitudeIsRelative then item.altitude+homeAlt else item.altitude⟩

def mark (i : Nat) (item : MissionItem K D) (s : LandStart K D) : LandStart K D :=
  if isMarker item then {s with landStartIndex := i} else s

def takeWaypoint (i : Nat) (found : Bool) (item : MissionItem K D) (s : LandStart K D) : LandStart K D :=
  if found && !s.landStartAvailable && i > s.landStartIndex && itemContainsPosition item then
    {s with landingStart := position homeAlt item, landStartAvailable := true}
  else s

def takeLanding (i : Nat) (item : MissionItem K D) (s : LandStart K D) : LandStart K D :=
  if isLanding isVtol item then
    let landed := {s with landing := position homeAlt item}
    if landed.landStartAvailable then landed
    else {landed with landStartIndex := i, landingStart := landed.landing, landStartAvailable := true}
  else s

def loop : Nat → Bool → LandStart K D → List (Option (MissionItem K D)) → LandStart K D
  | _,_,s,[] => s
  | _,_,s,none::_ => s
  | i,found,s,some item::reads =>
    let found := found || isMarker item
    loop (i+1) found (takeLanding homeAlt isVtol i item (takeWaypoint homeAlt i found item (mark i item s))) reads

def findMissionLandStart (reads : List (Option (MissionItem K D))) (s : LandStart K D) : Bool × LandStart K D :=
  let found := loop homeAlt isVtol 1 false {s with landStartAvailable := false} reads.tail
  (found.landStartAvailable,found)

/-- The stored position is the first from the stored index on, which is a marker's if an item
with a position follows one. -/
def Consistent (items : List (MissionItem K D)) (s : LandStart K D) : Prop :=
  let result := findMissionLandStart homeAlt isVtol (items.map some) s
  (result.1 = true → ((items.drop result.2.landStartIndex).find? itemContainsPosition).map (position homeAlt) =
      some result.2.landingStart) ∧
  ((∃ before marker between item after, items = before ++ marker :: (between ++ item :: after) ∧
      isMarker marker = true ∧ itemContainsPosition item = true) →
    ∃ marker, items[result.2.landStartIndex]? = some marker ∧ isMarker marker = true)

def gives (isVtol : Bool) (found : Bool) (item : MissionItem K D) : Bool :=
  isLanding isVtol item || found && itemContainsPosition item

structure FirstGiving (isVtol : Bool) (before : List (MissionItem K D)) (item : MissionItem K D) : Prop where
  given : gives isVtol (before.any isMarker) item = true
  first : ∀ earlier other later, before = earlier ++ other :: later → gives isVtol (earlier.any isMarker) other = false

def NotMovedOn (items : List (MissionItem K D)) : Prop :=
  ∀ before item after, items.tail = before ++ item :: after → FirstGiving isVtol before item →
    ∀ between marker behind, after = between ++ marker :: behind → isMarker marker = true →
      behind.any isMarker = false →
        (behind.find? itemContainsPosition).map (position homeAlt) = some (position homeAlt item)

def MarkerSeen (items : List (MissionItem K D)) (s : LandStart K D) : Prop :=
  items.head?.any isMarker = true → items.tail.any itemContainsPosition = true →
    items.tail.any isMarker = true ∨ items.tail.any (isLanding isVtol) = false ∧ s.landStartIndex = 0

end

section
variable (isVtol : Bool)

variable {item marker : MissionItem K D}

lemma contains_of_isLanding (lands : isLanding isVtol item) : itemContainsPosition item := by
  rw [isLanding,Bool.or_eq_true,Bool.and_eq_true] at lands
  rcases lands with ⟨vtol,_⟩ | land
  · simp [itemContainsPosition,of_decide_eq_true vtol]
  · simp [itemContainsPosition,of_decide_eq_true land]

lemma contains_of_gives {found : Bool} (given : gives isVtol found item) : itemContainsPosition item := by
  rw [gives,Bool.or_eq_true,Bool.and_eq_true] at given
  rcases given with lands | ⟨_,contains⟩
  · exact contains_of_isLanding isVtol lands
  · exact contains

lemma not_contains_of_isMarker (marker : isMarker item) : itemContainsPosition item = false := by
  have number : item.navCmd = MavCmd.doLandStart.number := of_decide_eq_true marker
  rw [itemContainsPosition,number]
  decide

lemma not_isMarker_of_contains (contains : itemContainsPosition item) : isMarker item = false := by
  cases marker : isMarker item with
  | false => rfl
  | true => exact absurd contains (by simp [not_contains_of_isMarker marker])

def markerIndex : Nat → Nat → List (MissionItem K D) → Nat
  | _,index,[] => index
  | i,index,item::rest => markerIndex (i+1) (if isMarker item then i else index) rest

lemma markerIndex_of_none (items : List (MissionItem K D)) (none : items.any isMarker = false) (i index : Nat) :
    markerIndex i index items = index := by
  induction items generalizing i with
  | nil => rfl
  | cons item rest ih =>
    rw [any_cons,Bool.or_eq_false_iff] at none
    rw [markerIndex,if_neg (by simp [none.1]),ih none.2]

lemma markerIndex_append (first second : List (MissionItem K D)) (i index : Nat) :
    markerIndex i index (first ++ second) = markerIndex (i + first.length) (markerIndex i index first) second := by
  induction first generalizing i index with
  | nil => rfl
  | cons item rest ih => rw [cons_append,markerIndex,ih,markerIndex,length_cons,Nat.add_right_comm,Nat.add_assoc]

lemma markerIndex_last (before behind : List (MissionItem K D))
    (marks : isMarker marker) (last : behind.any isMarker = false) (i index : Nat) :
    markerIndex i index (before ++ marker::behind) = i + before.length := by
  rw [markerIndex_append,markerIndex,if_pos marks,markerIndex_of_none behind last]

lemma exists_last_marker (items : List (MissionItem K D)) (some : items.any isMarker) :
    ∃ before marker behind, items = before ++ marker::behind ∧ isMarker marker ∧
      behind.any isMarker = false := by
  induction items with
  | nil => cases some
  | cons item rest ih =>
    cases later : rest.any isMarker with
    | true =>
      obtain ⟨before,marker,behind,rfl,marks,last⟩ := ih later
      exact ⟨item::before,marker,behind,rfl,marks,last⟩
    | false =>
      rw [any_cons,later,Bool.or_false] at some
      exact ⟨[],item,rest,rfl,some,later⟩

lemma last_marker_unique {before before' behind behind' : List (MissionItem K D)} {marker' : MissionItem K D}
    (marks : isMarker marker) (marks' : isMarker marker') (last : behind.any isMarker = false)
    (last' : behind'.any isMarker = false) (same : before ++ marker::behind = before' ++ marker'::behind') :
    marker = marker' ∧ behind = behind' := by
  have index := congrArg (markerIndex 0 0) same
  rw [markerIndex_last _ _ marks last,markerIndex_last _ _ marks' last',Nat.zero_add,Nat.zero_add] at index
  exact List.cons.inj (append_inj same index).2

lemma drop_of_tail {items front rest : List (MissionItem K D)} (split : items.tail = front ++ rest) :
    items.drop (front.length+1) = rest := by
  rw [Nat.add_comm,← drop_drop,drop_one,split,drop_left]

lemma exists_firstGiving (items : List (MissionItem K D)) (found : Bool) :
    (∃ before item after, items = before ++ item::after ∧ gives isVtol (found || before.any isMarker) item ∧
        ∀ earlier other later, before = earlier ++ other::later →
          gives isVtol (found || earlier.any isMarker) other = false) ∨
    ∀ earlier other later, items = earlier ++ other::later →
      gives isVtol (found || earlier.any isMarker) other = false := by
  induction items generalizing found with
  | nil => exact .inr fun earlier other later split => by simp at split
  | cons item rest ih =>
    cases given : gives isVtol found item with
    | true => exact .inl ⟨[],item,rest,rfl,by simpa using given,fun earlier other later split => by simp at split⟩
    | false =>
      -- the earlier items of a longer split are the earlier items of the rest, behind this one
      have extend (whole : List (MissionItem K D)) (none : ∀ earlier other later, whole = earlier ++ other::later →
            gives isVtol (found || isMarker item || earlier.any isMarker) other = false)
          (earlier : List (MissionItem K D)) (other : MissionItem K D) (later : List (MissionItem K D))
          (split : item::whole = earlier ++ other::later) :
          gives isVtol (found || earlier.any isMarker) other = false := by
        cases earlier with
        | nil =>
          obtain ⟨rfl,_⟩ := List.cons.inj split
          simpa using given
        | cons first earlier =>
          obtain ⟨rfl,same⟩ := List.cons.inj split
          simpa [Bool.or_assoc] using none earlier other later same
      rcases ih (found || isMarker item) with ⟨before,other,after,rfl,gave,none⟩ | none
      · refine .inl ⟨item::before,other,after,rfl,?_,extend before none⟩
        simpa [Bool.or_assoc] using gave
      · exact .inr (extend rest none)

lemma find?_from_marker {front behind after : List (MissionItem K D)}
    (giving : FirstGiving isVtol (front ++ marker::behind) item) (marks : isMarker marker) :
    (marker::behind ++ item::after).find? itemContainsPosition = some item := by
  have bare : ∀ other ∈ marker::behind, itemContainsPosition other = false := by
    intro other member
    rcases mem_cons.mp member with rfl | member
    · exact not_contains_of_isMarker marks
    · obtain ⟨earlier,later,rfl⟩ := append_of_mem member
      have idle := giving.first (front ++ marker::earlier) other later (by simp)
      rw [gives,any_append,any_cons,marks] at idle
      simpa using (Bool.or_eq_false_iff.mp idle).2
  rw [find?_append,find?_eq_none.mpr (by simpa using bare),Option.none_or,
    find?_cons_of_pos (contains_of_gives isVtol giving.given)]

end

section
variable [Add K] (homeAlt : K) (isVtol : Bool)

lemma loop_available (items : List (MissionItem K D)) (i : Nat) (found : Bool) (s : LandStart K D)
    (available : s.landStartAvailable) :
    ∃ landing, loop homeAlt isVtol i found s (items.map some) =
      {s with landStartIndex := markerIndex i s.landStartIndex items, landing := landing} := by
  induction items generalizing i found s with
  | nil => exact ⟨s.landing,rfl⟩
  | cons item rest ih =>
    let next : LandStart K D :=
      {s with
        landStartIndex := if isMarker item then i else s.landStartIndex
        landing := if isLanding isVtol item then position homeAlt item else s.landing}
    have one : takeLanding homeAlt isVtol i item
        (takeWaypoint homeAlt i (found || isMarker item) item (mark i item s)) = next := by
      obtain ⟨_,index,start,landing⟩ := s
      subst available
      cases marker : isMarker item <;> cases lands : isLanding isVtol item <;>
        simp [next,mark,takeWaypoint,takeLanding,marker,lands]
    rw [map_cons,loop,one]
    exact ih (i+1) (found || isMarker item) next available

lemma loop_searching (before : List (MissionItem K D)) (reads : List (Option (MissionItem K D))) (i : Nat)
    (found : Bool) (s : LandStart K D) (searching : s.landStartAvailable = false)
    (none : ∀ earlier other later, before = earlier ++ other::later →
      gives isVtol (found || earlier.any isMarker) other = false) :
    loop homeAlt isVtol i found s (before.map some ++ reads) =
      loop homeAlt isVtol (i+before.length) (found || before.any isMarker)
        {s with landStartIndex := markerIndex i s.landStartIndex before} reads := by
  induction before generalizing i found s with
  | nil => simp [markerIndex]
  | cons item rest ih =>
    have idle : gives isVtol found item = false := by simpa using none [] item rest rfl
    rw [gives,Bool.or_eq_false_iff] at idle
    have next : takeLanding homeAlt isVtol i item
        (takeWaypoint homeAlt i (found || isMarker item) item (mark i item s)) =
          {s with landStartIndex := if isMarker item then i else s.landStartIndex} := by
      cases marker : isMarker item with
      | true => simp [mark,takeWaypoint,takeLanding,marker,idle.1]
      | false =>
        have unmoved : (found && !s.landStartAvailable && decide (i > s.landStartIndex) &&
            itemContainsPosition item) = false := by
          rcases Bool.and_eq_false_iff.mp idle.2 with unfound | bare
          · simp [unfound]
          · simp [bare]
        simp [mark,takeWaypoint,takeLanding,marker,idle.1,unmoved]
    rw [map_cons,cons_append,loop,next,ih]
    · simp only [length_cons,any_cons,markerIndex,Bool.or_assoc,Nat.add_assoc,Nat.add_comm 1]
    · exact searching
    · intro earlier other later split
      simpa [Bool.or_assoc] using none (item::earlier) other later (by rw [split,cons_append])

lemma loop_given (item : MissionItem K D) (after : List (MissionItem K D)) (i : Nat) (found : Bool)
    (s : LandStart K D) (searching : s.landStartAvailable = false) (behind : found → s.landStartIndex < i)
    (given : gives isVtol found item) :
    ∃ landing, loop homeAlt isVtol i found s ((item::after).map some) =
      { landStartAvailable := true
        landStartIndex := markerIndex (i+1) (if found then s.landStartIndex else i) after
        landingStart := position homeAlt item
        landing := landing} := by
  have contains := contains_of_gives isVtol given
  have plain := not_isMarker_of_contains contains
  obtain ⟨landing,next⟩ : ∃ landing, takeLanding homeAlt isVtol i item
      (takeWaypoint homeAlt i (found || isMarker item) item (mark i item s)) =
        { landStartAvailable := true
          landStartIndex := if found then s.landStartIndex else i
          landingStart := position homeAlt item
          landing := landing} := by
    cases seen : found with
    | true =>
      cases lands : isLanding isVtol item <;>
        simp [mark,takeWaypoint,takeLanding,plain,searching,contains,lands,behind seen]
    | false =>
      have lands : isLanding isVtol item := by simpa [gives,seen] using given
      simp [mark,takeWaypoint,takeLanding,plain,searching,lands]
  rw [map_cons,loop,next]
  obtain ⟨later,rest⟩ := loop_available homeAlt isVtol after (i+1) (found || isMarker item)
    {landStartAvailable := true, landStartIndex := if found then s.landStartIndex else i,
      landingStart := position homeAlt item, landing := landing} rfl
  exact ⟨later,rest⟩

variable {items before after : List (MissionItem K D)} {item : MissionItem K D}

lemma find_of_firstGiving
    (split : items.tail = before ++ item::after) (giving : FirstGiving isVtol before item) (s : LandStart K D) :
    ∃ landing, findMissionLandStart homeAlt isVtol (items.map some) s = (true,
      { landStartAvailable := true
        landStartIndex := markerIndex (before.length+2)
          (if before.any isMarker then markerIndex 1 s.landStartIndex before else before.length+1) after
        landingStart := position homeAlt item
        landing := landing}) := by
  have searched := loop_searching homeAlt isVtol before ((item::after).map some) 1 false
    {s with landStartAvailable := false} rfl (by simpa using giving.first)
  have passed : before.any isMarker → markerIndex 1 s.landStartIndex before < 1+before.length := by
    intro marked
    obtain ⟨front,marker,behind,rfl,marks,last⟩ := exists_last_marker before marked
    rw [markerIndex_last front behind marks last]
    simp
  obtain ⟨landing,given⟩ := loop_given homeAlt isVtol item after (1+before.length) (before.any isMarker)
    {landStartAvailable := false, landStartIndex := markerIndex 1 s.landStartIndex before,
      landingStart := s.landingStart, landing := s.landing} rfl passed giving.given
  refine ⟨landing,?_⟩
  rw [findMissionLandStart,← map_tail,split,map_append,searched,Bool.false_or,given]
  simp only [Nat.add_comm 1,Nat.add_assoc,Nat.reduceAdd]

lemma find_of_none (none : ∀ earlier other later, items.tail = earlier ++ other::later →
      gives isVtol (earlier.any isMarker) other = false) (s : LandStart K D) :
    findMissionLandStart homeAlt isVtol (items.map some) s = (false,
      {s with landStartAvailable := false, landStartIndex := markerIndex 1 s.landStartIndex items.tail}) := by
  have searched := loop_searching homeAlt isVtol items.tail [] 1 false {s with landStartAvailable := false} rfl
    (by simpa using none)
  rw [append_nil] at searched
  rw [findMissionLandStart,← map_tail,searched,loop]

lemma index_of_marker (s : LandStart K D) (marked : items.tail.any isMarker) :
    ∃ front marker behind, items.tail = front ++ marker::behind ∧ isMarker marker ∧
      behind.any isMarker = false ∧
        (findMissionLandStart homeAlt isVtol (items.map some) s).2.landStartIndex = front.length+1 := by
  obtain ⟨front,marker,behind,split,marks,last⟩ := exists_last_marker items.tail marked
  refine ⟨front,marker,behind,split,marks,last,?_⟩
  have whole : markerIndex 1 s.landStartIndex items.tail = front.length+1 := by
    rw [split,markerIndex_last front behind marks last,Nat.add_comm]
  rcases exists_firstGiving isVtol items.tail false with ⟨before,item,after,given,gave,first⟩ | none
  · have giving : FirstGiving isVtol before item := ⟨by simpa using gave,by simpa using first⟩
    obtain ⟨landing,result⟩ := find_of_firstGiving homeAlt isVtol given giving s
    have plain := not_isMarker_of_contains (contains_of_gives isVtol gave)
    rw [result,← whole,given,markerIndex_append,markerIndex,plain,Nat.add_comm 1,Nat.add_assoc]
    cases earlier : before.any isMarker with
    | true => rfl
    | false =>
      -- the marker is then behind the item, and what was stored before it does not matter
      have later : after.any isMarker := by
        rw [given,any_append,earlier,any_cons,plain] at marked
        exact marked
      obtain ⟨_,_,_,rfl,marks,last⟩ := exists_last_marker after later
      simp only [markerIndex_last _ _ marks last]
  · rw [find_of_none homeAlt isVtol (by simpa using none) s,whole]

section
variable (split : items.tail = before ++ item :: after) (giving : FirstGiving isVtol before item)
include split giving

lemma index_of_unmarked (unmarked : items.tail.any isMarker = false) (s : LandStart K D) :
    (findMissionLandStart homeAlt isVtol (items.map some) s).2.landStartIndex = before.length+1 := by
  obtain ⟨landing,result⟩ := find_of_firstGiving homeAlt isVtol split giving s
  rw [split,any_append,any_cons,Bool.or_eq_false_iff,Bool.or_eq_false_iff] at unmarked
  rw [result,unmarked.1]
  exact markerIndex_of_none after unmarked.2.2 _ _

lemma position_iff (s : LandStart K D) :
    ((items.drop (findMissionLandStart homeAlt isVtol (items.map some) s).2.landStartIndex).find?
        itemContainsPosition).map (position homeAlt) = some (position homeAlt item) ↔
      ∀ between marker behind, after = between ++ marker::behind → isMarker marker →
        behind.any isMarker = false →
          (behind.find? itemContainsPosition).map (position homeAlt) = some (position homeAlt item) := by
  obtain ⟨landing,result⟩ := find_of_firstGiving homeAlt isVtol split giving s
  rw [result]
  cases later : after.any isMarker with
  | true =>
    obtain ⟨between,marker,behind,rfl,marks,last⟩ := exists_last_marker after later
    have rest : items.tail = before ++ item::between ++ marker::behind := by simp [split]
    have index : before.length + 2 + between.length = (before ++ item::between).length + 1 := by
      rw [length_append,length_cons]
      omega
    simp only [markerIndex_last _ _ marks last,index,drop_of_tail rest]
    rw [find?_cons_of_neg (by simp [not_contains_of_isMarker marks])]
    constructor
    · intro same between' marker' behind' place marks' last'
      obtain ⟨_,rfl⟩ := last_marker_unique marks marks' last last' place
      exact same
    · intro same
      exact same between marker behind rfl marks last
  | false =>
    have found : (items.drop (if before.any isMarker then markerIndex 1 s.landStartIndex before
        else before.length+1)).find? itemContainsPosition = some item := by
      cases earlier : before.any isMarker with
      | true =>
        obtain ⟨front,marker,behind,rfl,marks,last⟩ := exists_last_marker before earlier
        have rest : items.tail = front ++ (marker::behind ++ item::after) := by simp [split]
        rw [if_pos rfl,markerIndex_last front behind marks last,Nat.add_comm,drop_of_tail rest]
        exact find?_from_marker isVtol giving marks
      | false =>
        rw [if_neg Bool.false_ne_true,drop_of_tail split]
        exact find?_cons_of_pos (contains_of_gives isVtol giving.given)
    simp only [markerIndex_of_none after later,found,Option.map_some,true_iff]
    intro between marker behind place marks
    simp [place,marks] at later

end

section
variable (items)

variable (s : LandStart K D)

lemma position_of_found_iff : ((findMissionLandStart homeAlt isVtol (items.map some) s).1 →
      ((items.drop (findMissionLandStart homeAlt isVtol (items.map some) s).2.landStartIndex).find?
        itemContainsPosition).map (position homeAlt) =
          some (findMissionLandStart homeAlt isVtol (items.map some) s).2.landingStart) ↔
      NotMovedOn homeAlt isVtol items := by
  constructor
  · intro stored before item after split giving
    apply (position_iff homeAlt isVtol split giving s).mp
    obtain ⟨landing,result⟩ := find_of_firstGiving homeAlt isVtol split giving s
    rw [result] at stored ⊢
    exact stored rfl
  · intro kept found
    rcases exists_firstGiving isVtol items.tail false with ⟨before,item,after,split,gave,first⟩ | none
    · have giving : FirstGiving isVtol before item := ⟨by simpa using gave,by simpa using first⟩
      obtain ⟨landing,result⟩ := find_of_firstGiving homeAlt isVtol split giving s
      rw [(position_iff homeAlt isVtol split giving s).mpr (kept before item after split giving),result]
    · rw [find_of_none homeAlt isVtol (by simpa using none) s] at found
      cases found

lemma marker_at_index (marked : items.tail.any isMarker) :
    ∃ marker, items[(findMissionLandStart homeAlt isVtol (items.map some) s).2.landStartIndex]? = some marker ∧
      isMarker marker := by
  obtain ⟨front,marker,behind,split,marks,-,index⟩ := index_of_marker homeAlt isVtol s marked
  refine ⟨marker,?_,marks⟩
  rw [index,← head?_drop,drop_of_tail split,head?_cons]

lemma index_zero_iff (unmarked : items.tail.any isMarker = false) :
    (findMissionLandStart homeAlt isVtol (items.map some) s).2.landStartIndex = 0 ↔
      items.tail.any (isLanding isVtol) = false ∧ s.landStartIndex = 0 := by
  rcases exists_firstGiving isVtol items.tail false with ⟨before,item,after,split,gave,first⟩ | none
  · have giving : FirstGiving isVtol before item := ⟨by simpa using gave,by simpa using first⟩
    have lands : items.tail.any (isLanding isVtol) := by
      rw [split,any_append,any_cons,Bool.or_eq_false_iff] at unmarked
      have gave := giving.given
      rw [unmarked.1,gives,Bool.false_and,Bool.or_false] at gave
      simp [split,gave]
    rw [index_of_unmarked homeAlt isVtol split giving unmarked s,lands]
    simp
  · have landless : items.tail.any (isLanding isVtol) = false := by
      refine any_eq_false.mpr fun item member => ?_
      obtain ⟨earlier,later,split⟩ := append_of_mem member
      simpa using (Bool.or_eq_false_iff.mp (none earlier item later split)).1
    rw [find_of_none homeAlt isVtol (by simpa using none) s,landless]
    simp [markerIndex_of_none _ unmarked]

lemma marker_of_followed_iff :
    ((∃ before marker between item after, items = before ++ marker::(between ++ item::after) ∧
      isMarker marker ∧ itemContainsPosition item) →
      ∃ marker, items[(findMissionLandStart homeAlt isVtol (items.map some) s).2.landStartIndex]? = some marker ∧
        isMarker marker) ↔ MarkerSeen isVtol items s := by
  cases marked : items.tail.any isMarker with
  | true => exact iff_of_true (fun _ => marker_at_index homeAlt isVtol items s marked) fun _ _ => .inl marked
  | false =>
    rw [MarkerSeen,marked]
    simp only [Bool.false_eq_true,false_or,← index_zero_iff homeAlt isVtol items s marked]
    generalize (findMissionLandStart homeAlt isVtol (items.map some) s).2.landStartIndex = index
    cases items with
    | nil => simp
    | cons first rest =>
      have unmarked : ∀ item ∈ rest, isMarker item = false := by simpa using marked
      constructor
      · intro seen marks contains
        obtain ⟨item,member,position⟩ := any_eq_true.mp contains
        obtain ⟨between,after,split⟩ := append_of_mem member
        obtain ⟨marker,place,marks⟩ := seen
          ⟨[],first,between,item,after,by rw [← split]; rfl,by simpa using marks,position⟩
        cases index with
        | zero => rfl
        | succ i => exact absurd marks (by simp [unmarked marker (mem_of_getElem? place)])
      · intro zero followed
        obtain ⟨before,marker,between,item,after,split,marks,position⟩ := followed
        cases before with
        | cons other before =>
          obtain ⟨_,rfl⟩ := List.cons.inj split
          exact absurd marks (by simp [unmarked marker (by simp)])
        | nil =>
          obtain ⟨rfl,rfl⟩ := List.cons.inj split
          rw [zero (by simpa using marks) (by simp [position])]
          exact ⟨first,rfl,marks⟩

end

/-- The landing start data are consistent exactly if no marker moves on from the position taken, and
the first item is not the only marker. -/
theorem consistent_iff (items : List (MissionItem K D)) (s : LandStart K D) :
    Consistent homeAlt isVtol items s ↔ NotMovedOn homeAlt isVtol items ∧ MarkerSeen isVtol items s := by
  rw [← position_of_found_iff homeAlt isVtol items s,← marker_of_followed_iff homeAlt isVtol items s]
  rfl

def landingThenMarker : List (MissionItem Int Int) :=
  [{MissionItem.zero with navCmd := MavCmd.navTakeoff.number},
   {MissionItem.zero with navCmd := MavCmd.navLand.number, lat := 1},
   {MissionItem.zero with navCmd := MavCmd.doLandStart.number},
   {MissionItem.zero with navCmd := MavCmd.navWaypoint.number, lat := 2}]

theorem not_consistent_landingThenMarker : ¬ Consistent 0 false landingThenMarker ⟨false,65535,⟨0,0,0⟩,⟨0,0,0⟩⟩ := by
  intro consistent
  have stored := consistent.1 (by decide)
  revert stored
  decide

end
end LandStart
end AerialManipulator
