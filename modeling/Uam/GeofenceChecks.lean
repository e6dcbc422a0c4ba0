import Uam.Library.Runs
import Uam.MissionFeasibility

/-! Checks of planned items among those of the vehicle. Both share a counter, and the first circle
that either meets fixes the projection for both. -/
namespace AerialManipulator
open Numeric Option Runs

namespace Geofence

section
variable {R : Type} [Field R] [LinearOrder R] (geo : Geodesy R) (params : GeofenceParams R)
  (data : FenceData (Flt R) (Flt R)) (around : FenceSurroundings R) (g : Geofence R) (lat lon altitude : Flt R)

def consults : Bool :=
  isCloserThanMaxDistToHome geo params around lat lon altitude && isBelowMaxAltitude params around altitude

def inside : Bool := (g.insideFence geo params data {around with locked := true} lat lon altitude).1

def projected (area : PolygonInfo (Flt R)) : Bool :=
  isCircle area.fenceType && (data.point area.datamanIndex).any fun point => supportedFrame point.frame

/-- The areas and the projection are fixed, and the counter is off, or stays zero, or has reached its limit. -/
def neutral : Bool :=
  (!consults geo params around lat lon altitude ||
    around.locked && (g.projectionReference.isSome || !(g.refresh data).polygons.any (projected data))) &&
  (decide (params.count ≤ 0) ||
    if g.inside geo params data around lat lon altitude then g.outsideCounter = 0 else params.count ≤ g.outsideCounter)

end

variable {R : Type} {data : FenceData (Flt R) (Flt R)} {g g' : Geofence R}

section
variable (data g)

lemma refresh_projectionReference : (g.refresh data).projectionReference = g.projectionReference := by
  unfold refresh
  split <;> rfl

lemma refresh_altitudeMin : (g.refresh data).altitudeMin = g.altitudeMin := by
  unfold refresh
  split <;> rfl

lemma refresh_altitudeMax : (g.refresh data).altitudeMax = g.altitudeMax := by
  unfold refresh
  split <;> rfl

end

lemma refresh_polygons (counter : g.updateCounter = g'.updateCounter) (polygons : g.polygons = g'.polygons) :
    (g.refresh data).polygons = (g'.refresh data).polygons := by
  unfold refresh
  rw [counter]
  split
  · rfl
  · exact polygons

lemma refresh_refresh : (g.refresh data).refresh data = g.refresh data := by
  cases read : data.stats with
  | none => simp [refresh,read]
  | some stats =>
    by_cases same : g.updateCounter = stats.updateCounter
    · simp [refresh,read,same]
    · simp [refresh,updateFence,read,same]

structure SameFence (data : FenceData (Flt R) (Flt R)) (g g' : Geofence R) : Prop where
  polygons : (g.refresh data).polygons = (g'.refresh data).polygons
  reference : g.projectionReference = g'.projectionReference
  altitudeMin : g.altitudeMin = g'.altitudeMin
  altitudeMax : g.altitudeMax = g'.altitudeMax

lemma SameFence.refl : SameFence data g g := ⟨rfl,rfl,rfl,rfl⟩

lemma SameFence.refresh : SameFence data (g.refresh data) g where
  polygons := congrArg Geofence.polygons refresh_refresh
  reference := refresh_projectionReference data g
  altitudeMin := refresh_altitudeMin data g
  altitudeMax := refresh_altitudeMax data g

lemma SameFence.trans (first : SameFence data g g') (second : SameFence data g' g'') : SameFence data g g'' where
  polygons := first.polygons.trans second.polygons
  reference := first.reference.trans second.reference
  altitudeMin := first.altitudeMin.trans second.altitudeMin
  altitudeMax := first.altitudeMax.trans second.altitudeMax

lemma SameFence.symm (same : SameFence data g g') : SameFence data g' g where
  polygons := same.polygons.symm
  reference := same.reference.symm
  altitudeMin := same.altitudeMin.symm
  altitudeMax := same.altitudeMax.symm

lemma SameFence.setOutsideCounter (count : Nat) : SameFence data (g.setOutsideCounter count) g where
  polygons := refresh_polygons rfl rfl
  reference := rfl
  altitudeMin := rfl
  altitudeMax := rfl

variable [Field R] [LinearOrder R] (geo : Geodesy R) {params : GeofenceParams R} (around : FenceSurroundings R)
  (lat lon altitude : Flt R)

lemma reference_checkArea {verdict : AreaVerdict R} (fixed : verdict.reference.isSome ∨ projected data area = false) :
    (checkArea geo data lat lon verdict area).reference = verdict.reference := by
  have reference : (checkArea geo data lat lon verdict area).reference =
      (insideArea geo data lat lon area verdict.reference).2 := by
    unfold checkArea
    split <;> rfl
  rw [reference,insideArea]
  split
  next circle =>
    rw [insideCircle]
    rw [projected,circle,Bool.true_and] at fixed
    cases read : data.point area.datamanIndex with
    | none => rfl
    | some point =>
      rw [read,any_some] at fixed
      rw [elim_some]
      split
      next supported =>
        rcases fixed with fixed | unsupported
        · obtain ⟨center,known⟩ := isSome_iff_exists.mp fixed
          rw [known]
          rfl
        · exact nomatch supported.symm.trans unsupported
      · rfl
  · rfl

lemma reference_checkAreas {areas : List (PolygonInfo (Flt R))} {verdict : AreaVerdict R}
    (fixed : verdict.reference.isSome ∨ areas.any (projected data) = false) :
    (areas.foldl (checkArea geo data lat lon) verdict).reference = verdict.reference := by
  induction areas generalizing verdict with
  | nil => rfl
  | cons area rest ih =>
    rw [List.any_cons,Bool.or_eq_false_iff] at fixed
    have first := reference_checkArea geo lat lon (fixed.imp_right And.left)
    rw [List.foldl_cons,ih (by rw [first]; exact fixed.imp_right And.right),first]

lemma SameFence.verdict (same : SameFence data g g') :
    (g.refresh data).verdict geo data lat lon = (g'.refresh data).verdict geo data lat lon := by
  unfold Geofence.verdict
  rw [same.polygons,refresh_projectionReference,refresh_projectionReference,same.reference]

omit [Field R] in
lemma SameFence.altitudeViolated (same : SameFence data g g') :
    (g.refresh data).altitudeViolated altitude = (g'.refresh data).altitudeViolated altitude := by
  unfold Geofence.altitudeViolated
  rw [refresh_altitudeMin,refresh_altitudeMin,refresh_altitudeMax,refresh_altitudeMax,same.altitudeMin,same.altitudeMax]

omit [Field R] [LinearOrder R] in
lemma SameFence.setReference (same : SameFence data g g') (reference : Option (Flt R × Flt R)) :
    SameFence data (g.setReference reference) (g'.setReference reference) where
  polygons := by
    have own (g : Geofence R) : ((g.setReference reference).refresh data).polygons = (g.refresh data).polygons :=
      refresh_polygons rfl rfl
    rw [own,own]
    exact same.polygons
  reference := rfl
  altitudeMin := same.altitudeMin
  altitudeMax := same.altitudeMax

lemma SameFence.isInsidePolygonOrCircle (same : SameFence data g g') :
    (g.isInsidePolygonOrCircle geo data around lat lon altitude).1 =
        (g'.isInsidePolygonOrCircle geo data around lat lon altitude).1 ∧
      SameFence data (g.isInsidePolygonOrCircle geo data around lat lon altitude).2
        (g'.isInsidePolygonOrCircle geo data around lat lon altitude).2 := by
  have loaded : SameFence data (g.refresh data) (g'.refresh data) :=
    (SameFence.refresh.trans same).trans SameFence.refresh.symm
  unfold Geofence.isInsidePolygonOrCircle
  dsimp only
  rw [same.polygons,same.altitudeViolated altitude,same.verdict geo lat lon]
  split_ifs
  · exact ⟨rfl,loaded⟩
  · exact ⟨rfl,loaded⟩
  · exact ⟨rfl,loaded.setReference _⟩
  · exact ⟨rfl,same⟩

lemma SameFence.insideFence (params : GeofenceParams R) (same : SameFence data g g') :
    (g.insideFence geo params data around lat lon altitude).1 =
      (g'.insideFence geo params data around lat lon altitude).1 ∧
      SameFence data (g.insideFence geo params data around lat lon altitude).2
        (g'.insideFence geo params data around lat lon altitude).2 := by
  unfold Geofence.insideFence
  split
  · exact same.isInsidePolygonOrCircle geo around lat lon altitude
  · exact ⟨rfl,same⟩

/-- No later check can tell two fences apart: a counter at its limit may be higher. -/
structure Alike (params : GeofenceParams R) (data : FenceData (Flt R) (Flt R)) (g g' : Geofence R) : Prop where
  fence : SameFence data g g'
  counter : g.outsideCounter = g'.outsideCounter ∨ params.count ≤ g.outsideCounter ∧ params.count ≤ g'.outsideCounter

omit [Field R] [LinearOrder R] in
lemma Alike.refl : Alike params data g g := ⟨SameFence.refl,.inl rfl⟩

omit [Field R] [LinearOrder R] in
lemma Alike.trans (first : Alike params data g g') (second : Alike params data g' g'') : Alike params data g g'' := by
  refine ⟨first.fence.trans second.fence,?_⟩
  have before := first.counter
  have after := second.counter
  omega

lemma Alike.checkAll (alike : Alike params data g g') :
    (g.checkAll geo params data around lat lon altitude).1 = (g'.checkAll geo params data around lat lon altitude).1 ∧
      Alike params data (g.checkAll geo params data around lat lon altitude).2
        (g'.checkAll geo params data around lat lon altitude).2 := by
  obtain ⟨inside,fence⟩ := alike.fence.insideFence geo around lat lon altitude params
  have counters (count count' : Nat) : SameFence data
      ((g.insideFence geo params data around lat lon altitude).2.setOutsideCounter count)
      ((g'.insideFence geo params data around lat lon altitude).2.setOutsideCounter count') :=
    ((SameFence.setOutsideCounter count).trans fence).trans (SameFence.setOutsideCounter count').symm
  have counter := alike.counter
  unfold Geofence.checkAll
  dsimp only
  rw [inside]
  split
  · exact ⟨rfl,counters 0 0,.inl rfl⟩
  refine ⟨decide_eq_decide.mpr ?_,counters _ _,?_⟩
  · omega
  · change g.outsideCounter+1 = g'.outsideCounter+1 ∨
      params.count ≤ (g.outsideCounter+1 : Nat) ∧ params.count ≤ (g'.outsideCounter+1 : Nat)
    omega

lemma SameFence.inside (same : SameFence data g g') :
    g.inside geo params data around lat lon altitude = g'.inside geo params data around lat lon altitude :=
  (same.insideFence geo _ lat lon altitude _).1

lemma sameFence_isInsidePolygonOrCircle
    (fixed : g.projectionReference.isSome ∨ (g.refresh data).polygons.any (projected data) = false) :
    SameFence data (g.isInsidePolygonOrCircle geo data around lat lon altitude).2 g := by
  have kept : ((g.refresh data).verdict geo data lat lon).reference = (g.refresh data).projectionReference :=
    reference_checkAreas geo lat lon (fixed.imp_left fun known => by rw [refresh_projectionReference]; exact known)
  unfold Geofence.isInsidePolygonOrCircle
  dsimp only
  rw [kept]
  split_ifs
  · exact SameFence.refresh
  · exact SameFence.refresh
  · exact SameFence.refresh
  · exact SameFence.refl

lemma neutral_checkAll (neutral : g.neutral geo params data around lat lon altitude) :
    (g.checkAll geo params data around lat lon altitude).1 = g.inside geo params data around lat lon altitude ∧
      Alike params data (g.checkAll geo params data around lat lon altitude).2 g := by
  obtain ⟨areas,counter⟩ := Bool.and_eq_true_iff.mp neutral
  have found : g.insideFence geo params data {around with locked := true} lat lon altitude =
        g.insideFence geo params data around lat lon altitude ∧
      SameFence data (g.insideFence geo params data around lat lon altitude).2 g := by
    cases asked : consults geo params around lat lon altitude with
    | false =>
      have answer (locked : Bool) : g.insideFence geo params data {around with locked := locked} lat lon altitude =
        (false,g) := if_neg (Bool.eq_false_iff.mp asked)
      have own := answer around.locked
      rw [answer true,own]
      exact ⟨rfl,SameFence.refl⟩
    | true =>
      simp only [asked,Bool.not_true,Bool.false_or,Bool.and_eq_true,Bool.or_eq_true,Bool.not_eq_true'] at areas
      have same : ({around with locked := true} : FenceSurroundings R) = around := by rw [← areas.1]
      have answer : g.insideFence geo params data around lat lon altitude =
        g.isInsidePolygonOrCircle geo data around lat lon altitude := if_pos asked
      rw [same,answer]
      exact ⟨rfl,sameFence_isInsidePolygonOrCircle geo around lat lon altitude areas.2⟩
  obtain ⟨answer,fence⟩ := found
  rw [inside,answer] at counter ⊢
  have reset (count : Nat) :
      SameFence data ((g.insideFence geo params data around lat lon altitude).2.setOutsideCounter count) g :=
    (SameFence.setOutsideCounter count).trans fence
  simp only [Bool.or_eq_true,decide_eq_true_eq] at counter
  unfold Geofence.checkAll
  dsimp only
  split
  next inside =>
    rw [if_pos inside,decide_eq_true_eq] at counter
    refine ⟨inside.symm,reset 0,?_⟩
    change 0 = g.outsideCounter ∨ params.count ≤ (0 : Nat) ∧ params.count ≤ g.outsideCounter
    omega
  next outside =>
    rw [if_neg outside,decide_eq_true_eq] at counter
    refine ⟨?_,reset _,?_⟩
    · rw [Bool.eq_false_iff.mpr outside,decide_eq_false_iff_not]
      omega
    · change g.outsideCounter+1 = g.outsideCounter ∨
        params.count ≤ (g.outsideCounter+1 : Nat) ∧ params.count ≤ g.outsideCounter
      omega

end Geofence

namespace MissionFeasibilityChecker
variable {R : Type} [Field R] [LinearOrder R] (geo : Geodesy R) (params : GeofenceParams R)
  (data : FenceData (Flt R) (Flt R)) (around : FenceSurroundings R)

def neutralLoop : Geofence R → List (FenceRead R) → Bool
  | _,[] => true
  | g,read::rest =>
    read.item.elim true fun missionitem =>
      if missionitem.altitudeIsRelative && !around.homeGlobalPositionValid then true
      else if itemContainsPosition missionitem then
        let item := fenceItem around missionitem
        let checked := g.checkItem geo params data {around with locked := read.locked} item
        g.neutral geo params data {around with locked := read.locked} item.lat item.lon item.altitude &&
          (!checked.1 || neutralLoop checked.2 rest)
      else neutralLoop g rest

def Leaves (g : Geofence R) (mission : List (FenceRead R)) : Prop :=
  ∃ read ∈ mission, ∃ missionitem, read.item = some missionitem ∧ itemContainsPosition missionitem = true ∧
    let item := fenceItem around missionitem
    g.inside geo params data around item.lat item.lon item.altitude = false

variable {geo params data around}

lemma Leaves.rest {read : FenceRead R} {rest : List (FenceRead R)} {g : Geofence R}
    {missionitem : MissionItem (Flt R) (Flt R)} (leaves : Leaves geo params data around g (read::rest))
    (found : read.item = some missionitem) (stays : itemContainsPosition missionitem →
      let item := fenceItem around missionitem
      g.inside geo params data around item.lat item.lon item.altitude) :
    Leaves geo params data around g rest := by
  obtain ⟨other,member,item,known,located,outside⟩ := leaves
  have elsewhere : other ≠ read := by
    rintro rfl
    cases found.symm.trans known
    exact nomatch (stays located).symm.trans outside
  exact ⟨other,(List.mem_cons.mp member).resolve_left elsewhere,item,known,located,outside⟩

lemma Leaves.congr (same : Geofence.SameFence data g g')
    (leaves : Leaves geo params data around g' mission) : Leaves geo params data around g mission := by
  obtain ⟨read,member,item,known,located,outside⟩ := leaves
  exact ⟨read,member,item,known,located,(same.inside ..).trans outside⟩

lemma neutral_checkGeofenceLoop (i : Nat) (neutral : neutralLoop geo params data around g mission) :
    (Leaves geo params data around g mission → (checkGeofenceLoop geo params data around i g mission).1.isOk = false) ∧
      Geofence.Alike params data (checkGeofenceLoop geo params data around i g mission).2 g := by
  induction mission generalizing g i with
  | nil => exact ⟨fun ⟨_,member,_⟩ => (nomatch member),.refl⟩
  | cons read rest ih =>
    rw [neutralLoop] at neutral
    rw [checkGeofenceLoop]
    cases found : read.item with
    | none => exact ⟨fun _ => rfl,.refl⟩
    | some missionitem =>
      rw [found,elim_some] at neutral
      rw [elim_some]
      split
      · exact ⟨fun _ => rfl,.refl⟩
      next valid =>
        rw [if_neg valid] at neutral
        split
        next position =>
          rw [if_pos position] at neutral
          obtain ⟨here,later⟩ := Bool.and_eq_true_iff.mp neutral
          obtain ⟨right,alike⟩ := Geofence.neutral_checkAll _ _ _ _ _ here
          change (g.checkItem geo params data {around with locked := read.locked}
            (fenceItem around missionitem)).1 = _ at right
          dsimp only
          split
          next passed =>
            rw [passed,Bool.not_true,Bool.false_or] at later
            obtain ⟨rejects,after⟩ := ih (i+1) later
            refine ⟨fun leaves => rejects ?_,after.trans alike⟩
            exact (leaves.rest found fun _ => right.symm.trans passed).congr alike.fence
          · exact ⟨fun _ => rfl,alike⟩
        next position =>
          rw [if_neg position] at neutral
          obtain ⟨rejects,after⟩ := ih (i+1) neutral
          exact ⟨fun leaves => rejects (leaves.rest found fun located => absurd located position),after⟩

end MissionFeasibilityChecker

inductive FenceCheck (R : Type)
  | vehicle (around : FenceSurroundings R) (position : VehiclePosition R)
  | item (around : FenceSurroundings R) (missionitem : MissionItem (Flt R) (Flt R))
  | mission (around : FenceSurroundings R) (reads : List (FenceRead R))

namespace Geofence
open MissionFeasibilityChecker
variable {R : Type} [Field R] [LinearOrder R] (geo : Geodesy R) (params : GeofenceParams R)
  (data : FenceData (Flt R) (Flt R))

def answer (g : Geofence R) : FenceCheck R → Bool × Geofence R
  | .vehicle around position => g.checkVehicle geo params data around position
  | .item around missionitem => g.checkItem geo params data around missionitem
  | .mission around reads =>
    ((checkGeofence geo params data around g reads).1.isOk,(checkGeofence geo params data around g reads).2)

def next (g : Geofence R) (check : FenceCheck R) : Geofence R := (g.answer geo params data check).2

def Neutral (g : Geofence R) : FenceCheck R → Prop
  | .vehicle _ _ => True
  | .item around item => g.neutral geo params data around item.lat item.lon item.altitude = true
  | .mission around reads => (isHomeRequired params && !around.homeGlobalPositionValid ||
      neutralLoop geo params data around g reads) = true

instance (g : Geofence R) : (check : FenceCheck R) → Decidable (g.Neutral geo params data check)
  | .vehicle _ _ => .isTrue trivial
  | .item _ _ => inferInstanceAs (Decidable (_ = true))
  | .mission _ _ => inferInstanceAs (Decidable (_ = true))

def Right (g : Geofence R) : FenceCheck R → Prop
  | .vehicle _ _ => True
  | .item around item => (g.checkItem geo params data around item).1 = false ↔
      g.inside geo params data around item.lat item.lon item.altitude = false
  | .mission around reads => Leaves geo params data around g reads →
      (checkGeofence geo params data around g reads).1.isOk = false

def Traceless (g : Geofence R) : FenceCheck R → Prop
  | .vehicle _ _ => True
  | check => ∀ later, outputs (answer geo params data) (g.next geo params data check) later =
      outputs (answer geo params data) g later

variable {geo params data} {g g' : Geofence R}

lemma Alike.checkGeofenceLoop (geo : Geodesy R) (around : FenceSurroundings R) (alike : Alike params data g g')
    (i : Nat) (mission : List (FenceRead R)) :
    (checkGeofenceLoop geo params data around i g mission).1 =
      (checkGeofenceLoop geo params data around i g' mission).1 ∧
      Alike params data (checkGeofenceLoop geo params data around i g mission).2
        (checkGeofenceLoop geo params data around i g' mission).2 := by
  induction mission generalizing g g' i with
  | nil => exact ⟨rfl,alike⟩
  | cons read rest ih =>
    rw [MissionFeasibilityChecker.checkGeofenceLoop,MissionFeasibilityChecker.checkGeofenceLoop]
    cases read.item with
    | none => exact ⟨rfl,alike⟩
    | some missionitem =>
      rw [elim_some,elim_some]
      obtain ⟨same,after⟩ := alike.checkAll geo {around with locked := read.locked} (fenceItem around missionitem).lat
        (fenceItem around missionitem).lon (fenceItem around missionitem).altitude
      unfold checkItem
      dsimp only
      rw [same]
      split_ifs
      · exact ⟨rfl,alike⟩
      · exact ih after _
      · exact ⟨rfl,after⟩
      · exact ih alike _

lemma Alike.answer (alike : Alike params data g g') (check : FenceCheck R) :
    (g.answer geo params data check).1 = (g'.answer geo params data check).1 ∧
      Alike params data (g.answer geo params data check).2 (g'.answer geo params data check).2 := by
  cases check with
  | vehicle around position | item around missionitem => exact alike.checkAll geo around _ _ _
  | mission around reads =>
    have answered := alike.checkGeofenceLoop geo around 0 reads
    unfold Geofence.answer checkGeofence
    dsimp only
    split
    · exact ⟨rfl,alike⟩
    · exact ⟨congrArg Except.isOk answered.1,answered.2⟩

lemma neutral_answer (neutral : g.Neutral geo params data check) :
    g.Right geo params data check ∧ g.Traceless geo params data check := by
  have traceless (alike : Alike params data (g.next geo params data check) g) :
      ∀ later, outputs (Geofence.answer geo params data) (g.next geo params data check) later =
        outputs (Geofence.answer geo params data) g later :=
    outputs_eq (Alike params data) (fun _ _ check alike => alike.answer check) alike
  cases check with
  | vehicle => exact ⟨trivial,trivial⟩
  | item around item =>
    obtain ⟨right,alike⟩ := neutral_checkAll geo around item.lat item.lon item.altitude neutral
    refine ⟨?_,traceless alike⟩
    rw [Right,← right]
    exact Iff.rfl
  | mission around reads =>
    have checked : (Leaves geo params data around g reads →
          (checkGeofence geo params data around g reads).1.isOk = false) ∧
        Alike params data (checkGeofence geo params data around g reads).2 g := by
      unfold checkGeofence
      split
      · exact ⟨fun _ => rfl,.refl⟩
      next known =>
        rcases Bool.or_eq_true_iff.mp neutral with required | neutral
        · exact absurd required known
        · exact neutral_checkGeofenceLoop 0 neutral
    exact ⟨checked.1,traceless checked.2⟩

/-- If the item checks are neutral, an item is refused exactly if it lies outside the fence, so is
its mission, and later checks do not change. -/
theorem item_checks_exact (g : Geofence R) (checks : List (FenceCheck R))
    (neutral : Along (next geo params data) (Neutral geo params data) g checks) :
    Along (next geo params data) (fun g check => g.Right geo params data check ∧ g.Traceless geo params data check)
      g checks :=
  along_of_invariant (fun _ => True) (fun _ _ _ _ => trivial) (fun _ _ neutral _ => neutral_answer neutral)
    neutral trivial

/-! A fence that is only a height of 100 m above home. -/

def level : Geodesy ℚ := ⟨fun _ _ _ _ _ _ => .fin 0,fun _ _ _ => ⟨.fin 0,.fin 0⟩⟩

def ceiling (count : Int) : GeofenceParams ℚ := ⟨1,gfAltModeWgs84,gfSourceGlobalpos,count,.fin 0,.fin 100⟩

def noAreas : FenceData (Flt ℚ) (Flt ℚ) := ⟨none,fun _ => none,fun _ => true⟩

def atHome : FenceSurroundings ℚ := ⟨true,true,true,.fin 0,.fin 0,.fin 0⟩

def vehicleAt (altitude : ℚ) : FenceCheck ℚ := .vehicle atHome ⟨.fin 0,.fin 0,.fin altitude,0,0,0,.fin altitude⟩

def waypointAt (altitude : ℚ) : MissionItem (Flt ℚ) (Flt ℚ) :=
  {(.zero : MissionItem (Flt ℚ) (Flt ℚ)) with navCmd := MavCmd.navWaypoint.number, altitude := .fin altitude}

theorem item_checks_exact_climbing :
    let checks := [.item atHome (waypointAt 50),vehicleAt 150,vehicleAt 150,.item atHome (waypointAt 150),
      .mission atHome [⟨some (waypointAt 150),true⟩]]
    Along (next level (ceiling 2) noAreas) (Neutral level (ceiling 2) noAreas) (start noAreas) checks ∧
      Along (next level (ceiling 2) noAreas)
        (fun g check => g.Right level (ceiling 2) noAreas check ∧ g.Traceless level (ceiling 2) noAreas check)
        (start noAreas) checks :=
  ⟨by decide +kernel,item_checks_exact _ _ (by decide +kernel)⟩

/-- With a count of one, a waypoint above the height passes, and so does its mission; the
vehicle is then reported at once. -/
theorem item_checks_counted : ¬ (start noAreas).Right level (ceiling 1) noAreas (.item atHome (waypointAt 150)) ∧
      ¬ (start noAreas).Right level (ceiling 1) noAreas (.mission atHome [⟨some (waypointAt 150),true⟩]) ∧
      ¬ (start noAreas).Traceless level (ceiling 1) noAreas (.item atHome (waypointAt 150)) := by
  refine ⟨fun right => ?_,fun right => ?_,fun traceless => ?_⟩
  · exact absurd (right.mpr (by decide +kernel)) (by decide +kernel)
  · exact absurd (right ⟨_,List.mem_singleton.mpr rfl,_,rfl,rfl,by decide +kernel⟩) (by decide +kernel)
  · exact absurd (traceless [vehicleAt 150]) (by decide +kernel)

end Geofence
end AerialManipulator
