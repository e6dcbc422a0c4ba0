import Uam.Geofence
import Uam.MissionAcks

/-! The areas of an uploaded fence. A polygon says with its first vertex how many it has; the upload
looks at each vertex alone. -/
namespace AerialManipulator
open List FenceData MissionSystem
open MissionFencePoint (ofItem)

section
variable {K D : Type}

def verticesDue (due : Nat) (item : MissionItem K D) : Nat :=
  if due = 0 then if isPolygonVertex item.navCmd then item.vertexCount-1 else 0 else due-1

structure PolygonInfo.RefersTo (area : PolygonInfo K) (store : MissionStore K D) (items : List (MissionItem K D)) :
    Prop where
  first : 1 ≤ area.datamanIndex
  last : area.datamanIndex+area.span ≤ items.length+1
  stored : ∀ k < area.span, ∃ item, items[area.datamanIndex+k-1]? = some item ∧
    store.fencePoint (area.datamanIndex+k) = some (.ofItem item)

/-- Whatever can be read and allocated, `_updateFence` ends, and its areas refer to the items. -/
def MissionStore.FenceFrom (store : MissionStore K D) (items : List (MissionItem K D)) : Prop :=
  ∀ statsRead pointRead allocated, let data : FenceData K D := .of store statsRead pointRead allocated
    data.updateFenceLoop (data.numFenceItems+1) 1 [] = some data.polygons ∧
      ∀ area ∈ data.polygons, area.RefersTo store items

lemma verticesDue_drop (due : Nat) (items : List (MissionItem K D)) : items.foldl verticesDue due =
    if due ≤ items.length then (items.drop due).foldl verticesDue 0 else due-items.length := by
  induction items generalizing due with
  | nil =>
    cases due with
    | zero => rfl
    | succ due => exact (if_neg (Nat.not_succ_le_zero due)).symm
  | cons item rest ih =>
    cases due with
    | zero => rfl
    | succ due =>
      have next : verticesDue (due+1) item = due := rfl
      rw [foldl_cons,next,ih,length_cons,drop_succ_cons]
      simp only [Nat.add_le_add_iff_right,Nat.add_sub_add_right]

def MissionItem.fenceSpan (item : MissionItem K D) : Nat := verticesDue 0 item+1

lemma area_ofItem (begins : (ofItem item).area currentSeq = some area) :
    area.datamanIndex = currentSeq ∧ area.span = item.fenceSpan := by
  have apart : isCircle item.navCmd → isPolygonVertex item.navCmd = false := by
    unfold isCircle isPolygonVertex mavCmdNavFenceCircleInclusion mavCmdNavFenceCircleExclusion
      mavCmdNavFencePolygonVertexInclusion mavCmdNavFencePolygonVertexExclusion
    grind
  unfold MissionFencePoint.area at begins
  split at begins
  next circle =>
    have alone : item.fenceSpan = 1 := by
      rw [MissionItem.fenceSpan,verticesDue,apart circle]
      rfl
    cases begins
    exact ⟨rfl,(if_pos circle).trans alone.symm⟩
  next circle =>
    split at begins
    next polygon =>
      rw [Bool.and_eq_true,decide_eq_true_eq] at polygon
      obtain ⟨vertex,nonzero⟩ := polygon
      have count : (ofItem item).extent = .vertexCount item.vertexCount := if_pos vertex
      have vertices : (ofItem item).extent.vertices = item.fenceSpan := by
        have due : item.fenceSpan = item.vertexCount-1+1 := congrArg (· + 1) (if_pos vertex)
        rw [count,FenceExtent.vertices] at nonzero ⊢
        omega
      cases begins
      exact ⟨rfl,(if_neg circle).trans vertices⟩
    · cases begins

lemma area_ofItem_none (none : (ofItem item).area currentSeq = none) : item.fenceSpan = 1 := by
  rw [MissionItem.fenceSpan,verticesDue,if_pos rfl]
  split
  next vertex =>
    have count : (ofItem item).extent = .vertexCount item.vertexCount := if_pos vertex
    have vertex : isPolygonVertex (ofItem item).navCmd := vertex
    unfold MissionFencePoint.area at none
    split at none
    · cases none
    · rw [vertex,count,FenceExtent.vertices] at none
      by_cases zero : item.vertexCount = 0
      · rw [zero]
      · simp [zero] at none
  · rfl

end

def FenceData.Holds {K D : Type} (data : FenceData K D) (items : List (MissionItem K D)) : Prop :=
  ∀ k (bound : k < items.length), data.point (k+1) = none ∨ data.point (k+1) = some (.ofItem items[k])

namespace FenceData
variable {K D : Type} {data : FenceData K D} {items : List (MissionItem K D)} {fuel n : Nat}
  {found polygons : List (PolygonInfo K)}

lemma updateFenceLoop_cases (holds : data.Holds items) (bound : n < items.length)
    (ended : data.updateFenceLoop (fuel+1) (n+1) found = some polygons) :
    polygons = found ∧ (data.numFenceItems ≤ n ∨ data.point (n+1) = none) ∨
      polygons = [] ∧ data.allocated found.length = false ∨
      (∃ area : PolygonInfo K, area.datamanIndex = n+1 ∧ area.span = items[n].fenceSpan ∧
        data.updateFenceLoop fuel (n + items[n].fenceSpan + 1) (found ++ [area]) = some polygons) ∨
      items[n].fenceSpan = 1 ∧ data.updateFenceLoop fuel (n+items[n].fenceSpan+1) found = some polygons := by
  rw [updateFenceLoop] at ended
  split at ended
  · rcases holds n bound with unread | read
    · rw [unread] at ended
      exact .inl ⟨(Option.some.inj ended).symm,.inr unread⟩
    rw [read,Option.elim_some] at ended
    cases begins : (ofItem items[n]).area (n+1) with
    | none =>
      rw [begins] at ended
      have span := area_ofItem_none begins
      rw [span]
      exact .inr (.inr (.inr ⟨rfl,ended⟩))
    | some area =>
      rw [begins,Option.elim_some] at ended
      obtain ⟨index,span⟩ := area_ofItem begins
      split at ended
      · rw [span,Nat.add_right_comm] at ended
        exact .inr (.inr (.inl ⟨area,index,span,ended⟩))
      next refused => exact .inr (.inl ⟨(Option.some.inj ended).symm,Bool.eq_false_iff.mpr refused⟩)
  next last => exact .inl ⟨(Option.some.inj ended).symm,.inl (by omega)⟩

lemma updateFenceLoop_last (counted : data.numFenceItems ≤ items.length) (last : items.length ≤ n)
    (ended : data.updateFenceLoop fuel (n+1) found = some polygons) : polygons = found := by
  cases fuel with
  | zero => cases ended
  | succ fuel =>
    rw [updateFenceLoop,if_neg (by omega)] at ended
    exact (Option.some.inj ended).symm

lemma due_drop (bound : n < items.length) : (items.drop n).foldl verticesDue 0 =
    if items[n].fenceSpan ≤ items.length-n then (items.drop (n+items[n].fenceSpan)).foldl verticesDue 0
    else items[n].fenceSpan-(items.length-n) := by
  have behind : n+1+verticesDue 0 items[n] = n+items[n].fenceSpan := Nat.add_right_comm ..
  rw [drop_eq_getElem_cons bound,foldl_cons,verticesDue_drop,length_drop,drop_drop,behind]
  rw [MissionItem.fenceSpan]
  split_ifs <;> first | rfl | omega

lemma inside_of_complete (holds : data.Holds items) (counted : data.numFenceItems ≤ items.length)
    (complete : (items.drop n).foldl verticesDue 0 = 0)
    (inside : ∀ area ∈ found, 1 ≤ area.datamanIndex ∧ area.datamanIndex+area.span ≤ items.length+1)
    (ended : data.updateFenceLoop fuel (n+1) found = some polygons) :
    ∀ area ∈ polygons, 1 ≤ area.datamanIndex ∧ area.datamanIndex+area.span ≤ items.length+1 := by
  induction fuel generalizing n found with
  | zero => cases ended
  | succ fuel ih =>
    by_cases bound : n < items.length
    · rw [due_drop bound] at complete
      split at complete
      next span =>
        rcases updateFenceLoop_cases holds bound ended with ⟨same,_⟩ | ⟨none,_⟩ | ⟨area,index,own,next⟩ | ⟨_,next⟩
        · rw [same]
          exact inside
        · rw [none]
          exact fun _ member => nomatch member
        · refine ih complete (fun other member => ?_) next
          rcases mem_append.mp member with before | new
          · exact inside other before
          · rw [mem_singleton.mp new,index,own]
            omega
        · exact ih complete inside next
      · omega
    · rw [updateFenceLoop_last counted (by omega) ended]
      exact inside

lemma complete_of_inside (holds : data.Holds items) (counted : data.numFenceItems = items.length)
    (read : ∀ k < items.length, data.point (k+1) ≠ none) (allocated : ∀ k, data.allocated k)
    (ended : data.updateFenceLoop fuel (n+1) found = some polygons) :
    found ⊆ polygons ∧ ((∀ area ∈ polygons, area.datamanIndex+area.span ≤ items.length+1) →
      (items.drop n).foldl verticesDue 0 = 0) := by
  induction fuel generalizing n found with
  | zero => cases ended
  | succ fuel ih =>
    by_cases bound : n < items.length
    · rw [due_drop bound]
      rcases updateFenceLoop_cases holds bound ended with
        ⟨_,last | unread⟩ | ⟨_,refused⟩ | ⟨area,index,own,next⟩ | ⟨alone,next⟩
      · omega
      · exact absurd unread (read n bound)
      · exact nomatch refused.symm.trans (allocated _)
      · obtain ⟨kept,rest⟩ := ih next
        refine ⟨fun other member => kept (mem_append_left _ member),fun inside => ?_⟩
        have within := inside area (kept (mem_append_right _ (mem_singleton.mpr rfl)))
        rw [index,own] at within
        rw [if_pos (by omega)]
        exact rest inside
      · obtain ⟨kept,rest⟩ := ih next
        refine ⟨kept,fun inside => ?_⟩
        rw [if_pos (by omega)]
        exact rest inside
    · rw [updateFenceLoop_last counted.le (by omega) ended,drop_eq_nil_of_le (by omega)]
      exact ⟨fun _ member => member,fun _ => rfl⟩

lemma updateFenceLoop_polygons (data : FenceData K D) :
    data.updateFenceLoop (data.numFenceItems+1) 1 [] = some data.polygons := by
  have ends : (data.updateFenceLoop (data.numFenceItems+1) 1 []).isSome :=
    data.ends_updateFenceLoop (by omega) (Nat.succ_pos _) []
  obtain ⟨areas,ended⟩ := Option.isSome_iff_exists.mp ends
  rw [polygons,ended]
  rfl

end FenceData

section
variable {K D : Type} {statics : MissionStatics} {store : MissionStore K D} {items : List (MissionItem K D)}

section
variable (delivers : Delivers (.of statics store) mavMissionTypeFence items)
include delivers

lemma Delivers.fence : (∃ stats, store.stats mavMissionTypeFence = some stats ∧ stats.numItems = items.length) ∨
      store.stats mavMissionTypeFence = none ∧ items.length = 0 := by
  have size : ((store.stats mavMissionTypeFence).map MissionStatsEntry.numItems).getD 0 = items.length := delivers.size
  cases read : store.stats mavMissionTypeFence with
  | none =>
    rw [read] at size
    exact .inr ⟨rfl,size.symm⟩
  | some stats =>
    rw [read] at size
    exact .inl ⟨stats,rfl,size⟩

lemma Delivers.fencePoint (bound : k < items.length) : store.fencePoint (k+1) = some (.ofItem items[k]) := by
  have stored : (store.fencePoint (k+1)).map MissionPoint.fence = some (.fence (.ofItem items[k])) :=
    delivers.stored k bound
  obtain ⟨point,read,same⟩ := Option.map_eq_some_iff.mp stored
  rw [read,MissionPoint.fence.inj same]

lemma Delivers.holds (statsRead : Bool)
    (pointRead allocated : Nat → Bool) : (of store statsRead pointRead allocated).Holds items := by
  intro k bound
  have point : (of store statsRead pointRead allocated).point (k+1) =
    if pointRead (k+1) then store.fencePoint (k+1) else none := rfl
  rw [point,delivers.fencePoint bound]
  split
  · exact .inr rfl
  · exact .inl rfl

lemma Delivers.counted (pointRead allocated : Nat → Bool) :
    (of store true pointRead allocated).numFenceItems = items.length := by
  have stats : (of store true pointRead allocated).numFenceItems =
    (store.stats mavMissionTypeFence).elim 0 MissionStatsEntry.numItems := rfl
  rw [stats]
  rcases delivers.fence with ⟨stats,read,count⟩ | ⟨read,count⟩
  · rw [read]
    exact count
  · rw [read]
    exact count.symm

lemma Delivers.fenceFrom_iff : store.FenceFrom items ↔ items.foldl verticesDue 0 = 0 := by
  constructor
  · intro fence
    obtain ⟨ended,refers⟩ := fence true (fun _ => true) fun _ => true
    have read : ∀ k < items.length, (of store true (fun _ => true) fun _ => true).point (k+1) ≠ none := by
      intro k bound
      have point : (of store true (fun _ => true) fun _ => true).point (k+1) = store.fencePoint (k+1) := rfl
      rw [point,delivers.fencePoint bound]
      exact fun none => nomatch none
    exact (complete_of_inside (delivers.holds _ _ _) (delivers.counted _ _) read (fun _ => rfl) ended).2
      fun area member => (refers area member).last
  · intro complete statsRead pointRead allocated
    have ended := (of store statsRead pointRead allocated).updateFenceLoop_polygons
    have counted : (of store statsRead pointRead allocated).numFenceItems ≤ items.length := by
      cases statsRead with
      | true => exact (delivers.counted ..).le
      | false => exact Nat.zero_le _
    refine ⟨ended,fun area member => ?_⟩
    have complete : (items.drop 0).foldl verticesDue 0 = 0 := complete
    obtain ⟨first,last⟩ := inside_of_complete (delivers.holds _ _ _) counted complete
      (forall_mem_nil _) ended area member
    refine ⟨first,last,fun k bound => ?_⟩
    have place : area.datamanIndex+k-1 < items.length := by omega
    have seq : area.datamanIndex+k-1+1 = area.datamanIndex+k := by omega
    have point := delivers.fencePoint place
    rw [seq] at point
    exact ⟨_,getElem?_eq_getElem place,point⟩

end
end

namespace MissionHistory
variable {K D : Type} [Zero K] [Zero D]

/-- After an accepted upload every area in force has its items, exactly if the last polygon has all its vertices. -/
theorem uploaded_fence_iff (setup : MissionSetup K D) (store : MissionStore K D) (stateRead fenceRead safeRead : Bool)
    (events : List (MissionEvent Unit K)) (e : MissionEvent Unit K) (item : MissionItem K D)
    (accepted : (events.foldl (step setup) (start store stateRead fenceRead safeRead)).system.mark setup e =
      .completed item)
    (fence : ((events.foldl (step setup) (start store stateRead fenceRead safeRead)).system.manager ()).missionType =
      mavMissionTypeFence) :
    let s := (events ++ [e]).foldl (step setup) (start store stateRead fenceRead safeRead)
    s.system.store.FenceFrom (s.record ()).items ↔ (s.record ()).items.foldl verticesDue 0 = 0 := by
  have accounted : (start store stateRead fenceRead safeRead : MissionHistory Unit K D).Accounted :=
    ⟨fun busy => (nomatch busy),fun _ => rfl,fun _ _ none => (nomatch none)⟩
  have before : (events.foldl (step setup) (start store stateRead fenceRead safeRead)).Accounted :=
    Runs.foldl_preserved Accounted (fun s e accounted => accounted_step accounted e) accounted events
  rw [List.foldl_append]
  generalize events.foldl (step setup) (start store stateRead fenceRead safeRead) = s at before accepted fence
  have after : (s.step setup e).Accounted := accounted_step before e
  have record : (s.step setup e).record () = s.recordAfter setup e := by rw [record_step,if_pos rfl]
  have kept : ((s.step setup e).record ()).accepted = some (mavMissionTypeFence,(s.step setup e).system.lists) := by
    rw [record,accepted_recordAfter,accepted,fence]
    rfl
  exact (after.delivered _ _ kept).fenceFrom_iff

/-! Three vertices are uploaded, of a polygon that has three or four. -/

def vertices : MissionSetup Int Int where
  layout := datamanLayout
  sysid := 1
  compid := 1
  parseMavlinkMissionItem := fun intMode wp => ⟨mavMissionAccepted,intMode,
    {(.zero : MissionItem Int Int) with navCmd := wp.command, vertexCount := wp.param1.toNat}⟩

def vertex (count : Int) (seq : Nat) : MissionEvent Unit Int :=
  .message () station (.missionItemInt ⟨seq,mavMissionTypeFence,mavFrameGlobal,
    mavCmdNavFencePolygonVertexInclusion,false,true,count,0,0,0,0,0,0⟩) (working (seq+2))

def twoVertices (count : Int) : List (MissionEvent Unit Int) :=
  [.message () station (.missionCount 3 mavMissionTypeFence)
    (working 1),vertex count 0,vertex count 1]

theorem uploaded_fence_triangle :
    let s := (twoVertices 3 ++ [vertex 3 2]).foldl (step vertices) (start emptyStore true true true)
    s.system.store.FenceFrom (s.record ()).items ↔ (s.record ()).items.foldl verticesDue 0 = 0 :=
  uploaded_fence_iff vertices emptyStore true true true (twoVertices 3) (vertex 3 2)
    { (.zero : MissionItem Int Int) with navCmd := mavCmdNavFencePolygonVertexInclusion, vertexCount := 3 } rfl rfl

/-- The fourth vertex was never sent: the area in force reaches behind the upload. -/
theorem uploaded_fence_open :
    let s := (twoVertices 4).foldl (step vertices) (start emptyStore true true true)
    (∃ item, s.system.mark vertices (vertex 4 2) = .completed item) ∧
      (s.system.manager ()).missionType = mavMissionTypeFence ∧
      ¬ (s.step vertices (vertex 4 2)).system.store.FenceFrom ((s.step vertices (vertex 4 2)).record ()).items := by
  refine ⟨⟨_,rfl⟩,rfl,fun fence => ?_⟩
  have refers := (fence true (fun _ => true) fun _ => true).2
    ⟨mavCmdNavFencePolygonVertexInclusion,1,.vertexCount 4⟩ (List.mem_singleton.mpr rfl)
  exact absurd refers.last (by decide +kernel)

end MissionHistory
end AerialManipulator
