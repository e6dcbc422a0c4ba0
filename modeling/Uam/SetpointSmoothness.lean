import Uam.SquareSetpoint

/-! How far the published setpoints move. While the clock goes on the limits of the differentiator
bound every move; otherwise it jumps to its target. -/
namespace AerialManipulator
open Numeric TrackingDifferentiator SquareParams Runs Flt
variable {K : Type*} [Field K] [LinearOrder K]

inductive SquareEvent (K : Type*) where
  | poseCb (position : Vector3 (Flt K))
  | stateCb (armed : Bool)
  | iterate (now : SquareClock K)

structure SquareRun (K : Type*) where
  node : SquareNode K
  vehicle : Vehicle K
  publishedAt : K

namespace SquareRun
variable [Libm K]

def init (p : SquareParams K) (setAt publishedAt : K) : SquareRun K := ⟨.init p setAt,.init,publishedAt⟩

def step (p : SquareParams K) (r : SquareRun K) : SquareEvent K → SquareRun K
  | .poseCb position => {r with vehicle := r.vehicle.poseCb position}
  | .stateCb armed => {r with vehicle := r.vehicle.stateCb armed}
  | .iterate now => {r with node := r.node.iterate p r.vehicle now, publishedAt := now.stamp}

def InOrder (r : SquareRun K) : SquareEvent K → Prop
  | .iterate now => r.publishedAt ≤ now.start ∧ now.start ≤ now.check ∧ now.check ≤ now.enabled ∧
      now.enabled ≤ now.elapsed ∧ now.elapsed ≤ now.phase ∧ now.phase ≤ now.stamp
  | _ => True

def Smooth (p : SquareParams K) (r : SquareRun K) : SquareEvent K → Prop
  | .iterate now => ∀ i,
      (((r.node.iterate p r.vehicle now).td.position.get i-r.node.td.position.get i).abs ≤
        p.tdVelLimit * .fin (now.stamp - r.publishedAt)) ∧
      ((r.node.iterate p r.vehicle now).td.velocity.get i-r.node.td.velocity.get i).abs ≤
        p.tdAccelLimit * .fin (now.stamp - r.publishedAt)
  | _ => True

/-- The first corner is finite, and where no time has passed the differentiator stands at the target. -/
def StandsWhenStopped (p : SquareParams K) (r : SquareRun K) : SquareEvent K → Prop
  | .iterate now =>
      let s := r.node.activate p r.vehicle now
      p.firstCorner.isFinite = true ∧ (now.stamp = s.lastSetpointTime → s.td = resetTd (s.proceed p now).1)
  | _ => True

end SquareRun

omit [Field K] in
@[simp] lemma stdMin_fin_fin (a b : K) : stdMin (.fin a) (.fin b) = (.fin (min a b) : Flt K) := by
  unfold stdMin
  split
  next less => rw [min_eq_right (le_of_lt less)]
  next more => rw [min_eq_left (not_lt.mp more)]

omit [Field K] in
@[simp] lemma stdMax_fin_fin (a b : K) : stdMax (.fin a) (.fin b) = (.fin (max a b) : Flt K) := by
  unfold stdMax
  split
  next less => rw [max_eq_right (le_of_lt less)]
  next more => rw [max_eq_left (not_lt.mp more)]

lemma stdMax_fin (positive : 0 < bound) (x : Flt K) : ∃ l, stdMax (.fin bound) x = .fin l ∧ 0 < l := by
  unfold stdMax
  split
  next less =>
    obtain ⟨l,rfl⟩ := isFinite_iff.mp (isFinite_of_lt less).2
    exact ⟨l,rfl,positive.trans less⟩
  · exact ⟨bound,rfl,positive⟩

variable [IsStrictOrderedRing K]

lemma clampValue_fin (positive : 0 < l) (x : Flt K) : ∃ v, clampValue x (.fin l) = .fin v ∧ |v| ≤ l := by
  have open_ : ¬(fin l : Flt K) ≤ 0 := not_le.mpr positive
  obtain ⟨m,least,upper⟩ : ∃ m, stdMin (.fin l) x = .fin m ∧ m ≤ l := by
    unfold stdMin
    split
    next less =>
      obtain ⟨m,rfl⟩ := isFinite_iff.mp (isFinite_of_lt less).1
      exact ⟨m,rfl,le_of_lt less⟩
    · exact ⟨l,rfl,le_refl l⟩
  rw [clampValue,if_neg open_,least]
  unfold stdMax
  split
  next less => exact ⟨m,rfl,abs_le.mpr ⟨le_of_lt less,upper⟩⟩
  · exact ⟨-l,rfl,by rw [abs_neg,abs_of_pos positive]⟩

lemma clampValue_sub (positive : 0 < l) (x : K) (within : |v| ≤ l)
    (clamped : clampValue (.fin x) (.fin l) = .fin w) : |w-v| ≤ |x-v| := by
  have open_ : ¬(fin l : Flt K) ≤ 0 := not_le.mpr positive
  obtain ⟨low,high⟩ := abs_le.mp within
  have value : w = max (-l) (min l x) := by
    rw [clampValue,if_neg open_,stdMin_fin_fin,fin_neg,stdMax_fin_fin] at clamped
    exact (fin.inj clamped).symm
  subst value
  have same : v = max (-l) (min l v) := by rw [min_eq_right high,max_eq_right low]
  calc |max (-l) (min l x)-v| = |max (-l) (min l x)-max (-l) (min l v)| := by rw [← same]
    _ ≤ |min l x-min l v| := by simpa using abs_max_sub_max_le_max (-l) (min l x) (-l) (min l v)
    _ ≤ |x-v| := by simpa using abs_min_sub_min_le_max l x l v

namespace TrackingDifferentiator

omit [IsStrictOrderedRing K] in
lemma updateTd_initialized {td : TrackingDifferentiator K} (initialized : td.initialized)
    (target : Vector3 (Flt K)) (dt : K) (bw acc vel : Flt K) :
    (td.updateTd target dt bw acc vel).initialized := by
  unfold updateTd
  split
  · rfl
  · exact initialized

variable {acc vel : K} (accPos : 0 < acc) (velPos : 0 < vel)
include accPos velPos

lemma updateTdAxis_bounds (target bw : Flt K) (forward : 0 ≤ dt) (pos : K)
    (within : |v| ≤ vel) : ∃ v', updateTdAxis target (.fin dt) bw (.fin acc) (.fin vel) (.fin pos) (.fin v) =
      (.fin (pos + v' * dt),.fin v') ∧ |v'| ≤ vel ∧ |v' - v| ≤ acc * dt := by
  obtain ⟨a,acceleration,bounded⟩ := clampValue_fin accPos
    (bw * bw * (target - .fin pos) - .fin 2.0 * bw * .fin v)
  obtain ⟨v',velocity,limited⟩ := clampValue_fin velPos (.fin (v + a * dt))
  refine ⟨v',?_,limited,?_⟩
  · simp only [updateTdAxis,acceleration,fin_mul,fin_add,velocity]
  · have moved := clampValue_sub velPos (v + a * dt) within velocity
    rw [add_sub_cancel_left,abs_mul,abs_of_nonneg forward] at moved
    exact moved.trans (mul_le_mul_of_nonneg_right bounded forward)

lemma updateTdAxis_rest (bw dt pos : K) :
    updateTdAxis (.fin pos) (.fin dt) (.fin bw) (.fin acc) (.fin vel) (.fin pos) (.fin 0) =
      (.fin pos,.fin 0) := by
  have still {l : K} (positive : 0 < l) : clampValue (.fin 0) (.fin l) = (.fin 0 : Flt K) := by
    obtain ⟨w,clamped,-⟩ := clampValue_fin positive (.fin 0)
    have near := clampValue_sub positive 0 (by simpa using positive.le : |(0 : K)| ≤ l) clamped
    rw [sub_zero,sub_zero,abs_zero,abs_nonpos_iff] at near
    rw [clamped,near]
  simp [updateTdAxis,still accPos,still velPos]

lemma updateTd_rest (finite : corner.isFinite) (dt bw : K) :
    (resetTd corner).updateTd corner dt (.fin bw) (.fin acc) (.fin vel) = resetTd corner := by
  unfold updateTd
  split
  · rfl
  have axis : ∀ i, updateTdAxis (corner.get i) (.fin dt) (.fin bw) (.fin acc) (.fin vel) (corner.get i)
      (.fin 0) = (corner.get i,.fin 0) := by
    intro i
    obtain ⟨pos,known⟩ := isFinite_iff.mp ((Vector3.isFinite_iff_get corner).mp finite i)
    rw [known]
    exact updateTdAxis_rest accPos velPos bw dt pos
  simp only [resetTd,Vector3.get_zero,zero_eq,axis]
  rfl

end TrackingDifferentiator

namespace SquareNode
variable [Libm K]
omit [IsStrictOrderedRing K]

variable {s : SquareNode K} {p : SquareParams K}

lemma activate_enabled (enabled : s.marker.armMotionEnabled) (p : SquareParams K)
    (v : Vehicle K) (now : SquareClock K) : s.activate p v now = s := by
  have kept : s.marker.activateSquare p.markerParams v ⟨now.start,now.check⟩ = s.marker := by
    simp [Marker.activateSquare,enabled]
  simp [activate,kept,enabled]

structure Waiting (p : SquareParams K) (s : SquareNode K) : Prop where
  corner : s.td = resetTd p.firstCorner
  first : s.wpIdx = 0
  holding : s.movingSegment = false

lemma waiting_activate (waiting : Waiting p s) (v : Vehicle K)
    (now : SquareClock K) : Waiting p (s.activate p v now) := by
  unfold activate
  dsimp only
  split
  · exact ⟨rfl,waiting.first,waiting.holding⟩
  · exact ⟨waiting.corner,waiting.first,waiting.holding⟩

lemma proceed_waiting (waiting : Waiting p s) (now : SquareClock K) : (s.proceed p now).1 = p.firstCorner := by
  have corner : p.waypoint s.wpIdx = p.firstCorner := by rw [waiting.first]; rfl
  unfold proceed
  split
  · simp [waiting.holding,corner]
  · exact corner

lemma proceed_frame (s : SquareNode K) (p : SquareParams K) (now : SquareClock K) :
    (s.proceed p now).2.marker = s.marker ∧ (s.proceed p now).2.td = s.td ∧
      (s.proceed p now).2.lastSetpointTime = s.lastSetpointTime := by
  unfold proceed
  dsimp only
  split_ifs <;> exact ⟨rfl,rfl,rfl⟩

lemma proceed_disabled (disabled : s.marker.armMotionEnabled = false) (p : SquareParams K)
    (now : SquareClock K) : (s.proceed p now).2 = s := by
  simp [proceed,disabled]

lemma iterate_td (tracking : p.useTdSetpoint) (s : SquareNode K) (v : Vehicle K)
    (now : SquareClock K) : (s.iterate p v now).td =
      (s.activate p v now).td.updateTd ((s.activate p v now).proceed p now).1
        (now.stamp-(s.activate p v now).lastSetpointTime) p.tdBandwidthRadS p.tdAccelLimit p.tdVelLimit := by
  obtain ⟨-,td,last⟩ := (s.activate p v now).proceed_frame p now
  simp [iterate,follow,tracking,td,last]

lemma iterate_disabled (disabled : (s.iterate p v now).marker.armMotionEnabled = false) :
    s.marker.armMotionEnabled = false ∧ ((s.activate p v now).proceed p now).2 = s.activate p v now := by
  have marker : (s.iterate p v now).marker = (s.activate p v now).marker := ((s.activate p v now).proceed_frame p now).1
  rw [marker] at disabled
  refine ⟨?_,proceed_disabled disabled p now⟩
  cases enabled : s.marker.armMotionEnabled with
  | false => rfl
  | true =>
    rw [activate_enabled enabled,enabled] at disabled
    exact disabled

end SquareNode

namespace SquareParams

lemma limits_fin (p : SquareParams K) :
    (∃ acc, p.tdAccelLimit = .fin acc ∧ 0 < acc) ∧ ∃ vel, p.tdVelLimit = .fin vel ∧ 0 < vel :=
  ⟨stdMax_fin (by norm_num) _,stdMax_fin (by norm_num) _⟩

lemma bandwidth_fin [Libm K] (p : SquareParams K) : ∃ bandwidth, p.tdBandwidthRadS = .fin bandwidth := by
  have positive : (0 : K) < 0.01 := by norm_num
  obtain ⟨bandwidth,clamped,-⟩ := stdMax_fin positive p.tdBandwidthHz
  exact ⟨2.0 * Libm.pi * bandwidth,by rw [tdBandwidthRadS,tdBandwidth,clamped]; rfl⟩

end SquareParams

namespace SquareRun
open SquareNode (activate_enabled iterate_td proceed_waiting waiting_activate)
variable [Libm K] {p : SquareParams K}

structure Tracks (p : SquareParams K) (r : SquareRun K) : Prop where
  initialized : r.node.td.initialized = true
  position : ∀ i, ∃ pos, r.node.td.position.get i = .fin pos
  velocity : ∀ i, ∃ v, r.node.td.velocity.get i = .fin v ∧ .fin |v| ≤ p.tdVelLimit
  waiting : r.node.marker.armMotionEnabled = false → r.node.Waiting p
  published : r.node.marker.armMotionEnabled = true → r.node.lastSetpointTime = r.publishedAt

section
variable (tracking : p.useTdSetpoint = true) (corner : p.firstCorner.isFinite = true)
include tracking corner

lemma iterate_waiting {s : SquareNode K} (waiting : s.Waiting p) (v : Vehicle K) (now : SquareClock K) :
    (s.iterate p v now).td = resetTd p.firstCorner := by
  obtain ⟨⟨acc,accLimit,accPos⟩,vel,velLimit,velPos⟩ := p.limits_fin
  obtain ⟨bandwidth,bounded⟩ := p.bandwidth_fin
  have holding := waiting_activate waiting v now
  rw [iterate_td tracking,holding.corner,proceed_waiting holding,accLimit,velLimit,bounded]
  exact updateTd_rest accPos velPos corner _ _

lemma smooth_waiting {r : SquareRun K} (waiting : r.node.Waiting p) {now : SquareClock K}
    (later : r.publishedAt ≤ now.stamp) : Smooth p r (.iterate now) := by
  obtain ⟨⟨acc,accLimit,accPos⟩,vel,velLimit,velPos⟩ := p.limits_fin
  have elapsed : 0 ≤ now.stamp-r.publishedAt := sub_nonneg.mpr later
  intro i
  obtain ⟨pos,known⟩ := isFinite_iff.mp ((Vector3.isFinite_iff_get _).mp corner i)
  rw [iterate_waiting tracking corner waiting,waiting.corner,accLimit,velLimit]
  simp [resetTd,known,mul_nonneg velPos.le elapsed,mul_nonneg accPos.le elapsed]

end

section
variable (tracking : p.useTdSetpoint = true)
include tracking

variable {r : SquareRun K}

omit [IsStrictOrderedRing K] in
lemma iterate_running (enabled : r.node.marker.armMotionEnabled) (tracks : Tracks p r)
    (now : SquareClock K) : (r.node.iterate p r.vehicle now).td =
      r.node.td.updateTd (r.node.proceed p now).1 (now.stamp-r.publishedAt) p.tdBandwidthRadS p.tdAccelLimit
        p.tdVelLimit := by
  rw [iterate_td tracking,activate_enabled enabled,tracks.published enabled]

lemma axis_forward (enabled : r.node.marker.armMotionEnabled) (tracks : Tracks p r)
    {now : SquareClock K} (forward : r.publishedAt < now.stamp) (i : Axis) :
    ∃ pos v pos' v', r.node.td.position.get i = .fin pos ∧ r.node.td.velocity.get i = .fin v ∧
      (r.node.iterate p r.vehicle now).td.position.get i = .fin pos' ∧
      (r.node.iterate p r.vehicle now).td.velocity.get i = .fin v' ∧ .fin |v'| ≤ p.tdVelLimit ∧
      .fin |pos' - pos| ≤ p.tdVelLimit * .fin (now.stamp - r.publishedAt) ∧
      .fin |v' - v| ≤ p.tdAccelLimit * .fin (now.stamp - r.publishedAt) := by
  obtain ⟨⟨acc,accLimit,accPos⟩,vel,velLimit,velPos⟩ := p.limits_fin
  obtain ⟨pos,position⟩ := tracks.position i
  obtain ⟨v,velocity,within⟩ := tracks.velocity i
  have elapsed : 0 < now.stamp-r.publishedAt := sub_pos.mpr forward
  rw [velLimit] at within ⊢
  rw [accLimit]
  obtain ⟨v',stepped,limited,moved⟩ := updateTdAxis_bounds accPos velPos ((r.node.proceed p now).1.get i)
    p.tdBandwidthRadS elapsed.le pos within
  have td := iterate_running tracking enabled tracks now
  have running : ¬(!r.node.td.initialized || decide (now.stamp-r.publishedAt ≤ 0)) := by
    simp [tracks.initialized,forward]
  rw [updateTd,if_neg running,accLimit,velLimit] at td
  refine ⟨pos,v,pos + v' * (now.stamp - r.publishedAt),v',position,velocity,?_,?_,limited,?_,moved⟩
  · rw [td,Vector3.get_ofAxes]
    dsimp only
    rw [position,velocity,stepped]
  · rw [td,Vector3.get_ofAxes]
    dsimp only
    rw [position,velocity,stepped]
  · rw [add_sub_cancel_left,abs_mul,abs_of_pos elapsed]
    exact mul_le_mul_of_nonneg_right limited elapsed.le

lemma smooth_stopped_iff (enabled : r.node.marker.armMotionEnabled)
    (tracks : Tracks p r) (stopped : now.stamp = r.publishedAt) :
    Smooth p r (.iterate now) ↔ r.node.td = resetTd (r.node.proceed p now).1 := by
  obtain ⟨⟨acc,accLimit,-⟩,vel,velLimit,-⟩ := p.limits_fin
  have td := iterate_running tracking enabled tracks now
  rw [updateTd,if_pos (by simp [stopped])] at td
  have zero : .fin (now.stamp-r.publishedAt) = (.fin 0 : Flt K) := by rw [stopped,sub_self]
  have still {a b : Flt K} {l : K} : (a - b).abs ≤ .fin l * .fin 0 ↔ a.isFinite ∧ a = b := by
    cases a <;> cases b <;> simp [sub_eq_zero]
  simp only [Smooth,td,accLimit,velLimit,zero,still]
  constructor
  · intro smooth
    have position := Vector3.ext_get fun i => (smooth i).1.2
    have velocity : 0 = r.node.td.velocity := Vector3.ext_get fun i => (smooth i).2.2
    have initialized := tracks.initialized
    generalize r.node.td = old at position velocity initialized
    obtain ⟨_,_,_⟩ := old
    subst position velocity initialized
    rfl
  · intro rest i
    obtain ⟨pos,known⟩ := tracks.position i
    rw [rest] at known ⊢
    exact ⟨⟨by rw [known]; rfl,rfl⟩,by simp [resetTd],rfl⟩

lemma smooth_iff_stands (corner : p.firstCorner.isFinite) (event : SquareEvent K)
    (ordered : InOrder r event) (tracks : Tracks p r) : Smooth p r event ↔ StandsWhenStopped p r event := by
  cases event with
  | poseCb position | stateCb armed => exact Iff.rfl
  | iterate now =>
    obtain ⟨begun,checked,activated,measured,phased,stamped⟩ := ordered
    have later : r.publishedAt ≤ now.stamp := by linarith
    cases enabled : r.node.marker.armMotionEnabled with
    | false =>
      have waiting := tracks.waiting enabled
      have holding := waiting_activate waiting r.vehicle now
      refine iff_of_true (smooth_waiting tracking corner waiting later) ⟨corner,fun _ => ?_⟩
      rw [holding.corner,proceed_waiting holding]
    | true =>
      have unchanged := activate_enabled enabled p r.vehicle now
      simp only [StandsWhenStopped,unchanged,tracks.published enabled,corner,true_and]
      rcases later.eq_or_lt with stopped | forward
      · rw [smooth_stopped_iff tracking enabled tracks stopped.symm]
        simp [stopped]
      refine iff_of_true (fun i => ?_) fun stopped => absurd stopped forward.ne'
      obtain ⟨pos,v,pos',v',position,velocity,position',velocity',-,near,slow⟩ :=
        axis_forward tracking enabled tracks forward i
      rw [position,velocity,position',velocity']
      exact ⟨near,slow⟩

lemma tracks_step (corner : p.firstCorner.isFinite) (event : SquareEvent K)
    (ordered : InOrder r event) (smooth : Smooth p r event) (tracks : Tracks p r) : Tracks p (r.step p event) := by
  cases event with
  | poseCb position | stateCb armed => exact {tracks with}
  | iterate now =>
    obtain ⟨begun,checked,activated,measured,phased,stamped⟩ := ordered
    have later : r.publishedAt ≤ now.stamp := by linarith
    refine ⟨?_,fun i => ?_,fun i => ?_,fun disabled => ?_,fun _ => rfl⟩
    · change (r.node.iterate p r.vehicle now).td.initialized = true
      rw [iterate_td tracking]
      refine updateTd_initialized ?_ _ _ _ _ _
      cases enabled : r.node.marker.armMotionEnabled with
      | false => rw [(waiting_activate (tracks.waiting enabled) r.vehicle now).corner]; rfl
      | true => rw [activate_enabled enabled]; exact tracks.initialized
    · have finite := (isFinite_of_le (smooth i).1).1
      simp only [isFinite_abs,isFinite_sub,Bool.and_eq_true] at finite
      exact isFinite_iff.mp finite.1
    · obtain ⟨-,vel,velLimit,velPos⟩ := p.limits_fin
      have rest (target : Vector3 (Flt K)) : ∃ v, (resetTd target).velocity.get i = .fin v ∧ .fin |v| ≤ p.tdVelLimit :=
        ⟨0,by simp [resetTd],by simp [velLimit,velPos.le]⟩
      change ∃ v, (r.node.iterate p r.vehicle now).td.velocity.get i = .fin v ∧ _
      cases enabled : r.node.marker.armMotionEnabled with
      | false => rw [iterate_waiting tracking corner (tracks.waiting enabled)]; exact rest _
      | true =>
        rcases later.eq_or_lt with stopped | forward
        · rw [iterate_running tracking enabled tracks,updateTd,if_pos (by simp [stopped])]
          exact rest _
        · obtain ⟨-,-,-,v',-,-,-,velocity',within,-⟩ := axis_forward tracking enabled tracks forward i
          exact ⟨v',velocity',within⟩
    · obtain ⟨before,same⟩ := SquareNode.iterate_disabled disabled
      have waiting := tracks.waiting before
      have holding := waiting_activate waiting r.vehicle now
      have frame : r.node.iterate p r.vehicle now = (r.node.activate p r.vehicle now).follow p p.firstCorner now.stamp := by
        rw [SquareNode.iterate,same,proceed_waiting holding]
      refine ⟨iterate_waiting tracking corner waiting r.vehicle now,?_,?_⟩
      · exact (congrArg SquareNode.wpIdx frame).trans holding.first
      · exact (congrArg SquareNode.movingSegment frame).trans holding.holding

end

/-- The setpoints are smooth exactly if the differentiator stands at its target whenever no time has passed. -/
theorem smooth_iff_stands_when_stopped (tracking : p.useTdSetpoint = true) (setAt publishedAt : K)
    (events : List (SquareEvent K)) (ordered : Along (step p) InOrder (init p setAt publishedAt) events) :
    Along (step p) (Smooth p) (init p setAt publishedAt) events ↔
      Along (step p) (StandsWhenStopped p) (init p setAt publishedAt) events := by
  by_cases corner : p.firstCorner.isFinite = true
  · refine along_congr_along (Tracks p) (fun r event => tracks_step tracking corner event)
      (fun r event => smooth_iff_stands tracking corner event) ordered ⟨rfl,fun i => ?_,fun i => ?_,fun _ => ?_,?_⟩
    · exact isFinite_iff.mp ((Vector3.isFinite_iff_get _).mp corner i)
    · obtain ⟨-,vel,velLimit,velPos⟩ := p.limits_fin
      exact ⟨0,by simp [init,SquareNode.init,resetTd],by simp [velLimit,velPos.le]⟩
    · exact ⟨rfl,rfl,rfl⟩
    · intro enabled
      exact absurd enabled Bool.false_ne_true
  · -- no difference to a NaN is within a limit, so both properties fail in the first iteration
    have lost {r : SquareRun K} (start : r.node.td.position = p.firstCorner) (now : SquareClock K) :
        ¬ Smooth p r (.iterate now) := by
      intro smooth
      apply corner
      rw [Vector3.isFinite_iff_get]
      intro i
      have finite := (isFinite_of_le (smooth i).1).1
      simp only [isFinite_abs,isFinite_sub,Bool.and_eq_true,start] at finite
      exact finite.2
    refine along_congr_along (fun r : SquareRun K => r.node.td.position = p.firstCorner) ?_ ?_ ordered rfl
    · intro r event _ smooth start
      cases event with
      | poseCb position | stateCb armed => exact start
      | iterate now => exact absurd smooth (lost start now)
    · intro r event _ start
      cases event with
      | poseCb position | stateCb armed => exact Iff.rfl
      | iterate now => exact iff_of_false (lost start now) fun stands => corner stands.1

def hasty : SquareParams K :=
  ⟨.fin 2.0,.fin 2.0,.fin 0,.fin 0,.fin 0,.fin 1,.fin 0.2,.fin 1.9,.fin 1,.fin 0,.fin (-1),false,true,.fin 1,.fin 1,
    .fin 0.5⟩

def entered : SquareNode K := ⟨⟨true,0,false,0,true⟩,0,resetTd hasty.firstCorner,0,0,true,false⟩

lemma hasty_enters :
    [.stateCb true,.poseCb ⟨.fin 0,.fin 0,.fin 2.0⟩,.iterate ⟨0,0,0,0,0,0⟩].foldl (step hasty) (init hasty 0 0) =
      (⟨entered,⟨true,⟨.fin 0,.fin 0,.fin 2.0⟩,true⟩,0⟩ : SquareRun ℝ) := by
  have high : (1.9 : ℝ) ≤ 2.0 := by norm_num
  have ready : (⟨true,⟨.fin 0,.fin 0,.fin 2.0⟩,true⟩ : Vehicle ℝ).validationReady hasty.markerParams := by
    simp [Vehicle.validationReady,markerParams,hasty,high]
  have activated : (SquareNode.init hasty 0).activate hasty ⟨true,⟨.fin 0,.fin 0,.fin 2.0⟩,true⟩ ⟨0,0,0,0,0,0⟩ =
      (⟨⟨true,0,false,0,true⟩,0,resetTd hasty.firstCorner,0,0,false,false⟩ : SquareNode ℝ) := by
    simp only [SquareNode.activate,SquareNode.init,Marker.init,Marker.activateSquare,ready,Marker.validate]
    simp [markerParams,hasty]
  have begun : (SquareNode.init hasty 0).iterate hasty ⟨true,⟨.fin 0,.fin 0,.fin 2.0⟩,true⟩ ⟨0,0,0,0,0,0⟩ =
      (entered : SquareNode ℝ) := by
    rw [SquareNode.iterate,activated]
    simp [SquareNode.proceed,SquareNode.follow,hasty,waypoints,waypoint,entered,updateTd]
  exact congrArg (fun node => (⟨node,_,_⟩ : SquareRun ℝ)) begun

lemma hasty_halfway {s : SquareNode ℝ} (enabled : s.marker.armMotionEnabled) (first : s.wpIdx = 0)
    (phase : s.phaseStart = 0) (moving : s.movingSegment) (incomplete : s.squareComplete = false) :
    s.proceed hasty ⟨1,1,1,1,1,1⟩ = (⟨.fin 1,.fin 0,.fin 2⟩,s) := by
  have root : Real.sqrt 4 = 2 := by
    rw [show (4 : ℝ) = 2 * 2 by norm_num]
    exact Real.sqrt_mul_self (by norm_num)
  have speed : (hasty : SquareParams ℝ).pathSpeed = .fin 1 := by
    have slow : (0.05 : ℝ) < 1 := by norm_num
    simp [pathSpeed,hasty,stdMax,slow]
  have side : SquareNode.waypointDistance ((hasty : SquareParams ℝ).waypoint 0) (hasty.waypoint 1) = .fin 2 := by
    norm_num [SquareNode.waypointDistance,waypoint,waypoints,firstCorner,hasty,
      Libm.sqrtf,root]
  have ratio : SquareNode.segmentRatio (1 : ℝ) (.fin 2 / .fin 1) = .fin (1 / 2) := by
    norm_num [SquareNode.segmentRatio,-zero_eq]
    simp
  have half : (0 : ℝ) < 1 / 2 ∧ (1 / 2 : ℝ) < 1 := by norm_num
  have clamped : SquareNode.clampRatio (.fin (1 / 2)) = (.fin (1 / 2) : Flt ℝ) := by
    rw [SquareNode.clampRatio,stdMin,if_pos (show (.fin (1 / 2) : Flt ℝ) < 1 from half.2),stdMax]
    exact if_pos half.1
  have unreached : ¬(.fin (1 / 2) : Flt ℝ) ≥ 1 := not_le.mpr half.2
  simp only [SquareNode.proceed,enabled,first,phase,moving,incomplete,side,speed,ratio,sub_zero,if_neg unreached]
  norm_num [SquareNode.interpolateWaypoint,clamped,waypoint,waypoints,
    firstCorner,hasty]

lemma clampValue_above {l x : ℝ} (positive : 0 < l) (above : l ≤ x) : clampValue (.fin x) (.fin l) = .fin l := by
  simp [clampValue,stdMin,stdMax,not_le.mpr positive,not_lt.mpr above,positive]

lemma entered_behind (v : Vehicle ℝ) :
    (entered.iterate hasty v ⟨1,1,1,1,1,1⟩ : SquareNode ℝ).td.position.x = .fin 0.5 := by
  have limits : (hasty : SquareParams ℝ).tdAccelLimit = .fin 1 ∧ (hasty : SquareParams ℝ).tdVelLimit = .fin 0.5 := by
    have fast : (0.01 : ℝ) < 1 ∧ (0.05 : ℝ) < 0.5 := by norm_num
    simp [tdAccelLimit,tdVelLimit,hasty,stdMax,fast]
  have bw : (hasty : SquareParams ℝ).tdBandwidthRadS = .fin (2.0 * Real.pi) := by
    have fast : (0.01 : ℝ) < 1 := by norm_num
    simp [tdBandwidthRadS,tdBandwidth,hasty,stdMax,fast,Libm.pi]
  have axis : updateTdAxis (.fin 1) (.fin 1) (.fin (2.0 * Real.pi)) (.fin 1) (.fin 0.5) (.fin 0) (.fin 0) =
      ((.fin 0.5,.fin 0.5) : Flt ℝ × Flt ℝ) := by
    have pushed : (1 : ℝ) ≤ 2.0 * Real.pi * (2.0 * Real.pi) := by nlinarith [Real.two_le_pi]
    have fast : (0 : ℝ) < 0.5 ∧ (0.5 : ℝ) ≤ 1 := by norm_num
    simp [updateTdAxis,clampValue_above one_pos pushed,clampValue_above fast.1 fast.2]
  have onward : ¬(!(entered : SquareNode ℝ).td.initialized ||
      decide ((1 : ℝ)-(entered : SquareNode ℝ).lastSetpointTime ≤ 0)) := by
    simp [entered,resetTd]
  rw [iterate_td rfl,activate_enabled rfl,hasty_halfway rfl rfl rfl rfl rfl,limits.1,limits.2,
    bw,updateTd,if_neg onward]
  change (updateTdAxis (.fin 1) (.fin (1-0)) _ _ _ (.fin 0) (.fin 0)).1 = _
  rw [sub_zero,axis]

def setOff : List (SquareEvent K) :=
  [.stateCb true,.poseCb ⟨.fin 0,.fin 0,.fin 2.0⟩,.iterate ⟨0,0,0,0,0,0⟩] ++ [.iterate ⟨1,1,1,1,1,1⟩]

lemma setOff_inOrder : Along (step hasty) InOrder (init hasty 0 0 : SquareRun ℝ) setOff := by
  simp [setOff,InOrder,step,init]

theorem smooth_setting_off : Along (step hasty) (Smooth hasty) (init hasty 0 0 : SquareRun ℝ) setOff := by
  refine (smooth_iff_stands_when_stopped rfl 0 0 setOff setOff_inOrder).mpr ((along_append _ _ _).mpr ⟨?_,?_⟩)
  · have holding := waiting_activate (⟨rfl,rfl,rfl⟩ : (SquareNode.init (hasty : SquareParams ℝ) 0).Waiting hasty)
    refine ⟨trivial,trivial,⟨rfl,fun _ => ?_⟩,trivial⟩
    exact (holding _ _).corner.trans (congrArg resetTd (proceed_waiting (holding _ _) _).symm)
  · rw [hasty_enters]
    refine ⟨⟨rfl,fun stopped => ?_⟩,trivial⟩
    rw [activate_enabled rfl] at stopped
    exact absurd stopped one_ne_zero

theorem jumps_at_same_time : Along (step hasty) InOrder (init hasty 0 0 : SquareRun ℝ)
      (setOff ++ [.iterate ⟨1,1,1,1,1,1⟩]) ∧
    ¬ Along (step hasty) (Smooth hasty) (init hasty 0 0 : SquareRun ℝ) (setOff ++ [.iterate ⟨1,1,1,1,1,1⟩]) := by
  refine ⟨(along_append _ _ _).mpr ⟨setOff_inOrder,by simp [setOff,InOrder,step],trivial⟩,fun smooth => ?_⟩
  obtain ⟨jump,-⟩ := ((along_append _ _ _).mp smooth).2
  rw [setOff,List.foldl_append,hasty_enters] at jump
  have moved := (jump .x).1
  change ((SquareNode.iterate (entered.iterate hasty _ _) hasty _ _).td.position.x -
    (entered.iterate hasty _ _ : SquareNode ℝ).td.position.x).abs ≤ _ * .fin (1 - 1) at moved
  have before (v : Vehicle ℝ) : entered.iterate hasty v ⟨1,1,1,1,1,1⟩ =
      (entered.follow hasty ⟨.fin 1,.fin 0,.fin 2⟩ 1 : SquareNode ℝ) := by
    rw [SquareNode.iterate,activate_enabled rfl,hasty_halfway rfl rfl rfl rfl rfl]
  have after (v : Vehicle ℝ) : ((entered.follow hasty ⟨.fin 1,.fin 0,.fin 2⟩ 1 : SquareNode ℝ).iterate hasty v
      ⟨1,1,1,1,1,1⟩).td = resetTd ⟨.fin 1,.fin 0,.fin 2⟩ := by
    rw [iterate_td rfl,activate_enabled rfl,hasty_halfway rfl rfl rfl rfl rfl,updateTd]
    exact if_pos (by simp [SquareNode.follow])
  obtain ⟨-,vel,limit,-⟩ := (hasty : SquareParams ℝ).limits_fin
  rw [entered_behind,before,after,limit] at moved
  norm_num [resetTd] at moved

end SquareRun
end AerialManipulator
