/-
What the Cartesian interpolator promises of its stream, waypoint by waypoint.

The stream is one segment for each waypoint, from the waypoint before or the start. A
segment follows the straight line between the two, in steps no longer than the linear cap
allows, arrives at its waypoint and hands out the waypoint's gripper command at once.
-/

import FlexivControl.Filter.RigidMotion

namespace FlexivControl

open Ease

/-- A waypoint with the pose that its segment starts from. -/
structure Leg where
  start : Pose ℝ
  waypoint : CartesianWaypoint ℝ

namespace Leg

/-- A waypoint that leaves the orientation open keeps the one before. -/
def target (leg : Leg) : Pose ℝ :=
  ⟨leg.waypoint.position, leg.waypoint.quaternion.getD leg.start.quat⟩

def legs (start : Pose ℝ) : List (CartesianWaypoint ℝ) → List Leg
  | [] => []
  | wp :: rest => ⟨start, wp⟩ :: legs (target ⟨start, wp⟩) rest

/-- A segment that does what its leg asks for at the rate `hz`. -/
structure Covered (hz : ℝ) (leg : Leg) (setpoints : List (CartesianSetpoint ℝ)) : Prop where
  ticks : max 1 (Scalar.roundEven (leg.waypoint.resolveDuration hz * hz)) ≤ setpoints.length
  /-- Positions on the straight line, never going back on it. -/
  follows : ∃ progress : ℕ → ℝ, Monotone progress ∧
    (∀ k, progress k ∈ Set.Icc (0 : ℝ) 1) ∧
    ∀ k sp, setpoints[k]? = some sp →
      sp.pose.pos = leg.start.pos + (leg.waypoint.position - leg.start.pos) * progress k
  arrives : ∃ sp, setpoints.getLast? = some sp ∧ sp.pose.pos = leg.waypoint.position ∧
    sp.pose.quat.UpToSign (quatNormalize leg.target.quat)
  grippers : setpoints.map (·.gripper) =
    leg.waypoint.gripper :: List.replicate (setpoints.length - 1) none

end Leg

namespace CartesianChunkInterpolator

section Segment

variable {start : Pose ℝ} {tgtPos : Vec3 ℝ} {tgtQuat : Quat ℝ}
  {gripper : Option (GripperCommand ℝ)} {segIdx n : ℕ}

theorem segment_length :
    (segment start.pos tgtPos start.quat tgtQuat gripper segIdx n).length = n := by
  rw [segment, List.length_map, List.length_range]

theorem segment_tick {k : ℕ} {sp : CartesianSetpoint ℝ}
    (tick : (segment start.pos tgtPos start.quat tgtQuat gripper segIdx n)[k]? = some sp) :
    k < n ∧
      sp.pose.pos = start.pos + (tgtPos - start.pos) * ease ((k + 1 : ℕ) / n) ∧
      sp.pose.quat = quatSlerp start.quat tgtQuat (ease ((k + 1 : ℕ) / n)) ∧
      sp.gripper = if k = 0 then gripper else none := by
  rw [segment, List.getElem?_map, Option.map_eq_some_iff] at tick
  obtain ⟨i, counted, made⟩ := tick
  obtain ⟨inside, same⟩ := List.getElem?_eq_some_iff.mp counted
  rw [List.getElem_range] at same
  rw [List.length_range] at inside
  subst same
  rw [← made, ← cosineBlend_tick inside]
  exact ⟨inside, rfl, rfl, rfl⟩

/-- How far along its segment the setpoint after `k` others is. -/
noncomputable def progress (n k : ℕ) : ℝ := ease (min 1 ((k + 1 : ℕ) / n))

theorem progress_monotone (n : ℕ) : Monotone (progress n) := by
  intro k l ordered
  apply ease_le_ease
  · exact le_min zero_le_one (by positivity)
  · apply min_le_min le_rfl
    gcongr
  · exact min_le_left _ _

theorem progress_tick {k : ℕ} (inside : k < n) : progress n k = ease ((k + 1 : ℕ) / n) := by
  have ticks : (0 : ℝ) < n := Nat.cast_pos.mpr (Nat.zero_lt_of_lt inside)
  have short : ((k + 1 : ℕ) : ℝ) / n ≤ 1 := by
    rw [div_le_one ticks]
    exact_mod_cast inside
  rw [progress, min_eq_right short]

theorem segment_grippers (positive : 0 < n) :
    (segment start.pos tgtPos start.quat tgtQuat gripper segIdx n).map (·.gripper) =
      gripper :: List.replicate (n - 1) none := by
  obtain ⟨m, rfl⟩ := Nat.exists_eq_succ_of_ne_zero positive.ne'
  rw [segment, List.map_map, List.range_succ_eq_map, List.map_cons, List.map_map]
  refine congrArg₂ List.cons rfl ?_
  rw [Nat.succ_sub_one, List.eq_replicate_iff, List.length_map, List.length_range]
  refine ⟨rfl, ?_⟩
  intro command member
  obtain ⟨k, _, same⟩ := List.mem_map.mp member
  rw [← same]
  rfl

theorem segment_arrives (positive : 0 < n) :
    ∃ sp, (segment start.pos tgtPos start.quat tgtQuat gripper segIdx n).getLast? = some sp ∧
      sp.pose.pos = tgtPos ∧ sp.pose.quat.UpToSign (quatNormalize tgtQuat) := by
  have length := @segment_length start tgtPos tgtQuat gripper segIdx n
  have last : n - 1 < (segment start.pos tgtPos start.quat tgtQuat gripper segIdx n).length := by
    omega
  obtain ⟨sp, tick⟩ : ∃ sp,
      (segment start.pos tgtPos start.quat tgtQuat gripper segIdx n)[n - 1]? = some sp :=
    ⟨_, List.getElem?_eq_getElem last⟩
  obtain ⟨_, pos, quat, _⟩ := segment_tick tick
  have whole : ((n - 1 + 1 : ℕ) : ℝ) / n = 1 := by
    rw [Nat.sub_add_cancel positive]
    exact div_self (Nat.cast_ne_zero.mpr positive.ne')
  rw [whole, ease_one] at pos quat
  refine ⟨sp, ?_, ?_, ?_⟩
  · rw [List.getLast?_eq_getElem?, length]
    exact tick
  · rw [pos]
    ext <;> simp
  · rw [quat]
    exact quatSlerp_one start.quat tgtQuat

end Segment

section Stream

variable {interp : CartesianChunkInterpolator ℝ}

theorem requested_le_segmentTicks (start : Pose ℝ) (tgtPos : Vec3 ℝ) (tgtQuat : Quat ℝ)
    (wp : CartesianWaypoint ℝ) :
    max 1 (Scalar.roundEven (wp.resolveDuration interp.hz * interp.hz)) ≤
      (interp.segmentTicks start.pos tgtPos start.quat tgtQuat wp : ℤ) := by
  have requested : requestedTicks (wp.resolveDuration interp.hz) interp.hz =
      max 1 (Scalar.roundEven (wp.resolveDuration interp.hz * interp.hz)) := rfl
  rw [← requested]
  unfold segmentTicks
  dsimp only
  omega

theorem segment_covers (start : Pose ℝ) (wp : CartesianWaypoint ℝ) (segIdx : ℕ) :
    let leg : Leg := ⟨start, wp⟩
    leg.Covered interp.hz (segment start.pos wp.position start.quat leg.target.quat wp.gripper
      segIdx (interp.segmentTicks start.pos wp.position start.quat leg.target.quat wp)) := by
  intro leg
  have requested := @requested_le_segmentTicks interp start wp.position leg.target.quat wp
  generalize interp.segmentTicks start.pos wp.position start.quat leg.target.quat wp = n
    at requested
  have positive : 0 < n := by omega
  refine ⟨?_, ⟨progress n, progress_monotone n, ?_, ?_⟩, segment_arrives positive, ?_⟩
  · rw [segment_length]
    exact requested
  · intro k
    exact ⟨ease_nonneg _, ease_le_one _⟩
  · intro k sp tick
    obtain ⟨inside, pos, _⟩ := segment_tick tick
    rw [progress_tick inside]
    exact pos
  · rw [segment_length]
    exact segment_grippers positive

theorem setpointsFrom_covers (waypoints : List (CartesianWaypoint ℝ)) :
    ∀ (start : Pose ℝ) (segIdx : ℕ), ∃ segments : List (List (CartesianSetpoint ℝ)),
      interp.setpointsFrom start.pos start.quat segIdx waypoints = segments.flatten ∧
        List.Forall₂ (Leg.Covered interp.hz) (Leg.legs start waypoints) segments := by
  induction waypoints with
  | nil => exact fun start segIdx => ⟨[], rfl, .nil⟩
  | cons wp rest ih =>
      intro start segIdx
      obtain ⟨segments, joined, covered⟩ := ih (Leg.target ⟨start, wp⟩) (segIdx + 1)
      refine ⟨_ :: segments, ?_, .cons (segment_covers start wp segIdx) covered⟩
      rw [setpointsFrom, List.flatten_cons, ← joined]
      rfl

theorem setpointsFrom_steps {v : ℝ} (capped : 0 < v) (ticking : 0 < interp.dt)
    (uses : interp.maxLinearSpeed = some v) (waypoints : List (CartesianWaypoint ℝ)) :
    ∀ (start : Pose ℝ) (segIdx : ℕ),
      (start.pos.toE :: (interp.setpointsFrom start.pos start.quat segIdx waypoints).map
        (·.pose.pos.toE)).IsChain fun x y => ‖y - x‖ ≤ v * interp.dt := by
  induction waypoints with
  | nil => exact fun start segIdx => List.isChain_singleton _
  | cons wp rest ih =>
      intro start segIdx
      obtain ⟨some_tick, enough⟩ := segmentTicks_enough capped uses start.pos wp.position
        start.quat (wp.quaternion.getD start.quat) wp
      have later := ih (Leg.target ⟨start, wp⟩) (segIdx + 1)
      rw [setpointsFrom, List.map_append, segment_toE]
      refine isChain_cons_append ?_ (walk_last _ _ some_tick) later
      apply walk_isChain some_tick (mul_pos capped ticking) _ enough
      rw [← Vec3.toE_sub, Vec3.norm_toE]

end Stream

end CartesianChunkInterpolator

theorem grippers_of_covered {hz : ℝ} (waypoints : List (CartesianWaypoint ℝ)) :
    ∀ (start : Pose ℝ) (segments : List (List (CartesianSetpoint ℝ))),
      List.Forall₂ (Leg.Covered hz) (Leg.legs start waypoints) segments →
        segments.flatten.filterMap (·.gripper) = waypoints.filterMap (·.gripper) := by
  induction waypoints with
  | nil =>
      intro start segments covered
      cases covered
      rfl
  | cons wp rest ih =>
      intro start segments covered
      cases covered with
      | @cons _ here _ later first others =>
          have commands : here.filterMap (·.gripper) = wp.gripper.toList := by
            have all := congrArg (List.filterMap id) first.grippers
            rw [List.filterMap_map] at all
            refine all.trans ?_
            rw [List.filterMap_cons]
            have silent : List.filterMap id (List.replicate (here.length - 1)
                (none : Option (GripperCommand ℝ))) = [] := by
              rw [List.filterMap_eq_nil_iff]
              intro command member
              rw [List.eq_of_mem_replicate member]
              rfl
            rw [silent]
            cases wp.gripper <;> rfl
          rw [List.flatten_cons, List.filterMap_append, ih _ _ others, commands,
            List.filterMap_cons]
          cases wp.gripper <;> rfl

/-- The interpolator's contract, for every chunk, start, rate and linear cap: segments that
cover their legs, as many setpoints as these have together, no step longer than the cap
allows, and each gripper command once, in order. -/
theorem interpolator_contract {interp : CartesianChunkInterpolator ℝ} {v : ℝ}
    (rate : 0 < interp.hz) (capped : 0 < v) (uses : interp.maxLinearSpeed = some v) :
    ∃ segments : List (List (CartesianSetpoint ℝ)),
      interp.setpoints = segments.flatten ∧
      interp.setpoints.length = (segments.map List.length).sum ∧
      List.Forall₂ (Leg.Covered interp.hz)
        (Leg.legs interp.startPose interp.chunk.waypoints) segments ∧
      (interp.startPose.pos :: interp.setpoints.map (·.pose.pos)).IsChain
        (fun p q => (q - p).norm ≤ v / interp.hz) ∧
      interp.setpoints.filterMap (·.gripper) =
        interp.chunk.waypoints.filterMap (·.gripper) := by
  obtain ⟨segments, joined, covered⟩ := interp.setpointsFrom_covers interp.chunk.waypoints
    interp.startPose 0
  have ticking : 0 < interp.dt := one_div_pos.mpr rate
  have steps := interp.setpointsFrom_steps capped ticking uses interp.chunk.waypoints
    interp.startPose 0
  have whole : interp.setpoints = segments.flatten := joined
  refine ⟨segments, whole, ?_, covered, ?_, ?_⟩
  · rw [whole, List.length_flatten]
  · have mapped : (interp.startPose.pos.toE :: interp.setpoints.map (·.pose.pos.toE)) =
        (interp.startPose.pos :: interp.setpoints.map (·.pose.pos)).map Vec3.toE := by
      rw [List.map_cons, List.map_map]
      rfl
    have short : v / interp.hz = v * interp.dt := div_eq_mul_one_div v interp.hz
    rw [short]
    change (interp.startPose.pos.toE :: interp.setpoints.map (·.pose.pos.toE)).IsChain _ at steps
    rw [mapped, List.isChain_map] at steps
    refine steps.imp ?_
    intro p q step
    rwa [← Vec3.norm_toE, Vec3.toE_sub]
  · rw [whole]
    exact grippers_of_covered _ _ _ covered

noncomputable def approach : CartesianChunkInterpolator ℝ where
  chunk := turnedChunk
  startPose := ⟨⟨1 / 10, 0, 0⟩, 1⟩
  hz := 100
  maxLinearSpeed := some (1 / 10)

theorem interpolator_contract_approach :
    ∃ segments : List (List (CartesianSetpoint ℝ)),
      approach.setpoints = segments.flatten ∧
      approach.setpoints.length = (segments.map List.length).sum ∧
      List.Forall₂ (Leg.Covered approach.hz)
        (Leg.legs approach.startPose approach.chunk.waypoints) segments ∧
      (approach.startPose.pos :: approach.setpoints.map (·.pose.pos)).IsChain
        (fun p q => (q - p).norm ≤ 1 / 10 / approach.hz) ∧
      approach.setpoints.filterMap (·.gripper) =
        approach.chunk.waypoints.filterMap (·.gripper) := by
  have rate : 0 < approach.hz := by norm_num [approach]
  exact interpolator_contract rate (by norm_num) rfl

end FlexivControl
