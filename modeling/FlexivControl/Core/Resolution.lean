/-
What a chunk keeps when it is resolved against a start pose and cut to its horizon.
-/

import FlexivControl.Core.ActionChunk

namespace FlexivControl

variable {K : Type} [Scalar K]

theorem mapM_forall₂ {α β : Type} {f : α → Except Exc β} {xs : List α} {ys : List β}
    (mapped : xs.mapM f = .ok ys) : List.Forall₂ (fun x y => f x = .ok y) xs ys := by
  induction xs generalizing ys with
  | nil =>
      cases mapped
      exact .nil
  | cons x rest ih =>
      rw [List.mapM_cons] at mapped
      cases head : f x with
      | error e =>
          rw [head] at mapped
          cases mapped
      | ok y =>
          cases tail : rest.mapM f with
          | error e =>
              rw [head, tail] at mapped
              cases mapped
          | ok zs =>
              rw [head, tail] at mapped
              cases mapped
              exact .cons head (ih tail)

theorem CartesianWaypoint.create_fields {position : Vec3 K} {quaternion : Option (Quat K)}
    {gripper : Option (GripperCommand K)} {nFrames : Option Int} {duration : Option K}
    {frame : String} {made : CartesianWaypoint K}
    (created : create position quaternion gripper nFrames duration frame = .ok made) :
    made.position = position ∧ made.gripper = gripper ∧ made.nFrames = nFrames ∧
      made.duration = duration ∧
      made.quaternion = quaternion.map fun q => q / q.norm := by
  unfold create at created
  cases quaternion with
  | none =>
      dsimp only [bind, Except.bind, pure, Except.pure] at created
      split at created
      · split at created
        · cases created
          exact ⟨rfl, rfl, rfl, rfl, rfl⟩
        · cases created
      · cases created
  | some q =>
      dsimp only [bind, Except.bind, pure, Except.pure] at created
      split at created
      · cases created
      · split at created
        · split at created
          · cases created
            exact ⟨rfl, rfl, rfl, rfl, rfl⟩
          · cases created
        · cases created

theorem toAbsolute_gripper {start : Pose K} {wp made : CartesianWaypoint K}
    (resolved : wp.toAbsolute start = .ok made) : made.gripper = wp.gripper := by
  unfold CartesianWaypoint.toAbsolute at resolved
  exact (CartesianWaypoint.create_fields resolved).2.1

/-- The waypoints as absolute ones, before the horizon cuts them. -/
def CartesianChunk.ResolvesTo (chunk : CartesianChunk K) (start : Pose K)
    (waypoints : List (CartesianWaypoint K)) : Prop :=
  match chunk.representation with
  | .absolute => waypoints = chunk.waypoints
  | .relativeToStart => List.Forall₂ (fun wp made => wp.toAbsolute start = .ok made)
      chunk.waypoints waypoints

theorem resolveToAbsolute_resolves {chunk resolved : CartesianChunk K} {start : Pose K}
    (made : chunk.resolveToAbsolute start = .ok resolved) :
    chunk.ResolvesTo start resolved.waypoints ∧
      resolved.gripTrackingGateM = chunk.gripTrackingGateM ∧
      resolved.maxTcpLinearSpeed = chunk.maxTcpLinearSpeed ∧
      resolved.maxTcpAngularSpeed = chunk.maxTcpAngularSpeed := by
  unfold CartesianChunk.resolveToAbsolute at made
  split at made
  · rename_i absolute
    cases made
    unfold CartesianChunk.ResolvesTo
    rw [absolute]
    exact ⟨rfl, rfl, rfl, rfl⟩
  · rename_i relative
    split at made
    · cases made
    · rename_i waypoints mapped
      cases made
      unfold CartesianChunk.ResolvesTo
      rw [relative]
      exact ⟨mapM_forall₂ mapped, rfl, rfl, rfl⟩

/-- What runs: the first `horizonExec` of the resolved waypoints, all else as given. -/
theorem forExecution_resolves {chunk executed : CartesianChunk K} {start : Pose K}
    (made : chunk.forExecution start = .ok executed) :
    (∃ waypoints, chunk.ResolvesTo start waypoints ∧
      executed.waypoints = waypoints.take chunk.horizonExec) ∧
    executed.gripTrackingGateM = chunk.gripTrackingGateM ∧
    executed.maxTcpLinearSpeed = chunk.maxTcpLinearSpeed ∧
    executed.maxTcpAngularSpeed = chunk.maxTcpAngularSpeed := by
  unfold CartesianChunk.forExecution at made
  cases resolves : chunk.resolveToAbsolute start with
  | error e =>
      rw [resolves] at made
      cases made
  | ok resolved =>
      rw [resolves] at made
      obtain ⟨same, kept⟩ := resolveToAbsolute_resolves resolves
      dsimp only [bind, Except.bind] at made
      split at made
      · rename_i whole
        cases made
        exact ⟨⟨_, same, (List.take_of_length_le whole).symm⟩, kept⟩
      · cases made
        exact ⟨⟨resolved.waypoints, same, rfl⟩, kept⟩

theorem CartesianChunk.ResolvesTo.grippers {chunk : CartesianChunk K} {start : Pose K}
    {waypoints : List (CartesianWaypoint K)} (resolves : chunk.ResolvesTo start waypoints) :
    waypoints.map (·.gripper) = chunk.waypoints.map (·.gripper) := by
  unfold ResolvesTo at resolves
  split at resolves
  · rw [resolves]
  · generalize chunk.waypoints = given at resolves
    induction resolves with
    | nil => rfl
    | cons made _ ih =>
        rw [List.map_cons, List.map_cons, ih, toAbsolute_gripper made]

theorem forExecution_grippers {chunk executed : CartesianChunk K} {start : Pose K}
    (made : chunk.forExecution start = .ok executed) :
    executed.waypoints.filterMap (·.gripper) =
      (chunk.waypoints.take chunk.horizonExec).filterMap (·.gripper) := by
  obtain ⟨⟨waypoints, resolves, cut⟩, _⟩ := forExecution_resolves made
  have grippers := congrArg (fun gs => (gs.take chunk.horizonExec).filterMap id) resolves.grippers
  simp only [← List.map_take, List.filterMap_map, Function.comp_def, id_eq] at grippers
  rw [cut]
  exact grippers

end FlexivControl
