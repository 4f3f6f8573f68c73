/-
A joint chunk that asks the arm to stay where it is.
-/

import FlexivControl.Filter.Steps
import FlexivControl.Library.Footprint
import FlexivControl.Robot.Facade

namespace FlexivControl

open Broadcast

theorem cappedTicks_zero (cap : Option ℝ) (dt : ℝ) : cappedTicks cap dt 0 ≤ 1 := by
  cases cap with
  | none => exact le_rfl
  | some cap =>
      unfold cappedTicks
      dsimp only
      split
      · rw [mul_zero, zero_div, Scalar.ceil_real, Int.ceil_zero]
        exact zero_le_one
      · exact le_rfl

theorem maxAbs_uniform (angle : ℝ) : maxAbs (uniform angle) = .ok |angle| := by
  change Except.ok (List.foldl max (Scalar.abs angle) (List.replicate 6 (Scalar.abs angle))) = _
  rw [Scalar.abs_real]
  simp only [List.replicate, List.foldl_cons, List.foldl_nil, max_self]

/-- A chunk whose only target is the start has that target in every tick. -/
theorem JointChunkInterpolator.setpoints_rest {interp : JointChunkInterpolator ℝ}
    {wp : JointWaypoint ℝ} (only : interp.chunk.waypoints = [wp])
    (stays : wp.positions = uniform 0) (start : interp.startQ = uniform 0) :
    interp.setpoints =
      List.replicate (requestedTicks (wp.resolveDuration interp.hz) interp.hz).toNat
        (.ok (uniform 0)) := by
  have still (s : ℝ) : broadcast (· + ·) (uniform 0) ((uniform 0).map (s * ·)) =
      .ok (uniform 0) := by
    have scaled : (uniform 0).map (s * ·) = uniform 0 := by
      rw [uniform, List.map_replicate, mul_zero]
    rw [scaled, broadcast_uniform, add_zero]
  have segment (n : Nat) : ((List.range n).map fun k =>
      broadcast (· + ·) (uniform 0) ((uniform 0).map
        (cosineBlend (Scalar.ofNat (k + 1) / Scalar.ofNat n) * ·))) ++
          interp.setpointsFrom (uniform 0) [] = List.replicate n (.ok (uniform 0)) := by
    simp only [still, setpointsFrom, List.append_nil, List.map_const', List.length_range]
  have atLeastOne : 1 ≤ requestedTicks (wp.resolveDuration interp.hz) interp.hz := le_max_left _ _
  unfold setpoints
  rw [only, start, setpointsFrom, stays, broadcast_uniform, sub_zero]
  dsimp only [bind, Except.bind]
  cases interp.maxJointSpeed with
  | none =>
      dsimp only [pure, Except.pure]
      rw [max_eq_right atLeastOne]
      exact segment _
  | some cap =>
      by_cases positive : 0 < cap
      · dsimp only [pure, Except.pure]
        have few := cappedTicks_zero (some cap) interp.dt
        rw [if_pos positive, maxAbs_uniform, abs_zero]
        dsimp only
        rw [max_eq_left (few.trans atLeastOne), max_eq_right atLeastOne]
        exact segment _
      · dsimp only [pure, Except.pure]
        rw [if_neg positive, max_eq_right atLeastOne]
        exact segment _

section Tick

variable {K : Type} [Scalar K]

def clearTick (state : RobotState K) (q : List K) : List (Call (effects K)) :=
  [⟨.cancelIsSet .tick, false⟩, ⟨.readState, .ok state⟩, ⟨.publishState state, ()⟩,
    ⟨.inFault, .ok false⟩, ⟨.write (.streamJoint q), .ok ()⟩]

theorem filterJoint_trace {robot : Robot K} {q : List K} {state : RobotState K}
    {sr : SafetyResult K} {filter : SafetyFilter K}
    (passed : robot.filter.filterJoint q state = .ok (sr, filter)) :
    Trace (filterJoint q state robot) [] (.done (.ok sr, { robot with filter := filter })) := by
  change Trace ((attempt (robot.filter.filterJoint q state) >>= _ :
    RobotM K (SafetyResult K)) robot) _ _
  rw [passed]
  exact .nil _

theorem jointTick_clear {robot : Robot K} {q q' : List K} (result : ExecutionResult K)
    {state : RobotState K} {sr : SafetyResult K} {filter : SafetyFilter K}
    (light : exceeds state.wrench robot.profile.maxContactWrench = false)
    (passed : robot.filter.filterJoint q state = .ok (sr, filter)) (ok : sr.ok = true)
    (found : sr.q = some q') :
    Trace (jointTick q result robot) (clearTick state q')
      (.done (.ok (if sr.clipped then { result with clipped := true } else result, true),
        { robot with filter := filter })) := by
  refine .cons (.cons (.cons (.cons ?_)))
  change Trace ((if exceeds state.wrench robot.profile.maxContactWrench = true then _ else
    (filterJoint q state >>= _) : RobotM K (ExecutionResult K × Bool)) robot) _ _
  rw [if_neg (by rw [light]; exact Bool.false_ne_true)]
  apply Script.trace_then (filterJoint_trace passed)
  rw [ok, found]
  exact .cons (.nil _)

theorem jointTicks_clear {robot robot' : Robot K} {q : List K}
    {result result' : ExecutionResult K} {xs ys : List (Call (effects K))}
    {rest : List (Except Exc (List K))} {end' : Program (effects K) _}
    (now : Trace (jointTick q result robot) xs (.done (.ok (result', true), robot')))
    (later : Trace (jointTicks rest result' robot') ys end') :
    Trace (jointTicks (.ok q :: rest) result robot) (xs ++ ys) end' := by
  have taken : Trace ((attempt (.ok q) : RobotM K (List K)) robot) [] (.done (.ok q, robot)) :=
    .nil _
  rw [← List.nil_append (xs ++ ys)]
  exact Script.trace_then taken (Script.trace_then now later)

end Tick

/-- The filter is anchored at the arm's resting position, under the shipped profile. -/
structure Robot.AtRest (robot : Robot ℝ) : Prop where
  active : robot.profile = tabletop
  filtered : robot.filter.p = tabletop
  anchored : robot.filter.prevQ = some (uniform 0) ∨ robot.filter.prevQ = none

theorem zeroed_light : exceeds zeroed.wrench tabletop.maxContactWrench = false := by
  rw [Bool.eq_false_iff, ne_eq, exceeds_real]
  rintro ⟨axis, heavy⟩
  fin_cases axis <;> norm_num [zeroed, tabletop] at heavy

theorem clampStep_zero (maxStep : ℝ) : clampStep maxStep 0 = 0 := by
  unfold clampStep
  split
  · rw [Scalar.sign, if_neg (lt_irrefl 0), if_neg (lt_irrefl 0), zero_mul]
  · rfl

theorem jointTick_resting {robot : Robot ℝ} (rest : robot.AtRest) (result : ExecutionResult ℝ)
    {state : RobotState ℝ} (joints : state.q = uniform 0) (unloaded : state.wrench = zeroed.wrench) :
    ∃ clipped robot', robot'.AtRest ∧ robot'.cfg = robot.cfg ∧
      Trace (jointTick (uniform 0) result robot) (clearTick state (uniform 0))
        (.done (.ok ({ result with clipped := clipped }, true), robot')) := by
  have reference : robot.filter.prevQ.getD state.q = uniform 0 := by
    rcases rest.anchored with anchored | fresh
    · rw [anchored]
      rfl
    · rw [fresh]
      exact joints
  obtain ⟨sr, passed, ok, found⟩ := robot.filter.filterJoint_uniform (by rw [rest.filtered])
    (by rw [rest.filtered]) (by rw [rest.filtered, tabletop]; norm_num) reference (t := 0)
    (by norm_num) (by norm_num)
  have stays : 0 + clampStep (maxJointStep robot.filter.p robot.filter.dt) ((0 : ℝ) - 0) = 0 := by
    rw [sub_zero, zero_add, clampStep_zero]
  rw [stays] at passed found
  have light : exceeds state.wrench robot.profile.maxContactWrench = false := by
    rw [unloaded, rest.active]
    exact zeroed_light
  have ran := jointTick_clear result light passed ok found
  have report : (if sr.clipped = true then { result with clipped := true } else result) =
      { result with clipped := sr.clipped || result.clipped } := by
    cases sr.clipped <;> rfl
  rw [report] at ran
  exact ⟨_, { robot with filter := { robot.filter with prevQ := some (uniform 0) } },
    ⟨rest.active, rest.filtered, Or.inl rfl⟩, rfl, ran⟩

theorem jointTick_rest {robot : Robot ℝ} (rest : robot.AtRest) (result : ExecutionResult ℝ) :
    ∃ clipped robot', robot'.AtRest ∧ robot'.cfg = robot.cfg ∧
      Trace (jointTick (uniform 0) result robot) (clearTick zeroed (uniform 0))
        (.done (.ok ({ result with clipped := clipped }, true), robot')) :=
  jointTick_resting rest result rfl rfl

theorem jointTicks_rest (n : Nat) {robot : Robot ℝ} (rest : robot.AtRest)
    (result : ExecutionResult ℝ) :
    ∃ clipped robot', robot'.AtRest ∧ robot'.cfg = robot.cfg ∧
      Trace (jointTicks (List.replicate n (.ok (uniform 0))) result robot)
        (List.replicate n (clearTick zeroed (uniform 0))).flatten
        (.done (.ok { result with clipped := clipped }, robot')) := by
  induction n generalizing robot result with
  | zero => exact ⟨result.clipped, robot, rest, rfl, .nil _⟩
  | succ n ih =>
      obtain ⟨clipped, robot₁, rest₁, cfg₁, now⟩ := jointTick_rest rest result
      obtain ⟨clipped', robot₂, rest₂, cfg₂, later⟩ :=
        ih rest₁ { result with clipped := clipped }
      refine ⟨clipped', robot₂, rest₂, cfg₂.trans cfg₁, ?_⟩
      rw [List.replicate_succ, List.replicate_succ, List.flatten_cons]
      exact jointTicks_clear now later

theorem verifyChunkProfile_trace {K : Type} [Scalar K] {robot : Robot K} {requested : String}
    (named : requested = "" ∨ requested = robot.profile.name) (result : ExecutionResult K) :
    Trace (verifyChunkProfile requested result robot) []
      (.done (.ok ((result.note "requested_profile" (.text requested)).note "active_profile"
        (.text robot.profile.name)), robot)) := by
  have accepted : ¬ (requested ≠ "" ∧ requested ≠ robot.profile.name) := by
    intro refused
    rcases named with empty | same
    · exact refused.1 empty
    · exact refused.2 same
  change Trace ((if requested ≠ "" ∧ requested ≠ robot.profile.name then _ else _ :
    RobotM K (ExecutionResult K)) robot) _ _
  rw [if_neg accepted]
  exact .nil _

theorem getState_trace {K : Type} [Scalar K] (robot : Robot K) (state : RobotState K) :
    Trace (getState robot) [⟨.readState, .ok state⟩, ⟨.publishState state, ()⟩]
      (.done (.ok state, robot)) :=
  .cons (.cons (.nil _))

theorem ensureJointStart_rest (robot : Robot ℝ) (result : ExecutionResult ℝ) :
    Trace (ensureJointStart result robot) [⟨.readState, .ok zeroed⟩, ⟨.publishState zeroed, ()⟩]
      (.done (.ok (zeroed, result), robot)) := by
  rw [← List.append_nil [_, _]]
  exact Script.trace_then (getState_trace robot zeroed) (.nil _)

/-- The robot with its filter anchored where the arm is. -/
noncomputable def Robot.anchored (robot : Robot ℝ) : Robot ℝ :=
  { robot with filter := robot.filter.reset (some zeroed) }

/-- The report of the chunk before its first tick. -/
noncomputable def JointChunk.report (chunk : JointChunk ℝ) (robot : Robot ℝ) : ExecutionResult ℝ :=
  (({} : ExecutionResult ℝ).note "requested_profile" (.text chunk.safetyProfile)).note
    "active_profile" (.text robot.profile.name)

noncomputable def JointChunk.fromRest (chunk : JointChunk ℝ) (robot : Robot ℝ) :
    JointChunkInterpolator ℝ :=
  { chunk := chunk, startQ := uniform 0, hz := robot.controlHz
    maxJointSpeed := some (Scalar.ofNat 2 * robot.profile.maxJointSpeedScale) }

noncomputable def chunkAround (owner : String) (ticks : List (Call (effects ℝ))) (success : Bool)
    (reason : StopReason) : List (Call (effects ℝ)) :=
  [⟨.facadeOwner, some owner⟩, ⟨.cancelIsSet .entry, false⟩, ⟨.readState, .ok zeroed⟩,
    ⟨.publishState zeroed, ()⟩, ⟨.perfCounter, (0 : ℝ)⟩] ++
  (ticks ++ [⟨.readState, .ok zeroed⟩, ⟨.publishState zeroed, ()⟩,
    ⟨.chunkReturns success reason, ()⟩])

theorem executeJointChunk_trace {robot robot' : Robot ℝ} {chunk : JointChunk ℝ}
    (named : chunk.safetyProfile = "" ∨ chunk.safetyProfile = robot.profile.name) (owner : String)
    {ticks : List (Call (effects ℝ))} {result : ExecutionResult ℝ}
    (ran : Trace (jointTicks (chunk.fromRest robot).setpoints (chunk.report robot) robot.anchored)
      ticks (.done (.ok result, robot'))) :
    Trace (executeJointChunk chunk false robot)
      (chunkAround owner ticks result.success result.stopReason)
      (.done (.ok { result with finalState := some zeroed }, robot')) := by
  have verified := verifyChunkProfile_trace named ({} : ExecutionResult ℝ)
  have started := ensureJointStart_rest robot (chunk.report robot)
  have reset : Trace (resetFilter zeroed robot) [] (.done (.ok ⟨⟩, robot.anchored)) := .nil _
  have timed : Trace (perfCounter robot.anchored) [⟨.perfCounter, (0 : ℝ)⟩]
      (.done (.ok (0 : ℝ), robot.anchored)) := .cons (.nil _)
  have final := getState_trace robot' zeroed
  have returned : Trace (returnResult { result with finalState := some zeroed } false robot')
      [⟨.chunkReturns result.success result.stopReason, ()⟩]
      (.done (.ok { result with finalState := some zeroed }, robot')) :=
    .cons (.nil _)
  have entered : Trace (executeJointChunk chunk false robot)
      [⟨.facadeOwner, some owner⟩, ⟨.cancelIsSet .entry, false⟩]
      (runJointChunk chunk false robot) := .cons (.cons (.nil _))
  have rest : Trace (runJointChunk chunk false robot) _
      (.done (.ok { result with finalState := some zeroed }, robot')) :=
    Script.trace_then verified (Script.trace_then started (Script.trace_then reset
      (Script.trace_then (x := get) (.nil _) (Script.trace_then timed
        (Script.trace_then ran (Script.trace_then final returned))))))
  exact entered.append rest

noncomputable def restChunk (owner : String) (n : Nat) : List (Call (effects ℝ)) :=
  [⟨.facadeOwner, some owner⟩, ⟨.cancelIsSet .entry, false⟩, ⟨.readState, .ok zeroed⟩,
    ⟨.publishState zeroed, ()⟩, ⟨.perfCounter, (0 : ℝ)⟩] ++
  ((List.replicate n (clearTick zeroed (uniform 0))).flatten ++
    [⟨.readState, .ok zeroed⟩, ⟨.publishState zeroed, ()⟩,
      ⟨.chunkReturns true .none, ()⟩])

theorem executeJointChunk_rest {robot : Robot ℝ} (active : robot.profile = tabletop)
    (filtered : robot.filter.p = tabletop) {chunk : JointChunk ℝ} {wp : JointWaypoint ℝ}
    (only : chunk.waypoints = [wp]) (stays : wp.positions = uniform 0)
    (named : chunk.safetyProfile = "" ∨ chunk.safetyProfile = robot.profile.name)
    (owner : String) :
    ∃ result robot', result.success = true ∧ Trace (executeJointChunk chunk false robot)
      (restChunk owner
        (requestedTicks (wp.resolveDuration robot.controlHz) robot.controlHz).toNat)
      (.done (.ok result, robot')) := by
  have rest : robot.anchored.AtRest := ⟨active, filtered, Or.inl rfl⟩
  obtain ⟨clipped, robot', _, _, ticks⟩ := jointTicks_rest
    (requestedTicks (wp.resolveDuration robot.controlHz) robot.controlHz).toNat rest
    (chunk.report robot)
  have setpoints : (chunk.fromRest robot).setpoints = _ :=
    JointChunkInterpolator.setpoints_rest only stays rfl
  have same : (chunk.fromRest robot).hz = robot.controlHz := rfl
  rw [same] at setpoints
  rw [← setpoints] at ticks
  exact ⟨_, robot', rfl, executeJointChunk_trace named owner ticks⟩

theorem jointMoveDuration_rest {speed : ℝ} (positive : 0 < speed) :
    jointMoveDuration zeroed.q (uniform 0) none (some speed) = .ok 1 := by
  have move : broadcast (· - ·) (uniform 0) zeroed.q = .ok (uniform 0) := by
    rw [zeroed, broadcast_uniform, sub_zero]
  unfold jointMoveDuration
  dsimp only [bind, Except.bind]
  rw [if_pos positive, move]
  dsimp only
  rw [maxAbs_uniform, abs_zero]
  dsimp only
  rw [zero_div, Scalar.greater_real, max_eq_left zero_le_one]

theorem moveJoint_rest {robot : Robot ℝ} (active : robot.profile = tabletop)
    (filtered : robot.filter.p = tabletop) {speed : ℝ} (positive : 0 < speed)
    (owner : String) :
    ∃ n result robot', result.success = true ∧
      Trace (moveJoint (uniform 0) none (some speed) false robot)
        ([⟨.facadeOwner, some owner⟩, ⟨.readState, .ok zeroed⟩, ⟨.publishState zeroed, ()⟩,
          ⟨.write (jointImpedanceCall none false), .ok ()⟩] ++ restChunk owner n)
        (.done (.ok result, robot')) := by
  have timed : Trace ((attempt (jointMoveDuration zeroed.q (uniform 0) none (some speed)) :
      RobotM ℝ ℝ) robot) [] (.done (.ok 1, robot)) := by
    rw [jointMoveDuration_rest positive]
    exact .nil _
  have started : Trace (startJointImpedance none false robot)
      [⟨.write (jointImpedanceCall none false), .ok ()⟩] (.done (.ok (), robot)) :=
    .cons (.nil _)
  have checked : Trace (checkLease robot) [⟨.facadeOwner, some owner⟩] (.done (.ok (), robot)) :=
    .cons (.nil _)
  let chunk : JointChunk ℝ :=
    { waypoints := [{ positions := uniform 0, duration := some 1, timed := Or.inr rfl }]
      safetyProfile := robot.profile.name
      nonempty := List.cons_ne_nil _ _ }
  have executed : ∃ n result robot', result.success = true ∧
      Trace (executeJointChunk chunk false robot) (restChunk owner n)
        (.done (.ok result, robot')) :=
    ⟨_, executeJointChunk_rest active filtered rfl rfl (Or.inr rfl) owner⟩
  obtain ⟨n, result, robot', success, executed⟩ := executed
  have ran : Trace (moveJoint (uniform 0) none (some speed) false robot) _
      (.done (.ok result, robot')) :=
    Script.trace_then checked (Script.trace_then (getState_trace robot zeroed)
      (Script.trace_then timed (Script.trace_then started
        (Script.trace_then (x := get) (.nil _) executed))))
  exact ⟨n, result, robot', success, ran⟩

end FlexivControl
