/-
What the report of a chunk run on the simulator can say.

The filter bounds the step between commands and the simulator follows them as a
first-order system, so it stays within a fixed lag of what it was told, it never moves
faster than the commands do, and a deferred close is not aborted for a gate wider than
the lag.
-/

import FlexivControl.Filter.StreamLimits
import FlexivControl.Robot.FakeRuns

namespace FlexivControl

open Script FirstOrder

section Gripping

/-- Every close recorded as aborted was clipped, or its gate is narrower than `bound`. -/
def ExecutionResult.Justified (bound gate : ℝ) (result : ExecutionResult ℝ) : Prop :=
  ∀ segment error gate' clipped,
    ("close_aborted", LogValue.closeAborted segment error gate' clipped) ∈ result.log →
      clipped = true ∨ gate < bound

theorem justified_of_unrecorded {bound gate : ℝ} {result : ExecutionResult ℝ}
    (unrecorded : "close_aborted" ∉ result.log.map Prod.fst) : result.Justified bound gate := by
  intro segment error gate' clipped member
  exact absurd (List.mem_map_of_mem (f := Prod.fst) member) unrecorded

theorem ExecutionResult.Justified.note {bound gate : ℝ} {result : ExecutionResult ℝ}
    (justified : result.Justified bound gate) (key : String) {value : LogValue ℝ}
    (fine : ∀ segment error gate' clipped, value = .closeAborted segment error gate' clipped →
      clipped = true ∨ gate < bound) : (result.note key value).Justified bound gate := by
  intro segment error gate' clipped member
  unfold ExecutionResult.note at member
  rcases List.mem_append.mp member with kept | new
  · exact justified segment error gate' clipped (List.mem_filter.mp kept).1
  · rw [List.mem_singleton, Prod.mk.injEq] at new
    exact fine segment error gate' clipped new.2.symm

/-- What a report may say: at most this error and speed, no wrench, aborts justified. -/
structure ExecutionResult.Within (bound speed gate : ℝ) (result : ExecutionResult ℝ) : Prop where
  error : result.pathTrackingError ≤ bound
  speed : result.maxTcpSpeed ≤ speed
  wrench : result.maxWrench = 0
  justified : result.Justified bound gate

/-- The measured locals and the verdict are the same, and what is recorded stays justified. -/
structure ChunkRun.Kept (bound gate : ℝ) (run run' : ChunkRun ℝ) : Prop where
  maxErr : run'.maxErr = run.maxErr
  maxSpeed : run'.maxSpeed = run.maxSpeed
  maxWrench : run'.maxWrench = run.maxWrench
  prevPos : run'.prevPos = run.prevPos
  prevCmdPos : run'.prevCmdPos = run.prevCmdPos
  success : run'.result.success = run.result.success
  clipped : run'.result.clipped = run.result.clipped
  justified : run.result.Justified bound gate → run'.result.Justified bound gate

variable {bound : ℝ} {run run' : ChunkRun ℝ} {chunk : CartesianChunk ℝ}

theorem ChunkRun.Kept.refl (bound gate : ℝ) (run : ChunkRun ℝ) : run.Kept bound gate run :=
  ⟨rfl, rfl, rfl, rfl, rfl, rfl, rfl, id⟩

theorem ChunkRun.Kept.trans {gate : ℝ} {run'' : ChunkRun ℝ} (first : run.Kept bound gate run')
    (next : run'.Kept bound gate run'') : run.Kept bound gate run'' where
  maxErr := next.maxErr.trans first.maxErr
  maxSpeed := next.maxSpeed.trans first.maxSpeed
  maxWrench := next.maxWrench.trans first.maxWrench
  prevPos := next.prevPos.trans first.prevPos
  prevCmdPos := next.prevCmdPos.trans first.prevCmdPos
  success := next.success.trans first.success
  clipped := next.clipped.trans first.clipped
  justified := next.justified ∘ first.justified

theorem trackingError_congr (same : run'.prevCmdPos = run.prevCmdPos) (state : RobotState ℝ) :
    run'.trackingError state = run.trackingError state := by
  unfold ChunkRun.trackingError
  rw [same]

abbrev CartesianChunk.gate (chunk : CartesianChunk ℝ) : ℝ := chunk.gripTrackingGateM.getD 0

theorem judgeClose_kept (g : GripperCommand ℝ) {state : RobotState ℝ}
    (near : run.trackingError state ≤ bound) :
    run.Kept bound chunk.gate (judgeClose chunk run g state).run := by
  unfold judgeClose
  dsimp only
  split
  · rename_i judged
    split
    · exact .refl bound _ run
    · rename_i unaborted
      refine ⟨rfl, rfl, rfl, rfl, rfl, rfl, rfl, fun justified => justified.note _ ?_⟩
      intro segment error gate' clipped same
      cases same
      rcases judged with aborted | clipped | wide
      · exact absurd aborted unaborted
      · exact Or.inl clipped
      · exact Or.inr (wide.trans_le near)
  · exact ⟨rfl, rfl, rfl, rfl, rfl, rfl, rfl, id⟩

theorem judgeCleared_kept (g : GripperCommand ℝ) {state : RobotState ℝ}
    (near : run.trackingError state ≤ bound) :
    run.Kept bound chunk.gate (judgeClose chunk { run with pendingClose := none } g state).run := by
  have cleared : run.Kept bound chunk.gate { run with pendingClose := none } :=
    ⟨rfl, rfl, rfl, rfl, rfl, rfl, rfl, id⟩
  have judged : ChunkRun.Kept bound chunk.gate { run with pendingClose := none }
      (judgeClose chunk { run with pendingClose := none } g state).run := judgeClose_kept g near
  exact cleared.trans judged

theorem fireStep_kept {state : RobotState ℝ} (near : run.trackingError state ≤ bound) :
    run.Kept bound chunk.gate (fireStep chunk run state).run := by
  unfold fireStep
  split
  · exact .refl bound _ run
  · rename_i g _ _
    split
    · exact judgeCleared_kept g near
    · exact .refl bound _ run

theorem settleStep_kept {state : RobotState ℝ} (near : run.trackingError state ≤ bound) :
    run.Kept bound chunk.gate (settleStep chunk run state).run := by
  unfold settleStep
  split
  · exact .refl bound _ run
  · rename_i g _ _
    exact judgeCleared_kept g near

theorem gripStep_kept (controlHz : ℝ) (sp : CartesianSetpoint ℝ) {state : RobotState ℝ}
    (near : run.trackingError state ≤ bound) :
    run.Kept bound chunk.gate (gripStep chunk controlHz sp run state).run := by
  unfold gripStep
  split
  · exact .refl bound _ run
  · unfold handleStep
    split
    · split
      · exact .refl bound _ run
      · exact (settleStep_kept near).trans ⟨rfl, rfl, rfl, rfl, rfl, rfl, rfl, id⟩
    · exact ⟨rfl, rfl, rfl, rfl, rfl, rfl, rfl, id⟩

theorem finishStep_kept {state : RobotState ℝ} (near : run.trackingError state ≤ bound) :
    run.Kept bound chunk.gate (finishStep chunk run state).run := by
  unfold finishStep
  split
  · exact .refl bound _ run
  · rename_i g _ _
    dsimp only
    split
    · exact judgeCleared_kept g near
    · split
      · exact ⟨rfl, rfl, rfl, rfl, rfl, rfl, rfl, id⟩
      · refine ⟨rfl, rfl, rfl, rfl, rfl, rfl, rfl, fun justified => justified.note _ ?_⟩
        intro segment error gate' clipped impossible
        cases impossible

end Gripping

section Measuring

variable {bound speed gate dt : ℝ} {run : ChunkRun ℝ} {chunk : CartesianChunk ℝ}

/-- What the report says of a run so far. -/
structure ChunkRun.Measured (bound speed gate : ℝ) (run : ChunkRun ℝ) : Prop where
  error : run.maxErr ≤ bound
  speed : run.maxSpeed ≤ speed
  wrench : run.maxWrench = 0
  justified : run.result.Justified bound gate

theorem ChunkRun.Kept.measured {run' : ChunkRun ℝ} (kept : run.Kept bound gate run')
    (measured : run.Measured bound speed gate) : run'.Measured bound speed gate where
  error := kept.maxErr ▸ measured.error
  speed := kept.maxSpeed ▸ measured.speed
  wrench := kept.maxWrench.trans measured.wrench
  justified := kept.justified measured.justified

theorem afterGripping_kept (hz : ℝ) {t : StreamedTick ℝ}
    (near : run.trackingError t.state ≤ bound) :
    (run.entering t).Kept bound chunk.gate (handledIn chunk hz run t).run := by
  have entered : (run.entering t).trackingError t.state ≤ bound := by
    unfold ChunkRun.entering
    dsimp only
    split <;> exact near
  have fired : (run.entering t).Kept bound chunk.gate (firedIn chunk run t).run :=
    fireStep_kept entered
  apply fired.trans
  apply gripStep_kept
  rw [trackingError_congr fired.prevCmdPos]
  exact entered

theorem entering_locals (run : ChunkRun ℝ) (t : StreamedTick ℝ) :
    (run.entering t).maxErr = run.maxErr ∧ (run.entering t).maxSpeed = run.maxSpeed ∧
      (run.entering t).maxWrench = run.maxWrench ∧ (run.entering t).prevPos = run.prevPos ∧
      (run.entering t).prevCmdPos = run.prevCmdPos ∧
      (run.entering t).result.success = run.result.success ∧
      (run.entering t).result.clipped = (run.result.clipped || t.sr.clipped) ∧
      (run.entering t).result.log = run.result.log := by
  unfold ChunkRun.entering
  dsimp only
  split
  · rename_i clipped
    refine ⟨rfl, rfl, rfl, rfl, rfl, rfl, ?_, rfl⟩
    rw [clipped, Bool.or_true]
  · rename_i unclipped
    refine ⟨rfl, rfl, rfl, rfl, rfl, rfl, ?_, rfl⟩
    rw [Bool.eq_false_iff.mpr unclipped, Bool.or_false]
    rfl

theorem wrenchPeak_zero :
    (wrenchList (fun _ => (0 : ℝ))).foldl (fun m w => Scalar.maximum m (Scalar.abs w)) 0 = 0 := by
  norm_num [wrenchList, List.finRange]

theorem afterTick_fields (run : ChunkRun ℝ) (chunk : CartesianChunk ℝ) (hz dt : ℝ)
    (t : StreamedTick ℝ) :
    (run.afterTick chunk hz dt t).prevPos = t.state.tcpPose.pos ∧
      (run.afterTick chunk hz dt t).prevCmdPos = some t.pose.pos ∧
      (run.afterTick chunk hz dt t).result.success = run.result.success ∧
      (run.afterTick chunk hz dt t).result.clipped = (run.result.clipped || t.sr.clipped) := by
  have kept : (run.entering t).Kept _ chunk.gate (handledIn chunk hz run t).run :=
    afterGripping_kept hz (le_refl (run.trackingError t.state))
  obtain ⟨_, _, _, _, _, success, clipped, _⟩ := entering_locals run t
  exact ⟨rfl, rfl, kept.success.trans success, kept.clipped.trans clipped⟩

theorem record_error_le {state : RobotState ℝ} (error : run.maxErr ≤ bound)
    (near : run.trackingError state ≤ bound) (dt : ℝ) (commanded : Vec3 ℝ) :
    (run.record dt state commanded).maxErr ≤ bound := by
  unfold ChunkRun.trackingError at near
  unfold ChunkRun.record
  dsimp only
  split
  · exact error
  · rename_i cmd given
    rw [given] at near
    exact (Scalar.greater_real _ _).trans_le (max_le error near)

theorem afterTick_measured (hz : ℝ) {t : StreamedTick ℝ}
    (measured : run.Measured bound speed chunk.gate) (near : run.trackingError t.state ≤ bound)
    (slow : (t.state.tcpPose.pos - run.prevPos).norm / dt ≤ speed)
    (free : t.state.wrench = fun _ => 0) :
    (run.afterTick chunk hz dt t).Measured bound speed chunk.gate := by
  have kept : (run.entering t).Kept _ chunk.gate (handledIn chunk hz run t).run :=
    afterGripping_kept hz near
  obtain ⟨maxErr, maxSpeed, maxWrench, prevPos, prevCmdPos, _, _, log⟩ := entering_locals run t
  let handled := (handledIn chunk hz run t).run
  have error : handled.maxErr ≤ bound := (kept.maxErr.trans maxErr).trans_le measured.error
  have before : handled.prevCmdPos = run.prevCmdPos := kept.prevCmdPos.trans prevCmdPos
  constructor
  · have far : handled.trackingError t.state ≤ bound :=
      (trackingError_congr before t.state).trans_le near
    change ({ handled with trajectory := t.rows }.record dt t.state t.pose.pos).maxErr ≤ bound
    exact record_error_le error far dt t.pose.pos
  · change Scalar.greater handled.maxSpeed
      ((t.state.tcpPose.pos - handled.prevPos).norm / dt) ≤ speed
    rw [Scalar.greater_real, show handled.prevPos = run.prevPos from kept.prevPos.trans prevPos]
    exact max_le ((kept.maxSpeed.trans maxSpeed).trans_le measured.speed) slow
  · change Scalar.greater handled.maxWrench ((wrenchList t.state.wrench).foldl
      (fun m w => Scalar.maximum m (Scalar.abs w)) 0) = 0
    rw [free, wrenchPeak_zero, Scalar.greater_real,
      show handled.maxWrench = 0 from (kept.maxWrench.trans maxWrench).trans measured.wrench,
      max_self]
  · apply kept.justified
    intro segment error gate' clipped member
    rw [log] at member
    exact measured.justified segment error gate' clipped member

theorem ChunkRun.Measured.report (measured : run.Measured bound speed gate)
    (start final : RobotState ℝ) : (run.report start final).Within bound speed gate := by
  have rows (rows : List (List ℝ)) (result : ExecutionResult ℝ)
      (justified : result.Justified bound gate) :
      (result.note "trajectory" (.rows rows)).Justified bound gate := by
    apply justified.note
    intro segment error gate' clipped impossible
    cases impossible
  have stopped (index : ℕ) (result : ExecutionResult ℝ)
      (justified : result.Justified bound gate) :
      (result.note "stopped_at_waypoint" (.index index)).Justified bound gate := by
    apply justified.note
    intro segment error gate' clipped impossible
    cases impossible
  have plain := measured.justified
  unfold ChunkRun.report
  dsimp only
  split
  · split
    · exact ⟨measured.error, measured.speed, measured.wrench, plain⟩
    · exact ⟨measured.error, measured.speed, measured.wrench, stopped _ _ plain⟩
  · split
    · exact ⟨measured.error, measured.speed, measured.wrench, rows _ _ plain⟩
    · exact ⟨measured.error, measured.speed, measured.wrench, stopped _ _ (rows _ _ plain)⟩

end Measuring

/-! ### The lag through a run -/

theorem FakeBackend.tracked_toE (g : FakeBackend ℝ) (pose : Pose ℝ) :
    (g.tracked pose).pos.toE = track g.alpha g.pose.pos.toE pose.pos.toE := by
  change (g.pose.pos * (1 - g.alpha) + pose.pos * g.alpha).toE = _
  rw [Vec3.toE_add, Vec3.toE_mul, Vec3.toE_mul, track]

section Steering

variable {heard : Bool → Prop} {p : SafetyProfile ℝ} {dt a : ℝ} {robot robot' : Robot ℝ}
  {g g' : FakeBackend ℝ} {run run' : ChunkRun ℝ}

/-- The simulator is within the lag of the filter's reference, which is the last command. -/
structure Steered (p : SafetyProfile ℝ) (dt a : ℝ) (robot : Robot ℝ) (g : FakeBackend ℝ)
    (run : ChunkRun ℝ) : Prop where
  profile : robot.filter.p = p
  step : robot.filter.dt = dt
  rate : robot.dt = dt
  cartesian : g.mode.isCartesian = true
  tracking : g.alpha = a
  anchored : ∃ ref v, robot.filter.Anchored ref v ∧
    ‖ref.pos.toE - g.pose.pos.toE‖ ≤ lag a (linearStep p dt) ∧
    ∀ cmd, run.prevCmdPos = some cmd → cmd = ref.pos
  moved : ‖g.pose.pos.toE - run.prevPos.toE‖ ≤ linearStep p dt

/-- The last command is within `bound` of wherever the simulator is. -/
def NearCommand (bound : ℝ) (g : FakeBackend ℝ) (run : ChunkRun ℝ) : Prop :=
  ∀ now, run.trackingError (g.readState now) ≤ bound

theorem nearCommand_of {bound : ℝ} {ref : Pose ℝ} (nonneg : 0 ≤ bound)
    (behind : ‖ref.pos.toE - g.pose.pos.toE‖ ≤ bound)
    (last : ∀ cmd, run.prevCmdPos = some cmd → cmd = ref.pos) : NearCommand bound g run := by
  intro now
  unfold ChunkRun.trackingError
  split
  · exact nonneg
  · rename_i cmd given
    rw [last cmd given, ← Vec3.norm_toE, Vec3.toE_sub]
    exact behind

theorem Steered.near (steered : Steered p dt a robot g run) (nonneg : 0 ≤ lag a (linearStep p dt)) :
    NearCommand (lag a (linearStep p dt)) g run := by
  obtain ⟨ref, v, _, behind, last⟩ := steered.anchored
  exact nearCommand_of nonneg behind last

theorem StreamedTick.Passes.emission {t : StreamedTick ℝ} {cap : Wrench ℝ}
    {f f' : SafetyFilter ℝ} (passes : t.Passes cap f f') (caps : f.p.NonnegCaps)
    (fine : eps ≤ f.dt) {ref : Pose ℝ} {v : Vec3 ℝ} (anchored : f.Anchored ref v) :
    ∃ v', Emission f ref v t.pose v' f' := by
  rcases f.filterCartesian_anchored caps fine anchored t.sp.pose t.state (some cap) with
    ⟨reason, rejected⟩ | ⟨pose, v', clipped, reasons, f'', emitted, emission⟩
  · rw [passes.filtered, Prod.mk.injEq] at rejected
    have ok := passes.streamed.1
    rw [rejected.1] at ok
    cases ok
  · rw [passes.filtered, Prod.mk.injEq] at emitted
    obtain ⟨same, left⟩ := emitted
    have found := passes.streamed.2
    rw [same, Option.some.injEq] at found
    rw [left, ← found]
    exact ⟨v', emission⟩

/-- A streamed tick: the simulator follows the emitted pose and is within the lag again. -/
theorem Steered.followed (steered : Steered p dt a robot g run) (caps : p.NonnegCaps)
    (fine : eps ≤ dt) (positive : 0 < a) (upper : a ≤ 1) {cap : Wrench ℝ} {t : StreamedTick ℝ}
    (chunk : CartesianChunk ℝ) (hz : ℝ) (read : ∃ now, t.state = g.readState now)
    (passes : t.Passes cap robot.filter robot'.filter) (only : robot.WithFilter robot')
    (still : (g.followed t.pose).Same g') :
    Steered p dt a robot' g' (run.afterTick chunk hz dt t) := by
  obtain ⟨ref, v, anchored, behind, _⟩ := steered.anchored
  obtain ⟨now, here⟩ := read
  obtain ⟨prevPos, prevCmdPos, _, _⟩ := afterTick_fields run chunk hz dt t
  obtain ⟨v', emission⟩ := passes.emission (by rwa [steered.profile])
    (by rwa [steered.step]) anchored
  have short : ‖t.pose.pos.toE - ref.pos.toE‖ ≤ linearStep p dt := by
    rw [← Vec3.toE_sub, Vec3.norm_toE, ← steered.profile, ← steered.step]
    exact emission.norm_le
  have moved : g'.pose.pos.toE = track a g.pose.pos.toE t.pose.pos.toE := by
    rw [still.pose, ← steered.tracking]
    exact g.tracked_toE t.pose
  constructor
  · exact emission.profile.trans steered.profile
  · exact emission.step.trans steered.step
  · exact only.rates.2.1.trans steered.rate
  · rw [still.mode]
    exact steered.cartesian
  · rw [still.alpha]
    exact steered.tracking
  · refine ⟨t.pose, v', emission.anchored, ?_, ?_⟩
    · rw [moved]
      exact norm_sub_track_le positive upper behind short
    · intro cmd given
      rw [prevCmdPos, Option.some.injEq] at given
      rw [given]
  · rw [prevPos, here, moved]
    exact norm_track_sub_le positive behind short

def TicksMeasured (p : SafetyProfile ℝ) (dt a gate : ℝ) (run : ChunkRun ℝ) (g : FakeBackend ℝ) :
    Prop :=
  run.Measured (lag a (linearStep p dt)) (linearStep p dt / dt) gate ∧
    NearCommand (lag a (linearStep p dt)) g run

theorem cartesianTicks_measured (caps : p.NonnegCaps) (fine : eps ≤ dt) (positive : 0 < a)
    (upper : a ≤ 1) (chunk : CartesianChunk ℝ) (cap : Wrench ℝ) (t0 : ℝ)
    (setpoints : List (CartesianSetpoint ℝ)) :
    ∀ {run : ChunkRun ℝ} {robot : Robot ℝ} {g : FakeBackend ℝ}, Steered p dt a robot g run →
      run.Measured (lag a (linearStep p dt)) (linearStep p dt / dt) chunk.gate →
      wp (onAnyFake heard) (cartesianTicks chunk cap t0 setpoints run)
        (fun out _ g' => ∃ run', out = .ok run' ∧ TicksMeasured p dt a chunk.gate run' g')
        robot g := by
  have ticking : 0 < dt := lt_of_lt_of_le eps_pos fine
  have stepNonneg : 0 ≤ linearStep p dt :=
    le_min caps.poseJumpLinear (mul_nonneg caps.linearSpeed ticking.le)
  have nonneg : 0 ≤ lag a (linearStep p dt) := lag_nonneg positive upper stepNonneg
  induction setpoints with
  | nil =>
      intro run robot g steered measured
      exact ⟨run, rfl, measured, steered.near nonneg⟩
  | cons sp rest ih =>
      intro run robot g steered measured
      unfold cartesianTicks
      rw [wp_bind]
      apply wp_mono (cartesianTick_onFake chunk cap t0 sp run robot steered.cartesian)
      rintro out robot' g' (⟨_, still, reason, ended⟩ | ⟨t, same, read, passes, only, still, ended⟩)
      · rw [ended, afterStep_ok]
        refine ⟨_, rfl, ⟨measured.error, measured.speed, measured.wrench, measured.justified⟩, ?_⟩
        obtain ⟨ref, v, _, behind, last⟩ := steered.anchored
        rw [← still.pose] at behind
        exact nearCommand_of nonneg behind last
      · rw [ended, steered.rate, afterStep_ok]
        apply ih (steered.followed caps fine positive upper chunk _ read passes only still)
        obtain ⟨now, here⟩ := read
        apply afterTick_measured _ measured
        · rw [here]
          exact steered.near nonneg now
        · rw [here, ← Vec3.norm_toE, Vec3.toE_sub]
          exact div_le_div_of_nonneg_right steered.moved ticking.le
        · rw [here]
          rfl

end Steering

section Reports

variable {heard : Bool → Prop} {robot : Robot ℝ} {g : FakeBackend ℝ} {chunk : CartesianChunk ℝ}

theorem ticksEnd_measured (paced : robot.Paced) (rate : robot.dt = 1 / robot.controlHz)
    (caps : robot.profile.NonnegCaps) (fine : eps ≤ robot.dt) (positive : 0 < g.alpha)
    (upper : g.alpha ≤ 1) :
    TicksEnd heard chunk robot g fun executed run g' =>
      TicksMeasured robot.profile robot.dt g.alpha executed.gate run g' := by
  intro executed result trajectory t0 g₀ start _ clean still cartesian here
  have ticking : 0 < robot.dt := lt_of_lt_of_le eps_pos fine
  have stepNonneg : 0 ≤ linearStep robot.profile robot.dt :=
    le_min caps.poseJumpLinear (mul_nonneg caps.linearSpeed ticking.le)
  have nonneg := lag_nonneg positive upper stepNonneg
  have sameProfile : (robot.filter.reset (some start)).p = robot.profile :=
    (robot.filter.reset_p _ _ _).trans paced.profile
  have sameStep : (robot.filter.reset (some start)).dt = robot.dt :=
    ((robot.filter.reset_dt _ _ _).trans paced.step).trans rate.symm
  apply cartesianTicks_measured caps fine positive upper
  · have anchored := robot.filter.reset_anchored (by rwa [paced.profile])
      (by rw [paced.step, ← rate]; exact ticking.le) (some start) none none start.tcpPose rfl
    refine ⟨sameProfile, sameStep, rfl, cartesian, still.alpha,
      ⟨start.tcpPose, 0, anchored, ?_, ?_⟩,
      ?_⟩
    · rw [here, still.pose, sub_self, norm_zero]
      exact nonneg
    · intro cmd impossible
      cases impossible
    · rw [still.pose, sub_self, norm_zero]
      exact stepNonneg
  · exact ⟨nonneg, div_nonneg stepNonneg ticking.le, rfl, justified_of_unrecorded clean.unrecorded⟩

/-- Whatever is asked of it and however it ends, a chunk on the simulator reports an error
within the lag and a speed within the profile's. -/
theorem fake_reports_bounded (paced : robot.Paced) (rate : robot.dt = 1 / robot.controlHz)
    (caps : robot.profile.NonnegCaps) (fine : 1 / 1000000000 ≤ robot.dt) (positive : 0 < g.alpha)
    (upper : g.alpha ≤ 1) {raiseOnStop record : Bool} {calls : List (Call (effects ℝ))}
    {result : ExecutionResult ℝ} {robot' : Robot ℝ}
    (ran : Trace (executeCartesianChunk chunk raiseOnStop record robot) calls
      (.done (.ok result, robot'))) (answered : g.Answered calls) :
    result.pathTrackingError ≤ (1 - g.alpha) / g.alpha * linearStep robot.profile robot.dt ∧
      result.maxTcpSpeed ≤ linearStep robot.profile robot.dt / robot.dt ∧ result.maxWrench = 0 ∧
      ∀ gate, chunk.gripTrackingGateM = some gate →
        (1 - g.alpha) / g.alpha * linearStep robot.profile robot.dt ≤ gate →
        ∀ segment error gate' clipped,
          ("close_aborted", LogValue.closeAborted segment error gate' clipped) ∈ result.log →
            clipped = true := by
  have fineEps : eps ≤ robot.dt := by
    rw [eps_real]
    exact fine
  have ticking : 0 < robot.dt := lt_of_lt_of_le eps_pos fineEps
  have stepNonneg : 0 ≤ linearStep robot.profile robot.dt :=
    le_min caps.poseJumpLinear (mul_nonneg caps.linearSpeed ticking.le)
  have within : result.Within (lag g.alpha (linearStep robot.profile robot.dt))
      (linearStep robot.profile robot.dt / robot.dt) chunk.gate := by
    have came := (Program.wp_sound (executeCartesianChunk_onFake
      (ticksEnd_measured paced rate caps fineEps positive upper) raiseOnStop record) ran answered).2
    cases came with
    | cancelled _ _ _ blank =>
        obtain ⟨error, speed, wrench, unrecorded⟩ := blank result rfl
        refine ⟨?_, ?_, wrench, justified_of_unrecorded unrecorded⟩
        · rw [error]
          exact lag_nonneg positive upper stepNonneg
        · rw [speed]
          exact div_nonneg stepNonneg ticking.le
    | ran made holds still start now later report reported _ returned =>
        rename_i executed run g₁
        obtain ⟨measured, near⟩ := holds
        rcases returned with ok | ⟨_, _, e, failed⟩
        · cases ok
          have sameGate : executed.gate = chunk.gate :=
            congrArg (Option.getD · 0) (forExecution_resolves made).2.1
          have kept : run.Kept _ executed.gate (finishStep executed run (g₁.readState now)).run :=
            finishStep_kept (near now)
          rw [reported, ← sameGate]
          exact (kept.measured measured).report start _
        · cases failed
  refine ⟨within.error, within.speed, within.wrench, ?_⟩
  intro gate given wide segment error gate' clipped member
  have same : chunk.gate = gate := by
    rw [CartesianChunk.gate, given, Option.getD_some]
  rcases within.justified segment error gate' clipped member with unclean | narrow
  · exact unclean
  · rw [same] at narrow
    exact absurd narrow (not_lt.mpr wide)

end Reports

noncomputable def laggingFake : FakeBackend ℝ :=
  (FakeBackend.init nJointsDefault (some overTable) none (1 / 2)).connect

theorem tabletopRobot_dt : tabletopRobot.dt = 1 / tabletopRobot.controlHz := rfl

theorem tabletopRobot_fine : 1 / 1000000000 ≤ tabletopRobot.dt := by
  have rate : tabletopRobot.dt = 1 / 100 := by
    change (1 : ℝ) / (if (0 : ℝ) < 100 ∨ (100 : ℝ) < 0 then 100 else _) = 1 / 100
    rw [if_pos (Or.inl (by norm_num))]
  rw [rate]
  norm_num

theorem fake_run_returns {robot : Robot ℝ} {g : FakeBackend ℝ} {chunk executed : CartesianChunk ℝ}
    (unnamed : chunk.safetyProfile = "") (made : chunk.forExecution g.pose = .ok executed)
    {ended : CartesianChunk ℝ → ChunkRun ℝ → FakeBackend ℝ → Prop}
    (ticks : TicksEnd (fun set => set = false) chunk robot g ended) (record : Bool) :
    ∃ calls result robot', Trace (executeCartesianChunk chunk false record robot) calls
      (.done (.ok result, robot')) ∧ g.Answered calls := by
  obtain ⟨calls, ⟨out, robot'⟩, ran, answered, calm⟩ := exists_fake_run g
    (executeCartesianChunk chunk false record robot)
  have came := (Program.wp_sound (executeCartesianChunk_onFake ticks false record) ran
    (answered.uncancelled calls calm)).2
  cases came with
  | mismatched e named => exact absurd unnamed named
  | unresolved e why => cases made.symm.trans why
  | cancelled hears => cases hears
  | ran _ _ _ _ _ _ report _ _ returned =>
      rcases returned with ok | ⟨raises, _⟩
      · cases ok
        exact ⟨calls, report, robot', ran, answered⟩
      · cases raises

theorem fake_reports_bounded_lagging : ∃ calls result robot',
    Trace (executeCartesianChunk raiseChunk false false tabletopRobot) calls
        (.done (.ok result, robot')) ∧
      result.pathTrackingError ≤ (1 - 1 / 2) / (1 / 2) * linearStep tabletop tabletopRobot.dt := by
  have half : (0 : ℝ) < laggingFake.alpha ∧ laggingFake.alpha ≤ 1 := by
    norm_num [laggingFake, FakeBackend.init, FakeBackend.connect]
  have fineEps : eps ≤ tabletopRobot.dt := by
    rw [eps_real]
    exact tabletopRobot_fine
  obtain ⟨calls, result, robot', ran, answered⟩ := fake_run_returns
    (rfl : raiseChunk.safetyProfile = "") (rfl : raiseChunk.forExecution laggingFake.pose = _)
    (ticksEnd_measured tabletopRobot_paced tabletopRobot_dt tabletop_positiveCaps.nonneg fineEps
      half.1 half.2) false
  exact ⟨calls, result, robot', ran, (fake_reports_bounded tabletopRobot_paced tabletopRobot_dt
    tabletop_positiveCaps.nonneg tabletopRobot_fine half.1 half.2 ran answered).1⟩

end FlexivControl
