/-
A chunk in spec, run on the simulator with perfect tracking.

Nothing is clipped, the simulator stands on every setpoint in turn, and the chunk ends with
it on the last waypoint.
-/

import FlexivControl.Robot.FakeTracking

namespace FlexivControl

open Script

section Landing

variable {p : SafetyProfile ℝ} {dt : ℝ} {cap : Wrench ℝ}

/-- Perfect tracking, without a fault, in a Cartesian mode. -/
structure FakeBackend.Sound (g : FakeBackend ℝ) : Prop where
  perfect : g.alpha = 1
  healthy : g.fault = false
  cartesian : g.mode.isCartesian = true

theorem FakeBackend.tracked_of_perfect {g : FakeBackend ℝ} (perfect : g.alpha = 1) {pose : Pose ℝ}
    (unit : quatNormalize pose.quat = pose.quat)
    (aligned : quatNormalize g.pose.quat = pose.quat) : g.tracked pose = pose := by
  unfold tracked
  rw [perfect, unit]
  apply Pose.ext
  · apply Vec3.toE_injective
    rw [Vec3.toE_add, Vec3.toE_mul, Vec3.toE_mul, sub_self, zero_smul, one_smul, zero_add]
  · rw [quatSlerp_of_aligned (aligned.trans unit.symm), unit]

theorem cartesianTick_landed (caps : p.PositiveCaps) (uncapped : p.maxLinearAccel = none)
    (roomy : p.maxLinearSpeed * dt ≤ p.maxPoseJumpLinear)
    (light : exceeds (fun _ => 0) cap = false) (chunk : CartesianChunk ℝ) (t0 : ℝ)
    {ref : Pose ℝ} {sp : CartesianSetpoint ℝ} (inside : p.contains sp.pose.pos)
    (unit : quatNormalize sp.pose.quat = sp.pose.quat)
    (aligned : quatNormalize ref.quat = sp.pose.quat)
    (short : (sp.pose.pos - ref.pos).norm ≤ p.maxLinearSpeed * dt) {run : ChunkRun ℝ}
    {robot : Robot ℝ} (filters : robot.FiltersFrom p dt ref) {g : FakeBackend ℝ} (sound : g.Sound)
    (here : g.pose = ref) :
    wp (onAnyFake fun set => set = false) (cartesianTick chunk cap t0 sp run)
      (fun out robot' g' => robot'.FiltersFrom p dt sp.pose ∧ g'.Sound ∧ g'.pose = sp.pose ∧
        g'.cartesianLog = g.cartesianLog ++ [sp.pose] ∧ ∃ run', out = .ok (run', true) ∧
          run'.result.success = run.result.success ∧ run'.result.clipped = run.result.clipped)
      robot g := by
  have passing (now : ℝ) : ∃ v, robot.filter.filterCartesian sp.pose (g.readState now) (some cap) =
      ({ ok := true, pose := some sp.pose, clipped := false, clipReasons := [] },
        { robot.filter with prevPose := some sp.pose, prevLinVel := some v }) :=
    filters.passes caps uncapped roomy inside (aligned.trans unit.symm) short light
  apply wp_mono (cartesianTick_onFake chunk cap t0 sp run robot sound.cartesian)
  rintro out robot' g' (⟨refused, _⟩ | ⟨t, same, ⟨now, read⟩, passes, only, still, ended⟩)
  · rcases refused with heard | faulted | heavy | ⟨now, nothing⟩
    · cases heard
    · cases sound.healthy.symm.trans faulted
    · cases light.symm.trans heavy
    · obtain ⟨v, passed⟩ := passing now
      refine absurd ?_ (nothing sp.pose)
      rw [passed]
      exact ⟨rfl, rfl⟩
  · obtain ⟨v, passed⟩ := passing now
    have filtered := passes.filtered
    rw [same, read, passed, Prod.mk.injEq] at filtered
    obtain ⟨result, left⟩ := filtered
    have streamed : sp.pose = t.pose := by
      have found := passes.streamed.2
      rw [← result, Option.some.injEq] at found
      exact found
    have lands : (g.followed t.pose).pose = sp.pose := by
      rw [← streamed]
      exact FakeBackend.tracked_of_perfect sound.perfect unit (here ▸ aligned)
    obtain ⟨_, _, success, clipped⟩ := afterTick_fields run chunk robot.controlHz robot.dt t
    refine ⟨?_, ⟨?_, ?_, ?_⟩, ?_, ?_, _, ended, success, ?_⟩
    · constructor
      · rw [← left]
        exact filters.profile
      · rw [← left]
        exact filters.step
      · rw [← left]
    · exact still.alpha.trans sound.perfect
    · exact still.fault.trans sound.healthy
    · exact (congrArg ControlMode.isCartesian still.mode).trans sound.cartesian
    · exact still.pose.trans lands
    · rw [still.log, ← streamed]
      rfl
    · rw [clipped, ← result, Bool.or_false]

def TicksLanded (g : FakeBackend ℝ) (ref : Pose ℝ) (setpoints : List (CartesianSetpoint ℝ))
    (run : ChunkRun ℝ) (g' : FakeBackend ℝ) : Prop :=
  run.result.success = true ∧ run.result.clipped = false ∧
    g'.cartesianLog = g.cartesianLog ++ setpoints.map (·.pose) ∧
    g'.pose = ((setpoints.map (·.pose)).getLast?).getD ref ∧ g'.Sound

theorem cartesianTicks_landed (caps : p.PositiveCaps) (uncapped : p.maxLinearAccel = none)
    (roomy : p.maxLinearSpeed * dt ≤ p.maxPoseJumpLinear)
    (light : exceeds (fun _ => 0) cap = false) (chunk : CartesianChunk ℝ) (t0 : ℝ) {u : Quat ℝ}
    (unit : quatNormalize u = u) {step : ℝ} (slower : step ≤ p.maxLinearSpeed * dt)
    (setpoints : List (CartesianSetpoint ℝ)) :
    ∀ {ref : Pose ℝ} {run : ChunkRun ℝ} {robot : Robot ℝ} {g : FakeBackend ℝ},
      quatNormalize ref.quat = u → InSpecFrom p u step ref.pos setpoints →
      run.result.success = true → run.result.clipped = false → robot.FiltersFrom p dt ref →
      g.Sound → g.pose = ref →
      wp (onAnyFake fun set => set = false) (cartesianTicks chunk cap t0 setpoints run)
        (fun out _ g' => ∃ run', out = .ok run' ∧ TicksLanded g ref setpoints run' g')
        robot g := by
  induction setpoints with
  | nil =>
      intro ref run robot g _ _ succeeding unclipped _ sound here
      exact ⟨run, rfl, succeeding, unclipped, (List.append_nil _).symm, here, sound⟩
  | cons sp rest ih =>
      intro ref run robot g aligned inSpec succeeding unclipped filters sound here
      obtain ⟨inside, _, short, later⟩ := inSpec.uncons aligned
      have oriented : sp.pose.quat = u := inSpec.aligned sp List.mem_cons_self
      unfold cartesianTicks
      rw [wp_bind]
      apply wp_mono (cartesianTick_landed caps uncapped roomy light chunk t0 inside
        (oriented.symm ▸ unit) (aligned.trans oriented.symm) (short.trans slower) filters sound
        here)
      rintro out robot' g' ⟨filters', sound', stands, log, run', ended, success, clipped⟩
      rw [ended, afterStep_ok]
      apply wp_mono (ih (oriented.symm ▸ unit) later (success.trans succeeding)
        (clipped.trans unclipped) filters' sound' stands)
      rintro out robot'' g'' ⟨run'', ended', done, unclipped', log', last, sound''⟩
      refine ⟨run'', ended', done, unclipped', ?_, ?_, sound''⟩
      · rw [log', log, List.append_assoc]
        rfl
      · rw [last, List.map_cons, List.getLast?_cons]
        rfl

/-- In spec and unstopped, the chunk ends in a success with the simulator on the last
setpoint. -/
structure Landed (robot : Robot ℝ) (g : FakeBackend ℝ) (executed : CartesianChunk ℝ)
    (result : ExecutionResult ℝ) (g' : FakeBackend ℝ) : Prop where
  success : result.success = true
  unclipped : result.clipped = false
  streamed : g'.cartesianLog =
    g.cartesianLog ++ ((robot.interpolator executed g.pose).setpoints.map (·.pose))
  arrived : (executed.waypoints.map (·.position)).getLast? = some g'.pose.pos
  reported : ∃ final, result.finalState = some final ∧ final.tcpPose = g'.pose
  sound : g'.Sound

theorem report_finalState (run : ChunkRun ℝ) (start final : RobotState ℝ) :
    (run.report start final).finalState = some final := by
  unfold ChunkRun.report
  dsimp only
  split
  · split <;> rfl
  · split <;> rfl

variable {robot : Robot ℝ} {g : FakeBackend ℝ} {chunk executed : CartesianChunk ℝ}

theorem ticksEnd_landed (paced : robot.Paced) (caps : robot.profile.PositiveCaps)
    (uncapped : robot.profile.maxLinearAccel = none)
    (roomy : robot.profile.maxLinearSpeed * (1 / robot.controlHz) ≤ robot.profile.maxPoseJumpLinear)
    (perfect : g.alpha = 1) (healthy : g.fault = false)
    (light : exceeds (fun _ => 0) (effectiveWrenchCap robot.profile chunk) = false)
    (inSpec : ∀ executed, chunk.forExecution g.pose = .ok executed →
      executed.RunsInSpec robot.profile g.pose) :
    TicksEnd (fun set => set = false) chunk robot g fun executed run g' =>
      TicksLanded g g.pose (robot.interpolator executed g.pose).setpoints run g' := by
  intro executed result trajectory t0 g₀ start made clean still cartesian here
  have filters : ({ robot with filter := robot.filter.reset (some start) } : Robot ℝ).FiltersFrom
      robot.profile (1 / robot.controlHz) g.pose :=
    ⟨(robot.filter.reset_p _ _ _).trans paced.profile,
      (robot.filter.reset_dt _ _ _).trans paced.step, congrArg some here⟩
  have slower : tightenedCap robot.profile.maxLinearSpeed executed.maxTcpLinearSpeed *
      (1 / robot.controlHz) ≤ robot.profile.maxLinearSpeed * (1 / robot.controlHz) :=
    mul_le_mul_of_nonneg_right (tightenedCap_le _ _) (one_div_pos.mpr paced.ticking).le
  apply wp_mono (cartesianTicks_landed caps uncapped roomy light executed t0 (quatNormalize_idem _)
    slower (robot.interpolator executed g.pose).setpoints rfl
    (interpolator_inSpec paced caps (inSpec executed made)).1 clean.success clean.clipped filters
    ⟨still.alpha.trans perfect, still.fault.trans healthy, cartesian⟩ still.pose)
  rintro out robot' g' ⟨run, ended, success, clipped, log, last, sound⟩
  exact ⟨run, ended, success, clipped, log.trans (congrArg (· ++ _) still.log), last, sound⟩

theorem executeCartesianChunk_landed (paced : robot.Paced) (caps : robot.profile.PositiveCaps)
    (uncapped : robot.profile.maxLinearAccel = none)
    (roomy : robot.profile.maxLinearSpeed * (1 / robot.controlHz) ≤ robot.profile.maxPoseJumpLinear)
    (perfect : g.alpha = 1) (healthy : g.fault = false)
    (named : chunk.safetyProfile = "" ∨ chunk.safetyProfile = robot.profile.name)
    (made : chunk.forExecution g.pose = .ok executed)
    (inSpec : executed.RunsInSpec robot.profile g.pose)
    (light : exceeds (fun _ => 0) (effectiveWrenchCap robot.profile chunk) = false)
    (raiseOnStop record : Bool) :
    wp (onAnyFake fun set => set = false) (executeCartesianChunk chunk raiseOnStop record)
      (fun out _ g' => ∃ result, out = .ok result ∧ Landed robot g executed result g')
      robot g := by
  have inSpecs : ∀ executed', chunk.forExecution g.pose = .ok executed' →
      executed'.RunsInSpec robot.profile g.pose := by
    intro executed' made'
    rw [made] at made'
    cases made'
    exact inSpec
  apply wp_mono (executeCartesianChunk_onFake
    (ticksEnd_landed paced caps uncapped roomy perfect healthy light inSpecs) raiseOnStop record)
  intro out robot' g' came
  cases came with
  | mismatched e asked other => exact absurd named (not_or.mpr ⟨asked, other⟩)
  | unresolved e why => cases made.symm.trans why
  | cancelled hears => cases hears
  | ran made' holds still start now later report reported out returned =>
      rw [made] at made'
      cases made'
      obtain ⟨success, clipped, log, last, sound⟩ := holds
      rename_i run g₁
      have kept : run.Kept _ executed.gate (finishStep executed run (g₁.readState now)).run :=
        finishStep_kept (le_refl (run.trackingError (g₁.readState now)))
      have verdict := (finishStep executed run (g₁.readState now)).run.report_verdict start
        (g'.readState later)
      have succeeded : report.success = true := by
        rw [reported, verdict.1, kept.success, success]
      have ends := (interpolator_inSpec paced caps inSpec).2
      rcases returned with ok | ⟨_, failed, _⟩
      · refine ⟨report, ok, succeeded, ?_, ?_, ?_, ?_, ?_⟩
        · rw [reported, verdict.2, kept.clipped, clipped]
        · exact still.log.trans log
        · rw [List.getLast?_map, List.getLast?_map] at ends
          rw [List.getLast?_map] at last ⊢
          cases final : executed.waypoints.getLast? with
          | none => exact absurd (List.getLast?_eq_none_iff.mp final) executed.nonempty
          | some wp =>
              rw [final, Option.map_some, Option.map_eq_some_iff] at ends
              obtain ⟨sp, at_end, same⟩ := ends
              rw [at_end, Option.map_some, Option.getD_some] at last
              rw [Option.map_some, still.pose, last, Vec3.toE_injective same]
        · exact ⟨g'.readState later, reported ▸ report_finalState _ _ _, rfl⟩
        · exact ⟨still.alpha.trans sound.perfect, still.fault.trans sound.healthy,
            (congrArg ControlMode.isCartesian still.mode).trans sound.cartesian⟩
      · cases succeeded.symm.trans failed

/-- A blocking chunk in spec for where the simulator stands is streamed as the interpolator
makes it, and the simulator ends on its last waypoint. -/
theorem chunk_lands_on_fake (paced : robot.Paced) (caps : robot.profile.PositiveCaps)
    (uncapped : robot.profile.maxLinearAccel = none)
    (roomy : robot.profile.maxLinearSpeed * robot.filter.dt ≤ robot.profile.maxPoseJumpLinear)
    (perfect : g.alpha = 1) (healthy : g.fault = false)
    (named : chunk.safetyProfile = "" ∨ chunk.safetyProfile = robot.profile.name)
    (made : chunk.forExecution g.pose = .ok executed)
    (inSpec : executed.RunsInSpec robot.profile g.pose)
    (light : exceeds (fun _ => 0) (effectiveWrenchCap robot.profile chunk) = false)
    {raiseOnStop record : Bool} {calls : List (Call (effects ℝ))}
    {out : Except Exc (ExecutionResult ℝ)} {robot' : Robot ℝ}
    (ran : Trace (executeCartesianChunk chunk raiseOnStop record robot) calls
      (.done (out, robot'))) (answered : g.Answered calls) (calm : Uncancelled calls) :
    ∃ result, out = .ok result ∧ Landed robot g executed result (g.left calls) := by
  rw [paced.step] at roomy
  exact (Program.wp_sound (executeCartesianChunk_landed paced caps uncapped roomy perfect healthy
    named made inSpec light raiseOnStop record) ran (answered.uncancelled calls calm)).2

end Landing

noncomputable def tableFake : FakeBackend ℝ :=
  (FakeBackend.init nJointsDefault (some overTable)).connect

theorem raise_light :
    exceeds (fun _ => (0 : ℝ)) (effectiveWrenchCap tabletopRobot.profile raiseChunk) = false :=
  poised_light

theorem chunk_lands_on_fake_raise : ∃ calls result robot',
    Trace (executeCartesianChunk raiseChunk false false tabletopRobot) calls
        (.done (.ok result, robot')) ∧ tableFake.Answered calls ∧ Uncancelled calls ∧
      result.success = true ∧ result.clipped = false ∧
      (tableFake.left calls).pose.pos = raiseCall.target.pos := by
  obtain ⟨calls, ⟨out, robot'⟩, ran, answered, calm⟩ := exists_fake_run tableFake
    (executeCartesianChunk raiseChunk false false tabletopRobot)
  obtain ⟨result, ended, landed⟩ := chunk_lands_on_fake tabletopRobot_paced tabletop_positiveCaps
    rfl tabletopRobot_roomy rfl rfl (Or.inl rfl) rfl raiseChunk_inSpec raise_light ran answered calm
  rw [ended] at ran
  exact ⟨calls, result, robot', ran, answered, calm, landed.success, landed.unclipped,
    (Option.some.inj landed.arrived).symm⟩

end FlexivControl
