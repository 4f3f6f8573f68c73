/-
The speed of the stream at the loop's own rate.

The filter the loop calls was built with the robot's time step. As long as the
loop ticks no faster than the robot's rate, its steps are no faster than the
profile allows.
-/

import FlexivControl.Loop.Ticks
import FlexivControl.Filter.Steps

namespace FlexivControl

open Broadcast

def ReactiveServoLoop.Uses (profile : SafetyProfile ℝ) (dt : ℝ) (loop : ReactiveServoLoop ℝ) :
    Prop :=
  loop.running = true → loop.filter.p = profile ∧ loop.filter.dt = dt

theorem Tick.keeps_filter {t : Tick ℝ} (kept : t.input.KeepsProfile)
    {profile : SafetyProfile ℝ} {dt : ℝ} (running : t.before.running = true)
    (uses : t.before.Uses profile dt) : t.result.loop.Uses profile dt := by
  intro goesOn
  rcases t.result_spec with ⟨_, ended⟩ | ⟨snap, loop, at_write, wrote⟩
  · rw [ended] at goesOn
    cases goesOn
  · obtain ⟨sameProfile, sameStep⟩ := wrote.keeps
    have same := t.atWrite_robot kept at_write
    rw [sameProfile, sameStep, ReactiveServoLoop.filter, same]
    exact uses running

/-- Two passes in a row whose second follows its target: both setpoints are in the
same space only if they are one filter step apart. -/
theorem Tick.step_after {t t' : Tick ℝ} (kept : t'.input.KeepsProfile)
    (next : t'.before = t.result.loop) {profile : SafetyProfile ℝ} {dt : ℝ} (nonneg : 0 ≤ dt)
    (caps : profile.PositiveCaps) (uncapped : profile.maxLinearAccel = none)
    (uses : t'.before.filter.p = profile ∧ t'.before.filter.dt = dt) :
    (∀ p p', t.streamed = some (.cartesian p) → t'.live = some (.cartesian p') →
      (p'.pos - p.pos).norm ≤ profile.maxLinearSpeed * max dt eps) ∧
    (∀ q q', t.streamed = some (.joint q) → t'.live = some (.joint q') →
      ∀ i x x', entry q i = some x → entry q' i = some x' →
        |x' - x| ≤ maxJointStep profile dt) := by
  have filterBefore {snap : Snapshot ℝ} {loop : ReactiveServoLoop ℝ}
      (at_write : t'.atWrite = some (snap, loop)) : loop.filter = t'.before.filter := by
    rw [ReactiveServoLoop.filter, t'.atWrite_robot kept at_write]
  constructor
  · intro p p' streamed followed
    obtain ⟨snap, loop, at_write, ⟨target, pose, sr, filter', sameSetpoint, _, _, passed, ok,
      found⟩ | ⟨target, q, sr, filter', otherSpace, _⟩⟩ := t'.live_spec followed
    · cases sameSetpoint
      rw [filterBefore at_write] at passed
      have anchored : t'.before.filter.prevPose = some p := by
        rcases t.result_spec with ⟨none, _⟩ | ⟨_, _, _, wrote⟩
        · rw [none] at streamed
          cases streamed
        · rw [streamed] at wrote
          rw [next]
          exact wrote.prevPose
      have step := SafetyFilter.filterCartesian_step (uses.1 ▸ caps) (uses.1 ▸ uncapped)
        (uses.2 ▸ nonneg) passed ok found
      rw [anchored, Option.getD_some, uses.1, uses.2] at step
      exact step
    · cases otherSpace
  · intro q q' streamed followed i x x' at_q at_q'
    obtain ⟨snap, loop, at_write, ⟨target, pose, sr, filter', otherSpace, _⟩ | ⟨target, q, sr,
      filter', sameSetpoint, _, _, passed, ok, found⟩⟩ := t'.live_spec followed
    · cases otherSpace
    · cases sameSetpoint
      rw [filterBefore at_write] at passed
      have anchored : t'.before.filter.prevQ = some q := by
        rcases t.result_spec with ⟨none, _⟩ | ⟨_, _, _, wrote⟩
        · rw [none] at streamed
          cases streamed
        · rw [streamed] at wrote
          rw [next]
          exact wrote.prevQ
      have stepNonneg := maxJointStep_nonneg (uses.1 ▸ caps) (uses.2 ▸ nonneg)
      have step := SafetyFilter.filterJoint_step passed found stepNonneg at_q'
        (by rw [anchored]; exact at_q)
      rw [uses.1, uses.2] at step
      exact step

/-- The bounds the profile promises between two setpoints of a loop ticking at `h`. -/
def SpeedCapped (profile : SafetyProfile ℝ) (h : ℝ) (t t' : Tick ℝ) : Prop :=
  (∀ p p', t.streamed = some (.cartesian p) → t'.live = some (.cartesian p') →
    (p'.pos - p.pos).norm ≤ profile.maxLinearSpeed / h) ∧
  (∀ q q', t.streamed = some (.joint q) → t'.live = some (.joint q') →
    ∀ i x x', entry q i = some x → entry q' i = some x' →
      |x' - x| ≤ 2 * profile.maxJointSpeedScale / h)

/-- The loop of a started servo session, with the robot at rate `r` and the loop at `h`. -/
noncomputable def servoSession (cfg : RobotConfig ℝ) (profile : SafetyProfile ℝ) (r h : ℝ)
    (first second : RobotState ℝ) (now perf : ℝ) : ReactiveServoLoop ℝ :=
  ((ReactiveServoLoop.init (Robot.init cfg profile (some r)) (some h)).start
    first second now perf).2

theorem Robot.init_filter (cfg : RobotConfig ℝ) (profile : SafetyProfile ℝ) {r : ℝ}
    (positive : 0 < r) :
    (Robot.init cfg profile (some r)).filter = SafetyFilter.init profile (1 / r) := by
  unfold init
  dsimp only
  rw [if_pos (Or.inl positive)]

theorem servoSession_uses (cfg : RobotConfig ℝ) (profile : SafetyProfile ℝ) {r : ℝ}
    (positive : 0 < r) (h : ℝ) (first second : RobotState ℝ) (now perf : ℝ) :
    (servoSession cfg profile r h first second now perf).Uses profile (1 / r) := by
  intro _
  unfold servoSession ReactiveServoLoop.start
  rw [if_neg (by exact Bool.false_ne_true)]
  split
  · change (SafetyFilter.reset (Robot.init cfg profile (some r)).filter (some first)).p = _ ∧
      (SafetyFilter.reset (Robot.init cfg profile (some r)).filter (some first)).dt = _
    rw [Robot.init_filter cfg profile positive]
    exact ⟨rfl, rfl⟩
  · change (SafetyFilter.reset (Robot.init cfg profile (some r)).filter (some second)).p = _ ∧
      (SafetyFilter.reset (Robot.init cfg profile (some r)).filter (some second)).dt = _
    rw [Robot.init_filter cfg profile positive]
    exact ⟨rfl, rfl⟩

/-- A loop that ticks no faster than its robot's rate keeps the speed caps at its
own rate, over every run of published targets. -/
theorem servo_speed_capped (cfg : RobotConfig ℝ) (profile : SafetyProfile ℝ)
    (caps : profile.PositiveCaps) (uncapped : profile.maxLinearAccel = none) (r h : ℝ)
    (positive : 0 < h) (slower : h ≤ r) (resolved : h ≤ 1000000000)
    (first second : RobotState ℝ) (now perf : ℝ) (inputs : List (TickInput ℝ))
    (targets : ∀ input ∈ inputs, input.KeepsProfile) :
    ((servoSession cfg profile r h first second now perf).runInner inputs).IsChain
      (SpeedCapped profile h) := by
  have ratePositive : 0 < r := lt_of_lt_of_le positive slower
  have stepNonneg : 0 ≤ 1 / r := (one_div_pos.mpr ratePositive).le
  have shorter : 1 / r ≤ 1 / h := one_div_le_one_div_of_le positive slower
  have floor : max (1 / r) eps ≤ 1 / h := by
    refine max_le shorter ?_
    rw [eps_real]
    exact one_div_le_one_div_of_le positive resolved
  have everywhere := runInner_invariant
    (servoSession_uses cfg profile ratePositive h first second now perf)
    (fun t inside running uses => t.keeps_filter (targets t.input inside) running uses)
  have linked := runInner_isChain inputs (servoSession cfg profile r h first second now perf)
  apply linked.imp_of_mem_imp
  intro t t' _ member next
  obtain ⟨inside, running, uses⟩ := everywhere t' member
  obtain ⟨cartesian, joint⟩ := Tick.step_after (targets _ inside) next.2 stepNonneg caps uncapped
    (uses running)
  constructor
  · intro p p' streamed followed
    calc (p'.pos - p.pos).norm
        ≤ profile.maxLinearSpeed * max (1 / r) eps := cartesian p p' streamed followed
      _ ≤ profile.maxLinearSpeed * (1 / h) := mul_le_mul_of_nonneg_left floor caps.linearSpeed.le
      _ = profile.maxLinearSpeed / h := mul_one_div _ _
  · intro q q' streamed followed i x x' at_q at_q'
    have scale : 0 ≤ 2 * profile.maxJointSpeedScale := by linarith [caps.jointSpeed]
    calc |x' - x|
        ≤ maxJointStep profile (1 / r) := joint q q' streamed followed i x x' at_q at_q'
      _ = 2 * profile.maxJointSpeedScale * (1 / r) := by
          rw [maxJointStep, Scalar.ofNat_real, Nat.cast_ofNat]
      _ ≤ 2 * profile.maxJointSpeedScale * (1 / h) := mul_le_mul_of_nonneg_left shorter scale
      _ = 2 * profile.maxJointSpeedScale / h := mul_one_div _ _

noncomputable def reach : TickInput ℝ := .publishing zeroed (.jointTarget (uniform 1) 0)

theorem reaches_keepProfile : ∀ input ∈ [reach, reach], input.KeepsProfile := by
  intro input inside
  simp only [List.mem_cons, List.not_mem_nil, or_false, or_self] at inside
  subst inside
  exact publishing_keepsProfile trivial

theorem servo_speed_capped_hundred :
    ((servoSession {} tabletop 100 100 zeroed zeroed 0 0).runInner [reach, reach]).IsChain
      (SpeedCapped tabletop 100) :=
  servo_speed_capped {} tabletop tabletop_positiveCaps rfl 100 100 (by norm_num) le_rfl
    (by norm_num) zeroed zeroed 0 0 [reach, reach] reaches_keepProfile

theorem tabletop_maxJointStep : maxJointStep tabletop (1 / 100) = 6 / 1000 := by
  norm_num [maxJointStep, tabletop]

/-- A robot at 100 Hz under a loop at 200 Hz: two such ticks move every joint twice the step
that the profile allows at 200 Hz. -/
theorem servo_outruns_cap :
    tabletop.PositiveCaps ∧ tabletop.maxLinearAccel = none ∧
      (∀ input ∈ [reach, reach], input.KeepsProfile) ∧
      ¬ ((servoSession {} tabletop 100 200 zeroed zeroed 0 0).runInner [reach, reach]).IsChain
        (SpeedCapped tabletop 200) := by
  refine ⟨tabletop_positiveCaps, rfl, reaches_keepProfile, fun capped => ?_⟩
  obtain ⟨profile, step⟩ := servoSession_uses {} tabletop (r := 100) (by norm_num) 200 zeroed
    zeroed 0 0 rfl
  generalize started : servoSession {} tabletop 100 200 zeroed zeroed 0 0 = loop at *
  have running : loop.running = true := started ▸ rfl
  have anchored : loop.filter.prevQ = some (uniform 0) := started ▸ rfl
  obtain ⟨streamed, _, left, goesOn⟩ := Tick.live_uniform loop zeroed (a := 0) (t := 1)
    profile (by rw [anchored]; rfl) (by norm_num) le_rfl
  have moved {gap : ℝ} (long : 6 / 1000 ≤ gap) : clampStep (6 / 1000) gap = 6 / 1000 := by
    rw [clampStep_real (by norm_num), min_eq_left long, max_eq_right (by norm_num)]
  rw [step, tabletop_maxJointStep, moved (by norm_num), zero_add] at streamed left
  have later := Tick.live_uniform (Tick.result ⟨loop, reach⟩).loop zeroed
    (a := 6 / 1000) (t := 1) (left ▸ profile) (left ▸ rfl) (by norm_num) le_rfl
  have stepAfter : (Tick.result ⟨loop, reach⟩).loop.filter.dt = 1 / 100 := left ▸ step
  rw [stepAfter, tabletop_maxJointStep, moved (by norm_num)] at later
  obtain ⟨_, followed, _⟩ := later
  rw [runInner_pair reach reach running (goesOn.trans running)] at capped
  have bound := (List.isChain_pair.mp capped).2 _ _ streamed followed 0 _ _ rfl rfl
  norm_num [tabletop] at bound

end FlexivControl
