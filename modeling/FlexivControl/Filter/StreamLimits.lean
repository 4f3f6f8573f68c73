/-
Per-tick limits of the emitted Cartesian stream.

The invariant remembers that the velocity carried by the filter is itself within
the speed limit. The acceleration stage, applied last, only mixes that velocity
with the limited one, so it cannot undo the earlier stages.
-/

import FlexivControl.Filter.Runs

namespace FlexivControl

open StepLimit

/-- The filter stands at `start`, carrying a velocity within one tick's step. -/
structure SafetyFilter.Anchored (f : SafetyFilter ℝ) (start : Pose ℝ) (v : Vec3 ℝ) : Prop where
  pose : f.prevPose = some start
  velocity : f.prevLinVel = some v
  bounded : ‖f.dt • v.toE‖ ≤ linearStep f.p f.dt

/-- What one emitting call guarantees about its pose and the velocity it leaves. -/
structure Emission (f : SafetyFilter ℝ) (start : Pose ℝ) (v : Vec3 ℝ) (pose : Pose ℝ)
    (v' : Vec3 ℝ) (f' : SafetyFilter ℝ) : Prop where
  profile : f'.p = f.p
  step : f'.dt = f.dt
  anchored : f'.Anchored pose v'
  carried : pose.pos.toE - start.pos.toE = f.dt • v'.toE
  accel : ∀ a, f.p.maxLinearAccel = some a → ‖v'.toE - v.toE‖ ≤ a * f.dt

theorem SafetyFilter.reset_anchored (f : SafetyFilter ℝ) (caps : f.p.NonnegCaps)
    (nonneg : 0 ≤ f.dt) (state : Option (RobotState ℝ)) (pose : Option (Pose ℝ))
    (q : Option (List ℝ)) (start : Pose ℝ) (at_start : (f.reset state pose q).prevPose = some start) :
    (f.reset state pose q).Anchored start 0 where
  pose := at_start
  velocity := reset_prevLinVel f state pose q
  bounded := by
    rw [Vec3.toE_zero, smul_zero, norm_zero, reset_p, reset_dt]
    exact le_min caps.poseJumpLinear (mul_nonneg caps.linearSpeed nonneg)

/-- The velocity the last stage leaves is within the step, whether or not it corrected. -/
theorem limitLinearAccel_bounded {p : SafetyProfile ℝ} (caps : p.NonnegCaps) {dt : ℝ}
    (slow : eps ≤ dt) {vPrev : Vec3 ℝ} (carried : ‖dt • vPrev.toE‖ ≤ linearStep p dt)
    (ref : Pose ℝ) (draft : Draft ℝ) (within : ‖displacement ref draft‖ ≤ linearStep p dt) :
    ‖dt • (limitLinearAccel p dt (some vPrev) ref draft).2.toE‖ ≤ linearStep p dt := by
  have positive : 0 < dt := lt_of_lt_of_le eps_pos slow
  obtain ⟨_, plain, capped⟩ := limitLinearAccel_spec slow vPrev ref draft
  cases accel : p.maxLinearAccel with
  | none =>
      rw [plain accel, smul_smul, mul_inv_cancel₀ positive.ne', one_smul]
      exact within
  | some a =>
      have capNonneg : 0 ≤ a * dt := mul_nonneg (caps.linearAccel a accel) positive.le
      have perSecond {v : EuclideanSpace ℝ (Fin 3)} :
          ‖dt • v‖ ≤ linearStep p dt ↔ ‖v‖ ≤ linearStep p dt / dt := by
        rw [norm_smul, Real.norm_of_nonneg positive.le, le_div_iff₀ positive, mul_comm]
      rw [capped a accel, perSecond]
      apply norm_approach_le eps capNonneg (perSecond.mp carried)
      rw [← perSecond, smul_smul, mul_inv_cancel₀ positive.ne', one_smul]
      exact within

theorem SafetyFilter.filterCartesian_anchored {f : SafetyFilter ℝ} (caps : f.p.NonnegCaps)
    (slow : eps ≤ f.dt) {start : Pose ℝ} {v : Vec3 ℝ} (anchored : f.Anchored start v)
    (target : Pose ℝ) (state : RobotState ℝ) (cap : Option (Wrench ℝ)) :
    (∃ reason, f.filterCartesian target state cap = ({ ok := false, reason := reason }, f)) ∨
    ∃ pose v' clipped reasons f', f.filterCartesian target state cap =
        ({ ok := true, pose := some pose, clipped := clipped, clipReasons := reasons }, f') ∧
      Emission f start v pose v' f' := by
  rcases f.filterCartesian_cases target state cap with rejected | ⟨draft, _, _, passed⟩
  · exact Or.inl rejected
  · right
    dsimp only at passed
    rw [anchored.pose, anchored.velocity, Option.getD_some] at passed
    have positive : 0 < f.dt := lt_of_lt_of_le eps_pos slow
    have within := limitMotion_norm_le caps slow start draft
    obtain ⟨carried, _, capped⟩ :=
      limitLinearAccel_spec slow v start (limitMotion f.p f.dt start draft)
    have bounded := limitLinearAccel_bounded caps slow anchored.bounded start
      (limitMotion f.p f.dt start draft) within
    refine ⟨_, _, _, _, _, passed, rfl, rfl, ⟨rfl, rfl, bounded⟩, carried, ?_⟩
    intro a accel
    rw [capped a accel]
    exact norm_approach_sub_le eps (mul_nonneg (caps.linearAccel a accel) positive.le) _ _

theorem Emission.norm_le {f f' : SafetyFilter ℝ} {start pose : Pose ℝ} {v v' : Vec3 ℝ}
    (emission : Emission f start v pose v' f') :
    (pose.pos - start.pos).norm ≤ linearStep f.p f.dt := by
  have bounded := emission.anchored.bounded
  rw [emission.profile, emission.step] at bounded
  rw [← Vec3.norm_toE, Vec3.toE_sub, emission.carried]
  exact bounded

theorem Emission.velocity_eq {f f' : SafetyFilter ℝ} {start pose : Pose ℝ} {v v' : Vec3 ℝ}
    (positive : 0 < f.dt) (emission : Emission f start v pose v' f') :
    (pose.pos - start.pos) / f.dt = v' := by
  apply Vec3.toE_injective
  rw [Vec3.toE_div, Vec3.toE_sub, emission.carried, smul_smul, inv_mul_cancel₀ positive.ne',
    one_smul]

/-- The velocities between consecutive poses of a stream. -/
noncomputable def velocities (dt : ℝ) (poses : List (Pose ℝ)) : List (Vec3 ℝ) :=
  List.zipWith (fun a b => (b.pos - a.pos) / dt) poses poses.tail

theorem velocities_cons_cons (dt : ℝ) (a b : Pose ℝ) (rest : List (Pose ℝ)) :
    velocities dt (a :: b :: rest) = (b.pos - a.pos) / dt :: velocities dt (b :: rest) := rfl

theorem emitted_steps_isChain (calls : List (FilterCall ℝ)) :
    ∀ {f : SafetyFilter ℝ} {start : Pose ℝ} {v : Vec3 ℝ}, f.p.PositiveCaps → eps ≤ f.dt →
      f.Anchored start v →
      (start :: f.emitted calls).IsChain
        (fun a b => (b.pos - a.pos).norm ≤ linearStep f.p f.dt) := by
  induction calls with
  | nil => intro f start v _ _ _; exact List.isChain_singleton _
  | cons call rest ih =>
      intro f start v caps slow anchored
      rcases f.filterCartesian_anchored caps.nonneg slow anchored call.target call.state call.cap with
        ⟨reason, rejected⟩ | ⟨pose, v', clipped, reasons, f', passed, emission⟩
      · rw [SafetyFilter.emitted_of_rejected rest rejected]
        exact ih caps slow anchored
      · rw [SafetyFilter.emitted_of_ok rest passed]
        have later := ih (emission.profile ▸ caps) (emission.step ▸ slow) emission.anchored
        rw [emission.profile, emission.step] at later
        exact List.isChain_cons_cons.mpr ⟨emission.norm_le, later⟩

theorem emitted_velocities_isChain {a : ℝ} (calls : List (FilterCall ℝ)) :
    ∀ {f : SafetyFilter ℝ} {start : Pose ℝ} {v : Vec3 ℝ}, f.p.PositiveCaps → eps ≤ f.dt →
      f.p.maxLinearAccel = some a → f.Anchored start v →
      (v :: velocities f.dt (start :: f.emitted calls)).IsChain
        (fun v w => (w - v).norm ≤ a * f.dt) := by
  induction calls with
  | nil => intro f start v _ _ _ _; exact List.isChain_singleton _
  | cons call rest ih =>
      intro f start v caps slow accel anchored
      rcases f.filterCartesian_anchored caps.nonneg slow anchored call.target call.state call.cap with
        ⟨reason, rejected⟩ | ⟨pose, v', clipped, reasons, f', passed, emission⟩
      · rw [SafetyFilter.emitted_of_rejected rest rejected]
        exact ih caps slow accel anchored
      · have positive : 0 < f.dt := lt_of_lt_of_le eps_pos slow
        have later := ih (emission.profile ▸ caps) (emission.step ▸ slow)
          (emission.profile ▸ accel) emission.anchored
        rw [emission.step] at later
        rw [SafetyFilter.emitted_of_ok rest passed, velocities_cons_cons,
          emission.velocity_eq positive]
        refine List.isChain_cons_cons.mpr ⟨?_, later⟩
        rw [← Vec3.norm_toE, Vec3.toE_sub]
        exact emission.accel a accel

/-- Every run of the filter after a reset emits a stream within the per-tick step,
and within the acceleration cap when one is set. -/
theorem emitted_within_limits (f : SafetyFilter ℝ) (caps : f.p.PositiveCaps)
    (slow : 1 / 1000000000 ≤ f.dt) (state : Option (RobotState ℝ)) (pose : Option (Pose ℝ))
    (q : Option (List ℝ)) (start : Pose ℝ) (at_start : (f.reset state pose q).prevPose = some start)
    (calls : List (FilterCall ℝ)) :
    (start :: (f.reset state pose q).emitted calls).IsChain
        (fun a b => (b.pos - a.pos).norm ≤
          min f.p.maxPoseJumpLinear (f.p.maxLinearSpeed * f.dt)) ∧
      ∀ a, f.p.maxLinearAccel = some a →
        (0 :: velocities f.dt (start :: (f.reset state pose q).emitted calls)).IsChain
          (fun v w => (w - v).norm ≤ a * f.dt) := by
  rw [← eps_real] at slow
  have positive : 0 < f.dt := lt_of_lt_of_le eps_pos slow
  have anchored := f.reset_anchored caps.nonneg positive.le state pose q start at_start
  have resetCaps : (f.reset state pose q).p.PositiveCaps := by
    rw [SafetyFilter.reset_p]
    exact caps
  have resetSlow : eps ≤ (f.reset state pose q).dt := by
    rw [SafetyFilter.reset_dt]
    exact slow
  constructor
  · have steps := emitted_steps_isChain calls resetCaps resetSlow anchored
    rw [SafetyFilter.reset_p, SafetyFilter.reset_dt] at steps
    exact steps
  · intro a accel
    have resetAccel : (f.reset state pose q).p.maxLinearAccel = some a := by
      rw [SafetyFilter.reset_p]
      exact accel
    have changes := emitted_velocities_isChain calls resetCaps resetSlow resetAccel anchored
    rw [SafetyFilter.reset_dt] at changes
    exact changes

noncomputable def cappedTabletop : SafetyProfile ℝ := { maxLinearAccel := some 1 }

theorem cappedTabletop_positiveCaps : cappedTabletop.PositiveCaps where
  linearSpeed := by norm_num [cappedTabletop]
  angularSpeed := by norm_num [cappedTabletop]
  poseJumpLinear := by norm_num [cappedTabletop]
  poseJumpAngular := by norm_num [cappedTabletop]
  jointSpeed := by norm_num [cappedTabletop]
  linearAccel := by
    intro a accel
    cases accel
    exact one_pos

noncomputable def overTable : Pose ℝ := ⟨⟨1 / 2, 0, 3 / 10⟩, 1⟩

noncomputable def raiseCall : FilterCall ℝ where
  target := ⟨⟨1 / 2, 0, 35 / 100⟩, 1⟩
  state := { stamp := 0 }

theorem norm_shifted (pos : Vec3 ℝ) (rise : ℝ) :
    ((⟨pos.x, pos.y, pos.z + rise⟩ : Vec3 ℝ) - pos).norm = |rise| := by
  rw [Vec3.norm, Vec3.sub_x, Vec3.sub_y, Vec3.sub_z, sub_self, sub_self, add_sub_cancel_left,
    mul_zero, zero_add, zero_add, Scalar.sqrt_real, Real.sqrt_mul_self_eq_abs]

theorem norm_raised (pos : Vec3 ℝ) {height : ℝ} (nonneg : 0 ≤ height) :
    ((⟨pos.x, pos.y, pos.z + height⟩ : Vec3 ℝ) - pos).norm = height := by
  rw [norm_shifted, abs_of_nonneg nonneg]

theorem raise_norm : (raiseCall.target.pos - overTable.pos).norm = 1 / 20 := by
  have above : raiseCall.target.pos =
      ⟨overTable.pos.x, overTable.pos.y, overTable.pos.z + 1 / 20⟩ := by
    norm_num [raiseCall, overTable]
  rw [above, norm_raised overTable.pos (by norm_num)]

theorem emitted_within_limits_raise :
    (overTable :: ((SafetyFilter.init cappedTabletop (1 / 100)).reset none
        (some overTable)).emitted [raiseCall, raiseCall]).IsChain
      (fun a b => (b.pos - a.pos).norm ≤ min cappedTabletop.maxPoseJumpLinear
        (cappedTabletop.maxLinearSpeed * (1 / 100))) :=
  (emitted_within_limits (SafetyFilter.init cappedTabletop (1 / 100)) cappedTabletop_positiveCaps
    (by norm_num [SafetyFilter.init]) none (some overTable) none overTable rfl
    [raiseCall, raiseCall]).1

end FlexivControl
