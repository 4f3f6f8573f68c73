/-
One call of the filter as one bounded step from its remembered setpoint, in
either space.
-/

import FlexivControl.Filter.Workspace

namespace FlexivControl

open StepLimit Broadcast

theorem clampStep_real {maxStep : ℝ} (nonneg : 0 ≤ maxStep) (step : ℝ) :
    clampStep maxStep step = max (-maxStep) (min maxStep step) := by
  unfold clampStep
  rw [Scalar.abs_real]
  by_cases long : maxStep < |step|
  · rw [if_pos long]
    unfold Scalar.sign
    rcases lt_abs.mp long with up | down
    · have positive : 0 < step := lt_of_le_of_lt nonneg up
      rw [if_neg (not_lt.mpr positive.le), if_pos positive, one_mul, min_eq_left up.le]
      exact (max_eq_right (by linarith)).symm
    · have negative : step < 0 := by linarith
      rw [if_pos negative, neg_one_mul, min_eq_right (by linarith)]
      exact (max_eq_left (by linarith)).symm
  · rw [if_neg long]
    obtain ⟨low, high⟩ := abs_le.mp (not_lt.mp long)
    rw [min_eq_right high, max_eq_right low]

theorem clampStep_of_short {maxStep step : ℝ} (short : ¬ maxStep < |step|) :
    clampStep maxStep step = step := by
  unfold clampStep
  rw [Scalar.abs_real, if_neg short]

theorem maxJointStep_nonneg {p : SafetyProfile ℝ} (caps : p.PositiveCaps) {dt : ℝ}
    (nonneg : 0 ≤ dt) : 0 ≤ maxJointStep p dt := by
  rw [maxJointStep, Scalar.ofNat_real]
  have scale := caps.jointSpeed.le
  positivity

theorem abs_clampStep_le {maxStep : ℝ} (nonneg : 0 ≤ maxStep) (step : ℝ) :
    |clampStep maxStep step| ≤ maxStep := by
  rw [clampStep_real nonneg, abs_le]
  constructor
  · exact le_max_left _ _
  · exact max_le (by linarith) (min_le_left _ _)

theorem broadcast_ok {K : Type} {f : K → K → K} {xs ys zs : List K}
    (result : broadcast f xs ys = .ok zs) : map₂ f xs ys = some zs := by
  unfold broadcast at result
  cases combined : map₂ f xs ys with
  | none => rw [combined] at result; cases result
  | some ws => rw [combined] at result; cases result; rfl

/-- Every joint of a passed setpoint is its reference moved by the clamped step
toward the limited target. -/
theorem SafetyFilter.filterJoint_entry {f f' : SafetyFilter ℝ} {target q : List ℝ}
    {state : RobotState ℝ} {sr : SafetyResult ℝ}
    (passed : f.filterJoint target state = .ok (sr, f')) (found : sr.q = some q) :
    ∃ limited, f.p.limitedJoints target = .ok limited ∧ f' = { f with prevQ := some q } ∧
      (∀ i x, entry q i = some x → ∃ t, entry limited i = some t) ∧
      ∀ i t a, entry limited i = some t → entry (f.prevQ.getD state.q) i = some a →
        entry q i = some (a + clampStep (maxJointStep f.p f.dt) (t - a)) := by
  obtain ⟨limited, step, q', limit, stepped, _, found', left, moved⟩ := filterJoint_ok passed
  rw [found, Option.some.injEq] at found'
  subst found'
  have steps := entry_map₂ (broadcast_ok stepped)
  have forward : ∀ i t a, entry limited i = some t → entry (f.prevQ.getD state.q) i = some a →
      entry q i = some (a + clampStep (maxJointStep f.p f.dt) (t - a)) := by
    intro i t a at_limited at_ref
    have at_step := steps i
    rw [at_limited, at_ref, Option.bind_some, Option.map_some] at at_step
    rcases moved with ⟨same, short⟩ | ⟨_, saturated⟩
    · have within := short _ (entry_mem at_step)
      rw [Scalar.abs_real] at within
      rw [same, at_limited, clampStep_of_short within, add_sub_cancel]
    · rw [entry_map₂ (broadcast_ok saturated), at_ref, Option.bind_some, entry_map, at_step,
        Option.map_some, Option.map_some]
  refine ⟨limited, limit, left, ?_, forward⟩
  intro i x at_q
  rcases moved with ⟨same, _⟩ | ⟨_, saturated⟩
  · rw [same] at at_q
    exact ⟨x, at_q⟩
  · obtain ⟨_, s, _, at_step, _⟩ := entry_map₂_some (broadcast_ok saturated) at_q
    rw [entry_map, Option.map_eq_some_iff] at at_step
    obtain ⟨gap, at_gap, _⟩ := at_step
    obtain ⟨t, _, at_limited, _⟩ := entry_map₂_some (broadcast_ok stepped) at_gap
    exact ⟨t, at_limited⟩

theorem SafetyFilter.filterJoint_step {f f' : SafetyFilter ℝ} {target q : List ℝ}
    {state : RobotState ℝ} {sr : SafetyResult ℝ}
    (passed : f.filterJoint target state = .ok (sr, f')) (found : sr.q = some q)
    (nonneg : 0 ≤ maxJointStep f.p f.dt) {i : Nat} {x a : ℝ} (at_q : entry q i = some x)
    (at_ref : entry (f.prevQ.getD state.q) i = some a) :
    |x - a| ≤ maxJointStep f.p f.dt := by
  obtain ⟨_, _, _, targets, entries⟩ := filterJoint_entry passed found
  obtain ⟨t, at_limited⟩ := targets i x at_q
  have moved := entries i t a at_limited at_ref
  rw [at_q, Option.some.injEq] at moved
  rw [moved, add_sub_cancel_left]
  exact abs_clampStep_le nonneg _

noncomputable def uniform (angle : ℝ) : List ℝ := List.replicate nJointsDefault angle

noncomputable def zeroed : RobotState ℝ :=
  { stamp := 0, q := uniform 0, controlMode := .nrtJointImpedance }

theorem broadcast_uniform (f : ℝ → ℝ → ℝ) (a b : ℝ) :
    broadcast f (uniform a) (uniform b) = .ok (uniform (f a b)) := rfl

theorem clipJoints_uniform {p : SafetyProfile ℝ} (lower : p.jointLower = tabletop.jointLower)
    (upper : p.jointUpper = tabletop.jointUpper) (margin : p.jointMarginRad = 8 / 100) {t : ℝ}
    (low : -1 ≤ t) (high : t ≤ 1) : p.clipJoints (uniform t) = .ok (uniform t) := by
  have inside {lo hi : ℝ} (below : lo ≤ -1) (above : 1 ≤ hi) : min (max t lo) hi = t := by
    rw [max_eq_left (by linarith), min_eq_left (by linarith)]
  unfold SafetyProfile.clipJoints
  rw [lower, upper, margin]
  simp only [broadcast, uniform, List.replicate, tabletop, List.map_cons, List.map_nil, map₂,
    List.length_cons, List.length_nil, if_true, List.zipWith_cons_cons, List.zipWith_nil_left,
    Scalar.ofRat_real, Scalar.maximum_real, Scalar.minimum_real, bind, Except.bind]
  rw [inside, inside, inside, inside, inside] <;> norm_num

theorem allcloseJoints_uniform (t : ℝ) :
    allcloseJoints (uniform t) (uniform t) = .ok true := by
  have self : Scalar.close t t = true := by
    rw [Scalar.close_real, sub_self, abs_zero]
    positivity
  change Except.ok (([t, t, t, t, t, t, t].zipWith Scalar.close [t, t, t, t, t, t, t]).all id) = _
  simp only [List.zipWith_cons_cons, List.zipWith_nil_left, self, List.all_cons, List.all_nil, id,
    Bool.and_self]

theorem SafetyFilter.filterJoint_uniform {f : SafetyFilter ℝ}
    (lower : f.p.jointLower = tabletop.jointLower) (upper : f.p.jointUpper = tabletop.jointUpper)
    (margin : f.p.jointMarginRad = 8 / 100) {state : RobotState ℝ} {a t : ℝ}
    (ref : f.prevQ.getD state.q = uniform a) (low : -1 ≤ t) (high : t ≤ 1) :
    let q := uniform (a + clampStep (maxJointStep f.p f.dt) (t - a))
    ∃ sr, f.filterJoint (uniform t) state = .ok (sr, { f with prevQ := some q }) ∧
      sr.ok = true ∧ sr.q = some q := by
  dsimp only
  unfold filterJoint
  dsimp only
  rw [clipJoints_uniform lower upper margin low high]
  dsimp only [bind, Except.bind]
  rw [allcloseJoints_uniform]
  dsimp only
  rw [if_pos rfl, ref, broadcast_uniform]
  dsimp only
  by_cases long : maxJointStep f.p f.dt < |t - a|
  · have some_long : (uniform (t - a)).any
        (fun s => decide (maxJointStep f.p f.dt < Scalar.abs s)) = true := by
      rw [List.any_eq_true]
      refine ⟨t - a, List.mem_replicate.mpr ⟨by decide, rfl⟩, ?_⟩
      rw [Scalar.abs_real]
      exact decide_eq_true long
    rw [if_pos some_long]
    have moved : (uniform (t - a)).map (clampStep (maxJointStep f.p f.dt)) =
        uniform (clampStep (maxJointStep f.p f.dt) (t - a)) := List.map_replicate
    rw [moved, broadcast_uniform]
    exact ⟨_, rfl, rfl, rfl⟩
  · have none_long : ¬ (uniform (t - a)).any
        (fun s => decide (maxJointStep f.p f.dt < Scalar.abs s)) = true := by
      intro some_long
      obtain ⟨s, member, exceeding⟩ := List.any_eq_true.mp some_long
      rw [List.eq_of_mem_replicate member, Scalar.abs_real] at exceeding
      exact long (of_decide_eq_true exceeding)
    rw [if_neg none_long, clampStep_of_short long, add_sub_cancel]
    exact ⟨_, rfl, rfl, rfl⟩

theorem limitMotion_norm_le_floor {p : SafetyProfile ℝ} (caps : p.PositiveCaps) {dt : ℝ}
    (nonneg : 0 ≤ dt) (ref : Pose ℝ) (draft : Draft ℝ) :
    ‖displacement ref (limitMotion p dt ref draft)‖ ≤ p.maxLinearSpeed * max dt eps := by
  rw [limitMotion_displacement]
  exact norm_limit_le_threshold eps (mul_nonneg caps.linearSpeed.le nonneg)
    (mul_le_mul_of_nonneg_left (le_max_left _ _) caps.linearSpeed.le) _

theorem SafetyFilter.filterCartesian_limited {f f' : SafetyFilter ℝ} {target pose : Pose ℝ}
    {state : RobotState ℝ} {cap : Option (Wrench ℝ)} {sr : SafetyResult ℝ}
    (uncapped : f.p.maxLinearAccel = none)
    (passed : f.filterCartesian target state cap = (sr, f')) (ok : sr.ok = true)
    (found : sr.pose = some pose) :
    ∃ draft, limitWorkspace f.p { target := target, clipped := false, reasons := [] } =
        some draft ∧
      pose = (limitMotion f.p f.dt (f.prevPose.getD state.tcpPose) draft).target ∧
      f'.p = f.p ∧ f'.dt = f.dt ∧ f'.prevPose = some pose ∧ f'.prevQ = f.prevQ := by
  rcases f.filterCartesian_cases target state cap with
    ⟨reason, rejected⟩ | ⟨draft, _, limited, result⟩
  · rw [rejected, Prod.mk.injEq] at passed
    rw [← passed.1] at ok
    cases ok
  · dsimp only at result
    rw [result, Prod.mk.injEq] at passed
    obtain ⟨same, left⟩ := passed
    rw [← same, Option.some.injEq] at found
    have plain : (limitLinearAccel f.p f.dt f.prevLinVel (f.prevPose.getD state.tcpPose)
        (limitMotion f.p f.dt (f.prevPose.getD state.tcpPose) draft)).1 =
          limitMotion f.p f.dt (f.prevPose.getD state.tcpPose) draft := by
      simp only [limitLinearAccel, uncapped]
    rw [plain] at found left
    subst left
    exact ⟨draft, limited, found.symm, rfl, rfl, congrArg some found, rfl⟩

theorem SafetyFilter.filterCartesian_step {f f' : SafetyFilter ℝ} {target pose : Pose ℝ}
    {state : RobotState ℝ} {cap : Option (Wrench ℝ)} {sr : SafetyResult ℝ}
    (caps : f.p.PositiveCaps) (uncapped : f.p.maxLinearAccel = none) (nonneg : 0 ≤ f.dt)
    (passed : f.filterCartesian target state cap = (sr, f')) (ok : sr.ok = true)
    (found : sr.pose = some pose) :
    (pose.pos - (f.prevPose.getD state.tcpPose).pos).norm ≤
      f.p.maxLinearSpeed * max f.dt eps := by
  obtain ⟨draft, _, same, _⟩ := filterCartesian_limited uncapped passed ok found
  have within := limitMotion_norm_le_floor caps nonneg (f.prevPose.getD state.tcpPose) draft
  rw [norm_displacement, ← same] at within
  exact within

end FlexivControl
