/-
A run that turns back inside the box, and one that leaves it: the acceleration cap brakes
the remembered velocity after the box has been applied, so the emitted position coasts,
close to the wall past it.

The runs stay on one line, along which every stage is the same stage on numbers.
-/

import FlexivControl.Filter.Workspace

namespace FlexivControl

open StepLimit Tolerance

/-- The position `x` along the line the run below stays on. -/
noncomputable def onLine (x : ℝ) : Vec3 ℝ := ⟨x, 0, 3 / 10⟩

noncomputable def alongX : ℝ →ₗᵢ[ℝ] EuclideanSpace ℝ (Fin 3) :=
  LinearIsometry.toSpanSingleton ℝ _ (v := Vec3.toE ⟨1, 0, 0⟩) (by
    rw [Vec3.norm_toE, Vec3.norm, Scalar.sqrt_real]
    norm_num)

theorem toE_along (d : ℝ) : Vec3.toE ⟨d, 0, 0⟩ = alongX d := by
  have scaled : (⟨1, 0, 0⟩ : Vec3 ℝ) * d = ⟨d, 0, 0⟩ := by
    apply Vec3.ext
    · exact one_mul d
    · exact zero_mul d
    · exact zero_mul d
  rw [← scaled, Vec3.toE_mul]
  rfl

theorem onLine_toE_sub (x y : ℝ) : (onLine x).toE - (onLine y).toE = alongX (x - y) := by
  rw [← toE_along, ← Vec3.toE_sub]
  congr 1
  apply Vec3.ext
  · rfl
  · exact sub_self (0 : ℝ)
  · exact sub_self (3 / 10 : ℝ)

noncomputable def briskTabletop : SafetyProfile ℝ := { maxLinearAccel := some 16 }

theorem briskTabletop_positiveCaps : briskTabletop.PositiveCaps where
  linearSpeed := by norm_num [briskTabletop]
  angularSpeed := by norm_num [briskTabletop]
  poseJumpLinear := by norm_num [briskTabletop]
  poseJumpAngular := by norm_num [briskTabletop]
  jointSpeed := by norm_num [briskTabletop]
  linearAccel := by
    intro a accel
    cases accel
    norm_num

theorem briskTabletop_contains {x : ℝ} (low : 1 / 4 ≤ x) (high : x ≤ 3 / 4) :
    briskTabletop.contains (onLine x) := by
  intro axis
  cases axis <;>
    simp only [briskTabletop, SafetyProfile.interval, axisValue, onLine, Scalar.ofRat_real] <;>
    norm_num
  exact ⟨low, high⟩

/-- The velocity one call at 100 Hz leaves, from velocity `v` and with `ahead` to go. -/
noncomputable def briskVelocity (v ahead : ℝ) : ℝ :=
  approach (16 * (1 / 100)) eps v
    ((1 / 100)⁻¹ * limit (1 / 400) (1 / 400) eps (limit (3 / 100) (3 / 100) eps ahead))

/-- The filter at 100 Hz on the brisk profile, at `x` on the line with velocity `v`. -/
structure SafetyFilter.OnLine (f : SafetyFilter ℝ) (x v : ℝ) : Prop where
  profile : f.p = briskTabletop
  step : f.dt = 1 / 100
  pose : ∃ start, f.prevPose = some start ∧ start.pos = onLine x
  velocity : f.prevLinVel = some ⟨v, 0, 0⟩

theorem briskTabletop_limitMotion {start target : Pose ℝ} {x goal : ℝ}
    (startPos : start.pos = onLine x) (targetPos : target.pos = onLine goal) :
    displacement start (limitMotion briskTabletop (1 / 100) start
      { target := target, clipped := false, reasons := [] }) =
        alongX (limit (1 / 400) (1 / 400) eps (limit (3 / 100) (3 / 100) eps (goal - x))) := by
  have floor : max (1 / 100 : ℝ) eps = 1 / 100 := max_eq_left (by rw [eps_real]; norm_num)
  have asked : displacement start { target := target, clipped := false, reasons := [] } =
      alongX (goal - x) := by
    rw [displacement, startPos, targetPos, onLine_toE_sub]
  have jump : briskTabletop.maxPoseJumpLinear = 3 / 100 := by norm_num [briskTabletop]
  have speed : briskTabletop.maxLinearSpeed * (1 / 100) = 1 / 400 := by norm_num [briskTabletop]
  rw [limitMotion_displacement, asked, floor, jump, speed, limit_map, limit_map]

theorem SafetyFilter.filterCartesian_onLine {f : SafetyFilter ℝ} {x v : ℝ} (at_x : f.OnLine x v)
    {call : FilterCall ℝ} {goal : ℝ} (target : call.target.pos = onLine goal)
    (low : 1 / 4 ≤ goal) (high : goal ≤ 3 / 4)
    (light : exceeds call.state.wrench (call.cap.getD f.p.maxContactWrench) = false) :
    ∃ pose clipped reasons f', f.filterCartesian call.target call.state call.cap =
        ({ ok := true, pose := some pose, clipped := clipped, clipReasons := reasons }, f') ∧
      pose.pos = onLine (x + 1 / 100 * briskVelocity v (goal - x)) ∧
      f'.OnLine (x + 1 / 100 * briskVelocity v (goal - x)) (briskVelocity v (goal - x)) := by
  obtain ⟨profile, step, ⟨start, anchored, startPos⟩, velocity⟩ := at_x
  have floor : max (1 / 100 : ℝ) eps = 1 / 100 := max_eq_left (by rw [eps_real]; norm_num)
  have inside : f.p.contains call.target.pos := by
    rw [profile, target]
    exact briskTabletop_contains low high
  have passed := filterCartesian_of_limited light (limitWorkspace_of_contains inside)
  dsimp only at passed
  rw [anchored, velocity, Option.getD_some, step, profile] at passed
  have slow : eps ≤ (1 / 100 : ℝ) := by
    rw [eps_real]
    norm_num
  obtain ⟨carried, _, capped⟩ := limitLinearAccel_spec (p := briskTabletop) slow ⟨v, 0, 0⟩ start
    (limitMotion briskTabletop (1 / 100) start
      { target := call.target, clipped := false, reasons := [] })
  have left := capped 16 rfl
  rw [briskTabletop_limitMotion startPos target, ← alongX.map_smul, toE_along, approach_map,
    ← toE_along] at left
  have speed := Vec3.toE_injective left
  rw [left, toE_along, ← alongX.map_smul] at carried
  have moved : (limitLinearAccel briskTabletop (1 / 100) (some ⟨v, 0, 0⟩) start
      (limitMotion briskTabletop (1 / 100) start
        { target := call.target, clipped := false, reasons := [] })).1.target.pos =
          onLine (x + 1 / 100 * briskVelocity v (goal - x)) := by
    apply Vec3.toE_injective
    rw [displacement, startPos] at carried
    have expected := onLine_toE_sub (x + 1 / 100 * briskVelocity v (goal - x)) x
    rw [add_sub_cancel_left] at expected
    exact sub_left_injective (carried.trans expected.symm)
  refine ⟨_, _, _, _, passed, moved, rfl, rfl, ⟨_, rfl, moved⟩, ?_⟩
  rw [speed]
  rfl

noncomputable def wallCall : FilterCall ℝ :=
  { target := ⟨onLine (3 / 4), 1⟩, state := { stamp := 0 } }

theorem SafetyFilter.OnLine.light {f : SafetyFilter ℝ} {x v : ℝ} (at_x : f.OnLine x v)
    (goal : Pose ℝ) : exceeds (FilterCall.mk goal { stamp := 0 } none).state.wrench
      (none.getD f.p.maxContactWrench) = false := by
  rw [at_x.profile, Bool.eq_false_iff, ne_eq, exceeds_real]
  rintro ⟨axis, heavy⟩
  fin_cases axis <;> norm_num [briskTabletop] at heavy

theorem SafetyFilter.emitted_wallCall {f : SafetyFilter ℝ} {x v w : ℝ} (at_x : f.OnLine x v)
    (velocity : briskVelocity v (3 / 4 - x) = w) (rest : List (FilterCall ℝ)) :
    ∃ (pose : Pose ℝ) (f' : SafetyFilter ℝ), f.emitted (wallCall :: rest) = pose :: f'.emitted rest ∧
      pose.pos = onLine (x + 1 / 100 * w) ∧ f'.OnLine (x + 1 / 100 * w) w := by
  obtain ⟨pose, clipped, reasons, f', passed, at_pose, next⟩ :=
    filterCartesian_onLine at_x (show wallCall.target.pos = onLine (3 / 4) from rfl) (by norm_num)
      (le_refl _) (at_x.light _)
  rw [velocity] at at_pose next
  exact ⟨pose, f', emitted_of_ok rest passed, at_pose, next⟩

/-! ### A run that turns back -/

noncomputable def turnCall : FilterCall ℝ :=
  { target := ⟨onLine (1 / 2), 1⟩, state := { stamp := 0 } }

theorem SafetyFilter.OnLine.carriedPoint {f : SafetyFilter ℝ} {x v : ℝ} (at_x : f.OnLine x v)
    (call : FilterCall ℝ) : f.carriedPoint call = onLine (x + v * (1 / 100)) := by
  obtain ⟨_, step, ⟨start, anchored, startPos⟩, velocity⟩ := at_x
  unfold SafetyFilter.carriedPoint
  rw [anchored, velocity, step, Option.getD_some, Option.getD_some, startPos]
  apply Vec3.ext
  · rfl
  · change (0 : ℝ) + 0 * (1 / 100) = 0
    ring
  · change (3 / 10 : ℝ) + 0 * (1 / 100) = 3 / 10
    ring

theorem SafetyFilter.OnLine.carries {f : SafetyFilter ℝ} {x v : ℝ} (at_x : f.OnLine x v)
    (low : 1 / 4 ≤ x + v * (1 / 100)) (high : x + v * (1 / 100) ≤ 3 / 4) (call : FilterCall ℝ) :
    f.p.accepts (f.carriedPoint call) := by
  rw [at_x.carriedPoint, at_x.profile]
  exact accepts_of_contains (briskTabletop_contains low high)

theorem turning_rises : briskVelocity 0 (3 / 4 - 1 / 2) = 4 / 25 := by
  norm_num [briskVelocity, approach, limit, Real.norm_eq_abs, abs_of_pos, abs_of_neg, eps_real]

noncomputable def restingFilter : SafetyFilter ℝ :=
  (SafetyFilter.init briskTabletop (1 / 100)).reset none (some ⟨onLine (1 / 2), 1⟩)

/-- The second call finds the first one's velocity toward the wall. -/
theorem emitted_stays_in_workspace_of_carried_turn :
    (restingFilter.filterCartesian wallCall.target wallCall.state wallCall.cap).2.prevLinVel =
      some ⟨4 / 25, 0, 0⟩ ∧
      ∀ out ∈ restingFilter.emitted [wallCall, turnCall], briskTabletop.accepts out.pos := by
  have at_start : restingFilter.OnLine (1 / 2) 0 := ⟨rfl, rfl, ⟨_, rfl, rfl⟩, rfl⟩
  have inside : briskTabletop.contains (onLine (1 / 2)) :=
    briskTabletop_contains (by norm_num) (by norm_num)
  obtain ⟨pose, clipped, reasons, f', passed, _, next⟩ := SafetyFilter.filterCartesian_onLine
    at_start (show wallCall.target.pos = onLine (3 / 4) from rfl) (by norm_num) (le_refl _)
    (at_start.light _)
  rw [turning_rises] at next
  refine ⟨?_, ?_⟩
  · rw [passed]
    exact next.velocity
  · apply emitted_stays_in_workspace_of_carried (SafetyFilter.init briskTabletop (1 / 100))
      briskTabletop_positiveCaps (by norm_num [SafetyFilter.init]) none
      (some ⟨onLine (1 / 2), 1⟩) none ⟨onLine (1 / 2), 1⟩ rfl inside
    refine ⟨fun _ => at_start.carries (by norm_num) (by norm_num) wallCall, ?_, trivial⟩
    intro _
    change (restingFilter.filterCartesian wallCall.target wallCall.state
      wallCall.cap).2.p.accepts ((restingFilter.filterCartesian wallCall.target wallCall.state
      wallCall.cap).2.carriedPoint turnCall)
    rw [passed]
    exact next.carries (by norm_num) (by norm_num) turnCall

/-! ### A run that leaves the box -/

theorem briskVelocity_first : briskVelocity 0 (3 / 4 - 7459 / 10000) = 4 / 25 := by
  norm_num [briskVelocity, approach, limit, Real.norm_eq_abs, abs_of_pos, abs_of_neg, eps_real]

theorem briskVelocity_second : briskVelocity (4 / 25) (3 / 4 - 299 / 400) = 1 / 4 := by
  norm_num [briskVelocity, approach, limit, Real.norm_eq_abs, abs_of_pos, abs_of_neg, eps_real]

theorem briskVelocity_third : briskVelocity (1 / 4) (3 / 4 - 3 / 4) = 9 / 100 := by
  norm_num [briskVelocity, approach, limit, Real.norm_eq_abs, abs_of_pos, abs_of_neg, eps_real]

theorem SafetyFilter.emitted_wallCalls {f : SafetyFilter ℝ} (at_start : f.OnLine (7459 / 10000) 0) :
    ∃ first second third : Pose ℝ, f.emitted [wallCall, wallCall, wallCall] =
      [first, second, third] ∧ third.pos = onLine (7509 / 10000) := by
  obtain ⟨first, f₁, ran₁, _, at₁⟩ :=
    emitted_wallCall at_start briskVelocity_first [wallCall, wallCall]
  rw [show (7459 / 10000 + 1 / 100 * (4 / 25) : ℝ) = 299 / 400 by norm_num] at at₁
  obtain ⟨second, f₂, ran₂, _, at₂⟩ := emitted_wallCall at₁ briskVelocity_second [wallCall]
  rw [show (299 / 400 + 1 / 100 * (1 / 4) : ℝ) = 3 / 4 by norm_num] at at₂
  obtain ⟨third, f₃, ran₃, at_third, _⟩ := emitted_wallCall at₂ briskVelocity_third []
  rw [show (3 / 4 + 1 / 100 * (9 / 100) : ℝ) = 7509 / 10000 by norm_num] at at_third
  refine ⟨first, second, third, ?_, at_third⟩
  rw [ran₁, ran₂, ran₃]
  rfl

theorem not_accepts_past_wall : ¬ briskTabletop.accepts (onLine (7509 / 10000)) := by
  rw [accepts_iff_axes]
  intro accepted
  have past : (75 / 100 : ℝ) < 7509 / 10000 := by norm_num
  have drift := accepted .x
  rw [Accepts] at drift
  have upper : (briskTabletop.interval .x).2 = 75 / 100 := by
    norm_num [briskTabletop, SafetyProfile.interval]
  rw [upper, axisValue, onLine, excess_of_gt past] at drift
  norm_num [abs_of_pos] at drift

/-- From inside the box at 0.7459 m, three calls toward the wall end 0.9 mm past it. -/
theorem emitted_leaves_workspace :
    briskTabletop.PositiveCaps ∧ briskTabletop.maxLinearAccel = some 16 ∧
      briskTabletop.contains (onLine (7459 / 10000)) ∧
      ∃ out ∈ ((SafetyFilter.init briskTabletop (1 / 100)).reset none
          (some ⟨onLine (7459 / 10000), 1⟩)).emitted [wallCall, wallCall, wallCall],
        ¬ briskTabletop.accepts out.pos := by
  refine ⟨briskTabletop_positiveCaps, rfl,
    briskTabletop_contains (by norm_num) (by norm_num), ?_⟩
  obtain ⟨first, second, third, ran, at_third⟩ :=
    SafetyFilter.emitted_wallCalls (f := (SafetyFilter.init briskTabletop (1 / 100)).reset none
      (some ⟨onLine (7459 / 10000), 1⟩)) ⟨rfl, rfl, ⟨_, rfl, rfl⟩, rfl⟩
  refine ⟨third, ?_, ?_⟩
  · rw [ran]
    simp
  · rw [at_third]
    exact not_accepts_past_wall

end FlexivControl
