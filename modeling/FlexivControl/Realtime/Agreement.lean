/-
The daemon's clamp and the Python filter, on positions.

The clamp scales once and the filter twice, under guards of their own. Where the cap is
above the guards and the pose-jump limit above the cap, both pull the position into the box
and then take one step of at most the cap.
-/

import FlexivControl.Filter.Workspace
import FlexivControl.Realtime.RateCap

namespace FlexivControl

open StepLimit Tolerance

/-- The box and the linear speed cap are the profile's. -/
structure SafetyBox.Of (box : SafetyBox ℝ) (p : SafetyProfile ℝ) : Prop where
  x : (box.xmin, box.xmax) = p.wsX
  y : (box.ymin, box.ymax) = p.wsY
  z : (box.zmin, box.zmax) = p.wsZ
  speed : box.maxLinSpeed = p.maxLinearSpeed

/-- What the filter has to be like for the two to be comparable. -/
structure SafetyFilter.Comparable (f : SafetyFilter ℝ) : Prop where
  clips : f.p.workspaceAction = .clip
  uncapped : f.p.maxLinearAccel = none
  slow : eps ≤ f.dt
  above : eps ≤ f.p.maxLinearSpeed * f.dt
  roomy : f.p.maxLinearSpeed * f.dt ≤ f.p.maxPoseJumpLinear

/-- The target is inside the box, or the filter can tell it from its clamped self. -/
def SafetyProfile.Tells (p : SafetyProfile ℝ) (pos : Vec3 ℝ) : Prop :=
  p.contains pos ∨ ¬ p.accepts pos

/-- The clamp on a stream of targets, each from where the one before was left. -/
noncomputable def SafetyBox.clampStream (box : SafetyBox ℝ) (dt : ℝ) :
    Pose ℝ → List (Pose ℝ) → List (Pose ℝ)
  | _, [] => []
  | prev, target :: targets =>
      box.clampInto target prev dt :: box.clampStream dt (box.clampInto target prev dt) targets

theorem SafetyBox.Of.boxed {box : SafetyBox ℝ} {p : SafetyProfile ℝ} (same : box.Of p)
    (pos : Vec3 ℝ) : box.boxed pos = p.clipPosition pos := by
  unfold SafetyBox.boxed SafetyProfile.clipPosition
  rw [← same.x, ← same.y, ← same.z]
  simp only [Scalar.lesser_real, Scalar.greater_real, Scalar.clip_real]

theorem SafetyProfile.clipPosition_of_contains {p : SafetyProfile ℝ} {pos : Vec3 ℝ}
    (inside : p.contains pos) : p.clipPosition pos = pos := by
  have kept (axis : Axis) : Scalar.clip (axisValue pos axis) (p.interval axis).1
      (p.interval axis).2 = axisValue pos axis := by
    obtain ⟨low, high⟩ := inside axis
    exact clip_of_between ((min_le_left _ _).trans low) high
  exact Vec3.ext (kept .x) (kept .y) (kept .z)

theorem limitWorkspace_tells {p : SafetyProfile ℝ} (clips : p.workspaceAction = .clip)
    {target : Pose ℝ} (tells : p.Tells target.pos) :
    ∃ draft, limitWorkspace p { target := target, clipped := false, reasons := [] } = some draft ∧
      draft.target.pos = p.clipPosition target.pos := by
  rcases tells with inside | outside
  · exact ⟨_, limitWorkspace_of_contains inside, (p.clipPosition_of_contains inside).symm⟩
  · let draft : Draft ℝ := { target := target, clipped := false, reasons := [] }
    refine ⟨draft.clip .workspace { target with pos := p.clipPosition target.pos }, ?_, rfl⟩
    unfold limitWorkspace
    have told : ¬ allclosePosition (p.clipPosition target.pos) target.pos = true := outside
    dsimp only
    rw [if_neg told, clips]

theorem limitMotion_comparable {f : SafetyFilter ℝ} (comparable : f.Comparable) (ref : Pose ℝ)
    (draft : Draft ℝ) :
    displacement ref (limitMotion f.p f.dt ref draft) =
      limit (f.p.maxLinearSpeed * f.dt) (f.p.maxLinearSpeed * f.dt) eps
        (displacement ref draft) := by
  have positive : 0 < f.p.maxPoseJumpLinear :=
    eps_pos.trans_le (comparable.above.trans comparable.roomy)
  rw [limitMotion_displacement, max_eq_left comparable.slow,
    limit_limit positive (comparable.above.trans comparable.roomy) comparable.roomy]

theorem SafetyFilter.filterCartesian_comparable {f : SafetyFilter ℝ} {box : SafetyBox ℝ}
    (same : box.Of f.p) (comparable : f.Comparable) {call : FilterCall ℝ} {prev : Pose ℝ}
    (light : exceeds call.state.wrench (call.cap.getD f.p.maxContactWrench) = false)
    (tells : f.p.Tells call.target.pos)
    (reference : (f.prevPose.getD call.state.tcpPose).pos = prev.pos) :
    ∃ pose clipped reasons f', f.filterCartesian call.target call.state call.cap =
        ({ ok := true, pose := some pose, clipped := clipped, clipReasons := reasons }, f') ∧
      f'.p = f.p ∧ f'.dt = f.dt ∧ f'.prevPose = some pose ∧
      pose.pos = (box.clampInto call.target prev f.dt).pos := by
  obtain ⟨draft, found, clamped⟩ := limitWorkspace_tells comparable.clips tells
  have passed := filterCartesian_of_limited light found
  dsimp only at passed
  have plain : (limitLinearAccel f.p f.dt f.prevLinVel (f.prevPose.getD call.state.tcpPose)
      (limitMotion f.p f.dt (f.prevPose.getD call.state.tcpPose) draft)).1 =
        limitMotion f.p f.dt (f.prevPose.getD call.state.tcpPose) draft := by
    simp only [limitLinearAccel, comparable.uncapped]
  rw [plain] at passed
  refine ⟨_, _, _, _, passed, rfl, rfl, rfl, Vec3.toE_injective ?_⟩
  have moved := limitMotion_comparable comparable (f.prevPose.getD call.state.tcpPose) draft
  have above := comparable.above
  rw [displacement, displacement, clamped, reference, sub_eq_iff_eq_add'] at moved
  rw [eps_real] at moved above
  rw [moved, box.clampInto_toE, same.boxed, same.speed, max_eq_left above]

theorem emitted_comparable {box : SafetyBox ℝ} (calls : List (FilterCall ℝ)) :
    ∀ {f : SafetyFilter ℝ} {start prev : Pose ℝ}, box.Of f.p → f.Comparable →
      (∀ call ∈ calls, exceeds call.state.wrench (call.cap.getD f.p.maxContactWrench) = false) →
      (∀ call ∈ calls, f.p.Tells call.target.pos) → f.prevPose = some start →
      start.pos = prev.pos →
      (f.emitted calls).map (·.pos) =
        (box.clampStream f.dt prev (calls.map (·.target))).map (·.pos) := by
  induction calls with
  | nil =>
      intro f start prev _ _ _ _ _ _
      rfl
  | cons call calls ih =>
      intro f start prev same comparable light tells anchored together
      have reference : (f.prevPose.getD call.state.tcpPose).pos = prev.pos := by
        rw [anchored]
        exact together
      obtain ⟨pose, clipped, reasons, f', passed, profile, step, kept, position⟩ :=
        f.filterCartesian_comparable same comparable (light call List.mem_cons_self)
          (tells call List.mem_cons_self) reference
      have comparable' : f'.Comparable := by
        refine ⟨?_, ?_, ?_, ?_, ?_⟩
        · exact profile ▸ comparable.clips
        · exact profile ▸ comparable.uncapped
        · exact step ▸ comparable.slow
        · rw [profile, step]
          exact comparable.above
        · rw [profile, step]
          exact comparable.roomy
      have later := ih (profile ▸ same) comparable'
        (fun other member => profile ▸ light other (List.mem_cons_of_mem call member))
        (fun other member => profile ▸ tells other (List.mem_cons_of_mem call member)) kept position
      rw [step] at later
      rw [SafetyFilter.emitted_of_ok calls passed, List.map_cons, List.map_cons,
        SafetyBox.clampStream, List.map_cons, later, position]

/-- The clamp and the filter leave a target at the same position, and so two streams of
targets at the same positions. -/
theorem clamp_agrees_with_filter {f : SafetyFilter ℝ} {box : SafetyBox ℝ} (same : box.Of f.p)
    (comparable : f.Comparable) :
    (∀ (call : FilterCall ℝ) (prev : Pose ℝ),
      exceeds call.state.wrench (call.cap.getD f.p.maxContactWrench) = false →
      f.p.Tells call.target.pos → (f.prevPose.getD call.state.tcpPose).pos = prev.pos →
      ∃ pose, (f.filterCartesian call.target call.state call.cap).1.ok = true ∧
        (f.filterCartesian call.target call.state call.cap).1.pose = some pose ∧
        pose.pos = (box.clampInto call.target prev f.dt).pos) ∧
    ∀ (calls : List (FilterCall ℝ)) (start prev : Pose ℝ), f.prevPose = some start →
      start.pos = prev.pos →
      (∀ call ∈ calls, exceeds call.state.wrench (call.cap.getD f.p.maxContactWrench) = false) →
      (∀ call ∈ calls, f.p.Tells call.target.pos) →
      (f.emitted calls).map (·.pos) =
        (box.clampStream f.dt prev (calls.map (·.target))).map (·.pos) := by
  constructor
  · intro call prev light tells reference
    obtain ⟨pose, clipped, reasons, f', passed, _, _, _, position⟩ :=
      f.filterCartesian_comparable same comparable light tells reference
    rw [passed]
    exact ⟨pose, rfl, rfl, position⟩
  · intro calls start prev anchored together light tells
    exact emitted_comparable calls same comparable light tells anchored together

/-- The shipped profile at one kilohertz against the daemon's box, on a far target out of
the box. -/
theorem clamp_agrees_with_filter_tabletop :
    ∃ pose, (((SafetyFilter.init tabletop (1 / 1000)).filterCartesian ⟨⟨2, 0, 3 / 10⟩, 1⟩
        { stamp := 0, tcpPose := benchPose }).1.pose = some pose) ∧
      pose.pos = (safety.clampInto ⟨⟨2, 0, 3 / 10⟩, 1⟩ benchPose (1 / 1000)).pos := by
  have same : (safety : SafetyBox ℝ).Of (SafetyFilter.init tabletop (1 / 1000)).p := by
    refine ⟨?_, ?_, ?_, ?_⟩ <;>
      norm_num [SafetyFilter.init, safety, tabletop]
  have comparable : (SafetyFilter.init tabletop (1 / 1000 : ℝ)).Comparable := by
    refine ⟨rfl, rfl, ?_, ?_, ?_⟩ <;>
      norm_num [SafetyFilter.init, tabletop]
  have light : exceeds (fun _ => (0 : ℝ)) tabletop.maxContactWrench = false := by
    rw [Bool.eq_false_iff, ne_eq, exceeds_real]
    rintro ⟨axis, heavy⟩
    fin_cases axis <;> norm_num [tabletop] at heavy
  have outside : tabletop.Tells ⟨2, 0, 3 / 10⟩ := by
    right
    intro accepted
    have near := (accepts_iff_axes tabletop ⟨2, 0, 3 / 10⟩).mp accepted .x
    norm_num [Accepts, excess, clip, SafetyProfile.interval, axisValue, tabletop] at near
  obtain ⟨pose, _, found, position⟩ := (clamp_agrees_with_filter same comparable).1
    ⟨⟨⟨2, 0, 3 / 10⟩, 1⟩, { stamp := 0, tcpPose := benchPose }, none⟩ benchPose light outside rfl
  exact ⟨pose, found, position⟩

end FlexivControl
