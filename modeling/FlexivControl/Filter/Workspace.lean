/-
Workspace containment of the emitted Cartesian stream.

A position is accepted when clipping it to the box moves no coordinate by more
than the array library's closeness tolerance, which is what the filter itself
tests. Without the acceleration cap every emitted position lies between the
reference and an accepted goal. With it, the emitted position also leans toward
the point the remembered velocity carries the reference to.
-/

import FlexivControl.Filter.StreamLimits
import FlexivControl.Library.Tolerance

namespace FlexivControl

open StepLimit Tolerance

inductive Axis where
  | x
  | y
  | z
  deriving DecidableEq, Repr

def axisValue {K : Type} (v : Vec3 K) : Axis → K
  | .x => v.x
  | .y => v.y
  | .z => v.z

section Box

variable {K : Type} [Scalar K]

def SafetyProfile.interval (p : SafetyProfile K) : Axis → K × K
  | .x => p.wsX
  | .y => p.wsY
  | .z => p.wsZ

/-- The filter's own test: clipping the position changes nothing it can tell. -/
def SafetyProfile.accepts (p : SafetyProfile K) (pos : Vec3 K) : Prop :=
  allclosePosition (p.clipPosition pos) pos = true

/-- Strictly inside: every coordinate within its interval. -/
def SafetyProfile.contains (p : SafetyProfile K) (pos : Vec3 K) : Prop :=
  ∀ axis, (p.interval axis).1 ≤ axisValue pos axis ∧ axisValue pos axis ≤ (p.interval axis).2

def SafetyFilter.accelBinds (f : SafetyFilter K) (call : FilterCall K) : Bool :=
  match f.p.maxLinearAccel,
      limitWorkspace f.p { target := call.target, clipped := false, reasons := [] } with
  | some maxLinearAccel, some draft =>
      let ref := f.prevPose.getD call.state.tcpPose
      let vNew := ((limitMotion f.p f.dt ref draft).target.pos - ref.pos) /
        Scalar.greater f.dt eps
      decide (maxLinearAccel * f.dt < (vNew - f.prevLinVel.getD 0).norm)
  | _, _ => false

def SafetyFilter.carriedPoint (f : SafetyFilter K) (call : FilterCall K) : Vec3 K :=
  (f.prevPose.getD call.state.tcpPose).pos + f.prevLinVel.getD 0 * f.dt

/-- On every call the acceleration stage corrects, the carried point is accepted. -/
def SafetyFilter.CarriesInside (f : SafetyFilter K) : List (FilterCall K) → Prop
  | [] => True
  | call :: rest =>
      (f.accelBinds call = true → f.p.accepts (f.carriedPoint call)) ∧
        (f.filterCartesian call.target call.state call.cap).2.CarriesInside rest

end Box

noncomputable abbrev atol : ℝ := 1 / 100000000

noncomputable abbrev rtol : ℝ := 1 / 100000

/-- A coordinate's distance to its interval. -/
noncomputable def outside (p : SafetyProfile ℝ) (axis : Axis) (pos : Vec3 ℝ) : ℝ :=
  excess (p.interval axis).1 (p.interval axis).2 (axisValue pos axis)

theorem accepts_iff_axes (p : SafetyProfile ℝ) (pos : Vec3 ℝ) :
    p.accepts pos ↔
      ∀ axis, Accepts atol rtol (p.interval axis).1 (p.interval axis).2 (axisValue pos axis) := by
  simp only [SafetyProfile.accepts, allclosePosition, Bool.and_eq_true, Scalar.close_real]
  constructor
  · rintro ⟨⟨nearX, nearY⟩, nearZ⟩ axis
    cases axis with
    | x => exact nearX
    | y => exact nearY
    | z => exact nearZ
  · intro near
    exact ⟨⟨near .x, near .y⟩, near .z⟩

theorem atol_nonneg : 0 ≤ atol := by norm_num

theorem rtol_nonneg : 0 ≤ rtol := by norm_num

theorem rtol_small : rtol < 1 := by norm_num

theorem accepts_of_contains {p : SafetyProfile ℝ} {pos : Vec3 ℝ} (inside : p.contains pos) :
    p.accepts pos := by
  rw [accepts_iff_axes]
  intro axis
  obtain ⟨low, high⟩ := inside axis
  exact accepts_of_excess_zero atol_nonneg rtol_nonneg
    (excess_of_between (le_trans (min_le_left _ _) low) high)

theorem accepts_clipPosition (p : SafetyProfile ℝ) (pos : Vec3 ℝ) :
    p.accepts (p.clipPosition pos) := by
  rw [accepts_iff_axes]
  intro axis
  cases axis <;> exact accepts_clip atol_nonneg rtol_nonneg _ _ _

/-- Both modes of the workspace stage let only accepted positions through. -/
theorem limitWorkspace_accepts {p : SafetyProfile ℝ} {draft limited : Draft ℝ}
    (passed : limitWorkspace p draft = some limited) : p.accepts limited.target.pos := by
  unfold limitWorkspace at passed
  dsimp only at passed
  split at passed
  · rename_i near
    cases passed
    exact near
  · cases mode : p.workspaceAction with
    | clip =>
        rw [mode] at passed
        cases passed
        exact accepts_clipPosition p draft.target.pos
    | reject =>
        rw [mode] at passed
        cases passed

theorem limitWorkspace_of_contains {p : SafetyProfile ℝ} {draft : Draft ℝ}
    (inside : p.contains draft.target.pos) : limitWorkspace p draft = some draft := by
  unfold limitWorkspace
  exact if_pos (accepts_of_contains inside)

/-- The position a fraction `t` of the way from `a` to `b`. -/
noncomputable def partway (a b : Vec3 ℝ) (t : ℝ) : Vec3 ℝ := a + (b - a) * t

theorem axisValue_partway (a b : Vec3 ℝ) (t : ℝ) (axis : Axis) :
    axisValue (partway a b t) axis = axisValue a axis + t * (axisValue b axis - axisValue a axis) := by
  cases axis <;>
    simp only [axisValue, partway, Vec3.add_x, Vec3.add_y, Vec3.add_z, Vec3.mul_x, Vec3.mul_y,
      Vec3.mul_z, Vec3.sub_x, Vec3.sub_y, Vec3.sub_z] <;> ring

theorem accepts_partway {p : SafetyProfile ℝ} {a b : Vec3 ℝ} {t : ℝ} (lower : 0 ≤ t)
    (upper : t ≤ 1) (left : p.accepts a) (right : p.accepts b) : p.accepts (partway a b t) := by
  rw [accepts_iff_axes] at left right ⊢
  intro axis
  rw [axisValue_partway]
  rcases between_of_unit (x := axisValue a axis) (y := axisValue b axis) lower upper with
    ⟨low, high⟩ | ⟨low, high⟩
  · exact accepts_of_between atol_nonneg rtol_nonneg rtol_small (left axis) (right axis) low high
  · exact accepts_of_between atol_nonneg rtol_nonneg rtol_small (right axis) (left axis) low high

theorem outside_partway_le {p : SafetyProfile ℝ} {a b : Vec3 ℝ} {t : ℝ} (lower : 0 ≤ t)
    (upper : t ≤ 1) (goal : p.accepts b) (axis : Axis) :
    outside p axis (partway a b t) ≤
      outside p axis a + (atol + rtol * |axisValue (partway a b t) axis|) := by
  rw [accepts_iff_axes] at goal
  have tolerance : 0 ≤ atol + rtol * |axisValue (partway a b t) axis| := by positivity
  have start : 0 ≤ outside p axis a := excess_nonneg _ _ _
  have between := between_of_unit (x := axisValue a axis) (y := axisValue b axis) lower upper
  rw [← axisValue_partway] at between
  rcases le_max_iff.mp
      (excess_toward_accepted atol_nonneg rtol_nonneg rtol_small (goal axis) between) with
    kept | settled
  · exact le_trans kept (le_add_of_nonneg_right tolerance)
  · exact le_trans settled (le_add_of_nonneg_left start)

/-! ### Without the acceleration cap -/

theorem limitMotion_partway {p : SafetyProfile ℝ} (caps : p.PositiveCaps) {dt : ℝ}
    (nonneg : 0 ≤ dt) (ref : Pose ℝ) (draft : Draft ℝ) :
    ∃ t : ℝ, 0 ≤ t ∧ t ≤ 1 ∧
      (limitMotion p dt ref draft).target.pos = partway ref.pos draft.target.pos t := by
  obtain ⟨t, lower, upper, same⟩ := limitMotion_fraction caps.nonneg nonneg ref draft
  refine ⟨t, lower, upper, Vec3.toE_injective ?_⟩
  rw [partway, Vec3.toE_add, Vec3.toE_mul, Vec3.toE_sub]
  exact sub_eq_iff_eq_add'.mp same

/-- One call without the acceleration cap: refused with nothing changed, or a
pose partway from the reference to an accepted goal. -/
theorem SafetyFilter.filterCartesian_partway {f : SafetyFilter ℝ} (caps : f.p.PositiveCaps)
    (nonneg : 0 ≤ f.dt) (uncapped : f.p.maxLinearAccel = none) {start : Pose ℝ}
    (anchored : f.prevPose = some start) (call : FilterCall ℝ) :
    (∃ reason, f.filterCartesian call.target call.state call.cap =
      ({ ok := false, reason := reason }, f)) ∨
    ∃ pose clipped reasons f', f.filterCartesian call.target call.state call.cap =
        ({ ok := true, pose := some pose, clipped := clipped, clipReasons := reasons }, f') ∧
      f'.p = f.p ∧ f'.dt = f.dt ∧ f'.prevPose = some pose ∧
      ∃ goal t, 0 ≤ t ∧ t ≤ 1 ∧ f.p.accepts goal ∧ pose.pos = partway start.pos goal t := by
  rcases f.filterCartesian_cases call.target call.state call.cap with
    rejected | ⟨draft, _, found, passed⟩
  · exact Or.inl rejected
  · right
    dsimp only at passed
    rw [anchored, Option.getD_some] at passed
    have plain : (limitLinearAccel f.p f.dt f.prevLinVel start
        (limitMotion f.p f.dt start draft)).1 = limitMotion f.p f.dt start draft := by
      simp only [limitLinearAccel, uncapped]
    rw [plain] at passed
    obtain ⟨t, lower, upper, same⟩ := limitMotion_partway caps nonneg start draft
    exact ⟨_, _, _, _, passed, rfl, rfl, rfl, draft.target.pos, t, lower, upper,
      limitWorkspace_accepts found, same⟩

theorem emitted_accepted (calls : List (FilterCall ℝ)) :
    ∀ {f : SafetyFilter ℝ} {start : Pose ℝ}, f.p.PositiveCaps → 0 ≤ f.dt →
      f.p.maxLinearAccel = none → f.prevPose = some start → f.p.accepts start.pos →
      ∀ out ∈ f.emitted calls, f.p.accepts out.pos := by
  induction calls with
  | nil => intro f start _ _ _ _ _ out member; cases member
  | cons call rest ih =>
      intro f start caps nonneg uncapped anchored inside
      rcases f.filterCartesian_partway caps nonneg uncapped anchored call with
        ⟨reason, rejected⟩ |
          ⟨pose, clipped, reasons, f', passed, profile, step, kept, goal, t, lower, upper, near, same⟩
      · rw [SafetyFilter.emitted_of_rejected rest rejected]
        exact ih caps nonneg uncapped anchored inside
      · have poseInside : f.p.accepts pose.pos := by
          rw [same]
          exact accepts_partway lower upper inside near
        have later := ih (profile ▸ caps) (step ▸ nonneg) (profile ▸ uncapped) kept
          (profile ▸ poseInside)
        rw [profile] at later
        rw [SafetyFilter.emitted_of_ok rest passed]
        intro out member
        rcases List.mem_cons.mp member with first | further
        · rw [first]
          exact poseInside
        · exact later out further

theorem emitted_outside_isChain (calls : List (FilterCall ℝ)) :
    ∀ {f : SafetyFilter ℝ} {start : Pose ℝ}, f.p.PositiveCaps → 0 ≤ f.dt →
      f.p.maxLinearAccel = none → f.prevPose = some start →
      (start :: f.emitted calls).IsChain (fun a b => ∀ axis,
        outside f.p axis b.pos ≤
          outside f.p axis a.pos + (atol + rtol * |axisValue b.pos axis|)) := by
  induction calls with
  | nil => intro f start _ _ _ _; exact List.isChain_singleton _
  | cons call rest ih =>
      intro f start caps nonneg uncapped anchored
      rcases f.filterCartesian_partway caps nonneg uncapped anchored call with
        ⟨reason, rejected⟩ |
          ⟨pose, clipped, reasons, f', passed, profile, step, kept, goal, t, lower, upper, near, same⟩
      · rw [SafetyFilter.emitted_of_rejected rest rejected]
        exact ih caps nonneg uncapped anchored
      · have later := ih (profile ▸ caps) (step ▸ nonneg) (profile ▸ uncapped) kept
        rw [profile] at later
        rw [SafetyFilter.emitted_of_ok rest passed]
        refine List.isChain_cons_cons.mpr ⟨?_, later⟩
        intro axis
        rw [same]
        exact outside_partway_le lower upper near axis

/-- Without the acceleration cap: accepted stays accepted, and from anywhere else
no coordinate drifts outward by more than the tolerance in one output. -/
theorem emitted_stays_in_workspace (f : SafetyFilter ℝ) (caps : f.p.PositiveCaps)
    (nonneg : 0 ≤ f.dt) (uncapped : f.p.maxLinearAccel = none) (state : Option (RobotState ℝ))
    (pose : Option (Pose ℝ)) (q : Option (List ℝ)) (start : Pose ℝ)
    (at_start : (f.reset state pose q).prevPose = some start) (calls : List (FilterCall ℝ)) :
    (f.p.accepts start.pos →
      ∀ out ∈ (f.reset state pose q).emitted calls, f.p.accepts out.pos) ∧
    (start :: (f.reset state pose q).emitted calls).IsChain (fun a b => ∀ axis,
      outside f.p axis b.pos ≤
        outside f.p axis a.pos +
          (1 / 100000000 + 1 / 100000 * |axisValue b.pos axis|)) := by
  have resetCaps : (f.reset state pose q).p.PositiveCaps := by
    rw [SafetyFilter.reset_p]
    exact caps
  have resetNonneg : 0 ≤ (f.reset state pose q).dt := by
    rw [SafetyFilter.reset_dt]
    exact nonneg
  have resetUncapped : (f.reset state pose q).p.maxLinearAccel = none := by
    rw [SafetyFilter.reset_p]
    exact uncapped
  constructor
  · intro inside
    have kept := emitted_accepted calls resetCaps resetNonneg resetUncapped at_start
    rw [SafetyFilter.reset_p] at kept
    exact kept inside
  · have drift := emitted_outside_isChain calls resetCaps resetNonneg resetUncapped at_start
    rw [SafetyFilter.reset_p] at drift
    exact drift

noncomputable def tabletop : SafetyProfile ℝ := {}

theorem tabletop_positiveCaps : tabletop.PositiveCaps where
  linearSpeed := by norm_num [tabletop]
  angularSpeed := by norm_num [tabletop]
  poseJumpLinear := by norm_num [tabletop]
  poseJumpAngular := by norm_num [tabletop]
  jointSpeed := by norm_num [tabletop]
  linearAccel := by
    intro a accel
    cases accel

theorem overTable_contains {p : SafetyProfile ℝ} (x : p.wsX = tabletop.wsX)
    (y : p.wsY = tabletop.wsY) (z : p.wsZ = tabletop.wsZ) : p.contains overTable.pos := by
  intro axis
  cases axis with
  | x => norm_num [SafetyProfile.interval, axisValue, x, tabletop, overTable]
  | y => norm_num [SafetyProfile.interval, axisValue, y, tabletop, overTable]
  | z => norm_num [SafetyProfile.interval, axisValue, z, tabletop, overTable]

theorem emitted_stays_in_workspace_raise :
    tabletop.accepts overTable.pos ∧
      ∀ out ∈ ((SafetyFilter.init tabletop (1 / 100)).reset none (some overTable)).emitted
        [raiseCall, raiseCall], tabletop.accepts out.pos := by
  have inside : tabletop.accepts overTable.pos := accepts_of_contains (overTable_contains rfl rfl rfl)
  have kept := emitted_stays_in_workspace (SafetyFilter.init tabletop (1 / 100))
    tabletop_positiveCaps (by norm_num [SafetyFilter.init]) rfl none (some overTable) none overTable
    rfl [raiseCall, raiseCall]
  exact ⟨inside, kept.1 inside⟩

/-! ### With the acceleration cap -/

/-- The corrected position mixes the carried point with a point partway to the
limited one, both seen from the reference. -/
theorem mixed_velocity_eq (ref goal v : Vec3 ℝ) (dt floor ratio : ℝ) :
    ref + (v + ((goal - ref) / floor - v) * ratio) * dt =
      partway (ref + v * dt) (partway ref goal (dt / floor)) ratio := by
  apply Vec3.ext
  all_goals
    simp only [partway, Vec3.add_x, Vec3.add_y, Vec3.add_z, Vec3.mul_x, Vec3.mul_y, Vec3.mul_z,
      Vec3.sub_x, Vec3.sub_y, Vec3.sub_z, Vec3.div_x, Vec3.div_y, Vec3.div_z]
    ring

theorem limitLinearAccel_accepts {p : SafetyProfile ℝ} (caps : p.PositiveCaps) {dt : ℝ}
    (nonneg : 0 ≤ dt) (prevLinVel : Option (Vec3 ℝ)) {ref : Pose ℝ} {draft : Draft ℝ}
    (refInside : p.accepts ref.pos) (draftInside : p.accepts draft.target.pos)
    (carried : ∀ a, p.maxLinearAccel = some a →
      a * dt < ((draft.target.pos - ref.pos) / Scalar.greater dt eps - prevLinVel.getD 0).norm →
        p.accepts (ref.pos + prevLinVel.getD 0 * dt)) :
    p.accepts (limitLinearAccel p dt prevLinVel ref draft).1.target.pos := by
  have floorPos : 0 < max dt eps := lt_of_lt_of_le eps_pos (le_max_right _ _)
  unfold limitLinearAccel
  dsimp only
  cases accel : p.maxLinearAccel with
  | none => exact draftInside
  | some a =>
      dsimp only
      split
      · rename_i binds
        have capNonneg : 0 ≤ a * dt := mul_nonneg (caps.linearAccel a accel).le nonneg
        have inside := carried a accel binds
        rw [Scalar.greater_real] at binds ⊢
        have longer : a * dt ≤ max ((draft.target.pos - ref.pos) / max dt eps -
            prevLinVel.getD 0).norm eps := le_trans binds.le (le_max_left _ _)
        have ratioPos : 0 < max ((draft.target.pos - ref.pos) / max dt eps -
            prevLinVel.getD 0).norm eps := lt_of_lt_of_le eps_pos (le_max_right _ _)
        simp only [Draft.clip, Scalar.greater_real]
        rw [mixed_velocity_eq]
        apply accepts_partway (div_nonneg capNonneg ratioPos.le)
          ((div_le_one ratioPos).mpr longer) inside
        exact accepts_partway (div_nonneg nonneg floorPos.le)
          ((div_le_one floorPos).mpr (le_max_left _ _)) refInside draftInside
      · exact draftInside

/-- One call from an accepted reference: refused with nothing changed, or a pose
that is accepted as long as a corrected call carries to an accepted point. -/
theorem SafetyFilter.filterCartesian_accepted {f : SafetyFilter ℝ} (caps : f.p.PositiveCaps)
    (nonneg : 0 ≤ f.dt) {start : Pose ℝ} (anchored : f.prevPose = some start)
    (inside : f.p.accepts start.pos) (call : FilterCall ℝ)
    (carried : f.accelBinds call = true → f.p.accepts (f.carriedPoint call)) :
    (∃ reason, f.filterCartesian call.target call.state call.cap =
      ({ ok := false, reason := reason }, f)) ∨
    ∃ pose clipped reasons f', f.filterCartesian call.target call.state call.cap =
        ({ ok := true, pose := some pose, clipped := clipped, clipReasons := reasons }, f') ∧
      f'.p = f.p ∧ f'.dt = f.dt ∧ f'.prevPose = some pose ∧ f.p.accepts pose.pos := by
  rcases f.filterCartesian_cases call.target call.state call.cap with
    rejected | ⟨draft, _, found, passed⟩
  · exact Or.inl rejected
  · right
    dsimp only at passed
    rw [anchored, Option.getD_some] at passed
    simp only [accelBinds, carriedPoint, found, anchored, Option.getD_some] at carried
    obtain ⟨t, lower, upper, same⟩ := limitMotion_partway caps nonneg start draft
    have limitedInside : f.p.accepts (limitMotion f.p f.dt start draft).target.pos := by
      rw [same]
      exact accepts_partway lower upper inside (limitWorkspace_accepts found)
    refine ⟨_, _, _, _, passed, rfl, rfl, rfl, ?_⟩
    apply limitLinearAccel_accepts caps nonneg f.prevLinVel inside limitedInside
    intro a accel binds
    rw [accel] at carried
    exact carried (decide_eq_true binds)

theorem emitted_accepted_of_carried (calls : List (FilterCall ℝ)) :
    ∀ {f : SafetyFilter ℝ} {start : Pose ℝ}, f.p.PositiveCaps → 0 ≤ f.dt →
      f.prevPose = some start → f.p.accepts start.pos → f.CarriesInside calls →
      ∀ out ∈ f.emitted calls, f.p.accepts out.pos := by
  induction calls with
  | nil => intro f start _ _ _ _ _ out member; cases member
  | cons call rest ih =>
      intro f start caps nonneg anchored inside carries
      obtain ⟨carried, further⟩ := carries
      rcases f.filterCartesian_accepted caps nonneg anchored inside call carried with
        ⟨reason, rejected⟩ |
          ⟨pose, clipped, reasons, f', passed, profile, step, kept, poseInside⟩
      · rw [rejected] at further
        rw [SafetyFilter.emitted_of_rejected rest rejected]
        exact ih caps nonneg anchored inside further
      · rw [passed] at further
        have later := ih (profile ▸ caps) (step ▸ nonneg) kept (profile ▸ poseInside) further
        rw [profile] at later
        rw [SafetyFilter.emitted_of_ok rest passed]
        intro out member
        rcases List.mem_cons.mp member with first | beyond
        · rw [first]
          exact poseInside
        · exact later out beyond

/-- Whatever the acceleration cap: a run from inside the box whose corrected calls
all carry to accepted points emits accepted positions only. -/
theorem emitted_stays_in_workspace_of_carried (f : SafetyFilter ℝ) (caps : f.p.PositiveCaps)
    (nonneg : 0 ≤ f.dt) (state : Option (RobotState ℝ)) (pose : Option (Pose ℝ))
    (q : Option (List ℝ)) (start : Pose ℝ) (at_start : (f.reset state pose q).prevPose = some start)
    (inside : f.p.contains start.pos) (calls : List (FilterCall ℝ))
    (carries : (f.reset state pose q).CarriesInside calls) :
    ∀ out ∈ (f.reset state pose q).emitted calls, f.p.accepts out.pos := by
  have kept := @emitted_accepted_of_carried calls (f.reset state pose q) start
  rw [SafetyFilter.reset_p, SafetyFilter.reset_dt] at kept
  exact kept caps nonneg at_start (accepts_of_contains inside) carries

end FlexivControl
