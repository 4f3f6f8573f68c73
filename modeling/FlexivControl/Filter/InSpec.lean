/-
What the filter leaves as it is.

A setpoint inside the limits and within one tick's caps of its reference passes
unclipped. The interpolators make only such setpoints: they count a segment's ticks
from the peak speed of the ease, under caps no looser than the filter's.
-/

import FlexivControl.Core.Interpolation
import FlexivControl.Filter.Steps
import FlexivControl.Library.Ease

namespace FlexivControl

open Broadcast Ease

theorem Quat.norm_div {q : Quat ℝ} (long : 0 < q.norm) : (q / q.norm).norm = 1 := by
  have square : q.dot q = q.norm * q.norm := by
    rw [Quat.norm, Scalar.sqrt_real, Real.mul_self_sqrt]
    exact add_nonneg (add_nonneg (add_nonneg (mul_self_nonneg q.w) (mul_self_nonneg q.x))
      (mul_self_nonneg q.y)) (mul_self_nonneg q.z)
  have scaled : (q / q.norm).dot (q / q.norm) = q.dot q / (q.norm * q.norm) := by
    rw [Quat.dot, Quat.dot]
    change q.w / q.norm * (q.w / q.norm) + q.x / q.norm * (q.x / q.norm) +
      q.y / q.norm * (q.y / q.norm) + q.z / q.norm * (q.z / q.norm) = _
    field_simp
  rw [Quat.norm, scaled, square, div_self (mul_pos long long).ne', Scalar.sqrt_real, Real.sqrt_one]

theorem Quat.norm_neg (q : Quat ℝ) : (-q).norm = q.norm := by
  rw [Quat.norm, Quat.norm, Quat.dot, Quat.dot]
  change Scalar.sqrt (-q.w * -q.w + -q.x * -q.x + -q.y * -q.y + -q.z * -q.z) = _
  rw [neg_mul_neg, neg_mul_neg, neg_mul_neg, neg_mul_neg]

theorem Quat.norm_one : (1 : Quat ℝ).norm = 1 := by
  rw [Quat.norm, Quat.dot]
  change Scalar.sqrt ((1 : ℝ) * 1 + 0 * 0 + 0 * 0 + 0 * 0) = 1
  norm_num

theorem quatNormalize_spec (q : Quat ℝ) :
    (quatNormalize q).norm = 1 ∧ 0 ≤ (quatNormalize q).w := by
  unfold quatNormalize
  dsimp only
  split
  · exact ⟨Quat.norm_one, zero_le_one⟩
  · rename_i long
    have positive : 0 < q.norm := lt_of_lt_of_le eps_pos (not_lt.mp long)
    split
    · rename_i negative
      refine ⟨(Quat.norm_neg _).trans (Quat.norm_div positive), ?_⟩
      change 0 ≤ -(q / q.norm).w
      linarith
    · rename_i nonneg
      exact ⟨Quat.norm_div positive, not_lt.mp nonneg⟩

theorem quatNormalize_of_unit {q : Quat ℝ} (unit : q.norm = 1) (sign : 0 ≤ q.w) :
    quatNormalize q = q := by
  have same : q / (1 : ℝ) = q := by
    apply Quat.ext
    · exact div_one _
    · exact div_one _
    · exact div_one _
    · exact div_one _
  unfold quatNormalize
  dsimp only
  rw [unit, if_neg (by rw [eps_real]; norm_num), same, if_neg (not_lt.mpr sign)]

@[simp] theorem quatNormalize_idem (q : Quat ℝ) :
    quatNormalize (quatNormalize q) = quatNormalize q :=
  quatNormalize_of_unit (quatNormalize_spec q).1 (quatNormalize_spec q).2

theorem quatNormalize_dot_self (q : Quat ℝ) : (quatNormalize q).dot (quatNormalize q) = 1 := by
  have unit := (quatNormalize_spec q).1
  rw [Quat.norm, Scalar.sqrt_real, Real.sqrt_eq_one] at unit
  exact unit

theorem quatAngle_of_aligned {a b : Quat ℝ} (aligned : quatNormalize a = quatNormalize b) :
    quatAngle a b = 0 := by
  have clamped : Scalar.lesser (1 : ℝ) (Scalar.greater (-1) (Scalar.abs 1)) = 1 := by
    rw [Scalar.lesser_real, Scalar.greater_real, Scalar.abs_real]
    norm_num
  have angle : (Scalar.arccos 1 : ℝ) = 0 := Real.arccos_one
  unfold quatAngle
  dsimp only
  rw [aligned, quatNormalize_dot_self, clamped, angle, mul_zero]

/-- Between two quaternions of one orientation there is nothing to interpolate. -/
theorem quatSlerp_of_aligned {a b : Quat ℝ} (aligned : quatNormalize a = quatNormalize b)
    (t : ℝ) : quatSlerp a b t = quatNormalize b := by
  have still (u : Quat ℝ) : u + t * (u - u) = u := by
    have zero (c : ℝ) : c + t * (c - c) = c := by rw [sub_self, mul_zero, add_zero]
    exact Quat.ext (zero u.w) (zero u.x) (zero u.y) (zero u.z)
  unfold quatSlerp
  dsimp only
  rw [aligned, quatNormalize_dot_self, if_neg (not_lt.mpr zero_le_one)]
  dsimp only
  rw [if_pos (by rw [Scalar.ofRat_real]; norm_num), still, quatNormalize_idem]

/-! ### Cartesian setpoints -/

theorem contains_partway {p : SafetyProfile ℝ} {a b : Vec3 ℝ} {t : ℝ} (lower : 0 ≤ t)
    (upper : t ≤ 1) (left : p.contains a) (right : p.contains b) : p.contains (partway a b t) := by
  intro axis
  obtain ⟨lowA, highA⟩ := left axis
  obtain ⟨lowB, highB⟩ := right axis
  rw [axisValue_partway]
  constructor
  · nlinarith
  · nlinarith

/-- No stage of the motion limits touches a short step that does not turn. -/
theorem limitMotion_of_still {p : SafetyProfile ℝ} (caps : p.PositiveCaps) {dt : ℝ}
    {ref : Pose ℝ} {draft : Draft ℝ} (still : quatAngle ref.quat draft.target.quat = 0)
    (withinJump : (draft.target.pos - ref.pos).norm ≤ p.maxPoseJumpLinear)
    (withinSpeed : (draft.target.pos - ref.pos).norm ≤ p.maxLinearSpeed * dt) :
    limitMotion p dt ref draft = draft := by
  have floor : (0 : ℝ) < max dt eps := lt_of_lt_of_le eps_pos (le_max_right _ _)
  have jump : limitLinearJump p ref draft = draft := by
    unfold limitLinearJump
    exact if_neg (not_lt.mpr withinJump)
  have turn : limitAngularJump p ref draft = draft := by
    unfold limitAngularJump
    dsimp only
    rw [still]
    exact if_neg (not_lt.mpr caps.poseJumpAngular.le)
  have speed : limitLinearSpeed p dt ref draft = draft := by
    unfold limitLinearSpeed
    dsimp only
    rw [Scalar.greater_real, if_neg]
    rw [not_lt, div_le_iff₀ floor]
    exact withinSpeed.trans (mul_le_mul_of_nonneg_left (le_max_left _ _) caps.linearSpeed.le)
  have spin : limitAngularSpeed p dt ref draft = draft := by
    unfold limitAngularSpeed
    dsimp only
    rw [still, zero_div]
    exact if_neg (not_lt.mpr caps.angularSpeed.le)
  unfold limitMotion
  dsimp only
  rw [jump, turn, speed, spin]

theorem limitMotion_of_short {p : SafetyProfile ℝ} (caps : p.PositiveCaps) {dt : ℝ}
    (roomy : p.maxLinearSpeed * dt ≤ p.maxPoseJumpLinear) {ref : Pose ℝ}
    {draft : Draft ℝ} (aligned : quatNormalize ref.quat = quatNormalize draft.target.quat)
    (short : (draft.target.pos - ref.pos).norm ≤ p.maxLinearSpeed * dt) :
    limitMotion p dt ref draft = draft :=
  limitMotion_of_still caps (quatAngle_of_aligned aligned) (short.trans roomy) short

theorem SafetyFilter.filterCartesian_of_short {f : SafetyFilter ℝ} (caps : f.p.PositiveCaps)
    (uncapped : f.p.maxLinearAccel = none)
    (roomy : f.p.maxLinearSpeed * f.dt ≤ f.p.maxPoseJumpLinear) {ref target : Pose ℝ}
    (at_ref : f.prevPose = some ref) (inside : f.p.contains target.pos)
    (aligned : quatNormalize ref.quat = quatNormalize target.quat)
    (short : (target.pos - ref.pos).norm ≤ f.p.maxLinearSpeed * f.dt) {state : RobotState ℝ}
    {cap : Option (Wrench ℝ)}
    (light : exceeds state.wrench (cap.getD f.p.maxContactWrench) = false) :
    ∃ v, f.filterCartesian target state cap =
      ({ ok := true, pose := some target, clipped := false, clipReasons := [] },
        { f with prevPose := some target, prevLinVel := some v }) := by
  have boxed : limitWorkspace f.p { target := target, clipped := false, reasons := [] } =
      some { target := target, clipped := false, reasons := [] } :=
    limitWorkspace_of_contains inside
  have passed := filterCartesian_of_limited light boxed
  dsimp only at passed
  have still : limitMotion f.p f.dt ref { target := target, clipped := false, reasons := [] } =
      { target := target, clipped := false, reasons := [] } :=
    limitMotion_of_short caps roomy aligned short
  rw [at_ref, Option.getD_some, still] at passed
  unfold limitLinearAccel at passed
  dsimp only at passed
  rw [uncapped] at passed
  exact ⟨_, passed⟩

theorem requestedTicks_whole {duration hz : ℝ} {n : ℕ} (whole : duration * hz = n) :
    requestedTicks duration hz = max 1 (n : ℤ) := by
  rw [requestedTicks, whole]
  exact congrArg (max 1) (Scalar.roundEven_natCast n)

theorem cosineBlend_real {s : ℝ} (lower : 0 ≤ s) (upper : s ≤ 1) : cosineBlend s = ease s := by
  unfold cosineBlend
  rw [Scalar.clip_real, max_eq_left lower, min_eq_left upper, Scalar.ofRat_real, ease]
  push_cast
  rfl

theorem cosineBlend_tick {n k : ℕ} (inside : k < n) :
    cosineBlend (Scalar.ofNat (k + 1) / Scalar.ofNat n : ℝ) = ease ((k + 1 : ℕ) / n) := by
  have ticks : (0 : ℝ) < n := Nat.cast_pos.mpr (Nat.zero_lt_of_lt inside)
  rw [Scalar.ofNat_real, Scalar.ofNat_real, cosineBlend_real]
  · positivity
  · rw [div_le_one ticks]
    exact_mod_cast inside

theorem enough_of_cappedTicks {cap dt distance : ℝ} (capped : 0 < cap) {n : ℤ}
    (covers : cappedTicks (some cap) dt distance ≤ n) :
    Real.pi / 2 * distance / (cap * dt) ≤ n := by
  unfold cappedTicks at covers
  dsimp only at covers
  rw [if_pos capped, Scalar.ceil_real] at covers
  have peak : (blendPeak : ℝ) = Real.pi / 2 := by
    rw [blendPeak, Scalar.ofNat_real]
    push_cast
    rfl
  rw [peak] at covers
  exact (Int.le_ceil _).trans (by exact_mod_cast covers)

/-- A waypoint inside the box that keeps the orientation `u`, given or left open. -/
structure CartesianWaypoint.InSpec (wp : CartesianWaypoint ℝ) (p : SafetyProfile ℝ) (u : Quat ℝ) :
    Prop where
  inside : p.contains wp.position
  holds : ∀ q, wp.quaternion = some q → quatNormalize q = u

/-- Setpoints that can be streamed one after the other from `start`: each inside the box,
with the orientation `u`, and one short step from the one before. -/
structure InSpecFrom (p : SafetyProfile ℝ) (u : Quat ℝ) (step : ℝ) (start : Vec3 ℝ)
    (setpoints : List (CartesianSetpoint ℝ)) : Prop where
  short : (start.toE :: setpoints.map (·.pose.pos.toE)).IsChain fun x y => ‖y - x‖ ≤ step
  inside : ∀ sp ∈ setpoints, p.contains sp.pose.pos
  aligned : ∀ sp ∈ setpoints, sp.pose.quat = u

namespace CartesianChunkInterpolator

theorem segment_toE {prevPos tgtPos : Vec3 ℝ} {prevQuat tgtQuat : Quat ℝ}
    {gripper : Option (GripperCommand ℝ)} {segIdx n : Nat} :
    (segment prevPos tgtPos prevQuat tgtQuat gripper segIdx n).map (·.pose.pos.toE) =
      walk prevPos.toE tgtPos.toE n := by
  rw [segment, walk, List.map_map]
  apply List.map_congr_left
  intro k inside
  change (prevPos + (tgtPos - prevPos) * _).toE = _
  rw [cosineBlend_tick (List.mem_range.mp inside), Vec3.toE_add, Vec3.toE_mul, Vec3.toE_sub, along]

theorem segment_inSpec {p : SafetyProfile ℝ} {u : Quat ℝ} {step : ℝ} (positive : 0 < step)
    {prevPos tgtPos : Vec3 ℝ} (fromInside : p.contains prevPos) (toInside : p.contains tgtPos)
    {prevQuat tgtQuat : Quat ℝ} (fromAligned : quatNormalize prevQuat = u)
    (toAligned : quatNormalize tgtQuat = u) (gripper : Option (GripperCommand ℝ)) (segIdx : Nat)
    {n : Nat} (some_tick : 0 < n)
    (enough : Real.pi / 2 * (tgtPos - prevPos).norm / step ≤ n) :
    InSpecFrom p u step prevPos (segment prevPos tgtPos prevQuat tgtQuat gripper segIdx n) where
  short := by
    rw [segment_toE]
    apply walk_isChain some_tick positive _ enough
    rw [← Vec3.toE_sub, Vec3.norm_toE]
  inside := by
    intro sp member
    obtain ⟨k, inRange, same⟩ := List.mem_map.mp member
    rw [← same]
    change p.contains (partway prevPos tgtPos _)
    rw [cosineBlend_tick (List.mem_range.mp inRange)]
    exact contains_partway (ease_nonneg _) (ease_le_one _) fromInside toInside
  aligned := by
    intro sp member
    obtain ⟨k, _, same⟩ := List.mem_map.mp member
    rw [← same]
    exact (quatSlerp_of_aligned (fromAligned.trans toAligned.symm) _).trans toAligned

theorem segmentTicks_enough {interp : CartesianChunkInterpolator ℝ} {cap : ℝ} (capped : 0 < cap)
    (uses : interp.maxLinearSpeed = some cap) (prevPos tgtPos : Vec3 ℝ) (prevQuat tgtQuat : Quat ℝ)
    (wp : CartesianWaypoint ℝ) :
    0 < interp.segmentTicks prevPos tgtPos prevQuat tgtQuat wp ∧
      Real.pi / 2 * (tgtPos - prevPos).norm / (cap * interp.dt) ≤
        interp.segmentTicks prevPos tgtPos prevQuat tgtQuat wp := by
  have covers : cappedTicks (some cap) interp.dt (tgtPos - prevPos).norm ≤
      (interp.segmentTicks prevPos tgtPos prevQuat tgtQuat wp : ℤ) := by
    unfold segmentTicks
    dsimp only
    rw [uses]
    omega
  constructor
  · unfold segmentTicks
    dsimp only
    omega
  · exact_mod_cast enough_of_cappedTicks capped covers

theorem setpointsFrom_inSpec {interp : CartesianChunkInterpolator ℝ} {p : SafetyProfile ℝ}
    {u : Quat ℝ} {cap : ℝ} (capped : 0 < cap) (uses : interp.maxLinearSpeed = some cap)
    (ticking : 0 < interp.dt) (waypoints : List (CartesianWaypoint ℝ)) :
    ∀ {prevPos : Vec3 ℝ} {prevQuat : Quat ℝ} (segIdx : Nat), p.contains prevPos →
      quatNormalize prevQuat = u → (∀ wp ∈ waypoints, wp.InSpec p u) →
      InSpecFrom p u (cap * interp.dt) prevPos
          (interp.setpointsFrom prevPos prevQuat segIdx waypoints) ∧
        ((interp.setpointsFrom prevPos prevQuat segIdx waypoints).map
          (·.pose.pos.toE)).getLast? = (waypoints.map (·.position.toE)).getLast? := by
  induction waypoints with
  | nil =>
      intro prevPos prevQuat segIdx _ _ _
      refine ⟨⟨List.isChain_singleton _, ?_, ?_⟩, rfl⟩
      · intro sp none
        cases none
      · intro sp none
        cases none
  | cons wp rest ih =>
      intro prevPos prevQuat segIdx inside aligned inSpec
      have here := inSpec wp List.mem_cons_self
      have tgtAligned : quatNormalize (wp.quaternion.getD prevQuat) = u := by
        cases given : wp.quaternion with
        | none => exact aligned
        | some q => exact here.holds q given
      obtain ⟨later, ends⟩ := ih (segIdx + 1) here.inside tgtAligned
        (fun wp inRest => inSpec wp (List.mem_cons_of_mem _ inRest))
      obtain ⟨some_tick, enough⟩ := segmentTicks_enough capped uses prevPos wp.position prevQuat
        (wp.quaternion.getD prevQuat) wp
      have first := segment_inSpec (mul_pos capped ticking) inside here.inside aligned tgtAligned
        wp.gripper segIdx some_tick enough
      have last := walk_last prevPos.toE wp.position.toE some_tick
      rw [setpointsFrom]
      refine ⟨⟨?_, ?_, ?_⟩, ?_⟩
      · rw [List.map_append]
        apply isChain_cons_append first.short _ later.short
        rw [segment_toE]
        exact last
      · intro sp member
        rcases List.mem_append.mp member with now | after
        · exact first.inside sp now
        · exact later.inside sp after
      · intro sp member
        rcases List.mem_append.mp member with now | after
        · exact first.aligned sp now
        · exact later.aligned sp after
      · rw [List.map_append, segment_toE, List.map_cons]
        exact getLast?_append_of last ends

end CartesianChunkInterpolator

/-! ### Joint setpoints -/

structure SafetyProfile.ContainsJoints (p : SafetyProfile ℝ) (q : List ℝ) : Prop where
  lower : List.Forall₂ (fun x lo => lo + p.jointMarginRad ≤ x) q p.jointLower
  upper : List.Forall₂ (fun x hi => x ≤ hi - p.jointMarginRad) q p.jointUpper

theorem broadcast_of_length_eq (f : ℝ → ℝ → ℝ) {xs ys : List ℝ} (same : xs.length = ys.length) :
    broadcast f xs ys = .ok (List.zipWith f xs ys) := by
  unfold broadcast
  rw [map₂_of_length_eq f same]

theorem SafetyProfile.ContainsJoints.clip {p : SafetyProfile ℝ} {q : List ℝ}
    (inside : p.ContainsJoints q) : p.clipJoints q = .ok q := by
  have raise (xs ls : List ℝ)
      (above : List.Forall₂ (fun x lo => lo + p.jointMarginRad ≤ x) xs ls) :
      List.zipWith Scalar.maximum xs (ls.map (· + p.jointMarginRad)) = xs := by
    induction above with
    | nil => rfl
    | cons high _ ih =>
        rw [List.map_cons, List.zipWith_cons_cons, ih, Scalar.maximum_real, max_eq_left high]
  have lower (xs hs : List ℝ)
      (below : List.Forall₂ (fun x hi => x ≤ hi - p.jointMarginRad) xs hs) :
      List.zipWith Scalar.minimum xs (hs.map (· - p.jointMarginRad)) = xs := by
    induction below with
    | nil => rfl
    | cons low _ ih =>
        rw [List.map_cons, List.zipWith_cons_cons, ih, Scalar.minimum_real, min_eq_left low]
  unfold SafetyProfile.clipJoints
  dsimp only
  rw [broadcast_of_length_eq _ (by rw [List.length_map]; exact inside.lower.length_eq),
    raise q p.jointLower inside.lower]
  dsimp only [bind, Except.bind]
  rw [broadcast_of_length_eq _ (by rw [List.length_map]; exact inside.upper.length_eq),
    lower q p.jointUpper inside.upper]

theorem allcloseJoints_self (q : List ℝ) : allcloseJoints q q = .ok true := by
  have self (x : ℝ) : Scalar.close x x = true := by
    rw [Scalar.close_real, sub_self, abs_zero]
    positivity
  have all (xs : List ℝ) : (List.zipWith Scalar.close xs xs).all id = true := by
    induction xs with
    | nil => rfl
    | cons x rest ih =>
        rw [List.zipWith_cons_cons, List.all_cons, ih, self]
        rfl
  unfold allcloseJoints
  rw [map₂_of_length_eq _ rfl]
  dsimp only
  rw [all]

abbrev JointsWithin (bound : ℝ) (qs rs : List ℝ) : Prop :=
  List.Forall₂ (fun a b => |b - a| ≤ bound) qs rs

theorem SafetyFilter.filterJoint_of_short {f : SafetyFilter ℝ} {ref target : List ℝ}
    (at_ref : f.prevQ = some ref) (inside : f.p.ContainsJoints target)
    (short : JointsWithin (maxJointStep f.p f.dt) ref target) (state : RobotState ℝ) :
    f.filterJoint target state =
      .ok ({ ok := true, q := some target, clipped := false, clipReasons := [] },
        { f with prevQ := some target }) := by
  have few (rs ts : List ℝ) (within : JointsWithin (maxJointStep f.p f.dt) rs ts) :
      ¬ (List.zipWith (· - ·) ts rs).any
        (fun s => decide (maxJointStep f.p f.dt < Scalar.abs s)) = true := by
    induction within with
    | nil => exact Bool.false_ne_true
    | cons near _ ih =>
        rw [List.zipWith_cons_cons, List.any_cons, Bool.or_eq_true, not_or]
        refine ⟨?_, ih⟩
        rw [decide_eq_true_iff, Scalar.abs_real, not_lt]
        exact near
  unfold filterJoint
  dsimp only
  rw [inside.clip]
  dsimp only [bind, Except.bind]
  rw [allcloseJoints_self]
  dsimp only
  rw [if_pos rfl, at_ref, Option.getD_some]
  dsimp only
  rw [broadcast_of_length_eq _ short.length_eq.symm]
  dsimp only
  rw [if_neg (few ref target short)]
  rfl

noncomputable def alongJoints (prev tgt : List ℝ) (n k : ℕ) : List ℝ :=
  List.zipWith (fun a b => along a b n k) prev tgt

section AlongJoints

variable {prev tgt : List ℝ} {bound : ℝ}

theorem alongJoints_zero (within : JointsWithin bound prev tgt) (n : ℕ) :
    alongJoints prev tgt n 0 = prev := by
  induction within with
  | nil => rfl
  | cons _ _ ih =>
      rw [alongJoints, List.zipWith_cons_cons, along_zero]
      exact congrArg _ ih

theorem alongJoints_last (within : JointsWithin bound prev tgt) {n : ℕ} (positive : 0 < n) :
    alongJoints prev tgt n n = tgt := by
  induction within with
  | nil => rfl
  | cons _ _ ih =>
      rw [alongJoints, List.zipWith_cons_cons, along_last _ _ positive]
      exact congrArg _ ih

theorem alongJoints_step (within : JointsWithin bound prev tgt) {n : ℕ} (k : ℕ)
    (positive : 0 < n) {cap : ℝ} (capped : 0 < cap) (enough : Real.pi / 2 * bound / cap ≤ n) :
    JointsWithin cap (alongJoints prev tgt n k) (alongJoints prev tgt n (k + 1)) := by
  induction within with
  | nil => exact .nil
  | @cons a b _ _ near _ ih =>
      have short : |along a b n (k + 1) - along a b n k| ≤ cap :=
        norm_along_sub_le (E := ℝ) k positive capped near enough
      exact .cons short ih

theorem alongJoints_contained {p : SafetyProfile ℝ} (start : p.ContainsJoints prev)
    (goal : p.ContainsJoints tgt) (n k : ℕ) : p.ContainsJoints (alongJoints prev tgt n k) := by
  have nonneg := ease_nonneg (k / n)
  have small := ease_le_one (k / n)
  have above (xs ys ls : List ℝ)
      (left : List.Forall₂ (fun x lo => lo + p.jointMarginRad ≤ x) xs ls)
      (right : List.Forall₂ (fun x lo => lo + p.jointMarginRad ≤ x) ys ls) :
      List.Forall₂ (fun x lo => lo + p.jointMarginRad ≤ x) (alongJoints xs ys n k) ls := by
    induction left generalizing ys with
    | nil => exact .nil
    | cons high _ ih =>
        cases right with
        | cons high' rest =>
            refine .cons ?_ (ih _ rest)
            dsimp only [along]
            rw [smul_eq_mul]
            nlinarith
  have below (xs ys hs : List ℝ)
      (left : List.Forall₂ (fun x hi => x ≤ hi - p.jointMarginRad) xs hs)
      (right : List.Forall₂ (fun x hi => x ≤ hi - p.jointMarginRad) ys hs) :
      List.Forall₂ (fun x hi => x ≤ hi - p.jointMarginRad) (alongJoints xs ys n k) hs := by
    induction left generalizing ys with
    | nil => exact .nil
    | cons low _ ih =>
        cases right with
        | cons low' rest =>
            refine .cons ?_ (ih _ rest)
            dsimp only [along]
            rw [smul_eq_mul]
            nlinarith
  exact ⟨above _ _ _ start.lower goal.lower, below _ _ _ start.upper goal.upper⟩

end AlongJoints

theorem maxAbs_spec {xs : List ℝ} (nonempty : xs ≠ []) :
    ∃ m, maxAbs xs = .ok m ∧ ∀ x ∈ xs, |x| ≤ m := by
  have above (rest : List ℝ) : ∀ m : ℝ, m ≤ rest.foldl Scalar.maximum m ∧
      ∀ y ∈ rest, y ≤ rest.foldl Scalar.maximum m := by
    induction rest with
    | nil =>
        intro m
        refine ⟨le_rfl, ?_⟩
        intro y none
        cases none
    | cons z rest ih =>
        intro m
        obtain ⟨start, others⟩ := ih (max m z)
        refine ⟨(le_max_left m z).trans start, ?_⟩
        intro y member
        rcases List.mem_cons.mp member with here | later
        · rw [here]
          exact (le_max_right m z).trans start
        · exact others y later
  cases xs with
  | nil => exact absurd rfl nonempty
  | cons x rest =>
      refine ⟨_, rfl, ?_⟩
      obtain ⟨start, others⟩ := above (rest.map Scalar.abs) (Scalar.abs x)
      intro y member
      rw [← Scalar.abs_real]
      rcases List.mem_cons.mp member with here | later
      · rw [here]
        exact start
      · exact others _ (List.mem_map_of_mem later)

theorem jointsWithin_of_move {bound : ℝ} : ∀ prev tgt : List ℝ, prev.length = tgt.length →
    (∀ x ∈ List.zipWith (· - ·) tgt prev, |x| ≤ bound) → JointsWithin bound prev tgt
  | [], [], _, _ => .nil
  | a :: prev, b :: tgt, same, bounded =>
      .cons (bounded (b - a) List.mem_cons_self)
        (jointsWithin_of_move prev tgt (Nat.succ.inj same)
          (fun x member => bounded x (List.mem_cons_of_mem _ member)))

theorem jointStep_eq (s : ℝ) : ∀ prev tgt : List ℝ,
    List.zipWith (· + ·) prev ((List.zipWith (· - ·) tgt prev).map (s * ·)) =
      List.zipWith (fun a b => a + s • (b - a)) prev tgt
  | [], _ => rfl
  | _ :: _, [] => rfl
  | a :: prev, b :: tgt => by
      rw [List.zipWith_cons_cons, List.map_cons, List.zipWith_cons_cons, List.zipWith_cons_cons,
        jointStep_eq s prev tgt]
      rfl

/-- Joint vectors that can be streamed one after the other from `start`. -/
structure JointsInSpecFrom (p : SafetyProfile ℝ) (step : ℝ) (start : List ℝ)
    (qs : List (List ℝ)) : Prop where
  short : (start :: qs).IsChain (JointsWithin step)
  inside : ∀ q ∈ qs, p.ContainsJoints q

noncomputable def jointWalk (prev tgt : List ℝ) (n : ℕ) : List (List ℝ) :=
  (List.range n).map fun k => alongJoints prev tgt n (k + 1)

theorem cons_jointWalk {prev tgt : List ℝ} {bound : ℝ} (within : JointsWithin bound prev tgt)
    (n : ℕ) : prev :: jointWalk prev tgt n = (List.range (n + 1)).map (alongJoints prev tgt n) := by
  rw [jointWalk, List.range_succ_eq_map, List.map_cons, List.map_map, alongJoints_zero within]
  rfl

theorem jointWalk_last {prev tgt : List ℝ} {bound : ℝ} (within : JointsWithin bound prev tgt)
    {n : ℕ} (positive : 0 < n) : (jointWalk prev tgt n).getLast? = some tgt := by
  cases n with
  | zero => omega
  | succ n =>
      rw [jointWalk, List.range_succ, List.map_append, List.map_singleton, List.getLast?_concat,
        alongJoints_last within positive]

theorem jointWalk_inSpec {p : SafetyProfile ℝ} {prev tgt : List ℝ} {bound : ℝ}
    (within : JointsWithin bound prev tgt) (start : p.ContainsJoints prev)
    (goal : p.ContainsJoints tgt) {n : ℕ} (positive : 0 < n) {cap : ℝ} (capped : 0 < cap)
    (enough : Real.pi / 2 * bound / cap ≤ n) : JointsInSpecFrom p cap prev (jointWalk prev tgt n) where
  short := by
    rw [cons_jointWalk within, List.isChain_map, List.isChain_range_succ]
    intro k _
    exact alongJoints_step within k positive capped enough
  inside := by
    intro q member
    obtain ⟨k, _, same⟩ := List.mem_map.mp member
    rw [← same]
    exact alongJoints_contained start goal n (k + 1)

namespace JointChunkInterpolator

theorem setpointsFrom_inSpec {interp : JointChunkInterpolator ℝ} {p : SafetyProfile ℝ} {cap : ℝ}
    (capped : 0 < cap) (uses : interp.maxJointSpeed = some cap) (ticking : 0 < interp.dt)
    (jointed : p.jointLower ≠ []) (waypoints : List (JointWaypoint ℝ)) :
    ∀ {prev : List ℝ}, p.ContainsJoints prev → (∀ wp ∈ waypoints, p.ContainsJoints wp.positions) →
      ∃ qs : List (List ℝ), interp.setpointsFrom prev waypoints = qs.map Except.ok ∧
        JointsInSpecFrom p (cap * interp.dt) prev qs ∧
        qs.getLast? = (waypoints.map (·.positions)).getLast? := by
  induction waypoints with
  | nil =>
      intro prev _ _
      refine ⟨[], rfl, ⟨List.isChain_singleton _, ?_⟩, rfl⟩
      intro q none
      cases none
  | cons wp rest ih =>
      intro prev start inside
      have goal := inside wp List.mem_cons_self
      obtain ⟨qs, later, inSpec, ends⟩ :=
        ih goal (fun wp inRest => inside wp (List.mem_cons_of_mem _ inRest))
      have same : prev.length = wp.positions.length :=
        start.lower.length_eq.trans goal.lower.length_eq.symm
      have moving : List.zipWith (· - ·) wp.positions prev ≠ [] := by
        intro empty
        have none := congrArg List.length empty
        rw [List.length_zipWith, same, min_self, goal.lower.length_eq] at none
        exact jointed (List.length_eq_zero_iff.mp none)
      obtain ⟨dq, largest, bounded⟩ := maxAbs_spec moving
      have within := jointsWithin_of_move _ _ same bounded
      generalize count : (max 1 (max (requestedTicks (wp.resolveDuration interp.hz) interp.hz)
        (cappedTicks (some cap) interp.dt dq))).toNat = n
      have some_tick : 0 < n := by omega
      have enough : Real.pi / 2 * dq / (cap * interp.dt) ≤ n := by
        have covers : cappedTicks (some cap) interp.dt dq ≤ (n : ℤ) := by omega
        exact_mod_cast enough_of_cappedTicks capped covers
      have values : ((List.range n).map fun k =>
          broadcast (· + ·) prev ((List.zipWith (· - ·) wp.positions prev).map
            (cosineBlend (Scalar.ofNat (k + 1) / Scalar.ofNat n) * ·))) =
              (jointWalk prev wp.positions n).map Except.ok := by
        rw [jointWalk, List.map_map]
        apply List.map_congr_left
        intro k inRange
        rw [cosineBlend_tick (List.mem_range.mp inRange), broadcast_of_length_eq _ (by
          rw [List.length_map, List.length_zipWith, same, min_self]), jointStep_eq]
        rfl
      have unfolded : interp.setpointsFrom prev (wp :: rest) =
          (jointWalk prev wp.positions n).map Except.ok ++ interp.setpointsFrom wp.positions rest := by
        rw [setpointsFrom, broadcast_of_length_eq _ same.symm]
        dsimp only [bind, Except.bind]
        rw [uses]
        dsimp only
        rw [if_pos capped, largest]
        dsimp only [pure, Except.pure]
        rw [count, values]
      have first := jointWalk_inSpec within start goal some_tick (mul_pos capped ticking) enough
      have last := jointWalk_last within some_tick
      refine ⟨jointWalk prev wp.positions n ++ qs, ?_, ⟨?_, ?_⟩, ?_⟩
      · rw [unfolded, later, List.map_append]
      · exact isChain_cons_append first.short last inSpec.short
      · intro q member
        rcases List.mem_append.mp member with now | after
        · exact first.inside q now
        · exact inSpec.inside q after
      · rw [List.map_cons]
        exact getLast?_append_of last ends

end JointChunkInterpolator

end FlexivControl
