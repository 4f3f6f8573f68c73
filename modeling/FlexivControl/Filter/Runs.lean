/-
Sequences of Cartesian calls on one filter, and the filter's stages read as
steps of a Euclidean space.
-/

import FlexivControl.Core.Safety
import FlexivControl.Library.StepLimit

namespace FlexivControl

open StepLimit

section Runs

variable {K : Type} [Scalar K]

/-- One call of `filterCartesian`: its target, the state it is given, its cap. -/
structure FilterCall (K : Type) [Scalar K] where
  target : Pose K
  state : RobotState K
  cap : Option (Wrench K) := none

/-- The poses emitted with `ok`, in order. -/
def SafetyFilter.emitted (f : SafetyFilter K) : List (FilterCall K) → List (Pose K)
  | [] => []
  | call :: rest =>
      let (result, f) := f.filterCartesian call.target call.state call.cap
      match result.ok, result.pose with
      | true, some pose => pose :: f.emitted rest
      | _, _ => f.emitted rest

theorem SafetyFilter.emitted_of_rejected {f : SafetyFilter K} {call : FilterCall K}
    {reason : StopReason} (rest : List (FilterCall K))
    (rejected : f.filterCartesian call.target call.state call.cap =
      ({ ok := false, reason := reason }, f)) :
    f.emitted (call :: rest) = f.emitted rest := by
  simp only [emitted, rejected]

theorem SafetyFilter.emitted_of_ok {f f' : SafetyFilter K} {call : FilterCall K} {pose : Pose K}
    {clipped : Bool} {reasons : List StopReason} (rest : List (FilterCall K))
    (passed : f.filterCartesian call.target call.state call.cap =
      ({ ok := true, pose := some pose, clipped := clipped, clipReasons := reasons }, f')) :
    f.emitted (call :: rest) = pose :: f'.emitted rest := by
  simp only [emitted, passed]

end Runs

/-- The caps a profile sets are positive. -/
structure SafetyProfile.PositiveCaps (p : SafetyProfile ℝ) : Prop where
  linearSpeed : 0 < p.maxLinearSpeed
  angularSpeed : 0 < p.maxAngularSpeed
  poseJumpLinear : 0 < p.maxPoseJumpLinear
  poseJumpAngular : 0 < p.maxPoseJumpAngular
  jointSpeed : 0 < p.maxJointSpeedScale
  linearAccel : ∀ a, p.maxLinearAccel = some a → 0 < a

/-- No cap on the motion of the position is negative. -/
structure SafetyProfile.NonnegCaps (p : SafetyProfile ℝ) : Prop where
  linearSpeed : 0 ≤ p.maxLinearSpeed
  poseJumpLinear : 0 ≤ p.maxPoseJumpLinear
  linearAccel : ∀ a, p.maxLinearAccel = some a → 0 ≤ a

theorem SafetyProfile.PositiveCaps.nonneg {p : SafetyProfile ℝ} (caps : p.PositiveCaps) :
    p.NonnegCaps where
  linearSpeed := caps.linearSpeed.le
  poseJumpLinear := caps.poseJumpLinear.le
  linearAccel a accel := (caps.linearAccel a accel).le

/-- The longest step one tick may take. -/
noncomputable def linearStep (p : SafetyProfile ℝ) (dt : ℝ) : ℝ :=
  min p.maxPoseJumpLinear (p.maxLinearSpeed * dt)

@[simp] theorem eps_real : (eps : ℝ) = 1 / 1000000000 := by
  simp only [eps, Scalar.ofRat_real]
  norm_num

theorem eps_pos : (0 : ℝ) < eps := by
  rw [eps_real]
  norm_num

noncomputable def displacement (ref : Pose ℝ) (draft : Draft ℝ) : EuclideanSpace ℝ (Fin 3) :=
  draft.target.pos.toE - ref.pos.toE

theorem norm_displacement (ref : Pose ℝ) (draft : Draft ℝ) :
    ‖displacement ref draft‖ = (draft.target.pos - ref.pos).norm := by
  rw [displacement, ← Vec3.toE_sub, Vec3.norm_toE]

theorem limitLinearJump_displacement (p : SafetyProfile ℝ) (ref : Pose ℝ) (draft : Draft ℝ) :
    displacement ref (limitLinearJump p ref draft) =
      limit p.maxPoseJumpLinear p.maxPoseJumpLinear eps (displacement ref draft) := by
  unfold limitLinearJump
  dsimp only
  rw [← norm_displacement]
  by_cases long : p.maxPoseJumpLinear < ‖displacement ref draft‖
  · rw [if_pos long, limit_of_lt long]
    simp only [displacement, Draft.clip, Vec3.toE_add, Vec3.toE_mul, Vec3.toE_sub,
      add_sub_cancel_left, Scalar.greater_real]
  · rw [if_neg long, limit_of_le (not_lt.mp long)]

theorem limitLinearSpeed_displacement (p : SafetyProfile ℝ) (dt : ℝ) (ref : Pose ℝ)
    (draft : Draft ℝ) :
    displacement ref (limitLinearSpeed p dt ref draft) =
      limit (p.maxLinearSpeed * max dt eps) (p.maxLinearSpeed * dt) eps
        (displacement ref draft) := by
  have positive : 0 < max dt eps := lt_of_lt_of_le eps_pos (le_max_right _ _)
  unfold limitLinearSpeed
  dsimp only
  rw [← norm_displacement]
  simp only [Scalar.greater_real, lt_div_iff₀ positive]
  by_cases long : p.maxLinearSpeed * max dt eps < ‖displacement ref draft‖
  · rw [if_pos long, limit_of_lt long]
    simp only [displacement, Draft.clip, Vec3.toE_add, Vec3.toE_mul, Vec3.toE_sub,
      add_sub_cancel_left]
  · rw [if_neg long, limit_of_le (not_lt.mp long)]

theorem limitMotion_displacement (p : SafetyProfile ℝ) (dt : ℝ) (ref : Pose ℝ)
    (draft : Draft ℝ) :
    displacement ref (limitMotion p dt ref draft) =
      limit (p.maxLinearSpeed * max dt eps) (p.maxLinearSpeed * dt) eps
        (limit p.maxPoseJumpLinear p.maxPoseJumpLinear eps (displacement ref draft)) := by
  have dropSpeed (draft : Draft ℝ) :
      displacement ref (limitAngularSpeed p dt ref draft) = displacement ref draft := by
    rw [displacement, limitAngularSpeed_pos, displacement]
  have dropJump (draft : Draft ℝ) :
      displacement ref (limitAngularJump p ref draft) = displacement ref draft := by
    rw [displacement, limitAngularJump_pos, displacement]
  rw [limitMotion, dropSpeed, limitLinearSpeed_displacement, dropJump,
    limitLinearJump_displacement]

theorem limitMotion_norm_le {p : SafetyProfile ℝ} (caps : p.NonnegCaps) {dt : ℝ}
    (slow : eps ≤ dt) (ref : Pose ℝ) (draft : Draft ℝ) :
    ‖displacement ref (limitMotion p dt ref draft)‖ ≤ linearStep p dt := by
  have positive : 0 < dt := lt_of_lt_of_le eps_pos slow
  have speedNonneg : 0 ≤ p.maxLinearSpeed * dt := mul_nonneg caps.linearSpeed positive.le
  rw [limitMotion_displacement, max_eq_left slow]
  apply le_min
  · exact le_trans (norm_limit_le_norm eps speedNonneg (le_refl _) _)
      (norm_limit_le eps caps.poseJumpLinear _)
  · exact norm_limit_le eps speedNonneg _

theorem limitMotion_fraction {p : SafetyProfile ℝ} (caps : p.NonnegCaps) {dt : ℝ}
    (nonneg : 0 ≤ dt) (ref : Pose ℝ) (draft : Draft ℝ) :
    ∃ t : ℝ, 0 ≤ t ∧ t ≤ 1 ∧
      displacement ref (limitMotion p dt ref draft) = t • displacement ref draft := by
  obtain ⟨jump, jumpNonneg, jumpLe, jumpEq⟩ :=
    limit_eq_smul (eps : ℝ) caps.poseJumpLinear (le_refl p.maxPoseJumpLinear)
      (displacement ref draft)
  obtain ⟨speed, speedNonneg, speedLe, speedEq⟩ :=
    limit_eq_smul (eps : ℝ) (mul_nonneg caps.linearSpeed nonneg)
      (mul_le_mul_of_nonneg_left (le_max_left dt eps) caps.linearSpeed)
      (jump • displacement ref draft)
  refine ⟨speed * jump, mul_nonneg speedNonneg jumpNonneg, ?_, ?_⟩
  · exact mul_le_one₀ speedLe jumpNonneg jumpLe
  · rw [limitMotion_displacement, jumpEq, speedEq, mul_smul]

theorem limitLinearAccel_spec {p : SafetyProfile ℝ} {dt : ℝ} (slow : eps ≤ dt)
    (vPrev : Vec3 ℝ) (ref : Pose ℝ) (draft : Draft ℝ) :
    let out := limitLinearAccel p dt (some vPrev) ref draft
    displacement ref out.1 = dt • out.2.toE ∧
      (p.maxLinearAccel = none → out.2.toE = dt⁻¹ • displacement ref draft) ∧
      ∀ a, p.maxLinearAccel = some a →
        out.2.toE = approach (a * dt) eps vPrev.toE (dt⁻¹ • displacement ref draft) := by
  have positive : 0 < dt := lt_of_lt_of_le eps_pos slow
  have restored : displacement ref draft = dt • dt⁻¹ • displacement ref draft := by
    rw [smul_smul, mul_inv_cancel₀ positive.ne', one_smul]
  have velocity : ((draft.target.pos - ref.pos) / dt).toE = dt⁻¹ • displacement ref draft := by
    rw [Vec3.toE_div, Vec3.toE_sub, displacement]
  unfold limitLinearAccel
  dsimp only
  rw [Scalar.greater_real, max_eq_left slow]
  cases accel : p.maxLinearAccel with
  | none =>
      dsimp only
      refine ⟨?_, fun _ => velocity, fun a impossible => by cases impossible⟩
      rw [velocity]
      exact restored
  | some a =>
      dsimp only
      have change : ‖dt⁻¹ • displacement ref draft - vPrev.toE‖ =
          ((draft.target.pos - ref.pos) / dt - vPrev).norm := by
        rw [← Vec3.norm_toE, Vec3.toE_sub, velocity]
      rw [Option.getD_some, ← change, Scalar.greater_real]
      split
      · rename_i long
        refine ⟨?_, fun impossible => (by cases impossible), ?_⟩
        · simp only [displacement, Draft.clip, Vec3.toE_add, Vec3.toE_mul, add_sub_cancel_left]
        · intro b same
          cases same
          rw [approach, limit_of_lt long, Vec3.toE_add, Vec3.toE_mul, Vec3.toE_sub, velocity]
      · rename_i short
        refine ⟨?_, fun impossible => (by cases impossible), ?_⟩
        · rw [velocity]
          exact restored
        · intro b same
          cases same
          rw [approach, limit_of_le (not_lt.mp short), velocity, add_sub_cancel]

end FlexivControl
