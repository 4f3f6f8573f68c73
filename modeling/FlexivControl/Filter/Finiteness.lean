/-
Where a setpoint that is not finite goes through the filter's stages.

Every limit is a test for too much, which not-a-number fails, so what the clip to the
workspace does not replace goes through. Infinite coordinates are clipped; a coordinate that
is not a number and an orientation that is not finite are emitted.
-/

import FlexivControl.Filter.Rotations
import FlexivControl.Filter.Workspace
import FlexivControl.Library.Ieee

namespace FlexivControl

def Pose.Finite (pose : Pose Ieee) : Prop := pose.pos.Finite ∧ pose.quat.Finite

def FiniteJoints (q : List Ieee) : Prop := ∀ x ∈ q, x.Finite

/-- The limits the filter computes with are finite. -/
structure SafetyProfile.Finite (p : SafetyProfile Ieee) : Prop where
  wsX : p.wsX.1.Finite ∧ p.wsX.2.Finite
  wsY : p.wsY.1.Finite ∧ p.wsY.2.Finite
  wsZ : p.wsZ.1.Finite ∧ p.wsZ.2.Finite
  linearSpeed : p.maxLinearSpeed.Finite
  angularSpeed : p.maxAngularSpeed.Finite
  poseJumpLinear : p.maxPoseJumpLinear.Finite
  poseJumpAngular : p.maxPoseJumpAngular.Finite
  linearAccel : ∀ a, p.maxLinearAccel = some a → a.Finite
  jointMargin : p.jointMarginRad.Finite
  jointSpeed : p.maxJointSpeedScale.Finite
  jointLower : FiniteJoints p.jointLower
  jointUpper : FiniteJoints p.jointUpper

/-- The measurements the filter falls back on are finite. -/
structure RobotState.Finite (state : RobotState Ieee) : Prop where
  tcpPose : state.tcpPose.Finite
  q : FiniteJoints state.q

structure SafetyFilter.Finite (f : SafetyFilter Ieee) : Prop where
  profile : f.p.Finite
  step : f.dt.Finite
  pose : ∀ pose, f.prevPose = some pose → pose.Finite
  q : ∀ q, f.prevQ = some q → FiniteJoints q
  velocity : ∀ v, f.prevLinVel = some v → v.Finite

section Stages

theorem eps_fin : (eps : Ieee) = .fin eps := by
  rw [eps, Ieee.ofRat_eq]
  rfl

theorem greater_eps {x : Ieee} (finite : x.Finite) :
    ∃ r : ℝ, Scalar.greater x eps = .fin r ∧ r ≠ 0 := by
  obtain ⟨r, rfl⟩ := finite
  refine ⟨Scalar.greater r eps, ?_, ?_⟩
  · rw [eps_fin, Ieee.fin_greater]
  · rw [Scalar.greater_real]
    exact (lt_of_lt_of_le eps_pos (le_max_right _ _)).ne'

theorem div_greater_finite {a x : Ieee} (finite : a.Finite) (divisor : x.Finite) :
    (a / Scalar.greater x eps).Finite := by
  obtain ⟨r, same, nonzero⟩ := greater_eps divisor
  rw [same]
  exact finite.div nonzero

theorem quatNormalize_finite {q : Quat Ieee} (finite : q.Finite) : (quatNormalize q).Finite := by
  have one : (1 : Quat Ieee).Finite :=
    ⟨Ieee.finite_fin 1, Ieee.finite_fin 0, Ieee.finite_fin 0, Ieee.finite_fin 0⟩
  unfold quatNormalize
  dsimp only
  split
  · exact one
  · rename_i long
    obtain ⟨n, length⟩ := finite.norm
    rw [length] at long ⊢
    have positive : n ≠ 0 := by
      rw [eps_fin, Ieee.fin_lt, not_lt] at long
      exact (eps_pos.trans_le long).ne'
    split
    · exact (finite.div positive).neg
    · exact finite.div positive

theorem clamp_fin (x : ℝ) : Scalar.lesser (1 : Ieee) (Scalar.greater (-1) (.fin x)) =
    .fin (min 1 (max (-1) x)) := by
  rw [Ieee.one_eq, Ieee.fin_neg, Ieee.fin_greater, Ieee.fin_lesser, Scalar.greater_real,
    Scalar.lesser_real]

theorem arccos_clamp (x : ℝ) :
    Scalar.arccos (Scalar.lesser (1 : Ieee) (Scalar.greater (-1) (.fin x))) =
      .fin (Real.arccos (min 1 (max (-1) x))) := by
  rw [clamp_fin]
  apply Ieee.fin_arccos
  · exact le_min (by norm_num) (le_max_left _ _)
  · exact min_le_left _ _

theorem quatAngle_finite {a b : Quat Ieee} (left : a.Finite) (right : b.Finite) :
    (quatAngle a b).Finite := by
  obtain ⟨d, dot⟩ := (quatNormalize_finite left).dot (quatNormalize_finite right)
  unfold quatAngle
  dsimp only
  rw [dot, Ieee.fin_abs, arccos_clamp, Ieee.ofNat_eq, Ieee.fin_mul]
  exact Ieee.finite_fin _

theorem quatSlerp_finite {a b : Quat Ieee} (left : a.Finite) (right : b.Finite) {t : Ieee}
    (fraction : t.Finite) : (quatSlerp a b t).Finite := by
  have unitA := quatNormalize_finite left
  have unitB := quatNormalize_finite right
  obtain ⟨d, dot⟩ := unitA.dot unitB
  obtain ⟨near, c, chosen, finite, facing⟩ : ∃ (near : Quat Ieee) (c : ℝ),
      (if (quatNormalize a).dot (quatNormalize b) < 0 then
        (-quatNormalize b, -(quatNormalize a).dot (quatNormalize b))
        else (quatNormalize b, (quatNormalize a).dot (quatNormalize b))) = (near, .fin c) ∧
      near.Finite ∧ 0 ≤ c := by
    rw [dot]
    by_cases far : d < 0
    · exact ⟨_, -d, if_pos far, unitB.neg, (neg_pos.mpr far).le⟩
    · exact ⟨_, d, if_neg far, unitB, not_lt.mp far⟩
  unfold quatSlerp
  dsimp only
  rw [chosen]
  dsimp only
  split
  · exact quatNormalize_finite (unitA.add ((finite.sub unitA).mul fraction))
  · rename_i apart
    have small : c < 1 := by
      rw [Ieee.ofRat_eq, Ieee.fin_lt, not_lt] at apart
      push_cast at apart
      linarith
    have clamped : min 1 (max (-1) c) = c := by
      rw [max_eq_right (by linarith), min_eq_right small.le]
    have positive : 0 < Real.arccos c := Real.arccos_pos.mpr small
    have short : Real.arccos c < Real.pi := by
      have quarter := Real.arccos_le_pi_div_two.mpr facing
      linarith [Real.pi_pos]
    have nonzero : Real.sin (Real.arccos c) ≠ 0 := (Real.sin_pos_of_pos_of_lt_pi positive short).ne'
    have sine : Scalar.sin (Ieee.fin (Real.arccos c)) = .fin (Real.sin (Real.arccos c)) := rfl
    rw [arccos_clamp, clamped, sine]
    have whole := Ieee.finite_fin (Real.arccos c)
    have part := whole.mul fraction
    apply quatNormalize_finite
    exact (unitA.mul ((whole.sub part).sin.div nonzero)).add (finite.mul (part.sin.div nonzero))

end Stages

/-- Normalising what is not finite leaves a component that is not a number. -/
theorem quatNormalize_tainted {q : Quat Ieee} (infinite : ¬ q.Finite) :
    (quatNormalize q).Tainted := by
  have tainted := Quat.tainted_div_norm infinite
  unfold quatNormalize
  dsimp only
  rw [eps_fin, if_neg ((Quat.blown_norm infinite).not_lt_fin _)]
  split
  · exact tainted.neg
  · exact tainted

/-- An interpolation toward what is not finite is not finite, however far it goes. -/
theorem quatSlerp_not_finite (a : Quat Ieee) {b : Quat Ieee} (infinite : ¬ b.Finite) (t : Ieee) :
    ¬ (quatSlerp a b t).Finite := by
  have tainted := quatNormalize_tainted infinite
  unfold quatSlerp
  dsimp only
  rw [tainted.dot, if_neg (Ieee.not_nan_lt _)]
  dsimp only
  rw [if_neg (Ieee.not_lt_nan _)]
  exact (quatNormalize_tainted ((tainted.mul _).add _).not_finite).not_finite

/-- From a reference that is not finite the angle is read as two half turns. -/
theorem quatAngle_poisoned {a : Quat Ieee} (infinite : ¬ a.Finite) (b : Quat Ieee) :
    quatAngle a b = .fin (2 * Real.pi) := by
  have lowest : Scalar.lesser (1 : Ieee) (Scalar.greater (-1) .nan) = .fin (-1) := by
    rw [Scalar.greater, if_neg (Ieee.not_lt_nan _), Ieee.one_eq, Ieee.fin_neg, Ieee.fin_lesser,
      Scalar.lesser_real, min_eq_right (by norm_num)]
  unfold quatAngle
  dsimp only
  rw [(quatNormalize_tainted infinite).dot_left, Ieee.abs_nan, lowest,
    Ieee.fin_arccos (le_refl _) (by norm_num), Real.arccos_neg_one, Ieee.ofNat_eq, Ieee.fin_mul]
  norm_num

theorem quatSlerp_poisoned {a : Quat Ieee} (infinite : ¬ a.Finite) (b : Quat Ieee) (t : Ieee) :
    ¬ (quatSlerp a b t).Finite := by
  have tainted := quatNormalize_tainted infinite
  unfold quatSlerp
  dsimp only
  rw [tainted.dot_left, if_neg (Ieee.not_nan_lt _)]
  dsimp only
  rw [if_neg (Ieee.not_lt_nan _)]
  exact (quatNormalize_tainted ((tainted.mul _).add_left _).not_finite).not_finite

/-- Under a cap below a full turn, a reference that is not finite spoils every target. -/
theorem limitTurn_poisoned {p : SafetyProfile Ieee}
    (capped : p.maxPoseJumpAngular < .fin (2 * Real.pi)) (dt : Ieee) {ref : Quat Ieee}
    (infinite : ¬ ref.Finite) (target : Quat Ieee) : ¬ (limitTurn p dt ref target).Finite := by
  unfold limitTurn
  dsimp only
  rw [quatAngle_poisoned infinite target, if_pos capped]
  split
  · exact quatSlerp_poisoned infinite _ _
  · exact quatSlerp_poisoned infinite _ _

theorem turn_finite_iff {ref q : Quat Ieee} (reference : ref.Finite) {t : Ieee}
    (fraction : q.Finite → t.Finite) (bites : Prop) [Decidable bites] :
    (if bites then quatSlerp ref q t else q).Finite ↔ q.Finite := by
  split
  · constructor
    · intro turned
      by_contra infinite
      exact quatSlerp_not_finite ref infinite t turned
    · exact fun finite => quatSlerp_finite reference finite (fraction finite)
  · exact Iff.rfl

theorem limitTurn_finite_iff {p : SafetyProfile Ieee} (finite : p.Finite) {dt : Ieee}
    (step : dt.Finite) {ref : Quat Ieee} (reference : ref.Finite) (target : Quat Ieee) :
    (limitTurn p dt ref target).Finite ↔ target.Finite := by
  unfold limitTurn
  dsimp only
  refine (turn_finite_iff reference ?_ _).trans (turn_finite_iff reference ?_ _)
  · exact fun held => div_greater_finite (finite.angularSpeed.mul step)
      (quatAngle_finite reference held)
  · exact fun held => div_greater_finite finite.poseJumpAngular (quatAngle_finite reference held)

theorem limitLinearJump_tainted {p : SafetyProfile Ieee} {ref : Pose Ieee} {draft : Draft Ieee}
    (tainted : draft.target.pos.Tainted) : limitLinearJump p ref draft = draft := by
  unfold limitLinearJump
  dsimp only
  rw [(tainted.sub _).norm, if_neg (Ieee.not_lt_nan _)]

theorem limitLinearSpeed_tainted {p : SafetyProfile Ieee} {dt : Ieee} {ref : Pose Ieee}
    {draft : Draft Ieee} (tainted : draft.target.pos.Tainted) :
    limitLinearSpeed p dt ref draft = draft := by
  unfold limitLinearSpeed
  dsimp only
  rw [(tainted.sub _).norm, Ieee.nan_div, if_neg (Ieee.not_lt_nan _)]

theorem limitLinearAccel_tainted {p : SafetyProfile Ieee} {dt : Ieee}
    {prevLinVel : Option (Vec3 Ieee)} {ref : Pose Ieee} {draft : Draft Ieee}
    (tainted : draft.target.pos.Tainted) :
    (limitLinearAccel p dt prevLinVel ref draft).1 = draft := by
  unfold limitLinearAccel
  dsimp only
  split
  · rfl
  · rw [(((tainted.sub _).div _).sub _).norm, if_neg (Ieee.not_lt_nan _)]

theorem limitMotion_tainted {p : SafetyProfile Ieee} {dt : Ieee} {ref : Pose Ieee}
    {draft : Draft Ieee} (tainted : draft.target.pos.Tainted) :
    (limitMotion p dt ref draft).target.pos = draft.target.pos := by
  unfold limitMotion
  dsimp only
  rw [limitAngularSpeed_pos, limitLinearSpeed_tainted, limitAngularJump_pos,
    limitLinearJump_tainted tainted]
  rw [limitAngularJump_pos, limitLinearJump_tainted tainted]
  exact tainted

section Positions

variable {p : SafetyProfile Ieee} (finite : p.Finite) {dt : Ieee} (step : dt.Finite)
  {ref : Pose Ieee} {draft : Draft Ieee}

include finite in
theorem limitLinearJump_finite (reference : ref.pos.Finite) (target : draft.target.pos.Finite) :
    (limitLinearJump p ref draft).target.pos.Finite := by
  have toward := target.sub reference
  unfold limitLinearJump
  dsimp only
  split
  · exact reference.add (toward.mul (div_greater_finite finite.poseJumpLinear toward.norm))
  · exact target

include finite step in
theorem limitLinearSpeed_finite (reference : ref.pos.Finite) (target : draft.target.pos.Finite) :
    (limitLinearSpeed p dt ref draft).target.pos.Finite := by
  have toward := target.sub reference
  unfold limitLinearSpeed
  dsimp only
  split
  · exact reference.add
      (toward.mul (div_greater_finite (finite.linearSpeed.mul step) toward.norm))
  · exact target

include finite step in
theorem limitMotion_finite (reference : ref.pos.Finite) (target : draft.target.pos.Finite) :
    (limitMotion p dt ref draft).target.pos.Finite := by
  unfold limitMotion
  dsimp only
  rw [limitAngularSpeed_pos]
  apply limitLinearSpeed_finite finite step reference
  rw [limitAngularJump_pos]
  exact limitLinearJump_finite finite reference target

include finite step in
theorem limitLinearAccel_finite {prevLinVel : Option (Vec3 Ieee)}
    (velocity : ∀ v, prevLinVel = some v → v.Finite) (reference : ref.pos.Finite)
    (target : draft.target.pos.Finite) :
    (limitLinearAccel p dt prevLinVel ref draft).1.target.pos.Finite ∧
      (limitLinearAccel p dt prevLinVel ref draft).2.Finite := by
  obtain ⟨r, divisor, nonzero⟩ := greater_eps step
  have carried : (prevLinVel.getD 0).Finite := by
    cases held : prevLinVel with
    | none => exact Vec3.finite_zero
    | some v => exact velocity v held
  have vNew : ((draft.target.pos - ref.pos) / Scalar.greater dt eps).Finite := by
    rw [divisor]
    exact (target.sub reference).div nonzero
  unfold limitLinearAccel
  dsimp only
  split
  · exact ⟨target, vNew⟩
  · rename_i a accel
    have cap := (finite.linearAccel a accel).mul step
    have dv := vNew.sub carried
    split
    · have moved := carried.add (dv.mul (div_greater_finite cap dv.norm))
      exact ⟨reference.add (moved.mul step), moved⟩
    · exact ⟨target, vNew⟩

end Positions

/-- Some coordinate of a position is not a number, or clipping makes all of them finite. -/
theorem clipPosition_finite {p : SafetyProfile Ieee} (finite : p.Finite) {pos : Vec3 Ieee}
    (number : ¬ pos.Tainted) : (p.clipPosition pos).Finite := by
  obtain ⟨x, yz⟩ := not_or.mp number
  obtain ⟨y, z⟩ := not_or.mp yz
  have clipped {a : Ieee} {bounds : Ieee × Ieee} (held : bounds.1.Finite ∧ bounds.2.Finite)
      (number : a ≠ .nan) : (Scalar.clip a bounds.1 bounds.2).Finite := by
    obtain ⟨⟨lower, atLower⟩, ⟨upper, atUpper⟩⟩ := held
    rw [atLower, atUpper]
    exact Ieee.clip_finite number lower upper
  exact ⟨clipped finite.wsX x, clipped finite.wsY y, clipped finite.wsZ z⟩

theorem clipPosition_tainted {p : SafetyProfile Ieee} {pos : Vec3 Ieee} (tainted : pos.Tainted) :
    (p.clipPosition pos).Tainted := by
  rcases tainted with x | y | z
  · exact Or.inl (congrArg (fun a => Scalar.clip a p.wsX.1 p.wsX.2) x)
  · exact Or.inr (Or.inl (congrArg (fun a => Scalar.clip a p.wsY.1 p.wsY.2) y))
  · exact Or.inr (Or.inr (congrArg (fun a => Scalar.clip a p.wsZ.1 p.wsZ.2) z))

theorem limitWorkspace_finite_iff {p : SafetyProfile Ieee} (finite : p.Finite)
    {draft limited : Draft Ieee} (found : limitWorkspace p draft = some limited) :
    (limited.target.pos.Finite ↔ ¬ draft.target.pos.Tainted) ∧
      (draft.target.pos.Tainted → limited.target.pos.Tainted) := by
  unfold limitWorkspace at found
  dsimp only at found
  have taint : draft.target.pos.Tainted → limited.target.pos.Tainted := by
    intro tainted
    split at found
    · cases found
      exact tainted
    · split at found
      · cases found
      · cases found
        exact clipPosition_tainted tainted
  refine ⟨⟨fun finite tainted => (taint tainted).not_finite finite, ?_⟩, taint⟩
  intro number
  have clipped := clipPosition_finite finite number
  split at found
  · rename_i close
    cases found
    unfold allclosePosition at close
    rw [Bool.and_eq_true, Bool.and_eq_true] at close
    exact ⟨Ieee.finite_of_close clipped.1 close.1.1, Ieee.finite_of_close clipped.2.1 close.1.2,
      Ieee.finite_of_close clipped.2.2 close.2⟩
  · split at found
    · cases found
    · cases found
      exact clipped

/-! ### One call -/

theorem SafetyFilter.filterCartesian_finite_iff {f : SafetyFilter Ieee} (finite : f.Finite)
    {call : FilterCall Ieee} (measured : call.state.Finite) :
    (∃ reason, f.filterCartesian call.target call.state call.cap =
        ({ ok := false, reason := reason }, f) ∧ ¬ f.passes call) ∨
    ∃ pose clipped reasons f', f.filterCartesian call.target call.state call.cap =
        ({ ok := true, pose := some pose, clipped := clipped, clipReasons := reasons }, f') ∧
      f.passes call ∧ (pose.Finite ↔ ¬ call.target.pos.Tainted ∧ call.target.quat.Finite) ∧
      (pose.Finite → f'.Finite) := by
  rcases f.filterCartesian_cases call.target call.state call.cap with
    ⟨reason, rejected⟩ | ⟨draft, light, limited, passed⟩
  · exact Or.inl ⟨reason, rejected, not_passes rejected⟩
  · right
    dsimp only at passed
    have reference : (f.prevPose.getD call.state.tcpPose).Finite := by
      cases held : f.prevPose with
      | none => exact measured.tcpPose
      | some pose => exact finite.pose pose held
    obtain ⟨kept, spoiled⟩ := limitWorkspace_finite_iff finite.profile limited
    have turned := filterCartesian_quat passed rfl
    have whole (target : draft.target.pos.Finite) :=
      limitLinearAccel_finite finite.profile finite.step finite.velocity reference.1
        (limitMotion_finite finite.profile finite.step reference.1 target)
    have position : (limitLinearAccel f.p f.dt f.prevLinVel (f.prevPose.getD call.state.tcpPose)
        (limitMotion f.p f.dt (f.prevPose.getD call.state.tcpPose) draft)).1.target.pos.Finite ↔
        ¬ call.target.pos.Tainted := by
      constructor
      · intro emitted tainted
        have same : (limitMotion f.p f.dt (f.prevPose.getD call.state.tcpPose) draft).target.pos =
            draft.target.pos := limitMotion_tainted (spoiled tainted)
        have still := spoiled tainted
        rw [← same] at still
        rw [limitLinearAccel_tainted still] at emitted
        exact still.not_finite emitted
      · exact fun numbers => (whole (kept.mpr numbers)).1
    refine ⟨_, _, _, _, passed, ⟨light, limited ▸ rfl⟩, ?_, ?_⟩
    · rw [Pose.Finite, position, turned,
        limitTurn_finite_iff finite.profile finite.step reference.2]
    · intro emitted
      have velocity := (whole (kept.mpr (position.mp emitted.1))).2
      refine ⟨finite.profile, finite.step, ?_, finite.q, ?_⟩
      · intro pose same
        rw [← Option.some.inj same]
        exact emitted
      · intro v same
        rw [← Option.some.inj same]
        exact velocity

end FlexivControl
