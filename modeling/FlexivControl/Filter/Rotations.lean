/-
The norm of the emitted orientations.

The angle tests normalise what they compare, so they see no difference between a quaternion
and a multiple of it; only a call that turns the orientation back renormalises it. Every
other call that passes emits the target's quaternion as it came.
-/

import FlexivControl.Filter.InSpec

namespace FlexivControl

section Calls

variable {K : Type} [Scalar K]

def SafetyFilter.turnsBack (f : SafetyFilter K) (call : FilterCall K) : Prop :=
  let angStep := quatAngle (f.prevPose.getD call.state.tcpPose).quat call.target.quat
  f.p.maxPoseJumpAngular < angStep ∨ f.p.maxAngularSpeed < angStep / Scalar.greater f.dt eps

def SafetyFilter.passes (f : SafetyFilter K) (call : FilterCall K) : Prop :=
  exceeds call.state.wrench (call.cap.getD f.p.maxContactWrench) = false ∧
    (limitWorkspace f.p { target := call.target, clipped := false, reasons := [] }).isSome

/-- The filter after these calls. -/
def SafetyFilter.after (f : SafetyFilter K) (calls : List (FilterCall K)) : SafetyFilter K :=
  calls.foldl (fun f call => (f.filterCartesian call.target call.state call.cap).2) f

theorem SafetyFilter.not_passes {f : SafetyFilter K} {call : FilterCall K} {reason : StopReason}
    (rejected : f.filterCartesian call.target call.state call.cap =
      ({ ok := false, reason := reason }, f)) : ¬ f.passes call := by
  rintro ⟨light, fits⟩
  obtain ⟨draft, limited⟩ := Option.isSome_iff_exists.mp fits
  have passed := filterCartesian_of_limited light limited
  dsimp only at passed
  rw [rejected, Prod.mk.injEq] at passed
  cases passed.1

theorem limitWorkspace_quat {p : SafetyProfile K} {draft limited : Draft K}
    (found : limitWorkspace p draft = some limited) : limited.target.quat = draft.target.quat := by
  unfold limitWorkspace at found
  dsimp only at found
  split at found
  · cases found
    rfl
  · split at found
    · cases found
    · cases found
      rfl

@[simp] theorem limitLinearJump_quat (p : SafetyProfile K) (ref : Pose K) (draft : Draft K) :
    (limitLinearJump p ref draft).target.quat = draft.target.quat := by
  unfold limitLinearJump
  dsimp only
  split <;> rfl

@[simp] theorem limitLinearSpeed_quat (p : SafetyProfile K) (dt : K) (ref : Pose K)
    (draft : Draft K) : (limitLinearSpeed p dt ref draft).target.quat = draft.target.quat := by
  unfold limitLinearSpeed
  dsimp only
  split <;> rfl

@[simp] theorem limitLinearAccel_quat (p : SafetyProfile K) (dt : K) (prevLinVel : Option (Vec3 K))
    (ref : Pose K) (draft : Draft K) :
    (limitLinearAccel p dt prevLinVel ref draft).1.target.quat = draft.target.quat := by
  unfold limitLinearAccel
  dsimp only
  split
  · rfl
  · split <;> rfl

def limitTurn (p : SafetyProfile K) (dt : K) (ref target : Quat K) : Quat K :=
  let angStep := quatAngle ref target
  let held := if p.maxPoseJumpAngular < angStep then
      quatSlerp ref target (p.maxPoseJumpAngular / Scalar.greater angStep eps)
    else target
  let angStep := quatAngle ref held
  if p.maxAngularSpeed < angStep / Scalar.greater dt eps then
    quatSlerp ref held ((p.maxAngularSpeed * dt) / Scalar.greater angStep eps)
  else held

theorem limitMotion_quat (p : SafetyProfile K) (dt : K) (ref : Pose K) (draft : Draft K) :
    (limitMotion p dt ref draft).target.quat = limitTurn p dt ref.quat draft.target.quat := by
  have jump (draft : Draft K) : (limitAngularJump p ref draft).target.quat =
      if p.maxPoseJumpAngular < quatAngle ref.quat draft.target.quat then
        quatSlerp ref.quat draft.target.quat
          (p.maxPoseJumpAngular / Scalar.greater (quatAngle ref.quat draft.target.quat) eps)
      else draft.target.quat := by
    unfold limitAngularJump
    dsimp only
    split <;> rfl
  have speed (draft : Draft K) : (limitAngularSpeed p dt ref draft).target.quat =
      if p.maxAngularSpeed < quatAngle ref.quat draft.target.quat / Scalar.greater dt eps then
        quatSlerp ref.quat draft.target.quat
          ((p.maxAngularSpeed * dt) / Scalar.greater (quatAngle ref.quat draft.target.quat) eps)
      else draft.target.quat := by
    unfold limitAngularSpeed
    dsimp only
    split <;> rfl
  unfold limitMotion
  dsimp only
  rw [speed, limitLinearSpeed_quat, jump, limitLinearJump_quat]
  rfl

/-- A call that passes emits its target's quaternion, turned back to the limits. -/
theorem SafetyFilter.filterCartesian_quat {f f' : SafetyFilter K} {call : FilterCall K}
    {sr : SafetyResult K} {pose : Pose K}
    (result : f.filterCartesian call.target call.state call.cap = (sr, f'))
    (found : sr.pose = some pose) :
    pose.quat =
      limitTurn f.p f.dt (f.prevPose.getD call.state.tcpPose).quat call.target.quat := by
  rcases f.filterCartesian_cases call.target call.state call.cap with
    ⟨reason, rejected⟩ | ⟨draft, _, limited, passed⟩
  · rw [rejected, Prod.mk.injEq] at result
    rw [← result.1] at found
    cases found
  · dsimp only at passed
    rw [passed, Prod.mk.injEq] at result
    rw [← result.1, Option.some.injEq] at found
    rw [← found, limitLinearAccel_quat, limitMotion_quat, limitWorkspace_quat limited]

end Calls

theorem quatSlerp_norm (a b : Quat ℝ) (t : ℝ) : (quatSlerp a b t).norm = 1 := by
  unfold quatSlerp
  dsimp only
  generalize (if (quatNormalize a).dot (quatNormalize b) < 0 then
    (-quatNormalize b, -(quatNormalize a).dot (quatNormalize b))
    else (quatNormalize b, (quatNormalize a).dot (quatNormalize b))) = near
  split
  · exact (quatNormalize_spec _).1
  · exact (quatNormalize_spec _).1

theorem limitTurn_norm_iff (p : SafetyProfile ℝ) (dt : ℝ) (ref target : Quat ℝ) :
    (limitTurn p dt ref target).norm = 1 ↔ target.norm = 1 ∨
      p.maxPoseJumpAngular < quatAngle ref target ∨
      p.maxAngularSpeed < quatAngle ref target / Scalar.greater dt eps := by
  unfold limitTurn
  dsimp only
  by_cases jumps : p.maxPoseJumpAngular < quatAngle ref target
  · rw [if_pos jumps]
    refine ⟨fun _ => Or.inr (Or.inl jumps), fun _ => ?_⟩
    split
    · exact quatSlerp_norm _ _ _
    · exact quatSlerp_norm _ _ _
  · rw [if_neg jumps]
    by_cases spins : p.maxAngularSpeed < quatAngle ref target / Scalar.greater dt eps
    · rw [if_pos spins]
      exact ⟨fun _ => Or.inr (Or.inr spins), fun _ => quatSlerp_norm _ _ _⟩
    · rw [if_neg spins]
      constructor
      · exact Or.inl
      · rintro (unit | jump | spin)
        · exact unit
        · exact absurd jump jumps
        · exact absurd spin spins

/-- A call that passes has a unit target or is turned back. -/
def SafetyFilter.EmitsUnit (f : SafetyFilter ℝ) (call : FilterCall ℝ) : Prop :=
  f.passes call → call.target.quat.norm = 1 ∨ f.turnsBack call

theorem SafetyFilter.filterCartesian_emitsUnit (f : SafetyFilter ℝ) (call : FilterCall ℝ) :
    (∃ reason, f.filterCartesian call.target call.state call.cap =
        ({ ok := false, reason := reason }, f) ∧ f.EmitsUnit call) ∨
    ∃ pose clipped reasons f', f.filterCartesian call.target call.state call.cap =
        ({ ok := true, pose := some pose, clipped := clipped, clipReasons := reasons }, f') ∧
      (pose.quat.norm = 1 ↔ f.EmitsUnit call) := by
  rcases f.filterCartesian_cases call.target call.state call.cap with
    ⟨reason, rejected⟩ | ⟨draft, light, limited, passed⟩
  · left
    exact ⟨reason, rejected, fun passes => absurd passes (not_passes rejected)⟩
  · right
    dsimp only at passed
    refine ⟨_, _, _, _, passed, ?_⟩
    rw [filterCartesian_quat passed rfl, limitTurn_norm_iff]
    constructor
    · intro unit _
      exact unit
    · intro emits
      exact emits ⟨light, limited ▸ rfl⟩

/-- Every pose emitted from any filter is a rotation exactly when every call of the run that
passes has a unit target or is turned back. -/
theorem emitted_rotations_iff (f : SafetyFilter ℝ) (calls : List (FilterCall ℝ)) :
    (∀ pose ∈ f.emitted calls, pose.quat.norm = 1) ↔
      ∀ before call later, calls = before ++ call :: later →
        (f.after before).EmitsUnit call := by
  induction calls generalizing f with
  | nil =>
      constructor
      · intro _ before call later split
        exact absurd split.symm (List.append_ne_nil_of_right_ne_nil before (List.cons_ne_nil _ _))
      · intro _ pose member
        cases member
  | cons first rest ih =>
      have split_iff : (∀ before call later, first :: rest = before ++ call :: later →
            (f.after before).EmitsUnit call) ↔
          f.EmitsUnit first ∧ ∀ before call later, rest = before ++ call :: later →
            ((f.filterCartesian first.target first.state first.cap).2.after before).EmitsUnit
              call := by
        constructor
        · intro every
          refine ⟨every [] first rest rfl, ?_⟩
          intro before call later split
          exact every (first :: before) call later (congrArg (first :: ·) split)
        · rintro ⟨head, tail⟩ before call later split
          cases before with
          | nil =>
              cases split
              exact head
          | cons other before =>
              rw [List.cons_append, List.cons.injEq] at split
              obtain ⟨same, split⟩ := split
              subst same
              exact tail before call later split
      rw [split_iff, ← ih]
      rcases f.filterCartesian_emitsUnit first with
        ⟨reason, rejected, emits⟩ | ⟨pose, clipped, reasons, f', passed, unit_iff⟩
      · rw [SafetyFilter.emitted_of_rejected rest rejected, rejected]
        exact ⟨fun later => ⟨emits, later⟩, fun both => both.2⟩
      · rw [SafetyFilter.emitted_of_ok rest passed, passed, List.forall_mem_cons, unit_iff]

noncomputable def doubledCall : FilterCall ℝ where
  target := ⟨overTable.pos, ⟨2, 0, 0, 0⟩⟩
  state := { stamp := 0 }

theorem doubled_norm : (⟨2, 0, 0, 0⟩ : Quat ℝ).norm = 2 := by
  have square : (2 : ℝ) * 2 + 0 * 0 + 0 * 0 + 0 * 0 = 2 ^ 2 := by norm_num
  rw [Quat.norm, Quat.dot, Scalar.sqrt_real, square, Real.sqrt_sq zero_le_two]

theorem doubled_aligned : quatNormalize (1 : Quat ℝ) = quatNormalize ⟨2, 0, 0, 0⟩ := by
  have one : quatNormalize (1 : Quat ℝ) = 1 := quatNormalize_of_unit Quat.norm_one zero_le_one
  have halved : (⟨2, 0, 0, 0⟩ : Quat ℝ) / (2 : ℝ) = 1 := by
    apply Quat.ext
    · exact div_self two_ne_zero
    · exact zero_div _
    · exact zero_div _
    · exact zero_div _
  rw [one]
  unfold quatNormalize
  dsimp only
  rw [doubled_norm, if_neg (by rw [eps_real]; norm_num), halved]
  exact (if_neg (not_lt.mpr zero_le_one)).symm

theorem quiet_light : exceeds ({ stamp := 0 } : RobotState ℝ).wrench tabletop.maxContactWrench =
    false := by
  rw [Bool.eq_false_iff]
  intro heavy
  obtain ⟨axis, exceeding⟩ := (exceeds_real _ _).mp heavy
  rw [abs_zero] at exceeding
  simp only [tabletop, Scalar.ofNat_real] at exceeding
  split at exceeding
  · norm_num at exceeding
  · norm_num at exceeding

/-- The angle tests see no difference, so the doubled quaternion is emitted as it came. -/
theorem doubled_quaternion_emitted :
    ¬ ∀ pose ∈ ((SafetyFilter.init tabletop (1 / 100)).reset none (some overTable)).emitted
        [doubledCall], pose.quat.norm = 1 := by
  have still : quatAngle overTable.quat doubledCall.target.quat = 0 :=
    quatAngle_of_aligned doubled_aligned
  have slack : ¬ ((SafetyFilter.init tabletop (1 / 100)).reset none (some overTable)).EmitsUnit
      doubledCall := by
    intro emits
    rcases emits ⟨quiet_light, by rw [limitWorkspace_of_contains (overTable_contains rfl rfl rfl)]; rfl⟩
      with unit | jump | spin
    · rw [doubledCall, doubled_norm] at unit
      norm_num at unit
    · change tabletop.maxPoseJumpAngular < quatAngle overTable.quat doubledCall.target.quat at jump
      rw [still] at jump
      exact absurd jump (not_lt.mpr tabletop_positiveCaps.poseJumpAngular.le)
    · change tabletop.maxAngularSpeed < quatAngle overTable.quat doubledCall.target.quat / _ at spin
      rw [still, zero_div] at spin
      exact absurd spin (not_lt.mpr tabletop_positiveCaps.angularSpeed.le)
  intro every
  rcases SafetyFilter.filterCartesian_emitsUnit _ doubledCall with
    ⟨_, _, emits⟩ | ⟨pose, _, _, _, passed, unit_iff⟩
  · exact slack emits
  · rw [SafetyFilter.emitted_of_ok [] passed] at every
    exact slack (unit_iff.mp (every pose List.mem_cons_self))

end FlexivControl
