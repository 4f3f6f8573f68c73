/-
Runs of the filter with setpoints that are not finite.

With finite data a filter stays finite. A request that it cannot take is emitted as it came,
and a poisoned orientation becomes the reference of every call after it.
-/

import FlexivControl.Filter.JointFiniteness

namespace FlexivControl

/-! ### Runs -/

section Requests

variable {K : Type} [Scalar K]

/-- A setpoint asked of the filter. -/
inductive SetpointRequest (K : Type) [Scalar K] where
  | cartesian (call : FilterCall K)
  | joint (target : List K) (state : RobotState K)

def SafetyFilter.serve (f : SafetyFilter K) :
    SetpointRequest K → Except Exc (SafetyResult K × SafetyFilter K)
  | .cartesian call => .ok (f.filterCartesian call.target call.state call.cap)
  | .joint target state => f.filterJoint target state

/-- Everything that is done to a filter. -/
inductive FilterUse (K : Type) [Scalar K] where
  | reset (state : Option (RobotState K)) (pose : Option (Pose K)) (q : Option (List K))
  | setProfile (profile : SafetyProfile K)
  | request (asked : SetpointRequest K)

/-- A request that raises leaves the filter as it was. -/
def SafetyFilter.use (f : SafetyFilter K) : FilterUse K → SafetyFilter K
  | .reset state pose q => f.reset state pose q
  | .setProfile profile => f.setProfile profile
  | .request asked =>
      match f.serve asked with
      | .ok (_, f') => f'
      | .error _ => f

def SafetyFilter.used (f : SafetyFilter K) (uses : List (FilterUse K)) : SafetyFilter K :=
  uses.foldl SafetyFilter.use f

end Requests

def SetpointRequest.Measured : SetpointRequest Ieee → Prop
  | .cartesian call => call.state.Finite
  | .joint _ state => state.Finite

def SetpointRequest.Finite : SetpointRequest Ieee → Prop
  | .cartesian call => call.target.Finite ∧ call.state.Finite
  | .joint target state => FiniteJoints target ∧ state.Finite

def FilterUse.Finite : FilterUse Ieee → Prop
  | .reset state pose q => (∀ s, state = some s → s.Finite) ∧ (∀ p, pose = some p → p.Finite) ∧
      ∀ joints, q = some joints → FiniteJoints joints
  | .setProfile profile => profile.Finite
  | .request asked => asked.Finite

/-- Refused, or a setpoint with finite entries only. -/
def SafetyResult.Safe (sr : SafetyResult Ieee) : Prop :=
  sr.ok = false ∨ (∀ pose, sr.pose = some pose → pose.Finite) ∧
    ∀ q, sr.q = some q → FiniteJoints q

theorem SafetyResult.safe_pose_iff (pose : Pose Ieee) (clipped : Bool)
    (reasons : List StopReason) :
    SafetyResult.Safe ⟨true, some pose, none, clipped, .none, reasons⟩ ↔ pose.Finite := by
  constructor
  · rintro (refused | ⟨poses, _⟩)
    · cases refused
    · exact poses pose rfl
  · intro finite
    refine Or.inr ⟨?_, ?_⟩
    · intro pose' same
      exact Option.some.inj same ▸ finite
    · intro q impossible
      cases impossible

theorem SafetyResult.safe_joints_iff {sr : SafetyResult Ieee} {q : List Ieee} (ok : sr.ok = true)
    (bare : sr.pose = none) (found : sr.q = some q) : sr.Safe ↔ FiniteJoints q := by
  constructor
  · rintro (refused | ⟨_, joints⟩)
    · rw [ok] at refused
      cases refused
    · exact joints q found
  · intro joints
    refine Or.inr ⟨?_, ?_⟩
    · intro pose impossible
      rw [bare] at impossible
      cases impossible
    · intro q' found'
      rw [found, Option.some.injEq] at found'
      exact found' ▸ joints

/-- What the filter can take: a position of numbers with a finite orientation wherever the
call is not refused, or joints that are numbers and meet a limit. -/
def SafetyFilter.Takes (f : SafetyFilter Ieee) : SetpointRequest Ieee → Prop
  | .cartesian call =>
      f.passes call → ¬ call.target.pos.Tainted ∧ call.target.quat.Finite
  | .joint target state => f.TakesJoints target state

theorem SetpointRequest.Finite.measured {request : SetpointRequest Ieee}
    (finite : request.Finite) : request.Measured := by
  cases request with
  | cartesian call => exact finite.2
  | joint target state => exact finite.2

theorem SetpointRequest.Finite.takes {request : SetpointRequest Ieee} (finite : request.Finite)
    (f : SafetyFilter Ieee) : f.Takes request := by
  cases request with
  | cartesian call =>
      exact fun _ => ⟨fun tainted => tainted.not_finite finite.1.1, finite.1.2⟩
  | joint target state =>
      exact ⟨fun nan => Ieee.not_finite_nan (finite.1 _ nan), Or.inl finite.1⟩

/-- One request: safe exactly where the filter can take it, and then the filter stays finite. -/
theorem SafetyFilter.serve_safe_iff {f f' : SafetyFilter Ieee} (finite : f.Finite)
    {request : SetpointRequest Ieee} (measured : request.Measured) {sr : SafetyResult Ieee}
    (returned : f.serve request = .ok (sr, f')) :
    (sr.Safe ↔ f.Takes request) ∧ (sr.Safe → f'.Finite) := by
  cases request with
  | cartesian call =>
      have same := Except.ok.inj returned
      rcases filterCartesian_finite_iff finite measured with
        ⟨reason, rejected, refuses⟩ | ⟨pose, _, _, _, passed, passes, pose_iff, kept⟩
      · rw [rejected, Prod.mk.injEq] at same
        rw [← same.1, ← same.2]
        exact ⟨⟨fun _ passes => absurd passes refuses, fun _ => Or.inl rfl⟩, fun _ => finite⟩
      · rw [passed, Prod.mk.injEq] at same
        rw [← same.1, ← same.2]
        rw [SafetyResult.safe_pose_iff, pose_iff]
        exact ⟨⟨fun clean _ => clean, fun takes => takes passes⟩,
          fun clean => kept (pose_iff.mpr clean)⟩
  | joint target state =>
      obtain ⟨q, ok, found, left, finite_iff⟩ := filterJoint_finite_iff finite measured returned
      have safe_iff := SafetyResult.safe_joints_iff ok (filterJoint_pose returned) found
      refine ⟨safe_iff.trans finite_iff, ?_⟩
      intro safe
      rw [left]
      refine ⟨finite.profile, finite.step, finite.pose, ?_, finite.velocity⟩
      intro q' same
      rw [← Option.some.inj same]
      exact safe_iff.mp safe

theorem SafetyFilter.Finite.reset {f : SafetyFilter Ieee} (finite : f.Finite)
    {state : Option (RobotState Ieee)} {pose : Option (Pose Ieee)} {q : Option (List Ieee)}
    (given : FilterUse.Finite (.reset state pose q)) : (f.reset state pose q).Finite := by
  obtain ⟨states, poses, joints⟩ := given
  have rest : ∀ v, (f.reset state pose q).prevLinVel = some v → v.Finite := by
    intro v same
    rw [reset_prevLinVel] at same
    exact Option.some.inj same ▸ Vec3.finite_zero
  refine ⟨?_, ?_, ?_, ?_, rest⟩
  · rw [reset_p]
    exact finite.profile
  · rw [reset_dt]
    exact finite.step
  · intro here same
    cases pose with
    | some pose =>
        have asked : pose = here := by
          cases state <;> cases q <;> exact Option.some.inj same
        exact asked ▸ poses pose rfl
    | none =>
        cases state with
        | some s =>
            have stood : s.tcpPose = here := by
              cases q <;> exact Option.some.inj same
            exact stood ▸ (states s rfl).tcpPose
        | none =>
            have kept : f.prevPose = some here := by
              cases q <;> exact same
            exact finite.pose here kept
  · intro here same
    cases q with
    | some q =>
        have asked : q = here := by
          cases state <;> cases pose <;> exact Option.some.inj same
        exact asked ▸ joints q rfl
    | none =>
        cases state with
        | some s =>
            have stood : s.q = here := by
              cases pose <;> exact Option.some.inj same
            exact stood ▸ (states s rfl).q
        | none =>
            have kept : f.prevQ = some here := by
              cases pose <;> exact same
            exact finite.q here kept

theorem SafetyFilter.Finite.use {f : SafetyFilter Ieee} (finite : f.Finite)
    {use : FilterUse Ieee} (given : use.Finite) : (f.use use).Finite := by
  cases use with
  | reset state pose q => exact finite.reset given
  | setProfile profile => exact ⟨given, finite.step, finite.pose, finite.q, finite.velocity⟩
  | request asked =>
      unfold SafetyFilter.use
      dsimp only
      cases served : f.serve asked with
      | error e => exact finite
      | ok out =>
          obtain ⟨safe_iff, kept⟩ := serve_safe_iff finite (SetpointRequest.Finite.measured given)
            served
          exact kept (safe_iff.mpr (SetpointRequest.Finite.takes given f))

theorem SafetyFilter.Finite.used (uses : List (FilterUse Ieee)) :
    ∀ {f : SafetyFilter Ieee}, f.Finite → (∀ use ∈ uses, use.Finite) → (f.used uses).Finite := by
  induction uses with
  | nil => exact fun finite _ => finite
  | cons use rest ih =>
      intro f finite given
      obtain ⟨first, others⟩ := List.forall_mem_cons.mp given
      exact ih (finite.use first) others

theorem SafetyFilter.init_finite {profile : SafetyProfile Ieee} (finite : profile.Finite)
    {dt : Ieee} (step : dt.Finite) : (SafetyFilter.init profile dt).Finite := by
  refine ⟨finite, step, ?_, ?_, ?_⟩
  · intro pose impossible
    cases impossible
  · intro q impossible
    cases impossible
  · intro v impossible
    cases impossible

/-- In a filter reached with finite data and with a finite measured state, a request that
returns is refused or answered by finite entries, and everything asked with finite data later
is too, exactly where the filter can take it. -/
theorem finite_setpoints_iff {profile : SafetyProfile Ieee} (finite : profile.Finite) {dt : Ieee}
    (step : dt.Finite) (before : List (FilterUse Ieee)) (given : ∀ use ∈ before, use.Finite)
    (request : SetpointRequest Ieee) (measured : request.Measured) (sr : SafetyResult Ieee)
    (f' : SafetyFilter Ieee)
    (returned : ((SafetyFilter.init profile dt).used before).serve request = .ok (sr, f')) :
    (sr.Safe ∧ ∀ later, (∀ use ∈ later, use.Finite) → ∀ request : SetpointRequest Ieee,
        request.Finite → ∀ sr' f'', (f'.used later).serve request = .ok (sr', f'') → sr'.Safe) ↔
      ((SafetyFilter.init profile dt).used before).Takes request := by
  have reached := SafetyFilter.Finite.used before (SafetyFilter.init_finite finite step) given
  obtain ⟨safe_iff, kept⟩ := SafetyFilter.serve_safe_iff reached measured returned
  constructor
  · exact fun both => safe_iff.mp both.1
  · intro takes
    have safe := safe_iff.mpr takes
    refine ⟨safe, ?_⟩
    intro later given request asked sr' f'' returned'
    have reached' := SafetyFilter.Finite.used later (kept safe) given
    exact (SafetyFilter.serve_safe_iff reached' asked.measured returned').1.mpr
      (asked.takes (f'.used later))

noncomputable def ieeeTabletop : SafetyProfile Ieee := {}

theorem ieeeTabletop_finite : ieeeTabletop.Finite where
  wsX := ⟨Ieee.finite_fin _, Ieee.finite_fin _⟩
  wsY := ⟨Ieee.finite_fin _, Ieee.finite_fin _⟩
  wsZ := ⟨Ieee.finite_fin _, Ieee.finite_fin _⟩
  linearSpeed := Ieee.finite_fin _
  angularSpeed := Ieee.finite_fin _
  poseJumpLinear := Ieee.finite_fin _
  poseJumpAngular := Ieee.finite_fin _
  linearAccel := by
    intro a accel
    cases accel
  jointMargin := Ieee.finite_fin _
  jointSpeed := Ieee.finite_fin _
  jointLower := by
    intro x member
    obtain ⟨q, _, same⟩ := List.mem_map.mp member
    exact same ▸ Ieee.finite_fin _
  jointUpper := by
    intro x member
    obtain ⟨q, _, same⟩ := List.mem_map.mp member
    exact same ▸ Ieee.finite_fin _

noncomputable def ieeeCall (x w : Ieee) : FilterCall Ieee where
  target := ⟨⟨x, 0, .fin (3 / 10)⟩, ⟨w, 0, 0, 0⟩⟩
  state := { stamp := 0 }

theorem ieeeCall_measured (x w : Ieee) : (ieeeCall x w).state.Finite where
  tcpPose := ⟨Vec3.finite_zero, Ieee.finite_fin 1, Ieee.finite_fin 0, Ieee.finite_fin 0,
    Ieee.finite_fin 0⟩
  q := by
    intro x member
    rw [List.eq_of_mem_replicate member]
    exact Ieee.finite_fin 0

theorem ieeeCall_passes {f : SafetyFilter Ieee} (profile : f.p = ieeeTabletop) (x w : Ieee) :
    f.passes (ieeeCall x w) := by
  constructor
  · rw [profile, Bool.eq_false_iff]
    intro heavy
    obtain ⟨axis, _, exceeding⟩ := List.any_eq_true.mp heavy
    have big := of_decide_eq_true exceeding
    change (if axis.val < 3 then Scalar.ofNat 40 else Scalar.ofNat 5 : Ieee) <
      Scalar.abs (.fin 0) at big
    rw [Ieee.fin_abs, Scalar.abs_real, abs_zero, Ieee.ofNat_eq, Ieee.ofNat_eq] at big
    split at big
    · rw [Ieee.fin_lt] at big
      norm_num at big
    · rw [Ieee.fin_lt] at big
      norm_num at big
  · have clips : f.p.workspaceAction = .clip := by
      rw [profile]
      rfl
    unfold limitWorkspace
    dsimp only
    split
    · rfl
    · rw [clips]
      rfl

/-- A finite call on a filter that has not been used. -/
theorem finite_setpoints_iff_inside :
    ((SafetyFilter.init ieeeTabletop (.fin (1 / 100))).filterCartesian
      (ieeeCall (.fin (1 / 2)) 1).target (ieeeCall (.fin (1 / 2)) 1).state).1.Safe := by
  have takes : ((SafetyFilter.init ieeeTabletop (.fin (1 / 100))).used []).Takes
      (.cartesian (ieeeCall (.fin (1 / 2)) 1)) := by
    intro _
    refine ⟨fun tainted => tainted.not_finite ?_, Ieee.finite_fin 1, Ieee.finite_fin 0,
      Ieee.finite_fin 0, Ieee.finite_fin 0⟩
    exact ⟨Ieee.finite_fin _, Ieee.finite_fin 0, Ieee.finite_fin _⟩
  have none : ∀ use ∈ ([] : List (FilterUse Ieee)), use.Finite :=
    fun use impossible => absurd impossible List.not_mem_nil
  exact ((finite_setpoints_iff ieeeTabletop_finite (Ieee.finite_fin _) [] none
    (.cartesian (ieeeCall (.fin (1 / 2)) 1)) (ieeeCall_measured _ _) _ _ rfl).mpr takes).1

theorem ieeeCall_emitted {f : SafetyFilter Ieee} (profile : f.p = ieeeTabletop) (x w : Ieee) :
    ∃ (pose : Pose Ieee) (clipped : Bool) (reasons : List StopReason) (f' : SafetyFilter Ieee),
      f.serve (.cartesian (ieeeCall x w)) =
        .ok (⟨true, some pose, none, clipped, .none, reasons⟩, f') ∧
      f'.p = ieeeTabletop ∧ f'.prevPose = some pose ∧
      pose.quat = limitTurn f.p f.dt (f.prevPose.getD (ieeeCall x w).state.tcpPose).quat
        ⟨w, 0, 0, 0⟩ := by
  rcases f.filterCartesian_cases (ieeeCall x w).target (ieeeCall x w).state (ieeeCall x w).cap with
    ⟨reason, rejected⟩ | ⟨draft, _, limited, passed⟩
  · exact absurd (ieeeCall_passes profile x w) (SafetyFilter.not_passes rejected)
  · dsimp only at passed
    exact ⟨_, _, _, _, congrArg Except.ok passed, profile, rfl,
      SafetyFilter.filterCartesian_quat passed rfl⟩

/-- Not-a-number as a coordinate is emitted; as a component of the orientation it is emitted
too, and spoils the finite call after it. -/
theorem nan_reaches_robot :
    (∃ sr f', (SafetyFilter.init ieeeTabletop (.fin (1 / 100))).serve
        (.cartesian (ieeeCall .nan 1)) = .ok (sr, f') ∧ sr.ok = true ∧ ¬ sr.Safe) ∧
      ∃ sr f' sr' f'', (SafetyFilter.init ieeeTabletop (.fin (1 / 100))).serve
          (.cartesian (ieeeCall (.fin (1 / 2)) .nan)) = .ok (sr, f') ∧ sr.ok = true ∧ ¬ sr.Safe ∧
        SafetyFilter.serve f' (.cartesian (ieeeCall (.fin (1 / 2)) 1)) = .ok (sr', f'') ∧
        sr'.ok = true ∧ ¬ sr'.Safe := by
  have fresh := SafetyFilter.init_finite ieeeTabletop_finite (Ieee.finite_fin (1 / 100))
  have profile : (SafetyFilter.init ieeeTabletop (.fin (1 / 100))).p = ieeeTabletop := rfl
  constructor
  · obtain ⟨pose, _, _, f', served, _⟩ := ieeeCall_emitted profile .nan 1
    refine ⟨_, f', served, rfl, ?_⟩
    have measured : SetpointRequest.Measured (.cartesian (ieeeCall .nan 1)) :=
      ieeeCall_measured _ _
    rw [(SafetyFilter.serve_safe_iff fresh measured served).1]
    intro takes
    exact (takes (ieeeCall_passes profile .nan 1)).1 (Or.inl rfl)
  · obtain ⟨pose, _, _, f', served, profile', held, turned⟩ :=
      ieeeCall_emitted profile (.fin (1 / 2)) .nan
    obtain ⟨pose', _, _, f'', served', _, _, turned'⟩ :=
      ieeeCall_emitted profile' (.fin (1 / 2)) 1
    have poisoned : ¬ pose.quat.Finite := by
      have spoils := limitTurn_finite_iff ieeeTabletop_finite (Ieee.finite_fin (1 / 100))
        (ieeeCall_measured (.fin (1 / 2)) .nan).tcpPose.2 ⟨.nan, 0, 0, 0⟩
      rw [turned]
      exact fun finite => Ieee.not_finite_nan (spoils.mp finite).1
    have capped : f'.p.maxPoseJumpAngular < .fin (2 * Real.pi) := by
      rw [profile']
      change (Ieee.fin ((15 / 100 : ℚ) : ℝ)) < _
      rw [Ieee.fin_lt]
      push_cast
      linarith [Real.two_le_pi]
    refine ⟨_, f', _, f'', served, rfl, ?_, served', rfl, ?_⟩
    · rw [SafetyResult.safe_pose_iff]
      exact fun finite => poisoned finite.2
    · rw [SafetyResult.safe_pose_iff]
      intro finite
      rw [held, Option.getD_some] at turned'
      exact limitTurn_poisoned capped _ poisoned _ (turned' ▸ finite.2)

end FlexivControl
