/-
Safety supervisor: profiles and the per-setpoint filter.

Every Cartesian and joint setpoint passes through the filter before it reaches
the robot. It clips a setpoint back into bounds or rejects it, and reports what
it did. The numbered stages of `filterCartesian` are the source's own.
-/

import FlexivControl.Core.Transforms
import FlexivControl.Library.Broadcast

namespace FlexivControl

inductive WorkspaceAction where
  | clip
  | reject
  deriving DecidableEq, Repr

structure SafetyProfile (K : Type) [Scalar K] where
  name : String := "tabletop_safe"
  wsX : K × K := (Scalar.ofRat (25 / 100), Scalar.ofRat (75 / 100))
  wsY : K × K := (Scalar.ofRat (-45 / 100), Scalar.ofRat (45 / 100))
  wsZ : K × K := (Scalar.ofRat (6 / 100), Scalar.ofRat (70 / 100))
  workspaceAction : WorkspaceAction := .clip
  maxLinearSpeed : K := Scalar.ofRat (25 / 100)
  maxAngularSpeed : K := Scalar.ofRat (60 / 100)
  maxPoseJumpLinear : K := Scalar.ofRat (3 / 100)
  maxPoseJumpAngular : K := Scalar.ofRat (15 / 100)
  maxLinearAccel : Option K := none
  jointMarginRad : K := Scalar.ofRat (8 / 100)
  maxJointSpeedScale : K := Scalar.ofRat (30 / 100)
  jointLower : List K :=
    [-279 / 100, -227 / 100, -297 / 100, -187 / 100, -297 / 100, -174 / 100, -297 / 100].map
      Scalar.ofRat
  jointUpper : List K :=
    [279 / 100, 227 / 100, 297 / 100, 187 / 100, 297 / 100, 445 / 100, 297 / 100].map Scalar.ofRat
  maxContactWrench : Wrench K := fun axis =>
    if axis.val < 3 then Scalar.ofNat 40 else Scalar.ofNat 5
  maxWrenchAllowance : Wrench K := fun _ => 0
  commandTimeoutMs : K := Scalar.ofNat 100
  stateTimeoutMs : K := Scalar.ofNat 20
  stopOnStaleCommand : Bool := true
  stopOnStateStale : Bool := false
  holdTimeoutMs : Option K := none

structure SafetyResult (K : Type) where
  ok : Bool
  pose : Option (Pose K) := none
  q : Option (List K) := none
  clipped : Bool := false
  reason : StopReason := .none
  clipReasons : List StopReason := []

def SafetyResult.primaryClipReason {K : Type} (result : SafetyResult K) : StopReason :=
  result.clipReasons.headD .none

/-- The profile, the time step and the previous commanded setpoints. -/
structure SafetyFilter (K : Type) [Scalar K] where
  p : SafetyProfile K
  dt : K
  prevPose : Option (Pose K)
  prevQ : Option (List K)
  prevLinVel : Option (Vec3 K)

variable {K : Type} [Scalar K]

def SafetyFilter.init (profile : SafetyProfile K) (controlDt : K) : SafetyFilter K where
  p := profile
  dt := controlDt
  prevPose := none
  prevQ := none
  prevLinVel := none

/-- Anchor the filter to a known setpoint; the commanded velocity restarts at rest. -/
def SafetyFilter.reset (f : SafetyFilter K) (state : Option (RobotState K))
    (pose : Option (Pose K) := none) (q : Option (List K) := none) : SafetyFilter K :=
  let f := match state with
    | none => f
    | some s => { f with prevPose := some s.tcpPose, prevQ := some s.q }
  let f := match pose with
    | none => f
    | some pose => { f with prevPose := some pose }
  let f := match q with
    | none => f
    | some q => { f with prevQ := some q }
  { f with prevLinVel := some 0 }

def SafetyFilter.setProfile (f : SafetyFilter K) (profile : SafetyProfile K) : SafetyFilter K :=
  { f with p := profile }

/-! ### Cartesian setpoints -/

/-- A setpoint on its way through the stages, with what has been clipped so far. -/
structure Draft (K : Type) where
  target : Pose K
  clipped : Bool
  reasons : List StopReason

def Draft.clip (draft : Draft K) (reason : StopReason) (target : Pose K) : Draft K where
  target := target
  clipped := true
  reasons := draft.reasons ++ [reason]

def SafetyProfile.clipPosition (p : SafetyProfile K) (pos : Vec3 K) : Vec3 K where
  x := Scalar.clip pos.x p.wsX.1 p.wsX.2
  y := Scalar.clip pos.y p.wsY.1 p.wsY.2
  z := Scalar.clip pos.z p.wsZ.1 p.wsZ.2

def allclosePosition (a b : Vec3 K) : Bool :=
  Scalar.close a.x b.x && Scalar.close a.y b.y && Scalar.close a.z b.z

def limitWorkspace (p : SafetyProfile K) (draft : Draft K) : Option (Draft K) :=
  let clippedPos := p.clipPosition draft.target.pos
  if allclosePosition clippedPos draft.target.pos then some draft
  else
    match p.workspaceAction with
    | .reject => none
    | .clip => some (draft.clip .workspace { draft.target with pos := clippedPos })

def limitLinearJump (p : SafetyProfile K) (ref : Pose K) (draft : Draft K) : Draft K :=
  let linStep := (draft.target.pos - ref.pos).norm
  if p.maxPoseJumpLinear < linStep then
    let scale := p.maxPoseJumpLinear / Scalar.greater linStep eps
    draft.clip .poseJump
      { draft.target with pos := ref.pos + (draft.target.pos - ref.pos) * scale }
  else draft

def limitAngularJump (p : SafetyProfile K) (ref : Pose K) (draft : Draft K) : Draft K :=
  let angStep := quatAngle ref.quat draft.target.quat
  if p.maxPoseJumpAngular < angStep then
    let t := p.maxPoseJumpAngular / Scalar.greater angStep eps
    draft.clip .poseJump { draft.target with quat := quatSlerp ref.quat draft.target.quat t }
  else draft

def limitLinearSpeed (p : SafetyProfile K) (dt : K) (ref : Pose K) (draft : Draft K) : Draft K :=
  let linStep := (draft.target.pos - ref.pos).norm
  if p.maxLinearSpeed < linStep / Scalar.greater dt eps then
    let scale := (p.maxLinearSpeed * dt) / Scalar.greater linStep eps
    draft.clip .tcpSpeed
      { draft.target with pos := ref.pos + (draft.target.pos - ref.pos) * scale }
  else draft

def limitAngularSpeed (p : SafetyProfile K) (dt : K) (ref : Pose K) (draft : Draft K) : Draft K :=
  let angStep := quatAngle ref.quat draft.target.quat
  if p.maxAngularSpeed < angStep / Scalar.greater dt eps then
    let t := (p.maxAngularSpeed * dt) / Scalar.greater angStep eps
    draft.clip .tcpSpeed { draft.target with quat := quatSlerp ref.quat draft.target.quat t }
  else draft

/-- 4c. Acceleration cap (opt-in), applied last; also yields the velocity to remember. -/
def limitLinearAccel (p : SafetyProfile K) (dt : K) (prevLinVel : Option (Vec3 K)) (ref : Pose K)
    (draft : Draft K) : Draft K × Vec3 K :=
  let vNew := (draft.target.pos - ref.pos) / Scalar.greater dt eps
  match p.maxLinearAccel with
  | none => (draft, vNew)
  | some maxLinearAccel =>
      let vPrev := prevLinVel.getD 0
      let dv := vNew - vPrev
      let dvNorm := dv.norm
      let maxDv := maxLinearAccel * dt
      if maxDv < dvNorm then
        let vNew := vPrev + dv * (maxDv / Scalar.greater dvNorm eps)
        (draft.clip .tcpSpeed { draft.target with pos := ref.pos + vNew * dt }, vNew)
      else (draft, vNew)

/-- Stages 3 and 4, before the acceleration cap. -/
def limitMotion (p : SafetyProfile K) (dt : K) (ref : Pose K) (draft : Draft K) : Draft K :=
  let draft := limitLinearJump p ref draft
  let draft := limitAngularJump p ref draft
  let draft := limitLinearSpeed p dt ref draft
  limitAngularSpeed p dt ref draft

def SafetyFilter.filterCartesian (f : SafetyFilter K) (targetPose : Pose K) (state : RobotState K)
    (maxContactWrench : Option (Wrench K) := none) : SafetyResult K × SafetyFilter K :=
  let p := f.p
  -- 1. contact wrench: hard stop, before anything else is looked at
  let wrenchCap := maxContactWrench.getD p.maxContactWrench
  if exceeds state.wrench wrenchCap then
    ({ ok := false, reason := .contactWrench }, f)
  else
    match limitWorkspace p { target := targetPose, clipped := false, reasons := [] } with
    | none => ({ ok := false, reason := .workspace }, f)
    | some draft =>
        -- limits are enforced on the command stream, so the reference is the
        -- previous command; only a filter with no history uses the live pose
        let ref := f.prevPose.getD state.tcpPose
        let draft := limitMotion p f.dt ref draft
        let (draft, vNew) := limitLinearAccel p f.dt f.prevLinVel ref draft
        ({ ok := true, pose := some draft.target, clipped := draft.clipped,
           clipReasons := draft.reasons },
         { f with prevPose := some draft.target, prevLinVel := some vNew })

/-! ### Joint setpoints -/

def broadcastError : Exc :=
  ⟨.valueError, "operands could not be broadcast together"⟩

def broadcast (f : K → K → K) (xs ys : List K) : Except Exc (List K) :=
  match Broadcast.map₂ f xs ys with
  | none => .error broadcastError
  | some zs => .ok zs

def SafetyProfile.clipJoints (p : SafetyProfile K) (q : List K) : Except Exc (List K) := do
  let lo := p.jointLower.map (· + p.jointMarginRad)
  let hi := p.jointUpper.map (· - p.jointMarginRad)
  let raised ← broadcast Scalar.maximum q lo
  broadcast Scalar.minimum raised hi

def allcloseJoints (a b : List K) : Except Exc Bool :=
  match Broadcast.map₂ Scalar.close a b with
  | none => .error broadcastError
  | some close => .ok (close.all id)

def SafetyProfile.limitedJoints (p : SafetyProfile K) (targetQ : List K) :
    Except Exc (List K) := do
  let clippedQ ← p.clipJoints targetQ
  let inside ← allcloseJoints clippedQ targetQ
  pure (if inside then targetQ else clippedQ)

def maxJointStep (p : SafetyProfile K) (dt : K) : K :=
  Scalar.ofNat 2 * p.maxJointSpeedScale * dt

def clampStep (maxStep step : K) : K :=
  if maxStep < Scalar.abs step then Scalar.sign step * maxStep else step

def SafetyFilter.filterJoint (f : SafetyFilter K) (targetQ : List K) (state : RobotState K) :
    Except Exc (SafetyResult K × SafetyFilter K) := do
  let p := f.p
  let clippedQ ← p.clipJoints targetQ
  let inside ← allcloseJoints clippedQ targetQ
  let (limited, reasons) := if inside then (targetQ, []) else (clippedQ, [StopReason.jointLimit])
  let refQ := f.prevQ.getD state.q
  let maxStep := maxJointStep p f.dt
  let step ← broadcast (· - ·) limited refQ
  if step.any (fun s => decide (maxStep < Scalar.abs s)) then
    let q ← broadcast (· + ·) refQ (step.map (clampStep maxStep))
    pure ({ ok := true, q := some q, clipped := true, clipReasons := reasons ++ [.jointLimit] },
      { f with prevQ := some q })
  else
    pure ({ ok := true, q := some limited, clipped := !inside, clipReasons := reasons },
      { f with prevQ := some limited })

def SafetyFilter.checkStateAge (f : SafetyFilter K) (ageMs : K) : SafetyResult K :=
  if f.p.stopOnStateStale ∧ f.p.stateTimeoutMs < ageMs then
    { ok := false, reason := .staleState }
  else { ok := true }

/-! ### What each call leaves behind -/

@[simp] theorem SafetyFilter.reset_p (f : SafetyFilter K) (state : Option (RobotState K))
    (pose : Option (Pose K)) (q : Option (List K)) : (f.reset state pose q).p = f.p := by
  cases state <;> cases pose <;> cases q <;> rfl

@[simp] theorem SafetyFilter.reset_dt (f : SafetyFilter K) (state : Option (RobotState K))
    (pose : Option (Pose K)) (q : Option (List K)) : (f.reset state pose q).dt = f.dt := by
  cases state <;> cases pose <;> cases q <;> rfl

@[simp] theorem SafetyFilter.reset_prevLinVel (f : SafetyFilter K)
    (state : Option (RobotState K)) (pose : Option (Pose K)) (q : Option (List K)) :
    (f.reset state pose q).prevLinVel = some 0 := rfl

@[simp] theorem SafetyFilter.reset_state_prevPose (f : SafetyFilter K) (state : RobotState K) :
    (f.reset (some state)).prevPose = some state.tcpPose := rfl

@[simp] theorem SafetyFilter.reset_state_prevQ (f : SafetyFilter K) (state : RobotState K) :
    (f.reset (some state)).prevQ = some state.q := rfl

@[simp] theorem limitAngularJump_pos (p : SafetyProfile K) (ref : Pose K) (draft : Draft K) :
    (limitAngularJump p ref draft).target.pos = draft.target.pos := by
  unfold limitAngularJump
  dsimp only
  split <;> rfl

@[simp] theorem limitAngularSpeed_pos (p : SafetyProfile K) (dt : K) (ref : Pose K)
    (draft : Draft K) : (limitAngularSpeed p dt ref draft).target.pos = draft.target.pos := by
  unfold limitAngularSpeed
  dsimp only
  split <;> rfl

theorem SafetyFilter.filterCartesian_of_heavy {f : SafetyFilter K} {target : Pose K}
    {state : RobotState K} {cap : Option (Wrench K)}
    (heavy : exceeds state.wrench (cap.getD f.p.maxContactWrench) = true) :
    f.filterCartesian target state cap = ({ ok := false, reason := .contactWrench }, f) := by
  unfold filterCartesian
  exact if_pos heavy

theorem SafetyFilter.filterCartesian_of_limited {f : SafetyFilter K} {target : Pose K}
    {state : RobotState K} {cap : Option (Wrench K)} {draft : Draft K}
    (light : exceeds state.wrench (cap.getD f.p.maxContactWrench) = false)
    (found : limitWorkspace f.p { target := target, clipped := false, reasons := [] } =
      some draft) :
    let ref := f.prevPose.getD state.tcpPose
    let out := limitLinearAccel f.p f.dt f.prevLinVel ref (limitMotion f.p f.dt ref draft)
    f.filterCartesian target state cap =
      ({ ok := true, pose := some out.1.target, clipped := out.1.clipped,
         clipReasons := out.1.reasons },
       { f with prevPose := some out.1.target, prevLinVel := some out.2 }) := by
  unfold filterCartesian
  simp only [light, found, Bool.false_eq_true, if_false]

theorem SafetyFilter.filterCartesian_cases (f : SafetyFilter K) (target : Pose K)
    (state : RobotState K) (cap : Option (Wrench K)) :
    (∃ reason, f.filterCartesian target state cap = ({ ok := false, reason := reason }, f)) ∨
    ∃ draft, exceeds state.wrench (cap.getD f.p.maxContactWrench) = false ∧
      limitWorkspace f.p { target := target, clipped := false, reasons := [] } = some draft ∧
      let ref := f.prevPose.getD state.tcpPose
      let out := limitLinearAccel f.p f.dt f.prevLinVel ref (limitMotion f.p f.dt ref draft)
      f.filterCartesian target state cap =
        ({ ok := true, pose := some out.1.target, clipped := out.1.clipped,
           clipReasons := out.1.reasons },
         { f with prevPose := some out.1.target, prevLinVel := some out.2 }) := by
  cases heavy : exceeds state.wrench (cap.getD f.p.maxContactWrench) with
  | true => exact Or.inl ⟨.contactWrench, filterCartesian_of_heavy heavy⟩
  | false =>
      cases found : limitWorkspace f.p { target := target, clipped := false, reasons := [] } with
      | none =>
          refine Or.inl ⟨.workspace, ?_⟩
          unfold filterCartesian
          simp only [heavy, found, Bool.false_eq_true, if_false]
      | some draft => exact Or.inr ⟨draft, rfl, rfl, filterCartesian_of_limited heavy found⟩

theorem SafetyFilter.filterCartesian_prevQ (f : SafetyFilter K) (target : Pose K)
    (state : RobotState K) (cap : Option (Wrench K)) :
    (f.filterCartesian target state cap).2.prevQ = f.prevQ := by
  rcases f.filterCartesian_cases target state cap with ⟨_, rejected⟩ | ⟨_, _, _, passed⟩
  · rw [rejected]
  · dsimp only at passed
    rw [passed]

theorem Except.of_bind_ok {α β : Type} {x : Except Exc α} {f : α → Except Exc β} {b : β}
    (result : (x >>= f) = .ok b) : ∃ a, x = .ok a ∧ f a = .ok b := by
  cases x with
  | error e => cases result
  | ok a => exact ⟨a, rfl, result⟩

/-- A joint call that does not raise always passes: the limited target when every
step toward it is short enough, and otherwise the saturated steps. -/
theorem SafetyFilter.filterJoint_ok {f f' : SafetyFilter K} {target : List K}
    {state : RobotState K} {sr : SafetyResult K}
    (passed : f.filterJoint target state = .ok (sr, f')) :
    ∃ limited step q, f.p.limitedJoints target = .ok limited ∧
      broadcast (· - ·) limited (f.prevQ.getD state.q) = .ok step ∧
      sr.ok = true ∧ sr.q = some q ∧ f' = { f with prevQ := some q } ∧
      ((q = limited ∧ ∀ s ∈ step, ¬ maxJointStep f.p f.dt < Scalar.abs s) ∨
        (∃ s ∈ step, maxJointStep f.p f.dt < Scalar.abs s) ∧
          broadcast (· + ·) (f.prevQ.getD state.q)
            (step.map (clampStep (maxJointStep f.p f.dt))) = .ok q) := by
  unfold filterJoint at passed
  obtain ⟨clippedQ, clip, passed⟩ := Except.of_bind_ok passed
  obtain ⟨inside, close, passed⟩ := Except.of_bind_ok passed
  have limit : f.p.limitedJoints target = .ok (if inside then target else clippedQ) := by
    unfold SafetyProfile.limitedJoints
    rw [clip]
    change (do let inside ← allcloseJoints clippedQ target; _) = _
    rw [close]
    rfl
  have chosen : (if inside = true then (target, []) else (clippedQ, [StopReason.jointLimit])).1 =
      if inside then target else clippedQ := by
    cases inside <;> rfl
  dsimp only at passed
  rw [chosen] at passed
  obtain ⟨step, stepped, passed⟩ := Except.of_bind_ok passed
  refine ⟨if inside then target else clippedQ, step, ?_⟩
  by_cases long : step.any (fun s => decide (maxJointStep f.p f.dt < Scalar.abs s)) = true
  · rw [if_pos long] at passed
    obtain ⟨q, moved, passed⟩ := Except.of_bind_ok passed
    cases passed
    obtain ⟨s, member, exceeding⟩ := List.any_eq_true.mp long
    exact ⟨q, limit, stepped, rfl, rfl, rfl,
      Or.inr ⟨⟨s, member, of_decide_eq_true exceeding⟩, moved⟩⟩
  · rw [if_neg long] at passed
    cases passed
    refine ⟨_, limit, stepped, rfl, rfl, rfl, Or.inl ⟨rfl, ?_⟩⟩
    intro s member exceeding
    exact long (List.any_eq_true.mpr ⟨s, member, decide_eq_true exceeding⟩)

end FlexivControl
