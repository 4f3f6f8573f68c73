/-
The path of the recovery lift.

The lift is one eased segment to a height no greater than the box's top. The filter pulls
a setpoint outside the box back to its boundary, at the profile's speed and not the lift's,
and a limiter of the acceleration carries on past a target it comes to too fast. Where the
box moves no setpoint sideways or down and that limiter has nothing to do, the lift goes
straight up, behind its setpoints if the other limits hold it back.
-/

import FlexivControl.Filter.InSpec
import FlexivControl.Robot.Allowance
import FlexivControl.Robot.GatedRuns
import FlexivControl.Robot.JointSpeed

namespace FlexivControl

open Ease Script StepLimit Tolerance

def atHeight (base : Vec3 ℝ) (z : ℝ) : Vec3 ℝ := ⟨base.x, base.y, z⟩

theorem norm_atHeight_sub (base : Vec3 ℝ) (a b : ℝ) :
    (atHeight base b - atHeight base a).norm = |b - a| := by
  rw [Vec3.norm, Scalar.sqrt_real]
  simp only [atHeight, Vec3.sub_x, Vec3.sub_y, Vec3.sub_z, sub_self, mul_zero, zero_add]
  exact Real.sqrt_mul_self_eq_abs (b - a)

theorem partway_atHeight (base : Vec3 ℝ) (a b t : ℝ) :
    partway (atHeight base a) (atHeight base b) t = atHeight base (a + t * (b - a)) := by
  apply Vec3.ext
  · simp only [partway, atHeight, Vec3.add_x, Vec3.sub_x, Vec3.mul_x, sub_self, zero_mul, add_zero]
  · simp only [partway, atHeight, Vec3.add_y, Vec3.sub_y, Vec3.mul_y, sub_self, zero_mul, add_zero]
  · simp only [partway, atHeight, Vec3.add_z, Vec3.sub_z, Vec3.mul_z]
    ring

/-- Straight up, by no more than `step`. -/
structure Rises (step : ℝ) (a b : Vec3 ℝ) : Prop where
  x : b.x = a.x
  y : b.y = a.y
  up : a.z ≤ b.z
  near : (b - a).norm ≤ step

theorem rises_atHeight (base : Vec3 ℝ) {step a b : ℝ} (up : a ≤ b) (near : b - a ≤ step) :
    Rises step (atHeight base a) (atHeight base b) where
  x := rfl
  y := rfl
  up := up
  near := by
    rw [norm_atHeight_sub, abs_of_nonneg (sub_nonneg.mpr up)]
    exact near

noncomputable def straightUp : ℝ →ₗᵢ[ℝ] EuclideanSpace ℝ (Fin 3) :=
  LinearIsometry.toSpanSingleton ℝ _ (by simp : ‖EuclideanSpace.single (Fin.last 2) (1 : ℝ)‖ = 1)

theorem atHeight_toE_sub (base : Vec3 ℝ) (a b : ℝ) :
    (atHeight base b).toE - (atHeight base a).toE = straightUp (b - a) := by
  rw [← Vec3.toE_sub]
  ext i
  fin_cases i <;> simp [straightUp, Vec3.toE, atHeight]

/-! ### Setpoints over one another, through the filter -/

noncomputable def SafetyProfile.reach (p : SafetyProfile ℝ) (dt gap : ℝ) : ℝ :=
  limit (p.maxLinearSpeed * max dt eps) (p.maxLinearSpeed * dt) eps
    (limit p.maxPoseJumpLinear p.maxPoseJumpLinear eps gap)

noncomputable def SafetyProfile.chase (p : SafetyProfile ℝ) (dt : ℝ) (goal : ℕ → ℝ) : ℕ → ℝ
  | 0 => goal 0
  | k + 1 => p.chase dt goal k + p.reach dt (goal (k + 1) - p.chase dt goal k)

def SafetyProfile.Gentle (p : SafetyProfile ℝ) (dt : ℝ) (goal : ℕ → ℝ) (n : ℕ) : Prop :=
  ∀ a, p.maxLinearAccel = some a → ∀ k < n,
    |(p.chase dt goal (k + 1) - p.chase dt goal k) -
      (p.chase dt goal k - p.chase dt goal (k - 1))| ≤ a * dt * max dt eps

def BoxedTo (p : SafetyProfile ℝ) (pos goal : Vec3 ℝ) : Prop :=
  (p.accepts pos ∧ goal = pos) ∨ (¬ p.accepts pos ∧ goal = p.clipPosition pos)

theorem BoxedTo.unique {p : SafetyProfile ℝ} {pos goal goal' : Vec3 ℝ} (boxed : BoxedTo p pos goal)
    (boxed' : BoxedTo p pos goal') : goal = goal' := by
  rcases boxed with ⟨accepted, same⟩ | ⟨refused, same⟩
  · rcases boxed' with ⟨_, same'⟩ | ⟨refused, _⟩
    · rw [same, same']
    · exact absurd accepted refused
  · rcases boxed' with ⟨accepted, _⟩ | ⟨_, same'⟩
    · exact absurd accepted refused
    · rw [same, same']

theorem limitWorkspace_boxed {p : SafetyProfile ℝ} (clips : p.workspaceAction = .clip)
    (target : Pose ℝ) :
    ∃ draft, limitWorkspace p { target := target, clipped := false, reasons := [] } = some draft ∧
      BoxedTo p target.pos draft.target.pos := by
  by_cases near : p.accepts target.pos
  · exact ⟨_, if_pos near, Or.inl ⟨near, rfl⟩⟩
  · refine ⟨{ target := { target with pos := p.clipPosition target.pos }, clipped := true
              reasons := [.workspace] }, ?_, Or.inr ⟨near, rfl⟩⟩
    unfold SafetyProfile.accepts at near
    unfold limitWorkspace
    dsimp only
    rw [if_neg near, clips]
    rfl

section Chasing

variable {p : SafetyProfile ℝ} {dt step gap : ℝ} {goal : ℕ → ℝ} {n k : ℕ}

theorem reach_between (caps : p.PositiveCaps) (nonneg : 0 ≤ dt) (upwards : 0 ≤ gap) :
    0 ≤ p.reach dt gap ∧ p.reach dt gap ≤ gap := by
  obtain ⟨s, sNonneg, sLe, jumps⟩ := limit_eq_smul (eps : ℝ) caps.poseJumpLinear.le le_rfl gap
  obtain ⟨t, tNonneg, tLe, speeds⟩ := limit_eq_smul (eps : ℝ)
    (mul_nonneg caps.linearSpeed.le nonneg)
    (mul_le_mul_of_nonneg_left (le_max_left dt eps) caps.linearSpeed.le) (s • gap)
  have shortened : p.reach dt gap = t * (s * gap) := by
    unfold SafetyProfile.reach
    rw [jumps, speeds]
    rfl
  have jumped := mul_le_mul_of_nonneg_right sLe upwards
  have climbs := mul_nonneg sNonneg upwards
  have slowed := mul_le_mul_of_nonneg_right tLe climbs
  rw [shortened]
  exact ⟨mul_nonneg tNonneg climbs, by linarith⟩

theorem reach_le (caps : p.PositiveCaps) (nonneg : 0 ≤ dt) (gap : ℝ) :
    p.reach dt gap ≤ p.maxPoseJumpLinear ∧ p.reach dt gap ≤ p.maxLinearSpeed * max dt eps := by
  have speedCap := mul_nonneg caps.linearSpeed.le nonneg
  have floor := mul_le_mul_of_nonneg_left (le_max_left dt eps) caps.linearSpeed.le
  constructor
  · apply (Real.le_norm_self _).trans
    apply (norm_limit_le_norm (eps : ℝ) speedCap floor _).trans
    exact norm_limit_le (eps : ℝ) caps.poseJumpLinear.le gap
  · apply (Real.le_norm_self _).trans
    exact norm_limit_le_threshold (eps : ℝ) speedCap floor _

theorem reach_of_short (upwards : 0 ≤ gap) (inJump : gap ≤ p.maxPoseJumpLinear)
    (inSpeed : gap ≤ p.maxLinearSpeed * max dt eps) : p.reach dt gap = gap := by
  have length : ‖gap‖ = gap := Real.norm_of_nonneg upwards
  unfold SafetyProfile.reach
  rw [limit_of_le (length.trans_le inJump), limit_of_le (length.trans_le inSpeed)]

theorem chase_behind (caps : p.PositiveCaps) (nonneg : 0 ≤ dt)
    (rising : ∀ k < n, goal k ≤ goal (k + 1)) (inside : k ≤ n) : p.chase dt goal k ≤ goal k := by
  induction k with
  | zero => exact le_rfl
  | succ k ih =>
      have ahead := (ih (Nat.le_of_succ_le inside)).trans (rising k inside)
      have short := (reach_between caps nonneg (sub_nonneg.mpr ahead)).2
      change p.chase dt goal k + p.reach dt (goal (k + 1) - p.chase dt goal k) ≤ goal (k + 1)
      linarith

theorem chase_gap (k : ℕ) : p.chase dt goal (k + 1) - p.chase dt goal k =
    p.reach dt (goal (k + 1) - p.chase dt goal k) :=
  add_sub_cancel_left _ _

theorem chase_reaches (rising : ∀ k < n, goal k ≤ goal (k + 1))
    (slow : ∀ k < n, goal (k + 1) - goal k ≤ step) (inJump : step ≤ p.maxPoseJumpLinear)
    (inSpeed : step ≤ p.maxLinearSpeed * max dt eps) (inside : k ≤ n) :
    p.chase dt goal k = goal k := by
  induction k with
  | zero => rfl
  | succ k ih =>
      have reached := ih (Nat.le_of_succ_le inside)
      have near := slow k inside
      change p.chase dt goal k + p.reach dt (goal (k + 1) - p.chase dt goal k) = goal (k + 1)
      rw [reached, reach_of_short (sub_nonneg.mpr (rising k inside)) (near.trans inJump)
        (near.trans inSpeed), add_sub_cancel]

/-- The steps of a chase are short where the goals are close together, or where one of the
limits keeps them short. -/
theorem chase_slow (caps : p.PositiveCaps) (nonneg : 0 ≤ dt)
    (rising : ∀ k < n, goal k ≤ goal (k + 1))
    (slow : (∀ k < n, goal (k + 1) - goal k ≤ step) ∨ p.maxPoseJumpLinear ≤ step ∨
      p.maxLinearSpeed * max dt eps ≤ step) (inside : k < n) :
    p.chase dt goal (k + 1) - p.chase dt goal k ≤ step := by
  obtain ⟨jump, speed⟩ := reach_le caps nonneg (goal (k + 1) - p.chase dt goal k)
  by_cases jumping : p.maxPoseJumpLinear ≤ step
  · rw [chase_gap]
    exact jump.trans jumping
  by_cases speeding : p.maxLinearSpeed * max dt eps ≤ step
  · rw [chase_gap]
    exact speed.trans speeding
  have close := (slow.resolve_right (not_or.mpr ⟨jumping, speeding⟩))
  have reaches {k : ℕ} (inside : k ≤ n) : p.chase dt goal k = goal k :=
    chase_reaches rising close (not_le.mp jumping).le (not_le.mp speeding).le inside
  rw [reaches inside, reaches inside.le]
  exact close k inside

end Chasing

section Climbing

variable {p : SafetyProfile ℝ} {dt step : ℝ} {base : Vec3 ℝ} {height goal : ℕ → ℝ} {n k : ℕ}

/-- Heights over one point whose box keeps them over it, at goals that never fall. -/
structure Climb (p : SafetyProfile ℝ) (dt step : ℝ) (base : Vec3 ℝ) (height goal : ℕ → ℝ)
    (n : ℕ) : Prop where
  clips : p.workspaceAction = .clip
  boxed : ∀ k < n, BoxedTo p (atHeight base (height (k + 1))) (atHeight base (goal (k + 1)))
  rising : ∀ k < n, goal k ≤ goal (k + 1)
  slow : (∀ k < n, goal (k + 1) - goal k ≤ step) ∨ p.maxPoseJumpLinear ≤ step ∨
    p.maxLinearSpeed * max dt eps ≤ step
  gentle : p.Gentle dt goal n

/-- Where the filter stands after `k` heights: where the chase has come to, with the velocity
of its last step. -/
structure ClimbedTo (p : SafetyProfile ℝ) (dt : ℝ) (base : Vec3 ℝ) (goal : ℕ → ℝ) (k : ℕ)
    (f : SafetyFilter ℝ) (ref : Pose ℝ) : Prop where
  profile : f.p = p
  step : f.dt = dt
  at_ref : f.prevPose = some ref
  place : ref.pos = atHeight base (p.chase dt goal k)
  moving : f.prevLinVel = some ((atHeight base (p.chase dt goal k) -
    atHeight base (p.chase dt goal (k - 1))) / max dt eps)

/-- From one point over the base toward another the filter goes as far as the limits let it. -/
theorem limitMotion_atHeight {ref : Pose ℝ} {draft : Draft ℝ} {h z : ℝ}
    (here : ref.pos = atHeight base h) (there : draft.target.pos = atHeight base z) :
    (limitMotion p dt ref draft).target.pos = atHeight base (h + p.reach dt (z - h)) := by
  have moved := limitMotion_displacement p dt ref draft
  have asked : displacement ref draft = straightUp (z - h) := by
    rw [displacement, there, here, atHeight_toE_sub]
  rw [asked, limit_map, limit_map] at moved
  apply Vec3.toE_injective
  have climbed : (atHeight base (h + p.reach dt (z - h))).toE - ref.pos.toE =
      straightUp (p.reach dt (z - h)) := by
    rw [here, atHeight_toE_sub, add_sub_cancel_left]
  exact sub_left_injective (moved.trans climbed.symm)

theorem limitLinearAccel_of_slight {v : Vec3 ℝ} {ref : Pose ℝ} {draft : Draft ℝ}
    (slight : ∀ a, p.maxLinearAccel = some a →
      ((draft.target.pos - ref.pos) / max dt eps - v).norm ≤ a * dt) :
    limitLinearAccel p dt (some v) ref draft =
      (draft, (draft.target.pos - ref.pos) / max dt eps) := by
  unfold limitLinearAccel
  dsimp only
  rw [Scalar.greater_real]
  cases capped : p.maxLinearAccel with
  | none => rfl
  | some a => exact if_neg (not_lt.mpr (slight a capped))

theorem norm_velocity_change (base : Vec3 ℝ) (before now next : ℝ) :
    ((atHeight base next - atHeight base now) / max dt eps -
      (atHeight base now - atHeight base before) / max dt eps).norm =
        |(next - now) - (now - before)| / max dt eps := by
  have floor : (0 : ℝ) < max dt eps := lt_of_lt_of_le eps_pos (le_max_right _ _)
  have change : (atHeight base next - atHeight base now) / max dt eps -
      (atHeight base now - atHeight base before) / max dt eps =
        (atHeight base (next - now) - atHeight base (now - before)) / max dt eps := by
    apply Vec3.ext
    · simp only [atHeight, Vec3.sub_x, Vec3.div_x, sub_self, zero_div]
    · simp only [atHeight, Vec3.sub_y, Vec3.div_y, sub_self, zero_div]
    · simp only [atHeight, Vec3.sub_z, Vec3.div_z, sub_div]
  rw [change, ← Vec3.norm_toE, Vec3.toE_div, norm_smul, Vec3.norm_toE, norm_atHeight_sub,
    Real.norm_of_nonneg (inv_nonneg.mpr floor.le), inv_mul_eq_div]

theorem filterCartesian_chases (clips : p.workspaceAction = .clip)
    (gentle : p.Gentle dt goal n) (inside : k < n) {f : SafetyFilter ℝ} {ref target : Pose ℝ}
    (climbed : ClimbedTo p dt base goal k f ref)
    (boxed : BoxedTo p target.pos (atHeight base (goal (k + 1)))) {state : RobotState ℝ}
    {cap : Option (Wrench ℝ)}
    (light : exceeds state.wrench (cap.getD f.p.maxContactWrench) = false) :
    ∃ pose clipped reasons f', f.filterCartesian target state cap =
        ({ ok := true, pose := some pose, clipped := clipped, clipReasons := reasons }, f') ∧
      ClimbedTo p dt base goal (k + 1) f' pose := by
  obtain ⟨profile, timed, at_ref, here, moving⟩ := climbed
  subst profile timed
  obtain ⟨draft, found, lets⟩ := limitWorkspace_boxed clips target
  have passed := SafetyFilter.filterCartesian_of_limited light found
  dsimp only at passed
  let next := limitMotion f.p f.dt ref draft
  have place : next.target.pos = atHeight base (f.p.chase f.dt goal (k + 1)) :=
    limitMotion_atHeight here (lets.unique boxed)
  have floor : (0 : ℝ) < max f.dt eps := lt_of_lt_of_le eps_pos (le_max_right _ _)
  have unchanged : limitLinearAccel f.p f.dt f.prevLinVel ref next =
      (next, (atHeight base (f.p.chase f.dt goal (k + 1)) -
        atHeight base (f.p.chase f.dt goal k)) / max f.dt eps) := by
    rw [moving, limitLinearAccel_of_slight, place, here]
    intro a capped
    rw [place, here, norm_velocity_change, div_le_iff₀ floor]
    exact gentle a capped k inside
  rw [at_ref, Option.getD_some, unchanged] at passed
  exact ⟨_, _, _, _, passed, rfl, rfl, rfl, place, rfl⟩

/-- One setpoint of a climb: it goes out straight above the one before, and the climb goes on. -/
theorem filterCartesian_climb (caps : p.PositiveCaps) (nonneg : 0 ≤ dt)
    (climb : Climb p dt step base height goal n) (inside : k < n) {f : SafetyFilter ℝ}
    {ref target : Pose ℝ} (climbed : ClimbedTo p dt base goal k f ref)
    (there : target.pos = atHeight base (height (k + 1))) {state : RobotState ℝ}
    {cap : Option (Wrench ℝ)}
    (light : exceeds state.wrench (cap.getD f.p.maxContactWrench) = false) :
    ∃ pose clipped reasons f', f.filterCartesian target state cap =
        ({ ok := true, pose := some pose, clipped := clipped, clipReasons := reasons }, f') ∧
      Rises step ref.pos pose.pos ∧ ClimbedTo p dt base goal (k + 1) f' pose := by
  have boxed : BoxedTo p target.pos (atHeight base (goal (k + 1))) := by
    rw [there]
    exact climb.boxed k inside
  obtain ⟨pose, clipped, reasons, f', passed, further⟩ :=
    filterCartesian_chases climb.clips climb.gentle inside climbed boxed light
  refine ⟨pose, clipped, reasons, f', passed, ?_, further⟩
  have ahead := (chase_behind caps nonneg climb.rising inside.le).trans (climb.rising k inside)
  have up := (reach_between caps nonneg (sub_nonneg.mpr ahead)).1
  rw [← chase_gap] at up
  rw [climbed.place, further.place]
  exact rises_atHeight base (sub_nonneg.mp up)
    (chase_slow caps nonneg climb.rising climb.slow inside)

end Climbing

/-! ### Watching the setpoints -/

/-- The pose commanded last, and before the first command the one the arm stands in. -/
def Pose.next (last : Pose ℝ) (c : Call (effects ℝ)) : Pose ℝ :=
  match c with
  | ⟨.write (.streamCartesian pose _), _⟩ => pose
  | _ => last

def Pose.Tracks (last : Pose ℝ) (c : Call (effects ℝ)) : Prop :=
  match c with
  | ⟨.readState, .ok state⟩ => state.tcpPose = last
  | _ => True

def Pose.Lifts (step : ℝ) (last : Pose ℝ) (op : Op ℝ) : Prop :=
  match op with
  | .write (.streamCartesian pose _) => Rises step last.pos pose.pos
  | _ => True

/-- A perfectly tracking arm, each setpoint straight above the one before by no more than
`step`. -/
def liftGuard (step : ℝ) : Monitor (effects ℝ) (Pose ℝ) where
  observe := Pose.next
  admits := Pose.Tracks
  allows := Pose.Lifts step

theorem liftGuard_answers (step : ℝ) (last : Pose ℝ) (op : Op ℝ) :
    ∃ r, (liftGuard step).admits last ⟨op, r⟩ := by
  cases op with
  | readState => exact ⟨.error ⟨.runtimeError, ""⟩, trivial⟩
  | _ =>
      obtain ⟨r⟩ := op_answered (K := ℝ) _
      exact ⟨r, trivial⟩

def Op.IsPoseless (op : Op ℝ) : Prop := ∀ pose wrench, op ≠ .write (.streamCartesian pose wrench)

theorem Op.IsQuiet.poseless {op : Op ℝ} (quiet : op.IsQuiet) : op.IsPoseless := by
  rintro pose wrench rfl
  exact quiet

theorem Op.IsSteady.poseless {op : Op ℝ} (steady : op.IsSteady) : op.IsPoseless :=
  steady.quiet.poseless

theorem Pose.next_of_poseless (s : Pose ℝ) {c : Call (effects ℝ)}
    (poseless : Op.IsPoseless c.op) : s.next c = s := by
  unfold next
  split
  · exact absurd rfl (poseless _ _)
  · rfl

theorem Pose.lifts_of_poseless (step : ℝ) (s : Pose ℝ) {op : Op ℝ} (poseless : op.IsPoseless) :
    s.Lifts step op := by
  unfold Lifts
  split
  · exact absurd rfl (poseless _ _)
  · trivial

section Guarded

variable {step : ℝ} {α : Type}

/-- What streams nothing and leaves the facade's fields alone changes nothing. -/
theorem wp_poseless {x : RobotM ℝ α} (uses : Uses (S := effects ℝ) Op.IsPoseless x)
    (leaves : LeavesMemory x) (robot : Robot ℝ) (s : Pose ℝ) :
    wp (liftGuard step) x (fun _ robot' s' => robot' = robot ∧ s' = s) robot s := by
  have unmoved : wp (liftGuard step) x (fun _ _ s' => s' = s) robot s := by
    refine uses.wp ?_ ?_ rfl
    · intro s' op poseless _
      exact s'.lifts_of_poseless step poseless
    · rintro s' op r poseless rfl
      exact s'.next_of_poseless poseless
  apply Program.wp_mono ((leaves robot).wp unmoved)
  rintro ⟨out, robot'⟩ s' ⟨same, left⟩
  exact ⟨left, same⟩

theorem wp_trackedRead {f : RobotState ℝ → RobotM ℝ α}
    {post : Except Exc α → Robot ℝ → Pose ℝ → Prop} {robot : Robot ℝ} {s : Pose ℝ}
    (rest : ∀ state : RobotState ℝ, state.tcpPose = s →
      wp (liftGuard step) (f state) post robot s) (raised : ∀ e, post (.error e) robot s) :
    wp (liftGuard step) (do let state ← getState; f state) post robot s := by
  unfold getState
  simp only [wp_bind, wp_readState]
  refine ⟨trivial, fun answer admitted => ?_⟩
  cases answer with
  | error e => exact raised e
  | ok state => exact ⟨trivial, fun _ _ => rest state admitted⟩

theorem wp_trackedCheck {f : Bool → RobotM ℝ α} {post : Except Exc α → Robot ℝ → Pose ℝ → Prop}
    {robot : Robot ℝ} {s : Pose ℝ} (rest : ∀ b, wp (liftGuard step) (f b) post robot s)
    (raised : ∀ e, post (.error e) robot s) :
    wp (liftGuard step) (do let faulted ← inFault; f faulted) post robot s := by
  rw [wp_bind, wp_inFault]
  refine ⟨trivial, fun answer _ => ?_⟩
  cases answer with
  | error e => exact raised e
  | ok faulted => exact rest faulted

theorem wp_trackedCancel (site : CancelSite) {f : Bool → RobotM ℝ α}
    {post : Except Exc α → Robot ℝ → Pose ℝ → Prop} {robot : Robot ℝ} {s : Pose ℝ}
    (rest : ∀ b, wp (liftGuard step) (f b) post robot s) :
    wp (liftGuard step) (do let set ← cancelIsSet site; f set) post robot s := by
  unfold cancelIsSet
  rw [wp_bind, wp_op]
  exact ⟨trivial, fun set _ => rest set⟩

end Guarded

section Ticks

variable {p : SafetyProfile ℝ} {dt step : ℝ} {base : Vec3 ℝ} {height goal : ℕ → ℝ} {n k : ℕ}

def AfterClimb (p : SafetyProfile ℝ) (dt step : ℝ) (base : Vec3 ℝ) (height goal : ℕ → ℝ)
    (n k : ℕ) (out : Except Exc (ChunkRun ℝ × Bool)) (robot : Robot ℝ) (s : Pose ℝ) : Prop :=
  ∀ run, out = .ok (run, true) →
    Climb p dt step base height goal n ∧ ClimbedTo p dt base goal (k + 1) robot.filter s

theorem wp_climbHalts {x : RobotM ℝ Unit} (uses : Uses (S := effects ℝ) Op.IsPoseless x)
    (leaves : LeavesMemory x) (run : ChunkRun ℝ) (robot : Robot ℝ) (s : Pose ℝ) :
    wp (liftGuard step) (do x; return (run, false))
      (AfterClimb p dt step base height goal n k) robot s := by
  rw [wp_bind]
  apply wp_mono (wp_poseless uses leaves robot s)
  intro out robot' s' _
  cases out with
  | error e =>
      intro run same
      cases same
  | ok done =>
      intro run same
      cases same

theorem poseless_stop : Uses (S := effects ℝ) Op.IsPoseless (backend (K := ℝ) .stop) := by
  apply uses_backend
  intro pose wrench same
  cases same

theorem cartesianTick_climbs (caps : p.PositiveCaps) (nonneg : 0 ≤ dt) (chunk : CartesianChunk ℝ)
    (t0 : ℝ) {sp : CartesianSetpoint ℝ} (run : ChunkRun ℝ) {robot : Robot ℝ} {ref : Pose ℝ}
    (inside : k < n) (there : sp.pose.pos = atHeight base (height (k + 1)))
    (fine : p.StopsAlways ∨
      (Climb p dt step base height goal n ∧ ClimbedTo p dt base goal k robot.filter ref)) :
    wp (liftGuard step) (cartesianTick chunk p.maxContactWrench t0 sp run)
      (AfterClimb p dt step base height goal n k) robot ref := by
  have raised (e : Exc) (robot : Robot ℝ) (s : Pose ℝ) :
      AfterClimb p dt step base height goal n k (.error e) robot s := by
    intro run same
    cases same
  have cancels : Uses (S := effects ℝ) Op.IsPoseless (cancelTick (K := ℝ)) := by
    refine Uses.bind (uses_op ?_) fun _ => poseless_stop
    intro pose wrench same
    cases same
  unfold cartesianTick
  dsimp only
  apply wp_trackedCancel
  intro set
  cases set with
  | true =>
      exact wp_climbHalts cancels ((leavesMemory_perform _).bind fun _ => leavesMemory_backend _)
        _ _ _
  | false =>
      change wp _ (do let state ← getState; _) _ _ _
      apply wp_trackedRead _ (fun e => raised e _ _)
      intro state _
      apply wp_trackedCheck _ (fun e => raised e _ _)
      intro faulted
      cases faulted with
      | true => exact wp_climbHalts poseless_stop (leavesMemory_backend _) _ _ _
      | false =>
          change wp _ (if exceeds state.wrench p.maxContactWrench = true then _ else _) _ _ _
          by_cases heavy : exceeds state.wrench p.maxContactWrench = true
          · rw [if_pos heavy]
            exact wp_climbHalts poseless_stop (leavesMemory_backend _) _ _ _
          · rw [if_neg heavy, wp_bind, wp_filterCartesian, afterStep_ok]
            have light : ¬ p.StopsAlways := fun stops => heavy (stops.exceeds _)
            obtain ⟨climb, climbed⟩ := fine.resolve_left light
            have under : exceeds state.wrench ((some p.maxContactWrench).getD
                robot.filter.p.maxContactWrench) = false := Bool.eq_false_iff.mpr heavy
            obtain ⟨pose, clipped, reasons, f', passed, rises, further⟩ :=
              filterCartesian_climb caps nonneg climb inside climbed there under
            rw [passed]
            dsimp only
            rw [wp_bind, wp_backend]
            refine ⟨rises, fun answer _ => ?_⟩
            cases answer with
            | error e => exact raised e _ _
            | ok done =>
                rw [afterStep_ok, wp_bind]
                apply wp_mono (wp_poseless
                  ((uses_afterStream chunk t0 sp state pose _).mono fun _ => Op.IsQuiet.poseless)
                  (leavesMemory_afterStream chunk t0 sp state pose _) _ _)
                rintro out robot' s' ⟨rfl, rfl⟩
                cases out with
                | error e => exact raised e _ _
                | ok run' =>
                    intro _ _
                    exact ⟨climb, further⟩

/-- The setpoints from the `k`th height on. -/
theorem cartesianTicks_climb (caps : p.PositiveCaps) (nonneg : 0 ≤ dt) (chunk : CartesianChunk ℝ)
    (t0 : ℝ) {setpoint : ℕ → CartesianSetpoint ℝ}
    (there : ∀ k < n, (setpoint k).pose.pos = atHeight base (height (k + 1))) (left : ℕ) :
    ∀ {k : ℕ} (run : ChunkRun ℝ) {robot : Robot ℝ} {ref : Pose ℝ}, k + left ≤ n →
      (p.StopsAlways ∨
        (Climb p dt step base height goal n ∧ ClimbedTo p dt base goal k robot.filter ref)) →
      wp (liftGuard step)
        (cartesianTicks chunk p.maxContactWrench t0 ((List.range' k left).map setpoint) run)
        (fun _ _ _ => True) robot ref := by
  induction left with
  | zero => exact fun _ _ _ _ _ => trivial
  | succ left ih =>
      intro k run robot ref within fine
      have inside : k < n := by omega
      rw [List.range'_succ, List.map_cons]
      unfold cartesianTicks
      rw [wp_bind]
      apply wp_mono (cartesianTick_climbs caps nonneg chunk t0 run inside (there k inside) fine)
      intro out robot' s' after
      cases out with
      | error e => trivial
      | ok answer =>
          obtain ⟨run', goOn⟩ := answer
          rw [afterStep_ok]
          dsimp only
          cases goOn with
          | false => trivial
          | true =>
              rw [if_pos rfl]
              exact ih run' (by omega) (Or.inr (after run' rfl))

end Ticks

section Segment

variable (robot : Robot ℝ) (start : Pose ℝ) (liftM v : ℝ)

noncomputable def Robot.liftTop : ℝ :=
  Scalar.lesser (start.pos.z + liftM) robot.profile.wsZ.2

noncomputable def Robot.liftTicks : ℕ :=
  (max (requestedTicks (Scalar.greater (Scalar.ofRat (15 / 10))
      (liftM / Scalar.greater v (Scalar.ofRat (1 / 1000)))) robot.controlHz)
    (cappedTicks (some (tightenedCap robot.profile.maxLinearSpeed v)) (1 / robot.controlHz)
      |robot.liftTop start liftM - start.pos.z|)).toNat

noncomputable def Robot.liftHeight (k : ℕ) : ℝ :=
  along start.pos.z (robot.liftTop start liftM) (robot.liftTicks start liftM v) k

/-- The point of the segment after `k` ticks. -/
noncomputable def Robot.liftPoint (k : ℕ) : Vec3 ℝ :=
  atHeight start.pos (robot.liftHeight start liftM v k)

open Classical in
noncomputable def Robot.liftGoal (k : ℕ) : ℝ :=
  if k = 0 ∨ robot.profile.accepts (robot.liftPoint start liftM v k) then
    robot.liftHeight start liftM v k
  else (robot.profile.clipPosition (robot.liftPoint start liftM v k)).z

/-- No limiter of the acceleration touches what the other limits make of the lift. -/
def Robot.LiftGentle : Prop :=
  robot.profile.Gentle (1 / robot.controlHz) (robot.liftGoal start liftM v)
    (robot.liftTicks start liftM v)

/-- No setpoint passes the box's test from just below the height it would be raised to. -/
def Robot.LiftSettled : Prop :=
  ∀ k < robot.liftTicks start liftM v,
    robot.profile.accepts (robot.liftPoint start liftM v (k + 1)) →
      (robot.profile.clipPosition (robot.liftPoint start liftM v (k + 1))).z ≤
        robot.liftHeight start liftM v (k + 1)

/-- The box leaves the start where it is but for its height. -/
structure Robot.LiftRaised (robot : Robot ℝ) (start : Pose ℝ) : Prop where
  x : (robot.profile.clipPosition start.pos).x = start.pos.x
  y : (robot.profile.clipPosition start.pos).y = start.pos.y

def Robot.LiftSlow : Prop :=
  robot.liftGoal start liftM v 1 - start.pos.z ≤ v / robot.controlHz ∨
    robot.profile.maxPoseJumpLinear ≤ v / robot.controlHz ∨
    robot.profile.maxLinearSpeed * max (1 / robot.controlHz) eps ≤ v / robot.controlHz

/-- From a start no higher than the box's top, a first setpoint that the box leaves alone, or
slowly raises. -/
structure Robot.LiftClear : Prop where
  below : start.pos.z ≤ robot.profile.wsZ.2
  boxed : robot.profile.accepts (robot.liftPoint start liftM v 1) ∨
    (robot.LiftRaised start ∧ robot.LiftSlow start liftM v ∧ robot.LiftSettled start liftM v)

/-- Whatever a perfectly tracking arm answers, each setpoint of the lift is straight above the
one before, the pose at the start counting as the first, by no more than the speed asked for. -/
def Robot.LiftsStraight : Prop :=
  ∀ calls left, Trace (liftStage liftM v robot) calls left →
    (liftGuard (v / robot.controlHz)).Admitted start calls →
    (liftGuard (v / robot.controlHz)).Allowed start calls

variable {robot start liftM v}

theorem Robot.liftTicks_pos : 0 < robot.liftTicks start liftM v := by
  unfold liftTicks requestedTicks
  omega

noncomputable def Robot.liftInterpolator (robot : Robot ℝ) (start : Pose ℝ) (liftM v : ℝ) :
    CartesianChunkInterpolator ℝ :=
  robot.interpolator
    (liftChunk { start.pos with z := robot.liftTop start liftM } liftM v) start

theorem Robot.lift_setpoints (robot : Robot ℝ) (start : Pose ℝ) (liftM v : ℝ) :
    ∃ setpoint : ℕ → CartesianSetpoint ℝ,
    (robot.liftInterpolator start liftM v).setpoints =
      (List.range' 0 (robot.liftTicks start liftM v)).map setpoint ∧
    ∀ k < robot.liftTicks start liftM v, (setpoint k).pose.pos =
      robot.liftPoint start liftM v (k + 1) := by
  let interp := robot.liftInterpolator start liftM v
  let target := atHeight start.pos (robot.liftTop start liftM)
  let angular := tightenedCap robot.profile.maxAngularSpeed interp.chunk.maxTcpAngularSpeed
  have length : (target - start.pos).norm = |robot.liftTop start liftM - start.pos.z| :=
    norm_atHeight_sub start.pos start.pos.z (robot.liftTop start liftM)
  have turn : cappedTicks (some angular) interp.dt (quatAngle start.quat start.quat) ≤ 1 := by
    rw [quatAngle_of_aligned rfl]
    exact cappedTicks_zero _ _
  have ticks (wp : CartesianWaypoint ℝ) (timed : wp.resolveDuration robot.controlHz =
      Scalar.greater (Scalar.ofRat (15 / 10))
        (liftM / Scalar.greater v (Scalar.ofRat (1 / 1000)))) :
      interp.segmentTicks start.pos target start.quat start.quat wp =
        robot.liftTicks start liftM v := by
    have one : 1 ≤ requestedTicks (wp.resolveDuration robot.controlHz) robot.controlHz :=
      le_max_left _ _
    unfold liftTicks
    rw [← timed, ← length]
    change (max 1 (max (max (requestedTicks (wp.resolveDuration robot.controlHz)
      robot.controlHz) _) (cappedTicks (some angular) interp.dt _))).toNat = _
    rw [max_eq_left (turn.trans (one.trans (le_max_left _ _))),
      max_eq_right (one.trans (le_max_left _ _))]
    rfl
  let point (n k : ℕ) : CartesianSetpoint ℝ :=
    { pose := ⟨start.pos + (target - start.pos) *
          cosineBlend (Scalar.ofNat (k + 1) / Scalar.ofNat n : ℝ),
        quatSlerp start.quat start.quat
          (cosineBlend (Scalar.ofNat (k + 1) / Scalar.ofNat n : ℝ))⟩
      gripper := if k = 0 then none else none
      segment := 0
      segmentTicks := n }
  refine ⟨point (robot.liftTicks start liftM v), ?_, ?_⟩
  · rw [← List.range_eq_range']
    unfold CartesianChunkInterpolator.setpoints
    change interp.setpointsFrom start.pos start.quat 0 [_] = _
    rw [CartesianChunkInterpolator.setpointsFrom, CartesianChunkInterpolator.setpointsFrom,
      List.append_nil]
    change CartesianChunkInterpolator.segment start.pos target start.quat start.quat none 0
      (interp.segmentTicks start.pos target start.quat start.quat _) = _
    rw [ticks _ rfl]
    rfl
  · intro k inside
    change start.pos + (target - start.pos) * _ = _
    rw [cosineBlend_tick inside]
    change partway (atHeight start.pos start.pos.z) target _ = _
    rw [partway_atHeight]
    rfl

theorem Robot.liftTop_le : robot.liftTop start liftM ≤ robot.profile.wsZ.2 := by
  rw [liftTop, Scalar.lesser_real]
  exact min_le_right _ _

theorem Robot.liftTop_above (nonneg : 0 ≤ liftM) :
    start.pos.z ≤ robot.liftTop start liftM ↔ start.pos.z ≤ robot.profile.wsZ.2 := by
  rw [liftTop, Scalar.lesser_real, le_min_iff]
  exact and_iff_right (le_add_of_nonneg_right nonneg)

theorem Robot.liftHeight_zero : robot.liftHeight start liftM v 0 = start.pos.z := along_zero _ _ _

theorem Robot.liftHeight_rises (nonneg : 0 ≤ liftM) (below : start.pos.z ≤ robot.profile.wsZ.2)
    {k : ℕ} (inside : k < robot.liftTicks start liftM v) :
    robot.liftHeight start liftM v k ≤ robot.liftHeight start liftM v (k + 1) := by
  have upwards := sub_nonneg.mpr ((robot.liftTop_above nonneg).mpr below)
  have gap := mul_nonneg (ease_tick_nonneg inside) upwards
  rw [← along_gap] at gap
  exact sub_nonneg.mp gap

theorem Robot.liftHeight_between (nonneg : 0 ≤ liftM) (below : start.pos.z ≤ robot.profile.wsZ.2)
    {k : ℕ} (inside : k < robot.liftTicks start liftM v) :
    robot.liftHeight start liftM v 1 ≤ robot.liftHeight start liftM v (k + 1) ∧
      robot.liftHeight start liftM v (k + 1) ≤ robot.profile.wsZ.2 := by
  have upwards := (robot.liftTop_above nonneg).mpr below
  constructor
  · induction k with
    | zero => exact le_rfl
    | succ k ih =>
        exact (ih (Nat.lt_of_succ_lt inside)).trans (liftHeight_rises nonneg below inside)
  · have short := mul_le_mul_of_nonneg_right
      (ease_le_one ((k + 1 : ℕ) / robot.liftTicks start liftM v : ℝ)) (sub_nonneg.mpr upwards)
    rw [one_mul, ← smul_eq_mul] at short
    have reached : robot.liftHeight start liftM v (k + 1) ≤ robot.liftTop start liftM := by
      unfold liftHeight along
      linarith
    exact reached.trans robot.liftTop_le

theorem Robot.liftHeight_slow (paced : robot.Paced) (caps : robot.profile.PositiveCaps)
    (nonneg : 0 ≤ liftM) (below : start.pos.z ≤ robot.profile.wsZ.2) (positive : 0 < v) {k : ℕ}
    (inside : k < robot.liftTicks start liftM v) :
    robot.liftHeight start liftM v (k + 1) - robot.liftHeight start liftM v k ≤
        v / robot.controlHz ∧
      robot.liftHeight start liftM v (k + 1) - robot.liftHeight start liftM v k ≤
        robot.profile.maxLinearSpeed * (1 / robot.controlHz) := by
  have dtPos : 0 < 1 / robot.controlHz := one_div_pos.mpr paced.ticking
  have capPos : 0 < tightenedCap robot.profile.maxLinearSpeed v := tightenedCap_pos caps.linearSpeed
  have covers : cappedTicks (some (tightenedCap robot.profile.maxLinearSpeed v))
      (1 / robot.controlHz) |robot.liftTop start liftM - start.pos.z| ≤
        (robot.liftTicks start liftM v : ℤ) := by
    unfold liftTicks
    exact (le_max_right _ _).trans (Int.self_le_toNat _)
  have enough := enough_of_cappedTicks capPos covers
  have step := norm_along_sub_le (a := start.pos.z) (b := robot.liftTop start liftM) k
    robot.liftTicks_pos (mul_pos capPos dtPos) (Real.norm_eq_abs _).le
    (by exact_mod_cast enough)
  have rises := liftHeight_rises nonneg below inside
  change ‖robot.liftHeight start liftM v (k + 1) - robot.liftHeight start liftM v k‖ ≤ _ at step
  rw [Real.norm_of_nonneg (sub_nonneg.mpr rises)] at step
  have slower : tightenedCap robot.profile.maxLinearSpeed v ≤ v := by
    rw [tightenedCap, if_pos positive, Scalar.lesser_real]
    exact min_le_right _ _
  constructor
  · rw [div_eq_mul_one_div]
    exact step.trans (mul_le_mul_of_nonneg_right slower dtPos.le)
  · exact step.trans (mul_le_mul_of_nonneg_right (tightenedCap_le _ _) dtPos.le)

theorem accepts_atHeight {p : SafetyProfile ℝ} {base : Vec3 ℝ} {low z : ℝ}
    (accepted : p.accepts (atHeight base low)) (above : low ≤ z) (below : z ≤ p.wsZ.2) :
    p.accepts (atHeight base z) := by
  rw [accepts_iff_axes] at accepted ⊢
  intro axis
  cases axis with
  | x => exact accepted .x
  | y => exact accepted .y
  | z =>
      have top : Accepts atol rtol p.wsZ.1 p.wsZ.2 p.wsZ.2 :=
        accepts_of_excess_zero atol_nonneg rtol_nonneg
          (excess_of_between (min_le_right _ _) le_rfl)
      exact accepts_of_between atol_nonneg rtol_nonneg rtol_small (accepted .z) top above below

theorem Robot.liftGoal_zero : robot.liftGoal start liftM v 0 = start.pos.z := by
  unfold liftGoal
  rw [if_pos (Or.inl rfl), liftHeight_zero]

theorem Robot.liftGoal_accepted {k : ℕ}
    (accepted : robot.profile.accepts (robot.liftPoint start liftM v k)) :
    robot.liftGoal start liftM v k = robot.liftHeight start liftM v k :=
  if_pos (Or.inr accepted)

theorem Robot.liftGoal_refused {k : ℕ}
    (refused : ¬ robot.profile.accepts (robot.liftPoint start liftM v (k + 1))) :
    robot.liftGoal start liftM v (k + 1) =
      (robot.profile.clipPosition (robot.liftPoint start liftM v (k + 1))).z := by
  unfold liftGoal
  rw [if_neg (not_or.mpr ⟨Nat.succ_ne_zero k, refused⟩)]

theorem Robot.liftPoint_accepted (nonneg : 0 ≤ liftM) (below : start.pos.z ≤ robot.profile.wsZ.2)
    {k : ℕ} (inside : k + 1 < robot.liftTicks start liftM v)
    (accepted : robot.profile.accepts (robot.liftPoint start liftM v (k + 1))) :
    robot.profile.accepts (robot.liftPoint start liftM v (k + 2)) :=
  accepts_atHeight accepted (liftHeight_rises nonneg below inside)
    (liftHeight_between nonneg below inside).2

/-- Under the top, clipping raises a height, and brings no two further apart. -/
theorem clip_rises (lower : ℝ) {upper a b : ℝ} (rises : a ≤ b) (below : b ≤ upper) :
    a ≤ Scalar.clip a lower upper ∧ Scalar.clip a lower upper ≤ Scalar.clip b lower upper ∧
      Scalar.clip b lower upper - Scalar.clip a lower upper ≤ b - a := by
  simp only [Scalar.clip_real]
  have above : a ≤ min (max a lower) upper := le_min (le_max_left _ _) (rises.trans below)
  refine ⟨above, min_le_min_right _ (max_le_max_right _ rises), ?_⟩
  rcases le_total b lower with low | high
  · rw [max_eq_right low, max_eq_right (rises.trans low), sub_self]
    linarith
  · rw [max_eq_left high, min_eq_left below]
    linarith

/-- Where the first setpoint is not the one the box refuses, none is. -/
theorem Robot.LiftClear.raised (nonneg : 0 ≤ liftM) (clear : robot.LiftClear start liftM v) {k : ℕ}
    (inside : k < robot.liftTicks start liftM v)
    (refused : ¬ robot.profile.accepts (robot.liftPoint start liftM v (k + 1))) :
    robot.LiftRaised start ∧ robot.LiftSlow start liftM v ∧ robot.LiftSettled start liftM v := by
  apply clear.boxed.resolve_left
  intro accepted
  obtain ⟨above, below⟩ := liftHeight_between nonneg clear.below inside
  exact refused (accepts_atHeight accepted above below)

/-- From the second setpoint on the goals rise by no more than the heights, and from the first
where the box leaves it alone. -/
theorem Robot.LiftClear.goals (nonneg : 0 ≤ liftM) (clear : robot.LiftClear start liftM v) {k : ℕ}
    (inside : k < robot.liftTicks start liftM v) :
    robot.liftGoal start liftM v k ≤ robot.liftGoal start liftM v (k + 1) ∧
      (k ≠ 0 ∨ robot.profile.accepts (robot.liftPoint start liftM v 1) →
        robot.liftGoal start liftM v (k + 1) - robot.liftGoal start liftM v k ≤
          robot.liftHeight start liftM v (k + 1) - robot.liftHeight start liftM v k) := by
  have rises := liftHeight_rises nonneg clear.below inside
  have under := (liftHeight_between nonneg clear.below inside).2
  obtain ⟨lifted, further, apart⟩ := clip_rises robot.profile.wsZ.1 rises under
  have above := (clip_rises robot.profile.wsZ.1 (le_refl _) under).1
  have begins : robot.liftHeight start liftM v 0 = start.pos.z := liftHeight_zero
  by_cases accepted : robot.profile.accepts (robot.liftPoint start liftM v (k + 1))
  · rw [liftGoal_accepted accepted]
    cases k with
    | zero =>
        rw [liftGoal_zero, ← begins]
        exact ⟨rises, fun _ => le_rfl⟩
    | succ k =>
        by_cases before : robot.profile.accepts (robot.liftPoint start liftM v (k + 1))
        · rw [liftGoal_accepted before]
          exact ⟨rises, fun _ => le_rfl⟩
        · have settled := (clear.raised nonneg (Nat.lt_of_succ_lt inside) before).2.2 (k + 1)
            inside accepted
          rw [liftGoal_refused before]
          change Scalar.clip (robot.liftHeight start liftM v (k + 1)) robot.profile.wsZ.1
            robot.profile.wsZ.2 ≤ _ ∧ (_ → _ - Scalar.clip (robot.liftHeight start liftM v (k + 1))
              robot.profile.wsZ.1 robot.profile.wsZ.2 ≤ _)
          exact ⟨further.trans settled, fun _ => by linarith⟩
  · rw [liftGoal_refused accepted]
    cases k with
    | zero =>
        rw [liftGoal_zero, ← begins]
        refine ⟨rises.trans above, ?_⟩
        intro late
        exact absurd (late.resolve_left (not_not.mpr rfl)) accepted
    | succ k =>
        have before : ¬ robot.profile.accepts (robot.liftPoint start liftM v (k + 1)) :=
          fun before => accepted (liftPoint_accepted nonneg clear.below inside before)
        rw [liftGoal_refused before]
        exact ⟨further, fun _ => apart⟩

theorem Robot.LiftClear.climb (paced : robot.Paced) (caps : robot.profile.PositiveCaps)
    (clips : robot.profile.workspaceAction = .clip) (nonneg : 0 ≤ liftM) (positive : 0 < v)
    (clear : robot.LiftClear start liftM v) (gentle : robot.LiftGentle start liftM v) :
    Climb robot.profile (1 / robot.controlHz) (v / robot.controlHz) start.pos
      (robot.liftHeight start liftM v) (robot.liftGoal start liftM v)
      (robot.liftTicks start liftM v) where
  clips := clips
  boxed k inside := by
    by_cases accepted : robot.profile.accepts (robot.liftPoint start liftM v (k + 1))
    · exact Or.inl ⟨accepted, congrArg (atHeight start.pos) (liftGoal_accepted accepted)⟩
    · have raised := (clear.raised nonneg inside accepted).1
      refine Or.inr ⟨accepted, ?_⟩
      apply Vec3.ext
      · exact raised.x.symm
      · exact raised.y.symm
      · exact liftGoal_refused accepted
  rising k inside := (clear.goals nonneg inside).1
  slow := by
    have slowly (k : ℕ) (inside : k < robot.liftTicks start liftM v)
        (late : k ≠ 0 ∨ robot.profile.accepts (robot.liftPoint start liftM v 1)) :
        robot.liftGoal start liftM v (k + 1) - robot.liftGoal start liftM v k ≤
          v / robot.controlHz :=
      ((clear.goals nonneg inside).2 late).trans
        (liftHeight_slow paced caps nonneg clear.below positive inside).1
    by_cases accepted : robot.profile.accepts (robot.liftPoint start liftM v 1)
    · exact Or.inl fun k inside => slowly k inside (Or.inr accepted)
    · refine (clear.raised nonneg robot.liftTicks_pos accepted).2.1.imp_left ?_
      intro first k inside
      cases k with
      | zero =>
          rw [liftGoal_zero]
          exact first
      | succ k => exact slowly (k + 1) inside (Or.inl (Nat.succ_ne_zero k))
  gentle := gentle

theorem Robot.Paced.climbedTo (paced : robot.Paced) (liftM v : ℝ) {state : RobotState ℝ}
    (standing : state.tcpPose = start) :
    ClimbedTo robot.profile (1 / robot.controlHz) start.pos (robot.liftGoal start liftM v) 0
      (robot.filter.reset (some state)) start where
  profile := (robot.filter.reset_p _ _ _).trans paced.profile
  step := (robot.filter.reset_dt _ _ _).trans paced.step
  at_ref := by
    rw [SafetyFilter.reset_state_prevPose, standing]
  place := congrArg (atHeight start.pos) robot.liftGoal_zero.symm
  moving := by
    rw [SafetyFilter.reset_prevLinVel]
    congr 1
    apply Vec3.ext
    · simp only [atHeight, Vec3.zero_x, Vec3.div_x, Vec3.sub_x, sub_self, zero_div]
    · simp only [atHeight, Vec3.zero_y, Vec3.div_y, Vec3.sub_y, sub_self, zero_div]
    · simp only [atHeight, Vec3.zero_z, Vec3.div_z, Vec3.sub_z, Nat.zero_sub, sub_self, zero_div]

end Segment

section Stage

variable {step : ℝ} {α : Type}

theorem wp_harmless {x : RobotM ℝ α} (uses : Uses (S := effects ℝ) Op.IsPoseless x)
    (robot : Robot ℝ) (s : Pose ℝ) : wp (liftGuard step) x (fun _ _ _ => True) robot s := by
  have allowed (s' : Pose ℝ) (op : Op ℝ) (poseless : op.IsPoseless) (_ : True) :
      (liftGuard step).allows s' op := s'.lifts_of_poseless step poseless
  apply Program.wp_mono (uses.wp allowed (fun _ _ _ _ _ => trivial) trivial)
  intro _ _ _
  trivial

theorem poseless_returnResult (result : ExecutionResult ℝ) (raiseOnStop : Bool) :
    Uses (S := effects ℝ) Op.IsPoseless (returnResult result raiseOnStop) := by
  refine Uses.bind (uses_op ?_) fun _ => ?_
  · intro pose wrench same
    cases same
  · split
    · exact uses_throw _
    · exact uses_pure _

theorem poseless_abortAtEntry (raiseOnStop : Bool) :
    Uses (S := effects ℝ) Op.IsPoseless (abortAtEntry raiseOnStop) := by
  refine Uses.bind (uses_op ?_) fun _ => ?_
  · intro pose wrench same
    cases same
  · exact (uses_getState.mono fun _ => Op.IsQuiet.poseless).bind fun _ =>
      poseless_returnResult _ raiseOnStop

theorem poseless_armWrenchLimit (relaxed : Bool) (cap : Wrench ℝ) :
    Uses (S := effects ℝ) Op.IsPoseless (armWrenchLimit relaxed cap) := by
  unfold armWrenchLimit
  split
  · apply uses_backend
    intro pose wrench same
    cases same
  · exact uses_pure _

theorem leavesMemory_armWrenchLimit (relaxed : Bool) (cap : Wrench ℝ) :
    LeavesMemory (armWrenchLimit relaxed cap) := by
  unfold armWrenchLimit
  split
  · exact leavesMemory_backend _
  · exact leavesMemory_pure _

theorem ensureCartesianStart_tracked (chunk : CartesianChunk ℝ) (result : ExecutionResult ℝ)
    (robot : Robot ℝ) (start : Pose ℝ) :
    wp (liftGuard step) (ensureCartesianStart chunk result)
      (fun out robot' s => ∀ started, out = .ok started →
        started.1.tcpPose = start ∧ robot' = robot ∧ s = start) robot start := by
  have raised (e : Exc) : ∀ started : RobotState ℝ × ExecutionResult ℝ,
      (.error e : Except Exc _) = .ok started →
      started.1.tcpPose = start ∧ robot = robot ∧ start = start := by
    intro started same
    cases same
  have modeless : Uses (S := effects ℝ) Op.IsPoseless
      (startCartesianImpedance (some chunk.impedance)) := by
    refine uses_get.bind fun robot => uses_backend ?_
    intro pose wrench same
    cases same
  unfold ensureCartesianStart
  apply wp_trackedRead _ raised
  intro state standing
  split
  · intro started same
    cases same
    exact ⟨standing, rfl, rfl⟩
  · rw [wp_bind]
    apply wp_mono (wp_poseless modeless
      (leavesMemory_get.bind fun _ => leavesMemory_backend _) robot start)
    rintro out robot' s ⟨rfl, rfl⟩
    cases out with
    | error e => exact raised e
    | ok done =>
        rw [afterStep_ok]
        apply wp_trackedRead _ raised
        intro state standing started same
        cases same
        exact ⟨standing, rfl, rfl⟩

variable {robot : Robot ℝ} {start : Pose ℝ} {liftM v : ℝ}

theorem guardedTicks_lifts {chunk : CartesianChunk ℝ} {cap : Wrench ℝ} {relaxed : Bool} {t0 : ℝ}
    {setpoints : List (CartesianSetpoint ℝ)} {run : ChunkRun ℝ}
    (ticks : wp (liftGuard step) (cartesianTicks chunk cap t0 setpoints run)
      (fun _ _ _ => True) robot start) :
    wp (liftGuard step) (guardedTicks chunk cap relaxed t0 setpoints run)
      (fun _ _ _ => True) robot start := by
  have restores (run : ChunkRun ℝ) :
      Uses (S := effects ℝ) Op.IsPoseless (restoreWrenchLimit relaxed run) :=
    (steady_restoreWrenchLimit relaxed run).mono fun _ => Op.IsSteady.poseless
  have fails (e : Exc) : Uses (S := effects ℝ) Op.IsPoseless
      (do let _ ← restoreWrenchLimit relaxed run; throw e : RobotM ℝ (ChunkRun ℝ)) :=
    (restores run).bind fun _ => uses_throw e
  unfold guardedTicks
  rw [wp_bind, wp_tryCatch, wp_bind]
  apply wp_mono ticks
  intro out robot' s' _
  cases out with
  | error e => exact wp_harmless (fails e) robot' s'
  | ok run' =>
      rw [afterStep_ok, wp_bind]
      apply wp_mono (wp_harmless ((steady_resolvePending chunk run').mono
        fun _ => Op.IsSteady.poseless) robot' s')
      intro out robot'' s'' _
      cases out with
      | error e => exact wp_harmless (fails e) robot'' s''
      | ok run'' => exact wp_harmless (restores run'') robot'' s''

theorem runCartesianChunk_lifts (paced : robot.Paced) (caps : robot.profile.PositiveCaps)
    (fine : robot.profile.StopsAlways ∨
      Climb robot.profile (1 / robot.controlHz) step start.pos (robot.liftHeight start liftM v)
        (robot.liftGoal start liftM v) (robot.liftTicks start liftM v)) :
    wp (liftGuard step)
      (runCartesianChunk (liftChunk { start.pos with z := robot.liftTop start liftM } liftM v)
        false false) (fun _ _ _ => True) robot start := by
  let chunk := liftChunk { start.pos with z := robot.liftTop start liftM } liftM v
  unfold runCartesianChunk verifyChunkProfile
  rw [wp_bind, wp_bind, wp_get, afterStep_ok]
  dsimp only
  split
  · trivial
  rw [wp_pure, afterStep_ok, wp_bind]
  apply wp_mono (ensureCartesianStart_tracked _ _ robot start)
  intro out robot' s' begun
  cases out with
  | error e => trivial
  | ok started =>
      obtain ⟨stands, rfl, rfl⟩ := begun started rfl
      obtain ⟨state, result⟩ := started
      rw [afterStep_ok]
      dsimp only
      have made : chunk.forExecution state.tcpPose = .ok chunk := rfl
      rw [wp_bind, wp_resetFilter, afterStep_ok, wp_bind, wp_attempt, made, afterStep_ok, wp_bind,
        wp_get, afterStep_ok]
      dsimp only
      rw [wp_bind]
      apply wp_mono (wp_poseless (poseless_armWrenchLimit _ _) (leavesMemory_armWrenchLimit _ _)
        _ _)
      rintro out robot₁ s₁ ⟨rfl, rfl⟩
      cases out with
      | error e => trivial
      | ok armed =>
          rw [afterStep_ok, wp_bind]
          unfold perfCounter
          rw [wp_op]
          refine ⟨trivial, fun now _ => ?_⟩
          change state.tcpPose = s₁ at stands
          rw [afterStep_ok, wp_bind]
          have climbed := paced.climbedTo liftM v stands
          obtain ⟨setpoint, all, there⟩ := robot'.lift_setpoints s₁ liftM v
          have ticks (run : ChunkRun ℝ) : wp (liftGuard step)
              (cartesianTicks chunk robot'.profile.maxContactWrench now
                ((List.range' 0 (robot'.liftTicks s₁ liftM v)).map setpoint) run)
              (fun _ _ _ => True)
              { robot' with filter := robot'.filter.reset (some state) } s₁ :=
            cartesianTicks_climb caps (one_div_pos.mpr paced.ticking).le chunk now there _ run
              (Nat.zero_add _).le
              (fine.imp_right fun climb => ⟨climb, climbed⟩)
          rw [← all] at ticks
          rw [stands]
          apply wp_mono (guardedTicks_lifts (ticks _))
          intro out robot₂ s₂ _
          cases out with
          | error e => trivial
          | ok run =>
              rw [afterStep_ok]
              apply wp_trackedRead _ (fun _ => trivial)
              intro final _
              exact wp_harmless (poseless_returnResult _ _) _ _

theorem liftStage_lifts (paced : robot.Paced) (caps : robot.profile.PositiveCaps)
    (fine : robot.profile.StopsAlways ∨
      Climb robot.profile (1 / robot.controlHz) step start.pos (robot.liftHeight start liftM v)
        (robot.liftGoal start liftM v) (robot.liftTicks start liftM v)) :
    wp (liftGuard step) (liftStage liftM v) (fun _ _ _ => True) robot start := by
  unfold liftStage
  rw [wp_tryCatch]
  apply wp_trackedRead _ (fun _ => trivial)
  intro state standing
  rw [wp_bind, wp_get, afterStep_ok]
  dsimp only
  rw [standing, wp_bind]
  have executes : wp (liftGuard step) (executeCartesianChunk
      (liftChunk { start.pos with z := robot.liftTop start liftM } liftM v))
      (fun _ _ _ => True) robot start := by
    unfold executeCartesianChunk
    rw [wp_bind]
    apply wp_mono (wp_poseless (steady_checkLease.mono fun _ => Op.IsSteady.poseless)
      leavesMemory_checkLease robot start)
    rintro out robot' s ⟨rfl, rfl⟩
    cases out with
    | error e => trivial
    | ok done =>
        rw [afterStep_ok]
        apply wp_trackedCancel
        intro set
        cases set with
        | true => exact wp_harmless (poseless_abortAtEntry false) _ _
        | false => exact runCartesianChunk_lifts paced caps fine
  apply wp_mono executes
  intro out _ _ _
  cases out <;> trivial

end Stage

/-! ### The first setpoint -/

section First

variable {p : SafetyProfile ℝ} {dt step : ℝ}

theorem limit_forward {E : Type} [NormedAddCommGroup E] [NormedSpace ℝ E] {threshold cap : ℝ}
    (floor : ℝ) (positive : 0 < cap) (below : cap ≤ threshold) (move : E) :
    ∃ t : ℝ, 0 < t ∧ limit threshold cap floor move = t • move := by
  by_cases long : threshold < ‖move‖
  · have length : 0 < ‖move‖ := positive.trans (below.trans_lt long)
    exact ⟨_, div_pos positive (length.trans_le (le_max_left _ _)), limit_of_lt long⟩
  · exact ⟨1, one_pos, by rw [limit_of_le (not_lt.mp long), one_smul]⟩

theorem limitMotion_forward (caps : p.PositiveCaps) (positive : 0 < dt) (ref : Pose ℝ)
    (draft : Draft ℝ) : ∃ t : ℝ, 0 < t ∧
      (limitMotion p dt ref draft).target.pos = partway ref.pos draft.target.pos t := by
  obtain ⟨jump, jumpPos, jumps⟩ := limit_forward (eps : ℝ) caps.poseJumpLinear le_rfl
    (displacement ref draft)
  obtain ⟨speed, speedPos, speeds⟩ := limit_forward (eps : ℝ)
    (mul_pos caps.linearSpeed positive)
    (mul_le_mul_of_nonneg_left (le_max_left dt eps) caps.linearSpeed.le)
    (jump • displacement ref draft)
  refine ⟨speed * jump, mul_pos speedPos jumpPos, Vec3.toE_injective ?_⟩
  have moved := limitMotion_displacement p dt ref draft
  rw [jumps, speeds, smul_smul] at moved
  rw [partway, Vec3.toE_add, Vec3.toE_mul, Vec3.toE_sub]
  exact sub_eq_iff_eq_add'.mp moved

theorem limitLinearAccel_forward (caps : p.PositiveCaps) (positive : 0 < dt) (ref : Pose ℝ)
    (draft : Draft ℝ) : ∃ t : ℝ, 0 < t ∧
      (limitLinearAccel p dt (some 0) ref draft).1.target.pos =
        partway ref.pos draft.target.pos t := by
  have whole : ∃ t : ℝ, 0 < t ∧ draft.target.pos = partway ref.pos draft.target.pos t := by
    refine ⟨1, one_pos, ?_⟩
    apply Vec3.ext
    · simp only [partway, Vec3.add_x, Vec3.sub_x, Vec3.mul_x, mul_one, add_sub_cancel]
    · simp only [partway, Vec3.add_y, Vec3.sub_y, Vec3.mul_y, mul_one, add_sub_cancel]
    · simp only [partway, Vec3.add_z, Vec3.sub_z, Vec3.mul_z, mul_one, add_sub_cancel]
  unfold limitLinearAccel
  dsimp only
  cases capped : p.maxLinearAccel with
  | none => exact whole
  | some a =>
      dsimp only
      split
      · rename_i long
        rw [Option.getD_some, Scalar.greater_real] at long ⊢
        have floor : (0 : ℝ) < max dt eps := lt_of_lt_of_le eps_pos (le_max_right _ _)
        have cap := mul_pos (caps.linearAccel a capped) positive
        have ratio : 0 < a * dt / Scalar.greater
            ((draft.target.pos - ref.pos) / max dt eps - 0).norm eps := by
          rw [Scalar.greater_real]
          exact div_pos cap (lt_of_lt_of_le eps_pos (le_max_right _ _))
        generalize a * dt / Scalar.greater
          ((draft.target.pos - ref.pos) / max dt eps - 0).norm eps = r at ratio ⊢
        refine ⟨r / max dt eps * dt, mul_pos (div_pos ratio floor) positive, ?_⟩
        simp only [Draft.clip]
        apply Vec3.ext
        · simp only [partway, Vec3.add_x, Vec3.sub_x, Vec3.mul_x, Vec3.div_x, Vec3.zero_x]
          ring
        · simp only [partway, Vec3.add_y, Vec3.sub_y, Vec3.mul_y, Vec3.div_y, Vec3.zero_y]
          ring
        · simp only [partway, Vec3.add_z, Vec3.sub_z, Vec3.mul_z, Vec3.div_z, Vec3.zero_z]
          ring
      · exact whole

theorem partway_partway (a b : Vec3 ℝ) (s t : ℝ) :
    partway a (partway a b s) t = partway a b (t * s) := by
  apply Vec3.ext
  · simp only [partway, Vec3.add_x, Vec3.sub_x, Vec3.mul_x]
    ring
  · simp only [partway, Vec3.add_y, Vec3.sub_y, Vec3.mul_y]
    ring
  · simp only [partway, Vec3.add_z, Vec3.sub_z, Vec3.mul_z]
    ring

theorem filterCartesian_first (caps : p.PositiveCaps) (positive : 0 < dt)
    (clips : p.workspaceAction = .clip) {f : SafetyFilter ℝ} {ref : Pose ℝ} (profile : f.p = p)
    (timed : f.dt = dt) (at_ref : f.prevPose = some ref) (rests : f.prevLinVel = some 0)
    (target : Pose ℝ) {state : RobotState ℝ} {cap : Option (Wrench ℝ)}
    (light : exceeds state.wrench (cap.getD f.p.maxContactWrench) = false) :
    ∃ pose clipped reasons f' goal t, f.filterCartesian target state cap =
        ({ ok := true, pose := some pose, clipped := clipped, clipReasons := reasons }, f') ∧
      BoxedTo p target.pos goal ∧ 0 < t ∧ pose.pos = partway ref.pos goal t := by
  subst profile timed
  obtain ⟨draft, found, lets⟩ := limitWorkspace_boxed clips target
  have passed := SafetyFilter.filterCartesian_of_limited light found
  dsimp only at passed
  rw [at_ref, Option.getD_some, rests] at passed
  obtain ⟨s, sPos, limited⟩ := limitMotion_forward caps positive ref draft
  obtain ⟨t, tPos, slowed⟩ :=
    limitLinearAccel_forward caps positive ref (limitMotion f.p f.dt ref draft)
  rw [limited, partway_partway] at slowed
  exact ⟨_, _, _, _, _, _, passed, lets, mul_pos tPos sPos, slowed⟩

theorem Rises.of_partway {a goal : Vec3 ℝ} {t : ℝ} (rises : Rises step a (partway a goal t))
    (positive : 0 < t) : goal.x = a.x ∧ goal.y = a.y ∧ a.z ≤ goal.z := by
  have unmoved {c d : ℝ} (stays : c + (d - c) * t = c) : d = c := by
    have none : (d - c) * t = 0 := by linarith
    exact sub_eq_zero.mp ((mul_eq_zero.mp none).resolve_right positive.ne')
  refine ⟨unmoved rises.x, unmoved rises.y, ?_⟩
  have up : a.z ≤ a.z + (goal.z - a.z) * t := rises.up
  have climbs : 0 ≤ (goal.z - a.z) * t := by linarith
  exact sub_nonneg.mp (nonneg_of_mul_nonneg_left climbs positive)

end First

section Shown

variable {step : ℝ} {α : Type} {robot : Robot ℝ} {start : Pose ℝ} {liftM v : ℝ}

noncomputable def unloadedAt (pose : Pose ℝ) : RobotState ℝ where
  stamp := 0
  tcpPose := pose
  controlMode := .nrtCartesianMotionForce

theorem unloadedAt_light {p : SafetyProfile ℝ} (light : ¬ p.StopsAlways) (pose : Pose ℝ) :
    exceeds (unloadedAt pose).wrench p.maxContactWrench = false := by
  rw [Bool.eq_false_iff, ne_eq, exceeds_real]
  rintro ⟨axis, heavy⟩
  change p.maxContactWrench axis < |0| at heavy
  rw [abs_zero] at heavy
  exact light ⟨axis, heavy⟩

theorem wp_shownRead {f : RobotState ℝ → RobotM ℝ α}
    {post : Except Exc α → Robot ℝ → Pose ℝ → Prop}
    (kept : wp (liftGuard step) (do let state ← getState; f state) post robot start) :
    wp (liftGuard step) (f (unloadedAt start)) post robot start := by
  unfold getState at kept
  simp only [wp_bind, wp_readState] at kept
  exact (kept.2 (.ok (unloadedAt start)) rfl).2 () trivial

theorem wp_shownCheck {f : Bool → RobotM ℝ α} {post : Except Exc α → Robot ℝ → Pose ℝ → Prop}
    (kept : wp (liftGuard step) (do let faulted ← inFault; f faulted) post robot start) :
    wp (liftGuard step) (f false) post robot start := by
  rw [wp_bind, wp_inFault] at kept
  exact kept.2 (.ok false) trivial

theorem wp_shownCancel (site : CancelSite) {f : Bool → RobotM ℝ α}
    {post : Except Exc α → Robot ℝ → Pose ℝ → Prop}
    (kept : wp (liftGuard step) (do let set ← cancelIsSet site; f set) post robot start) :
    wp (liftGuard step) (f false) post robot start := by
  unfold cancelIsSet at kept
  rw [wp_bind, wp_op] at kept
  exact kept.2 false trivial

theorem cartesianTick_shows {chunk : CartesianChunk ℝ} {cap : Wrench ℝ} {t0 : ℝ}
    {sp : CartesianSetpoint ℝ} {run : ChunkRun ℝ} {pose : Pose ℝ} {clipped : Bool}
    {reasons : List StopReason} {f' : SafetyFilter ℝ}
    {post : Except Exc (ChunkRun ℝ × Bool) → Robot ℝ → Pose ℝ → Prop}
    (light : exceeds (unloadedAt start).wrench cap = false)
    (passed : robot.filter.filterCartesian sp.pose (unloadedAt start) (some cap) =
      ({ ok := true, pose := some pose, clipped := clipped, clipReasons := reasons }, f'))
    (kept : wp (liftGuard step) (cartesianTick chunk cap t0 sp run) post robot start) :
    Rises step start.pos pose.pos := by
  unfold cartesianTick at kept
  dsimp only at kept
  have uncancelled := wp_shownCancel _ kept
  change wp _ (do let state ← getState; _) _ _ _ at uncancelled
  have healthy := wp_shownCheck (wp_shownRead uncancelled)
  change wp _ (if exceeds (unloadedAt start).wrench cap = true then _ else _) _ _ _ at healthy
  rw [if_neg (by rw [light]; exact Bool.false_ne_true), wp_bind, wp_filterCartesian, afterStep_ok,
    passed] at healthy
  dsimp only at healthy
  rw [wp_bind, wp_backend] at healthy
  exact healthy.1

noncomputable def Robot.restingFilter (robot : Robot ℝ) (start : Pose ℝ) : SafetyFilter ℝ :=
  robot.filter.reset (some (unloadedAt start))

theorem liftStage_shows (light : ¬ robot.profile.StopsAlways)
    (kept : wp (liftGuard step) (liftStage liftM v) (fun _ _ _ => True) robot start) :
    ∃ target : Pose ℝ, target.pos = robot.liftPoint start liftM v 1 ∧
      ∀ pose clipped reasons f', (robot.restingFilter start).filterCartesian target
          (unloadedAt start) (some robot.profile.maxContactWrench) =
        ({ ok := true, pose := some pose, clipped := clipped, clipReasons := reasons }, f') →
          Rises step start.pos pose.pos := by
  let chunk := liftChunk { start.pos with z := robot.liftTop start liftM } liftM v
  let resting : Robot ℝ := { robot with filter := robot.restingFilter start }
  unfold liftStage at kept
  rw [wp_tryCatch] at kept
  have begun := wp_shownRead kept
  rw [wp_bind, wp_get, afterStep_ok] at begun
  dsimp only at begun
  change wp _ (do let result ← executeCartesianChunk chunk; _) _ _ _ at begun
  rw [wp_bind] at begun
  have made : chunk.forExecution (unloadedAt start).tcpPose = .ok chunk := rfl
  have opens : Trace (executeCartesianChunk chunk false false robot) (cartesianOpening
      (unloadedAt start)) _ := executeCartesianChunk_opens made (Or.inl rfl) rfl rfl
  have admitted : (liftGuard step).Admitted start (cartesianOpening (unloadedAt start)) :=
    ⟨trivial, trivial, rfl, trivial, trivial, trivial⟩
  have opened := (Program.wp_sound begun opens admitted).2
  obtain ⟨setpoint, all, there⟩ := robot.lift_setpoints start liftM v
  obtain ⟨n, counted⟩ : ∃ n, robot.liftTicks start liftM v = n + 1 :=
    ⟨_, (Nat.succ_pred_eq_of_pos robot.liftTicks_pos).symm⟩
  have first := there 0 robot.liftTicks_pos
  rw [counted, List.range'_succ, List.map_cons] at all
  have unloaded : exceeds (unloadedAt start).wrench
      (effectiveWrenchCap robot.profile chunk) = false := unloadedAt_light light start
  change wp (liftGuard step) (do
    let run ← guardedTicks chunk (effectiveWrenchCap robot.profile chunk) false 0
      (robot.liftInterpolator start liftM v).setpoints _
    _) _ resting start at opened
  rw [wp_bind] at opened
  unfold guardedTicks at opened
  rw [wp_bind, wp_tryCatch, wp_bind, all] at opened
  unfold cartesianTicks at opened
  rw [wp_bind] at opened
  refine ⟨(setpoint 0).pose, first, ?_⟩
  intro pose clipped reasons f' passed
  exact cartesianTick_shows unloaded passed opened

theorem liftStage_boxes (paced : robot.Paced) (caps : robot.profile.PositiveCaps)
    (clips : robot.profile.workspaceAction = .clip) (light : ¬ robot.profile.StopsAlways)
    (kept : wp (liftGuard step) (liftStage liftM v) (fun _ _ _ => True) robot start) :
    ∃ goal, BoxedTo robot.profile (robot.liftPoint start liftM v 1) goal ∧
      goal.x = start.pos.x ∧ goal.y = start.pos.y ∧ start.pos.z ≤ goal.z := by
  obtain ⟨target, there, shows⟩ := liftStage_shows light kept
  have under : exceeds (unloadedAt start).wrench ((some robot.profile.maxContactWrench).getD
      (robot.restingFilter start).p.maxContactWrench) = false := unloadedAt_light light start
  obtain ⟨pose, clipped, reasons, f', goal, t, passed, boxed, positive, place⟩ :=
    filterCartesian_first caps (one_div_pos.mpr paced.ticking) clips
      ((robot.filter.reset_p _ _ _).trans paced.profile)
      ((robot.filter.reset_dt _ _ _).trans paced.step) rfl rfl target under
  have rises := shows pose clipped reasons f' passed
  rw [there] at boxed
  rw [place] at rises
  exact ⟨goal, boxed, rises.of_partway positive⟩

/-- Of a straight lift whose first setpoint the box raises, the first step is as the limits have
it. -/
theorem liftStage_reaches (paced : robot.Paced) (clips : robot.profile.workspaceAction = .clip)
    (light : ¬ robot.profile.StopsAlways) (gentle : robot.LiftGentle start liftM v)
    (refused : ¬ robot.profile.accepts (robot.liftPoint start liftM v 1))
    (raised : robot.LiftRaised start)
    (kept : wp (liftGuard step) (liftStage liftM v) (fun _ _ _ => True) robot start) :
    robot.profile.reach (1 / robot.controlHz) (robot.liftGoal start liftM v 1 - start.pos.z) ≤
      step := by
  obtain ⟨target, there, shows⟩ := liftStage_shows light kept
  have boxed : BoxedTo robot.profile target.pos
      (atHeight start.pos (robot.liftGoal start liftM v (0 + 1))) := by
    rw [there]
    refine Or.inr ⟨refused, ?_⟩
    apply Vec3.ext
    · exact raised.x.symm
    · exact raised.y.symm
    · exact Robot.liftGoal_refused refused
  have climbed : ClimbedTo robot.profile (1 / robot.controlHz) start.pos
      (robot.liftGoal start liftM v) 0 (robot.restingFilter start) start :=
    paced.climbedTo liftM v rfl
  have under : exceeds (unloadedAt start).wrench ((some robot.profile.maxContactWrench).getD
      (robot.restingFilter start).p.maxContactWrench) = false := unloadedAt_light light start
  obtain ⟨pose, clipped, reasons, f', passed, further⟩ :=
    filterCartesian_chases clips gentle robot.liftTicks_pos climbed boxed under
  have near := (shows pose clipped reasons f' passed).near
  rw [further.place] at near
  change (atHeight start.pos _ - atHeight start.pos start.pos.z).norm ≤ step at near
  rw [norm_atHeight_sub] at near
  have short := (le_abs_self _).trans near
  have begins : robot.profile.chase (1 / robot.controlHz) (robot.liftGoal start liftM v) 0 =
      start.pos.z := Robot.liftGoal_zero
  rwa [← begins, chase_gap, begins] at short

theorem Robot.first_above (nonneg : 0 ≤ liftM)
    (up : start.pos.z ≤ robot.liftHeight start liftM v 1) : start.pos.z ≤ robot.profile.wsZ.2 := by
  have ticks : (0 : ℝ) < robot.liftTicks start liftM v := Nat.cast_pos.mpr robot.liftTicks_pos
  have one : ((1 : ℕ) : ℝ) ≤ robot.liftTicks start liftM v := by
    exact_mod_cast robot.liftTicks_pos
  have share : 0 < ease ((1 : ℕ) / robot.liftTicks start liftM v) :=
    ease_pos (div_pos (by norm_num) ticks) ((div_le_one ticks).mpr one)
  unfold liftHeight along at up
  rw [le_add_iff_nonneg_right, smul_eq_mul] at up
  exact (robot.liftTop_above nonneg).mp
    (sub_nonneg.mp (nonneg_of_mul_nonneg_right up share))

/-- A setpoint that the box moves straight up is one it only raises. -/
theorem BoxedTo.clear (nonneg : 0 ≤ liftM) {goal : Vec3 ℝ}
    (boxed : BoxedTo robot.profile (robot.liftPoint start liftM v 1) goal)
    (x : goal.x = start.pos.x) (y : goal.y = start.pos.y) (up : start.pos.z ≤ goal.z) :
    start.pos.z ≤ robot.profile.wsZ.2 ∧
      (robot.profile.accepts (robot.liftPoint start liftM v 1) ∨ robot.LiftRaised start) := by
  rcases boxed with ⟨accepted, same⟩ | ⟨_, clipped⟩
  · rw [same] at up
    exact ⟨Robot.first_above nonneg up, Or.inl accepted⟩
  · rw [clipped] at x y up
    refine ⟨up.trans ?_, Or.inr ⟨x, y⟩⟩
    change Scalar.clip _ _ _ ≤ _
    rw [Scalar.clip_real]
    exact min_le_right _ _

theorem lt_limit {cap floor gap : ℝ} (above : floor ≤ step) (capped : step < cap)
    (far : step < gap) (floored : 0 < floor) : step < limit cap cap floor gap := by
  have length : ‖gap‖ = gap := Real.norm_of_nonneg (by linarith)
  by_cases long : cap < ‖gap‖
  · rw [limit_of_lt long, length, max_eq_left (by linarith), smul_eq_mul,
      div_mul_cancel₀ cap (by linarith : gap ≠ 0)]
    exact capped
  · rw [limit_of_le (not_lt.mp long)]
    exact far

theorem Robot.liftSlow_of_reach (fine : eps ≤ 1 / robot.controlHz)
    (fast : eps ≤ v / robot.controlHz)
    (short : robot.profile.reach (1 / robot.controlHz)
      (robot.liftGoal start liftM v 1 - start.pos.z) ≤ v / robot.controlHz) :
    robot.LiftSlow start liftM v := by
  by_contra slow
  obtain ⟨far, others⟩ := not_or.mp slow
  obtain ⟨jump, speed⟩ := not_or.mp others
  rw [max_eq_left fine, not_le] at speed
  have jumped := lt_limit fast (not_le.mp jump) (not_le.mp far) eps_pos
  have sped := lt_limit fast speed jumped eps_pos
  unfold SafetyProfile.reach at short
  rw [max_eq_left fine] at short
  exact absurd short (not_le.mpr sped)

end Shown

/-! ### When the lift goes straight up -/

/-- The lift goes straight up at the speed asked for from no higher than the box's top, where the
box leaves its setpoints alone or slowly raises them from under the floor, and no limiter of the
acceleration bites, or where a contact cap below nought stops every tick. It is sideways, down or
too fast elsewhere, but where a setpoint grazes the floor from below or that limiter bites. -/
theorem lift_straight_iff (robot : Robot ℝ) (paced : robot.Paced)
    (caps : robot.profile.PositiveCaps) (clips : robot.profile.workspaceAction = .clip)
    (start : Pose ℝ) (liftM v : ℝ) (nonneg : 0 ≤ liftM) (positive : 0 < v) :
    (robot.profile.StopsAlways ∨
        (robot.LiftClear start liftM v ∧ robot.LiftGentle start liftM v) →
      robot.LiftsStraight start liftM v) ∧
    (robot.LiftsStraight start liftM v → robot.profile.StopsAlways ∨
      (start.pos.z ≤ robot.profile.wsZ.2 ∧
        (robot.profile.accepts (robot.liftPoint start liftM v 1) ∨ robot.LiftRaised start))) ∧
    (robot.LiftsStraight start liftM v → robot.LiftGentle start liftM v →
      robot.LiftSettled start liftM v → eps ≤ 1 / robot.controlHz → eps ≤ v / robot.controlHz →
        robot.profile.StopsAlways ∨ robot.LiftClear start liftM v) := by
  have shown (straight : robot.LiftsStraight start liftM v) :
      wp (liftGuard (v / robot.controlHz)) (liftStage liftM v) (fun _ _ _ => True) robot start :=
    Program.wp_of_allowed (liftGuard_answers _) straight
  have bounded (straight : robot.LiftsStraight start liftM v)
      (light : ¬ robot.profile.StopsAlways) : start.pos.z ≤ robot.profile.wsZ.2 ∧
        (robot.profile.accepts (robot.liftPoint start liftM v 1) ∨ robot.LiftRaised start) := by
    obtain ⟨goal, boxed, x, y, up⟩ := liftStage_boxes paced caps clips light (shown straight)
    exact boxed.clear nonneg x y up
  refine ⟨?_, ?_, ?_⟩
  · intro clear calls left ran admitted
    have fine := clear.imp_right fun both =>
      both.1.climb paced caps clips nonneg positive both.2
    exact Program.wp_allowed (liftStage_lifts paced caps fine) ran admitted
  · intro straight
    by_cases light : robot.profile.StopsAlways
    · exact Or.inl light
    · exact Or.inr (bounded straight light)
  · intro straight gentle settled fine fast
    by_cases light : robot.profile.StopsAlways
    · exact Or.inl light
    · obtain ⟨below, boxed⟩ := bounded straight light
      refine Or.inr ⟨below, ?_⟩
      by_cases accepted : robot.profile.accepts (robot.liftPoint start liftM v 1)
      · exact Or.inl accepted
      · have raised := boxed.resolve_left accepted
        have short := liftStage_reaches paced clips light gentle accepted raised (shown straight)
        exact Or.inr ⟨raised, Robot.liftSlow_of_reach fine fast short, settled⟩

theorem tabletop_light : ¬ tabletopRobot.profile.StopsAlways := by
  rintro ⟨axis, negative⟩
  fin_cases axis <;> norm_num [tabletopRobot, Robot.init, tabletop] at negative

noncomputable def hesitantRobot : Robot ℝ :=
  .init {} { tabletop with maxPoseJumpLinear := 1 / 2000, maxLinearAccel := some 10 } (some 100)

theorem hesitantRobot_paced : hesitantRobot.Paced := Robot.init_paced {} _ (by norm_num)

theorem hesitantRobot_caps : hesitantRobot.profile.PositiveCaps where
  linearSpeed := tabletop_positiveCaps.linearSpeed
  angularSpeed := tabletop_positiveCaps.angularSpeed
  poseJumpLinear := by norm_num [hesitantRobot, Robot.init]
  poseJumpAngular := tabletop_positiveCaps.poseJumpAngular
  jointSpeed := tabletop_positiveCaps.jointSpeed
  linearAccel := by
    intro a capped
    cases capped
    norm_num

/-- Where the acceleration cap has room for a whole jump nothing of a rising chase is touched. -/
theorem gentle_of_jump {p : SafetyProfile ℝ} {dt : ℝ} {goal : ℕ → ℝ} {n : ℕ}
    (caps : p.PositiveCaps) (nonneg : 0 ≤ dt) (rising : ∀ k < n, goal k ≤ goal (k + 1))
    (room : ∀ a, p.maxLinearAccel = some a → p.maxPoseJumpLinear ≤ a * dt * max dt eps) :
    p.Gentle dt goal n := by
  intro a capped k inside
  have stepped (k : ℕ) (inside : k < n) : 0 ≤ p.chase dt goal (k + 1) - p.chase dt goal k ∧
      p.chase dt goal (k + 1) - p.chase dt goal k ≤ p.maxPoseJumpLinear := by
    have ahead := (chase_behind caps nonneg rising inside.le).trans (rising k inside)
    rw [chase_gap]
    exact ⟨(reach_between caps nonneg (sub_nonneg.mpr ahead)).1, (reach_le caps nonneg _).1⟩
  obtain ⟨up, short⟩ := stepped k inside
  apply le_trans _ (room a capped)
  cases k with
  | zero =>
      rw [Nat.zero_sub, sub_self, sub_zero, abs_of_nonneg up]
      exact short
  | succ k =>
      obtain ⟨up', short'⟩ := stepped k (Nat.lt_of_succ_lt inside)
      rw [Nat.add_sub_cancel, abs_le]
      constructor
      · linarith
      · linarith

/-- By ten centimetres from over the table, behind its setpoints. -/
theorem lift_straight_iff_overTable :
    hesitantRobot.LiftsStraight overTable (1 / 10) (1 / 10) := by
  have below : overTable.pos.z ≤ hesitantRobot.profile.wsZ.2 :=
    (overTable_contains (p := hesitantRobot.profile) rfl rfl rfl .z).2
  have rises : hesitantRobot.liftHeight overTable (1 / 10) (1 / 10) 0 ≤
      hesitantRobot.liftHeight overTable (1 / 10) (1 / 10) 1 :=
    Robot.liftHeight_rises (by norm_num) below Robot.liftTicks_pos
  rw [Robot.liftHeight_zero] at rises
  have stands : hesitantRobot.profile.accepts (atHeight overTable.pos overTable.pos.z) :=
    accepts_of_contains (overTable_contains rfl rfl rfl)
  have accepted : hesitantRobot.profile.accepts
      (hesitantRobot.liftPoint overTable (1 / 10) (1 / 10) 1) :=
    accepts_atHeight stands rises
      (Robot.liftHeight_between (by norm_num) below Robot.liftTicks_pos).2
  have clear : hesitantRobot.LiftClear overTable (1 / 10) (1 / 10) := ⟨below, Or.inl accepted⟩
  have rate : hesitantRobot.controlHz = 100 :=
    if_pos (Or.inl (by norm_num : (0 : ℝ) < 100))
  have gentle : hesitantRobot.LiftGentle overTable (1 / 10) (1 / 10) := by
    apply gentle_of_jump hesitantRobot_caps (one_div_pos.mpr hesitantRobot_paced.ticking).le
      fun k inside => (clear.goals (by norm_num) inside).1
    intro a capped
    cases capped
    rw [rate, max_eq_left (by rw [eps_real]; norm_num)]
    norm_num [hesitantRobot, Robot.init]
  exact (lift_straight_iff hesitantRobot hesitantRobot_paced hesitantRobot_caps rfl overTable
    (1 / 10) (1 / 10) (by norm_num) (by norm_num)).1 (Or.inr ⟨clear, gentle⟩)

noncomputable def beyondTable : Pose ℝ := ⟨⟨8 / 10, 0, 3 / 10⟩, 1⟩

/-- The first setpoint of the lift pulls the arm back over the table. -/
theorem lift_sideways : tabletopRobot.Paced ∧ tabletopRobot.profile.PositiveCaps ∧
    tabletopRobot.profile.workspaceAction = .clip ∧
    ¬ tabletopRobot.LiftsStraight beyondTable (1 / 10) (1 / 10) := by
  refine ⟨tabletopRobot_paced, tabletop_positiveCaps, rfl, ?_⟩
  intro straight
  have kept : wp (liftGuard (1 / 10 / tabletopRobot.controlHz)) (liftStage (1 / 10) (1 / 10))
      (fun _ _ _ => True) tabletopRobot beyondTable :=
    Program.wp_of_allowed (liftGuard_answers _) straight
  obtain ⟨goal, boxed, x, _⟩ := liftStage_boxes tabletopRobot_paced tabletop_positiveCaps rfl
    tabletop_light kept
  rcases boxed with ⟨accepted, _⟩ | ⟨_, clipped⟩
  · rw [accepts_iff_axes] at accepted
    have far := accepted .x
    norm_num [Accepts, excess, clip, SafetyProfile.interval, axisValue, Robot.liftPoint, atHeight,
      beyondTable, tabletopRobot, Robot.init, tabletop, abs_le] at far
  · rw [clipped] at x
    norm_num [SafetyProfile.clipPosition, Robot.liftPoint, atHeight, beyondTable, tabletopRobot,
      Robot.init, tabletop] at x

end FlexivControl
