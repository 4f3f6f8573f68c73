/-
The preflight of a chunk beside the run it foretells.

The preflight reads the waypoints as they are written. The run places them on the start pose,
turns from the start orientation, and counts whole ticks, for waypoints timed by frames too.
Where the two readings are the same a clean preflight binds the run; elsewhere the box and
the speeds have to be asked for.
-/

import FlexivControl.Filter.RigidMotion
import FlexivControl.Robot.Preview

namespace FlexivControl

open Ease Tolerance

section Reading

variable {K : Type} [Scalar K]

def SafetyProfile.LetsPass (p : SafetyProfile K) (target : Pose K) : Prop :=
  ∀ (f : SafetyFilter K) (state : RobotState K) (cap : Option (Wrench K)), f.p = p →
    (f.filterCartesian target state cap).1.reason ≠ .workspace ∧
      .workspace ∉ (f.filterCartesian target state cap).1.clipReasons

def ChunkMove.nominalTicks (move : ChunkMove K) (controlHz : K) : Int :=
  requestedTicks (move.wp.resolveDuration controlHz) controlHz

/-- No setpoint of the run is stopped or clipped for the workspace, and no segment after the
first takes more than its nominal ticks. -/
structure RunsUndisturbed (chunk : CartesianChunk K) (startPose : Pose K)
    (profile : SafetyProfile K) (controlHz : K) : Prop where
  inWorkspace : ∀ stream, executedStream chunk startPose profile controlHz = .ok stream →
    ∀ sp ∈ stream, profile.LetsPass sp.pose
  unstretched : ∀ resolved, chunk.forExecution startPose = .ok resolved →
    ∀ move ∈ (movesFrom startPose.pos startPose.quat resolved.waypoints).tail,
      (move.ticks (executorInterpolator resolved startPose profile controlHz) : Int) ≤
        move.nominalTicks controlHz

/-- The waypoints a run reaches. -/
def CartesianChunk.executed (chunk : CartesianChunk K) : List (CartesianWaypoint K) :=
  chunk.waypoints.take chunk.horizonExec

def heldAfter (held : Quat K) (waypoints : List (CartesianWaypoint K)) : Quat K :=
  waypoints.foldl (fun held wp => wp.quaternion.getD held) held

def givenAfter (given : Option (Quat K)) (waypoints : List (CartesianWaypoint K)) :
    Option (Quat K) :=
  waypoints.foldl (fun given wp => wp.quaternion <|> given) given

end Reading

/-- The preflight tests the way to this waypoint, for a time that ticks do not shorten. -/
def CartesianWaypoint.TimeTested (wp : CartesianWaypoint ℝ) (controlHz : ℝ) : Prop :=
  ∃ duration, wp.duration = some duration ∧ 0 < duration ∧
    duration * controlHz ≤ requestedTicks duration controlHz

def CartesianWaypoint.FitsIn (wp : CartesianWaypoint ℝ) (controlHz cap distance : ℝ) : Prop :=
  blendPeak * distance ≤
    cap * (requestedTicks (wp.resolveDuration controlHz) controlHz / controlHz)

namespace CartesianChunk

variable (chunk : CartesianChunk ℝ) (start : Pose ℝ)

noncomputable def orientationAfter (i : ℕ) : Quat ℝ :=
  match chunk.representation with
  | .absolute => heldAfter start.quat (chunk.executed.take (i + 1))
  | .relativeToStart => resolvedQuat start.quat (chunk.executed[i]?.bind (·.quaternion))

/-- The preflight compares the orientations of waypoints `i` and `i + 1` as the run has them:
an absolute one has been given before, or relative ones are given at both. -/
def TurnTested (i : ℕ) : Prop :=
  match chunk.representation with
  | .absolute => ∃ wp ∈ chunk.executed.take (i + 1), wp.quaternion ≠ none
  | .relativeToStart => start.quat.norm = 1 ∧ ∃ before after a b,
      chunk.executed[i]? = some before ∧ before.quaternion = some a ∧ a.norm = 1 ∧
      chunk.executed[i + 1]? = some after ∧ after.quaternion = some b ∧ b.norm = 1

/-- What a preflight does not see: placed positions, and ways it does not test. -/
structure Foreseen (profile : SafetyProfile ℝ) (controlHz : ℝ) : Prop where
  inBox : chunk.representation = .relativeToStart →
    ∀ wp ∈ chunk.executed, profile.accepts (start.place wp.position)
  movesInTime : ∀ i before after, chunk.executed[i]? = some before →
    chunk.executed[i + 1]? = some after → ¬ after.TimeTested controlHz →
      after.FitsIn controlHz (tightenedCap profile.maxLinearSpeed chunk.maxTcpLinearSpeed)
        (after.position - before.position).norm
  turnsInTime : ∀ i after, chunk.executed[i + 1]? = some after →
    ¬ (after.TimeTested controlHz ∧ chunk.TurnTested start i) →
      after.FitsIn controlHz (tightenedCap profile.maxAngularSpeed chunk.maxTcpAngularSpeed)
        (quatAngle (chunk.orientationAfter start i) (chunk.orientationAfter start (i + 1)))

end CartesianChunk

theorem clips_keep {p : SafetyProfile ℝ} {dt : ℝ} {ref : Pose ℝ} {draft : Draft ℝ}
    {prevLinVel : Option (Vec3 ℝ)} :
    .workspace ∈ (limitLinearAccel p dt prevLinVel ref (limitMotion p dt ref draft)).1.reasons ↔
      .workspace ∈ draft.reasons := by
  have jump (d : Draft ℝ) : .workspace ∈ (limitLinearJump p ref d).reasons ↔
      .workspace ∈ d.reasons := by
    unfold limitLinearJump
    dsimp only
    split
    · simp [Draft.clip]
    · exact Iff.rfl
  have angularJump (d : Draft ℝ) : .workspace ∈ (limitAngularJump p ref d).reasons ↔
      .workspace ∈ d.reasons := by
    unfold limitAngularJump
    dsimp only
    split
    · simp [Draft.clip]
    · exact Iff.rfl
  have speed (d : Draft ℝ) : .workspace ∈ (limitLinearSpeed p dt ref d).reasons ↔
      .workspace ∈ d.reasons := by
    unfold limitLinearSpeed
    dsimp only
    split
    · simp [Draft.clip]
    · exact Iff.rfl
  have angularSpeed (d : Draft ℝ) : .workspace ∈ (limitAngularSpeed p dt ref d).reasons ↔
      .workspace ∈ d.reasons := by
    unfold limitAngularSpeed
    dsimp only
    split
    · simp [Draft.clip]
    · exact Iff.rfl
  have accel (d : Draft ℝ) : .workspace ∈ (limitLinearAccel p dt prevLinVel ref d).1.reasons ↔
      .workspace ∈ d.reasons := by
    unfold limitLinearAccel
    dsimp only
    split
    · exact Iff.rfl
    · split
      · simp [Draft.clip]
      · exact Iff.rfl
  unfold limitMotion
  rw [accel, angularSpeed, speed, angularJump, jump]

/-- The workspace stage is passed exactly by the positions the filter accepts. -/
theorem letsPass_iff (p : SafetyProfile ℝ) (target : Pose ℝ) :
    p.LetsPass target ↔ p.accepts target.pos := by
  constructor
  · intro passes
    by_contra refused
    have light : exceeds (raiseCall.state.wrench)
        ((some (0 : Wrench ℝ)).getD (SafetyFilter.init p 1).p.maxContactWrench) = false := by
      rw [Bool.eq_false_iff, ne_eq, exceeds_real]
      rintro ⟨axis, heavy⟩
      change (0 : ℝ) < |0| at heavy
      rw [abs_zero] at heavy
      exact lt_irrefl _ heavy
    obtain ⟨unstopped, unclipped⟩ :=
      passes (SafetyFilter.init p 1) raiseCall.state (some 0) rfl
    have apart : ¬ (allclosePosition (p.clipPosition target.pos) target.pos = true) := refused
    cases mode : p.workspaceAction with
    | reject =>
        have found : limitWorkspace (SafetyFilter.init p 1).p
            { target := target, clipped := false, reasons := [] } = none := by
          change limitWorkspace p { target := target, clipped := false, reasons := [] } = none
          unfold limitWorkspace
          dsimp only
          rw [if_neg apart, mode]
        have stopped : ((SafetyFilter.init p 1).filterCartesian target raiseCall.state
            (some 0)).1.reason = .workspace := by
          unfold SafetyFilter.filterCartesian
          simp only [light, found, Bool.false_eq_true, if_false]
        exact unstopped stopped
    | clip =>
        have found : limitWorkspace p { target := target, clipped := false, reasons := [] } =
            some ({ target := target, clipped := false, reasons := [] : Draft ℝ }.clip .workspace
              { target with pos := p.clipPosition target.pos }) := by
          unfold limitWorkspace
          dsimp only
          rw [if_neg apart, mode]
        have passed := SafetyFilter.filterCartesian_of_limited light found
        dsimp only at passed
        rw [passed] at unclipped
        exact unclipped (clips_keep.mpr (by simp [Draft.clip]))
  · rintro accepted f state cap rfl
    by_cases heavy : exceeds state.wrench (cap.getD f.p.maxContactWrench) = true
    · rw [SafetyFilter.filterCartesian_of_heavy heavy]
      exact ⟨StopReason.noConfusion, List.not_mem_nil⟩
    · have light := Bool.eq_false_iff.mpr heavy
      have found : limitWorkspace f.p { target := target, clipped := false, reasons := [] } =
          some { target := target, clipped := false, reasons := [] } := by
        unfold limitWorkspace
        exact if_pos accepted
      have passed := SafetyFilter.filterCartesian_of_limited light found
      dsimp only at passed
      rw [passed]
      exact ⟨StopReason.noConfusion, fun clipped => List.not_mem_nil (clips_keep.mp clipped)⟩

theorem segment_accepted_iff {p : SafetyProfile ℝ} {prevPos tgtPos : Vec3 ℝ} {a b : Quat ℝ}
    {gripper : Option (GripperCommand ℝ)} {segIdx n : ℕ} (several : 0 < n)
    (left : p.accepts prevPos) :
    (∀ sp ∈ CartesianChunkInterpolator.segment prevPos tgtPos a b gripper segIdx n,
      p.accepts sp.pose.pos) ↔ p.accepts tgtPos := by
  unfold CartesianChunkInterpolator.segment
  constructor
  · intro accepted
    have last := accepted _ (List.mem_map.mpr ⟨n - 1, List.mem_range.mpr (by omega), rfl⟩)
    have whole : ((n - 1 + 1 : ℕ) : ℝ) / n = 1 := by
      rw [Nat.sub_add_cancel several]
      exact div_self (Nat.cast_ne_zero.mpr (by omega))
    dsimp only at last
    rw [cosineBlend_tick (by omega), whole, ease_one] at last
    have arrived : prevPos + (tgtPos - prevPos) * (1 : ℝ) = tgtPos := by
      ext
      · simp only [Vec3.add_x, Vec3.mul_x, Vec3.sub_x, mul_one, add_sub_cancel]
      · simp only [Vec3.add_y, Vec3.mul_y, Vec3.sub_y, mul_one, add_sub_cancel]
      · simp only [Vec3.add_z, Vec3.mul_z, Vec3.sub_z, mul_one, add_sub_cancel]
    rw [arrived] at last
    exact last
  · intro right sp member
    obtain ⟨k, inside, rfl⟩ := List.mem_map.mp member
    dsimp only
    rw [cosineBlend_tick (List.mem_range.mp inside)]
    exact accepts_partway (ease_nonneg _) (ease_le_one _) left right

theorem stream_accepted_iff {p : SafetyProfile ℝ} (interp : CartesianChunkInterpolator ℝ)
    (waypoints : List (CartesianWaypoint ℝ)) (prevPos : Vec3 ℝ) (prevQuat : Quat ℝ) (segIdx : ℕ)
    (left : p.accepts prevPos) :
    (∀ sp ∈ interp.setpointsFrom prevPos prevQuat segIdx waypoints, p.accepts sp.pose.pos) ↔
      ∀ wp ∈ waypoints, p.accepts wp.position := by
  induction waypoints generalizing prevPos prevQuat segIdx with
  | nil =>
      constructor
      · intro _ wp none
        cases none
      · intro _ sp none
        cases none
  | cons wp rest ih =>
      have several := interp.segmentTicks_some prevPos wp.position prevQuat
        (wp.quaternion.getD prevQuat) wp
      have first := @segment_accepted_iff p prevPos wp.position prevQuat
        (wp.quaternion.getD prevQuat) wp.gripper segIdx _ several left
      unfold CartesianChunkInterpolator.setpointsFrom
      dsimp only
      rw [List.forall_mem_append, List.forall_mem_cons, first]
      constructor
      · rintro ⟨reached, later⟩
        exact ⟨reached, (ih _ _ _ reached).mp later⟩
      · rintro ⟨reached, later⟩
        exact ⟨reached, (ih _ _ _ reached).mpr later⟩

theorem accepts_of_boxed {p : SafetyProfile ℝ} {pos : Vec3 ℝ} (boxed : p.outsideBox pos = false) :
    p.accepts pos := by
  simp only [SafetyProfile.outsideBox, Bool.or_eq_false_iff, decide_eq_false_iff_not,
    not_lt] at boxed
  obtain ⟨⟨⟨lowX, lowY⟩, lowZ⟩, ⟨highX, highY⟩, highZ⟩ := boxed
  apply accepts_of_contains
  intro axis
  cases axis with
  | x => exact ⟨lowX, highX⟩
  | y => exact ⟨lowY, highY⟩
  | z => exact ⟨lowZ, highZ⟩

/-! ### What a clean preflight says -/

theorem heldAfter_given (waypoints : List (CartesianWaypoint ℝ)) (given : Option (Quat ℝ))
    (held : Quat ℝ) :
    heldAfter (given.getD held) waypoints = (givenAfter given waypoints).getD held := by
  unfold heldAfter givenAfter
  induction waypoints generalizing given with
  | nil => rfl
  | cons wp rest ih =>
      rw [List.foldl_cons, List.foldl_cons, ← ih]
      cases wp.quaternion <;> rfl

theorem givenAfter_some {waypoints : List (CartesianWaypoint ℝ)} {given : Option (Quat ℝ)}
    (some_given : given ≠ none ∨ ∃ wp ∈ waypoints, wp.quaternion ≠ none) :
    ∃ q, givenAfter given waypoints = some q := by
  unfold givenAfter
  induction waypoints generalizing given with
  | nil =>
      rcases some_given with before | ⟨wp, none, _⟩
      · exact Option.ne_none_iff_exists'.mp before
      · cases none
  | cons wp rest ih =>
      rw [List.foldl_cons]
      apply ih
      cases here : wp.quaternion with
      | some q => exact Or.inl (Option.some_ne_none q)
      | none =>
          rcases some_given with before | ⟨other, member, gives⟩
          · exact Or.inl before
          · rcases List.mem_cons.mp member with same | later
            · rw [same] at gives
              exact absurd here gives
            · exact Or.inr ⟨other, later, gives⟩

/-- Every waypoint is in the box, and nothing is said of any way between two of them. -/
theorem problemsFrom_clean {p : SafetyProfile ℝ} {linCap angCap : ℝ}
    (waypoints : List (CartesianWaypoint ℝ)) {index : ℕ} {prev : Option (Vec3 ℝ)}
    {prevQuat : Option (Quat ℝ)}
    (clean : p.problemsFrom linCap angCap index prev prevQuat waypoints = []) :
    (∀ wp ∈ waypoints, p.outsideBox wp.position = false) ∧
      ∀ (i : ℕ) before after, waypoints[i]? = some before → waypoints[i + 1]? = some after →
        speedProblems linCap angCap (index + i + 1) before.position
          (givenAfter prevQuat (waypoints.take (i + 1))) after = [] := by
  induction waypoints generalizing index prev prevQuat with
  | nil =>
      constructor
      · intro wp none
        cases none
      · intro i before after none
        cases none
  | cons wp rest ih =>
      unfold SafetyProfile.problemsFrom at clean
      rw [List.append_eq_nil_iff, List.append_eq_nil_iff] at clean
      obtain ⟨boxed, later⟩ := ih clean.2
      constructor
      · rw [List.forall_mem_cons]
        refine ⟨?_, boxed⟩
        by_contra outside
        have first := clean.1.1
        rw [if_pos (Bool.eq_true_of_not_eq_false outside)] at first
        cases first
      · intro i before after atI atNext
        cases i with
        | zero =>
            cases atI
            cases rest with
            | nil => cases atNext
            | cons second rest =>
                cases atNext
                have next := clean.2
                unfold SafetyProfile.problemsFrom at next
                rw [List.append_eq_nil_iff, List.append_eq_nil_iff] at next
                exact next.1.2
        | succ i =>
            have said := later i before after atI atNext
            have counted : index + 1 + i + 1 = index + (i + 1) + 1 := by omega
            rw [counted] at said
            exact said

theorem speedProblems_clean {linCap angCap : ℝ} {index : ℕ} {prev : Vec3 ℝ}
    {prevQuat : Option (Quat ℝ)} {wp : CartesianWaypoint ℝ}
    (clean : speedProblems linCap angCap index prev prevQuat wp = []) {duration : ℝ}
    (timed : wp.duration = some duration) (positive : 0 < duration) :
    blendPeak * (wp.position - prev).norm / duration ≤ linCap ∧
      ∀ a b, prevQuat = some a → wp.quaternion = some b →
        blendPeak * quatAngle a b / duration ≤ angCap := by
  unfold speedProblems at clean
  rw [timed] at clean
  dsimp only at clean
  rw [if_pos positive, List.append_eq_nil_iff] at clean
  constructor
  · by_contra fast
    have first := clean.1
    rw [if_pos (not_le.mp fast)] at first
    cases first
  · intro a b before here
    by_contra fast
    have second := clean.2
    rw [before, here] at second
    dsimp only at second
    rw [if_pos (not_le.mp fast)] at second
    cases second

theorem fitsIn_of_tested {wp : CartesianWaypoint ℝ} {controlHz cap distance : ℝ}
    (rate : 0 < controlHz) (positive : 0 < cap) {duration : ℝ} (timed : wp.duration = some duration)
    (long : 0 < duration) (kept : duration * controlHz ≤ requestedTicks duration controlHz)
    (slow : blendPeak * distance / duration ≤ cap) : wp.FitsIn controlHz cap distance := by
  have takes : wp.resolveDuration controlHz = duration := by
    unfold CartesianWaypoint.resolveDuration resolveDuration
    rw [timed]
  unfold CartesianWaypoint.FitsIn
  rw [takes]
  calc blendPeak * distance ≤ cap * duration := (div_le_iff₀ long).mp slow
    _ ≤ cap * (requestedTicks duration controlHz / controlHz) :=
        mul_le_mul_of_nonneg_left ((le_div_iff₀ rate).mpr kept) positive.le

theorem movesFrom_length (waypoints : List (CartesianWaypoint ℝ)) (prevPos : Vec3 ℝ)
    (prevQuat : Quat ℝ) : (movesFrom prevPos prevQuat waypoints).length = waypoints.length := by
  induction waypoints generalizing prevPos prevQuat with
  | nil => rfl
  | cons wp rest ih => rw [movesFrom, List.length_cons, List.length_cons, ih]

theorem movesFrom_later (waypoints : List (CartesianWaypoint ℝ)) {prevPos : Vec3 ℝ}
    {prevQuat : Quat ℝ} {i : ℕ} {before after : CartesianWaypoint ℝ}
    (atI : waypoints[i]? = some before) (atNext : waypoints[i + 1]? = some after) :
    (movesFrom prevPos prevQuat waypoints)[i + 1]? =
      some ⟨before.position, after.position, heldAfter prevQuat (waypoints.take (i + 1)),
        heldAfter prevQuat (waypoints.take (i + 2)), after⟩ := by
  induction waypoints generalizing prevPos prevQuat i with
  | nil => cases atI
  | cons wp rest ih =>
      cases i with
      | succ i => exact ih atI atNext
      | zero =>
          cases atI
          cases rest with
          | nil => cases atNext
          | cons second rest =>
              cases atNext
              rfl

theorem heldAfter_reached {waypoints : List (CartesianWaypoint ℝ)} {held : Quat ℝ} {i : ℕ}
    {wp : CartesianWaypoint ℝ} (reached : waypoints[i]? = some wp) :
    heldAfter held (waypoints.take (i + 1)) =
      wp.quaternion.getD (heldAfter held (waypoints.take i)) := by
  unfold heldAfter
  rw [List.take_add_one, reached, Option.toList_some, List.foldl_append, List.foldl_cons,
    List.foldl_nil]

theorem quatNormalize_scaled {q : Quat ℝ} (long : ¬ q.norm < eps) :
    quatNormalize (q / q.norm) = quatNormalize q := by
  have positive : 0 < q.norm := by
    rw [not_lt, eps_real] at long
    linarith
  have unit : (q / q.norm).norm = 1 := Quat.norm_div positive
  have kept : q / q.norm / (1 : ℝ) = q / q.norm := by
    simp only [Quat.entries_div, div_one]
  unfold quatNormalize
  dsimp only
  rw [unit, if_neg (by rw [eps_real]; norm_num), if_neg long, kept]

theorem quatAngle_congr {a b a' b' : Quat ℝ} (left : quatNormalize a' = quatNormalize a)
    (right : quatNormalize b' = quatNormalize b) : quatAngle a' b' = quatAngle a b := by
  unfold quatAngle
  rw [left, right]

structure PlacedOn (start : Pose ℝ) (wp made : CartesianWaypoint ℝ) : Prop where
  position : made.position = start.place wp.position
  duration : made.duration = wp.duration
  nFrames : made.nFrames = wp.nFrames
  quaternion : ∃ q, made.quaternion = some q ∧
    quatNormalize q = quatNormalize (resolvedQuat start.quat wp.quaternion)

theorem toAbsolute_placed {start : Pose ℝ} {wp made : CartesianWaypoint ℝ}
    (resolves : wp.toAbsolute start = .ok made) : PlacedOn start wp made := by
  have composed : CartesianWaypoint.create (start.place wp.position)
      (some (resolvedQuat start.quat wp.quaternion)) wp.gripper wp.nFrames wp.duration
        wp.frame = .ok made := by
    rw [← resolves]
    unfold CartesianWaypoint.toAbsolute
    cases wp.quaternion <;> rfl
  obtain ⟨position, _, nFrames, duration, quaternion⟩ := CartesianWaypoint.create_fields composed
  refine ⟨position, duration, nFrames, _, quaternion, quatNormalize_scaled ?_⟩
  intro short
  unfold CartesianWaypoint.create at composed
  dsimp only [bind, Except.bind] at composed
  rw [if_pos short] at composed
  cases composed

theorem executed_absolute {chunk resolved : CartesianChunk ℝ} {start : Pose ℝ}
    (made : chunk.forExecution start = .ok resolved) (absolute : chunk.representation = .absolute) :
    resolved.waypoints = chunk.executed := by
  obtain ⟨⟨waypoints, resolves, cut⟩, _⟩ := forExecution_resolves made
  unfold CartesianChunk.ResolvesTo at resolves
  rw [absolute] at resolves
  rw [cut, resolves]
  rfl

theorem executed_relative {chunk resolved : CartesianChunk ℝ} {start : Pose ℝ}
    (made : chunk.forExecution start = .ok resolved)
    (relative : chunk.representation = .relativeToStart) :
    List.Forall₂ (PlacedOn start) chunk.executed resolved.waypoints := by
  obtain ⟨⟨waypoints, resolves, cut⟩, _⟩ := forExecution_resolves made
  unfold CartesianChunk.ResolvesTo at resolves
  rw [relative] at resolves
  rw [cut]
  exact List.forall₂_take chunk.horizonExec (resolves.imp fun _ _ => toAbsolute_placed)

theorem forall₂_reached {α β : Type} {R : α → β → Prop} {xs : List α} {ys : List β}
    (related : List.Forall₂ R xs ys) {i : ℕ} {x : α} (reached : xs[i]? = some x) :
    ∃ y, ys[i]? = some y ∧ R x y := by
  induction related generalizing i with
  | nil => cases reached
  | cons here _ ih =>
      cases i with
      | zero =>
          cases reached
          exact ⟨_, rfl, here⟩
      | succ i => exact ih reached

structure ChunkMove.Reads (move : ChunkMove ℝ) (chunk : CartesianChunk ℝ) (start : Pose ℝ) (i : ℕ)
    (before after : CartesianWaypoint ℝ) : Prop where
  distance : (move.tgtPos - move.prevPos).norm = (after.position - before.position).norm
  turn : quatAngle move.prevQuat move.tgtQuat =
    quatAngle (chunk.orientationAfter start i) (chunk.orientationAfter start (i + 1))
  duration : move.wp.duration = after.duration
  nFrames : move.wp.nFrames = after.nFrames

theorem later_move {chunk resolved : CartesianChunk ℝ} {start : Pose ℝ}
    (made : chunk.forExecution start = .ok resolved) {i : ℕ} {before after : CartesianWaypoint ℝ}
    (atI : chunk.executed[i]? = some before) (atNext : chunk.executed[i + 1]? = some after) :
    ∃ move, (movesFrom start.pos start.quat resolved.waypoints)[i + 1]? = some move ∧
      move.Reads chunk start i before after := by
  cases way : chunk.representation with
  | absolute =>
      rw [executed_absolute made way]
      refine ⟨_, movesFrom_later _ atI atNext, rfl, ?_, rfl, rfl⟩
      unfold CartesianChunk.orientationAfter
      rw [way]
  | relativeToStart =>
      have placed := executed_relative made way
      obtain ⟨first, atFirst, placedFirst⟩ := forall₂_reached placed atI
      obtain ⟨second, atSecond, placedSecond⟩ := forall₂_reached placed atNext
      obtain ⟨a, givenA, sameA⟩ := placedFirst.quaternion
      obtain ⟨b, givenB, sameB⟩ := placedSecond.quaternion
      refine ⟨_, movesFrom_later _ atFirst atSecond, ?_, ?_, placedSecond.duration,
        placedSecond.nFrames⟩
      · dsimp only
        rw [placedFirst.position, placedSecond.position, place_norm]
      · dsimp only
        rw [heldAfter_reached atFirst, heldAfter_reached atSecond, givenA, givenB]
        unfold CartesianChunk.orientationAfter
        rw [way, atI, atNext]
        exact quatAngle_congr sameA sameB

/-! ### Ticks -/

theorem cappedTicks_le_iff {cap controlHz distance : ℝ} (positive : 0 < cap) (rate : 0 < controlHz)
    (n : ℤ) : cappedTicks (some cap) (1 / controlHz) distance ≤ n ↔
      blendPeak * distance ≤ cap * (n / controlHz) := by
  have step : 0 < cap * (1 / controlHz) := mul_pos positive (one_div_pos.mpr rate)
  have scaled : (n : ℝ) * (cap * (1 / controlHz)) = cap * (n / controlHz) := by ring
  unfold cappedTicks
  dsimp only
  rw [if_pos positive, Scalar.ceil_real, Int.ceil_le, div_le_iff₀ step, scaled]

section Runs

variable {chunk resolved : CartesianChunk ℝ} {start : Pose ℝ} {profile : SafetyProfile ℝ}
  {controlHz : ℝ}

theorem move_unstretched_iff (caps : profile.PositiveCaps) (rate : 0 < controlHz)
    {move : ChunkMove ℝ} {i : ℕ} {before after : CartesianWaypoint ℝ}
    (reads : move.Reads chunk start i before after)
    (linear : resolved.maxTcpLinearSpeed = chunk.maxTcpLinearSpeed)
    (angular : resolved.maxTcpAngularSpeed = chunk.maxTcpAngularSpeed) :
    (move.ticks (executorInterpolator resolved start profile controlHz) : Int) ≤
        move.nominalTicks controlHz ↔
      after.FitsIn controlHz (tightenedCap profile.maxLinearSpeed chunk.maxTcpLinearSpeed)
          (after.position - before.position).norm ∧
        after.FitsIn controlHz (tightenedCap profile.maxAngularSpeed chunk.maxTcpAngularSpeed)
          (quatAngle (chunk.orientationAfter start i) (chunk.orientationAfter start (i + 1))) := by
  have takes : move.wp.resolveDuration controlHz = after.resolveDuration controlHz := by
    unfold CartesianWaypoint.resolveDuration
    rw [reads.duration, reads.nFrames]
  unfold CartesianWaypoint.FitsIn ChunkMove.nominalTicks
  rw [ticks_executor, takes, ← cappedTicks_le_iff (tightenedCap_pos caps.linearSpeed) rate,
    ← cappedTicks_le_iff (tightenedCap_pos caps.angularSpeed) rate, max_le_iff, max_le_iff,
    and_iff_right le_rfl, ChunkMove.linearTicks, ChunkMove.angularTicks, linear, angular,
    reads.distance, reads.turn]

/-- No later segment is stretched exactly if every later way fits its nominal time. -/
theorem unstretched_iff (caps : profile.PositiveCaps) (rate : 0 < controlHz)
    (made : chunk.forExecution start = .ok resolved) :
    (∀ move ∈ (movesFrom start.pos start.quat resolved.waypoints).tail,
      (move.ticks (executorInterpolator resolved start profile controlHz) : Int) ≤
        move.nominalTicks controlHz) ↔
      ∀ (i : ℕ) before after, chunk.executed[i]? = some before →
        chunk.executed[i + 1]? = some after →
        after.FitsIn controlHz (tightenedCap profile.maxLinearSpeed chunk.maxTcpLinearSpeed)
            (after.position - before.position).norm ∧
          after.FitsIn controlHz (tightenedCap profile.maxAngularSpeed chunk.maxTcpAngularSpeed)
            (quatAngle (chunk.orientationAfter start i)
              (chunk.orientationAfter start (i + 1))) := by
  obtain ⟨_, _, linear, angular⟩ := forExecution_resolves made
  constructor
  · intro unstretched i before after atI atNext
    obtain ⟨move, reached, reads⟩ := later_move made atI atNext
    have member : move ∈ (movesFrom start.pos start.quat resolved.waypoints).tail := by
      apply List.mem_of_getElem? (i := i)
      rw [List.getElem?_tail]
      exact reached
    exact (move_unstretched_iff caps rate reads linear angular).mp (unstretched move member)
  · intro fits move member
    obtain ⟨i, reached⟩ := List.mem_iff_getElem?.mp member
    rw [List.getElem?_tail] at reached
    have inside : i + 1 < chunk.executed.length := by
      have counted := (List.getElem?_eq_some_iff.mp reached).1
      rw [movesFrom_length] at counted
      cases way : chunk.representation with
      | absolute =>
          rw [executed_absolute made way] at counted
          exact counted
      | relativeToStart => rw [(executed_relative made way).length_eq]; exact counted
    obtain ⟨other, otherReached, reads⟩ := later_move made
      (List.getElem?_eq_getElem (Nat.lt_of_succ_lt inside)) (List.getElem?_eq_getElem inside)
    rw [reached, Option.some.injEq] at otherReached
    subst otherReached
    exact (move_unstretched_iff caps rate reads linear angular).mpr
      (fits i _ _ (List.getElem?_eq_getElem _) (List.getElem?_eq_getElem _))

theorem inWorkspace_iff (inside : profile.contains start.pos)
    (made : chunk.forExecution start = .ok resolved) :
    (∀ stream, executedStream chunk start profile controlHz = .ok stream →
      ∀ sp ∈ stream, profile.LetsPass sp.pose) ↔
      ∀ wp ∈ resolved.waypoints, profile.accepts wp.position := by
  have streamed : executedStream chunk start profile controlHz =
      .ok (executorInterpolator resolved start profile controlHz).setpoints := by
    unfold executedStream
    rw [made]
    rfl
  have accepted := @stream_accepted_iff profile
    (executorInterpolator resolved start profile controlHz) resolved.waypoints start.pos start.quat
    0 (accepts_of_contains inside)
  rw [streamed, ← accepted]
  constructor
  · intro passes sp member
    exact (letsPass_iff profile sp.pose).mp (passes _ rfl sp member)
  · intro accepts stream same sp member
    cases same
    exact (letsPass_iff profile sp.pose).mpr (accepts sp member)

end Runs

/-! ### A clean preflight -/

theorem executed_given {chunk : CartesianChunk ℝ} {i : ℕ} {wp : CartesianWaypoint ℝ}
    (reached : chunk.executed[i]? = some wp) :
    chunk.waypoints[i]? = some wp ∧ chunk.executed.take i = chunk.waypoints.take i := by
  unfold CartesianChunk.executed at reached ⊢
  rw [List.getElem?_take] at reached
  split at reached
  · rename_i soon
    rw [List.take_take, min_eq_left soon.le]
    exact ⟨reached, rfl⟩
  · cases reached

section Clean

variable {chunk : CartesianChunk ℝ} {start : Pose ℝ} {profile : SafetyProfile ℝ} {controlHz : ℝ}

theorem move_fits (caps : profile.PositiveCaps) (rate : 0 < controlHz)
    (clean : profile.validateChunk chunk = []) {i : ℕ} {before after : CartesianWaypoint ℝ}
    (atI : chunk.executed[i]? = some before) (atNext : chunk.executed[i + 1]? = some after)
    (tested : after.TimeTested controlHz) :
    after.FitsIn controlHz (tightenedCap profile.maxLinearSpeed chunk.maxTcpLinearSpeed)
      (after.position - before.position).norm := by
  obtain ⟨duration, timed, long, kept⟩ := tested
  have said := (problemsFrom_clean chunk.waypoints clean).2 i before after (executed_given atI).1
    (executed_given atNext).1
  exact fitsIn_of_tested rate (tightenedCap_pos caps.linearSpeed) timed long kept
    (speedProblems_clean said timed long).1

theorem still_fits {wp : CartesianWaypoint ℝ} {cap : ℝ} (positive : 0 < cap) (rate : 0 < controlHz)
    (q : Quat ℝ) : wp.FitsIn controlHz cap (quatAngle q q) := by
  have ticks : (0 : ℝ) ≤ requestedTicks (wp.resolveDuration controlHz) controlHz := by
    exact_mod_cast (zero_le_one.trans (requestedTicks_pos (wp.resolveDuration controlHz) controlHz))
  unfold CartesianWaypoint.FitsIn
  rw [quatAngle_of_aligned rfl, mul_zero]
  exact mul_nonneg positive.le (div_nonneg ticks rate.le)

theorem relative_turn {s a b : Quat ℝ} (unit : s.norm = 1) (unitA : a.norm = 1)
    (unitB : b.norm = 1) :
    quatAngle (resolvedQuat s (some a)) (resolvedQuat s (some b)) = quatAngle a b := by
  have long {q : Quat ℝ} (unitQ : q.norm = 1) : eps ≤ q.norm := by
    rw [unitQ, eps_real]
    norm_num
  have moved {q : Quat ℝ} (unitQ : q.norm = 1) :
      (quatNormalize (resolvedQuat s (some q))).UpToSign (quatMul s (quatNormalize q)) := by
    rw [resolvedQuat, quatNormalize_idem]
    exact quatNormalize_mul unit (long unitQ)
  exact quatAngle_moved unit (moved unitA) (moved unitB)

theorem turn_fits (caps : profile.PositiveCaps) (rate : 0 < controlHz)
    (clean : profile.validateChunk chunk = []) {i : ℕ} {after : CartesianWaypoint ℝ}
    (atNext : chunk.executed[i + 1]? = some after) (tested : after.TimeTested controlHz)
    (turnTested : chunk.TurnTested start i) :
    after.FitsIn controlHz (tightenedCap profile.maxAngularSpeed chunk.maxTcpAngularSpeed)
      (quatAngle (chunk.orientationAfter start i) (chunk.orientationAfter start (i + 1))) := by
  have positive : 0 < tightenedCap profile.maxAngularSpeed chunk.maxTcpAngularSpeed :=
    tightenedCap_pos caps.angularSpeed
  obtain ⟨duration, timed, long, kept⟩ := tested
  obtain ⟨before, atI⟩ : ∃ before, chunk.executed[i]? = some before :=
    ⟨_, List.getElem?_eq_getElem (Nat.lt_of_succ_lt (List.getElem?_eq_some_iff.mp atNext).1)⟩
  have said := (problemsFrom_clean chunk.waypoints clean).2 i before after (executed_given atI).1
    (executed_given atNext).1
  rw [← (executed_given atNext).2] at said
  have slow := (speedProblems_clean said timed long).2
  unfold CartesianChunk.TurnTested at turnTested
  unfold CartesianChunk.orientationAfter
  cases way : chunk.representation with
  | absolute =>
      rw [way] at turnTested
      dsimp only at turnTested ⊢
      obtain ⟨a, given⟩ := @givenAfter_some (chunk.executed.take (i + 1)) none
        (Or.inr turnTested)
      have held : heldAfter start.quat (chunk.executed.take (i + 1)) = a := by
        have read := heldAfter_given (chunk.executed.take (i + 1)) none start.quat
        rw [given] at read
        exact read
      rw [heldAfter_reached atNext, held]
      cases here : after.quaternion with
      | none =>
          rw [Option.getD_none]
          exact still_fits positive rate a
      | some b =>
          rw [Option.getD_some]
          exact fitsIn_of_tested rate positive timed long kept (slow a b given here)
  | relativeToStart =>
      rw [way] at turnTested
      dsimp only at turnTested ⊢
      obtain ⟨unit, first, second, a, b, atFirst, givenA, unitA, atSecond, givenB, unitB⟩ :=
        turnTested
      rw [atNext, Option.some.injEq] at atSecond
      subst atSecond
      have given : givenAfter none (chunk.executed.take (i + 1)) = some a := by
        unfold givenAfter
        rw [List.take_add_one, atFirst, Option.toList_some, List.foldl_append, List.foldl_cons,
          List.foldl_nil, givenA]
        rfl
      rw [atFirst, atNext, Option.bind_some, Option.bind_some, givenA, givenB,
        relative_turn unit unitA unitB]
      exact fitsIn_of_tested rate positive timed long kept (slow a b given givenB)

theorem placed_accepted_iff (clean : profile.validateChunk chunk = [])
    {resolved : CartesianChunk ℝ} (made : chunk.forExecution start = .ok resolved) :
    (∀ wp ∈ resolved.waypoints, profile.accepts wp.position) ↔
      (chunk.representation = .relativeToStart →
        ∀ wp ∈ chunk.executed, profile.accepts (start.place wp.position)) := by
  cases way : chunk.representation with
  | absolute =>
      rw [executed_absolute made way]
      constructor
      · intro _ other
        cases other
      · intro _ wp member
        exact accepts_of_boxed ((problemsFrom_clean chunk.waypoints clean).1 wp
          (List.mem_of_mem_take member))
  | relativeToStart =>
      have placed := executed_relative made way
      rw [forall_prop_of_true rfl]
      generalize chunk.executed = given at placed
      generalize resolved.waypoints = reached at placed
      induction placed with
      | nil =>
          constructor
          · intro _ wp none
            cases none
          · intro _ wp none
            cases none
      | cons here _ ih =>
          rw [List.forall_mem_cons, List.forall_mem_cons, here.position]
          exact and_congr_right' ih

end Clean

/-- After a clean preflight the run is undisturbed exactly if the waypoints of a relative chunk
are accepted where they are placed, and every later way that the preflight does not test, or
tests for more time than its ticks take, fits its nominal ticks. -/
theorem clean_preflight_undisturbed_iff (chunk : CartesianChunk ℝ) (start : Pose ℝ)
    (profile : SafetyProfile ℝ) (caps : profile.PositiveCaps) (controlHz : ℝ) (rate : 0 < controlHz)
    (inside : profile.contains start.pos) (clean : profile.validateChunk chunk = []) :
    RunsUndisturbed chunk start profile controlHz ↔
      ((∃ resolved, chunk.forExecution start = .ok resolved) →
        chunk.Foreseen start profile controlHz) := by
  constructor
  · rintro ⟨inWorkspace, unstretched⟩ ⟨resolved, made⟩
    have accepted := (placed_accepted_iff clean made).mp
      ((inWorkspace_iff inside made).mp inWorkspace)
    have fits := (unstretched_iff caps rate made).mp (unstretched resolved made)
    refine ⟨accepted, ?_, ?_⟩
    · intro i before after atI atNext _
      exact (fits i before after atI atNext).1
    · intro i after atNext _
      exact (fits i _ after (List.getElem?_eq_getElem
        (Nat.lt_of_succ_lt (List.getElem?_eq_some_iff.mp atNext).1)) atNext).2
  · intro foreseen
    constructor
    · intro stream streamed
      cases made : chunk.forExecution start with
      | error e =>
          unfold executedStream at streamed
          rw [made] at streamed
          cases streamed
      | ok resolved =>
          exact (inWorkspace_iff inside made).mpr
            ((placed_accepted_iff clean made).mpr (foreseen ⟨resolved, made⟩).inBox) stream streamed
    · intro resolved made
      have conditions := foreseen ⟨resolved, made⟩
      rw [unstretched_iff caps rate made]
      intro i before after atI atNext
      constructor
      · by_cases tested : after.TimeTested controlHz
        · exact move_fits caps rate clean atI atNext tested
        · exact conditions.movesInTime i before after atI atNext tested
      · by_cases tested : after.TimeTested controlHz ∧ chunk.TurnTested start i
        · exact turn_fits caps rate clean atNext tested.1 tested.2
        · exact conditions.turnsInTime i after atNext tested

theorem forExecution_some {start : Pose ℝ} (unit : start.quat.norm = 1) (chunk : CartesianChunk ℝ) :
    ∃ resolved, chunk.forExecution start = .ok resolved := by
  obtain ⟨resolved, resolves⟩ : ∃ resolved, chunk.resolveToAbsolute start = .ok resolved := by
    cases way : chunk.representation with
    | absolute =>
        unfold CartesianChunk.resolveToAbsolute
        rw [way]
        exact ⟨_, rfl⟩
    | relativeToStart =>
        obtain ⟨resolved, resolves, _⟩ := resolveToAbsolute_relative unit chunk
        rw [← way] at resolves
        exact ⟨resolved, resolves⟩
  unfold CartesianChunk.forExecution
  rw [resolves]
  dsimp only [bind, Except.bind]
  split
  · exact ⟨_, rfl⟩
  · exact ⟨_, rfl⟩

theorem reach_timed : (none : Option Int).isSome ∨ (some (1 : ℝ)).isSome := Or.inr rfl

theorem reach_frames : ∀ n, (none : Option Int) = some n → 0 < n := by
  intro n none
  cases none

noncomputable def reachWaypoint : CartesianWaypoint ℝ where
  position := ⟨3 / 10, 0, 1 / 10⟩
  quaternion := none
  gripper := none
  nFrames := none
  duration := some 1
  frame := "base"
  timed := reach_timed
  framesPositive := reach_frames

noncomputable def reachChunk : CartesianChunk ℝ where
  waypoints := [reachWaypoint]
  representation := .relativeToStart
  nonempty := List.cons_ne_nil _ _
  allowanceNonneg := no_allowance
  gatePositive := no_gate

theorem horizonExec_pos (chunk : CartesianChunk ℝ) : 0 < chunk.horizonExec := by
  unfold CartesianChunk.horizonExec
  dsimp only
  omega

theorem executed_single {chunk : CartesianChunk ℝ} {wp : CartesianWaypoint ℝ}
    (only : chunk.waypoints = [wp]) : chunk.executed = [wp] := by
  unfold CartesianChunk.executed
  rw [only]
  exact List.take_of_length_le (horizonExec_pos chunk)

theorem validateChunk_single {profile : SafetyProfile ℝ} {chunk : CartesianChunk ℝ}
    {wp : CartesianWaypoint ℝ} (only : chunk.waypoints = [wp])
    (boxed : profile.outsideBox wp.position = false) : profile.validateChunk chunk = [] := by
  unfold SafetyProfile.validateChunk
  rw [only, SafetyProfile.problemsFrom, boxed, if_neg Bool.false_ne_true]
  rfl

theorem reachChunk_clean : tabletop.validateChunk reachChunk = [] := by
  apply @validateChunk_single tabletop reachChunk reachWaypoint rfl
  norm_num [SafetyProfile.outsideBox, tabletop, reachWaypoint]

theorem reach_refused : ¬ tabletop.accepts (overTable.place reachWaypoint.position) := by
  have straight : quatNormalize (1 : Quat ℝ) = 1 := quatNormalize_of_unit Quat.norm_one zero_le_one
  have entries : (1 : Quat ℝ) = ⟨1, 0, 0, 0⟩ := rfl
  have reached : axisValue (overTable.place reachWaypoint.position) .x = 4 / 5 := by
    unfold Pose.place quatRotate overTable reachWaypoint
    dsimp only
    rw [straight, entries]
    norm_num [axisValue, quatMul, quatConj]
  have upper : (tabletop.interval .x).2 = 3 / 4 := by
    norm_num [SafetyProfile.interval, tabletop]
  rw [accepts_iff_axes]
  intro near
  have far := near .x
  rw [reached, upper, Accepts, excess_of_gt (by norm_num)] at far
  norm_num at far

/-- Offsets inside the box, placed outside it. -/
theorem clean_preflight_disturbed :
    tabletop.PositiveCaps ∧ tabletop.contains overTable.pos ∧
      tabletop.validateChunk reachChunk = [] ∧
      ¬ RunsUndisturbed reachChunk overTable tabletop 100 := by
  have inside : tabletop.contains overTable.pos := overTable_contains rfl rfl rfl
  refine ⟨tabletop_positiveCaps, inside, reachChunk_clean, ?_⟩
  intro undisturbed
  have unit : overTable.quat.norm = 1 := Quat.norm_one
  obtain ⟨resolved, made⟩ := forExecution_some unit reachChunk
  have all := (inWorkspace_iff inside made).mp undisturbed.inWorkspace
  have accepted := (placed_accepted_iff reachChunk_clean made).mp all rfl reachWaypoint
  rw [@executed_single reachChunk reachWaypoint rfl] at accepted
  exact reach_refused (accepted List.mem_cons_self)

theorem climb_timed : (some (100 : Int)).isSome ∨ (none : Option ℝ).isSome := Or.inl rfl

theorem climb_frames : ∀ n : Int, some 100 = some n → 0 < n := by
  intro n frames
  cases frames
  decide

noncomputable def climbingChunk : CartesianChunk ℝ where
  waypoints := [{ reachWaypoint with position := ⟨1 / 4, 0, 1 / 10⟩ }, {
    position := ⟨1 / 4, 0, 1 / 10 + 1 / 10 / 2⟩
    quaternion := none
    gripper := none
    nFrames := some 100
    duration := none
    frame := "base"
    timed := climb_timed
    framesPositive := climb_frames }]
  representation := .relativeToStart
  nonempty := List.cons_ne_nil _ _
  allowanceNonneg := no_allowance
  gatePositive := no_gate

theorem place_overTable (v : Vec3 ℝ) :
    overTable.place v = ⟨1 / 2 + v.x, v.y, 3 / 10 + v.z⟩ := by
  have straight : quatNormalize (1 : Quat ℝ) = 1 := quatNormalize_of_unit Quat.norm_one zero_le_one
  have entries : (1 : Quat ℝ) = ⟨1, 0, 0, 0⟩ := rfl
  unfold Pose.place quatRotate overTable
  dsimp only
  rw [straight, entries]
  ext <;> simp [quatMul, quatConj]

theorem climbingChunk_clean : tabletop.validateChunk climbingChunk = [] := by
  unfold SafetyProfile.validateChunk climbingChunk
  simp only [SafetyProfile.problemsFrom, speedProblems]
  norm_num [SafetyProfile.outsideBox, tabletop]

theorem climb_fits {wp : CartesianWaypoint ℝ} (untimed : wp.duration = none)
    (frames : wp.nFrames = some 100) :
    wp.FitsIn 100 (tightenedCap tabletop.maxLinearSpeed climbingChunk.maxTcpLinearSpeed)
      ((⟨1 / 4, 0, 1 / 10 + 1 / 10 / 2⟩ : Vec3 ℝ) - ⟨1 / 4, 0, 1 / 10⟩).norm := by
  have takes : wp.resolveDuration 100 = 1 := by
    unfold CartesianWaypoint.resolveDuration resolveDuration
    rw [untimed, frames]
    dsimp only
    rw [Scalar.ofInt_real]
    norm_num
  have hundred : requestedTicks (1 : ℝ) 100 = 100 := requestedTicks_whole (n := 100) (by norm_num)
  have rise : ((⟨1 / 4, 0, 1 / 10 + 1 / 10 / 2⟩ : Vec3 ℝ) - ⟨1 / 4, 0, 1 / 10⟩).norm =
      1 / 10 / 2 :=
    norm_raised ⟨1 / 4, 0, 1 / 10⟩ (by norm_num)
  have capped : tightenedCap tabletop.maxLinearSpeed climbingChunk.maxTcpLinearSpeed = 1 / 4 := by
    norm_num [tightenedCap, tabletop, climbingChunk]
  unfold CartesianWaypoint.FitsIn blendPeak
  rw [takes, hundred, rise, capped]
  change Real.pi / Scalar.ofNat 2 * (1 / 10 / 2) ≤ _
  rw [Scalar.ofNat_real]
  push_cast
  linarith [Real.pi_le_four]

/-- Both waypoints are placed in the box, and the second, whose time is not tested, in time. -/
theorem clean_preflight_undisturbed_iff_climbing :
    climbingChunk.executed.length = 2 ∧ tabletop.validateChunk climbingChunk = [] ∧
      RunsUndisturbed climbingChunk overTable tabletop 100 := by
  have both : climbingChunk.executed = climbingChunk.waypoints := rfl
  refine ⟨rfl, climbingChunk_clean, ?_⟩
  apply (clean_preflight_undisturbed_iff climbingChunk overTable tabletop tabletop_positiveCaps 100
    (by norm_num) (overTable_contains rfl rfl rfl) climbingChunk_clean).mpr
  intro _
  constructor
  · intro _ wp member
    rw [both] at member
    apply accepts_of_contains
    intro axis
    rcases List.mem_cons.mp member with first | rest
    · rw [first, place_overTable]
      cases axis <;> norm_num [SafetyProfile.interval, axisValue, tabletop]
    · rw [List.mem_singleton.mp rest, place_overTable]
      cases axis <;> norm_num [SafetyProfile.interval, axisValue, tabletop]
  · intro i before after atI atNext _
    rw [both] at atI atNext
    cases i with
    | zero =>
        cases atI
        cases atNext
        exact climb_fits rfl rfl
    | succ i => cases atNext
  · intro i after atNext _
    cases i with
    | zero => exact still_fits (tightenedCap_pos tabletop_positiveCaps.angularSpeed) (by norm_num) _
    | succ i =>
        rw [both] at atNext
        cases atNext

end FlexivControl
