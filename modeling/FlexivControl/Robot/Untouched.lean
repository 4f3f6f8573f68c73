/-
Blocking chunks inside their limits.

Where no test, read or command of a run goes against it, every setpoint handed to the
backend is the interpolator's own, and the run ends at the last waypoint.
-/

import FlexivControl.Filter.InSpec
import FlexivControl.Robot.ContactGuard
import FlexivControl.Robot.Rest

namespace FlexivControl

open Script

section Runs

variable {K : Type} [Scalar K]

/-- What a trace has shown: the last state read, the one read last before the run's
clock was first read, and the setpoints streamed. -/
structure Seen (K : Type) [Scalar K] where
  last : Option (RobotState K) := none
  start : Option (RobotState K) := none
  streamed : List (Setpoint K) := []

def Seen.next (s : Seen K) (c : Call (effects K)) : Seen K :=
  match c with
  | ⟨.readState, .ok state⟩ => { s with last := some state }
  | ⟨.perfCounter, _⟩ => { s with start := s.start.or s.last }
  | ⟨.write call, _⟩ => { s with streamed := s.streamed ++ call.setpoint.toList }
  | _ => s

def seen (calls : List (Call (effects K))) : Seen K := calls.foldl Seen.next {}

/-- No cancel, no fault, no wrench over the cap, no exception. -/
def Unobstructed (cap : Wrench K) (c : Call (effects K)) : Prop :=
  match c with
  | ⟨.cancelIsSet _, set⟩ => set = false
  | ⟨.inFault, answer⟩ => answer = .ok false
  | ⟨.readState, answer⟩ => ∃ state, answer = .ok state ∧ exceeds state.wrench cap = false
  | ⟨.write _, answer⟩ => answer = .ok ()
  | _ => True

def clearRun (cap : Wrench K) (start : RobotState K) : Monitor (effects K) (Seen K) where
  observe := Seen.next
  admits s c := Unobstructed cap c ∧ ∀ state, (s.next c).start = some state → state = start
  allows _ _ := True

theorem Seen.next_start {s : Seen K} {state : RobotState K} (known : s.start = some state)
    (c : Call (effects K)) : (s.next c).start = some state := by
  unfold next
  split
  · exact known
  · dsimp only
    rw [known, Option.some_or]
  · exact known
  · exact known

theorem foldl_next_start (calls : List (Call (effects K))) :
    ∀ {s : Seen K} {state : RobotState K}, s.start = some state →
      (calls.foldl Seen.next s).start = some state := by
  induction calls with
  | nil => exact fun known => known
  | cons c rest ih => exact fun known => ih (Seen.next_start known c)

theorem clearRun_admitted {cap : Wrench K} {start : RobotState K} (calls : List (Call (effects K))) :
    ∀ s : Seen K, (∀ c ∈ calls, Unobstructed cap c) →
      (calls.foldl Seen.next s).start = some start → (clearRun cap start).Admitted s calls := by
  induction calls with
  | nil => exact fun _ _ _ => trivial
  | cons c rest ih =>
      intro s clear started
      refine ⟨⟨clear c List.mem_cons_self, ?_⟩, ?_⟩
      · intro state known
        have later := foldl_next_start rest known
        change (rest.foldl Seen.next (s.next c)).start = some start at started
        rw [later, Option.some.injEq] at started
        exact started
      · exact ih (s.next c) (fun c inRest => clear c (List.mem_cons_of_mem _ inRest)) started

section Rules

variable {cap : Wrench K} {start : RobotState K} {α : Type}

theorem wp_uncancelled (site : CancelSite) {f : Bool → RobotM K α}
    {post : Except Exc α → Robot K → Seen K → Prop} {robot : Robot K} {s : Seen K}
    (rest : wp (clearRun cap start) (f false) post robot s) :
    wp (clearRun cap start) (do let set ← cancelIsSet site; f set) post robot s := by
  unfold cancelIsSet
  rw [wp_bind, wp_op]
  refine ⟨trivial, fun answer admitted => ?_⟩
  cases admitted.1
  exact rest

theorem wp_reads {f : RobotState K → RobotM K α}
    {post : Except Exc α → Robot K → Seen K → Prop} {robot : Robot K} {s : Seen K}
    (rest : ∀ state, exceeds state.wrench cap = false →
      wp (clearRun cap start) (f state) post robot { s with last := some state }) :
    wp (clearRun cap start) (do let state ← getState; f state) post robot s := by
  unfold getState
  simp only [wp_bind, wp_readState]
  refine ⟨trivial, fun answer admitted => ?_⟩
  obtain ⟨state, same, light⟩ := admitted.1
  rw [same]
  exact ⟨trivial, fun _ _ => rest state light⟩

theorem wp_healthy {f : Bool → RobotM K α} {post : Except Exc α → Robot K → Seen K → Prop}
    {robot : Robot K} {s : Seen K} (rest : wp (clearRun cap start) (f false) post robot s) :
    wp (clearRun cap start) (do let faulted ← inFault; f faulted) post robot s := by
  rw [wp_bind, wp_inFault]
  refine ⟨trivial, fun answer admitted => ?_⟩
  cases admitted.1
  exact rest

theorem wp_accepted (call : BackendCall K) {f : Unit → RobotM K α}
    {post : Except Exc α → Robot K → Seen K → Prop} {robot : Robot K} {s : Seen K}
    (rest : wp (clearRun cap start) (f ()) post robot
      { s with streamed := s.streamed ++ call.setpoint.toList }) :
    wp (clearRun cap start) (do let u ← backend call; f u) post robot s := by
  rw [wp_bind, wp_backend]
  refine ⟨trivial, fun answer admitted => ?_⟩
  cases admitted.1
  exact rest

end Rules

def Settled (run : ChunkRun K) (robot : Robot K) (s : Seen K) (out : Except Exc (ChunkRun K))
    (robot' : Robot K) (s' : Seen K) : Prop :=
  robot' = robot ∧ s'.streamed = s.streamed ∧ s'.start = s.start ∧
    ∃ run', out = .ok run' ∧ run'.result.success = run.result.success ∧
      run'.result.clipped = run.result.clipped

def Settles (cap : Wrench K) (start : RobotState K) (x : RobotM K (ChunkRun K))
    (run : ChunkRun K) : Prop :=
  ∀ robot s, s.start = some start → wp (clearRun cap start) x (Settled run robot s) robot s

section Settling

variable {cap : Wrench K} {start : RobotState K}

theorem settles_pure {run run' : ChunkRun K} (success : run'.result.success = run.result.success)
    (clipped : run'.result.clipped = run.result.clipped) : Settles cap start (pure run') run :=
  fun _ _ _ => ⟨rfl, rfl, rfl, run', rfl, success, clipped⟩

theorem Settles.bind {x : RobotM K (ChunkRun K)} {f : ChunkRun K → RobotM K (ChunkRun K)}
    {run : ChunkRun K} (first : Settles cap start x run)
    (rest : ∀ run', Settles cap start (f run') run') : Settles cap start (x >>= f) run := by
  intro robot s started
  rw [wp_bind]
  apply wp_mono (first robot s started)
  intro out robot' s' settled
  obtain ⟨sameRobot, streamed, kept, run', ended, success, clipped⟩ := settled
  rw [ended, afterStep_ok]
  apply wp_mono (rest run' robot' s' (kept.trans started))
  intro out robot'' s'' settled
  obtain ⟨sameRobot', streamed', kept', run'', ended', success', clipped'⟩ := settled
  exact ⟨sameRobot'.trans sameRobot, streamed'.trans streamed, kept'.trans kept, run'', ended',
    success'.trans success, clipped'.trans clipped⟩

theorem settles_backend {call : BackendCall K} (mute : call.setpoint = none)
    {run run' : ChunkRun K} (success : run'.result.success = run.result.success)
    (clipped : run'.result.clipped = run.result.clipped) :
    Settles cap start (do backend call; pure run') run := by
  intro robot s _
  apply wp_accepted
  rw [mute, Option.toList_none, List.append_nil]
  exact ⟨rfl, rfl, rfl, run', rfl, success, clipped⟩

theorem settles_tryFireClose (chunk : CartesianChunk K) {run run' : ChunkRun K}
    (success : run'.result.success = run.result.success)
    (clipped : run'.result.clipped = run.result.clipped) (g : GripperCommand K)
    (state : RobotState K) : Settles cap start (tryFireClose chunk run' g state) run := by
  unfold tryFireClose
  dsimp only
  split
  · split
    · exact settles_pure success clipped
    · exact settles_pure success clipped
  · exact settles_backend rfl success clipped

theorem settles_firePending (chunk : CartesianChunk K) (run : ChunkRun K) (state : RobotState K) :
    Settles cap start (firePending chunk run state) run := by
  unfold firePending
  split
  · exact settles_pure rfl rfl
  · split
    · exact settles_tryFireClose chunk (by rfl) (by rfl) _ state
    · exact settles_pure rfl rfl

theorem settles_settleFirst (chunk : CartesianChunk K) (run : ChunkRun K) (state : RobotState K) :
    Settles cap start (settleFirst chunk run state) run := by
  unfold settleFirst
  split
  · exact settles_pure rfl rfl
  · exact settles_tryFireClose chunk (by rfl) (by rfl) _ state

theorem settles_gripperPhase (chunk : CartesianChunk K) (controlHz : K) (sp : CartesianSetpoint K)
    (run : ChunkRun K) (state : RobotState K) :
    Settles cap start (gripperPhase chunk controlHz sp run state) run := by
  unfold gripperPhase
  split
  · exact settles_pure rfl rfl
  · unfold handleGripper
    dsimp only
    split
    · split
      · exact settles_pure rfl rfl
      · exact (settles_settleFirst chunk run state).bind fun run' => settles_pure rfl rfl
    · exact settles_backend rfl rfl rfl

theorem settles_recordRow (t0 : K) (pose : Pose K) (state : RobotState K) (run : ChunkRun K) :
    Settles cap start (recordRow t0 pose state run) run := by
  unfold recordRow
  split
  · exact settles_pure rfl rfl
  · intro robot s started
    unfold perfCounter
    rw [wp_bind, wp_op]
    refine ⟨trivial, fun now _ => ?_⟩
    rw [afterStep_ok]
    refine ⟨rfl, rfl, ?_, _, rfl, rfl, rfl⟩
    change s.start.or s.last = s.start
    rw [started, Option.some_or]

theorem settles_afterStream (chunk : CartesianChunk K) (t0 : K) (sp : CartesianSetpoint K)
    (state : RobotState K) (pose : Pose K) (run : ChunkRun K) :
    Settles cap start (afterStream chunk t0 sp state pose run) run := by
  intro robot s started
  unfold afterStream
  rw [wp_bind, wp_get, afterStep_ok]
  have steps : Settles cap start (do
      let run ← firePending chunk run state
      let run ← gripperPhase chunk robot.controlHz sp run state
      let run ← recordRow t0 pose state run
      pure (run.record robot.dt state pose.pos)) run :=
    (settles_firePending chunk run state).bind fun run =>
      (settles_gripperPhase chunk _ sp run state).bind fun run =>
        (settles_recordRow t0 pose state run).bind fun run => settles_pure rfl rfl
  exact steps robot s started

theorem settles_resolvePending (chunk : CartesianChunk K) (run : ChunkRun K)
    (succeeding : run.result.success = true) : Settles cap start (resolvePending chunk run) run := by
  unfold resolvePending
  split
  · exact settles_pure rfl rfl
  · rename_i g _ _
    dsimp only
    rw [if_pos succeeding]
    intro robot s started
    apply wp_reads
    intro state _
    have fires : Settles cap start
        (tryFireClose chunk { run with pendingClose := none } g state) run :=
      settles_tryFireClose chunk rfl rfl g state
    exact fires robot { s with last := some state } started

theorem settles_restoreWrenchLimit (relaxed : Bool) (run : ChunkRun K) :
    Settles cap start (restoreWrenchLimit relaxed run) run := by
  unfold restoreWrenchLimit
  split
  · intro robot s started
    rw [wp_bind, wp_get, afterStep_ok, wp_bind, wp_op]
    refine ⟨trivial, fun answer admitted => ?_⟩
    cases admitted.1
    rw [afterStep_ok]
    refine ⟨rfl, ?_, rfl, run, rfl, rfl, rfl⟩
    exact List.append_nil _
  · exact settles_pure rfl rfl

end Settling

end Runs

/-! ### Cartesian ticks -/

section Cartesian

variable {p : SafetyProfile ℝ} {dt : ℝ} {cap : Wrench ℝ} {start : RobotState ℝ}

/-- The facade's filter runs under `p` at `dt`, from the pose `ref`. -/
structure Robot.FiltersFrom (robot : Robot ℝ) (p : SafetyProfile ℝ) (dt : ℝ) (ref : Pose ℝ) :
    Prop where
  profile : robot.filter.p = p
  step : robot.filter.dt = dt
  at_ref : robot.filter.prevPose = some ref

theorem Robot.FiltersFrom.passes {robot : Robot ℝ} {ref target : Pose ℝ}
    (filters : robot.FiltersFrom p dt ref) (caps : p.PositiveCaps)
    (uncapped : p.maxLinearAccel = none) (roomy : p.maxLinearSpeed * dt ≤ p.maxPoseJumpLinear)
    (inside : p.contains target.pos) (aligned : quatNormalize ref.quat = quatNormalize target.quat)
    (short : (target.pos - ref.pos).norm ≤ p.maxLinearSpeed * dt) {state : RobotState ℝ}
    (light : exceeds state.wrench cap = false) :
    ∃ v, robot.filter.filterCartesian target state (some cap) =
      ({ ok := true, pose := some target, clipped := false, clipReasons := [] },
        { robot.filter with prevPose := some target, prevLinVel := some v }) := by
  obtain ⟨sameProfile, sameStep, at_ref⟩ := filters
  exact robot.filter.filterCartesian_of_short (by rwa [sameProfile]) (by rwa [sameProfile])
    (by rwa [sameProfile, sameStep]) at_ref (by rwa [sameProfile]) aligned
    (by rwa [sameProfile, sameStep]) light

theorem InSpecFrom.uncons {u : Quat ℝ} {step : ℝ} {ref : Pose ℝ} {sp : CartesianSetpoint ℝ}
    {rest : List (CartesianSetpoint ℝ)} (aligned : quatNormalize ref.quat = u)
    (inSpec : InSpecFrom p u step ref.pos (sp :: rest)) :
    p.contains sp.pose.pos ∧ quatNormalize sp.pose.quat = u ∧
      (sp.pose.pos - ref.pos).norm ≤ step ∧ InSpecFrom p u step sp.pose.pos rest := by
  have short := inSpec.short
  rw [List.map_cons, List.isChain_cons_cons, ← Vec3.toE_sub, Vec3.norm_toE] at short
  refine ⟨inSpec.inside sp List.mem_cons_self, ?_, short.1, short.2, ?_, ?_⟩
  · rw [inSpec.aligned sp List.mem_cons_self, ← aligned, quatNormalize_idem]
  · exact fun sp inRest => inSpec.inside sp (List.mem_cons_of_mem _ inRest)
  · exact fun sp inRest => inSpec.aligned sp (List.mem_cons_of_mem _ inRest)

def Handed (setpoints : List (Setpoint ℝ)) (s s' : Seen ℝ) (run : ChunkRun ℝ) : Prop :=
  s'.streamed = s.streamed ++ setpoints ∧ s'.start = s.start ∧
    run.result.success = true ∧ run.result.clipped = false

theorem cartesianTick_untouched (caps : p.PositiveCaps) (uncapped : p.maxLinearAccel = none)
    (roomy : p.maxLinearSpeed * dt ≤ p.maxPoseJumpLinear) (chunk : CartesianChunk ℝ) (t0 : ℝ)
    {ref : Pose ℝ} {sp : CartesianSetpoint ℝ} (inside : p.contains sp.pose.pos)
    (aligned : quatNormalize ref.quat = quatNormalize sp.pose.quat)
    (short : (sp.pose.pos - ref.pos).norm ≤ p.maxLinearSpeed * dt) {run : ChunkRun ℝ}
    (succeeding : run.result.success = true) (unclipped : run.result.clipped = false)
    {robot : Robot ℝ} (filters : robot.FiltersFrom p dt ref) {s : Seen ℝ}
    (started : s.start = some start) :
    wp (clearRun cap start) (cartesianTick chunk cap t0 sp run)
      (fun out robot' s' => robot'.FiltersFrom p dt sp.pose ∧
        ∃ run', out = .ok (run', true) ∧ Handed [.cartesian sp.pose] s s' run') robot s := by
  unfold cartesianTick
  dsimp only
  apply wp_uncancelled
  change wp _ (do let state ← getState; _) _ _ _
  apply wp_reads
  intro state light
  apply wp_healthy
  change wp _ (if exceeds state.wrench cap = true then _ else _) _ _ _
  rw [if_neg (by rw [light]; exact Bool.false_ne_true), wp_bind, wp_filterCartesian, afterStep_ok]
  obtain ⟨v, passes⟩ := filters.passes caps uncapped roomy inside aligned short light
  rw [passes]
  apply wp_accepted
  rw [wp_bind]
  apply wp_mono (settles_afterStream chunk t0 sp state sp.pose _ _
    { s with last := some state, streamed := s.streamed ++ [.cartesian sp.pose] } started)
  intro out robot' s' settled
  obtain ⟨sameRobot, streamed, kept, run', ended, success, clipped⟩ := settled
  rw [ended, afterStep_ok, sameRobot]
  exact ⟨⟨filters.profile, filters.step, rfl⟩, run', rfl, streamed, kept.trans rfl,
    success.trans succeeding, clipped.trans unclipped⟩

/-- Each tick hands on its setpoint and anchors the filter there, for the next. -/
theorem cartesianTicks_untouched (caps : p.PositiveCaps) (uncapped : p.maxLinearAccel = none)
    (roomy : p.maxLinearSpeed * dt ≤ p.maxPoseJumpLinear) (chunk : CartesianChunk ℝ) (t0 : ℝ)
    {u : Quat ℝ} {step : ℝ} (slower : step ≤ p.maxLinearSpeed * dt)
    (setpoints : List (CartesianSetpoint ℝ)) :
    ∀ {ref : Pose ℝ} {run : ChunkRun ℝ} {robot : Robot ℝ} {s : Seen ℝ},
      quatNormalize ref.quat = u → InSpecFrom p u step ref.pos setpoints →
      run.result.success = true → run.result.clipped = false → robot.FiltersFrom p dt ref →
      s.start = some start →
      wp (clearRun cap start) (cartesianTicks chunk cap t0 setpoints run)
        (fun out _ s' => ∃ run', out = .ok run' ∧
          Handed (setpoints.map (.cartesian ·.pose)) s s' run') robot s := by
  induction setpoints with
  | nil =>
      intro ref run robot s _ _ succeeding unclipped _ _
      exact ⟨run, rfl, (List.append_nil _).symm, rfl, succeeding, unclipped⟩
  | cons sp rest ih =>
      intro ref run robot s aligned inSpec succeeding unclipped filters started
      obtain ⟨inside, next, short, later⟩ := inSpec.uncons aligned
      unfold cartesianTicks
      rw [wp_bind]
      apply wp_mono (cartesianTick_untouched caps uncapped roomy chunk t0 inside
        (aligned.trans next.symm) (short.trans slower) succeeding unclipped filters started)
      intro out robot' s' handed
      obtain ⟨filters', run', ended, streamed, kept, succeeding', unclipped'⟩ := handed
      rw [ended, afterStep_ok]
      dsimp only
      rw [if_pos rfl]
      apply wp_mono (ih next later succeeding' unclipped' filters' (kept.trans started))
      intro out robot'' s'' handed
      obtain ⟨run'', ended', streamed', kept', done⟩ := handed
      refine ⟨run'', ended', ?_, kept'.trans kept, done⟩
      rw [streamed', streamed, List.append_assoc]
      rfl

theorem guardedTicks_untouched (caps : p.PositiveCaps) (uncapped : p.maxLinearAccel = none)
    (roomy : p.maxLinearSpeed * dt ≤ p.maxPoseJumpLinear) (chunk : CartesianChunk ℝ)
    (relaxed : Bool) (t0 : ℝ) {u : Quat ℝ} {step : ℝ} (slower : step ≤ p.maxLinearSpeed * dt)
    {setpoints : List (CartesianSetpoint ℝ)} {ref : Pose ℝ} {run : ChunkRun ℝ} {robot : Robot ℝ}
    {s : Seen ℝ} (aligned : quatNormalize ref.quat = u)
    (inSpec : InSpecFrom p u step ref.pos setpoints) (succeeding : run.result.success = true)
    (unclipped : run.result.clipped = false) (filters : robot.FiltersFrom p dt ref)
    (started : s.start = some start) :
    wp (clearRun cap start) (guardedTicks chunk cap relaxed t0 setpoints run)
      (fun out _ s' => ∃ run', out = .ok run' ∧
        Handed (setpoints.map (.cartesian ·.pose)) s s' run') robot s := by
  unfold guardedTicks
  rw [wp_bind, wp_tryCatch, wp_bind]
  apply wp_mono (cartesianTicks_untouched caps uncapped roomy chunk t0 slower setpoints aligned
    inSpec succeeding unclipped filters started)
  intro out ticked s₁ handed
  obtain ⟨run₁, ended₁, streamed₁, kept₁, succeeding₁, unclipped₁⟩ := handed
  rw [ended₁, afterStep_ok, wp_bind]
  apply wp_mono (settles_resolvePending chunk run₁ succeeding₁ ticked s₁ (kept₁.trans started))
  intro out resolved s₂ settled
  obtain ⟨_, streamed₂, kept₂, run₂, ended₂, success₂, clipped₂⟩ := settled
  rw [ended₂, afterStep_ok, wp_pure, afterStep_ok, afterStep_ok]
  apply wp_mono (settles_restoreWrenchLimit relaxed run₂ resolved s₂
    (kept₂.trans (kept₁.trans started)))
  intro out restored s₃ settled
  obtain ⟨_, streamed₃, kept₃, run₃, ended₃, success₃, clipped₃⟩ := settled
  exact ⟨run₃, ended₃, streamed₃.trans (streamed₂.trans streamed₁),
    kept₃.trans (kept₂.trans kept₁), success₃.trans (success₂.trans succeeding₁),
    clipped₃.trans (clipped₂.trans unclipped₁)⟩

def StartsFrom (robot : Robot ℝ) (result : ExecutionResult ℝ) (s : Seen ℝ)
    (out : Except Exc (RobotState ℝ × ExecutionResult ℝ)) (robot' : Robot ℝ) (s' : Seen ℝ) : Prop :=
  robot' = robot ∧ s'.streamed = s.streamed ∧ s'.start = s.start ∧
    ∃ state result', out = .ok (state, result') ∧ s'.last = some state ∧
      result'.success = result.success ∧ result'.clipped = result.clipped

theorem ensureCartesianStart_startsFrom (chunk : CartesianChunk ℝ) (result : ExecutionResult ℝ)
    (robot : Robot ℝ) (s : Seen ℝ) :
    wp (clearRun cap start) (ensureCartesianStart chunk result) (StartsFrom robot result s) robot s := by
  unfold ensureCartesianStart
  apply wp_reads
  intro state _
  split
  · exact ⟨rfl, rfl, rfl, state, result, rfl, rfl, rfl, rfl⟩
  · unfold startCartesianImpedance
    rw [wp_bind, wp_bind, wp_get, afterStep_ok, wp_backend]
    refine ⟨trivial, fun answer admitted => ?_⟩
    cases admitted.1
    rw [afterStep_ok]
    apply wp_reads
    intro state' _
    exact ⟨rfl, List.append_nil _, rfl, state', _, rfl, rfl, rfl, rfl⟩

theorem tightenedCap_pos {profileCap chunkCap : ℝ} (positive : 0 < profileCap) :
    0 < tightenedCap profileCap chunkCap := by
  unfold tightenedCap
  split
  · rename_i asked
    rw [Scalar.lesser_real]
    exact lt_min positive asked
  · exact positive

theorem tightenedCap_le (profileCap chunkCap : ℝ) :
    tightenedCap profileCap chunkCap ≤ profileCap := by
  unfold tightenedCap
  split
  · rw [Scalar.lesser_real]
    exact min_le_left _ _
  · exact le_rfl

/-- The interpolator a chunk is run with. -/
def Robot.interpolator {K : Type} [Scalar K] (robot : Robot K) (executed : CartesianChunk K)
    (startPose : Pose K) : CartesianChunkInterpolator K where
  chunk := executed
  startPose := startPose
  hz := robot.controlHz
  maxLinearSpeed := some (tightenedCap robot.profile.maxLinearSpeed executed.maxTcpLinearSpeed)
  maxAngularSpeed := some (tightenedCap robot.profile.maxAngularSpeed executed.maxTcpAngularSpeed)

/-- A facade whose filter runs under the active profile at the facade's rate. -/
structure Robot.Paced (robot : Robot ℝ) : Prop where
  ticking : 0 < robot.controlHz
  profile : robot.filter.p = robot.profile
  step : robot.filter.dt = 1 / robot.controlHz

theorem Robot.init_paced (cfg : RobotConfig ℝ) (profile : SafetyProfile ℝ) {hz : ℝ}
    (ticking : 0 < hz) : (Robot.init cfg profile (some hz)).Paced where
  ticking := by
    unfold init
    dsimp only
    rw [if_pos (Or.inl ticking)]
    exact ticking
  profile := rfl
  step := rfl

/-- A chunk in spec for the state it is run from: the start is in the box, and every
waypoint it executes lies there and holds the orientation. -/
structure CartesianChunk.RunsInSpec (executed : CartesianChunk ℝ) (p : SafetyProfile ℝ)
    (startPose : Pose ℝ) : Prop where
  start : p.contains startPose.pos
  waypoints : ∀ wp ∈ executed.waypoints, wp.InSpec p (quatNormalize startPose.quat)

theorem interpolator_inSpec {robot : Robot ℝ} (paced : robot.Paced)
    (caps : robot.profile.PositiveCaps) {executed : CartesianChunk ℝ} {startPose : Pose ℝ}
    (inSpec : executed.RunsInSpec robot.profile startPose) :
    InSpecFrom robot.profile (quatNormalize startPose.quat)
        (tightenedCap robot.profile.maxLinearSpeed executed.maxTcpLinearSpeed *
          (1 / robot.controlHz)) startPose.pos (robot.interpolator executed startPose).setpoints ∧
      ((robot.interpolator executed startPose).setpoints.map (·.pose.pos.toE)).getLast? =
        (executed.waypoints.map (·.position.toE)).getLast? :=
  (robot.interpolator executed startPose).setpointsFrom_inSpec (tightenedCap_pos caps.linearSpeed)
    rfl (one_div_pos.mpr paced.ticking) executed.waypoints 0 inSpec.start rfl inSpec.waypoints

def RanUntouched (chunk : CartesianChunk ℝ) (robot : Robot ℝ) (start : RobotState ℝ) (s : Seen ℝ)
    (out : Except Exc (ExecutionResult ℝ)) (s' : Seen ℝ) : Prop :=
  ∃ executed result, chunk.forExecution start.tcpPose = .ok executed ∧ out = .ok result ∧
    result.success = true ∧ result.clipped = false ∧
      s'.streamed = s.streamed ++
        (robot.interpolator executed start.tcpPose).setpoints.map (.cartesian ·.pose)

theorem wp_arms {α : Type} (relaxed : Bool) (limit : Wrench ℝ) {x : RobotM ℝ α}
    {post : Except Exc α → Robot ℝ → Seen ℝ → Prop} {robot : Robot ℝ} {s : Seen ℝ}
    (rest : wp (clearRun cap start) x post robot s) :
    wp (clearRun cap start) (do armWrenchLimit relaxed limit; x) post robot s := by
  cases relaxed with
  | false => exact rest
  | true =>
      apply wp_accepted
      change wp _ _ _ _ { s with streamed := s.streamed ++ [] }
      rw [List.append_nil]
      exact rest

theorem returnResult_clear {result : ExecutionResult ℝ} (succeeding : result.success = true)
    (raiseOnStop : Bool) {robot : Robot ℝ} {s : Seen ℝ}
    {post : Except Exc (ExecutionResult ℝ) → Robot ℝ → Seen ℝ → Prop}
    (rest : post (.ok result) robot s) :
    wp (clearRun cap start) (returnResult result raiseOnStop) post robot s := by
  unfold returnResult
  rw [wp_bind, wp_op]
  refine ⟨trivial, fun _ _ => ?_⟩
  rw [afterStep_ok, if_neg (fun both => both.2 succeeding)]
  exact rest

theorem ChunkRun.report_verdict (run : ChunkRun ℝ) (start final : RobotState ℝ) :
    (run.report start final).success = run.result.success ∧
      (run.report start final).clipped = run.result.clipped := by
  unfold report
  dsimp only
  split
  · split <;> exact ⟨rfl, rfl⟩
  · split <;> exact ⟨rfl, rfl⟩

theorem runCartesianChunk_untouched {chunk : CartesianChunk ℝ} {robot : Robot ℝ}
    (paced : robot.Paced) (caps : robot.profile.PositiveCaps)
    (uncapped : robot.profile.maxLinearAccel = none)
    (roomy : robot.profile.maxLinearSpeed * (1 / robot.controlHz) ≤ robot.profile.maxPoseJumpLinear)
    (inSpec : ∀ executed, chunk.forExecution start.tcpPose = .ok executed →
      executed.RunsInSpec robot.profile start.tcpPose) (raiseOnStop record : Bool) {s : Seen ℝ}
    (fresh : s.start = none) :
    wp (clearRun (effectiveWrenchCap robot.profile chunk) start)
      (runCartesianChunk chunk raiseOnStop record)
      (fun out _ s' => s'.start = some start → RanUntouched chunk robot start s out s') robot s := by
  have neverStarted {s' : Seen ℝ} {q : Prop} (kept : s'.start = s.start)
      (started : s'.start = some start) : q := by
    rw [kept, fresh] at started
    cases started
  unfold runCartesianChunk verifyChunkProfile
  rw [wp_bind, wp_bind, wp_get, afterStep_ok]
  dsimp only
  split
  · exact fun started => neverStarted rfl started
  rw [wp_pure, afterStep_ok, wp_bind]
  apply wp_mono (ensureCartesianStart_startsFrom chunk _ robot s)
  intro out robot₁ s₁ starts
  obtain ⟨sameRobot, streamed₁, kept₁, state, result, ended, read, succeeding, unclipped⟩ := starts
  rw [ended, sameRobot, afterStep_ok]
  dsimp only
  rw [wp_bind, wp_resetFilter, afterStep_ok, wp_bind, wp_attempt]
  cases made : chunk.forExecution state.tcpPose with
  | error e => exact fun started => neverStarted kept₁ started
  | ok executed =>
      rw [afterStep_ok, wp_bind, wp_get, afterStep_ok]
      dsimp only
      apply wp_arms
      rw [wp_bind]
      unfold perfCounter
      rw [wp_op]
      refine ⟨trivial, fun now admitted => ?_⟩
      have known : s₁.start.or s₁.last = some state := by
        rw [kept₁, fresh, Option.none_or, read]
      have same : state = start := admitted.2 state known
      rw [same] at made known
      rw [same, afterStep_ok]
      have here := inSpec executed made
      have filters : ({ robot with filter := robot.filter.reset (some start) } : Robot ℝ).FiltersFrom
          robot.profile (1 / robot.controlHz) start.tcpPose :=
        ⟨(robot.filter.reset_p _ _ _).trans paced.profile,
          (robot.filter.reset_dt _ _ _).trans paced.step, rfl⟩
      have slower : tightenedCap robot.profile.maxLinearSpeed executed.maxTcpLinearSpeed *
          (1 / robot.controlHz) ≤ robot.profile.maxLinearSpeed * (1 / robot.controlHz) :=
        mul_le_mul_of_nonneg_right (tightenedCap_le _ _) (one_div_pos.mpr paced.ticking).le
      rw [wp_bind, forExecution_wrenchCap made]
      apply wp_mono (guardedTicks_untouched caps uncapped roomy executed _ _ slower rfl
        (interpolator_inSpec paced caps here).1 _ _ filters known)
      · intro out robot₂ s₂ handed
        obtain ⟨run, ended₂, streamed₂, kept₂, succeeding₂, unclipped₂⟩ := handed
        rw [ended₂, afterStep_ok]
        apply wp_reads
        intro final _
        have verdict := run.report_verdict start final
        apply returnResult_clear (verdict.1.trans succeeding₂)
        intro _
        refine ⟨executed, _, made, rfl, verdict.1.trans succeeding₂, verdict.2.trans unclipped₂, ?_⟩
        exact streamed₂.trans (congrArg (· ++ _) streamed₁)
      · split <;> exact succeeding
      · split <;> exact unclipped

theorem wp_leased {α : Type} {x : RobotM ℝ α} {post : Except Exc α → Robot ℝ → Seen ℝ → Prop}
    {robot : Robot ℝ} {s : Seen ℝ} (rest : wp (clearRun cap start) x post robot s) :
    wp (clearRun cap start) (do checkLease; x) post robot s := by
  unfold checkLease
  rw [wp_bind, wp_bind, wp_op]
  refine ⟨trivial, fun known _ => ?_⟩
  rw [afterStep_ok]
  cases known with
  | none => exact ⟨trivial, fun _ _ => rest⟩
  | some owner => exact rest

theorem executeCartesianChunk_untouched {chunk : CartesianChunk ℝ} {robot : Robot ℝ}
    (paced : robot.Paced) (caps : robot.profile.PositiveCaps)
    (uncapped : robot.profile.maxLinearAccel = none)
    (roomy : robot.profile.maxLinearSpeed * (1 / robot.controlHz) ≤ robot.profile.maxPoseJumpLinear)
    (inSpec : ∀ executed, chunk.forExecution start.tcpPose = .ok executed →
      executed.RunsInSpec robot.profile start.tcpPose) (raiseOnStop record : Bool)
    {calls : List (Call (effects ℝ))} {out : Except Exc (ExecutionResult ℝ)} {robot' : Robot ℝ}
    (ran : Trace (executeCartesianChunk chunk raiseOnStop record robot) calls (.done (out, robot')))
    (clear : ∀ c ∈ calls, Unobstructed (effectiveWrenchCap robot.profile chunk) c)
    (begun : (seen calls).start = some start) :
    RanUntouched chunk robot start {} out (seen calls) := by
  have runs : wp (clearRun (effectiveWrenchCap robot.profile chunk) start)
      (executeCartesianChunk chunk raiseOnStop record)
      (fun out _ s' => s'.start = some start → RanUntouched chunk robot start {} out s')
      robot {} := by
    unfold executeCartesianChunk
    apply wp_leased
    apply wp_uncancelled
    exact runCartesianChunk_untouched paced caps uncapped roomy inSpec raiseOnStop record rfl
  have ended := Program.wp_sound runs ran (clearRun_admitted calls {} clear begun)
  exact ended.2 begun

end Cartesian

/-! ### Joint ticks -/

section Joint

variable {p : SafetyProfile ℝ} {dt : ℝ} {start : RobotState ℝ}

/-- The facade's filter runs under its profile `p` at `dt`, from the joints `ref`. -/
structure Robot.FiltersJointsFrom (robot : Robot ℝ) (p : SafetyProfile ℝ) (dt : ℝ) (ref : List ℝ) :
    Prop where
  active : robot.profile = p
  profile : robot.filter.p = p
  step : robot.filter.dt = dt
  at_ref : robot.filter.prevQ = some ref

theorem jointTick_untouched {ref q : List ℝ} (inside : p.ContainsJoints q)
    (short : JointsWithin (maxJointStep p dt) ref q) {result : ExecutionResult ℝ} {robot : Robot ℝ}
    (filters : robot.FiltersJointsFrom p dt ref) (s : Seen ℝ) :
    wp (clearRun p.maxContactWrench start) (jointTick q result)
      (fun out robot' s' => robot'.FiltersJointsFrom p dt q ∧ out = .ok (result, true) ∧
        s'.streamed = s.streamed ++ [.joint q] ∧ s'.start = s.start) robot s := by
  obtain ⟨active, sameProfile, sameStep, at_ref⟩ := filters
  unfold jointTick
  apply wp_uncancelled
  change wp _ (do let state ← getState; _) _ _ _
  apply wp_reads
  intro state light
  apply wp_healthy
  change wp _ (do let robot ← get; _) _ _ _
  rw [wp_bind, wp_get, afterStep_ok, active, if_neg (by rw [light]; exact Bool.false_ne_true)]
  have filtered := robot.filter.filterJoint_of_short at_ref (by rwa [sameProfile])
    (by rwa [sameProfile, sameStep]) state
  rw [wp_bind]
  apply wp_filterJoint_of filtered
  rw [afterStep_ok]
  apply wp_accepted
  exact ⟨⟨active, sameProfile, sameStep, rfl⟩, rfl, rfl, rfl⟩

theorem jointTicks_untouched {step : ℝ} (slower : step ≤ maxJointStep p dt)
    (qs : List (List ℝ)) (result : ExecutionResult ℝ) :
    ∀ {ref : List ℝ} {robot : Robot ℝ} (s : Seen ℝ), JointsInSpecFrom p step ref qs →
      robot.FiltersJointsFrom p dt ref →
      wp (clearRun p.maxContactWrench start) (jointTicks (qs.map Except.ok) result)
        (fun out _ s' => out = .ok result ∧ s'.streamed = s.streamed ++ qs.map .joint ∧
          s'.start = s.start) robot s := by
  induction qs with
  | nil => exact fun s _ _ => ⟨rfl, (List.append_nil _).symm, rfl⟩
  | cons q rest ih =>
      intro ref robot s inSpec filters
      have short := List.isChain_cons_cons.mp inSpec.short
      have near : JointsWithin (maxJointStep p dt) ref q :=
        short.1.imp fun _ _ within => within.trans slower
      rw [List.map_cons]
      unfold jointTicks
      rw [wp_bind, wp_attempt, afterStep_ok, wp_bind]
      apply wp_mono (jointTick_untouched (inSpec.inside q List.mem_cons_self) near filters s)
      intro out robot' s' handed
      obtain ⟨filters', ended, streamed, kept⟩ := handed
      rw [ended, afterStep_ok]
      dsimp only
      rw [if_pos rfl]
      have later : JointsInSpecFrom p step q rest :=
        ⟨short.2, fun q inRest => inSpec.inside q (List.mem_cons_of_mem _ inRest)⟩
      apply wp_mono (ih s' later filters')
      intro out robot'' s'' handed
      obtain ⟨ended', streamed', kept'⟩ := handed
      refine ⟨ended', ?_, kept'.trans kept⟩
      rw [streamed', streamed, List.append_assoc]
      rfl

theorem ensureJointStart_startsFrom {cap : Wrench ℝ} (result : ExecutionResult ℝ) (robot : Robot ℝ)
    (s : Seen ℝ) :
    wp (clearRun cap start) (ensureJointStart result) (StartsFrom robot result s) robot s := by
  unfold ensureJointStart
  apply wp_reads
  intro state _
  split
  · unfold startJointImpedance
    apply wp_accepted
    apply wp_reads
    intro state' _
    exact ⟨rfl, List.append_nil _, rfl, state', _, rfl, rfl, rfl, rfl⟩
  · exact ⟨rfl, rfl, rfl, state, result, rfl, rfl, rfl, rfl⟩

noncomputable def Robot.jointInterpolator (robot : Robot ℝ) (chunk : JointChunk ℝ)
    (startQ : List ℝ) : JointChunkInterpolator ℝ where
  chunk := chunk
  startQ := startQ
  hz := robot.controlHz
  maxJointSpeed := some (Scalar.ofNat 2 * robot.profile.maxJointSpeedScale)

/-- A chunk whose start and waypoints lie within the shrunk joint limits. -/
structure JointChunk.RunsInSpec (chunk : JointChunk ℝ) (p : SafetyProfile ℝ) (startQ : List ℝ) :
    Prop where
  start : p.ContainsJoints startQ
  waypoints : ∀ wp ∈ chunk.waypoints, p.ContainsJoints wp.positions

theorem jointInterpolator_inSpec {robot : Robot ℝ} (paced : robot.Paced)
    (caps : robot.profile.PositiveCaps) {chunk : JointChunk ℝ} {startQ : List ℝ}
    (jointed : startQ ≠ []) (inSpec : chunk.RunsInSpec robot.profile startQ) :
    ∃ qs, (robot.jointInterpolator chunk startQ).setpoints = qs.map Except.ok ∧
      JointsInSpecFrom robot.profile (maxJointStep robot.profile (1 / robot.controlHz)) startQ qs ∧
      qs.getLast? = (chunk.waypoints.map (·.positions)).getLast? := by
  have limited : robot.profile.jointLower ≠ [] := by
    intro none
    have same := inSpec.start.lower.length_eq
    rw [none, List.length_nil, List.length_eq_zero_iff] at same
    exact jointed same
  have fast : 0 < Scalar.ofNat 2 * robot.profile.maxJointSpeedScale :=
    mul_pos (by rw [Scalar.ofNat_real]; norm_num) caps.jointSpeed
  exact (robot.jointInterpolator chunk startQ).setpointsFrom_inSpec fast rfl
    (one_div_pos.mpr paced.ticking) limited chunk.waypoints inSpec.start inSpec.waypoints

def RanJointsUntouched (chunk : JointChunk ℝ) (robot : Robot ℝ) (start : RobotState ℝ) (s : Seen ℝ)
    (out : Except Exc (ExecutionResult ℝ)) (s' : Seen ℝ) : Prop :=
  ∃ (qs : List (List ℝ)) (result : ExecutionResult ℝ),
    (robot.jointInterpolator chunk start.q).setpoints = qs.map Except.ok ∧
    out = .ok result ∧ result.success = true ∧ result.clipped = false ∧
      s'.streamed = s.streamed ++ qs.map .joint

theorem runJointChunk_untouched {chunk : JointChunk ℝ} {robot : Robot ℝ} (paced : robot.Paced)
    (caps : robot.profile.PositiveCaps) (jointed : start.q ≠ [])
    (inSpec : chunk.RunsInSpec robot.profile start.q) (raiseOnStop : Bool) {s : Seen ℝ}
    (fresh : s.start = none) :
    wp (clearRun robot.profile.maxContactWrench start) (runJointChunk chunk raiseOnStop)
      (fun out _ s' => s'.start = some start → RanJointsUntouched chunk robot start s out s')
      robot s := by
  unfold runJointChunk verifyChunkProfile
  rw [wp_bind, wp_bind, wp_get, afterStep_ok]
  dsimp only
  split
  · intro started
    rw [fresh] at started
    cases started
  rw [wp_pure, afterStep_ok, wp_bind]
  apply wp_mono (ensureJointStart_startsFrom _ robot s)
  intro out robot₁ s₁ starts
  obtain ⟨sameRobot, streamed₁, kept₁, state, result, ended, read, succeeding, unclipped⟩ := starts
  rw [ended, sameRobot, afterStep_ok]
  dsimp only
  rw [wp_bind, wp_resetFilter, afterStep_ok, wp_bind, wp_get, afterStep_ok, wp_bind]
  unfold perfCounter
  rw [wp_op]
  refine ⟨trivial, fun now admitted => ?_⟩
  have known : s₁.start.or s₁.last = some state := by
    rw [kept₁, fresh, Option.none_or, read]
  have same : state = start := admitted.2 state known
  rw [same] at known
  rw [same, afterStep_ok, wp_bind]
  obtain ⟨qs, made, steps, _⟩ := jointInterpolator_inSpec paced caps jointed inSpec
  have filters : ({ robot with filter := robot.filter.reset (some start) } : Robot ℝ).FiltersJointsFrom
      robot.profile (1 / robot.controlHz) start.q :=
    ⟨rfl, (robot.filter.reset_p _ _ _).trans paced.profile,
      (robot.filter.reset_dt _ _ _).trans paced.step, rfl⟩
  change wp _ (jointTicks (robot.jointInterpolator chunk start.q).setpoints result) _ _ _
  rw [made]
  apply wp_mono (jointTicks_untouched le_rfl qs result _ steps filters)
  intro out robot₂ s₂ handed
  obtain ⟨ended₂, streamed₂, kept₂⟩ := handed
  rw [ended₂, afterStep_ok]
  apply wp_reads
  intro final _
  apply returnResult_clear (by exact succeeding)
  intro _
  exact ⟨qs, _, made, rfl, succeeding, unclipped, streamed₂.trans (congrArg (· ++ _) streamed₁)⟩

theorem executeJointChunk_untouched {chunk : JointChunk ℝ} {robot : Robot ℝ} (paced : robot.Paced)
    (caps : robot.profile.PositiveCaps) (jointed : start.q ≠ [])
    (inSpec : chunk.RunsInSpec robot.profile start.q) (raiseOnStop : Bool)
    {calls : List (Call (effects ℝ))} {out : Except Exc (ExecutionResult ℝ)} {robot' : Robot ℝ}
    (ran : Trace (executeJointChunk chunk raiseOnStop robot) calls (.done (out, robot')))
    (clear : ∀ c ∈ calls, Unobstructed robot.profile.maxContactWrench c)
    (begun : (seen calls).start = some start) :
    RanJointsUntouched chunk robot start {} out (seen calls) := by
  have runs : wp (clearRun robot.profile.maxContactWrench start)
      (executeJointChunk chunk raiseOnStop)
      (fun out _ s' => s'.start = some start → RanJointsUntouched chunk robot start {} out s')
      robot {} := by
    unfold executeJointChunk
    apply wp_leased
    apply wp_uncancelled
    exact runJointChunk_untouched paced caps jointed inSpec raiseOnStop rfl
  have ended := Program.wp_sound runs ran (clearRun_admitted calls {} clear begun)
  exact ended.2 begun

end Joint

/-! ### Two such runs -/

/-- A Cartesian tick that meets no obstacle, in a run without gripper work or a record. -/
def clearCartesianTick {K : Type} [Scalar K] (state : RobotState K) (pose : Pose K)
    (wrench : Option (Wrench K)) : List (Call (effects K)) :=
  [⟨.cancelIsSet .tick, false⟩, ⟨.readState, .ok state⟩, ⟨.publishState state, ()⟩,
    ⟨.inFault, .ok false⟩, ⟨.write (.streamCartesian pose wrench), .ok ()⟩]

theorem clearCartesianTick_unobstructed {K : Type} [Scalar K] {cap : Wrench K}
    {state : RobotState K} (light : exceeds state.wrench cap = false) (pose : Pose K)
    (wrench : Option (Wrench K)) :
    ∀ c ∈ clearCartesianTick state pose wrench, Unobstructed cap c := by
  intro c member
  simp only [clearCartesianTick, List.mem_cons, List.not_mem_nil, or_false] at member
  rcases member with same | same | same | same | same <;> subst same
  · rfl
  · exact ⟨state, rfl, light⟩
  · trivial
  · rfl
  · rfl

theorem cartesianTick_clear {K : Type} [Scalar K] {robot : Robot K} {chunk : CartesianChunk K}
    {cap : Wrench K} {t : K} {sp : CartesianSetpoint K} {run : ChunkRun K} {state : RobotState K}
    {filter : SafetyFilter K} (light : exceeds state.wrench cap = false)
    (passed : robot.filter.filterCartesian sp.pose state (some cap) =
      ({ ok := true, pose := some sp.pose, clipped := false, clipReasons := [] }, filter))
    (noGrip : sp.gripper = none) (noClose : run.pendingClose = none)
    (unrecorded : run.trajectory = none) :
    ∃ run', run'.pendingClose = none ∧ run'.trajectory = none ∧
      Trace (cartesianTick chunk cap t sp run robot)
        (clearCartesianTick state sp.pose (chunkWrench chunk))
        (.done (.ok (run', true), { robot with filter := filter })) := by
  let ticked : ChunkRun K :=
    { run with tickIdx := run.tickIdx + 1, currentSegment := sp.segment }
  have fires : firePending chunk ticked state = pure ticked := by
    unfold firePending
    rw [show ticked.pendingClose = none from noClose]
  have grips : gripperPhase chunk robot.controlHz sp ticked state = pure ticked := by
    unfold gripperPhase
    rw [noGrip]
  have records : recordRow t sp.pose state ticked = pure ticked := by
    unfold recordRow
    rw [show ticked.trajectory = none from unrecorded]
  have after : Trace (afterStream chunk t sp state sp.pose ticked { robot with filter := filter })
      [] (.done (.ok (ticked.record robot.dt state sp.pose.pos), { robot with filter := filter })) := by
    change Trace ((firePending chunk ticked state >>= _ : RobotM K (ChunkRun K)) _) _ _
    rw [fires]
    change Trace ((gripperPhase chunk robot.controlHz sp ticked state >>= _ :
      RobotM K (ChunkRun K)) _) _ _
    rw [grips]
    change Trace ((recordRow t sp.pose state ticked >>= _ : RobotM K (ChunkRun K)) _) _ _
    rw [records]
    exact .nil _
  refine ⟨ticked.record robot.dt state sp.pose.pos, noClose, unrecorded, ?_⟩
  refine .cons (.cons (.cons (.cons ?_)))
  change Trace ((if exceeds state.wrench cap = true then _ else
    (filterCartesian sp.pose state (some cap) >>= _) : RobotM K (ChunkRun K × Bool)) robot) _ _
  have filtered : Trace (filterCartesian sp.pose state (some cap) robot) []
      (.done (.ok { ok := true, pose := some sp.pose, clipped := false, clipReasons := [] },
        { robot with filter := filter })) := by
    change Trace (Program.done ((Except.ok (robot.filter.filterCartesian sp.pose state (some cap)).1 :
      Except Exc (SafetyResult K)),
        { robot with filter := (robot.filter.filterCartesian sp.pose state (some cap)).2 })) _ _
    rw [passed]
    exact .nil _
  rw [if_neg (by rw [light]; exact Bool.false_ne_true)]
  apply Script.trace_then filtered
  refine .cons ?_
  exact Script.trace_then after (.nil _)

section Clear

variable {p : SafetyProfile ℝ} {dt : ℝ} {cap : Wrench ℝ}

theorem cartesianTicks_clear (caps : p.PositiveCaps) (uncapped : p.maxLinearAccel = none)
    (roomy : p.maxLinearSpeed * dt ≤ p.maxPoseJumpLinear) (chunk : CartesianChunk ℝ) (t0 : ℝ)
    {u : Quat ℝ} {step : ℝ} (slower : step ≤ p.maxLinearSpeed * dt) {state : RobotState ℝ}
    (light : exceeds state.wrench cap = false) (setpoints : List (CartesianSetpoint ℝ)) :
    ∀ {ref : Pose ℝ} (run : ChunkRun ℝ) {robot : Robot ℝ}, quatNormalize ref.quat = u →
      InSpecFrom p u step ref.pos setpoints → (∀ sp ∈ setpoints, sp.gripper = none) →
      run.pendingClose = none → run.trajectory = none → robot.FiltersFrom p dt ref →
      ∃ calls run' robot', run'.pendingClose = none ∧ (∀ c ∈ calls, Unobstructed cap c) ∧
        Trace (cartesianTicks chunk cap t0 setpoints run robot) calls (.done (.ok run', robot')) := by
  induction setpoints with
  | nil =>
      intro ref run robot _ _ _ noClose _ _
      exact ⟨[], run, robot, noClose, fun _ none => absurd none List.not_mem_nil, .nil _⟩
  | cons sp rest ih =>
      intro ref run robot aligned inSpec noGrip noClose unrecorded filters
      obtain ⟨inside, next, short, later⟩ := inSpec.uncons aligned
      obtain ⟨v, passes⟩ := filters.passes caps uncapped roomy inside (aligned.trans next.symm)
        (short.trans slower) light
      obtain ⟨run₁, noClose₁, unrecorded₁, now⟩ := cartesianTick_clear light passes
        (noGrip sp List.mem_cons_self) noClose unrecorded
      have filters₁ : ({ robot with filter := { robot.filter with
          prevPose := some sp.pose, prevLinVel := some v } } : Robot ℝ).FiltersFrom p dt sp.pose :=
        ⟨filters.profile, filters.step, rfl⟩
      obtain ⟨calls, run₂, robot₂, noClose₂, clear, after⟩ := ih run₁ next later
        (fun sp inRest => noGrip sp (List.mem_cons_of_mem _ inRest)) noClose₁ unrecorded₁ filters₁
      refine ⟨_, run₂, robot₂, noClose₂, ?_, Script.trace_then now after⟩
      intro c member
      rcases List.mem_append.mp member with here | there
      · exact clearCartesianTick_unobstructed light sp.pose _ c here
      · exact clear c there

theorem setpointsFrom_noGrip (interp : CartesianChunkInterpolator ℝ)
    (waypoints : List (CartesianWaypoint ℝ)) :
    ∀ (pos : Vec3 ℝ) (quat : Quat ℝ) (segIdx : ℕ), (∀ wp ∈ waypoints, wp.gripper = none) →
      ∀ sp ∈ interp.setpointsFrom pos quat segIdx waypoints, sp.gripper = none := by
  induction waypoints with
  | nil =>
      intro pos quat segIdx _ sp none
      cases none
  | cons wp rest ih =>
      intro pos quat segIdx noGrip sp member
      unfold CartesianChunkInterpolator.setpointsFrom at member
      rcases List.mem_append.mp member with now | later
      · obtain ⟨k, _, same⟩ := List.mem_map.mp now
        rw [← same, noGrip wp List.mem_cons_self]
        exact ite_self none
      · exact ih _ _ _ (fun wp inRest => noGrip wp (List.mem_cons_of_mem _ inRest)) sp later

/-- A run of ticks that ended well passes the guard without a further call. -/
theorem guardedTicks_trace {K : Type} [Scalar K] {chunk : CartesianChunk K} {cap : Wrench K}
    {t : K} {setpoints : List (CartesianSetpoint K)} {run run' : ChunkRun K} {robot robot' : Robot K}
    {calls : List (Call (effects K))} (noClose : run'.pendingClose = none)
    (ran : Trace (cartesianTicks chunk cap t setpoints run robot) calls
      (.done (.ok run', robot'))) :
    Trace (guardedTicks chunk cap false t setpoints run robot) (calls ++ [])
      (.done (.ok run', robot')) := by
  have resolves : resolvePending chunk run' = pure run' := by
    unfold resolvePending
    rw [noClose]
  have body : Trace ((do
      let run ← cartesianTicks chunk cap t setpoints run
      let run ← resolvePending chunk run
      pure (Except.ok run : Except Exc (ChunkRun K)) : RobotM K _) robot) (calls ++ [])
      (.done (.ok (.ok run'), robot')) := by
    apply Script.trace_then ran
    rw [resolves]
    exact .nil _
  have caught : Trace ((tryCatch (do
      let run ← cartesianTicks chunk cap t setpoints run
      let run ← resolvePending chunk run
      pure (Except.ok run : Except Exc (ChunkRun K))) fun e => pure (.error e) : RobotM K _) robot)
      (calls ++ []) (.done (.ok (.ok run'), robot')) := body.bind _
  rw [← List.append_nil (calls ++ [])]
  exact Script.trace_then caught (.nil _)

def Robot.opening {K : Type} [Scalar K] (robot : Robot K) (chunk executed : CartesianChunk K) :
    ExecutionResult K :=
  (((({} : ExecutionResult K).note "requested_profile" (.text chunk.safetyProfile)).note
    "active_profile" (.text robot.profile.name)).note "linear_speed_cap" (.number
      (tightenedCap robot.profile.maxLinearSpeed executed.maxTcpLinearSpeed))).note
    "angular_speed_cap" (.number
      (tightenedCap robot.profile.maxAngularSpeed executed.maxTcpAngularSpeed))

def cartesianOpening {K : Type} [Scalar K] (state : RobotState K) : List (Call (effects K)) :=
  [⟨.facadeOwner, some "default"⟩, ⟨.cancelIsSet .entry, false⟩, ⟨.readState, .ok state⟩,
    ⟨.publishState state, ()⟩, ⟨.perfCounter, (0 : K)⟩]

noncomputable def cartesianAround (state : RobotState ℝ) (ticks : List (Call (effects ℝ)))
    (report : ExecutionResult ℝ) : List (Call (effects ℝ)) :=
  [⟨.facadeOwner, some "default"⟩, ⟨.cancelIsSet .entry, false⟩, ⟨.readState, .ok state⟩,
    ⟨.publishState state, ()⟩, ⟨.perfCounter, (0 : ℝ)⟩] ++ (ticks ++
      [⟨.readState, .ok state⟩, ⟨.publishState state, ()⟩,
        ⟨.chunkReturns report.success report.stopReason, ()⟩])

theorem executeCartesianChunk_opens {K : Type} [Scalar K] {robot : Robot K}
    {chunk executed : CartesianChunk K} {state : RobotState K}
    (made : chunk.forExecution state.tcpPose = .ok executed)
    (named : chunk.safetyProfile = "" ∨ chunk.safetyProfile = robot.profile.name)
    (cartesian : state.controlMode.isCartesian = true)
    (ungranted : grantedAllowance robot.profile executed = none) :
    Trace (executeCartesianChunk chunk false false robot) (cartesianOpening state)
      ((do
        let run ← guardedTicks executed (effectiveWrenchCap robot.profile executed) false 0
          (robot.interpolator executed state.tcpPose).setpoints
          { result := robot.opening chunk executed, prevPos := state.tcpPose.pos }
        let final ← getState
        returnResult (run.report state final) false : RobotM K (ExecutionResult K))
        { robot with filter := robot.filter.reset (some state) }) := by
  have verified := verifyChunkProfile_trace named ({} : ExecutionResult K)
  have started (result : ExecutionResult K) : Trace (ensureCartesianStart chunk result robot)
      ([⟨.readState, .ok state⟩, ⟨.publishState state, ()⟩] ++ [])
      (.done (.ok (state, result), robot)) := by
    apply Script.trace_then (getState_trace robot state)
    rw [if_pos cartesian]
    exact .nil _
  let anchored : Robot K := { robot with filter := robot.filter.reset (some state) }
  have reset : Trace (resetFilter state robot) [] (.done (.ok ⟨⟩, anchored)) := .nil _
  have resolved : Trace ((attempt (chunk.forExecution state.tcpPose) :
      RobotM K (CartesianChunk K)) anchored) [] (.done (.ok executed, anchored)) := by
    rw [made]
    exact .nil _
  have timed : Trace (perfCounter anchored) [⟨.perfCounter, (0 : K)⟩] (.done (.ok (0 : K), anchored)) :=
    .cons (.nil _)
  have entered : Trace (executeCartesianChunk chunk false false robot)
      [⟨.facadeOwner, some "default"⟩, ⟨.cancelIsSet .entry, false⟩]
      (runCartesianChunk chunk false false robot) := .cons (.cons (.nil _))
  refine entered.append ?_
  unfold runCartesianChunk
  apply Script.trace_silent verified
  apply Script.trace_then (started _)
  apply Script.trace_silent reset
  apply Script.trace_silent resolved
  apply Script.trace_silent (.nil _)
  change Trace ((armWrenchLimit (grantedAllowance robot.profile executed).isSome
    (effectiveWrenchCap robot.profile executed) >>= _ : RobotM K (ExecutionResult K)) anchored) _ _
  rw [ungranted]
  apply Script.trace_silent (.nil _)
  exact Script.trace_then timed (.nil _)

theorem executeCartesianChunk_trace {robot robot₁ : Robot ℝ} {chunk executed : CartesianChunk ℝ}
    {state : RobotState ℝ} (made : chunk.forExecution state.tcpPose = .ok executed)
    (named : chunk.safetyProfile = "" ∨ chunk.safetyProfile = robot.profile.name)
    (cartesian : state.controlMode.isCartesian = true)
    (ungranted : grantedAllowance robot.profile executed = none)
    {ticks : List (Call (effects ℝ))} {run : ChunkRun ℝ} (noClose : run.pendingClose = none)
    (ran : Trace (cartesianTicks executed (effectiveWrenchCap robot.profile executed) 0
      (robot.interpolator executed state.tcpPose).setpoints
      { result := robot.opening chunk executed, prevPos := state.tcpPose.pos }
      { robot with filter := robot.filter.reset (some state) }) ticks (.done (.ok run, robot₁))) :
    Trace (executeCartesianChunk chunk false false robot)
      (cartesianAround state ticks (run.report state state))
      (.done (.ok (run.report state state), robot₁)) := by
  have guarded := guardedTicks_trace noClose ran
  rw [List.append_nil] at guarded
  have final := getState_trace robot₁ state
  let report := run.report state state
  have returned : Trace (returnResult report false robot₁)
      [⟨.chunkReturns report.success report.stopReason, ()⟩] (.done (.ok report, robot₁)) :=
    .cons (.nil _)
  exact (executeCartesianChunk_opens made named cartesian ungranted).append
    (Script.trace_then guarded (Script.trace_then final returned))

theorem executeCartesianChunk_clear {robot : Robot ℝ} (paced : robot.Paced)
    (caps : robot.profile.PositiveCaps) (uncapped : robot.profile.maxLinearAccel = none)
    (roomy : robot.profile.maxLinearSpeed * (1 / robot.controlHz) ≤ robot.profile.maxPoseJumpLinear)
    {chunk executed : CartesianChunk ℝ} {state : RobotState ℝ}
    (made : chunk.forExecution state.tcpPose = .ok executed)
    (named : chunk.safetyProfile = "" ∨ chunk.safetyProfile = robot.profile.name)
    (cartesian : state.controlMode.isCartesian = true)
    (light : exceeds state.wrench (effectiveWrenchCap robot.profile chunk) = false)
    (inSpec : executed.RunsInSpec robot.profile state.tcpPose)
    (noGrip : ∀ wp ∈ executed.waypoints, wp.gripper = none)
    (ungranted : grantedAllowance robot.profile executed = none) :
    ∃ calls out robot',
      Trace (executeCartesianChunk chunk false false robot) calls (.done (out, robot')) ∧
      (∀ c ∈ calls, Unobstructed (effectiveWrenchCap robot.profile chunk) c) ∧
      (seen calls).start = some state := by
  have filters : ({ robot with filter := robot.filter.reset (some state) } : Robot ℝ).FiltersFrom
      robot.profile (1 / robot.controlHz) state.tcpPose :=
    ⟨(robot.filter.reset_p _ _ _).trans paced.profile,
      (robot.filter.reset_dt _ _ _).trans paced.step, rfl⟩
  have slower : tightenedCap robot.profile.maxLinearSpeed executed.maxTcpLinearSpeed *
      (1 / robot.controlHz) ≤ robot.profile.maxLinearSpeed * (1 / robot.controlHz) :=
    mul_le_mul_of_nonneg_right (tightenedCap_le _ _) (one_div_pos.mpr paced.ticking).le
  have within : exceeds state.wrench (effectiveWrenchCap robot.profile executed) = false := by
    rw [forExecution_wrenchCap made]
    exact light
  obtain ⟨ticks, run, robot₁, noClose, clear, ran⟩ := cartesianTicks_clear caps uncapped roomy executed 0
    slower within (robot.interpolator executed state.tcpPose).setpoints
    { result := robot.opening chunk executed, prevPos := state.tcpPose.pos } rfl
    (interpolator_inSpec paced caps inSpec).1
    (setpointsFrom_noGrip _ executed.waypoints _ _ _ noGrip) rfl rfl filters
  refine ⟨_, _, _, executeCartesianChunk_trace made named cartesian ungranted noClose ran, ?_, ?_⟩
  · intro c member
    simp only [cartesianAround, List.mem_append, List.mem_cons, List.not_mem_nil, or_false] at member
    rw [forExecution_wrenchCap made] at clear
    rcases member with (same | same | same | same | same) | inTicks | same | same | same
    · rw [same]; trivial
    · rw [same]; rfl
    · rw [same]; exact ⟨state, rfl, light⟩
    · rw [same]; trivial
    · rw [same]; trivial
    · exact clear c inTicks
    · rw [same]; exact ⟨state, rfl, light⟩
    · rw [same]; trivial
    · rw [same]; trivial
  · exact foldl_next_start (s := ⟨some state, some state, []⟩) (ticks ++
      [⟨.readState, .ok state⟩, ⟨.publishState state, ()⟩,
        ⟨.chunkReturns (run.report state state).success (run.report state state).stopReason, ()⟩])
      rfl

theorem restChunk_clear (owner : String) (n : ℕ) :
    (∀ c ∈ restChunk owner n, Unobstructed tabletop.maxContactWrench c) ∧
      (seen (restChunk owner n)).start = some zeroed := by
  constructor
  · intro c member
    have tick : ∀ c ∈ (List.replicate n (clearTick zeroed (uniform 0))).flatten,
        Unobstructed tabletop.maxContactWrench c := by
      intro c inTicks
      obtain ⟨tick, repeated, here⟩ := List.mem_flatten.mp inTicks
      rw [List.eq_of_mem_replicate repeated] at here
      simp only [clearTick, List.mem_cons, List.not_mem_nil, or_false] at here
      rcases here with same | same | same | same | same <;> subst same
      · rfl
      · exact ⟨zeroed, rfl, zeroed_light⟩
      · trivial
      · rfl
      · rfl
    simp only [restChunk, List.mem_append, List.mem_cons, List.not_mem_nil, or_false] at member
    rcases member with (same | same | same | same | same) | inTicks | same | same | same
    · rw [same]; trivial
    · rw [same]; rfl
    · rw [same]; exact ⟨zeroed, rfl, zeroed_light⟩
    · rw [same]; trivial
    · rw [same]; trivial
    · exact tick c inTicks
    · rw [same]; exact ⟨zeroed, rfl, zeroed_light⟩
    · rw [same]; trivial
    · rw [same]; trivial
  · exact foldl_next_start (s := ⟨some zeroed, some zeroed, []⟩)
      ((List.replicate n (clearTick zeroed (uniform 0))).flatten ++
        [⟨.readState, .ok zeroed⟩, ⟨.publishState zeroed, ()⟩, ⟨.chunkReturns true .none, ()⟩]) rfl

end Clear

/-- The setpoints of a chunk in spec reach the backend as the interpolator makes them, and
the last of them is the last waypoint executed. -/
theorem inSpec_chunks_untouched {robot : Robot ℝ} (paced : robot.Paced)
    (caps : robot.profile.PositiveCaps) (uncapped : robot.profile.maxLinearAccel = none)
    (roomy : robot.profile.maxLinearSpeed * robot.filter.dt ≤ robot.profile.maxPoseJumpLinear) :
    (∀ (chunk : CartesianChunk ℝ) (raiseOnStop record : Bool) (calls : List (Call (effects ℝ)))
        (out : Except Exc (ExecutionResult ℝ)) (robot' : Robot ℝ) (start : RobotState ℝ),
      Trace (executeCartesianChunk chunk raiseOnStop record robot) calls (.done (out, robot')) →
      (∀ c ∈ calls, Unobstructed (effectiveWrenchCap robot.profile chunk) c) →
      (seen calls).start = some start →
      (∀ executed, chunk.forExecution start.tcpPose = .ok executed →
        executed.RunsInSpec robot.profile start.tcpPose) →
      ∃ executed result pose, chunk.forExecution start.tcpPose = .ok executed ∧
        out = .ok result ∧ result.success = true ∧ result.clipped = false ∧
        (seen calls).streamed =
          (robot.interpolator executed start.tcpPose).setpoints.map (.cartesian ·.pose) ∧
        (seen calls).streamed.getLast? = some (.cartesian pose) ∧
        (executed.waypoints.map (·.position)).getLast? = some pose.pos) ∧
    (∀ (chunk : JointChunk ℝ) (raiseOnStop : Bool) (calls : List (Call (effects ℝ)))
        (out : Except Exc (ExecutionResult ℝ)) (robot' : Robot ℝ) (start : RobotState ℝ),
      Trace (executeJointChunk chunk raiseOnStop robot) calls (.done (out, robot')) →
      (∀ c ∈ calls, Unobstructed robot.profile.maxContactWrench c) →
      (seen calls).start = some start → start.q ≠ [] →
      chunk.RunsInSpec robot.profile start.q →
      ∃ (qs : List (List ℝ)) (result : ExecutionResult ℝ),
        (robot.jointInterpolator chunk start.q).setpoints = qs.map Except.ok ∧
        out = .ok result ∧ result.success = true ∧ result.clipped = false ∧
        (seen calls).streamed = qs.map .joint ∧
        qs.getLast? = (chunk.waypoints.map (·.positions)).getLast?) := by
  rw [paced.step] at roomy
  constructor
  · intro chunk raiseOnStop record calls out robot' start ran clear begun inSpec
    obtain ⟨executed, result, made, ended, succeeding, unclipped, streamed⟩ :=
      executeCartesianChunk_untouched paced caps uncapped roomy inSpec raiseOnStop record ran clear
        begun
    have ends := (interpolator_inSpec paced caps (inSpec executed made)).2
    have plain : (seen calls).streamed =
        (robot.interpolator executed start.tcpPose).setpoints.map (.cartesian ·.pose) := streamed
    rw [List.getLast?_map, List.getLast?_map] at ends
    cases final : executed.waypoints.getLast? with
    | none => exact absurd (List.getLast?_eq_none_iff.mp final) executed.nonempty
    | some wp =>
        rw [final, Option.map_some, Option.map_eq_some_iff] at ends
        obtain ⟨sp, last, same⟩ := ends
        refine ⟨executed, result, sp.pose, made, ended, succeeding, unclipped, plain, ?_, ?_⟩
        · rw [plain, List.getLast?_map, last]
          rfl
        · rw [List.getLast?_map, final, Vec3.toE_injective same]
          rfl
  · intro chunk raiseOnStop calls out robot' start ran clear begun jointed inSpec
    obtain ⟨qs, result, made, ended, succeeding, unclipped, streamed⟩ :=
      executeJointChunk_untouched paced caps jointed inSpec raiseOnStop ran clear begun
    obtain ⟨qs', made', _, ends⟩ := jointInterpolator_inSpec paced caps jointed inSpec
    have same : qs' = qs :=
      List.map_injective_iff.mpr (fun _ _ => Except.ok.inj) (made'.symm.trans made)
    rw [same] at ends
    exact ⟨qs, result, made, ended, succeeding, unclipped, streamed, ends⟩

noncomputable def tabletopRobot : Robot ℝ := .init {} tabletop (some 100)

noncomputable def poised : RobotState ℝ :=
  { stamp := 0, tcpPose := overTable, controlMode := .nrtCartesianMotionForce }

theorem tenFrames_timed {K : Type} : (some (10 : Int)).isSome ∨ (none : Option K).isSome :=
  Or.inl rfl

theorem tenFrames_positive : ∀ n : Int, some 10 = some n → 0 < n := by
  intro n frames
  cases frames
  decide

noncomputable def raiseChunk : CartesianChunk ℝ where
  waypoints := [{
    position := raiseCall.target.pos
    quaternion := none
    gripper := none
    nFrames := some 10
    duration := none
    frame := "base"
    timed := tenFrames_timed
    framesPositive := tenFrames_positive }]
  nonempty := List.cons_ne_nil _ _
  allowanceNonneg := no_allowance
  gatePositive := no_gate

noncomputable def restingChunk : JointChunk ℝ where
  waypoints := [{ positions := uniform 0, duration := some 1, timed := Or.inr rfl }]
  nonempty := List.cons_ne_nil _ _

theorem uniform_containsJoints : tabletop.ContainsJoints (uniform 0) where
  lower := by
    norm_num [uniform, tabletop, List.replicate]
  upper := by
    norm_num [uniform, tabletop, List.replicate]

theorem tabletopRobot_paced : tabletopRobot.Paced := Robot.init_paced {} tabletop (by norm_num)

theorem tabletopRobot_roomy : tabletopRobot.profile.maxLinearSpeed * tabletopRobot.filter.dt ≤
    tabletopRobot.profile.maxPoseJumpLinear := by
  have rate : tabletopRobot.filter.dt = 1 / 100 := by
    change (1 : ℝ) / (if (0 : ℝ) < 100 ∨ (100 : ℝ) < 0 then 100 else _) = 1 / 100
    rw [if_pos (Or.inl (by norm_num))]
  rw [rate]
  norm_num [tabletopRobot, Robot.init, tabletop]

theorem raiseChunk_inSpec : raiseChunk.RunsInSpec tabletop overTable where
  start := overTable_contains rfl rfl rfl
  waypoints := by
    intro wp member
    rw [List.mem_singleton.mp member]
    refine ⟨?_, ?_⟩
    · intro axis
      cases axis <;> norm_num [SafetyProfile.interval, axisValue, tabletop, raiseCall]
    · intro q given
      cases given

theorem poised_light : exceeds poised.wrench (effectiveWrenchCap tabletop raiseChunk) = false := by
  rw [Bool.eq_false_iff, ne_eq, exceeds_real]
  intro heavy
  obtain ⟨axis, above⟩ := heavy
  fin_cases axis <;>
    norm_num [poised, effectiveWrenchCap, grantedAllowance, raiseChunk, tabletop] at above

theorem inSpec_chunks_untouched_tabletop :
    (∃ calls result, (seen calls).start = some poised ∧
      (∃ robot', Trace (executeCartesianChunk raiseChunk false false tabletopRobot) calls
        (.done (.ok result, robot'))) ∧ result.clipped = false ∧
      (seen calls).streamed =
        (tabletopRobot.interpolator raiseChunk overTable).setpoints.map (.cartesian ·.pose) ∧
      ∃ pose, (seen calls).streamed.getLast? = some (.cartesian pose) ∧
        pose.pos = raiseCall.target.pos) ∧
    (∃ calls result, (∃ robot', Trace (executeJointChunk restingChunk false tabletopRobot) calls
        (.done (.ok result, robot'))) ∧ result.clipped = false ∧
      (seen calls).streamed.getLast? = some (.joint (uniform 0))) := by
  have untouched := inSpec_chunks_untouched tabletopRobot_paced tabletop_positiveCaps rfl
    tabletopRobot_roomy
  constructor
  · have resolved : raiseChunk.forExecution poised.tcpPose = .ok raiseChunk := rfl
    obtain ⟨calls, out, robot', ran, clear, begun⟩ := executeCartesianChunk_clear
      tabletopRobot_paced tabletop_positiveCaps rfl
      (tabletopRobot_paced.step ▸ tabletopRobot_roomy) resolved (Or.inl rfl) rfl poised_light
      raiseChunk_inSpec (by
        intro wp member
        rw [List.mem_singleton.mp member]) rfl
    have inSpec : ∀ executed, raiseChunk.forExecution poised.tcpPose = .ok executed →
        executed.RunsInSpec tabletopRobot.profile poised.tcpPose := by
      intro executed made
      rw [resolved] at made
      cases made
      exact raiseChunk_inSpec
    obtain ⟨executed, result, pose, made, ended, _, unclipped, streamed, last, final⟩ :=
      untouched.1 raiseChunk false false calls out robot' poised ran clear begun inSpec
    rw [resolved] at made
    cases made
    rw [ended] at ran
    refine ⟨calls, result, begun, ⟨robot', ran⟩, unclipped, streamed, pose, last, ?_⟩
    exact (Option.some.inj final).symm
  · have filtered : tabletopRobot.filter.p = tabletop := rfl
    have only : restingChunk.waypoints =
        [{ positions := uniform 0, duration := some 1, timed := Or.inr rfl }] := rfl
    obtain ⟨_, robot', _, ran⟩ := executeJointChunk_rest rfl filtered only rfl (Or.inl rfl) "default"
    generalize (requestedTicks _ tabletopRobot.controlHz).toNat = n at ran
    obtain ⟨clear, begun⟩ := restChunk_clear "default" n
    have inSpec : restingChunk.RunsInSpec tabletopRobot.profile zeroed.q := by
      refine ⟨uniform_containsJoints, ?_⟩
      intro wp member
      rw [List.mem_singleton.mp member]
      exact uniform_containsJoints
    obtain ⟨qs, result, _, ended, _, unclipped, streamed, last⟩ :=
      untouched.2 restingChunk false _ _ robot' zeroed ran clear begun (List.cons_ne_nil _ _) inSpec
    rw [ended] at ran
    refine ⟨_, result, ⟨robot', ran⟩, unclipped, ?_⟩
    rw [streamed, List.getLast?_map, last]
    rfl

end FlexivControl
