/-
An episode of the environment on the simulator.

With perfect tracking, an action that only translates, to a place inside the box, is carried
out to the letter whatever the speed limits: the TCP moves by the scaled action.
-/

import FlexivControl.Filter.RigidMotion
import FlexivControl.Learning.DeltaActions
import FlexivControl.Robot.RecedeOnFake

namespace FlexivControl

open Script

theorem rotvecToQuat_zero : rotvecToQuat (0 : Vec3 ℝ) = 1 := by
  have short : (0 : Vec3 ℝ).norm = 0 := by
    rw [← Vec3.norm_toE, Vec3.toE_zero, norm_zero]
  unfold rotvecToQuat
  dsimp only
  rw [short, if_pos eps_pos]

theorem integratePose_still (pose : Pose ℝ) (translation : Vec3 ℝ) :
    integratePose pose translation 0 = .ok ⟨pose.pos + translation, quatNormalize pose.quat⟩ := by
  unfold integratePose
  rw [rotvecToQuat_zero, quatMul_one]
  rfl

theorem create_oriented (pos : Vec3 ℝ) (q : Quat ℝ) (gripper : Option (GripperCommand ℝ))
    (duration : ℝ) (frame : String) : ∃ wp, CartesianWaypoint.create pos (some (quatNormalize q))
        gripper none (some duration) frame = .ok wp ∧
      wp.position = pos ∧ wp.quaternion = some (quatNormalize q) := by
  have unit := (quatNormalize_spec q).1
  have long : ¬ (quatNormalize q).norm < eps := by
    rw [unit, eps_real]
    norm_num
  have same : quatNormalize q / (quatNormalize q).norm = quatNormalize q := by
    rw [unit]
    apply Quat.ext
    · exact div_one _
    · exact div_one _
    · exact div_one _
    · exact div_one _
  cases created : CartesianWaypoint.create pos (some (quatNormalize q)) gripper none
      (some duration) frame with
  | error e =>
      unfold CartesianWaypoint.create at created
      dsimp only [bind, Except.bind, pure, Except.pure] at created
      rw [if_neg long] at created
      cases created
  | ok wp =>
      obtain ⟨position, _, _, _, quaternion⟩ := CartesianWaypoint.create_fields created
      rw [Option.map_some, same] at quaternion
      exact ⟨wp, rfl, position, quaternion⟩

section Episode

variable {robot : Robot ℝ} {g : FakeBackend ℝ}

/-- Where the simulator is after a move by `translation`, and what comes of the move. -/
structure Shifted (g : FakeBackend ℝ) (translation : Vec3 ℝ) (out : Except Exc (ExecutionResult ℝ))
    (g' : FakeBackend ℝ) : Prop where
  carriedOut : ∃ result, out = .ok result ∧ result.success = true ∧ result.clipped = false
  arrived : g'.pose.pos = g.pose.pos + translation
  sound : g'.Sound

/-- A robot that steps short enough for its own filter, on a simulator that presses on
nothing. -/
structure Robot.Nimble (robot : Robot ℝ) : Prop where
  paced : robot.Paced
  caps : robot.profile.PositiveCaps
  uncapped : robot.profile.maxLinearAccel = none
  roomy : robot.profile.maxLinearSpeed * robot.filter.dt ≤ robot.profile.maxPoseJumpLinear
  light : exceeds (fun _ => 0) robot.profile.maxContactWrench = false

theorem servoCartesianDelta_shifts (nimble : robot.Nimble) (perfect : g.alpha = 1)
    (healthy : g.fault = false) {translation : Vec3 ℝ}
    (from_inside : robot.profile.contains g.pose.pos)
    (inside : robot.profile.contains (g.pose.pos + translation)) (duration : Option ℝ)
    (gripper : Option (GripperCommand ℝ)) :
    wp (onAnyFake fun set => set = false)
      (servoCartesianDelta translation 0 duration "base" gripper)
      (fun out _ g' => Shifted g translation out g') robot g := by
  have roomy := nimble.roomy
  rw [nimble.paced.step] at roomy
  obtain ⟨waypoint, created, position, quaternion⟩ := create_oriented (g.pose.pos + translation)
    g.pose.quat gripper (durationOr duration robot.dt) "base"
  let chunk : CartesianChunk ℝ :=
    { waypoints := [waypoint], frame := "base", safetyProfile := robot.profile.name
      nonempty := List.cons_ne_nil _ _
      allowanceNonneg := no_allowance
      gatePositive := no_gate }
  have inSpec : chunk.RunsInSpec robot.profile g.pose := by
    refine ⟨from_inside, ?_⟩
    intro wp member
    rw [List.mem_singleton.mp member]
    refine ⟨position ▸ inside, ?_⟩
    intro q given
    rw [quaternion, Option.some.injEq] at given
    rw [← given, quatNormalize_idem]
  have leased : wp (onAnyFake fun set => set = false) (do
        let robot ← get
        let state ← getState
        let target ← attempt (integratePose state.tcpPose translation 0 "base")
        let wp ← attempt (CartesianWaypoint.create target.pos (some target.quat) gripper none
          (some (durationOr duration robot.dt)) "base")
        executeCartesianChunk
          { waypoints := [wp], frame := "base", safetyProfile := robot.profile.name
            nonempty := List.cons_ne_nil _ _
            allowanceNonneg := no_allowance
            gatePositive := no_gate })
      (fun out _ g' => Shifted g translation out g') robot g := by
    rw [wp_bind, wp_get, afterStep_ok]
    apply wp_fake_reads
    intro now
    have moved : integratePose (g.readState now).tcpPose translation 0 "base" =
        .ok ⟨g.pose.pos + translation, quatNormalize g.pose.quat⟩ :=
      integratePose_still g.pose translation
    rw [moved, wp_bind, wp_attempt, afterStep_ok, created, wp_bind, wp_attempt, afterStep_ok]
    have light : exceeds (fun _ => 0) (effectiveWrenchCap robot.profile chunk) = false :=
      nimble.light
    have named : chunk.safetyProfile = robot.profile.name := rfl
    apply wp_mono (executeCartesianChunk_landed nimble.paced nimble.caps nimble.uncapped roomy
      perfect healthy (Or.inr named) rfl inSpec light false false)
    rintro out robot' g' ⟨result, same, landed⟩
    refine ⟨⟨result, same, landed.success, landed.unclipped⟩, ?_, landed.sound⟩
    exact (Option.some.inj landed.arrived).symm.trans position
  unfold servoCartesianDelta checkLease
  rw [wp_bind, wp_bind, wp_op]
  refine ⟨trivial, fun known _ => ?_⟩
  rw [afterStep_ok]
  cases known with
  | none => exact ⟨trivial, fun _ _ => leased⟩
  | some owner => exact leased

/-- The facade and the simulator behind the environment. -/
structure EnvWorld where
  robot : Robot ℝ
  fake : FakeBackend ℝ

inductive EnvWorld.Step : EnvWorld → Call (envEffects ℝ) → EnvWorld → Prop where
  | servoCartesianDelta (w : EnvWorld) {call : ServoCall ℝ}
      {answer : Except Exc (ExecutionResult ℝ)} {robot' : Robot ℝ} {ops : List (Call (effects ℝ))}
      (ran : Trace (servoCartesianDelta call.translation call.rotation (some call.duration) "base"
        (some call.gripper) w.robot) ops (.done (answer, robot')))
      (answered : w.fake.Answered ops) (calm : Uncancelled ops) :
      Step w ⟨.servoCartesianDelta call, answer⟩ ⟨robot', w.fake.left ops⟩
  | getState (w : EnvWorld) {answer : Except Exc (RobotState ℝ)} {robot' : Robot ℝ}
      {ops : List (Call (effects ℝ))} (ran : Trace (getState w.robot) ops (.done (answer, robot')))
      (answered : w.fake.Answered ops) : Step w ⟨.getState, answer⟩ ⟨robot', w.fake.left ops⟩
  | rewardFn (w : EnvWorld) (obs action : List ℝ) (answer : Except Exc (ℝ × Bool × Log ℝ)) :
      Step w ⟨.rewardFn obs action, answer⟩ w

def envOnFake : Environment (envEffects ℝ) EnvWorld where
  step := EnvWorld.Step

/-- Where the world is between two steps. -/
structure EnvWorld.Stands (robot : Robot ℝ) (pos : Vec3 ℝ) (w : EnvWorld) : Prop where
  settled : robot.Settled w.robot
  perfect : w.fake.alpha = 1
  healthy : w.fake.fault = false
  stands : w.fake.pose.pos = pos

theorem Robot.Settled.nimble {robot robot' : Robot ℝ} (settled : robot.Settled robot')
    (nimble : robot.Nimble) : robot'.Nimble where
  paced := settled.paced nimble.paced
  caps := settled.profile ▸ nimble.caps
  uncapped := settled.profile ▸ nimble.uncapped
  roomy := by
    rw [settled.profile, settled.step]
    exact nimble.roomy
  light := settled.profile ▸ nimble.light

theorem servoCartesianDelta_settled {robot robot' : Robot ℝ} {translation rotation : Vec3 ℝ}
    {duration : Option ℝ} {frame : String} {gripper : Option (GripperCommand ℝ)}
    {ops : List (Call (effects ℝ))} {out : Except Exc (ExecutionResult ℝ)}
    (ran : Trace (servoCartesianDelta translation rotation duration frame gripper robot) ops
      (.done (out, robot'))) : robot.Settled robot' := by
  have kept := keeps_servoCartesianDelta (upkeep_settled robot) translation rotation duration frame
    gripper robot () ⟨rfl, rfl, rfl, rfl⟩
  have used := ((uses_servoCartesianDelta translation rotation duration frame gripper robot).trace
    ran).1
  refine (Program.wp_sound kept ran ?_).2
  refine unswapped.admitted_of_mem ?_ () ops used
  rintro _ c motion name profile rfl
  exact motion

theorem EnvWorld.Stands.serves (nimble : robot.Nimble) {pos : Vec3 ℝ} {w w' : EnvWorld}
    (stands : w.Stands robot pos) {call : ServoCall ℝ} (still : call.rotation = 0)
    (from_inside : robot.profile.contains pos)
    (inside : robot.profile.contains (pos + call.translation))
    {answer : Except Exc (ExecutionResult ℝ)}
    (step : EnvWorld.Step w ⟨.servoCartesianDelta call, answer⟩ w') :
    w'.Stands robot (pos + call.translation) ∧
      ∃ result, answer = .ok result ∧ result.success = true ∧ result.clipped = false := by
  obtain ⟨settled, perfect, healthy, here⟩ := stands
  cases step with
  | servoCartesianDelta ran answered calm =>
      have after := servoCartesianDelta_settled ran
      rw [still] at ran
      have runs := servoCartesianDelta_shifts (settled.nimble nimble) perfect healthy
        (settled.profile.symm ▸ here.symm ▸ from_inside)
        (settled.profile.symm ▸ here.symm ▸ inside) (some call.duration) (some call.gripper)
      obtain ⟨carriedOut, arrived, sound⟩ :=
        (Program.wp_sound runs ran (answered.uncancelled _ calm)).2
      refine ⟨⟨settled.trans after, sound.perfect, sound.healthy, ?_⟩, carriedOut⟩
      exact arrived.trans (congrArg (· + call.translation) here)

/-! ### Episodes -/

def FlexivRealEnv.displacement {K : Type} [Scalar K] (env : FlexivRealEnv K)
    (a : TeleopAction K) : Vec3 K :=
  a.clip.linear * env.posScale

def FlexivRealEnv.travelled {K : Type} [Scalar K] (env : FlexivRealEnv K) (pos : Vec3 K)
    (actions : List (TeleopAction K)) : Vec3 K :=
  actions.foldl (fun pos a => pos + env.displacement a) pos

/-- What a step reports once the TCP has been carried to `pos`. -/
structure StepOutcome.Reports (env : FlexivRealEnv ℝ) (single : ℝ → ℝ) (pos : Vec3 ℝ)
    (elapsed : Int) (outcome : StepOutcome ℝ) : Prop where
  shown : ∃ (fake : FakeBackend ℝ) (now : ℝ), fake.pose.pos = pos ∧
    outcome.obs = FlexivRealEnv.observation single (fake.readState now)
  truncated : outcome.truncated = decide (env.maxEpisodeSteps ≤ elapsed)
  carriedOut : ∃ result extra, result.success = true ∧ result.clipped = false ∧
    outcome.info = FlexivRealEnv.info result extra ∧
    (env.rewarded = false → outcome.reward = 0 ∧ outcome.terminated = false ∧ extra = [])

/-- Step after step, each is carried out from where the one before has ended. -/
inductive Episode (env : FlexivRealEnv ℝ) (single : ℝ → ℝ) :
    Vec3 ℝ → Int → List (TeleopAction ℝ) → List (StepOutcome ℝ) → Prop where
  | stop (pos : Vec3 ℝ) (elapsed : Int) : Episode env single pos elapsed [] []
  | next {pos : Vec3 ℝ} {elapsed : Int} {a : TeleopAction ℝ} {rest : List (TeleopAction ℝ)}
      {outcome : StepOutcome ℝ} {outcomes : List (StepOutcome ℝ)}
      (reports : outcome.Reports env single (pos + env.displacement a) (elapsed + 1))
      (later : Episode env single (pos + env.displacement a) (elapsed + 1) rest outcomes) :
      Episode env single pos elapsed (a :: rest) (outcome :: outcomes)

theorem judged_on_fake {env : FlexivRealEnv ℝ} {obs action : List ℝ} {elapsed elapsed' : Int}
    {calls : List (Call (envEffects ℝ))} {out : Except Exc (ℝ × Bool × Log ℝ)}
    (ran : Trace (env.judged obs action elapsed) calls (.done (out, elapsed'))) {w w' : EnvWorld}
    (follows : envOnFake.Follows w calls w') :
    w' = w ∧ elapsed' = elapsed ∧ (env.rewarded = false → out = .ok (0, false, [])) := by
  unfold FlexivRealEnv.judged at ran
  split at ran
  · rename_i rewarded
    obtain ⟨rfl, kept⟩ := trace_request ran
    refine ⟨?_, kept, fun unrewarded => absurd rewarded (by rw [unrewarded]; decide)⟩
    cases follows.one
    rfl
  · obtain ⟨rfl, ended⟩ := ran.of_done
    cases ended
    cases follows
    exact ⟨rfl, rfl, fun _ => rfl⟩

variable {env : FlexivRealEnv ℝ} {single : ℝ → ℝ}

theorem scaled_still (scales : ActionScales ℝ) (duration : ℝ) {a : TeleopAction ℝ}
    (straight : a.angular = 0) : (scales.scaled duration a.clip).rotation = 0 := by
  have zero : Scalar.clip (0 : ℝ) (-1) 1 = 0 := by
    rw [Scalar.clip_real, max_eq_left (by norm_num), min_eq_left (by norm_num)]
  have centred : SpaceMouseTeleop.clipUnit (0 : Vec3 ℝ) = 0 := Vec3.ext zero zero zero
  change SpaceMouseTeleop.clipUnit a.angular * scales.rotScale = 0
  rw [straight, centred]
  exact Vec3.ext (zero_mul _) (zero_mul _) (zero_mul _)

theorem step_on_fake (nimble : robot.Nimble) {pos : Vec3 ℝ} {w w' : EnvWorld}
    (stands : w.Stands robot pos) {a : TeleopAction ℝ} (straight : a.angular = 0)
    (from_inside : robot.profile.contains pos)
    (inside : robot.profile.contains (pos + env.displacement a)) {elapsed elapsed' : Int}
    {calls : List (Call (envEffects ℝ))} {out : Except Exc (StepOutcome ℝ)}
    (ran : Trace (env.step single a.toList elapsed) calls (.done (out, elapsed')))
    (follows : envOnFake.Follows w calls w') :
    w'.Stands robot (pos + env.displacement a) ∧ elapsed' = elapsed + 1 ∧
      (env.rewarded = false → ∃ outcome, out = .ok outcome) ∧
      ∀ outcome, out = .ok outcome →
        outcome.Reports env single (pos + env.displacement a) (elapsed + 1) := by
  have still := scaled_still env.scales env.stepDuration straight
  unfold FlexivRealEnv.step at ran
  obtain ⟨_, _, xs, ys, rfl, counted, ran⟩ := trace_bind ran
  obtain ⟨rfl, same⟩ := counted.of_done
  cases same
  obtain ⟨_, _, xs, ys, rfl, scaled, ran⟩ := trace_bind ran
  obtain ⟨rfl, rfl, rfl⟩ := trace_attempt scaled
  obtain ⟨result, _, xs, ys, rfl, served, ran⟩ := trace_bind ran
  obtain ⟨rfl, rfl⟩ := trace_request served
  obtain ⟨moved, first, onward⟩ := Environment.Follows.split (l := [_]) follows
  obtain ⟨stands', report, same, success, unclipped⟩ :=
    stands.serves nimble still from_inside inside first.one
  subst same
  obtain ⟨state, _, xs, ys, rfl, read, ran⟩ := trace_bind ran
  obtain ⟨rfl, rfl⟩ := trace_request read
  obtain ⟨shown, second, further⟩ := Environment.Follows.split (l := [_]) onward
  have reads : shown = moved ∧ ∃ now, state = .ok (moved.fake.readState now) := by
    cases second.one with
    | getState ran answered =>
        obtain ⟨sameRobot, sameFake, now, known⟩ := getState_settled ran answered
        rw [sameRobot, sameFake]
        exact ⟨rfl, now, known⟩
  obtain ⟨rfl, now, same⟩ := reads
  subst same
  obtain ⟨verdict, _, xs, ys, rfl, judged, ran⟩ := trace_bind ran
  obtain ⟨last, third, finish⟩ := further.split
  obtain ⟨rfl, rfl, unjudged⟩ := judged_on_fake judged third
  cases verdict with
  | error e =>
      obtain ⟨rfl, same⟩ := ran
      cases same
      cases finish
      refine ⟨stands', rfl, fun unrewarded => ?_, ?_⟩
      · cases unjudged unrewarded
      · intro outcome impossible
        cases impossible
  | ok verdict =>
      obtain ⟨reward, terminated, extra⟩ := verdict
      obtain ⟨rfl, same⟩ := ran.of_done
      cases same
      cases finish
      refine ⟨stands', rfl, fun _ => ⟨_, rfl⟩, ?_⟩
      intro outcome same
      cases same
      refine ⟨⟨_, now, stands'.stands, rfl⟩, rfl, report, extra, success, unclipped, rfl, ?_⟩
      intro unrewarded
      have none := unjudged unrewarded
      rw [Except.ok.injEq, Prod.mk.injEq, Prod.mk.injEq] at none
      obtain ⟨rfl, rfl, rfl⟩ := none
      refine ⟨rfl, ?_, rfl⟩
      rw [success]
      rfl

/-- An episode of translations that stay inside the box is carried out step by step, each as
it was asked for and none of them clipped. -/
theorem episode_moves_fake (nimble : robot.Nimble) (actions : List (TeleopAction ℝ)) :
    ∀ {pos : Vec3 ℝ} {w w' : EnvWorld}, w.Stands robot pos → (∀ a ∈ actions, a.angular = 0) →
      (∀ k, robot.profile.contains (env.travelled pos (actions.take k))) →
      ∀ {elapsed elapsed' : Int} {calls : List (Call (envEffects ℝ))}
        {out : Except Exc (List (StepOutcome ℝ))},
        Trace (env.steps single (actions.map TeleopAction.toList) elapsed) calls
          (.done (out, elapsed')) → envOnFake.Follows w calls w' →
        (env.rewarded = false → ∃ outcomes, out = .ok outcomes) ∧
          ∀ outcomes, out = .ok outcomes → Episode env single pos elapsed actions outcomes ∧
            w'.Stands robot (env.travelled pos actions) ∧ elapsed' = elapsed + actions.length := by
  induction actions with
  | nil =>
      intro pos w w' stands _ _ elapsed elapsed' calls out ran follows
      obtain ⟨rfl, ended⟩ := ran.of_done
      cases ended
      cases follows
      refine ⟨fun _ => ⟨[], rfl⟩, ?_⟩
      intro outcomes same
      cases same
      exact ⟨.stop pos _, stands, (Int.add_zero _).symm⟩
  | cons a rest ih =>
      intro pos w w' stands straight inside elapsed elapsed' calls out ran follows
      unfold FlexivRealEnv.steps at ran
      obtain ⟨stepped, counted, xs, ys, rfl, first, ran⟩ := trace_bind ran
      obtain ⟨between, before, after⟩ := follows.split
      have here : robot.profile.contains pos := inside 0
      have there : robot.profile.contains (pos + env.displacement a) := inside 1
      obtain ⟨stands', increased, steps, reports⟩ := step_on_fake nimble stands
        (straight a List.mem_cons_self) here there first before
      cases stepped with
      | error e =>
          obtain ⟨rfl, same⟩ := ran
          cases same
          refine ⟨fun unrewarded => ?_, ?_⟩
          · obtain ⟨outcome, impossible⟩ := steps unrewarded
            cases impossible
          · intro outcomes impossible
            cases impossible
      | ok outcome =>
          obtain ⟨listed, _, ys, zs, rfl, later, ran⟩ := trace_bind ran
          obtain ⟨last, along, finish⟩ := after.split
          obtain ⟨goesOn, ends⟩ := ih stands'
            (fun b member => straight b (List.mem_cons_of_mem a member))
            (fun k => inside (k + 1)) later along
          cases listed with
          | error e =>
              obtain ⟨rfl, same⟩ := ran
              cases same
              refine ⟨fun unrewarded => ?_, ?_⟩
              · obtain ⟨outcomes, impossible⟩ := goesOn unrewarded
                cases impossible
              · intro outcomes impossible
                cases impossible
          | ok outcomes =>
              obtain ⟨rfl, same⟩ := ran.of_done
              cases same
              cases finish
              refine ⟨fun _ => ⟨_, rfl⟩, ?_⟩
              intro all same
              cases same
              obtain ⟨episode, ended, counts⟩ := ends outcomes rfl
              subst increased
              refine ⟨.next (reports outcome rfl) episode, ended, ?_⟩
              rw [counts, List.length_cons]
              omega

end Episode

theorem tabletopRobot_nimble : tabletopRobot.Nimble where
  paced := tabletopRobot_paced
  caps := tabletop_positiveCaps
  uncapped := rfl
  roomy := tabletopRobot_roomy
  light := poised_light

def upward : TeleopAction ℝ := ⟨⟨0, 0, 1⟩, ⟨0, 0, 0⟩, 1⟩

theorem upward_contained (k : Nat) : tabletopRobot.profile.contains
    (({} : FlexivRealEnv ℝ).travelled overTable.pos ([upward].take k)) := by
  cases k with
  | zero => exact overTable_contains rfl rfl rfl
  | succ k =>
      rw [List.take_succ_cons, List.take_nil]
      change tabletop.contains (overTable.pos + ({} : FlexivRealEnv ℝ).displacement upward)
      intro axis
      cases axis <;>
        norm_num [SafetyProfile.interval, axisValue, tabletop, overTable, upward,
          FlexivRealEnv.displacement, TeleopAction.clip, SpaceMouseTeleop.clipUnit]

theorem episode_moves_fake_upward : ∃ calls w outcomes,
    Trace (({} : FlexivRealEnv ℝ).steps id [upward.toList] 0) calls (.done (.ok outcomes, 1)) ∧
      envOnFake.Follows ⟨tabletopRobot, tableFake⟩ calls w ∧
      Episode {} id overTable.pos 0 [upward] outcomes ∧
      w.fake.pose.pos = ({} : FlexivRealEnv ℝ).travelled overTable.pos [upward] := by
  let env : FlexivRealEnv ℝ := {}
  let call : ServoCall ℝ := env.scales.scaled env.stepDuration upward.clip
  have stands : EnvWorld.Stands tabletopRobot overTable.pos ⟨tabletopRobot, tableFake⟩ :=
    ⟨⟨rfl, rfl, rfl, rfl⟩, rfl, rfl, rfl⟩
  obtain ⟨ops, ⟨out, robot'⟩, ran, answered, calm⟩ := exists_fake_run tableFake
    (servoCartesianDelta call.translation call.rotation (some call.duration) "base"
      (some call.gripper) tabletopRobot)
  have served : EnvWorld.Step ⟨tabletopRobot, tableFake⟩ ⟨.servoCartesianDelta call, out⟩
      ⟨robot', tableFake.left ops⟩ := .servoCartesianDelta _ ran answered calm
  let shown : RobotState ℝ := (tableFake.left ops).readState 0
  obtain ⟨_, result, carriedOut, _⟩ := stands.serves tabletopRobot_nimble
    (scaled_still env.scales env.stepDuration rfl) (upward_contained 0) (upward_contained 1) served
  subst carriedOut
  let calls : List (Call (envEffects ℝ)) :=
    [⟨.servoCartesianDelta call, .ok result⟩, ⟨.getState, .ok shown⟩]
  have runs : ∃ outcomes, Trace (env.steps id [upward.toList] 0) calls (.done (.ok outcomes, 1)) :=
    ⟨_, .cons (.cons (.nil _))⟩
  obtain ⟨outcomes, runs⟩ := runs
  have follows : envOnFake.Follows ⟨tabletopRobot, tableFake⟩ calls ⟨robot', tableFake.left ops⟩ :=
    .cons served (.cons (.getState _ (getState_trace robot' shown) ⟨⟨0, rfl⟩, trivial, trivial⟩)
      (.nil _))
  obtain ⟨_, ended⟩ := episode_moves_fake tabletopRobot_nimble
    [upward] stands (fun a member => List.mem_singleton.mp member ▸ rfl) upward_contained runs
    follows
  obtain ⟨episode, stands', _⟩ := ended outcomes rfl
  exact ⟨calls, _, outcomes, runs, follows, episode, stands'.stands⟩

end FlexivControl
