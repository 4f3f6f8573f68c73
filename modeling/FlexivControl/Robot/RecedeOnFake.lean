/-
The receding-horizon loop on the simulator.

What the policy is shown is where the simulator stands, and it still stands there when the
chunk planned for it is executed. So a policy that plans in spec is carried out as planned.
-/

import FlexivControl.Robot.FakeLanding
import FlexivControl.Robot.Recede
import FlexivControl.Robot.Upkeep

namespace FlexivControl

open Script

/-- The facade and the simulator behind the loop, and what has come of the chunks so far. -/
structure HorizonWorld where
  robot : Robot ℝ
  fake : FakeBackend ℝ
  executed : List (CartesianChunk ℝ × Except Exc (ExecutionResult ℝ))

/-- A chunk planned for a pose: named rightly, and in spec from there. -/
structure CartesianChunk.PlannedFor (chunk : CartesianChunk ℝ) (p : SafetyProfile ℝ)
    (pose : Pose ℝ) : Prop where
  named : chunk.safetyProfile = "" ∨ chunk.safetyProfile = p.name
  inSpec : ∃ executed, chunk.forExecution pose = .ok executed ∧ executed.RunsInSpec p pose
  light : exceeds (fun _ => 0) (effectiveWrenchCap p chunk) = false

/-- The robot observes and executes on the simulator, uncancelled; the policy plans for what
it is shown, and nothing else touches the robot. -/
inductive HorizonWorld.Step (p : SafetyProfile ℝ) :
    HorizonWorld → Call (horizonEffects ℝ (RobotState ℝ)) → HorizonWorld → Prop where
  | observe (w : HorizonWorld) {answer : Except Exc (RobotState ℝ)} {robot' : Robot ℝ}
      {ops : List (Call (effects ℝ))} (ran : Trace (getState w.robot) ops (.done (answer, robot')))
      (answered : w.fake.Answered ops) :
      Step p w ⟨.observe, answer⟩ { w with robot := robot', fake := w.fake.left ops }
  | policy (w : HorizonWorld) (obs : RobotState ℝ)
      (answer : Except Exc (Option (CartesianChunk ℝ)))
      (planned : ∀ chunk, answer = .ok (some chunk) → chunk.PlannedFor p obs.tcpPose) :
      Step p w ⟨.policy obs, answer⟩ w
  | onPropose (w : HorizonWorld) (step : Nat) (chunk : CartesianChunk ℝ)
      (answer : Except Exc Bool) : Step p w ⟨.onPropose step chunk, answer⟩ w
  | executeCartesianChunk (w : HorizonWorld) {chunk : CartesianChunk ℝ}
      {answer : Except Exc (ExecutionResult ℝ)} {robot' : Robot ℝ} {ops : List (Call (effects ℝ))}
      (ran : Trace (executeCartesianChunk chunk false false w.robot) ops (.done (answer, robot')))
      (answered : w.fake.Answered ops) (calm : Uncancelled ops) :
      Step p w ⟨.executeCartesianChunk chunk, answer⟩
        { robot := robot', fake := w.fake.left ops, executed := w.executed ++ [(chunk, answer)] }
  | onStep (w : HorizonWorld) (step : Nat) (chunk : CartesianChunk ℝ) (result : ExecutionResult ℝ)
      (answer : Except Exc (Option Bool)) : Step p w ⟨.onStep step chunk result, answer⟩ w

def horizonOnFake (p : SafetyProfile ℝ) :
    Environment (horizonEffects ℝ (RobotState ℝ)) HorizonWorld where
  step := HorizonWorld.Step p

/-- Chunk after chunk, each lands where it was to go from where the one before has landed. -/
inductive LandsThrough (robot : Robot ℝ) (g : FakeBackend ℝ) :
    List (CartesianChunk ℝ × Except Exc (ExecutionResult ℝ)) → FakeBackend ℝ → Prop where
  | start : LandsThrough robot g [] g
  | next {landed : List (CartesianChunk ℝ × Except Exc (ExecutionResult ℝ))}
      {g' g'' : FakeBackend ℝ} {chunk executed : CartesianChunk ℝ} {result : ExecutionResult ℝ}
      (before : LandsThrough robot g landed g') (made : chunk.forExecution g'.pose = .ok executed)
      (lands : Landed robot g' executed result g'') :
      LandsThrough robot g (landed ++ [(chunk, .ok result)]) g''

/-- What no call on the robot changes, except by a change of its profile. -/
structure Robot.Settled (robot robot' : Robot ℝ) : Prop where
  profile : robot'.profile = robot.profile
  rate : robot'.controlHz = robot.controlHz
  filtered : robot'.filter.p = robot.filter.p
  step : robot'.filter.dt = robot.filter.dt

def unswapped : Monitor (effects ℝ) Unit where
  observe _ _ := ()
  admits _ c := ∀ name profile, c ≠ ⟨.loadSafetyProfile name, .ok profile⟩
  allows _ _ := True

theorem Robot.Settled.refilter {robot robot' : Robot ℝ} (settled : robot.Settled robot')
    {f : SafetyFilter ℝ} (filtered : f.p = robot'.filter.p) (step : f.dt = robot'.filter.dt) :
    robot.Settled { robot' with filter := f } :=
  ⟨settled.profile, settled.rate, filtered.trans settled.filtered, step.trans settled.step⟩

theorem filterCartesian_keeps {f f' : SafetyFilter ℝ} {target : Pose ℝ} {state : RobotState ℝ}
    {cap : Option (Wrench ℝ)} {sr : SafetyResult ℝ}
    (made : f.filterCartesian target state cap = (sr, f')) : f'.p = f.p ∧ f'.dt = f.dt := by
  rcases f.filterCartesian_cases target state cap with ⟨reason, rejected⟩ | ⟨draft, _, _, passed⟩
  · rw [rejected, Prod.mk.injEq] at made
    rw [← made.2]
    exact ⟨rfl, rfl⟩
  · dsimp only at passed
    rw [passed, Prod.mk.injEq] at made
    rw [← made.2]
    exact ⟨rfl, rfl⟩

theorem upkeep_settled (robot : Robot ℝ) :
    Upkeep unswapped (fun robot' _ => robot.Settled robot') fun _ => True where
  allowed _ _ _ _ := trivial
  unstreamed _ _ _ _ _ settled _ := settled
  reads _ _ _ _ _ := trivial
  resets robot' _ state settled _ :=
    settled.refilter (SafetyFilter.reset_p _ _ _ _) (SafetyFilter.reset_dt _ _ _ _)
  streams robot' _ target state cap sr f pose wrench answer settled _ made _ _ := by
    obtain ⟨filtered, step⟩ := filterCartesian_keeps made
    exact settled.refilter filtered step
  joints robot' _ q state sr f settled made := by
    obtain ⟨_, _, _, _, _, _, _, left, _⟩ := SafetyFilter.filterJoint_ok made
    rw [left]
    exact settled.refilter rfl rfl
  swaps robot' _ name profile _ admitted := absurd rfl (admitted name profile)

theorem executeCartesianChunk_settled {robot robot' : Robot ℝ} {chunk : CartesianChunk ℝ}
    {raiseOnStop record : Bool} {ops : List (Call (effects ℝ))}
    {out : Except Exc (ExecutionResult ℝ)}
    (ran : Trace (executeCartesianChunk chunk raiseOnStop record robot) ops
      (.done (out, robot'))) : robot.Settled robot' := by
  have kept := keeps_executeCartesianChunk (upkeep_settled robot) chunk raiseOnStop record robot ()
    ⟨rfl, rfl, rfl, rfl⟩
  have used := ((uses_executeCartesianChunk chunk raiseOnStop record robot).trace ran).1
  refine (Program.wp_sound kept ran ?_).2
  refine unswapped.admitted_of_mem ?_ () ops used
  rintro _ c cartesian name profile rfl
  exact cartesian

theorem Robot.Settled.trans {robot robot' robot'' : Robot ℝ} (first : robot.Settled robot')
    (next : robot'.Settled robot'') : robot.Settled robot'' where
  profile := next.profile.trans first.profile
  rate := next.rate.trans first.rate
  filtered := next.filtered.trans first.filtered
  step := next.step.trans first.step

theorem Robot.Settled.paced {robot robot' : Robot ℝ} (settled : robot.Settled robot')
    (paced : robot.Paced) : robot'.Paced where
  ticking := settled.rate ▸ paced.ticking
  profile := settled.filtered.trans (paced.profile.trans settled.profile.symm)
  step := by
    rw [settled.step, settled.rate]
    exact paced.step

theorem Robot.Settled.landed {robot robot' : Robot ℝ} (settled : robot.Settled robot')
    {g g' : FakeBackend ℝ} {executed : CartesianChunk ℝ} {result : ExecutionResult ℝ}
    (lands : Landed robot' g executed result g') : Landed robot g executed result g' where
  success := lands.success
  unclipped := lands.unclipped
  streamed := by
    have same : robot'.interpolator executed g.pose = robot.interpolator executed g.pose := by
      unfold interpolator
      rw [settled.profile, settled.rate]
    rw [← same]
    exact lands.streamed
  arrived := lands.arrived
  reported := lands.reported
  sound := lands.sound

structure HorizonWorld.Going (robot : Robot ℝ) (g : FakeBackend ℝ) (w : HorizonWorld) : Prop where
  settled : robot.Settled w.robot
  perfect : w.fake.alpha = 1
  healthy : w.fake.fault = false
  lands : LandsThrough robot g w.executed w.fake

section Loop

variable {robot : Robot ℝ} {g : FakeBackend ℝ}

theorem getState_settled {robot robot' : Robot ℝ} {g : FakeBackend ℝ}
    {ops : List (Call (effects ℝ))}
    {answer : Except Exc (RobotState ℝ)} (ran : Trace (getState robot) ops (.done (answer, robot')))
    (answered : g.Answered ops) :
    robot' = robot ∧ g.left ops = g ∧ ∃ now, answer = .ok (g.readState now) := by
  have reads : wp (onAnyFake fun _ => True) getState (fun out robot' g' => robot' = robot ∧
      g' = g ∧ ∃ now, out = .ok (g.readState now)) robot g := by
    unfold getState
    rw [wp_bind, wp_readState]
    refine ⟨trivial, ?_⟩
    rintro answer ⟨now, same⟩
    subst same
    rw [afterStep_ok, wp_bind, wp_op]
    refine ⟨trivial, ?_⟩
    intro _ _
    exact ⟨rfl, rfl, now, rfl⟩
  exact (Program.wp_sound reads ran answered).2

theorem HorizonWorld.Going.executes (paced : robot.Paced) (caps : robot.profile.PositiveCaps)
    (uncapped : robot.profile.maxLinearAccel = none)
    (roomy : robot.profile.maxLinearSpeed * robot.filter.dt ≤ robot.profile.maxPoseJumpLinear)
    {w w' : HorizonWorld} (going : w.Going robot g) {chunk : CartesianChunk ℝ}
    (planned : chunk.PlannedFor robot.profile w.fake.pose)
    {answer : Except Exc (ExecutionResult ℝ)}
    (step : HorizonWorld.Step robot.profile w ⟨.executeCartesianChunk chunk, answer⟩ w') :
    w'.Going robot g ∧ w'.executed.length = w.executed.length + 1 := by
  obtain ⟨executed, made, inSpec⟩ := planned.inSpec
  have same := going.settled.profile
  cases step with
  | @executeCartesianChunk _ _ robot' ops ran answered calm =>
      have paced' := going.settled.paced paced
      rw [paced.step] at roomy
      have runs := executeCartesianChunk_landed paced' (same ▸ caps)
        (same ▸ uncapped) (by rw [same, going.settled.rate]; exact roomy) going.perfect
        going.healthy (same ▸ planned.named) made (same ▸ inSpec) (same ▸ planned.light) false false
      obtain ⟨result, ended, lands⟩ :=
        (Program.wp_sound runs ran (answered.uncancelled ops calm)).2
      subst ended
      refine ⟨?_, List.length_append⟩
      constructor
      · exact going.settled.trans (executeCartesianChunk_settled ran)
      · exact lands.sound.perfect
      · exact lands.sound.healthy
      · exact .next going.lands made (going.settled.landed lands)

def AllGoing (robot : Robot ℝ) (g : FakeBackend ℝ) (steps : Nat) (worlds : Set HorizonWorld) :
    Prop :=
  ∀ w ∈ worlds, w.Going robot g ∧ w.executed.length = steps

noncomputable abbrev horizonMonitor (robot : Robot ℝ) (g : FakeBackend ℝ) :
    Monitor (horizonEffects ℝ (RobotState ℝ)) (Set HorizonWorld) :=
  (horizonOnFake robot.profile).possible (HorizonWorld.Going robot g)

theorem wp_consult_idle {α : Type} {op : HorizonOp ℝ (RobotState ℝ)} {good : HorizonWorld → Prop}
    (idle : ∀ w answer w', HorizonWorld.Step robot.profile w ⟨op, answer⟩ w' → w' = w)
    (goes : ∀ w, good w → w.Going robot g) {worlds : Set HorizonWorld}
    {post : Except Exc α → Unit → Set HorizonWorld → Prop}
    {f : op.Answer → HorizonM ℝ (RobotState ℝ) α}
    (holds : ∀ w ∈ worlds, good w)
    (rest : ∀ answer worlds', (∀ w ∈ worlds', good w) →
      wp (horizonMonitor robot g) (f answer) post () worlds')
    (raised : ∀ e worlds', (∀ w ∈ worlds', good w) → post (.error e) () worlds') :
    wp (horizonMonitor robot g) (do let answer ← consult op; f answer) post () worlds := by
  rw [wp_bind, wp_request]
  refine ⟨fun w member => goes w (holds w member), ?_⟩
  intro answer _
  have kept : ∀ w ∈ (horizonMonitor robot g).observe worlds ⟨op, answer⟩, good w := by
    rintro w' ⟨w, member, step⟩
    rw [idle w answer w' step]
    exact holds w member
  cases answer with
  | ok a => exact rest a _ kept
  | error e => exact raised e _ kept

def LeavesGoing (robot : Robot ℝ) (g : FakeBackend ℝ) (out : Except Exc (Nat × Bool)) (_ : Unit)
    (worlds : Set HorizonWorld) : Prop :=
  (∃ steps, AllGoing robot g steps worlds) ∧
    ∀ n goOn, out = .ok (n, goOn) → AllGoing robot g n worlds

theorem leavesGoing_ok {n : Nat} {goOn : Bool} {worlds : Set HorizonWorld}
    (going : AllGoing robot g n worlds) : LeavesGoing robot g (.ok (n, goOn)) () worlds := by
  refine ⟨⟨n, going⟩, ?_⟩
  intro n' goOn' same
  cases same
  exact going

theorem leavesGoing_error {n : Nat} {e : Exc} {worlds : Set HorizonWorld}
    (going : AllGoing robot g n worlds) : LeavesGoing robot g (.error e) () worlds :=
  ⟨⟨n, going⟩, fun _ _ impossible => by cases impossible⟩

variable (paced : robot.Paced) (caps : robot.profile.PositiveCaps)
  (uncapped : robot.profile.maxLinearAccel = none)
  (roomy : robot.profile.maxLinearSpeed * robot.filter.dt ≤ robot.profile.maxPoseJumpLinear)
  (runner : RecedingHorizonRunner)

include paced caps uncapped roomy

theorem execution_lands {steps : Nat} {chunk : CartesianChunk ℝ} {worlds : Set HorizonWorld}
    (ready : ∀ w ∈ worlds, (w.Going robot g ∧ w.executed.length = steps) ∧
      chunk.PlannedFor robot.profile w.fake.pose) :
    wp (horizonMonitor robot g) (do
        let result ← consult (.executeCartesianChunk chunk)
        let verdict ← if runner.watched then
          consult (.onStep (steps + 1) chunk result) else pure none
        pure (steps + 1, decide (verdict ≠ some false)))
      (LeavesGoing robot g) () worlds := by
  rw [wp_bind, wp_request]
  refine ⟨fun w member => (ready w member).1.1, ?_⟩
  intro answer _
  have more : AllGoing robot g (steps + 1)
      ((horizonMonitor robot g).observe worlds ⟨.executeCartesianChunk chunk, answer⟩) := by
    rintro w' ⟨w, member, step⟩
    obtain ⟨⟨was, count⟩, fits⟩ := ready w member
    obtain ⟨still, longer⟩ := was.executes paced caps uncapped roomy fits step
    exact ⟨still, longer.trans (congrArg (· + 1) count)⟩
  cases answer with
  | error e => exact leavesGoing_error more
  | ok result =>
      rw [afterStep_ok]
      split
      · apply wp_consult_idle ?_ (fun w going => going.1) more
        · exact fun verdict worlds' kept => leavesGoing_ok kept
        · exact fun e worlds' kept => leavesGoing_error kept
        · intro w answer w' step
          cases step
          rfl
      · exact leavesGoing_ok more

theorem cycle_lands {steps : Nat} {worlds : Set HorizonWorld}
    (going : AllGoing robot g steps worlds) :
    wp (horizonMonitor robot g) (runner.cycle steps) (LeavesGoing robot g) () worlds := by
  unfold RecedingHorizonRunner.cycle
  rw [wp_bind, wp_request]
  refine ⟨fun w member => (going w member).1, ?_⟩
  intro observed _
  have after : ∀ w' ∈ (horizonMonitor robot g).observe worlds ⟨.observe, observed⟩,
      w'.Going robot g ∧ w'.executed.length = steps ∧
        ∀ obs, observed = .ok obs → obs.tcpPose = w'.fake.pose := by
    rintro w' ⟨w, member, step⟩
    obtain ⟨was, count⟩ := going w member
    cases step with
    | observe ran answered =>
        obtain ⟨sameRobot, sameFake, now, shown⟩ := getState_settled ran answered
        rw [sameRobot, sameFake]
        refine ⟨was, count, ?_⟩
        intro obs same
        rw [shown, Except.ok.injEq] at same
        rw [← same]
        rfl
  cases observed with
  | error e =>
      exact leavesGoing_error fun w' member => ⟨(after w' member).1, (after w' member).2.1⟩
  | ok obs =>
      rw [afterStep_ok, wp_bind, wp_request]
      refine ⟨fun w member => (after w member).1, ?_⟩
      intro plan _
      have planned : ∀ w' ∈ (horizonMonitor robot g).observe
          ((horizonMonitor robot g).observe worlds ⟨.observe, .ok obs⟩) ⟨.policy obs, plan⟩,
          (w'.Going robot g ∧ w'.executed.length = steps) ∧
            ∀ chunk, plan = .ok (some chunk) → chunk.PlannedFor robot.profile w'.fake.pose := by
        rintro w' ⟨w, member, step⟩
        obtain ⟨was, count, shown⟩ := after w member
        cases step with
        | policy _ _ plans =>
            refine ⟨⟨was, count⟩, ?_⟩
            intro chunk made
            rw [← shown obs rfl]
            exact plans chunk made
      cases plan with
      | error e => exact leavesGoing_error fun w' member => (planned w' member).1
      | ok plan =>
          cases plan with
          | none => exact leavesGoing_ok fun w' member => (planned w' member).1
          | some chunk =>
              dsimp only
              split
              · have ready (w : HorizonWorld) (member : w ∈ _) :
                    (w.Going robot g ∧ w.executed.length = steps) ∧
                      chunk.PlannedFor robot.profile w.fake.pose :=
                  ⟨(planned w member).1, (planned w member).2 chunk rfl⟩
                apply wp_consult_idle ?_ (fun w good => good.1.1) ready
                · intro approved worlds' ready
                  cases approved with
                  | true => exact execution_lands paced caps uncapped roomy runner ready
                  | false => exact leavesGoing_ok fun w member => (ready w member).1
                · exact fun e worlds' ready => leavesGoing_error fun w member => (ready w member).1
                · intro w answer w' step
                  cases step
                  rfl
              · exact execution_lands paced caps uncapped roomy runner fun w member =>
                  ⟨(planned w member).1, (planned w member).2 chunk rfl⟩

theorem run_lands (cycles : Nat) :
    ∀ {steps : Nat} {worlds : Set HorizonWorld}, AllGoing robot g steps worlds →
      wp (horizonMonitor robot g) (runner.run cycles steps) (LeavesGoing robot g) () worlds := by
  induction cycles with
  | zero => exact fun going => leavesGoing_ok going
  | succ cycles ih =>
      intro steps worlds going
      unfold RecedingHorizonRunner.run
      split
      · rw [wp_bind]
        apply wp_mono (cycle_lands paced caps uncapped roomy runner going)
        intro out _ worlds' left
        cases out with
        | error e => exact ⟨left.1, fun _ _ impossible => by cases impossible⟩
        | ok stepped =>
            obtain ⟨n, goOn⟩ := stepped
            have going' := left.2 n goOn rfl
            rw [afterStep_ok]
            cases goOn with
            | true => exact ih going'
            | false => exact leavesGoing_ok going'
      · exact leavesGoing_ok going

/-- A policy that plans in spec for what it is shown is carried out chunk by chunk: each lands
where it was to go, and the next is planned from there. -/
theorem receding_horizon_lands (perfect : g.alpha = 1) (healthy : g.fault = false) (cycles : Nat)
    {calls : List (Call (horizonEffects ℝ (RobotState ℝ)))}
    {left : Program (horizonEffects ℝ (RobotState ℝ)) (Except Exc (Nat × Bool) × Unit)}
    (ran : Trace (runner.run cycles 0 ()) calls left) {w : HorizonWorld}
    (follows : (horizonOnFake robot.profile).Follows ⟨robot, g, []⟩ calls w) :
    LandsThrough robot g w.executed w.fake ∧
      ∀ n goOn, left = .done (.ok (n, goOn), ()) → w.executed.length = n := by
  have start : AllGoing robot g 0 {⟨robot, g, []⟩} := by
    rintro w rfl
    exact ⟨⟨⟨rfl, rfl, rfl, rfl⟩, perfect, healthy, .start⟩, rfl⟩
  have kept := run_lands paced caps uncapped roomy runner cycles start
  constructor
  · have safe : wp (horizonMonitor robot g) (runner.run cycles 0)
        (fun _ _ worlds => ∀ w ∈ worlds, w.Going robot g) () {⟨robot, g, []⟩} := by
      apply wp_mono kept
      intro out _ worlds left w member
      obtain ⟨steps, going⟩ := left.1
      exact (going w member).1
    exact (follows.stays_safe (Set.mem_singleton _) safe ran).lands
  · rintro n goOn rfl
    obtain ⟨worlds, member, leaves⟩ := follows.ended (Set.mem_singleton _) kept ran
    exact (leaves.2 n goOn rfl w member).2

end Loop

def singleStep : RecedingHorizonRunner where
  maxSteps := some 1

theorem raiseChunk_planned : raiseChunk.PlannedFor tabletopRobot.profile tableFake.pose where
  named := Or.inl rfl
  inSpec := ⟨_, rfl, raiseChunk_inSpec⟩
  light := raise_light

theorem receding_horizon_lands_raise : ∃ calls w,
    Trace ((singleStep.run 2 0 : HorizonM ℝ (RobotState ℝ) (Nat × Bool)) ()) calls
        (.done (.ok (1, false), ())) ∧
      (horizonOnFake tabletopRobot.profile).Follows ⟨tabletopRobot, tableFake, []⟩ calls w ∧
      LandsThrough tabletopRobot tableFake w.executed w.fake ∧ w.executed.length = 1 := by
  obtain ⟨ops, ⟨out, robot'⟩, ran, answered, calm⟩ := exists_fake_run tableFake
    (executeCartesianChunk raiseChunk false false tabletopRobot)
  have runs := executeCartesianChunk_landed (g := tableFake) tabletopRobot_paced
    tabletop_positiveCaps rfl (tabletopRobot_paced.step ▸ tabletopRobot_roomy) rfl rfl (Or.inl rfl)
    rfl raiseChunk_inSpec raise_light false false
  obtain ⟨result, ended, _⟩ := (Program.wp_sound runs ran (answered.uncancelled ops calm)).2
  have returned : out = .ok result := ended
  subst returned
  let shown : RobotState ℝ := tableFake.readState 0
  let calls : List (Call (horizonEffects ℝ (RobotState ℝ))) :=
    [⟨.observe, .ok shown⟩, ⟨.policy shown, .ok (some raiseChunk)⟩,
      ⟨.executeCartesianChunk raiseChunk, .ok result⟩]
  have loops : Trace ((singleStep.run 2 0 : HorizonM ℝ (RobotState ℝ) (Nat × Bool)) ()) calls
      (.done (.ok (1, false), ())) := .cons (.cons (.cons (.nil _)))
  have follows : (horizonOnFake tabletopRobot.profile).Follows ⟨tabletopRobot, tableFake, []⟩ calls
      ⟨robot', tableFake.left ops, [(raiseChunk, .ok result)]⟩ := by
    refine .cons (.observe _ (getState_trace tabletopRobot shown) ⟨⟨0, rfl⟩, trivial, trivial⟩) ?_
    refine .cons (.policy _ shown _ ?_)
      (.cons (.executeCartesianChunk _ ran answered calm) (.nil _))
    intro chunk same
    cases same
    exact raiseChunk_planned
  obtain ⟨lands, counts⟩ := receding_horizon_lands tabletopRobot_paced tabletop_positiveCaps rfl
    tabletopRobot_roomy singleStep rfl rfl 2 loops follows
  exact ⟨calls, _, loops, follows, lands, counts 1 false rfl⟩

end FlexivControl
