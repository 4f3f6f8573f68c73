/-
The workspace on the simulator, over whole sessions of the facade.

A reference and a goal that are both accepted have only accepted poses between them, and
the simulator goes part of the way to such a pose. So the TCP keeps to any box that has the
boxes of all profiles within it, whatever the calls, the targets and the cancels.
-/

import FlexivControl.Robot.FakeLanding
import FlexivControl.Robot.Upkeep

namespace FlexivControl

open Script

/-- Each interval of the box is one, and lies in that of the `outer` one. -/
def SafetyProfile.BoxWithin (p outer : SafetyProfile ℝ) : Prop :=
  ∀ axis, (outer.interval axis).1 ≤ (p.interval axis).1 ∧
    (p.interval axis).1 ≤ (p.interval axis).2 ∧ (p.interval axis).2 ≤ (outer.interval axis).2

theorem SafetyProfile.BoxWithin.accepts {p outer : SafetyProfile ℝ} (within : p.BoxWithin outer)
    {pos : Vec3 ℝ} (near : p.accepts pos) : outer.accepts pos := by
  rw [accepts_iff_axes] at near ⊢
  intro axis
  obtain ⟨below, ordered, above⟩ := within axis
  exact Tolerance.Accepts.widen atol_nonneg rtol_nonneg (near axis) below ordered above

/-- A profile to be used within `outer`: positive caps, and none on the acceleration. -/
structure SafetyProfile.Fits (p outer : SafetyProfile ℝ) : Prop where
  caps : p.PositiveCaps
  uncapped : p.maxLinearAccel = none
  within : p.BoxWithin outer

/-- The simulator behind the facade, the profiles there are to load being `shipped`. -/
noncomputable def onShippedFake (shipped : SafetyProfile ℝ → Prop) (safe : FakeBackend ℝ → Prop) :
    Monitor (effects ℝ) (FakeBackend ℝ) where
  observe := FakeBackend.after
  admits g c := g.Answers (fun _ => True) c ∧
    ∀ name profile, c = ⟨.loadSafetyProfile name, .ok profile⟩ → shipped profile
  allows g _ := safe g

/-- The TCP and all that has been streamed. -/
structure FakeBackend.InBox (outer : SafetyProfile ℝ) (g : FakeBackend ℝ) : Prop where
  inside : outer.accepts g.pose.pos
  streamed : ∀ pose ∈ g.cartesianLog, outer.accepts pose.pos

/-- What the sessions keep: the filter is in the box and so is the simulator. -/
structure BoxKept (outer : SafetyProfile ℝ) (robot : Robot ℝ) (g : FakeBackend ℝ) : Prop where
  profile : robot.filter.p.Fits outer
  step : 0 ≤ robot.filter.dt
  reference : ∀ pose, robot.filter.prevPose = some pose → outer.accepts pose.pos
  lower : 0 ≤ g.alpha
  upper : g.alpha ≤ 1
  boxed : g.InBox outer

section Sessions

variable {outer : SafetyProfile ℝ}

theorem tracked_partway (g : FakeBackend ℝ) (pose : Pose ℝ) :
    (g.tracked pose).pos = partway g.pose.pos pose.pos g.alpha := by
  apply Vec3.ext
  all_goals
    simp only [FakeBackend.tracked, partway, Vec3.add_x, Vec3.add_y, Vec3.add_z, Vec3.mul_x,
      Vec3.mul_y, Vec3.mul_z, Vec3.sub_x, Vec3.sub_y, Vec3.sub_z]
    ring

theorem filterCartesian_boxed {f f' : SafetyFilter ℝ} (fits : f.p.Fits outer) (step : 0 ≤ f.dt)
    (reference : ∀ pose, f.prevPose = some pose → outer.accepts pose.pos) {state : RobotState ℝ}
    (sane : outer.accepts state.tcpPose.pos) {target pose : Pose ℝ} {cap : Option (Wrench ℝ)}
    {sr : SafetyResult ℝ} (made : f.filterCartesian target state cap = (sr, f'))
    (found : sr.pose = some pose) :
    outer.accepts pose.pos ∧ f'.p = f.p ∧ f'.dt = f.dt ∧ f'.prevPose = some pose := by
  rcases f.filterCartesian_cases target state cap with
    ⟨reason, rejected⟩ | ⟨draft, _, limited, passed⟩
  · rw [rejected, Prod.mk.injEq] at made
    rw [← made.1] at found
    cases found
  · have plain (ref : Pose ℝ) : (limitLinearAccel f.p f.dt f.prevLinVel ref
        (limitMotion f.p f.dt ref draft)).1 = limitMotion f.p f.dt ref draft := by
      simp only [limitLinearAccel, fits.uncapped]
    dsimp only at passed
    rw [passed, Prod.mk.injEq, plain] at made
    obtain ⟨result, left⟩ := made
    rw [← result, Option.some.injEq] at found
    have start : outer.accepts (f.prevPose.getD state.tcpPose).pos := by
      cases held : f.prevPose with
      | none => exact sane
      | some ref => exact reference ref held
    obtain ⟨t, lower, upper, same⟩ :=
      limitMotion_partway fits.caps step (f.prevPose.getD state.tcpPose) draft
    refine ⟨?_, ?_, ?_, ?_⟩
    · rw [← found, same]
      exact accepts_partway lower upper start
        (fits.within.accepts (limitWorkspace_accepts limited))
    · rw [← left]
    · rw [← left]
    · rw [← left, ← found]

theorem FakeBackend.InBox.streaming {g : FakeBackend ℝ} (boxed : g.InBox outer)
    (lower : 0 ≤ g.alpha) (upper : g.alpha ≤ 1) {pose : Pose ℝ} (near : outer.accepts pose.pos) :
    (g.streamCartesian pose).2.alpha = g.alpha ∧ (g.streamCartesian pose).2.InBox outer := by
  unfold FakeBackend.streamCartesian
  split
  · refine ⟨rfl, ?_, ?_⟩
    · change outer.accepts (g.tracked pose).pos
      rw [tracked_partway]
      exact accepts_partway lower upper boxed.inside near
    · intro sent member
      rcases List.mem_append.mp member with earlier | now
      · exact boxed.streamed sent earlier
      · rw [List.mem_singleton.mp now]
        exact near
  · exact ⟨rfl, boxed⟩

theorem streamJoint_unmoved (g : FakeBackend ℝ) (q : List ℝ) : g.Unmoved (g.streamJoint q).2 := by
  unfold FakeBackend.streamJoint
  split
  · exact ⟨rfl, rfl, rfl, rfl⟩
  · dsimp only
    split
    · exact ⟨rfl, rfl, rfl, rfl⟩
    · exact ⟨rfl, rfl, rfl, rfl⟩

theorem after_unmoved {op : Op ℝ} (unstreamed : op.IsStreamless) (g : FakeBackend ℝ)
    (answer : Op.Resp op) : g.Unmoved (g.after ⟨op, answer⟩) := by
  cases op with
  | write call =>
      cases call with
      | streamCartesian pose wrench => exact absurd unstreamed id
      | streamJoint q => exact streamJoint_unmoved g q
      | _ => exact ⟨rfl, rfl, rfl, rfl⟩
  | _ => exact ⟨rfl, rfl, rfl, rfl⟩

theorem BoxKept.filtered {robot : Robot ℝ} {g : FakeBackend ℝ} (kept : BoxKept outer robot g)
    {robot' : Robot ℝ} (profile : robot'.filter.p = robot.filter.p)
    (step : robot'.filter.dt = robot.filter.dt)
    (reference : ∀ pose, robot'.filter.prevPose = some pose → outer.accepts pose.pos) :
    BoxKept outer robot' g where
  profile := profile ▸ kept.profile
  step := step ▸ kept.step
  reference := reference
  lower := kept.lower
  upper := kept.upper
  boxed := kept.boxed

theorem BoxKept.unmoved {robot : Robot ℝ} {g g' : FakeBackend ℝ} (kept : BoxKept outer robot g)
    (still : g.Unmoved g') : BoxKept outer robot g' where
  profile := kept.profile
  step := kept.step
  reference := kept.reference
  lower := still.alpha ▸ kept.lower
  upper := still.alpha ▸ kept.upper
  boxed := ⟨still.pose ▸ kept.boxed.inside, still.log ▸ kept.boxed.streamed⟩

theorem filterJoint_keeps {f f' : SafetyFilter ℝ} {q : List ℝ} {state : RobotState ℝ}
    {sr : SafetyResult ℝ} (made : f.filterJoint q state = .ok (sr, f')) :
    f'.p = f.p ∧ f'.dt = f.dt ∧ f'.prevPose = f.prevPose := by
  obtain ⟨_, _, q', _, _, _, _, left, _⟩ := SafetyFilter.filterJoint_ok made
  rw [left]
  exact ⟨rfl, rfl, rfl⟩

/-- The sessions in question, watched for the box. -/
noncomputable abbrev boxMonitor (outer : SafetyProfile ℝ) : Monitor (effects ℝ) (FakeBackend ℝ) :=
  onShippedFake (·.Fits outer) (·.InBox outer)

theorem upkeep_boxKept :
    Upkeep (boxMonitor outer) (BoxKept outer) fun state => outer.accepts state.tcpPose.pos where
  allowed robot g op kept := kept.boxed
  unstreamed robot g op r unstreamed kept _ := kept.unmoved (after_unmoved unstreamed g r)
  reads robot g state kept admitted := by
    obtain ⟨now, same⟩ := admitted.1
    cases same
    exact kept.boxed.inside
  resets robot g state kept sane := by
    apply kept.filtered
    · exact SafetyFilter.reset_p _ _ _ _
    · exact SafetyFilter.reset_dt _ _ _ _
    · intro pose same
      cases same
      exact sane
  streams robot g target state cap sr f pose wrench answer kept sane made found _ := by
    obtain ⟨near, profile, step, anchored⟩ :=
      filterCartesian_boxed kept.profile kept.step kept.reference sane made found
    obtain ⟨alpha, boxed⟩ := kept.boxed.streaming kept.lower kept.upper near
    constructor
    · exact profile ▸ kept.profile
    · exact step ▸ kept.step
    · intro pose' same
      have held : some pose' = some pose := same.symm.trans anchored
      cases held
      exact near
    · exact alpha.symm ▸ kept.lower
    · exact alpha.symm ▸ kept.upper
    · exact boxed
  joints robot g q state sr f kept made := by
    obtain ⟨profile, step, reference⟩ := filterJoint_keeps made
    apply kept.filtered profile step
    intro pose same
    exact kept.reference pose (reference ▸ same)
  swaps robot g name profile kept admitted :=
    ⟨admitted.2 name profile rfl, kept.step, kept.reference, kept.lower, kept.upper, kept.boxed⟩

/-- In every session, whatever is called in it and however it is cancelled, the simulated TCP
and all that is streamed stay in the box, also within a call. -/
theorem fake_stays_in_workspace {robot : Robot ℝ} {g : FakeBackend ℝ}
    (kept : BoxKept outer robot g) {calls : List (FacadeCall ℝ)} {ops : List (Call (effects ℝ))}
    (ran : FacadeRun (boxMonitor outer) (fun _ _ _ => True) robot g calls ops) :
    (g.left ops).InBox outer :=
  upkeep_boxKept.holds_throughout (fun _ _ kept => kept.boxed) (fun _ _ asked => asked) ran kept

end Sessions

theorem tabletop_fits : tabletop.Fits tabletop where
  caps := tabletop_positiveCaps
  uncapped := rfl
  within axis := by
    cases axis <;> norm_num [SafetyProfile.interval, tabletop]

theorem tableFake_boxKept : BoxKept tabletop tabletopRobot tableFake where
  profile := tabletop_fits
  step := by norm_num [tabletopRobot, Robot.init, SafetyFilter.init]
  reference pose held := by cases held
  lower := zero_le_one
  upper := le_rfl
  boxed := by
    refine ⟨accepts_of_contains (overTable_contains rfl rfl rfl), ?_⟩
    intro pose member
    cases member

theorem boxMonitor_answers (g : FakeBackend ℝ) (op : Op ℝ) :
    ∃ r, (boxMonitor tabletop).admits g ⟨op, r⟩ := by
  obtain ⟨r⟩ := op_answered op
  cases op with
  | loadSafetyProfile name =>
      refine ⟨.ok tabletop, trivial, ?_⟩
      intro name' profile same
      cases same
      exact tabletop_fits
  | readState => exact ⟨.ok (g.readState 0), ⟨0, rfl⟩, fun _ _ same => by cases same⟩
  | inFault => exact ⟨.ok g.fault, rfl, fun _ _ same => by cases same⟩
  | write call => exact ⟨(g.serve call).1, rfl, fun _ _ same => by cases same⟩
  | cancelIsSet site => exact ⟨false, trivial, fun _ _ same => by cases same⟩
  | _ => exact ⟨r, trivial, fun _ _ same => by cases same⟩

noncomputable def plungingSession : List (FacadeCall ℝ) :=
  [.setSafetyProfile "tabletop", .servoCartesianPose ⟨⟨0, 0, -1⟩, 1⟩ 1 none, .stop]

theorem fake_stays_in_workspace_plunging : ∃ ops,
    FacadeRun (boxMonitor tabletop) (fun _ _ _ => True) tabletopRobot tableFake plungingSession
      ops ∧
      (tableFake.left ops).InBox tabletop := by
  obtain ⟨ops, ran⟩ := exists_facade_run boxMonitor_answers plungingSession tabletopRobot tableFake
  exact ⟨ops, ran, fake_stays_in_workspace tableFake_boxKept ran⟩

end FlexivControl
