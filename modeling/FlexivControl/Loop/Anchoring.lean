/-
What the stream steps from when the loop changes space.

The filter keeps a reference for each space, and a live setpoint moves only the
reference of its own space. The anchors of a run are these two references read off
the passes made so far.
-/

import FlexivControl.Loop.Ticks
import FlexivControl.Loop.SpeedCap
import FlexivControl.Filter.StreamLimits

namespace FlexivControl

open StepLimit Broadcast

section Anchors

variable {K : Type} [Scalar K]

structure Anchors (K : Type) [Scalar K] where
  pose : Pose K
  q : List K

def Anchors.next (a : Anchors K) : Option (RobotState K) → Option (Setpoint K) → Anchors K
  | some state, _ => ⟨state.tcpPose, state.q⟩
  | none, some (.cartesian pose) => { a with pose := pose }
  | none, some (.joint q) => { a with q := q }
  | none, none => a

def Tick.heldAt (t : Tick K) : Option (RobotState K) := if t.holds then t.measured else none

def Anchors.after (a : Anchors K) (t : Tick K) : Anchors K := a.next t.heldAt t.streamed

/-- The setpoint streamed last, over the passes made so far. -/
def lastStreamed (ticks : List (Tick K)) : Option (Setpoint K) :=
  (ticks.filterMap Tick.streamed).getLast?

/-- The first pass to stream in one space after a pass that streamed in the other. -/
def Tick.Flips (pre : List (Tick K)) (t : Tick K) : Prop :=
  match lastStreamed pre, t.streamed with
  | some (.cartesian _), some (.joint _) => True
  | some (.joint _), some (.cartesian _) => True
  | _, _ => False

end Anchors

/-- One joint step of `m` from `r` toward `t` ends within `m` of `x`. -/
def ReachesNear (m r x t : ℝ) : Prop :=
  r = x ∨ (r < x ∧ x - r ≤ 2 * m ∧ x - m ≤ t) ∨ (x < r ∧ r - x ≤ 2 * m ∧ t ≤ x + m)

theorem reachesNear_iff {m : ℝ} (nonneg : 0 ≤ m) (r x t : ℝ) :
    |r + clampStep m (t - r) - x| ≤ m ↔ ReachesNear m r x t := by
  rw [clampStep_real nonneg, ReachesNear, abs_le]
  rcases lt_trichotomy r x with below | same | above
  · grind
  · grind
  · grind

def Anchors.JointsNear (a : Anchors ℝ) (profile : SafetyProfile ℝ) (dt : ℝ) (snap : Snapshot ℝ) :
    Prop :=
  ∀ target limited, snap.targetQ = some target → profile.limitedJoints target = .ok limited →
    ∀ i x t, entry snap.state.q i = some x → entry limited i = some t →
      ∃ r, entry a.q i = some r ∧ ReachesNear (maxJointStep profile dt) r x t

/-- The reference position is the measured one; or, with no acceleration cap, both it
and the box-limited target lie within one step of the measured one. -/
def Anchors.PoseNear (a : Anchors ℝ) (profile : SafetyProfile ℝ) (dt : ℝ) (snap : Snapshot ℝ) :
    Prop :=
  a.pose.pos = snap.state.tcpPose.pos ∨
    (profile.maxLinearAccel = none ∧
      (a.pose.pos - snap.state.tcpPose.pos).norm ≤ linearStep profile dt ∧
      ∀ target draft, snap.targetPose = some target →
        limitWorkspace profile { target := target, clipped := false, reasons := [] } = some draft →
        (draft.target.pos - snap.state.tcpPose.pos).norm ≤ linearStep profile dt)

/-- A pass that follows its target starts from a reference near what it measures. -/
def Tick.AnchoredBy (profile : SafetyProfile ℝ) (dt : ℝ) (a : Anchors ℝ) (t : Tick ℝ) : Prop :=
  t.holds = false → ∀ snap loop, t.atWrite = some (snap, loop) →
    (snap.cartesian = true → a.PoseNear profile dt snap) ∧
      (snap.cartesian = false → a.JointsNear profile dt snap)

/-- What is streamed lies within one step of what was measured on the same pass. -/
def Tick.NearMeasured (profile : SafetyProfile ℝ) (dt : ℝ) (t : Tick ℝ) : Prop :=
  ∀ state, t.measured = some state →
    (∀ pose, t.streamed = some (.cartesian pose) →
      (pose.pos - state.tcpPose.pos).norm ≤ linearStep profile dt) ∧
    ∀ q, t.streamed = some (.joint q) →
      ∀ i x y, entry q i = some x → entry state.q i = some y → |x - y| ≤ maxJointStep profile dt

structure SafetyFilter.AnchoredAt (f : SafetyFilter ℝ) (profile : SafetyProfile ℝ) (dt : ℝ)
    (a : Anchors ℝ) : Prop where
  profile : f.p = profile
  step : f.dt = dt
  pose : ∃ v, f.Anchored a.pose v
  q : f.prevQ = some a.q

theorem SafetyFilter.reset_anchoredAt {f : SafetyFilter ℝ} {profile : SafetyProfile ℝ} {dt : ℝ}
    (caps : profile.PositiveCaps) (nonneg : 0 ≤ dt) (sameProfile : f.p = profile)
    (sameStep : f.dt = dt) (state : RobotState ℝ) :
    (f.reset (some state)).AnchoredAt profile dt ⟨state.tcpPose, state.q⟩ where
  profile := (f.reset_p _ _ _).trans sameProfile
  step := (f.reset_dt _ _ _).trans sameStep
  pose := ⟨0, f.reset_anchored (sameProfile ▸ caps.nonneg) (sameStep ▸ nonneg) (some state) none
    none _ rfl⟩
  q := rfl

/-- Each way of the write section moves the anchors as the filter's references move. -/
theorem Wrote.anchoredAt {snap : Snapshot ℝ} {filter filter' : SafetyFilter ℝ}
    {streamed : Option (Setpoint ℝ)} (wrote : Wrote snap filter streamed filter')
    {profile : SafetyProfile ℝ} {dt : ℝ} (caps : profile.PositiveCaps) (slow : eps ≤ dt)
    {a : Anchors ℝ} (at_a : filter.AnchoredAt profile dt a) :
    filter'.AnchoredAt profile dt
      (a.next (if snap.holds filter then some snap.state else none) streamed) := by
  have nonneg : 0 ≤ dt := eps_pos.le.trans slow
  cases wrote with
  | quiet idle =>
      rw [idle]
      exact at_a
  | heldCartesian holds _ =>
      rw [holds]
      exact SafetyFilter.reset_anchoredAt caps nonneg at_a.profile at_a.step snap.state
  | heldJoint holds _ =>
      rw [holds]
      exact SafetyFilter.reset_anchoredAt caps nonneg at_a.profile at_a.step snap.state
  | @liveCartesian target pose sr _ follows _ _ passed ok found =>
      rw [Snapshot.holds_of_follows follows]
      obtain ⟨v, anchored⟩ := at_a.pose
      have kept := filter.filterCartesian_prevQ target snap.state none
      rcases filter.filterCartesian_anchored (at_a.profile ▸ caps.nonneg) (at_a.step ▸ slow) anchored
        target snap.state none with
        ⟨reason, rejected⟩ | ⟨pose', v', clipped, reasons, f', result, emission⟩
      · rw [rejected, Prod.mk.injEq] at passed
        rw [← passed.1] at ok
        cases ok
      · rw [passed] at kept
        rw [result, Prod.mk.injEq] at passed
        rw [← passed.1, Option.some.injEq] at found
        rw [found, passed.2] at emission
        exact ⟨emission.profile.trans at_a.profile, emission.step.trans at_a.step,
          ⟨v', emission.anchored⟩, kept.trans at_a.q⟩
  | liveJoint follows _ _ passed _ found =>
      rw [Snapshot.holds_of_follows follows]
      obtain ⟨_, _, _, _, _, _, found', left, _⟩ := SafetyFilter.filterJoint_ok passed
      rw [found, Option.some.injEq] at found'
      subst left found'
      obtain ⟨v, anchored⟩ := at_a.pose
      exact ⟨at_a.profile, at_a.step, ⟨v, anchored.pose, anchored.velocity, anchored.bounded⟩, rfl⟩

def ReactiveServoLoop.AnchoredAt (profile : SafetyProfile ℝ) (dt : ℝ) (a : Anchors ℝ)
    (loop : ReactiveServoLoop ℝ) : Prop :=
  loop.running = true → loop.filter.AnchoredAt profile dt a

theorem Tick.keeps_anchoredAt {t : Tick ℝ} (kept : t.input.KeepsProfile)
    {profile : SafetyProfile ℝ} {dt : ℝ} (caps : profile.PositiveCaps) (slow : eps ≤ dt)
    {a : Anchors ℝ} (running : t.before.running = true)
    (at_a : t.before.AnchoredAt profile dt a) :
    t.result.loop.AnchoredAt profile dt (a.after t) := by
  intro goesOn
  rcases t.result_spec with ⟨_, ended⟩ | ⟨snap, loop, at_write, wrote⟩
  · rw [ended] at goesOn
    cases goesOn
  · have same : loop.filter = t.before.filter := by
      rw [ReactiveServoLoop.filter, t.atWrite_robot kept at_write]
    have moved := wrote.anchoredAt caps slow (same ▸ at_a running)
    have held : t.heldAt = if snap.holds loop.filter then some snap.state else none := by
      unfold Tick.heldAt Tick.holds Tick.measured
      rw [at_write]
      rfl
    rw [Anchors.after, held]
    exact moved

/-- Without the acceleration cap, a passed pose lies between the reference and the
box-limited target, and is near any point both are near. -/
theorem SafetyFilter.filterCartesian_between {f f' : SafetyFilter ℝ} (caps : f.p.NonnegCaps)
    (slow : eps ≤ f.dt) (uncapped : f.p.maxLinearAccel = none) {start target pose : Pose ℝ}
    (ref : f.prevPose = some start) {state : RobotState ℝ} {m : ℝ} {sr : SafetyResult ℝ}
    (passed : f.filterCartesian target state = (sr, f')) (ok : sr.ok = true)
    (found : sr.pose = some pose) (point : Vec3 ℝ) (startNear : (start.pos - point).norm ≤ m)
    (goalNear : ∀ draft,
      limitWorkspace f.p { target := target, clipped := false, reasons := [] } = some draft →
        (draft.target.pos - point).norm ≤ m) : (pose.pos - point).norm ≤ m := by
  obtain ⟨draft, limited, same, _⟩ := filterCartesian_limited uncapped passed ok found
  have goal := goalNear draft limited
  obtain ⟨fraction, lower, upper, moved⟩ := limitMotion_fraction caps (eps_pos.le.trans slow)
    start draft
  have at_pose : pose.pos.toE =
      start.pos.toE + fraction • (draft.target.pos.toE - start.pos.toE) := by
    rw [ref, Option.getD_some] at same
    rw [displacement, displacement, ← same] at moved
    rw [← moved, add_sub_cancel]
  rw [← Vec3.norm_toE, Vec3.toE_sub] at startNear goal ⊢
  rw [at_pose]
  exact norm_partway_sub_le lower upper startNear goal

theorem SafetyFilter.filterCartesian_near {f f' : SafetyFilter ℝ} {profile : SafetyProfile ℝ}
    {dt : ℝ} (caps : profile.PositiveCaps) (slow : eps ≤ dt) {a : Anchors ℝ}
    (at_a : f.AnchoredAt profile dt a) {snap : Snapshot ℝ} (near : a.PoseNear profile dt snap)
    {target pose : Pose ℝ} (published : snap.targetPose = some target) {sr : SafetyResult ℝ}
    (passed : f.filterCartesian target snap.state = (sr, f')) (ok : sr.ok = true)
    (found : sr.pose = some pose) :
    (pose.pos - snap.state.tcpPose.pos).norm ≤ linearStep profile dt := by
  obtain ⟨v, anchored⟩ := at_a.pose
  rcases near with at_measured | ⟨uncapped, startNear, goalNear⟩
  · rcases f.filterCartesian_anchored (at_a.profile ▸ caps.nonneg) (at_a.step ▸ slow) anchored target
      snap.state none with ⟨reason, rejected⟩ | ⟨pose', _, _, _, _, result, emission⟩
    · rw [rejected, Prod.mk.injEq] at passed
      rw [← passed.1] at ok
      cases ok
    · rw [result, Prod.mk.injEq] at passed
      rw [← passed.1, Option.some.injEq] at found
      have step := emission.norm_le
      rw [found, at_measured, at_a.profile, at_a.step] at step
      exact step
  · apply SafetyFilter.filterCartesian_between (at_a.profile ▸ caps.nonneg) (at_a.step ▸ slow)
      (at_a.profile ▸ uncapped) anchored.pose passed ok found _ startNear
    intro draft limited
    rw [at_a.profile] at limited
    exact goalNear target draft published limited

theorem SafetyFilter.filterJoint_near {f f' : SafetyFilter ℝ} {profile : SafetyProfile ℝ}
    {dt : ℝ} (caps : profile.PositiveCaps) (nonneg : 0 ≤ dt) {a : Anchors ℝ}
    (at_a : f.AnchoredAt profile dt a) {snap : Snapshot ℝ} (near : a.JointsNear profile dt snap)
    {target q : List ℝ} (published : snap.targetQ = some target) {sr : SafetyResult ℝ}
    (passed : f.filterJoint target snap.state = .ok (sr, f')) (found : sr.q = some q) :
    ∀ i x y, entry q i = some x → entry snap.state.q i = some y →
      |x - y| ≤ maxJointStep profile dt := by
  have stepNonneg := maxJointStep_nonneg caps nonneg
  intro i x y at_q at_measured
  obtain ⟨limited, limit, _, targets, moves⟩ := filterJoint_entry passed found
  rw [at_a.profile] at limit
  rw [at_a.q, Option.getD_some, at_a.profile, at_a.step] at moves
  obtain ⟨t, at_limited⟩ := targets i x at_q
  obtain ⟨r, at_ref, reaches⟩ := near target limited published limit i y t at_measured at_limited
  have moved := moves i t r at_limited at_ref
  rw [at_q, Option.some.injEq] at moved
  rw [moved, reachesNear_iff stepNonneg]
  exact reaches

theorem Tick.nearMeasured_of_anchored {t : Tick ℝ} (kept : t.input.KeepsProfile)
    {profile : SafetyProfile ℝ} {dt : ℝ} (caps : profile.PositiveCaps) (slow : eps ≤ dt)
    {a : Anchors ℝ} (at_a : t.before.filter.AnchoredAt profile dt a)
    (anchored : t.AnchoredBy profile dt a) : t.NearMeasured profile dt := by
  have nonneg : 0 ≤ dt := eps_pos.le.trans slow
  have stepNonneg := maxJointStep_nonneg caps nonneg
  intro state measured
  rcases t.result_spec with ⟨nothing, _⟩ | ⟨snap, loop, at_write, wrote⟩
  · rw [nothing]
    constructor
    · intro pose impossible
      cases impossible
    · intro q impossible
      cases impossible
  · have same : loop.filter = t.before.filter := by
      rw [ReactiveServoLoop.filter, t.atWrite_robot kept at_write]
    have here : snap.state = state := by
      rw [Tick.measured, at_write] at measured
      exact Option.some.inj measured
    have follow (follows : snap.follows loop.filter = true) :=
      anchored (by rw [Tick.holds, at_write]; exact snap.holds_of_follows follows) snap loop at_write
    subst here
    generalize t.streamed = streamed at wrote
    generalize t.result.loop.filter = left at wrote
    cases wrote with
    | quiet _ =>
        constructor
        · intro pose impossible
          cases impossible
        · intro q impossible
          cases impossible
    | heldCartesian _ _ =>
        constructor
        · intro pose sent
          cases sent
          rw [← Vec3.norm_toE, Vec3.toE_sub, sub_self, norm_zero]
          exact le_min caps.poseJumpLinear.le (mul_nonneg caps.linearSpeed.le nonneg)
        · intro q impossible
          cases impossible
    | heldJoint _ _ =>
        constructor
        · intro pose impossible
          cases impossible
        · intro q sent i x y at_q at_measured
          cases sent
          rw [at_q, Option.some.injEq] at at_measured
          rw [at_measured, sub_self, abs_zero]
          exact stepNonneg
    | liveCartesian follows space published passed ok found =>
        constructor
        · intro pose sent
          cases sent
          exact SafetyFilter.filterCartesian_near caps slow (same ▸ at_a)
            ((follow follows).1 space) published passed ok found
        · intro q impossible
          cases impossible
    | liveJoint follows space published passed _ found =>
        constructor
        · intro pose impossible
          cases impossible
        · intro q sent
          cases sent
          exact SafetyFilter.filterJoint_near caps nonneg (same ▸ at_a)
            ((follow follows).2 space) published passed found

/-! ### Whole runs -/

/-- The state a session is seeded with. -/
def seedState (first second : RobotState ℝ) : RobotState ℝ :=
  if first.controlMode.isCartesian then first else second

theorem servoSession_anchoredAt (cfg : RobotConfig ℝ) {profile : SafetyProfile ℝ}
    (caps : profile.PositiveCaps) {r : ℝ} (positive : 0 < r) (h : ℝ) (first second : RobotState ℝ)
    (now perf : ℝ) :
    (servoSession cfg profile r h first second now perf).AnchoredAt profile (1 / r)
      ⟨(seedState first second).tcpPose, (seedState first second).q⟩ := by
  intro _
  have seeded (state : RobotState ℝ) :
      ((Robot.init cfg profile (some r)).filter.reset (some state)).AnchoredAt profile (1 / r)
        ⟨state.tcpPose, state.q⟩ := by
    rw [Robot.init_filter cfg profile positive]
    exact SafetyFilter.reset_anchoredAt caps (one_div_pos.mpr positive).le rfl rfl state
  unfold servoSession ReactiveServoLoop.start seedState
  rw [if_neg (by exact Bool.false_ne_true)]
  split
  · exact seeded first
  · exact seeded second

/-- In every run whose changes of space all find the reference of the new space near
what is measured, each of them streams within one step of what is measured. -/
theorem flips_near_measured (cfg : RobotConfig ℝ) (profile : SafetyProfile ℝ)
    (caps : profile.PositiveCaps) (r h : ℝ) (positive : 0 < r) (resolved : r ≤ 1000000000)
    (first second : RobotState ℝ) (now perf : ℝ) (inputs : List (TickInput ℝ))
    (targets : ∀ input ∈ inputs, input.KeepsProfile)
    (anchored : ∀ pre t post,
      (servoSession cfg profile r h first second now perf).runInner inputs = pre ++ t :: post →
      t.Flips pre → t.AnchoredBy profile (1 / r) (pre.foldl Anchors.after
        ⟨(seedState first second).tcpPose, (seedState first second).q⟩)) :
    ∀ pre t post,
      (servoSession cfg profile r h first second now perf).runInner inputs = pre ++ t :: post →
      t.Flips pre → t.NearMeasured profile (1 / r) := by
  have slow : eps ≤ 1 / r := by
    rw [eps_real]
    exact one_div_le_one_div_of_le positive resolved
  intro pre t post run flips
  obtain ⟨inside, running, at_a⟩ := runInner_accumulates Anchors.after inputs _
    (servoSession_anchoredAt cfg caps positive h first second now perf)
    (fun t a _ inside running at_a => t.keeps_anchoredAt (targets _ inside) caps slow running at_a)
    pre t post run
  exact t.nearMeasured_of_anchored (targets _ inside) caps slow (at_a running)
    (anchored pre t post run flips)

noncomputable def hovering : RobotState ℝ :=
  { stamp := 0, q := uniform 0, tcpPose := overTable, controlMode := .nrtCartesianMotionForce }

noncomputable def lifted : Pose ℝ :=
  (limitMotion tabletop (1 / 100) overTable
    { target := raiseCall.target, clipped := false, reasons := [] }).target

noncomputable def liftedAt (angle : ℝ) : RobotState ℝ :=
  { hovering with q := uniform angle, tcpPose := lifted }

noncomputable def raise : TickInput ℝ :=
  .publishing hovering (.cartesianTarget [1 / 2, 0, 35 / 100, 1, 0, 0, 0] none 0)

noncomputable def reachBack (angle : ℝ) : TickInput ℝ :=
  .publishing (liftedAt angle) (.jointTarget (uniform (-1)) 0)

noncomputable def switching (angle : ℝ) : List (Tick ℝ) :=
  (servoSession {} tabletop 100 100 hovering hovering 0 0).runInner [raise, reachBack angle]

theorem hovering_light : exceeds hovering.wrench tabletop.maxContactWrench = false := by
  rw [Bool.eq_false_iff, ne_eq, exceeds_real]
  rintro ⟨axis, heavy⟩
  fin_cases axis <;> norm_num [hovering, tabletop] at heavy

theorem raise_contains : tabletop.contains raiseCall.target.pos := by
  intro axis
  cases axis with
  | x => norm_num [SafetyProfile.interval, axisValue, tabletop, raiseCall]
  | y => norm_num [SafetyProfile.interval, axisValue, tabletop, raiseCall]
  | z => norm_num [SafetyProfile.interval, axisValue, tabletop, raiseCall]

theorem switching_eq (angle : ℝ) : ∃ t t' : Tick ℝ, switching angle = [t, t'] ∧
    t.streamed = some (.cartesian lifted) ∧ t.holds = false ∧
    t'.streamed = some (.joint (uniform (-6 / 1000))) ∧
    t'.measured = some (liftedAt angle) ∧
    ∀ snap loop, t'.atWrite = some (snap, loop) →
      snap.cartesian = false ∧ snap.state = liftedAt angle := by
  obtain ⟨profile, step⟩ := servoSession_uses {} tabletop (r := 100) (by norm_num) 100 hovering
    hovering 0 0 rfl
  have anchored := servoSession_anchoredAt {} tabletop_positiveCaps (r := 100) (by norm_num) 100
    hovering hovering 0 0 rfl
  unfold switching
  generalize started : servoSession {} tabletop 100 100 hovering hovering 0 0 = loop at *
  have running : loop.running = true := started ▸ rfl
  have at_start : loop.filter.prevPose = some overTable := started ▸ rfl
  have at_zero : loop.filter.prevQ = some (uniform 0) := started ▸ rfl
  obtain ⟨streamed, followed, ⟨v, left⟩, goesOn⟩ := Tick.live_pose loop hovering profile
    (by rw [at_start]) raise_contains hovering_light
  rw [step] at streamed followed left
  have profileAfter : (Tick.result ⟨loop, raise⟩).loop.filter.p = tabletop := left ▸ rfl
  have stepAfter : (Tick.result ⟨loop, raise⟩).loop.filter.dt = 1 / 100 := left ▸ step
  have zeroAfter : (Tick.result ⟨loop, raise⟩).loop.filter.prevQ = some (uniform 0) := left ▸ at_zero
  obtain ⟨streamed', _⟩ := Tick.live_uniform (Tick.result ⟨loop, raise⟩).loop (liftedAt angle)
    (a := 0) (t := -1) profileAfter (by rw [zeroAfter]; rfl) le_rfl (by norm_num)
  have back : clampStep (6 / 1000) (-1 - 0 : ℝ) = -6 / 1000 := by
    rw [clampStep_real (by norm_num)]
    norm_num
  rw [stepAfter, tabletop_maxJointStep, back, zero_add] at streamed'
  refine ⟨⟨loop, raise⟩, ⟨(loop.tick raise).loop, reachBack angle⟩,
    runInner_pair raise (reachBack angle) running (goesOn.trans running), streamed,
    Tick.not_holds_of_live followed, streamed', rfl, ?_⟩
  intro snap loop' at_write
  cases at_write
  exact ⟨rfl, rfl⟩

theorem flips_of_streamed {t t' : Tick ℝ} {pose : Pose ℝ} {q : List ℝ}
    (streamed : t.streamed = some (.cartesian pose)) (streamed' : t'.streamed = some (.joint q)) :
    t'.Flips [t] := by
  have last : lastStreamed [t] = some (.cartesian pose) := by
    unfold lastStreamed
    rw [List.filterMap_cons, streamed]
    rfl
  unfold Tick.Flips
  rw [last, streamed']
  trivial

theorem switching_keepProfile (angle : ℝ) :
    ∀ input ∈ [raise, reachBack angle], input.KeepsProfile := by
  intro input inside
  rcases List.mem_cons.mp inside with first | second
  · rw [first]
    exact publishing_keepsProfile trivial
  · rw [List.mem_singleton.mp second]
    exact publishing_keepsProfile trivial

/-- Where no joint moved while the pose did, the change to joint space is one step. -/
theorem flips_near_measured_still :
    ∃ t t' : Tick ℝ, switching 0 = [t] ++ t' :: [] ∧ t'.Flips [t] ∧
      t'.NearMeasured tabletop (1 / 100) := by
  obtain ⟨first, second, both, streamed, moving, streamed', _, at_write⟩ := switching_eq 0
  have flip := flips_of_streamed streamed streamed'
  refine ⟨first, second, both, flip, ?_⟩
  apply flips_near_measured {} tabletop tabletop_positiveCaps 100 100 (by norm_num) (by norm_num)
    hovering hovering 0 0 [raise, reachBack 0] (switching_keepProfile 0) ?_ [first] second [] both
    flip
  intro pre t post run flips
  unfold switching at both
  rw [both] at run
  rcases pre with _ | ⟨_, _ | ⟨_, pre⟩⟩
  · exact absurd flips id
  · simp only [List.cons_append, List.nil_append, List.cons.injEq] at run
    obtain ⟨isFirst, isSecond, _⟩ := run
    subst isFirst isSecond
    intro _ snap loop there
    obtain ⟨space, state⟩ := at_write snap loop there
    constructor
    · intro otherSpace
      rw [space] at otherSpace
      cases otherSpace
    · intro _ target limited published' limit i x y at_measured at_limited
      have anchor : ([first].foldl Anchors.after
          ⟨(seedState hovering hovering).tcpPose, (seedState hovering hovering).q⟩).q =
            uniform 0 := by
        simp only [List.foldl_cons, List.foldl_nil, Anchors.after, Tick.heldAt, moving, streamed]
        rfl
      rw [state] at at_measured
      exact ⟨x, by rw [anchor]; exact at_measured, Or.inl rfl⟩
  · simp only [List.cons_append, List.cons.injEq] at run
    cases pre <;> cases run.2.2

/-- A thousandth of a radian of drift during one Cartesian tick, and the change to joint
space streams seven thousandths away from the measured joints. -/
theorem flip_leaves_measured :
    tabletop.PositiveCaps ∧ (∀ input ∈ [raise, reachBack (1 / 1000)], input.KeepsProfile) ∧
      ∃ t t' : Tick ℝ, switching (1 / 1000) = [t] ++ t' :: [] ∧
        t.streamed = some (.cartesian lifted) ∧ t'.measured = some (liftedAt (1 / 1000)) ∧
        (liftedAt (1 / 1000)).tcpPose = lifted ∧ t'.Flips [t] ∧
        ¬ t'.NearMeasured tabletop (1 / 100) := by
  obtain ⟨t, t', both, streamed, _, streamed', measured, _⟩ := switching_eq (1 / 1000)
  refine ⟨tabletop_positiveCaps, switching_keepProfile _, t, t', both, streamed, measured, rfl,
    flips_of_streamed streamed streamed', ?_⟩
  intro near
  have bound := (near _ measured).2 _ streamed' 0 _ _ rfl rfl
  rw [tabletop_maxJointStep] at bound
  norm_num [abs_of_neg] at bound

end FlexivControl
