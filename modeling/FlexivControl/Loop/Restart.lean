/-
The first Cartesian setpoint after a protective stop.

A pass that stops the backend leaves the filter as it was, whichever check ordered
the stop; only a pass that holds position anchors the filter to the measured pose.
What the stream steps from after a stop is therefore read off the passes before it.
-/

import FlexivControl.Filter.Overshoot
import FlexivControl.Loop.Anchoring

namespace FlexivControl

open StepLimit

section Passes

variable {K : Type} [Scalar K]

def Tick.Stops (t : Tick K) : Prop := BackendCall.stop ∈ t.result.calls

/-- The first pass to stream in Cartesian space after a pass that stopped the backend. -/
def Tick.Restarts (pre : List (Tick K)) (t : Tick K) : Prop :=
  (∃ pose, t.streamed = some (.cartesian pose)) ∧
    ∃ before stopped between, pre = before ++ stopped :: between ∧ stopped.Stops ∧
      ∀ u ∈ between, ∀ pose, u.streamed ≠ some (.cartesian pose)

/-- The position the stream steps from and the velocity it remembers. -/
structure Reference (K : Type) [Scalar K] where
  pos : Vec3 K
  velocity : Vec3 K

def Reference.next (dt : K) (a : Reference K) :
    Option (RobotState K) → Option (Setpoint K) → Reference K
  | some state, _ => ⟨state.tcpPose.pos, 0⟩
  | none, some (.cartesian pose) => ⟨pose.pos, (pose.pos - a.pos) / dt⟩
  | none, _ => a

def Reference.after (dt : K) (a : Reference K) (t : Tick K) : Reference K :=
  a.next dt t.heldAt t.streamed

theorem Publication.apply_filter (p : Publication K) (loop : ReactiveServoLoop K) :
    ∃ profile, (p.apply loop).filter = loop.filter.setProfile profile := by
  by_cases kept : p.KeepsProfile
  · refine ⟨loop.filter.p, ?_⟩
    rw [ReactiveServoLoop.filter, Publication.apply_robot kept]
    rfl
  · cases p with
    | safetyProfile profile => exact ⟨profile, rfl⟩
    | cartesianTarget pose gripper now => exact absurd trivial kept
    | jointTarget q now => exact absurd trivial kept
    | enqueueChunk chunk s now => exact absurd trivial kept
    | halt => exact absurd trivial kept

theorem absorb_filter (published : List (Publication K)) (loop : ReactiveServoLoop K) :
    ∃ profile, (loop.absorb published).filter = loop.filter.setProfile profile := by
  induction published generalizing loop with
  | nil => exact ⟨loop.filter.p, rfl⟩
  | cons p rest ih =>
      obtain ⟨profile, first⟩ := p.apply_filter loop
      obtain ⟨profile', later⟩ := ih (p.apply loop)
      refine ⟨profile', later.trans ?_⟩
      rw [first]
      rfl

theorem Tick.atWrite_filter {t : Tick K} {snap : Snapshot K} {loop : ReactiveServoLoop K}
    (at_write : t.atWrite = some (snap, loop)) :
    ∃ profile, loop.filter = t.before.filter.setProfile profile := by
  unfold atWrite ReactiveServoLoop.arrive at at_write
  cases read : t.input.state with
  | error e => rw [read] at at_write; cases at_write
  | ok state =>
      rw [read] at at_write
      cases fault : t.input.inFault with
      | error e => rw [fault] at at_write; cases at_write
      | ok faulted =>
          rw [fault] at at_write
          dsimp only at at_write
          rw [Option.some.injEq, Prod.mk.injEq] at at_write
          rw [← at_write.2]
          let fetched := ({ t.before with latestState := some state }.absorb
            t.input.beforeFetch).fetchChunk
          obtain ⟨_, first⟩ := absorb_filter t.input.beforeFetch
            { t.before with latestState := some state }
          obtain ⟨_, second⟩ := absorb_filter t.input.beforeAdvance fetched.2
          obtain ⟨_, third⟩ := absorb_filter t.input.beforeSnapshot
            ((fetched.2.absorb t.input.beforeAdvance).advance fetched.1 t.input.advanceClock)
          obtain ⟨profile, last⟩ := absorb_filter t.input.beforeWrite
            { t.before.prepare t.input state with
              stats := { (t.before.prepare t.input state).stats with
                commandAgeMs := ((t.before.prepare t.input state).snapshot t.input state
                  faulted).age * Scalar.ofNat 1000 } }
          have prepared : (t.before.prepare t.input state).filter =
              (fetched.2.absorb t.input.beforeAdvance |>.advance fetched.1
                t.input.advanceClock |>.absorb t.input.beforeSnapshot).filter := rfl
          refine ⟨profile, last.trans ?_⟩
          change (t.before.prepare t.input state).filter.setProfile profile = _
          rw [prepared, third, ReactiveServoLoop.filter, advance_robot]
          change ((fetched.2.absorb t.input.beforeAdvance).filter.setProfile _).setProfile _ = _
          rw [second, ReactiveServoLoop.filter, fetchChunk_robot]
          change (((({ t.before with latestState := some state }.absorb
            t.input.beforeFetch).filter).setProfile _).setProfile _).setProfile _ = _
          rw [first]
          rfl

end Passes

structure SafetyFilter.RefersTo (f : SafetyFilter ℝ) (dt : ℝ) (a : Reference ℝ) : Prop where
  step : f.dt = dt
  pose : ∃ pose, f.prevPose = some pose ∧ pose.pos = a.pos
  velocity : f.prevLinVel = some a.velocity

theorem SafetyFilter.reset_refersTo {f : SafetyFilter ℝ} {dt : ℝ} (step : f.dt = dt)
    (state : RobotState ℝ) : (f.reset (some state)).RefersTo dt ⟨state.tcpPose.pos, 0⟩ where
  step := (f.reset_dt _ _ _).trans step
  pose := ⟨state.tcpPose, rfl, rfl⟩
  velocity := rfl

theorem SafetyFilter.RefersTo.setProfile {f : SafetyFilter ℝ} {dt : ℝ} {a : Reference ℝ}
    (at_a : f.RefersTo dt a) (profile : SafetyProfile ℝ) : (f.setProfile profile).RefersTo dt a :=
  ⟨at_a.step, at_a.pose, at_a.velocity⟩

theorem SafetyFilter.filterCartesian_refersTo {f f' : SafetyFilter ℝ} {dt : ℝ} (slow : eps ≤ dt)
    {a : Reference ℝ} (at_a : f.RefersTo dt a) {target pose : Pose ℝ} {state : RobotState ℝ}
    {sr : SafetyResult ℝ} (passed : f.filterCartesian target state = (sr, f'))
    (ok : sr.ok = true) (found : sr.pose = some pose) :
    f'.RefersTo dt ⟨pose.pos, (pose.pos - a.pos) / dt⟩ := by
  have positive : 0 < dt := lt_of_lt_of_le eps_pos slow
  obtain ⟨start, at_start, same⟩ := at_a.pose
  rcases f.filterCartesian_cases target state none with
    ⟨reason, rejected⟩ | ⟨draft, _, _, result⟩
  · rw [rejected, Prod.mk.injEq] at passed
    rw [← passed.1] at ok
    cases ok
  · dsimp only at result
    rw [result, Prod.mk.injEq] at passed
    obtain ⟨sameResult, left⟩ := passed
    rw [← sameResult, Option.some.injEq] at found
    rw [at_start, Option.getD_some, at_a.velocity, at_a.step] at found left
    obtain ⟨carried, _, _⟩ := limitLinearAccel_spec (p := f.p) slow a.velocity start
      (limitMotion f.p dt start draft)
    rw [displacement, found, same] at carried
    subst left
    refine ⟨rfl, ⟨pose, congrArg some found, rfl⟩, ?_⟩
    apply congrArg some
    apply Vec3.toE_injective
    rw [Vec3.toE_div, Vec3.toE_sub, carried, smul_smul, inv_mul_cancel₀ positive.ne', one_smul]

theorem Wrote.refersTo {snap : Snapshot ℝ} {filter filter' : SafetyFilter ℝ}
    {streamed : Option (Setpoint ℝ)} (wrote : Wrote snap filter streamed filter') {dt : ℝ}
    (slow : eps ≤ dt) {a : Reference ℝ} (at_a : filter.RefersTo dt a) :
    filter'.RefersTo dt
      (a.next dt (if snap.holds filter then some snap.state else none) streamed) := by
  cases wrote with
  | quiet idle =>
      rw [idle]
      exact at_a
  | heldCartesian holds _ =>
      rw [holds]
      exact SafetyFilter.reset_refersTo at_a.step snap.state
  | heldJoint holds _ =>
      rw [holds]
      exact SafetyFilter.reset_refersTo at_a.step snap.state
  | liveCartesian follows _ _ passed ok found =>
      rw [Snapshot.holds_of_follows follows]
      exact SafetyFilter.filterCartesian_refersTo slow at_a passed ok found
  | liveJoint follows _ _ passed _ _ =>
      rw [Snapshot.holds_of_follows follows]
      obtain ⟨_, _, _, _, _, _, _, left, _⟩ := SafetyFilter.filterJoint_ok passed
      subst left
      exact ⟨at_a.step, at_a.pose, at_a.velocity⟩

def ReactiveServoLoop.RefersTo (dt : ℝ) (a : Reference ℝ) (loop : ReactiveServoLoop ℝ) : Prop :=
  loop.running = true → loop.filter.RefersTo dt a

theorem Tick.keeps_refersTo {t : Tick ℝ} {dt : ℝ} (slow : eps ≤ dt) {a : Reference ℝ}
    (running : t.before.running = true) (at_a : t.before.RefersTo dt a) :
    t.result.loop.RefersTo dt (a.after dt t) := by
  intro goesOn
  rcases t.result_spec with ⟨_, ended⟩ | ⟨snap, loop, at_write, wrote⟩
  · rw [ended] at goesOn
    cases goesOn
  · obtain ⟨profile, same⟩ := t.atWrite_filter at_write
    have here : loop.filter.RefersTo dt a := same ▸ (at_a running).setProfile profile
    have held : t.heldAt = if snap.holds loop.filter then some snap.state else none := by
      unfold Tick.heldAt Tick.holds Tick.measured
      rw [at_write]
      rfl
    rw [Reference.after, held]
    exact wrote.refersTo slow here

/-! ### What a restart must find -/

/-- The reference is where the arm is measured, at rest or with a velocity one step
covers; or, with no acceleration cap, both it and the box-limited target lie within
one step of the measured position. -/
def Reference.Near (a : Reference ℝ) (p : SafetyProfile ℝ) (dt : ℝ) (snap : Snapshot ℝ) : Prop :=
  (a.pos = snap.state.tcpPose.pos ∧
    (p.maxLinearAccel = none ∨ ‖dt • a.velocity.toE‖ ≤ linearStep p dt)) ∨
  (p.maxLinearAccel = none ∧ (a.pos - snap.state.tcpPose.pos).norm ≤ linearStep p dt ∧
    ∀ target draft, snap.targetPose = some target →
      limitWorkspace p { target := target, clipped := false, reasons := [] } = some draft →
      (draft.target.pos - snap.state.tcpPose.pos).norm ≤ linearStep p dt)

/-- No cap of the profile in force is negative, and a pass that follows its target
starts from a reference near what it measures. -/
def Tick.RestartsNear (dt : ℝ) (a : Reference ℝ) (t : Tick ℝ) : Prop :=
  ∀ snap loop, t.atWrite = some (snap, loop) → loop.filter.p.NonnegCaps ∧
    (snap.holds loop.filter = false → a.Near loop.filter.p dt snap)

/-- A Cartesian setpoint lies within one step, under the profile in force, of the
position measured on the same pass. -/
def Tick.StreamsNear (dt : ℝ) (t : Tick ℝ) : Prop :=
  ∀ snap loop pose, t.atWrite = some (snap, loop) → t.streamed = some (.cartesian pose) →
    (pose.pos - snap.state.tcpPose.pos).norm ≤ linearStep loop.filter.p dt

theorem SafetyFilter.filterCartesian_from_measured {f f' : SafetyFilter ℝ} {dt : ℝ}
    (slow : eps ≤ dt) (caps : f.p.NonnegCaps) {a : Reference ℝ} (at_a : f.RefersTo dt a)
    {state : RobotState ℝ} (here : a.pos = state.tcpPose.pos)
    (bounded : f.p.maxLinearAccel = none ∨ ‖dt • a.velocity.toE‖ ≤ linearStep f.p dt)
    {target pose : Pose ℝ} {sr : SafetyResult ℝ}
    (passed : f.filterCartesian target state = (sr, f')) (ok : sr.ok = true)
    (found : sr.pose = some pose) :
    (pose.pos - state.tcpPose.pos).norm ≤ linearStep f.p dt := by
  obtain ⟨start, at_start, same⟩ := at_a.pose
  rcases bounded with uncapped | bounded
  · obtain ⟨draft, _, limited, _⟩ := filterCartesian_limited uncapped passed ok found
    have within := limitMotion_norm_le caps slow start draft
    rw [norm_displacement] at within
    rw [limited, at_start, Option.getD_some, at_a.step, ← here, ← same]
    exact within
  · have anchored : f.Anchored start a.velocity :=
      ⟨at_start, at_a.velocity, by rw [at_a.step]; exact bounded⟩
    rcases f.filterCartesian_anchored caps (at_a.step ▸ slow) anchored target state none with
      ⟨reason, rejected⟩ | ⟨pose', _, _, _, _, result, emission⟩
    · rw [rejected, Prod.mk.injEq] at passed
      rw [← passed.1] at ok
      cases ok
    · rw [result, Prod.mk.injEq] at passed
      rw [← passed.1, Option.some.injEq] at found
      have step := emission.norm_le
      rw [found, same, here, at_a.step] at step
      exact step

theorem Tick.streamsNear_of_restartsNear {t : Tick ℝ} {dt : ℝ} (slow : eps ≤ dt)
    {a : Reference ℝ} (at_a : t.before.filter.RefersTo dt a) (near : t.RestartsNear dt a) :
    t.StreamsNear dt := by
  intro snap loop pose at_write streamed
  have nonneg : 0 ≤ dt := eps_pos.le.trans slow
  obtain ⟨caps, moving⟩ := near snap loop at_write
  obtain ⟨profile, same⟩ := t.atWrite_filter at_write
  have here : loop.filter.RefersTo dt a := same ▸ at_a.setProfile profile
  rcases t.result_spec with ⟨nothing, _⟩ | ⟨snap', loop', at_write', wrote⟩
  · rw [nothing] at streamed
    cases streamed
  · rw [at_write, Option.some.injEq, Prod.mk.injEq] at at_write'
    obtain ⟨sameSnap, sameLoop⟩ := at_write'
    subst sameSnap sameLoop
    rw [streamed] at wrote
    generalize t.result.loop.filter = left at wrote
    cases wrote with
    | heldCartesian _ _ =>
        rw [← Vec3.norm_toE, Vec3.toE_sub, sub_self, norm_zero]
        exact le_min caps.poseJumpLinear (mul_nonneg caps.linearSpeed nonneg)
    | liveCartesian follows _ published passed ok found =>
        rcases moving (Snapshot.holds_of_follows follows) with
          ⟨at_measured, bounded⟩ | ⟨uncapped, startNear, goalNear⟩
        · exact SafetyFilter.filterCartesian_from_measured slow caps here at_measured bounded
            passed ok found
        · obtain ⟨start, at_start, samePos⟩ := here.pose
          apply SafetyFilter.filterCartesian_between caps (here.step ▸ slow) uncapped at_start
            passed ok found
          · rw [samePos]
            exact startNear
          · intro draft limited
            exact goalNear _ draft published limited

theorem ReactiveServoLoop.start_refersTo {loop : ReactiveServoLoop ℝ}
    (idle : loop.running = false) (first second : RobotState ℝ) (now perf : ℝ) :
    (loop.start first second now perf).2.RefersTo loop.filter.dt
      ⟨(seedState first second).tcpPose.pos, 0⟩ := by
  intro _
  unfold start seedState
  rw [if_neg (by rw [idle]; exact Bool.false_ne_true)]
  split
  · exact SafetyFilter.reset_refersTo rfl first
  · exact SafetyFilter.reset_refersTo rfl second

/-- In every run whose restarts all find the reference near what is measured, each of
them streams within one step of what is measured, over any stops and any profiles. -/
theorem restarts_stream_near (loop : ReactiveServoLoop ℝ) (idle : loop.running = false)
    (slow : eps ≤ loop.filter.dt) (first second : RobotState ℝ) (now perf : ℝ)
    (inputs : List (TickInput ℝ))
    (near : ∀ pre t post,
      (loop.start first second now perf).2.runInner inputs = pre ++ t :: post →
      t.Restarts pre → t.RestartsNear loop.filter.dt (pre.foldl (Reference.after loop.filter.dt)
        ⟨(seedState first second).tcpPose.pos, 0⟩)) :
    ∀ pre t post, (loop.start first second now perf).2.runInner inputs = pre ++ t :: post →
      t.Restarts pre → t.StreamsNear loop.filter.dt := by
  intro pre t post run restarts
  obtain ⟨_, running, at_a⟩ := runInner_accumulates (Reference.after loop.filter.dt) inputs _
    (loop.start_refersTo idle first second now perf)
    (fun t a _ _ running at_a => t.keeps_refersTo slow running at_a) pre t post run
  exact t.streamsNear_of_restartsNear slow (at_a running) (near pre t post run restarts)

noncomputable def tabletopLoop : ReactiveServoLoop ℝ :=
  .init (Robot.init {} tabletop (some 100)) (some 100)

noncomputable def faulting : TickInput ℝ where
  state := .ok hovering
  stateClock := 0
  advanceClock := 0
  ageClock := 0
  inFault := .ok true

noncomputable def hoveringAt (shift : ℝ) : RobotState ℝ :=
  { hovering with tcpPose := ⟨onLine (1 / 2 + shift), 1⟩ }

noncomputable def resuming (shift : ℝ) : TickInput ℝ :=
  .publishing (hoveringAt shift) (.cartesianTarget [1 / 2, 0, 35 / 100, 1, 0, 0, 0] none 0)

noncomputable def faultRun (shift : ℝ) : List (Tick ℝ) :=
  (tabletopLoop.start hovering hovering 0 0).2.runInner [faulting, resuming shift]

theorem tabletopLoop_filter : tabletopLoop.filter = SafetyFilter.init tabletop (1 / 100) :=
  Robot.init_filter {} tabletop (by norm_num)

theorem faulting_spec {loop : ReactiveServoLoop ℝ} (empty : loop.chunkIter = none) :
    (loop.tick faulting).calls = [.stop] ∧ (loop.tick faulting).loop.filter = loop.filter ∧
      (loop.tick faulting).loop.running = loop.running ∧
      Tick.heldAt ⟨loop, faulting⟩ = none := by
  have prepared : loop.prepare faulting hovering = { loop with latestState := some hovering } := by
    simp only [ReactiveServoLoop.prepare, ReactiveServoLoop.fetchChunk, ReactiveServoLoop.absorb,
      faulting, List.foldl_nil, empty]
    rfl
  have arrived : ∃ snap here, loop.arrive faulting = (.ok snap, here) ∧ snap.faulted = true ∧
      here.filter = loop.filter ∧ here.running = loop.running := by
    refine ⟨_, _, rfl, rfl, ?_, ?_⟩
    · change (loop.prepare faulting hovering).filter = loop.filter
      rw [prepared]
    · change (loop.prepare faulting hovering).running = loop.running
      rw [prepared]
  obtain ⟨snap, here, arrived, faulted, filter, running⟩ := arrived
  have wrote : writeSection faulting snap here.robot { loop := here } =
      (.ok (), { loop := here.report .fault .backendFault, calls := [.stop] }) := by
    unfold writeSection
    rw [faulted]
    rfl
  have ended : loop.tick faulting = {
      loop := (here.report .fault .backendFault).diagnose faulting
      calls := [.stop]
      raised := none } := by
    unfold ReactiveServoLoop.tick
    rw [arrived]
    dsimp only
    rw [wrote]
  rw [ended]
  refine ⟨rfl, (diagnose_filter _ _).trans filter, (diagnose_running _ _).trans running, ?_⟩
  have idle : Tick.holds ⟨loop, faulting⟩ = false := by
    unfold Tick.holds Tick.atWrite
    rw [arrived]
    simp only [Snapshot.holds, faulted]
    rfl
  unfold Tick.heldAt
  rw [idle]
  rfl

/-- The stop leaves the filter where the session started, and the next pass steps from there. -/
theorem faultRun_eq (shift : ℝ) : ∃ t t' : Tick ℝ, ∃ pose : Pose ℝ,
    faultRun shift = [t, t'] ∧ t.Stops ∧ t'.Restarts [t] ∧
      t'.streamed = some (.cartesian pose) ∧
      (pose.pos - overTable.pos).norm ≤ linearStep tabletop (1 / 100) ∧
      t.heldAt = none ∧ t.streamed = none ∧
      ∃ snap loop, t'.atWrite = some (snap, loop) ∧ snap.state = hoveringAt shift ∧
        loop.filter.p = tabletop := by
  have started : (tabletopLoop.start hovering hovering 0 0).2 = tabletopLoop.seed hovering 0 0 :=
    rfl
  unfold faultRun
  rw [started]
  have empty : (tabletopLoop.seed hovering 0 0).chunkIter = none := rfl
  have filter : (tabletopLoop.seed hovering 0 0).filter =
      (SafetyFilter.init tabletop (1 / 100)).reset (some hovering) := by
    rw [← tabletopLoop_filter]
    rfl
  obtain ⟨stopped, kept, goesOn, moving⟩ := faulting_spec empty
  have running : (tabletopLoop.seed hovering 0 0).running = true := rfl
  generalize tabletopLoop.seed hovering 0 0 = loop at *
  have silent : Tick.streamed ⟨loop, faulting⟩ = none := by
    unfold Tick.streamed Tick.result
    rw [stopped]
    rfl
  have profile : (loop.tick faulting).loop.filter.p = tabletop := by
    rw [kept, filter]
    rfl
  have step : (loop.tick faulting).loop.filter.dt = 1 / 100 := by
    rw [kept, filter]
    rfl
  have ref : (loop.tick faulting).loop.filter.prevPose = some overTable := by
    rw [kept, filter]
    rfl
  obtain ⟨streamed, _⟩ := Tick.live_pose (loop.tick faulting).loop (hoveringAt shift) profile
    (by rw [ref, Option.getD_some]) raise_contains hovering_light
  have stops : Tick.Stops ⟨loop, faulting⟩ := by
    unfold Tick.Stops Tick.result
    rw [stopped]
    exact List.mem_singleton_self _
  have slow : eps ≤ (loop.tick faulting).loop.filter.dt := by
    rw [step, eps_real]
    norm_num
  have within := limitMotion_norm_le tabletop_positiveCaps.nonneg slow overTable
    { target := raiseCall.target, clipped := false, reasons := [] }
  rw [norm_displacement, step] at within
  rw [step] at streamed
  refine ⟨⟨loop, faulting⟩, ⟨(loop.tick faulting).loop, resuming shift⟩, _,
    runInner_pair faulting (resuming shift) running (goesOn.trans running), stops, ?_, streamed,
    within, moving, silent, _, _, rfl, rfl, profile⟩
  refine ⟨⟨_, streamed⟩, [], ⟨loop, faulting⟩, [], rfl, stops, ?_⟩
  intro u nothing
  cases nothing

theorem tabletop_linearStep : linearStep tabletop (1 / 100) = 1 / 400 := by
  norm_num [linearStep, tabletop]

/-- The arm where it stopped: the next setpoint is one step from it. -/
theorem restarts_stream_near_still :
    ∃ t t' : Tick ℝ, faultRun 0 = [t] ++ t' :: [] ∧ t'.Restarts [t] ∧
      t'.StreamsNear (1 / 100) := by
  obtain ⟨t, t', pose, both, _, restarts, _, _, moving, silent, snap, loop, at_write, state,
    profile⟩ := faultRun_eq 0
  have step : tabletopLoop.filter.dt = 1 / 100 := by
    rw [tabletopLoop_filter]
    rfl
  refine ⟨t, t', both, restarts, ?_⟩
  rw [← step]
  apply restarts_stream_near tabletopLoop rfl (by rw [step, eps_real]; norm_num) hovering hovering
    0 0 [faulting, resuming 0] ?_ [t] t' [] both restarts
  intro pre u post run restarts' snap' loop' there
  have ran : pre ++ u :: post = [t, t'] := run.symm.trans both
  obtain ⟨_, before, stopped, between, earlier, _⟩ := restarts'
  have second : pre = [t] ∧ u = t' := by
    rcases pre with _ | ⟨first, _ | ⟨_, pre⟩⟩
    · cases before <;> cases earlier
    · simp only [List.cons_append, List.nil_append, List.cons.injEq] at ran
      exact ⟨by rw [ran.1], ran.2.1⟩
    · simp only [List.cons_append, List.cons.injEq] at ran
      cases pre <;> cases ran.2.2
  rw [second.2, at_write, Option.some.injEq, Prod.mk.injEq] at there
  rw [← there.1, ← there.2, second.1, profile]
  refine ⟨tabletop_positiveCaps.nonneg, fun _ => Or.inl ⟨?_, Or.inl rfl⟩⟩
  rw [state]
  simp only [List.foldl_cons, List.foldl_nil, Reference.after, moving, silent, Reference.next]
  simp only [hoveringAt, add_zero]
  rfl

/-- The arm moved 10 cm while the fault stood: the fresh command streams a setpoint
next to where it stopped. -/
theorem restart_leaves_measured :
    tabletopLoop.running = false ∧ ∃ t t' : Tick ℝ, faultRun (1 / 10) = [t] ++ t' :: [] ∧
      t.Stops ∧ t'.Restarts [t] ∧ ¬ t'.StreamsNear (1 / 100) := by
  obtain ⟨t, t', pose, both, stops, restarts, streamed, within, _, _, snap, loop, at_write, state,
    profile⟩ := faultRun_eq (1 / 10)
  refine ⟨rfl, t, t', both, stops, restarts, ?_⟩
  intro near
  have bound := near snap loop pose at_write streamed
  rw [state, profile, tabletop_linearStep] at bound
  rw [tabletop_linearStep] at within
  have apart : ‖(hoveringAt (1 / 10)).tcpPose.pos.toE - overTable.pos.toE‖ = 1 / 10 := by
    have line : overTable.pos = onLine (1 / 2) := rfl
    rw [line, hoveringAt, onLine_toE_sub, LinearIsometry.norm_map]
    norm_num
  rw [← Vec3.norm_toE, Vec3.toE_sub] at bound within
  have triangle := norm_sub_le_norm_sub_add_norm_sub
    (hoveringAt (1 / 10)).tcpPose.pos.toE pose.pos.toE overTable.pos.toE
  rw [apart, norm_sub_rev] at triangle
  linarith

end FlexivControl
