/-
Chunks enqueued ahead of their execution, on the simulator.

The plan says what infer-ahead streaming is for: it holds the setpoints of the latest chunk
that are left, and each pass takes the next. With the chunks staged between passes, in spec
for where the arm stands, and every setpoint taken up promptly, the loop carries the
simulated arm through the plan, whole chunks and preempted ones alike.
-/

import FlexivControl.Loop.Chase
import FlexivControl.Robot.FakeLanding

namespace FlexivControl

/-! ### The plan -/

section Planning

variable {K : Type} [Scalar K]

/-- Where the arm is to be, and the setpoints it is to go through next. -/
structure Plan (K : Type) [Scalar K] where
  here : Vec3 K
  pending : List (CartesianSetpoint K) := []

namespace Plan

/-- A chunk that is enqueued preempts the one before it; one that does not resolve is dropped. -/
def stage (p : SafetyProfile K) (hz : K) (plan : Plan K) : Publication K → Plan K
  | .enqueueChunk chunk s _ =>
      match chunk.forExecution s.tcpPose with
      | .error _ => plan
      | .ok executed =>
          let interp : CartesianChunkInterpolator K :=
            { chunk := executed, startPose := s.tcpPose, hz := hz
              maxLinearSpeed := some p.maxLinearSpeed
              maxAngularSpeed := some p.maxAngularSpeed }
          { plan with pending := interp.setpoints }
  | _ => plan

def advance (plan : Plan K) : Plan K :=
  match plan.pending with
  | [] => plan
  | sp :: rest => ⟨sp.pose.pos, rest⟩

def pass (p : SafetyProfile K) (hz : K) (plan : Plan K) (t : Tick K) : Plan K :=
  (t.input.beforeFetch.foldl (stage p hz) plan).advance

def after (p : SafetyProfile K) (hz : K) (plan : Plan K) (ticks : List (Tick K)) : Plan K :=
  ticks.foldl (pass p hz) plan

/-- With no chunk enqueued meanwhile, passes enough for what is left of one. -/
theorem after_quiet {p : SafetyProfile K} {hz : K} {ticks : List (Tick K)}
    (quiet : ∀ t ∈ ticks, ∀ pub ∈ t.input.beforeFetch, pub = .halt) :
    ∀ {plan : Plan K}, plan.pending.length ≤ ticks.length →
      (plan.after p hz ticks).here = (plan.pending.getLast?.map (·.pose.pos)).getD plan.here := by
  induction ticks with
  | nil =>
      intro plan enough
      have none_left : plan.pending = [] := List.length_eq_zero_iff.mp (Nat.le_zero.mp enough)
      rw [none_left]
      rfl
  | cons t rest ih =>
      intro plan enough
      rw [List.forall_mem_cons] at quiet
      have unstaged (gap : List (Publication K)) (halts : ∀ pub ∈ gap, pub = .halt) :
          gap.foldl (stage p hz) plan = plan := by
        induction gap with
        | nil => rfl
        | cons pub gap ih =>
            rw [List.forall_mem_cons] at halts
            rw [List.foldl_cons, halts.1]
            exact ih halts.2
      change ((plan.pass p hz t).after p hz rest).here = _
      unfold pass
      rw [unstaged _ quiet.1]
      cases left : plan.pending with
      | nil =>
          have stays : plan.advance = plan := by
            unfold advance
            rw [left]
          rw [stays, ih quiet.2 (by rw [left]; exact Nat.zero_le _), left]
      | cons sp sps =>
          have moves : plan.advance = ⟨sp.pose.pos, sps⟩ := by
            unfold advance
            rw [left]
          rw [left, List.length_cons, List.length_cons, Nat.add_le_add_iff_right] at enough
          rw [moves, ih quiet.2 enough, List.getLast?_cons]
          cases sps.getLast? with
          | none => rfl
          | some last => rfl

end Plan

theorem Publication.apply_hz (p : Publication K) (loop : ReactiveServoLoop K) :
    (p.apply loop).hz = loop.hz := by
  cases p with
  | cartesianTarget pose gripper now =>
      unfold Publication.apply ReactiveServoLoop.setCartesianTarget
      dsimp only
      split <;> rfl
  | enqueueChunk chunk s now =>
      unfold Publication.apply ReactiveServoLoop.enqueueChunk
      dsimp only
      split <;> rfl
  | _ => rfl

theorem absorb_hz (gap : List (Publication K)) (loop : ReactiveServoLoop K) :
    (loop.absorb gap).hz = loop.hz := by
  induction gap generalizing loop with
  | nil => rfl
  | cons p rest ih => exact (ih (p.apply loop)).trans (p.apply_hz loop)

theorem prepare_hz (loop : ReactiveServoLoop K) (input : TickInput K) (state : RobotState K) :
    (loop.prepare input state).hz = loop.hz := by
  have fetched (here : ReactiveServoLoop K) : here.fetchChunk.2.hz = here.hz := by
    unfold ReactiveServoLoop.fetchChunk
    split <;> rfl
  have advanced (here : ReactiveServoLoop K) (next : ChunkNext K) (now : K) :
      (here.advance next now).hz = here.hz := by
    cases next <;> rfl
  unfold ReactiveServoLoop.prepare
  dsimp only
  rw [absorb_hz, advanced, absorb_hz, fetched, absorb_hz]

theorem diagnose_hz (loop : ReactiveServoLoop K) (input : TickInput K) :
    (loop.diagnose input).hz = loop.hz := by
  unfold ReactiveServoLoop.diagnose
  dsimp only
  split <;> rfl

theorem Tick.result_hz (t : Tick K) : t.result.loop.hz = t.before.hz := by
  have arrived : (t.before.arrive t.input).2.hz = t.before.hz := by
    unfold ReactiveServoLoop.arrive
    cases t.input.state with
    | error e => rfl
    | ok state =>
        dsimp only
        cases t.input.inFault with
        | error e => exact prepare_hz _ _ _
        | ok faulted =>
            dsimp only
            rw [absorb_hz]
            exact prepare_hz _ _ _
  unfold result ReactiveServoLoop.tick
  cases arrival : t.before.arrive t.input with
  | mk out loop =>
      rw [arrival] at arrived
      cases out with
      | error e => exact arrived
      | ok snap =>
          obtain ⟨_, _, _, left⟩ :=
            keepsFrame_writeSection t.input snap loop.robot { loop := loop }
          have kept := congrArg ReactiveServoLoop.hz left
          dsimp only
          cases ran : writeSection t.input snap loop.robot { loop := loop } with
          | mk raised pass =>
              rw [ran] at kept
              cases raised with
              | error e => exact kept.trans arrived
              | ok _ => exact (diagnose_hz _ _).trans (kept.trans arrived)

theorem absorb_halts {gap : List (Publication K)} (halts : ∀ p ∈ gap, p = .halt) :
    ∀ loop : ReactiveServoLoop K, ∃ running,
      loop.absorb gap = { loop with running := running } := by
  induction gap with
  | nil => exact fun loop => ⟨loop.running, rfl⟩
  | cons p rest ih =>
      intro loop
      rw [List.forall_mem_cons] at halts
      obtain ⟨running, same⟩ := ih halts.2 (p.apply loop)
      refine ⟨running, same.trans ?_⟩
      rw [halts.1]
      rfl

end Planning

/-! ### On the plan -/

section Streaming

variable {p : SafetyProfile ℝ} {hz : ℝ} {u : Quat ℝ}

/-- Another thread's action between passes: a chunk that resolves against the pose about to
be measured and is in spec there, or a halt. -/
def Publication.StagedAt (p : SafetyProfile ℝ) (state : RobotState ℝ) : Publication ℝ → Prop
  | .enqueueChunk chunk s _ => s.tcpPose = state.tcpPose ∧
      ∃ executed, chunk.forExecution s.tcpPose = .ok executed ∧ executed.RunsInSpec p s.tcpPose
  | .halt => True
  | _ => False

/-- Chunks are staged before the pass fetches its setpoint, and a setpoint that is fetched
is followed. -/
structure Tick.TakesUp (p : SafetyProfile ℝ) (t : Tick ℝ) : Prop where
  staged : ∀ state, t.input.state = .ok state → ∀ pub ∈ t.input.beforeFetch, pub.StagedAt p state
  halts : ∀ pub ∈ t.input.beforeAdvance ++ (t.input.beforeSnapshot ++ t.input.beforeWrite),
    pub = .halt
  prompt : ∀ state sp, t.input.state = .ok state →
    (t.fetches state).fetchChunk.1 = .setpoint sp → t.follows = true

/-- What streaming needs of the profile and the rate. -/
structure Streamable (p : SafetyProfile ℝ) (hz : ℝ) : Prop where
  caps : p.PositiveCaps
  uncapped : p.maxLinearAccel = none
  ticking : 0 < hz
  roomy : p.maxLinearSpeed * (1 / hz) ≤ p.maxPoseJumpLinear
  light : exceeds (fun _ => 0) p.maxContactWrench = false

structure Plan.Leads (p : SafetyProfile ℝ) (hz : ℝ) (u : Quat ℝ) (plan : Plan ℝ)
    (loop : ReactiveServoLoop ℝ) : Prop where
  rate : loop.hz = hz
  profile : loop.filter.p = p
  step : loop.filter.dt = 1 / hz
  space : loop.cartesian = true
  pending : loop.chunkIter.getD [] = plan.pending
  aimed : ∃ aim, loop.targetPose = some aim ∧ aim.pos = plan.here ∧ quatNormalize aim.quat = u
  inside : p.contains plan.here
  inSpec : InSpecFrom p u (p.maxLinearSpeed * (1 / hz)) plan.here plan.pending

/-- The filter and the simulator stand where the plan says. -/
structure Plan.StandsAt (u : Quat ℝ) (here : Vec3 ℝ) (filter : SafetyFilter ℝ)
    (g : FakeBackend ℝ) : Prop where
  anchored : ∃ ref, filter.prevPose = some ref ∧ ref.pos = here ∧ quatNormalize ref.quat = u
  stands : g.pose.pos = here
  facing : quatNormalize g.pose.quat = u
  perfect : g.alpha = 1

theorem Plan.Leads.stage (streamable : Streamable p hz) {plan : Plan ℝ}
    {loop : ReactiveServoLoop ℝ} (leads : plan.Leads p hz u loop) {state : RobotState ℝ}
    (here : state.tcpPose.pos = plan.here) (facing : quatNormalize state.tcpPose.quat = u)
    {pub : Publication ℝ} (staged : pub.StagedAt p state) :
    (plan.stage p hz pub).Leads p hz u (pub.apply loop) := by
  cases pub with
  | enqueueChunk chunk s now =>
      obtain ⟨same, executed, resolved, runs⟩ := staged
      obtain ⟨rate, profile, step, _, _, aimed, inside, _⟩ := leads
      let interp : CartesianChunkInterpolator ℝ :=
        { chunk := executed, startPose := s.tcpPose, hz := hz
          maxLinearSpeed := some p.maxLinearSpeed
          maxAngularSpeed := some p.maxAngularSpeed }
      have made : (plan.stage p hz (.enqueueChunk chunk s now)).pending = interp.setpoints ∧
          (plan.stage p hz (.enqueueChunk chunk s now)).here = plan.here := by
        unfold Plan.stage
        dsimp only
        rw [resolved]
        exact ⟨rfl, rfl⟩
      have inSpec : InSpecFrom p u (p.maxLinearSpeed * (1 / hz)) plan.here interp.setpoints := by
        have walked := (interp.setpointsFrom_inSpec streamable.caps.linearSpeed rfl
          (one_div_pos.mpr streamable.ticking) executed.waypoints 0 runs.start rfl
          runs.waypoints).1
        have turned : quatNormalize s.tcpPose.quat = u := by
          rw [same]
          exact facing
        rw [turned] at walked
        rw [← here, ← same]
        exact walked
      have keeps : (Publication.enqueueChunk chunk s now).KeepsProfile := trivial
      obtain ⟨filled, kept⟩ := made
      constructor
      · exact (Publication.apply_hz _ loop).trans rate
      · rw [ReactiveServoLoop.filter, Publication.apply_robot keeps]
        exact profile
      · rw [ReactiveServoLoop.filter, Publication.apply_robot keeps]
        exact step
      · unfold Publication.apply ReactiveServoLoop.enqueueChunk
        dsimp only
        rw [resolved]
      · rw [filled]
        unfold Publication.apply ReactiveServoLoop.enqueueChunk
        dsimp only
        rw [resolved, rate, profile]
        rfl
      · rw [kept]
        unfold Publication.apply ReactiveServoLoop.enqueueChunk
        dsimp only
        rw [resolved]
        exact aimed
      · rw [kept]
        exact inside
      · rw [kept, filled]
        exact inSpec
  | halt => exact ⟨leads.rate, leads.profile, leads.step, leads.space, leads.pending, leads.aimed,
      leads.inside, leads.inSpec⟩
  | _ => exact absurd staged id

theorem Plan.Leads.staged (streamable : Streamable p hz) {state : RobotState ℝ}
    (facing : quatNormalize state.tcpPose.quat = u) (gap : List (Publication ℝ)) :
    ∀ {plan : Plan ℝ} {loop : ReactiveServoLoop ℝ}, plan.Leads p hz u loop →
      state.tcpPose.pos = plan.here → (∀ pub ∈ gap, pub.StagedAt p state) →
      (gap.foldl (Plan.stage p hz) plan).here = plan.here ∧
        (gap.foldl (Plan.stage p hz) plan).Leads p hz u (loop.absorb gap) := by
  induction gap with
  | nil => exact fun leads _ _ => ⟨rfl, leads⟩
  | cons pub rest ih =>
      intro plan loop leads here staged
      rw [List.forall_mem_cons] at staged
      have first := leads.stage streamable here facing staged.1
      have same : (plan.stage p hz pub).here = plan.here := by
        cases pub with
        | enqueueChunk chunk s now =>
            obtain ⟨_, executed, resolved, _⟩ := staged.1
            unfold Plan.stage
            dsimp only
            rw [resolved]
        | _ => rfl
      obtain ⟨kept, later⟩ := ih first (here.trans same.symm) staged.2
      exact ⟨kept.trans same, later⟩

theorem Tick.prepare_leads {t : Tick ℝ} {plan : Plan ℝ} {state : RobotState ℝ}
    (halts : ∀ pub ∈ t.input.beforeAdvance ++ (t.input.beforeSnapshot ++ t.input.beforeWrite),
      pub = .halt) (leads : plan.Leads p hz u (t.fetches state)) :
    (t.before.prepare t.input state).cartesian = true ∧
      (t.before.prepare t.input state).chunkIter.getD [] = plan.advance.pending ∧
      (∃ aim, (t.before.prepare t.input state).targetPose = some aim ∧
        aim.pos = plan.advance.here ∧ quatNormalize aim.quat = u) ∧
      (plan.pending ≠ [] → ∃ sp, (t.fetches state).fetchChunk.1 = .setpoint sp) := by
  simp only [List.forall_mem_append] at halts
  obtain ⟨advancing, snapping, _⟩ := halts
  obtain ⟨_, last⟩ := absorb_halts snapping (t.advances state)
  rw [t.prepare_eq state, last]
  change (t.advances state).cartesian = true ∧
    (t.advances state).chunkIter.getD [] = plan.advance.pending ∧
    (∃ aim, (t.advances state).targetPose = some aim ∧
      aim.pos = plan.advance.here ∧ quatNormalize aim.quat = u) ∧ _
  unfold Tick.advances
  obtain ⟨_, first⟩ := absorb_halts advancing (t.fetches state).fetchChunk.2
  rw [first]
  have pending := leads.pending
  obtain ⟨aim, aimed, at_here, turned⟩ := leads.aimed
  cases chunk : (t.fetches state).chunkIter with
  | none =>
      have fetched : (t.fetches state).fetchChunk = (.noChunk, t.fetches state) := by
        unfold ReactiveServoLoop.fetchChunk
        rw [chunk]
      rw [chunk, Option.getD_none] at pending
      have rests : plan.advance = plan := by
        unfold Plan.advance
        rw [← pending]
      rw [fetched, rests, ← pending]
      refine ⟨leads.space, ?_, ⟨aim, aimed, at_here, turned⟩,
        fun impossible => absurd rfl impossible⟩
      change (t.fetches state).chunkIter.getD [] = []
      rw [chunk]
      rfl
  | some sps =>
      rw [chunk, Option.getD_some] at pending
      cases sps with
      | nil =>
          have fetched : (t.fetches state).fetchChunk = (.exhausted, t.fetches state) := by
            unfold ReactiveServoLoop.fetchChunk
            rw [chunk]
          have rests : plan.advance = plan := by
            unfold Plan.advance
            rw [← pending]
          rw [fetched, rests, ← pending]
          exact ⟨leads.space, rfl, ⟨aim, aimed, at_here, turned⟩,
            fun impossible => absurd rfl impossible⟩
      | cons sp rest =>
          have fetched : (t.fetches state).fetchChunk =
              (.setpoint sp, { t.fetches state with chunkIter := some rest }) := by
            unfold ReactiveServoLoop.fetchChunk
            rw [chunk]
          have moves : plan.advance = ⟨sp.pose.pos, rest⟩ := by
            unfold Plan.advance
            rw [← pending]
          have inSpec := leads.inSpec
          rw [← pending, ← at_here] at inSpec
          obtain ⟨_, facing, _, _⟩ := inSpec.uncons turned
          rw [fetched, moves]
          exact ⟨rfl, rfl, ⟨sp.pose, rfl, rfl, facing⟩, fun _ => ⟨sp, rfl⟩⟩

theorem Plan.StandsAt.passes (streamable : Streamable p hz) {here : Vec3 ℝ}
    {filter : SafetyFilter ℝ} {g : FakeBackend ℝ} (stands : Plan.StandsAt u here filter g)
    (profile : filter.p = p) (step : filter.dt = 1 / hz) {target : Pose ℝ}
    (inside : p.contains target.pos) (turned : quatNormalize target.quat = u)
    (short : (target.pos - here).norm ≤ p.maxLinearSpeed * (1 / hz)) {state : RobotState ℝ}
    (free : state.wrench = fun _ => 0) :
    ∃ sr filter', filter.filterCartesian target state = (sr, filter') ∧ sr.ok = true ∧
      sr.pose = some target ∧ filter'.p = filter.p ∧ filter'.dt = filter.dt ∧
      filter'.prevPose = some target := by
  obtain ⟨ref, anchored, at_here, facing⟩ := stands.anchored
  have light : exceeds state.wrench (none.getD filter.p.maxContactWrench) = false := by
    rw [free, Option.getD_none, profile]
    exact streamable.light
  obtain ⟨v, passed⟩ := SafetyFilter.filterCartesian_of_short (profile ▸ streamable.caps)
    (profile ▸ streamable.uncapped)
    (by rw [profile, step]; exact streamable.roomy) anchored (profile ▸ inside)
    (facing.trans turned.symm) (by rw [profile, step, at_here]; exact short) light
  exact ⟨_, _, passed, rfl, rfl, rfl, rfl, rfl⟩

theorem tracked_aligned {g : FakeBackend ℝ} (perfect : g.alpha = 1)
    (facing : quatNormalize g.pose.quat = u) {pose : Pose ℝ}
    (turned : quatNormalize pose.quat = u) :
    (g.tracked pose).pos = pose.pos ∧ quatNormalize (g.tracked pose).quat = u := by
  refine ⟨(tracked_turned perfect pose u).1, ?_⟩
  unfold FakeBackend.tracked
  dsimp only
  rw [quatSlerp_of_aligned (by rw [quatNormalize_idem, facing, turned]), quatNormalize_idem,
    quatNormalize_idem, turned]

theorem Plan.StandsAt.arrived {here : Vec3 ℝ} {filter filter' : SafetyFilter ℝ}
    {g g' : FakeBackend ℝ} (stands : Plan.StandsAt u here filter g) {pose : Pose ℝ}
    (anchored : filter'.prevPose = some pose) (turned : quatNormalize pose.quat = u)
    (comes : g.ComesTo (g.tracked pose) g') : Plan.StandsAt u pose.pos filter' g' := by
  obtain ⟨carried, faced⟩ := tracked_aligned stands.perfect stands.facing turned
  constructor
  · exact ⟨pose, anchored, rfl, turned⟩
  · rw [comes.pose, carried]
  · rw [comes.pose, faced]
  · exact comes.alpha.trans stands.perfect

theorem Plan.StandsAt.same {here : Vec3 ℝ} {filter : SafetyFilter ℝ} {g g' : FakeBackend ℝ}
    (stands : Plan.StandsAt u here filter g) (unmoved : g.Unmoved g') :
    Plan.StandsAt u here filter g' where
  anchored := stands.anchored
  stands := by
    rw [unmoved.pose]
    exact stands.stands
  facing := by
    rw [unmoved.pose]
    exact stands.facing
  perfect := unmoved.alpha.trans stands.perfect

/-- What a section makes of the filter and the simulator, its target being the plan's next
place: it goes there, or nowhere when it does not follow. -/
theorem Moves.stands (streamable : Streamable p hz) {here : Vec3 ℝ}
    {filter filter' : SafetyFilter ℝ} {g g' : FakeBackend ℝ}
    (stands : Plan.StandsAt u here filter g) (profile : filter.p = p)
    (step : filter.dt = 1 / hz) {snap : Snapshot ℝ} {target : Pose ℝ}
    (published : snap.targetPose = some target) (inside : p.contains target.pos)
    (turned : quatNormalize target.quat = u)
    (short : (target.pos - here).norm ≤ p.maxLinearSpeed * (1 / hz))
    (measured : snap.state.tcpPose = g.pose) (free : snap.state.wrench = fun _ => 0)
    (prompt : target.pos ≠ here → snap.follows filter = true)
    (moves : Moves snap filter g filter' g') :
    filter'.p = filter.p ∧ filter'.dt = filter.dt ∧ Plan.StandsAt u target.pos filter' g' := by
  have waits (idle : snap.follows filter = false) : target.pos = here := by
    by_contra apart
    rw [prompt apart] at idle
    cases idle
  cases moves with
  | stops idle unmoved => exact ⟨rfl, rfl, (waits idle).symm ▸ stands.same unmoved⟩
  | holds idle comes =>
      refine ⟨SafetyFilter.reset_p _ _ _ _, SafetyFilter.reset_dt _ _ _ _, ?_⟩
      have anchored : (filter.reset (some snap.state)).prevPose = some snap.state.tcpPose := rfl
      have reached := stands.arrived anchored (by rw [measured]; exact stands.facing) comes
      rw [measured, stands.stands, ← waits idle] at reached
      exact reached
  | refuses follows aimed refused notOk _ =>
      obtain ⟨sr, filter'', passed, ok, _⟩ := stands.passes streamable profile step inside turned
        short free
      rw [published, Option.some.injEq] at aimed
      rw [← aimed, passed, Prod.mk.injEq] at refused
      rw [refused.1, notOk] at ok
      cases ok
  | walks follows aimed made given comes =>
      obtain ⟨sr, filter'', passed, _, found, kept, ticked, anchored⟩ :=
        stands.passes streamable profile step inside turned short free
      rw [published, Option.some.injEq] at aimed
      rw [← aimed, passed, Prod.mk.injEq] at made
      obtain ⟨rfl, rfl⟩ := made
      rw [found, Option.some.injEq] at given
      subst given
      exact ⟨kept, ticked, stands.arrived anchored turned comes⟩

theorem Publication.StagedAt.keepsProfile {state : RobotState ℝ} {pub : Publication ℝ}
    (staged : pub.StagedAt p state) : pub.KeepsProfile := by
  cases pub with
  | safetyProfile profile => exact absurd staged id
  | _ => trivial

theorem Tick.TakesUp.keepsProfile {t : Tick ℝ} (takes : t.TakesUp p) {state : RobotState ℝ}
    (read : t.input.state = .ok state) : t.input.KeepsProfile := by
  have halts := takes.halts
  simp only [List.forall_mem_append] at halts
  obtain ⟨advancing, snapping, writing⟩ := halts
  constructor
  · exact fun pub member => (takes.staged state read pub member).keepsProfile
  · exact fun pub member => advancing pub member ▸ trivial
  · exact fun pub member => snapping pub member ▸ trivial
  · exact fun pub member => writing pub member ▸ trivial

/-- The plan's next place is in the box, within one step of this one, and the rest of the
plan goes on from it. -/
theorem Plan.Leads.onward (streamable : Streamable p hz) {plan : Plan ℝ}
    {loop : ReactiveServoLoop ℝ} (leads : plan.Leads p hz u loop) :
    p.contains plan.advance.here ∧
      (plan.advance.here - plan.here).norm ≤ p.maxLinearSpeed * (1 / hz) ∧
      InSpecFrom p u (p.maxLinearSpeed * (1 / hz)) plan.advance.here plan.advance.pending ∧
      (plan.advance.here ≠ plan.here → plan.pending ≠ []) := by
  have inSpec := leads.inSpec
  unfold Plan.advance
  cases left : plan.pending with
  | nil =>
      have stays : (plan.here - plan.here).norm ≤ p.maxLinearSpeed * (1 / hz) := by
        rw [← Vec3.norm_toE, Vec3.toE_sub, sub_self, norm_zero]
        exact (mul_pos streamable.caps.linearSpeed (one_div_pos.mpr streamable.ticking)).le
      exact ⟨leads.inside, stays, inSpec, fun apart => absurd rfl apart⟩
  | cons sp rest =>
      obtain ⟨last, _, at_last, facing⟩ := leads.aimed
      rw [left, ← at_last] at inSpec
      obtain ⟨inside, _, short, later⟩ := inSpec.uncons facing
      rw [at_last] at short
      exact ⟨inside, short, later, fun _ => List.cons_ne_nil sp rest⟩

theorem Tick.atWrite_prepared {K : Type} [Scalar K] {t : Tick K} {state : RobotState K}
    (read : t.input.state = .ok state) {faulted : Bool} (flag : t.input.inFault = .ok faulted) :
    ∃ stats, t.atWrite = some ((t.before.prepare t.input state).snapshot t.input state faulted,
      ReactiveServoLoop.absorb { t.before.prepare t.input state with stats := stats }
        t.input.beforeWrite) := by
  unfold atWrite ReactiveServoLoop.arrive
  rw [read, flag]
  exact ⟨_, rfl⟩

theorem Tick.TakesUp.result_aim {t : Tick ℝ} (takes : t.TakesUp p) {state : RobotState ℝ}
    (read : t.input.state = .ok state) {faulted : Bool} (flag : t.input.inFault = .ok faulted) :
    t.result.loop.aim = (t.before.prepare t.input state).aim := by
  have halts := takes.halts
  simp only [List.forall_mem_append] at halts
  rw [t.result_aim]
  unfold ReactiveServoLoop.arrive
  rw [read, flag]
  dsimp only
  obtain ⟨_, written⟩ := absorb_halts halts.2.2
    { t.before.prepare t.input state with
      stats := { (t.before.prepare t.input state).stats with
        commandAgeMs := ((t.before.prepare t.input state).snapshot t.input state
          faulted).age * Scalar.ofNat 1000 } }
  rw [written]
  rfl

theorem Plan.Leads.pass (streamable : Streamable p hz) {plan : Plan ℝ} {t : Tick ℝ}
    {g : FakeBackend ℝ} (leads : plan.Leads p hz u t.before)
    (stands : Plan.StandsAt u plan.here t.before.filter g) (takes : t.TakesUp p)
    {state : RobotState ℝ} (read : t.input.state = .ok state) {faulted : Bool}
    (flag : t.input.inFault = .ok faulted) (pose : state.tcpPose = g.pose)
    (mode : state.controlMode = g.mode) (free : state.wrench = fun _ => 0)
    (heard : g.Acknowledges t.input.ack t.result.calls) :
    t.result.raised = none ∧ (plan.pass p hz t).Leads p hz u t.result.loop ∧
      Plan.StandsAt u (plan.pass p hz t).here t.result.loop.filter (g.served t.result.calls) := by
  have reading : plan.Leads p hz u { t.before with latestState := some state } :=
    ⟨leads.rate, leads.profile, leads.step, leads.space, leads.pending, leads.aimed, leads.inside,
      leads.inSpec⟩
  obtain ⟨kept, staged⟩ := reading.staged streamable (pose ▸ stands.facing) t.input.beforeFetch
    (pose ▸ stands.stands) (takes.staged state read)
  obtain ⟨space, pending, ⟨aim, aimed, at_next, turned⟩, fetches⟩ :=
    t.prepare_leads takes.halts staged
  obtain ⟨inside, short, later, moved⟩ := staged.onward streamable
  rw [kept] at short moved
  obtain ⟨stats, at_write⟩ := Tick.atWrite_prepared read flag
  generalize ReactiveServoLoop.absorb { t.before.prepare t.input state with stats := stats }
    t.input.beforeWrite = loop at at_write
  have same : loop.filter = t.before.filter :=
    congrArg Robot.filter (t.atWrite_robot (takes.keepsProfile read) at_write)
  obtain ⟨quietly, moves⟩ := t.moves at_write space aimed mode heard
  rw [same] at moves
  have prompt : aim.pos ≠ plan.here → ((t.before.prepare t.input state).snapshot t.input state
      faulted).follows t.before.filter = true := by
    intro apart
    obtain ⟨sp, taken⟩ := fetches (moved (at_next ▸ apart))
    have followed := takes.prompt state sp read taken
    unfold Tick.follows at followed
    rw [at_write] at followed
    dsimp only at followed
    rw [same] at followed
    exact followed
  obtain ⟨profile, step, reached⟩ := moves.stands streamable stands leads.profile leads.step aimed
    (at_next ▸ inside) turned (at_next ▸ short) pose free prompt
  have left := takes.result_aim read flag
  refine ⟨quietly, ?_, at_next ▸ reached⟩
  constructor
  · exact t.result_hz.trans leads.rate
  · exact profile.trans leads.profile
  · exact step.trans leads.step
  · exact (congrArg Aim.cartesian left).trans space
  · exact (congrArg (fun aim => Option.getD aim.chunkIter []) left).trans pending
  · exact ⟨aim, (congrArg Aim.targetPose left).trans aimed, at_next, turned⟩
  · exact inside
  · exact later

theorem OnFake.leads (streamable : Streamable p hz) {inputs : List (TickInput ℝ)} :
    ∀ {loop : ReactiveServoLoop ℝ} {g : FakeBackend ℝ} {commands : List (BackendCall ℝ)}
      {plan : Plan ℝ}, OnFake BackendCall.IsSteady g (loop.runInner inputs) commands →
      (∀ t ∈ loop.runInner inputs, t.TakesUp p) → plan.Leads p hz u loop →
      Plan.StandsAt u plan.here loop.filter g →
      (∀ t ∈ loop.runInner inputs, t.result.raised = none) ∧
        (g.served commands).pose.pos = (plan.after p hz (loop.runInner inputs)).here := by
  induction inputs with
  | nil =>
      intro loop g commands plan ran _ _ stands
      cases ran with
      | done theirs =>
          refine ⟨fun _ none => absurd none List.not_mem_nil, ?_⟩
          rw [(served_same theirs g).pose]
          exact stands.stands
  | cons input rest ih =>
      intro loop g commands plan ran takes leads stands
      unfold ReactiveServoLoop.runInner at ran takes ⊢
      split at ran
      · rename_i running
        rw [if_pos running] at takes ⊢
        rw [List.forall_mem_cons] at takes
        cases ran with
        | pass now theirs read flag heard onward =>
            rename_i before between later
            have there := served_same theirs g
            have apart : (g.served before).Same (g.served (before ++ between)) := by
              rw [FakeBackend.served_append]
              exact served_same (fun call member => theirs call (List.mem_append_right _ member)) _
            obtain ⟨quietly, next, reached⟩ := Plan.Leads.pass (t := ⟨loop, input⟩) streamable leads
              (stands.same there.toUnmoved) takes.1 read flag apart.pose.symm apart.mode.symm rfl
              heard
            rw [← FakeBackend.served_append] at reached
            obtain ⟨calm, final⟩ := ih onward takes.2 next reached
            rw [List.forall_mem_cons, FakeBackend.served_append]
            exact ⟨⟨quietly, calm⟩, final⟩
      · rename_i halted
        rw [if_neg halted]
        cases ran with
        | done theirs =>
            refine ⟨fun _ none => absurd none List.not_mem_nil, ?_⟩
            rw [(served_same theirs g).pose]
            exact stands.stands

theorem OnFake.reads {K : Type} [Scalar K] {foreign : BackendCall K → Prop} {g : FakeBackend K}
    {ticks : List (Tick K)} {commands : List (BackendCall K)}
    (ran : OnFake foreign g ticks commands) :
    ∀ t ∈ ticks, ∃ state, t.input.state = .ok state := by
  induction ran with
  | done _ => exact fun _ none => absurd none List.not_mem_nil
  | pass now _ read _ _ _ ih =>
      rw [List.forall_mem_cons]
      exact ⟨⟨_, read⟩, ih⟩

/-- The plan once a chunk has had passes enough and no other has been enqueued. -/
theorem Plan.after_landed (streamable : Streamable p hz) {plan : Plan ℝ}
    {earlier later : List (Tick ℝ)} {t : Tick ℝ} {chunk executed : CartesianChunk ℝ}
    {s : RobotState ℝ} {now : ℝ} {front : List (Publication ℝ)}
    (enqueued : t.input.beforeFetch = front ++ [.enqueueChunk chunk s now])
    (made : chunk.forExecution s.tcpPose = .ok executed)
    (runs : executed.RunsInSpec p s.tcpPose)
    (quiet : ∀ t' ∈ later, ∀ pub ∈ t'.input.beforeFetch, pub = .halt)
    (enough : (CartesianChunkInterpolator.setpoints (K := ℝ)
      { chunk := executed, startPose := s.tcpPose, hz := hz
        maxLinearSpeed := some p.maxLinearSpeed
        maxAngularSpeed := some p.maxAngularSpeed }).length ≤ later.length + 1)
    {last : CartesianWaypoint ℝ} (final : executed.waypoints.getLast? = some last) :
    (plan.after p hz (earlier ++ t :: later)).here = last.position := by
  let interp : CartesianChunkInterpolator ℝ :=
    { chunk := executed, startPose := s.tcpPose, hz := hz
      maxLinearSpeed := some p.maxLinearSpeed
      maxAngularSpeed := some p.maxAngularSpeed }
  have ends := (interp.setpointsFrom_inSpec streamable.caps.linearSpeed rfl
    (one_div_pos.mpr streamable.ticking) executed.waypoints 0 runs.start rfl runs.waypoints).2
  rw [List.getLast?_map, List.getLast?_map, final, Option.map_some,
    Option.map_eq_some_iff] at ends
  obtain ⟨sp, at_end, same⟩ := ends
  have reached : sp.pose.pos = last.position := Vec3.toE_injective same
  have chunk_made (start : Plan ℝ) : start.stage p hz (.enqueueChunk chunk s now) =
      { start with pending := interp.setpoints } := by
    unfold Plan.stage
    dsimp only
    rw [made]
  unfold Plan.after
  rw [List.foldl_append, List.foldl_cons]
  change ((((plan.after p hz earlier).pass p hz t).after p hz later).here) = _
  unfold Plan.pass
  rw [enqueued, List.foldl_append, List.foldl_cons, List.foldl_nil, chunk_made]
  change interp.setpoints.length ≤ _ at enough
  change interp.setpoints.getLast? = _ at at_end
  cases streamed : interp.setpoints with
  | nil =>
      rw [streamed] at at_end
      cases at_end
  | cons first rest =>
      rw [streamed, List.getLast?_cons] at at_end
      rw [streamed, List.length_cons, Nat.add_le_add_iff_right] at enough
      unfold Plan.advance
      dsimp only
      rw [Plan.after_quiet quiet enough, ← reached, ← Option.some.inj at_end]
      cases rest.getLast? with
      | none => rfl
      | some _ => rfl

end Streaming

/-- The simulator is carried through the plan, and no pass raises: after any chunks enqueued
and preempted before it, the last one is finished once it has had its passes. -/
theorem streaming_follows_plan {loop : ReactiveServoLoop ℝ} {g : FakeBackend ℝ}
    (streamable : Streamable loop.filter.p loop.hz) (step : loop.filter.dt = 1 / loop.hz)
    (space : loop.cartesian = true) (unstaged : loop.chunkIter = none)
    (aimed : loop.targetPose = some g.pose) (anchored : loop.filter.prevPose = some g.pose)
    (perfect : g.alpha = 1) (inside : loop.filter.p.contains g.pose.pos)
    {inputs : List (TickInput ℝ)} (takes : ∀ t ∈ loop.runInner inputs, t.TakesUp loop.filter.p)
    {commands : List (BackendCall ℝ)}
    (ran : OnFake BackendCall.IsSteady g (loop.runInner inputs) commands) :
    (∀ t ∈ loop.runInner inputs, t.result.raised = none) ∧
      (g.served commands).pose.pos =
        (Plan.after loop.filter.p loop.hz ⟨g.pose.pos, []⟩ (loop.runInner inputs)).here ∧
      ∀ earlier t later front chunk s now executed last,
        loop.runInner inputs = earlier ++ t :: later →
        t.input.beforeFetch = front ++ [.enqueueChunk chunk s now] →
        (∀ t' ∈ later, ∀ pub ∈ t'.input.beforeFetch, pub = .halt) →
        chunk.forExecution s.tcpPose = .ok executed →
        (CartesianChunkInterpolator.setpoints (K := ℝ)
          { chunk := executed, startPose := s.tcpPose, hz := loop.hz
            maxLinearSpeed := some loop.filter.p.maxLinearSpeed
            maxAngularSpeed := some loop.filter.p.maxAngularSpeed }).length ≤ later.length + 1 →
        executed.waypoints.getLast? = some last →
        (g.served commands).pose.pos = last.position := by
  let here : Plan ℝ := ⟨g.pose.pos, []⟩
  have leads : here.Leads loop.filter.p loop.hz (quatNormalize g.pose.quat) loop := by
    refine ⟨rfl, rfl, step, space, ?_, ⟨g.pose, aimed, rfl, rfl⟩, inside, ?_⟩
    · rw [unstaged]
      rfl
    · refine ⟨List.isChain_singleton _, ?_, ?_⟩
      · exact fun _ none => absurd none List.not_mem_nil
      · exact fun _ none => absurd none List.not_mem_nil
  have stands : Plan.StandsAt (quatNormalize g.pose.quat) here.here loop.filter g :=
    ⟨⟨g.pose, anchored, rfl, rfl⟩, rfl, rfl, perfect⟩
  obtain ⟨calm, follows⟩ := ran.leads streamable takes leads stands
  refine ⟨calm, follows, ?_⟩
  intro earlier t later front chunk s now executed last passes enqueued quiet made enough final
  have member : t ∈ loop.runInner inputs := by
    rw [passes]
    exact List.mem_append_right _ List.mem_cons_self
  obtain ⟨state, read⟩ := ran.reads t member
  have among : .enqueueChunk chunk s now ∈ t.input.beforeFetch := by
    rw [enqueued]
    exact List.mem_append_right _ List.mem_cons_self
  obtain ⟨_, executed', made', runs⟩ := (takes t member).staged state read _ among
  rw [made, Except.ok.injEq] at made'
  subst made'
  rw [follows, passes]
  exact Plan.after_landed streamable enqueued made runs quiet enough final

/-! ### A chunk preempted on its way -/

noncomputable def enqueued (hz : ℝ) (chunk : CartesianChunk ℝ) (start : Pose ℝ) :
    List (CartesianSetpoint ℝ) :=
  CartesianChunkInterpolator.setpoints
    { chunk := chunk, startPose := start, hz := hz
      maxLinearSpeed := some tabletop.maxLinearSpeed
      maxAngularSpeed := some tabletop.maxAngularSpeed }

/-- The pass before which the chunk is enqueued, for where the arm then is. -/
noncomputable def enqueuing (g : FakeBackend ℝ) (chunk : CartesianChunk ℝ) : TickInput ℝ :=
  .publishing (g.readState 0) (.enqueueChunk chunk (g.readState 0) 0)

section Enqueuing

variable {hz : ℝ} {u : Quat ℝ} {plan : Plan ℝ} {loop : ReactiveServoLoop ℝ} {g : FakeBackend ℝ}
  {chunk : CartesianChunk ℝ} {sp : CartesianSetpoint ℝ} {rest : List (CartesianSetpoint ℝ)}

/-- A running loop on the plan, with nothing for the gripper, and the simulator it leads. -/
structure Plan.Streams (hz : ℝ) (u : Quat ℝ) (plan : Plan ℝ) (loop : ReactiveServoLoop ℝ)
    (g : FakeBackend ℝ) : Prop where
  leads : plan.Leads tabletop hz u loop
  stands : Plan.StandsAt u plan.here loop.filter g
  running : loop.running = true
  handless : loop.targetGripper = none
  mode : g.mode.isCartesian = true
  healthy : g.fault = false

/-- A chunk that needs no resolving, in spec for where the arm is, and its setpoints. -/
structure Enqueues (hz : ℝ) (g : FakeBackend ℝ) (chunk : CartesianChunk ℝ)
    (sp : CartesianSetpoint ℝ) (rest : List (CartesianSetpoint ℝ)) : Prop where
  made : chunk.forExecution g.pose = .ok chunk
  inSpec : chunk.RunsInSpec tabletop g.pose
  setpoints : enqueued hz chunk g.pose = sp :: rest
  ungripped : sp.gripper = none

theorem Plan.Streams.prepares (streams : plan.Streams hz u loop g)
    (enqueues : Enqueues hz g chunk sp rest) :
    (Tick.mk loop (enqueuing g chunk)).fetches (g.readState 0) = { loop with
        latestState := some (g.readState 0), cartesian := true
        chunkIter := some (sp :: rest), cmdStamp := 0 } ∧
      loop.prepare (enqueuing g chunk) (g.readState 0) = { loop with
        latestState := some (g.readState 0), cartesian := true
        chunkIter := some rest, targetPose := some sp.pose
        targetGripper := none, cmdStamp := 0 } := by
  have made : chunk.forExecution (g.readState 0).tcpPose = .ok chunk := enqueues.made
  have all : CartesianChunkInterpolator.setpoints
      { chunk := chunk, startPose := (g.readState 0).tcpPose, hz := loop.hz
        maxLinearSpeed := some loop.filter.p.maxLinearSpeed
        maxAngularSpeed := some loop.filter.p.maxAngularSpeed } = sp :: rest := by
    rw [streams.leads.rate, streams.leads.profile]
    exact enqueues.setpoints
  have fetched : (Tick.mk loop (enqueuing g chunk)).fetches (g.readState 0) = { loop with
      latestState := some (g.readState 0), cartesian := true
      chunkIter := some (sp :: rest), cmdStamp := 0 } := by
    change (ReactiveServoLoop.enqueueChunk { loop with latestState := some (g.readState 0) } chunk
      (g.readState 0) 0).2 = _
    unfold ReactiveServoLoop.enqueueChunk
    rw [made, ← all]
  refine ⟨fetched, ?_⟩
  have empty : (sp.gripper <|> loop.targetGripper) = none := by
    rw [enqueues.ungripped, streams.handless]
    rfl
  rw [(Tick.mk loop (enqueuing g chunk)).prepare_eq, Tick.advances, fetched, ← empty]
  rfl

theorem Plan.Streams.atWrite (streams : plan.Streams hz u loop g)
    (enqueues : Enqueues hz g chunk sp rest) :
    ∃ snap here, (Tick.mk loop (enqueuing g chunk)).atWrite = some (snap, here) ∧
      snap.follows here.filter = true ∧ snap.cartesian = true ∧ snap.targetPose = some sp.pose ∧
      snap.gripper = none ∧ snap.state = g.readState 0 ∧ here.filter = loop.filter ∧
      here.running = true ∧ here.targetGripper = none := by
  obtain ⟨_, prepared⟩ := streams.prepares enqueues
  have read : (enqueuing g chunk).state = .ok (g.readState 0) := rfl
  have sound : (enqueuing g chunk).inFault = .ok false := rfl
  obtain ⟨stats, at_write⟩ := Tick.atWrite_prepared (t := ⟨loop, enqueuing g chunk⟩) read sound
  dsimp only at at_write
  rw [prepared] at at_write
  exact ⟨_, _, at_write, follows_of_fresh streams.leads.profile rfl (sub_self (0 : ℝ)), rfl, rfl,
    rfl, rfl, rfl, streams.running, rfl⟩

theorem Plan.Streams.passes (streams : plan.Streams hz u loop g)
    (streamable : Streamable tabletop hz) (enqueues : Enqueues hz g chunk sp rest) :
    let t : Tick ℝ := ⟨loop, enqueuing g chunk⟩
    t.TakesUp tabletop ∧ (∃ pose, t.result.calls = [.streamCartesian pose none]) ∧
      Plan.Streams hz u ⟨sp.pose.pos, rest⟩ t.result.loop (g.served t.result.calls) := by
  intro t
  obtain ⟨snap, here, at_write, follows, space, published, empty, measured, same, running,
    handless⟩ := streams.atWrite enqueues
  have takes : t.TakesUp tabletop := by
    constructor
    · intro state read pub member
      rw [List.mem_singleton.mp member]
      cases read
      exact ⟨rfl, chunk, enqueues.made, enqueues.inSpec⟩
    · exact fun _ none => absurd none List.not_mem_nil
    · intro _ _ _ _
      unfold Tick.follows
      rw [at_write]
      exact follows
  have staged : plan.stage tabletop hz (.enqueueChunk chunk (g.readState 0) 0) =
      { plan with pending := sp :: rest } := by
    have made : chunk.forExecution (g.readState 0).tcpPose = .ok chunk := enqueues.made
    rw [← enqueues.setpoints]
    unfold Plan.stage
    dsimp only
    rw [made]
    rfl
  have goes : plan.pass tabletop hz t = ⟨sp.pose.pos, rest⟩ := by
    change (plan.stage tabletop hz (.enqueueChunk chunk (g.readState 0) 0)).advance = _
    rw [staged]
    rfl
  have reading : plan.Leads tabletop hz u { loop with latestState := some (g.readState 0) } :=
    ⟨streams.leads.rate, streams.leads.profile, streams.leads.step, streams.leads.space,
      streams.leads.pending, streams.leads.aimed, streams.leads.inside, streams.leads.inSpec⟩
  have resolves : (Publication.enqueueChunk chunk (g.readState 0) 0).StagedAt tabletop
      (g.readState 0) := ⟨rfl, chunk, enqueues.made, enqueues.inSpec⟩
  have led := reading.stage streamable streams.stands.stands streams.stands.facing resolves
  rw [staged] at led
  obtain ⟨last, _, at_last, facing⟩ := led.aimed
  have inSpec := led.inSpec
  rw [← at_last] at inSpec
  obtain ⟨inside, turned, short, _⟩ := inSpec.uncons facing
  rw [at_last] at short
  have unloaded : snap.state.wrench = fun _ => 0 := by
    rw [measured]
    rfl
  obtain ⟨sr, filter', passed, ok, found, _⟩ := streams.stands.passes streamable
    streams.leads.profile streams.leads.step inside turned short unloaded
  rw [← same] at passed
  have ran := Tick.follows_result (t := t) (fun _ => rfl) at_write follows space published empty
    (by rw [measured]; exact streams.mode) passed ok found
  have calls := congrArg TickResult.calls ran
  have left := congrArg TickResult.loop ran
  dsimp only at calls left
  have heard : g.Acknowledges t.input.ack t.result.calls := by
    rw [calls]
    exact FakeBackend.acknowledges_stream (fun _ => rfl) streams.mode sp.pose
  have read : t.input.state = .ok (g.readState 0) := rfl
  have sound : t.input.inFault = .ok false := rfl
  obtain ⟨_, leads, stands⟩ := Plan.Leads.pass streamable streams.leads streams.stands takes
    read sound rfl rfl rfl heard
  rw [goes] at leads stands
  refine ⟨takes, ⟨sp.pose, calls⟩, leads, stands, ?_, ?_, ?_, ?_⟩
  · rw [left]
    unfold ReactiveServoLoop.diagnose
    dsimp only
    split <;> exact running
  · rw [left]
    unfold ReactiveServoLoop.diagnose
    dsimp only
    split <;> exact handless
  · rw [calls]
    change ((g.serve (.streamCartesian sp.pose none)).2).mode.isCartesian = true
    rw [FakeBackend.serve_streamCartesian streams.mode]
    exact streams.mode
  · rw [calls]
    change ((g.serve (.streamCartesian sp.pose none)).2).fault = false
    rw [FakeBackend.serve_streamCartesian streams.mode]
    exact streams.healthy

/-- Passes on chunks that each preempt the one before: the run goes on. -/
theorem Plan.Streams.onFake {foreign : BackendCall ℝ → Prop} (streams : plan.Streams hz u loop g)
    {pose : Pose ℝ} (calls : (Tick.mk loop (enqueuing g chunk)).result.calls =
      [.streamCartesian pose none]) {later : List (Tick ℝ)} {commands : List (BackendCall ℝ)}
    (onward : OnFake foreign (g.served [.streamCartesian pose none]) later commands) :
    OnFake foreign g (⟨loop, enqueuing g chunk⟩ :: later)
      (.streamCartesian pose none :: commands) :=
  .stream (t := ⟨loop, enqueuing g chunk⟩) rfl (congrArg Except.ok streams.healthy.symm)
    (fun _ => rfl) streams.mode calls onward

end Enqueuing

theorem seconds_timed {seconds : ℝ} : (none : Option Int).isSome ∨ (some seconds).isSome :=
  Or.inr rfl

theorem untimed_positive : ∀ n : Int, none = some n → 0 < n := by
  intro n frames
  cases frames

/-- To `rise` above the start over the table, in so many seconds. -/
noncomputable def shiftChunk (rise seconds : ℝ) : CartesianChunk ℝ where
  waypoints := [{
    position := ⟨1 / 2, 0, 3 / 10 + rise⟩
    quaternion := none
    gripper := none
    nFrames := none
    duration := some seconds
    frame := "base"
    timed := seconds_timed
    framesPositive := untimed_positive }]
  nonempty := List.cons_ne_nil _ _
  allowanceNonneg := no_allowance
  gatePositive := no_gate

theorem shiftChunk_setpoints {rise z : ℝ} {k : ℕ} {start : Pose ℝ}
    (at_height : start.pos = ⟨1 / 2, 0, z⟩) (short : |3 / 10 + rise - z| ≤ 1 / 10 / 100) :
    ∃ sp rest, enqueued 100 (shiftChunk rise ((k + 1 : ℕ) / 100)) start = sp :: rest ∧
      rest.length = k ∧ sp.gripper = none ∧
      sp.pose.pos = ⟨1 / 2, 0, z + (3 / 10 + rise - z) * Ease.ease (1 / (k + 1 : ℕ))⟩ := by
  have distance : ((⟨1 / 2, 0, 3 / 10 + rise⟩ : Vec3 ℝ) - start.pos).norm =
      |3 / 10 + rise - z| := by
    have shifted := norm_shifted start.pos (3 / 10 + rise - z)
    rw [at_height] at shifted ⊢
    rw [add_sub_cancel] at shifted
    exact shifted
  have moving : cappedTicks (some tabletop.maxLinearSpeed) (1 / 100)
      ((⟨1 / 2, 0, 3 / 10 + rise⟩ : Vec3 ℝ) - start.pos).norm ≤ 1 := by
    rw [distance]
    unfold cappedTicks blendPeak
    dsimp only
    rw [if_pos (by norm_num [tabletop]), Scalar.ceil_real, Int.ceil_le]
    norm_num [tabletop]
    change Real.pi / 2 * _ / _ ≤ 1
    nlinarith [Real.pi_le_four, Real.pi_pos, abs_nonneg (3 / 10 + rise - z)]
  have turning : cappedTicks (some tabletop.maxAngularSpeed) (1 / 100)
      (quatAngle start.quat start.quat) ≤ 1 := by
    unfold cappedTicks
    rw [quatAngle_self]
    dsimp only
    split
    · rw [mul_zero, zero_div, Scalar.ceil_real, Int.ceil_zero]
      decide
    · exact le_rfl
  let interp : CartesianChunkInterpolator ℝ :=
    { chunk := shiftChunk rise ((k + 1 : ℕ) / 100), startPose := start, hz := 100
      maxLinearSpeed := some tabletop.maxLinearSpeed
      maxAngularSpeed := some tabletop.maxAngularSpeed }
  have ticks (wp : CartesianWaypoint ℝ) (timed : wp.duration = some ((k + 1 : ℕ) / 100 : ℝ)) :
      interp.segmentTicks start.pos ⟨1 / 2, 0, 3 / 10 + rise⟩ start.quat start.quat wp =
        k + 1 := by
    have takes : wp.resolveDuration interp.hz = (k + 1 : ℕ) / 100 := by
      unfold CartesianWaypoint.resolveDuration resolveDuration
      rw [timed]
    unfold CartesianChunkInterpolator.segmentTicks CartesianChunkInterpolator.dt
    rw [takes]
    change (max 1 (max (max (requestedTicks _ 100) (cappedTicks _ (1 / 100) _))
      (cappedTicks _ (1 / 100) _))).toNat = k + 1
    rw [requestedTicks_whole (n := k + 1) (div_mul_cancel₀ _ (by norm_num))]
    change (max 1 (max (max _ (cappedTicks (some tabletop.maxLinearSpeed) _ _))
      (cappedTicks (some tabletop.maxAngularSpeed) _ _))).toNat = k + 1
    omega
  have made : enqueued 100 (shiftChunk rise ((k + 1 : ℕ) / 100)) start =
      CartesianChunkInterpolator.segment start.pos ⟨1 / 2, 0, 3 / 10 + rise⟩ start.quat start.quat
        none 0 (k + 1) := by
    change CartesianChunkInterpolator.segment _ _ _ _ none _ (interp.segmentTicks start.pos
      ⟨1 / 2, 0, 3 / 10 + rise⟩ start.quat start.quat _) ++ [] = _
    rw [ticks _ rfl, List.append_nil]
    rfl
  unfold CartesianChunkInterpolator.segment at made
  rw [List.range_succ_eq_map, List.map_cons] at made
  refine ⟨_, _, made, by rw [List.length_map, List.length_map, List.length_range], rfl, ?_⟩
  dsimp only
  rw [at_height, cosineBlend_tick (Nat.succ_pos k), zero_add, Nat.cast_one]
  ext
  · change 1 / 2 + (1 / 2 - 1 / 2) * _ = (1 / 2 : ℝ)
    ring
  · change 0 + (0 - 0) * _ = (0 : ℝ)
    ring
  · rfl

theorem shiftChunk_inSpec {rise seconds : ℝ} (small : |rise| ≤ 1 / 10 / 100) {start : Pose ℝ}
    (inside : tabletop.contains start.pos) :
    (shiftChunk rise seconds).RunsInSpec tabletop start where
  start := inside
  waypoints := by
    intro wp member
    obtain ⟨low, high⟩ := abs_le.mp small
    rw [List.mem_singleton.mp member]
    refine ⟨?_, ?_⟩
    · intro axis
      cases axis
      · norm_num [SafetyProfile.interval, axisValue, tabletop]
      · norm_num [SafetyProfile.interval, axisValue, tabletop]
      · norm_num [SafetyProfile.interval, axisValue, tabletop]
        constructor <;> linarith
    · intro q given
      cases given

noncomputable def waitingLoop : ReactiveServoLoop ℝ :=
  ((ReactiveServoLoop.init tabletopRobot).start (cruisingFake.readState 0)
    (cruisingFake.readState 0) 0 0).2

theorem waitingLoop_rate : waitingLoop.hz = 100 := by
  change (if (0 : ℝ) < 100 ∨ (100 : ℝ) < 0 then 100 else _) = 100
  exact if_pos (Or.inl (by norm_num))

theorem tabletop_streamable : Streamable tabletop 100 where
  caps := tabletop_positiveCaps
  uncapped := rfl
  ticking := by norm_num
  roomy := by norm_num [tabletop]
  light := cruisingFake_light 0

theorem waitingLoop_streams : Plan.Streams 100 (quatNormalize overTable.quat) ⟨overTable.pos, []⟩
    waitingLoop cruisingFake where
  leads := by
    refine ⟨waitingLoop_rate, rfl, congrArg (1 / ·) waitingLoop_rate, rfl, rfl,
      ⟨overTable, rfl, rfl, rfl⟩, overTable_contains rfl rfl rfl, List.isChain_singleton _, ?_, ?_⟩
    · exact fun _ none => absurd none List.not_mem_nil
    · exact fun _ none => absurd none List.not_mem_nil
  stands := ⟨⟨overTable, rfl, rfl, rfl⟩, rfl, rfl, rfl⟩
  running := rfl
  handless := rfl
  mode := rfl
  healthy := rfl

noncomputable def climbChunk : CartesianChunk ℝ :=
  shiftChunk (1 / 10 / 100 / 2) ((9 + 1 : ℕ) / 100)

noncomputable def sinkChunk : CartesianChunk ℝ :=
  shiftChunk (-(1 / 10 / 100 / 2)) ((0 + 1 : ℕ) / 100)

/-- The climb is preempted after its first setpoint, with nine pending, and the sinking chunk
is finished. -/
theorem streaming_follows_plan_preempted : ∃ up down : Pose ℝ,
    OnFake BackendCall.IsSteady cruisingFake
      (waitingLoop.runInner [enqueuing cruisingFake climbChunk,
        enqueuing (cruisingFake.served [.streamCartesian up none]) sinkChunk])
      [.streamCartesian up none, .streamCartesian down none] ∧
    ((waitingLoop.tick (enqueuing cruisingFake climbChunk)).loop.chunkIter.getD []).length = 9 ∧
    (cruisingFake.served [.streamCartesian up none, .streamCartesian down none]).pose.pos =
      ⟨1 / 2, 0, 3 / 10 + -(1 / 10 / 100 / 2)⟩ := by
  have climbs : |3 / 10 + 1 / 10 / 100 / 2 - 3 / 10| ≤ (1 / 10 / 100 : ℝ) := by
    rw [abs_le]
    constructor <;> norm_num
  have above : overTable.pos = ⟨1 / 2, 0, 3 / 10⟩ := rfl
  obtain ⟨sp, rest, setpoints, nine, ungripped, risen⟩ :=
    shiftChunk_setpoints (k := 9) above climbs
  have climbing : Enqueues 100 cruisingFake climbChunk sp rest :=
    ⟨rfl, shiftChunk_inSpec (by rw [abs_le]; constructor <;> norm_num)
      waitingLoop_streams.leads.inside, setpoints, ungripped⟩
  obtain ⟨takes, ⟨up, called⟩, streams⟩ := waitingLoop_streams.passes tabletop_streamable climbing
  rw [called] at streams
  have at_height := streams.stands.stands.trans risen
  have low := Ease.ease_nonneg (1 / (9 + 1 : ℕ))
  have high := Ease.ease_le_one (1 / (9 + 1 : ℕ))
  have sinks : |3 / 10 + -(1 / 10 / 100 / 2) - (3 / 10 + (3 / 10 + 1 / 10 / 100 / 2 - 3 / 10) *
      Ease.ease (1 / (9 + 1 : ℕ)))| ≤ 1 / 10 / 100 := by
    rw [abs_le]
    constructor <;> linarith
  obtain ⟨next, none_left, setpoints', once, ungripped', _⟩ := shiftChunk_setpoints (k := 0)
    at_height sinks
  have inside : tabletop.contains
      (cruisingFake.served [.streamCartesian up none]).pose.pos := by
    rw [streams.stands.stands]
    exact streams.leads.inside
  have sinking : Enqueues 100 (cruisingFake.served [.streamCartesian up none]) sinkChunk next
      none_left :=
    ⟨rfl, shiftChunk_inSpec (by rw [abs_le]; constructor <;> norm_num) inside, setpoints',
      ungripped'⟩
  obtain ⟨takes', ⟨down, called'⟩, _⟩ := streams.passes tabletop_streamable sinking
  have passes := runInner_pair (enqueuing cruisingFake climbChunk)
    (enqueuing (cruisingFake.served [.streamCartesian up none]) sinkChunk)
    waitingLoop_streams.running streams.running
  have ran : OnFake BackendCall.IsSteady cruisingFake
      (waitingLoop.runInner [enqueuing cruisingFake climbChunk,
        enqueuing (cruisingFake.served [.streamCartesian up none]) sinkChunk])
      [.streamCartesian up none, .streamCartesian down none] := by
    rw [passes]
    exact waitingLoop_streams.onFake called
      (streams.onFake called' (.done fun _ none => absurd none List.not_mem_nil))
  have both : ∀ t ∈ waitingLoop.runInner [enqueuing cruisingFake climbChunk,
      enqueuing (cruisingFake.served [.streamCartesian up none]) sinkChunk],
      t.TakesUp waitingLoop.filter.p := by
    rw [passes, List.forall_mem_cons, List.forall_mem_singleton]
    exact ⟨takes, takes'⟩
  have streamable : Streamable waitingLoop.filter.p waitingLoop.hz := by
    rw [waitingLoop_rate]
    exact tabletop_streamable
  obtain ⟨_, _, lands⟩ := streaming_follows_plan streamable rfl rfl rfl rfl rfl rfl
    (overTable_contains rfl rfl rfl) both ran
  refine ⟨up, down, ran, ?_, ?_⟩
  · exact (congrArg List.length streams.leads.pending).trans nine
  · refine lands [_] _ [] [] sinkChunk _ 0 sinkChunk _ passes rfl
      (fun _ none => absurd none List.not_mem_nil) rfl ?_ rfl
    rw [waitingLoop_rate]
    have length : (enqueued 100 sinkChunk
        (cruisingFake.served [.streamCartesian up none]).pose).length = none_left.length + 1 :=
      congrArg List.length setpoints'
    exact (length.trans (congrArg (· + 1) once)).le

end FlexivControl
