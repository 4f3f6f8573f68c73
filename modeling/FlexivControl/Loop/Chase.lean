/-
A fixed target, pass after pass, on the simulator.

While the target is only published anew, a pass that follows it takes one limited step along
the segment and any other pass leaves the arm where it is. With perfect tracking the TCP is
where the number of following passes says, however often the command went stale in between.
-/

import FlexivControl.Filter.Arrival
import FlexivControl.Filter.AngularLimit
import FlexivControl.Filter.RigidMotion
import FlexivControl.Loop.OnFake
import FlexivControl.Loop.Publishing

namespace FlexivControl

section Acknowledged

variable {K : Type} [Scalar K]

/-- Acknowledged by `g`, the step does not raise, and leaves the pass as `left` says. -/
def EndsWell (g : FakeBackend K) (input : TickInput K) (x : LoopM K Unit) (pass : Pass K)
    (left : Pass K → Prop) : Prop :=
  g.Acknowledges input.ack (x pass).2.calls → ∃ pass', x pass = (.ok (), pass') ∧ left pass'

variable {g : FakeBackend K} {input : TickInput K} {pass : Pass K} {left : Pass K → Prop}

theorem FakeBackend.Acknowledges.of_append {ack : BackendCall K → Option Exc}
    {calls more : List (BackendCall K)} (heard : g.Acknowledges ack (calls ++ more)) :
    g.Acknowledges ack calls := by
  intro before call after split
  apply heard before call (after ++ more)
  rw [split, List.append_assoc, List.cons_append]

theorem endsWell_pure (here : left pass) : EndsWell g input (pure ()) pass left :=
  fun _ => ⟨pass, rfl, here⟩

theorem endsWell_update {f : ReactiveServoLoop K → ReactiveServoLoop K}
    (there : left { pass with loop := f pass.loop }) : EndsWell g input (update f) pass left :=
  fun _ => ⟨_, rfl, there⟩

theorem endsWell_updated {f : ReactiveServoLoop K → ReactiveServoLoop K} {x : LoopM K Unit}
    (rest : EndsWell g input x { pass with loop := f pass.loop } left) :
    EndsWell g input (do update f; x) pass left := rest

theorem endsWell_command {call : BackendCall K}
    (taken : ((g.served pass.calls).serve call).1 = .ok ())
    (there : left { pass with calls := pass.calls ++ [call] }) :
    EndsWell g input (command input call) pass left := by
  have made : (command input call pass).2.calls = pass.calls ++ [call] := by
    unfold command
    dsimp only
    split <;> rfl
  intro heard
  rw [made] at heard
  have accepted := heard pass.calls call [] rfl
  rw [taken] at accepted
  refine ⟨_, ?_, there⟩
  unfold command
  rw [accepted]
  rfl

theorem EndsWell.bind {x : LoopM K Unit} {f : Unit → LoopM K Unit} {M : Pass K → Prop}
    {A : BackendCall K → Prop} (first : EndsWell g input x pass M)
    (grows : Issues A (f ()))
    (rest : ∀ pass', M pass' → EndsWell g input (f ()) pass' left) :
    EndsWell g input (x >>= f) pass left := by
  intro heard
  rw [LoopM.bind_apply] at heard ⊢
  cases ran : x pass with
  | mk out pass' =>
      rw [ran] at heard
      have early : g.Acknowledges input.ack (x pass).2.calls := by
        cases out with
        | error e =>
            rw [ran]
            exact heard
        | ok _ =>
            obtain ⟨calls, made, _⟩ := grows pass'
            dsimp only at heard
            rw [ran]
            rw [made] at heard
            exact heard.of_append
      obtain ⟨pass'', same, there⟩ := first early
      rw [ran, Prod.mk.injEq] at same
      obtain ⟨rfl, rfl⟩ := same
      exact rest pass' there heard

theorem EndsWell.mono {x : LoopM K Unit} {left' : Pass K → Prop}
    (ends : EndsWell g input x pass left) (weaker : ∀ pass', left pass' → left' pass') :
    EndsWell g input x pass left' := by
  intro heard
  obtain ⟨pass', same, there⟩ := ends heard
  exact ⟨pass', same, weaker pass' there⟩

/-- The simulator has come to `pose`, tracking as before. -/
structure FakeBackend.ComesTo (g : FakeBackend K) (pose : Pose K) (g' : FakeBackend K) : Prop where
  pose : g'.pose = pose
  alpha : g'.alpha = g.alpha
  fault : g'.fault = g.fault

theorem FakeBackend.served_snoc (g : FakeBackend K) (calls : List (BackendCall K))
    (call : BackendCall K) : g.served (calls ++ [call]) = ((g.served calls).serve call).2 := by
  rw [served_append]
  rfl

theorem endsWell_cartesianMode {state : RobotState K} (robot : Robot K)
    (seen : state.controlMode = (g.served pass.calls).mode) :
    EndsWell g input (ensureStreamMode input state robot true) pass fun pass' =>
      pass'.loop = pass.loop ∧ (g.served pass.calls).Unmoved (g.served pass'.calls) ∧
        (g.served pass'.calls).mode.isCartesian = true := by
  unfold ensureStreamMode
  rw [if_pos rfl]
  split
  · rename_i cartesian
    exact endsWell_pure ⟨rfl, ⟨rfl, rfl, rfl, rfl⟩, seen ▸ cartesian⟩
  · apply endsWell_command rfl
    rw [FakeBackend.served_snoc]
    exact ⟨rfl, ⟨rfl, rfl, rfl, rfl⟩, rfl⟩

theorem endsWell_protectiveStop (status : SafetyStatus) (reason : StopReason) :
    EndsWell g input (protectiveStop input status reason) pass fun pass' =>
      pass'.loop.filter = pass.loop.filter ∧
        (g.served pass.calls).Unmoved (g.served pass'.calls) := by
  unfold protectiveStop
  apply EndsWell.bind (A := fun _ => True) (M := fun pass' => pass'.loop = pass.loop ∧
    (g.served pass.calls).Unmoved (g.served pass'.calls))
  · apply endsWell_command rfl
    rw [FakeBackend.served_snoc]
    exact ⟨rfl, rfl, rfl, rfl, rfl⟩
  · exact issues_update _
  · intro pass' reached
    apply endsWell_update
    refine ⟨?_, reached.2⟩
    change pass'.loop.filter = pass.loop.filter
    rw [reached.1]

theorem endsWell_stream {pose : Pose K}
    (cartesian : (g.served pass.calls).mode.isCartesian = true) :
    EndsWell g input (command input (.streamCartesian pose none)) pass fun pass' =>
      pass'.loop = pass.loop ∧ (g.served pass.calls).ComesTo ((g.served pass.calls).tracked pose)
        (g.served pass'.calls) := by
  have served := FakeBackend.serve_streamCartesian cartesian pose none
  apply endsWell_command
  · rw [served]
  · rw [FakeBackend.served_snoc, served]
    exact ⟨rfl, rfl, rfl, rfl⟩

theorem endsWell_sendGripper (gripper : Option (GripperCommand K)) :
    EndsWell g input (sendGripper input gripper) pass fun pass' =>
      pass'.loop.filter = pass.loop.filter ∧
        (g.served pass.calls).Unmoved (g.served pass'.calls) := by
  unfold sendGripper
  split
  · exact endsWell_pure ⟨rfl, rfl, rfl, rfl, rfl⟩
  · rename_i cmd
    apply EndsWell.bind (A := fun _ => True) (M := fun pass' => pass'.loop = pass.loop ∧
      (g.served pass.calls).Unmoved (g.served pass'.calls))
    · apply endsWell_command rfl
      rw [FakeBackend.served_snoc]
      exact ⟨rfl, rfl, rfl, rfl, rfl⟩
    · exact issues_update _
    · intro pass' reached
      apply endsWell_update
      refine ⟨?_, reached.2⟩
      change pass'.loop.filter = pass.loop.filter
      rw [reached.1]

theorem FakeBackend.ComesTo.after {g g' g'' : FakeBackend K} {pose : Pose K}
    (comes : g'.ComesTo (g'.tracked pose) g'') (unmoved : g.Unmoved g') :
    g.ComesTo (g.tracked pose) g'' where
  pose := by
    rw [comes.pose]
    unfold tracked
    rw [unmoved.pose, unmoved.alpha]
  alpha := comes.alpha.trans unmoved.alpha
  fault := comes.fault.trans unmoved.fault

theorem FakeBackend.ComesTo.then {g g' g'' : FakeBackend K} {pose : Pose K}
    (comes : g.ComesTo pose g') (unmoved : g'.Unmoved g'') : g.ComesTo pose g'' where
  pose := unmoved.pose.trans comes.pose
  alpha := unmoved.alpha.trans comes.alpha
  fault := unmoved.fault.trans comes.fault

/-- What becomes of the filter and of the simulator in a Cartesian section. -/
inductive Moves (snap : Snapshot K) (f : SafetyFilter K) (g : FakeBackend K) :
    SafetyFilter K → FakeBackend K → Prop where
  | stops {g' : FakeBackend K} (idle : snap.follows f = false) (unmoved : g.Unmoved g') :
      Moves snap f g f g'
  | holds {g' : FakeBackend K} (idle : snap.follows f = false)
      (comes : g.ComesTo (g.tracked snap.state.tcpPose) g') :
      Moves snap f g (f.reset (some snap.state)) g'
  | refuses {target : Pose K} {g' : FakeBackend K} {sr : SafetyResult K} {f' : SafetyFilter K}
      (follows : snap.follows f = true) (published : snap.targetPose = some target)
      (refused : f.filterCartesian target snap.state = (sr, f')) (notOk : sr.ok = false)
      (unmoved : g.Unmoved g') : Moves snap f g f' g'
  | walks {target pose : Pose K} {g' : FakeBackend K} {sr : SafetyResult K} {f' : SafetyFilter K}
      (follows : snap.follows f = true) (published : snap.targetPose = some target)
      (passed : f.filterCartesian target snap.state = (sr, f')) (found : sr.pose = some pose)
      (comes : g.ComesTo (g.tracked pose) g') : Moves snap f g f' g'

variable {snap : Snapshot K} {robot : Robot K} {loop : ReactiveServoLoop K}

theorem endsWell_hold (idle : snap.follows loop.filter = false) (space : snap.cartesian = true)
    (seen : snap.state.controlMode = g.mode) :
    EndsWell g input (holdPosition input snap.state robot snap.cartesian) { loop := loop }
      fun pass' => Moves snap loop.filter g pass'.loop.filter (g.served pass'.calls) := by
  rw [space]
  unfold holdPosition
  apply endsWell_updated
  apply endsWell_updated
  rw [if_pos rfl]
  apply EndsWell.bind (A := fun _ => True) (endsWell_cartesianMode robot seen)
    (issues_command trivial)
  rintro pass' ⟨same, unmoved, cartesian⟩
  apply (endsWell_stream cartesian).mono
  rintro pass'' ⟨same', comes⟩
  rw [same', same]
  exact .holds idle (comes.after unmoved)

theorem endsWell_live {target : Pose K} (follows : snap.follows loop.filter = true)
    (published : snap.targetPose = some target) (same : robot.filter = loop.filter)
    (seen : snap.state.controlMode = g.mode) :
    EndsWell g input (liveCartesian input snap.state robot target snap.gripper) { loop := loop }
      fun pass' => Moves snap loop.filter g pass'.loop.filter (g.served pass'.calls) := by
  unfold liveCartesian
  rw [same]
  rcases loop.filter.filterCartesian_cases target snap.state none with
    ⟨reason, rejected⟩ | ⟨draft, _, _, passed⟩
  · rw [rejected]
    apply endsWell_updated
    apply (endsWell_protectiveStop .stopped reason).mono
    rintro pass' ⟨same', unmoved⟩
    rw [same']
    exact .refuses follows published rejected rfl unmoved
  · dsimp only at passed
    rw [passed]
    apply endsWell_updated
    have gripping (sr : SafetyResult K) : Issues (fun _ => True) (do
        sendGripper input snap.gripper
        reportStreamed sr) := by
      apply Issues.bind _ fun _ => issues_update _
      unfold sendGripper
      split
      · exact issues_pure ()
      · exact (issues_command trivial).bind fun _ => issues_update _
    apply EndsWell.bind (A := fun _ => True) (endsWell_cartesianMode robot seen)
      ((issues_command trivial).bind fun _ => gripping _)
    rintro pass₁ ⟨same₁, unmoved, cartesian⟩
    apply EndsWell.bind (A := fun _ => True) (endsWell_stream cartesian) (gripping _)
    rintro pass₂ ⟨same₂, comes⟩
    apply EndsWell.bind (A := fun _ => True) (endsWell_sendGripper snap.gripper)
      (issues_update _)
    rintro pass₃ ⟨same₃, unmoved₃⟩
    apply endsWell_update
    have reached := (comes.after unmoved).then unmoved₃
    rw [same₂, same₁] at same₃
    rw [ReactiveServoLoop.filter, ReactiveServoLoop.reportResult]
    dsimp only
    rw [same₃]
    exact .walks follows published passed rfl reached

theorem endsWell_writeSection {target : Pose K} (same : robot.filter = loop.filter)
    (space : snap.cartesian = true) (published : snap.targetPose = some target)
    (seen : snap.state.controlMode = g.mode) :
    EndsWell g input (writeSection input snap robot) { loop := loop }
      fun pass' => Moves snap loop.filter g pass'.loop.filter (g.served pass'.calls) := by
  have stopping (idle : snap.follows loop.filter = false) (status : SafetyStatus)
      (reason : StopReason) : EndsWell g input (protectiveStop input status reason) { loop := loop }
        fun pass' => Moves snap loop.filter g pass'.loop.filter (g.served pass'.calls) := by
    apply (endsWell_protectiveStop status reason).mono
    rintro pass' ⟨kept, unmoved⟩
    rw [kept]
    exact .stops idle unmoved
  unfold writeSection
  rw [same]
  dsimp only
  cases faulted : snap.faulted with
  | true =>
      apply stopping
      simp only [Snapshot.follows, faulted]
      rfl
  | false =>
      cases young : (loop.filter.checkStateAge snap.stateAgeMs).ok with
      | false =>
          apply stopping
          simp only [Snapshot.follows, young, Bool.and_false, Bool.false_and]
      | true =>
          cases stale : snap.stale loop.filter.p && loop.filter.p.stopOnStaleCommand with
          | true =>
              have idle : snap.follows loop.filter = false := by
                simp only [Snapshot.follows, stale, Bool.not_true, Bool.and_false]
              cases tooLong : snap.heldTooLong loop.filter.p with
              | true => exact stopping idle _ _
              | false => exact endsWell_hold idle space seen
          | false =>
              have follows : snap.follows loop.filter = true := by
                simp only [Snapshot.follows, faulted, young, stale]
                rfl
              rw [published]
              cases cartesian : snap.cartesian with
              | true => exact endsWell_live follows published same seen
              | false => cases space.symm.trans cartesian

/-- A pass for a pose, acknowledged by the simulator whose mode it has seen. -/
theorem Tick.moves {t : Tick K} (at_write : t.atWrite = some (snap, loop)) {target : Pose K}
    (space : snap.cartesian = true) (published : snap.targetPose = some target)
    (seen : snap.state.controlMode = g.mode) (heard : g.Acknowledges t.input.ack t.result.calls) :
    t.result.raised = none ∧
      Moves snap loop.filter g t.result.loop.filter (g.served t.result.calls) := by
  have ends : EndsWell g t.input (writeSection t.input snap loop.robot) { loop := loop } _ :=
    endsWell_writeSection rfl space published seen
  unfold atWrite at at_write
  unfold result ReactiveServoLoop.tick at heard ⊢
  cases arrived : t.before.arrive t.input with
  | mk out here =>
      rw [arrived] at at_write heard
      cases out with
      | error e => cases at_write
      | ok snap' =>
          cases at_write
          dsimp only at heard ⊢
          cases ran : writeSection t.input snap loop.robot { loop := loop } with
          | mk raised pass =>
              have early : g.Acknowledges t.input.ack
                  (writeSection t.input snap loop.robot { loop := loop }).2.calls := by
                rw [ran] at heard ⊢
                cases raised with
                | error e => exact heard.of_append
                | ok _ => exact heard
              obtain ⟨pass', same, moves⟩ := ends early
              rw [ran, Prod.mk.injEq] at same
              obtain ⟨rfl, rfl⟩ := same
              dsimp only
              rw [diagnose_filter]
              exact ⟨rfl, moves⟩

end Acknowledged

/-! ### One target -/

section Publishing

variable {K : Type} [Scalar K] {target : Pose K}

/-- The target published anew, or a halt. -/
def Publication.Repeats (target : Pose K) : Publication K → Prop
  | .cartesianTarget pose _ _ => Pose.reshape7 pose = .ok target
  | .halt => True
  | _ => False

structure Aim.Chases (target : Pose K) (aim : Aim K) : Prop where
  space : aim.cartesian = true
  aimed : aim.targetPose = some target
  unstaged : aim.chunkIter = none

theorem Publication.Repeats.keepsProfile {p : Publication K} (repeats : p.Repeats target) :
    p.KeepsProfile := by
  cases p with
  | safetyProfile profile => exact absurd repeats id
  | _ => trivial

theorem Publication.Repeats.chases {p : Publication K} (repeats : p.Repeats target)
    {loop : ReactiveServoLoop K} (chases : loop.aim.Chases target) :
    (p.apply loop).aim.Chases target := by
  cases p with
  | cartesianTarget pose gripper now =>
      have shaped : Pose.reshape7 pose = .ok target := repeats
      unfold Publication.apply ReactiveServoLoop.setCartesianTarget
      dsimp only
      rw [shaped]
      exact ⟨rfl, rfl, rfl⟩
  | halt => exact chases
  | _ => exact absurd repeats id

theorem Aim.Chases.absorb {gap : List (Publication K)} (repeats : ∀ p ∈ gap, p.Repeats target) :
    ∀ {loop : ReactiveServoLoop K}, loop.aim.Chases target →
      (loop.absorb gap).aim.Chases target := by
  induction gap with
  | nil => exact fun chases => chases
  | cons p rest ih =>
      intro loop chases
      rw [List.forall_mem_cons] at repeats
      exact ih repeats.2 (repeats.1.chases chases)

theorem Tick.atWrite_chases {t : Tick K} (repeats : ∀ p ∈ t.input.published, p.Repeats target)
    (chases : t.before.aim.Chases target) {snap : Snapshot K} {loop : ReactiveServoLoop K}
    (at_write : t.atWrite = some (snap, loop)) :
    snap.cartesian = true ∧ snap.targetPose = some target ∧
      t.result.loop.aim.Chases target := by
  unfold TickInput.published at repeats
  simp only [List.forall_mem_append] at repeats
  obtain ⟨fetching, advancing, snapping, writing⟩ := repeats
  have left := t.result_aim
  unfold atWrite ReactiveServoLoop.arrive at at_write
  unfold ReactiveServoLoop.arrive at left
  cases read : t.input.state with
  | error e => rw [read] at at_write; cases at_write
  | ok state =>
      rw [read] at at_write left
      have prepared : (t.before.prepare t.input state).aim.Chases target := by
        have fetched : (({ t.before with latestState := some state } :
            ReactiveServoLoop K).absorb t.input.beforeFetch).aim.Chases target :=
          Aim.Chases.absorb fetching ⟨chases.space, chases.aimed, chases.unstaged⟩
        unfold ReactiveServoLoop.prepare ReactiveServoLoop.fetchChunk
        dsimp only
        have unstaged : (({ t.before with latestState := some state } :
            ReactiveServoLoop K).absorb t.input.beforeFetch).chunkIter = none := fetched.unstaged
        rw [unstaged]
        exact (fetched.absorb advancing).absorb snapping
      cases fault : t.input.inFault with
      | error e => rw [fault] at at_write; cases at_write
      | ok faulted =>
          rw [fault] at at_write left
          dsimp only at at_write left
          rw [Option.some.injEq, Prod.mk.injEq] at at_write
          rw [← at_write.1, left]
          refine ⟨prepared.space, prepared.aimed, ?_⟩
          exact Aim.Chases.absorb writing ⟨prepared.space, prepared.aimed, prepared.unstaged⟩

end Publishing

theorem quatAngle_of_upToSign {a a' b : Quat ℝ}
    (same : (quatNormalize a').UpToSign (quatNormalize a)) :
    quatAngle a' b = quatAngle a b := by
  have dots : |(quatNormalize a').dot (quatNormalize b)| =
      |(quatNormalize a).dot (quatNormalize b)| := by
    rcases same with same | same
    · rw [same]
    · rw [same, Quat.neg_dot, abs_neg]
  unfold quatAngle
  dsimp only
  rw [Scalar.abs_real, dots, ← Scalar.abs_real]

theorem quatAngle_self (a : Quat ℝ) : quatAngle a a = 0 := quatAngle_of_aligned rfl

theorem tracked_turned {g : FakeBackend ℝ} (perfect : g.alpha = 1) (pose : Pose ℝ) (goal : Quat ℝ) :
    (g.tracked pose).pos = pose.pos ∧
      quatAngle (g.tracked pose).quat goal = quatAngle pose.quat goal := by
  constructor
  · unfold FakeBackend.tracked
    rw [perfect]
    apply Vec3.toE_injective
    rw [Vec3.toE_add, Vec3.toE_mul, Vec3.toE_mul, sub_self, zero_smul, one_smul, zero_add]
  · apply quatAngle_of_upToSign
    unfold FakeBackend.tracked
    rw [perfect]
    have turned := quatSlerp_one g.pose.quat (quatNormalize pose.quat)
    rw [quatNormalize_idem] at turned
    have unit := quatSlerp_norm g.pose.quat (quatNormalize pose.quat) 1
    exact (quatNormalize_of_norm_one unit).trans turned

/-! ### Along the segment -/

section Walking

variable {p : SafetyProfile ℝ} {dt : ℝ} {start target : Pose ℝ}

/-- After `k` passes that followed the target. -/
structure Walking (p : SafetyProfile ℝ) (dt : ℝ) (start target : Pose ℝ) (k : ℕ)
    (loop : ReactiveServoLoop ℝ) (g : FakeBackend ℝ) : Prop where
  chases : loop.aim.Chases target
  profile : loop.filter.p = p
  step : loop.filter.dt = dt
  perfect : g.alpha = 1
  here : g.pose.pos = alongSegment start.pos target.pos
    (travelled (linearStep p dt) (target.pos - start.pos).norm k)
  facing : quatAngle g.pose.quat target.quat = 0
  reference : (loop.filter.prevPose.getD g.pose).pos = g.pose.pos
  turned : quatAngle (loop.filter.prevPose.getD g.pose).quat target.quat = 0

/-- What the walk needs of the profile, the step and the target. -/
structure Walkable (p : SafetyProfile ℝ) (dt : ℝ) (start target : Pose ℝ) : Prop where
  caps : p.PositiveCaps
  uncapped : p.maxLinearAccel = none
  slow : eps ≤ dt
  light : exceeds (fun _ => 0) p.maxContactWrench = false
  inside : p.contains target.pos
  idle : FloorIdle p dt (target.pos - start.pos).norm

theorem Walking.same {k : ℕ} {loop : ReactiveServoLoop ℝ} {g g' : FakeBackend ℝ}
    (walking : Walking p dt start target k loop g) (unmoved : g.Unmoved g') :
    Walking p dt start target k loop g' where
  chases := walking.chases
  profile := walking.profile
  step := walking.step
  perfect := unmoved.alpha.trans walking.perfect
  here := by
    rw [unmoved.pose]
    exact walking.here
  facing := by
    rw [unmoved.pose]
    exact walking.facing
  reference := by
    rw [unmoved.pose]
    exact walking.reference
  turned := by
    rw [unmoved.pose]
    exact walking.turned

theorem Walking.arrived {k k' : ℕ} {loop loop' : ReactiveServoLoop ℝ} {g g' : FakeBackend ℝ}
    (walking : Walking p dt start target k loop g) (chases : loop'.aim.Chases target)
    (profile : loop'.filter.p = loop.filter.p) (step : loop'.filter.dt = loop.filter.dt)
    {pose : Pose ℝ} (anchored : loop'.filter.prevPose = some pose)
    (comes : g.ComesTo (g.tracked pose) g')
    (reached : pose.pos = alongSegment start.pos target.pos
      (travelled (linearStep p dt) (target.pos - start.pos).norm k'))
    (turned : quatAngle pose.quat target.quat = 0) :
    Walking p dt start target k' loop' g' := by
  obtain ⟨carried, faced⟩ := tracked_turned walking.perfect pose target.quat
  constructor
  · exact chases
  · exact profile.trans walking.profile
  · exact step.trans walking.step
  · exact comes.alpha.trans walking.perfect
  · rw [comes.pose, carried, reached]
  · rw [comes.pose, faced, turned]
  · rw [anchored, Option.getD_some, comes.pose, carried]
  · rw [anchored, Option.getD_some, turned]

theorem Walking.filters (walkable : Walkable p dt start target) {k : ℕ}
    {loop : ReactiveServoLoop ℝ} {g : FakeBackend ℝ} (walking : Walking p dt start target k loop g)
    {state : RobotState ℝ} (pose : state.tcpPose = g.pose) (free : state.wrench = fun _ => 0) :
    ∃ goal sr filter', loop.filter.filterCartesian target state = (sr, filter') ∧ sr.ok = true ∧
      sr.pose = some goal ∧ filter'.p = loop.filter.p ∧ filter'.dt = loop.filter.dt ∧
      filter'.prevPose = some goal ∧ goal.quat = target.quat ∧
      goal.pos = alongSegment start.pos target.pos
        (travelled (linearStep p dt) (target.pos - start.pos).norm (k + 1)) := by
  let call : FilterCall ℝ := { target := target, state := state }
  have light :
      exceeds call.state.wrench (call.cap.getD loop.filter.p.maxContactWrench) = false := by
    rw [walking.profile]
    change exceeds state.wrench p.maxContactWrench = false
    rw [free]
    exact walkable.light
  have underway : loop.filter.Underway call start target k := by
    constructor
    · change (loop.filter.prevPose.getD state.tcpPose).pos = _
      rw [pose, walking.reference, walking.here, walking.profile, walking.step]
    · change quatAngle (loop.filter.prevPose.getD state.tcpPose).quat target.quat = 0
      rw [pose]
      exact walking.turned
  obtain ⟨goal, clipped, reasons, filter', passed, profile, step, anchored, quat, reached, _⟩ :=
    SafetyFilter.filterCartesian_underway (walking.profile ▸ walkable.caps)
      (walking.profile ▸ walkable.uncapped) (walking.step ▸ walkable.slow)
      (walking.profile ▸ walkable.inside) (walking.profile ▸ walking.step ▸ walkable.idle) rfl light
      underway
  rw [walking.profile, walking.step] at reached
  exact ⟨goal, _, filter', passed, rfl, rfl, profile, step, anchored, quat, reached⟩

theorem Walking.pass (walkable : Walkable p dt start target) {k : ℕ} {t : Tick ℝ}
    {g : FakeBackend ℝ} (walking : Walking p dt start target k t.before g)
    (repeats : ∀ p ∈ t.input.published, p.Repeats target) {state : RobotState ℝ}
    (read : t.input.state = .ok state) {flagged : Bool} (flag : t.input.inFault = .ok flagged)
    (pose : state.tcpPose = g.pose) (mode : state.controlMode = g.mode)
    (free : state.wrench = fun _ => 0) (heard : g.Acknowledges t.input.ack t.result.calls) :
    t.result.raised = none ∧
      Walking p dt start target (k + if t.follows then 1 else 0) t.result.loop
        (g.served t.result.calls) := by
  have arrives : ∃ snap loop, t.atWrite = some (snap, loop) := by
    unfold Tick.atWrite ReactiveServoLoop.arrive
    rw [read, flag]
    exact ⟨_, _, rfl⟩
  obtain ⟨snap, loop, at_write⟩ := arrives
  obtain ⟨space, published, chases⟩ := t.atWrite_chases repeats walking.chases at_write
  have same : loop.filter = t.before.filter := congrArg Robot.filter
    (t.atWrite_robot ⟨fun p member => (repeats p (List.mem_append_left _ member)).keepsProfile,
      fun p member => (repeats p (List.mem_append_right _
        (List.mem_append_left _ member))).keepsProfile,
      fun p member => (repeats p (List.mem_append_right _ (List.mem_append_right _
        (List.mem_append_left _ member)))).keepsProfile,
      fun p member => (repeats p (List.mem_append_right _ (List.mem_append_right _
        (List.mem_append_right _ member)))).keepsProfile⟩ at_write)
  have measured : snap.state = state := Except.ok.inj ((t.atWrite_state at_write).symm.trans read)
  subst measured
  obtain ⟨quietly, moves⟩ := t.moves at_write space published mode heard
  have counted : t.follows = snap.follows loop.filter := by
    unfold Tick.follows
    rw [at_write]
  refine ⟨quietly, ?_⟩
  rw [counted]
  rw [same] at moves ⊢
  generalize left : t.result.loop.filter = filter' at moves
  cases moves with
  | stops idle unmoved =>
      rw [idle]
      exact ⟨chases, left ▸ walking.profile, left ▸ walking.step, (walking.same unmoved).perfect,
        (walking.same unmoved).here, (walking.same unmoved).facing,
        left.symm ▸ (walking.same unmoved).reference, left.symm ▸ (walking.same unmoved).turned⟩
  | holds idle comes =>
      rw [idle]
      apply walking.arrived chases _ _ _ comes
      · rw [pose]
        exact walking.here
      · rw [pose]
        exact walking.facing
      · rw [left, SafetyFilter.reset_p]
      · rw [left, SafetyFilter.reset_dt]
      · rw [left]
        rfl
  | refuses follows aimed refused notOk _ =>
      obtain ⟨goal, sr, filter'', passed, ok, _⟩ := walking.filters walkable pose free
      rw [published, Option.some.injEq] at aimed
      rw [← aimed, passed, Prod.mk.injEq] at refused
      rw [refused.1, notOk] at ok
      cases ok
  | walks follows aimed made given comes =>
      obtain ⟨goal, sr, filter'', passed, _, found, profile, step, anchored, quat, reached⟩ :=
        walking.filters walkable pose free
      rw [published, Option.some.injEq] at aimed
      rw [← aimed, passed, Prod.mk.injEq] at made
      obtain ⟨rfl, rfl⟩ := made
      rw [found, Option.some.injEq] at given
      subst given
      rw [follows]
      apply walking.arrived chases _ _ _ comes reached
      · rw [quat]
        exact quatAngle_of_aligned rfl
      · rw [left]
        exact profile
      · rw [left]
        exact step
      · rw [left]
        exact anchored

theorem served_same {others : List (BackendCall ℝ)} (steady : ∀ call ∈ others, call.IsSteady)
    (g : FakeBackend ℝ) : g.Same (g.served others) := by
  have kept : ∀ call ∈ others, ∀ g', g.Same g' → g.Same (g'.serve call).2 := by
    intro call member g' same
    have steadily : (Op.write call).IsSteady := steady call member
    exact same.trans (FakeBackend.same_of_steady steadily g' (Except.ok ()))
  exact served_keeps kept (.refl g) others List.prefix_rfl

theorem OnFake.walking (walkable : Walkable p dt start target) {inputs : List (TickInput ℝ)}
    (repeats : ∀ input ∈ inputs, ∀ p ∈ input.published, p.Repeats target) :
    ∀ {loop : ReactiveServoLoop ℝ} {g : FakeBackend ℝ} {commands : List (BackendCall ℝ)} {k : ℕ},
      OnFake BackendCall.IsSteady g (loop.runInner inputs) commands →
      Walking p dt start target k loop g →
      (∀ t ∈ loop.runInner inputs, t.result.raised = none) ∧ ∃ loop',
        Walking p dt start target (k + (loop.runInner inputs).countP Tick.follows) loop'
          (g.served commands) := by
  induction inputs with
  | nil =>
      intro loop g commands k ran walking
      cases ran with
      | done theirs =>
          exact ⟨fun _ none => absurd none List.not_mem_nil, loop,
            walking.same (served_same theirs g).toUnmoved⟩
  | cons input rest ih =>
      intro loop g commands k ran walking
      rw [List.forall_mem_cons] at repeats
      unfold ReactiveServoLoop.runInner at ran ⊢
      split at ran
      · rename_i running
        cases ran with
        | pass now theirs read flag heard onward =>
            rename_i before between later
            have here := served_same (fun call member =>
              theirs call (List.mem_append_left _ member)) g
            have there := served_same theirs g
            have apart : (g.served before).Same (g.served (before ++ between)) := by
              rw [FakeBackend.served_append]
              exact served_same (fun call member => theirs call (List.mem_append_right _ member)) _
            obtain ⟨quietly, next⟩ := Walking.pass (t := ⟨loop, input⟩) walkable
              (walking.same there.toUnmoved) repeats.1 read flag apart.pose.symm apart.mode.symm
              rfl heard
            rw [← FakeBackend.served_append] at next
            obtain ⟨calm, loop', final⟩ := ih repeats.2 onward next
            rw [if_pos running, List.forall_mem_cons, List.countP_cons,
              FakeBackend.served_append]
            refine ⟨⟨quietly, calm⟩, loop', ?_⟩
            rw [Nat.add_comm (List.countP _ _), ← Nat.add_assoc]
            exact final
      · rename_i halted
        rw [if_neg halted]
        cases ran with
        | done theirs =>
            exact ⟨fun _ none => absurd none List.not_mem_nil, loop,
              walking.same (served_same theirs g).toUnmoved⟩

end Walking

/-- With the target only published anew, the TCP has gone one step along the segment for each
pass that followed it, however many held, stopped or found the robot at fault in between,
and no pass raises: with enough of them it is at the target, and stays there. -/
theorem loop_walks_to_target {loop : ReactiveServoLoop ℝ} {g : FakeBackend ℝ} {target : Pose ℝ}
    (walkable : Walkable loop.filter.p loop.filter.dt g.pose target) (perfect : g.alpha = 1)
    (facing : quatAngle g.pose.quat target.quat = 0)
    (anchored : loop.filter.prevPose.getD g.pose = g.pose) (chases : loop.aim.Chases target)
    {inputs : List (TickInput ℝ)}
    (repeats : ∀ input ∈ inputs, ∀ p ∈ input.published, p.Repeats target)
    {commands : List (BackendCall ℝ)}
    (ran : OnFake BackendCall.IsSteady g (loop.runInner inputs) commands) :
    let c := min loop.filter.p.maxPoseJumpLinear (loop.filter.p.maxLinearSpeed * loop.filter.dt)
    let d := (target.pos - g.pose.pos).norm
    let k := (loop.runInner inputs).countP Tick.follows
    (g.served commands).pose.pos = alongSegment g.pose.pos target.pos (min (k * c) d) ∧
      (⌈d / c⌉ ≤ k → (g.served commands).pose.pos = target.pos) ∧
      ∀ t ∈ loop.runInner inputs, t.result.raised = none := by
  intro c d k
  have start : Walking loop.filter.p loop.filter.dt g.pose target 0 loop g := by
    constructor
    · exact chases
    · rfl
    · rfl
    · exact perfect
    · rw [travelled, Nat.cast_zero, zero_mul, min_eq_left, alongSegment_zero]
      exact norm_segment g.pose.pos target.pos ▸ norm_nonneg _
    · exact facing
    · rw [anchored]
    · rw [anchored]
      exact facing
  obtain ⟨calm, loop', final⟩ := ran.walking walkable repeats start
  have reached := final.here
  rw [Nat.zero_add] at reached
  refine ⟨reached, ?_, calm⟩
  intro enough
  have positive := linearStep_pos walkable.caps (eps_pos.trans_le walkable.slow)
  rw [travelled_all positive enough, alongSegment_last] at reached
  exact reached

/-- One pass is enough for 2.5 mm. -/
theorem loop_walks_to_target_hopping : ∃ pose,
    OnFake BackendCall.IsSteady cruisingFake (hoppingLoop.runInner [hoppingPass])
      [.streamCartesian pose none] ∧
      (cruisingFake.served [.streamCartesian pose none]).pose.pos = hop.pos := by
  obtain ⟨pose, ran⟩ := hopping_run BackendCall.IsSteady
  have rate : hoppingLoop.filter.dt = 1 / 100 := by
    change (1 : ℝ) / (if (0 : ℝ) < 100 ∨ (100 : ℝ) < 0 then 100 else _) = 1 / 100
    rw [if_pos (Or.inl (by norm_num))]
  have step : min tabletop.maxPoseJumpLinear (tabletop.maxLinearSpeed * hoppingLoop.filter.dt) =
      1 / 400 := by
    rw [rate]
    norm_num [tabletop]
  have walkable : Walkable hoppingLoop.filter.p hoppingLoop.filter.dt cruisingFake.pose hop := by
    refine ⟨tabletop_positiveCaps, rfl, ?_, cruisingFake_light 0, hop_contained,
      floorIdle_of_le ?_ _⟩
    · rw [rate, eps_real]
      norm_num
    · change eps ≤ min tabletop.maxPoseJumpLinear
        (tabletop.maxLinearSpeed * hoppingLoop.filter.dt)
      rw [step, eps_real]
      norm_num
  have repeats : ∀ input ∈ [hoppingPass], ∀ p ∈ input.published, p.Repeats hop := by
    intro input member p published
    rw [List.mem_singleton.mp member] at published
    rw [List.mem_singleton.mp published]
    rfl
  have followed : (Tick.mk hoppingLoop hoppingPass).follows = true :=
    follows_of_fresh rfl rfl (sub_self 0)
  have counted : (hoppingLoop.runInner [hoppingPass]).countP Tick.follows = 1 := by
    change [Tick.mk hoppingLoop hoppingPass].countP Tick.follows = 1
    rw [List.countP_cons, followed]
    rfl
  obtain ⟨_, arrives, _⟩ := loop_walks_to_target walkable rfl (quatAngle_of_aligned rfl) rfl
    ⟨rfl, rfl, rfl⟩ repeats ran
  refine ⟨pose, ran, arrives ?_⟩
  rw [counted]
  change ⌈(hop.pos - overTable.pos).norm /
    min tabletop.maxPoseJumpLinear (tabletop.maxLinearSpeed * hoppingLoop.filter.dt)⌉ ≤ 1
  have height : (hop.pos - overTable.pos).norm = 1 / 4 / 100 :=
    norm_raised overTable.pos (by norm_num)
  rw [step, height]
  norm_num

end FlexivControl
