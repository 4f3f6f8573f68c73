/-
The loop on the simulator.

Each pass measures the simulator as it stands and hears of each of its commands what the
simulator made of it. Other threads publish what they like and may send commands of their
own between a pass's reading and its writing; these stream nothing. Whatever the profiles
in use, their boxes lie in one outer box, and neither the TCP nor a setpoint leaves it.
-/

import FlexivControl.Loop.JointTargets
import FlexivControl.Robot.FakeWorkspace

namespace FlexivControl

/-! ### Commands on the simulator -/

section Serving

variable {K : Type} [Scalar K]

/-- The simulator once it has had these commands. -/
def FakeBackend.served (g : FakeBackend K) (calls : List (BackendCall K)) : FakeBackend K :=
  calls.foldl (fun g call => (g.serve call).2) g

def raisedBy : Except Exc Unit → Option Exc
  | .ok _ => none
  | .error e => some e

/-- The acknowledgements `ack` of these commands are the simulator's. -/
def FakeBackend.Acknowledges (g : FakeBackend K) (ack : BackendCall K → Option Exc)
    (calls : List (BackendCall K)) : Prop :=
  ∀ before call after, calls = before ++ call :: after →
    ack call = raisedBy ((g.served before).serve call).1

/-- Passes on the simulator and all the commands it has had by their end, those of other
threads being `foreign`. -/
inductive OnFake (foreign : BackendCall K → Prop) :
    FakeBackend K → List (Tick K) → List (BackendCall K) → Prop where
  | done {g : FakeBackend K} {others : List (BackendCall K)}
      (theirs : ∀ call ∈ others, foreign call) : OnFake foreign g [] others
  | pass {g : FakeBackend K} {t : Tick K} {rest : List (Tick K)}
      {before between later : List (BackendCall K)} (now : K)
      (theirs : ∀ call ∈ before ++ between, foreign call)
      (read : t.input.state = .ok ((g.served before).readState now))
      (flag : t.input.inFault = .ok g.fault)
      (heard : (g.served (before ++ between)).Acknowledges t.input.ack t.result.calls)
      (onward : OnFake foreign (g.served (before ++ between ++ t.result.calls)) rest later) :
      OnFake foreign g (t :: rest) (before ++ between ++ t.result.calls ++ later)

theorem FakeBackend.served_append (g : FakeBackend K) (xs ys : List (BackendCall K)) :
    g.served (xs ++ ys) = (g.served xs).served ys :=
  List.foldl_append

theorem served_keeps {inv : FakeBackend K → Prop} {calls : List (BackendCall K)}
    (kept : ∀ call ∈ calls, ∀ g, inv g → inv (g.serve call).2) :
    ∀ {g : FakeBackend K}, inv g → ∀ pre, pre <+: calls → inv (g.served pre) := by
  induction calls with
  | nil =>
      intro g holds pre part
      rw [List.prefix_nil.mp part]
      exact holds
  | cons call rest ih =>
      intro g holds pre part
      cases pre with
      | nil => exact holds
      | cons first pre =>
          obtain ⟨same, within⟩ := List.cons_prefix_cons.mp part
          subst same
          exact ih (fun call member => kept call (List.mem_cons_of_mem _ member))
            (kept first List.mem_cons_self g holds) pre within

end Serving

section Commands

variable {K : Type} [Scalar K]

def Issues (allowed : BackendCall K → Prop) {α : Type} (x : LoopM K α) : Prop :=
  ∀ pass, ∃ calls, (x pass).2.calls = pass.calls ++ calls ∧ ∀ call ∈ calls, allowed call

variable {allowed : BackendCall K → Prop}

theorem issues_pure {α : Type} (a : α) : Issues allowed (pure a : LoopM K α) :=
  fun _ => ⟨[], (List.append_nil _).symm, fun _ member => absurd member List.not_mem_nil⟩

theorem issues_command {input : TickInput K} {call : BackendCall K} (fine : allowed call) :
    Issues allowed (command input call) := by
  intro pass
  refine ⟨[call], ?_, ?_⟩
  · unfold command
    dsimp only
    split <;> rfl
  · intro made member
    rw [List.mem_singleton.mp member]
    exact fine

theorem issues_update (f : ReactiveServoLoop K → ReactiveServoLoop K) :
    Issues allowed (update f) :=
  fun _ => ⟨[], (List.append_nil _).symm, fun _ member => absurd member List.not_mem_nil⟩

theorem Issues.bind {α β : Type} {x : LoopM K α} {f : α → LoopM K β} (first : Issues allowed x)
    (rest : ∀ a, Issues allowed (f a)) : Issues allowed (x >>= f) := by
  intro pass
  obtain ⟨calls, made, fine⟩ := first pass
  rw [LoopM.bind_apply]
  cases ran : x pass with
  | mk out pass' =>
      rw [ran] at made
      cases out with
      | error e => exact ⟨calls, made, fine⟩
      | ok a =>
          obtain ⟨more, made', fine'⟩ := rest a pass'
          refine ⟨calls ++ more, ?_, ?_⟩
          · dsimp only at made ⊢
            rw [made', made, List.append_assoc]
          · intro call member
            rcases List.mem_append.mp member with early | late
            · exact fine call early
            · exact fine' call late

def Snapshot.MayMake (snap : Snapshot K) (filter : SafetyFilter K) (call : BackendCall K) : Prop :=
  ∀ sp, call.setpoint = some sp → ∃ filter', Wrote snap filter (some sp) filter'

theorem Snapshot.mayMake_of_mute {snap : Snapshot K} {filter : SafetyFilter K}
    {call : BackendCall K} (mute : call.setpoint = none) : snap.MayMake filter call := by
  intro sp carries
  rw [mute] at carries
  cases carries

theorem Snapshot.mayMake_of_wrote {snap : Snapshot K} {filter filter' : SafetyFilter K}
    {call : BackendCall K} {sp : Setpoint K} (carries : call.setpoint = some sp)
    (wrote : Wrote snap filter (some sp) filter') : snap.MayMake filter call := by
  intro sp' carries'
  rw [carries, Option.some.injEq] at carries'
  exact ⟨filter', carries' ▸ wrote⟩

variable {snap : Snapshot K} {filter : SafetyFilter K}

theorem issues_protectiveStop (input : TickInput K) (status : SafetyStatus) (reason : StopReason) :
    Issues (snap.MayMake filter) (protectiveStop input status reason) :=
  (issues_command (snap.mayMake_of_mute rfl)).bind fun _ => issues_update _

theorem issues_ensureStreamMode (input : TickInput K) (state : RobotState K) (robot : Robot K)
    (cartesian : Bool) :
    Issues (snap.MayMake filter) (ensureStreamMode input state robot cartesian) := by
  unfold ensureStreamMode
  split
  · split
    · exact issues_pure ()
    · exact issues_command (snap.mayMake_of_mute rfl)
  · split
    · exact issues_command (snap.mayMake_of_mute rfl)
    · exact issues_pure ()

theorem issues_sendGripper (input : TickInput K) (gripper : Option (GripperCommand K)) :
    Issues (snap.MayMake filter) (sendGripper input gripper) := by
  unfold sendGripper
  split
  · exact issues_pure ()
  · exact (issues_command (snap.mayMake_of_mute rfl)).bind fun _ => issues_update _

theorem issues_holdPosition (input : TickInput K) (robot : Robot K)
    (holds : snap.holds filter = true) :
    Issues (snap.MayMake filter) (holdPosition input snap.state robot snap.cartesian) := by
  unfold holdPosition
  apply (issues_update _).bind
  intro _
  apply (issues_update _).bind
  intro _
  apply (issues_ensureStreamMode input snap.state robot snap.cartesian).bind
  intro _
  split
  · rename_i space
    exact issues_command (snap.mayMake_of_wrote rfl (.heldCartesian holds space))
  · rename_i space
    exact issues_command (snap.mayMake_of_wrote rfl (.heldJoint holds (Bool.not_eq_true _ ▸ space)))

theorem issues_liveCartesian (input : TickInput K) {robot : Robot K} {target : Pose K}
    (follows : snap.follows robot.filter = true) (space : snap.cartesian = true)
    (published : snap.targetPose = some target) :
    Issues (snap.MayMake robot.filter)
      (liveCartesian input snap.state robot target snap.gripper) := by
  unfold liveCartesian
  cases passed : robot.filter.filterCartesian target snap.state with
  | mk sr filter' =>
      dsimp only
      apply (issues_update _).bind
      intro _
      split
      · rename_i ok found
        apply (issues_ensureStreamMode input snap.state robot true).bind
        intro _
        apply (issues_command (snap.mayMake_of_wrote rfl
          (.liveCartesian follows space published passed ok found))).bind
        intro _
        exact (issues_sendGripper input snap.gripper).bind fun _ => issues_update _
      · exact issues_protectiveStop input _ _

theorem issues_liveJoint (input : TickInput K) {robot : Robot K} {target : List K}
    (follows : snap.follows robot.filter = true) (space : snap.cartesian = false)
    (published : snap.targetQ = some target) :
    Issues (snap.MayMake robot.filter) (liveJoint input snap.state robot target) := by
  unfold liveJoint
  cases passed : robot.filter.filterJoint target snap.state with
  | error e =>
      exact fun _ => ⟨[], (List.append_nil _).symm, fun _ member => absurd member List.not_mem_nil⟩
  | ok out =>
      obtain ⟨sr, filter'⟩ := out
      dsimp only
      apply (issues_update _).bind
      intro _
      split
      · rename_i ok found
        apply (issues_ensureStreamMode input snap.state robot false).bind
        intro _
        apply (issues_command (snap.mayMake_of_wrote rfl
          (.liveJoint follows space published passed ok found))).bind
        intro _
        exact issues_update _
      · exact issues_protectiveStop input _ _

theorem issues_writeSection (input : TickInput K) (snap : Snapshot K) (robot : Robot K) :
    Issues (snap.MayMake robot.filter) (writeSection input snap robot) := by
  unfold writeSection
  dsimp only
  cases faulted : snap.faulted with
  | true => exact issues_protectiveStop input _ _
  | false =>
      cases young : (robot.filter.checkStateAge snap.stateAgeMs).ok with
      | false => exact issues_protectiveStop input _ _
      | true =>
          cases stale : snap.stale robot.filter.p && robot.filter.p.stopOnStaleCommand with
          | true =>
              cases tooLong : snap.heldTooLong robot.filter.p with
              | true => exact issues_protectiveStop input _ _
              | false =>
                  apply issues_holdPosition
                  simp only [Snapshot.holds, faulted, young, stale, tooLong]
                  rfl
          | false =>
              have follows : snap.follows robot.filter = true := by
                simp only [Snapshot.follows, faulted, young, stale]
                rfl
              cases space : snap.cartesian with
              | true =>
                  cases published : snap.targetPose with
                  | none => exact issues_pure ()
                  | some target => exact issues_liveCartesian input follows space published
              | false =>
                  cases published : snap.targetQ with
                  | none => exact issues_pure ()
                  | some target => exact issues_liveJoint input follows space published

theorem Tick.result_issues (t : Tick K) : ∀ call ∈ t.result.calls, call.setpoint = none ∨
    ∃ snap loop, t.atWrite = some (snap, loop) ∧ snap.MayMake loop.filter call := by
  unfold result atWrite ReactiveServoLoop.tick
  cases arrived : t.before.arrive t.input with
  | mk out loop =>
      cases out with
      | error e =>
          intro call member
          rw [List.mem_singleton.mp member]
          exact Or.inl rfl
      | ok snap =>
          obtain ⟨calls, made, fine⟩ := issues_writeSection t.input snap loop.robot { loop := loop }
          rw [List.nil_append] at made
          dsimp only
          cases ran : writeSection t.input snap loop.robot { loop := loop } with
          | mk raised pass =>
              rw [ran] at made
              dsimp only at made
              cases raised with
              | error e =>
                  intro call member
                  rcases List.mem_append.mp member with early | last
                  · exact Or.inr ⟨snap, loop, rfl, fine call (made ▸ early)⟩
                  · rw [List.mem_singleton.mp last]
                    exact Or.inl rfl
              | ok _ =>
                  intro call member
                  exact Or.inr ⟨snap, loop, rfl, fine call (made ▸ member)⟩

/-- The pass gets as far as following its target. -/
def Tick.follows (t : Tick K) : Bool :=
  match t.atWrite with
  | none => false
  | some (snap, loop) => snap.follows loop.filter

end Commands

section Arriving

variable {K : Type} [Scalar K] {I : Robot K → Prop}

theorem absorb_keeps {gap : List (Publication K)}
    (kept : ∀ p ∈ gap, ∀ loop, I loop.robot → I (p.apply loop).robot) :
    ∀ {loop : ReactiveServoLoop K}, I loop.robot → I (loop.absorb gap).robot := by
  induction gap with
  | nil => exact fun holds => holds
  | cons p rest ih =>
      intro loop holds
      rw [List.forall_mem_cons] at kept
      exact ih kept.2 (kept.1 loop holds)

theorem Tick.atWrite_keeps {t : Tick K}
    (kept : ∀ p ∈ t.input.published, ∀ loop, I loop.robot → I (p.apply loop).robot)
    (holds : I t.before.robot) {snap : Snapshot K} {loop : ReactiveServoLoop K}
    (at_write : t.atWrite = some (snap, loop)) : I loop.robot := by
  unfold TickInput.published at kept
  simp only [List.forall_mem_append] at kept
  obtain ⟨fetching, advancing, snapping, writing⟩ := kept
  unfold atWrite ReactiveServoLoop.arrive at at_write
  cases read : t.input.state with
  | error e => rw [read] at at_write; cases at_write
  | ok state =>
      rw [read] at at_write
      cases fault : t.input.inFault with
      | error e => rw [fault] at at_write; cases at_write
      | ok faulted =>
          rw [fault] at at_write
          dsimp only at at_write
          rw [Option.some.injEq, Prod.mk.injEq] at at_write
          rw [← at_write.2]
          apply absorb_keeps writing
          dsimp only [ReactiveServoLoop.prepare]
          apply absorb_keeps snapping
          rw [advance_robot]
          apply absorb_keeps advancing
          rw [fetchChunk_robot]
          exact absorb_keeps fetching holds

theorem Tick.atWrite_state {t : Tick K} {snap : Snapshot K} {loop : ReactiveServoLoop K}
    (at_write : t.atWrite = some (snap, loop)) : t.input.state = .ok snap.state := by
  unfold atWrite ReactiveServoLoop.arrive at at_write
  cases read : t.input.state with
  | error e => rw [read] at at_write; cases at_write
  | ok state =>
      rw [read] at at_write
      cases fault : t.input.inFault with
      | error e => rw [fault] at at_write; cases at_write
      | ok faulted =>
          rw [fault] at at_write
          dsimp only at at_write
          rw [Option.some.injEq, Prod.mk.injEq] at at_write
          rw [← at_write.1]
          rfl

end Arriving

/-! ### The box -/

section Box

variable {outer : SafetyProfile ℝ} {g : FakeBackend ℝ}

/-- A profile that is published is one to be used within `outer`. -/
def Publication.Fits (outer : SafetyProfile ℝ) : Publication ℝ → Prop
  | .safetyProfile profile => profile.Fits outer
  | _ => True

theorem BoxKept.publish {p : Publication ℝ} (fits : p.Fits outer) {loop : ReactiveServoLoop ℝ}
    (kept : BoxKept outer loop.robot g) : BoxKept outer (p.apply loop).robot g := by
  by_cases keeps : p.KeepsProfile
  · rw [Publication.apply_robot keeps]
    exact kept
  · cases p with
    | safetyProfile profile =>
        exact ⟨fits, kept.step, kept.reference, kept.lower, kept.upper, kept.boxed⟩
    | _ => exact absurd trivial keeps

theorem Wrote.boxed {snap : Snapshot ℝ} {filter filter' : SafetyFilter ℝ} {pose : Pose ℝ}
    (wrote : Wrote snap filter (some (.cartesian pose)) filter') (fits : filter.p.Fits outer)
    (step : 0 ≤ filter.dt)
    (reference : ∀ ref, filter.prevPose = some ref → outer.accepts ref.pos)
    (sane : outer.accepts snap.state.tcpPose.pos) : outer.accepts pose.pos := by
  cases wrote with
  | heldCartesian _ _ => exact sane
  | liveCartesian _ _ _ passed _ found =>
      exact (filterCartesian_boxed fits step reference sane passed found).1

theorem BoxKept.wrote {snap : Snapshot ℝ} {robot robot' : Robot ℝ} {streamed : Option (Setpoint ℝ)}
    (kept : BoxKept outer robot g) (sane : outer.accepts snap.state.tcpPose.pos)
    (wrote : Wrote snap robot.filter streamed robot'.filter) : BoxKept outer robot' g := by
  obtain ⟨profile, step⟩ := wrote.keeps
  apply kept.filtered profile step
  intro pose held
  generalize robot'.filter = left at wrote held
  cases wrote with
  | quiet _ => exact kept.reference pose held
  | heldCartesian _ _ =>
      cases held
      exact sane
  | heldJoint _ _ =>
      cases held
      exact sane
  | liveCartesian _ _ _ passed _ found =>
      obtain ⟨near, _, _, anchored⟩ :=
        filterCartesian_boxed kept.profile kept.step kept.reference sane passed found
      rw [anchored, Option.some.injEq] at held
      exact held ▸ near
  | liveJoint _ _ _ passed _ _ =>
      rw [(filterJoint_keeps passed).2.2] at held
      exact kept.reference pose held

/-- A command that goes nowhere but to poses in the box, and to `here` only when `still`. -/
structure BackendCall.Directs (outer : SafetyProfile ℝ) (still : Prop) (here : Vec3 ℝ)
    (call : BackendCall ℝ) : Prop where
  boxed : ∀ pose, call.setpoint = some (.cartesian pose) → outer.accepts pose.pos
  held : still → ∀ pose, call.setpoint = some (.cartesian pose) → pose.pos = here

/-- The simulator is in the box, and at `here` when `still`. -/
structure FakeBackend.Confined (outer : SafetyProfile ℝ) (still : Prop) (here : Vec3 ℝ)
    (g : FakeBackend ℝ) : Prop where
  lower : 0 ≤ g.alpha
  upper : g.alpha ≤ 1
  boxed : g.InBox outer
  rests : still → g.pose.pos = here

variable {still : Prop} {here : Vec3 ℝ}

theorem BackendCall.directs_of_mute {call : BackendCall ℝ} (mute : call.setpoint = none) :
    call.Directs outer still here := by
  constructor
  · intro pose carries
    rw [mute] at carries
    cases carries
  · intro _ pose carries
    rw [mute] at carries
    cases carries

theorem partway_self (a : Vec3 ℝ) (t : ℝ) : partway a a t = a := by
  have zero (c : ℝ) : c + (c - c) * t = c := by rw [sub_self, zero_mul, add_zero]
  exact Vec3.ext (zero a.x) (zero a.y) (zero a.z)

theorem FakeBackend.Confined.serves {call : BackendCall ℝ} (directs : call.Directs outer still here)
    (confined : g.Confined outer still here) : (g.serve call).2.Confined outer still here := by
  by_cases unstreamed : (Op.write call).IsStreamless
  · have unmoved : g.Unmoved (g.serve call).2 := after_unmoved unstreamed g (.ok ())
    exact ⟨unmoved.alpha ▸ confined.lower, unmoved.alpha ▸ confined.upper,
      ⟨unmoved.pose ▸ confined.boxed.inside, unmoved.log ▸ confined.boxed.streamed⟩,
      fun stands => unmoved.pose ▸ confined.rests stands⟩
  · cases call with
    | streamCartesian pose wrench =>
        obtain ⟨alpha, boxed⟩ :=
          confined.boxed.streaming confined.lower confined.upper (directs.boxed pose rfl)
        refine ⟨alpha.symm ▸ confined.lower, alpha.symm ▸ confined.upper, boxed, ?_⟩
        intro stands
        change (g.streamCartesian pose).2.pose.pos = here
        unfold FakeBackend.streamCartesian
        split
        · change (g.tracked pose).pos = here
          rw [tracked_partway, confined.rests stands, directs.held stands pose rfl, partway_self]
        · exact confined.rests stands
    | _ => exact absurd trivial unstreamed

theorem FakeBackend.Confined.served {calls : List (BackendCall ℝ)}
    (directed : ∀ call ∈ calls, call.Directs outer still here)
    (confined : g.Confined outer still here) :
    ∀ pre, pre <+: calls → (g.served pre).Confined outer still here :=
  served_keeps (fun call member _ inside => inside.serves (directed call member)) confined

theorem BoxKept.confined {robot : Robot ℝ} {g' : FakeBackend ℝ} (kept : BoxKept outer robot g)
    (inside : g'.Confined outer still here) : BoxKept outer robot g' :=
  ⟨kept.profile, kept.step, kept.reference, inside.lower, inside.upper, inside.boxed⟩

theorem Tick.directs {t : Tick ℝ} (fits : ∀ p ∈ t.input.published, p.Fits outer)
    (kept : BoxKept outer t.before.robot g) {now : ℝ}
    (read : t.input.state = .ok (g.readState now)) (confined : g.Confined outer still here)
    (unfollowed : still → t.follows = false) :
    ∀ call ∈ t.result.calls, call.Directs outer still here := by
  intro call member
  rcases t.result_issues call member with mute | ⟨snap, loop, at_write, may⟩
  · exact BackendCall.directs_of_mute mute
  · have found := t.atWrite_keeps (I := fun robot => BoxKept outer robot g)
      (fun p published loop holds => holds.publish (fits p published)) kept at_write
    have measured : snap.state = g.readState now :=
      Except.ok.inj ((t.atWrite_state at_write).symm.trans read)
    have sane : outer.accepts snap.state.tcpPose.pos := measured ▸ confined.boxed.inside
    constructor
    · intro pose carries
      obtain ⟨filter', wrote⟩ := may _ carries
      exact wrote.boxed found.profile found.step found.reference sane
    · intro stands pose carries
      obtain ⟨filter', wrote⟩ := may _ carries
      have unmet := unfollowed stands
      unfold Tick.follows at unmet
      rw [at_write] at unmet
      cases wrote with
      | heldCartesian _ _ =>
          rw [measured]
          exact confined.rests stands
      | liveCartesian follows _ _ _ _ _ =>
          cases follows.symm.trans unmet

theorem Tick.result_boxKept {t : Tick ℝ} (fits : ∀ p ∈ t.input.published, p.Fits outer)
    (kept : BoxKept outer t.before.robot g) {now : ℝ}
    (read : t.input.state = .ok (g.readState now)) (goesOn : t.result.loop.running = true) :
    BoxKept outer t.result.loop.robot g := by
  rcases t.result_spec with ⟨_, ended⟩ | ⟨snap, loop, at_write, wrote⟩
  · rw [ended] at goesOn
    cases goesOn
  · have found := t.atWrite_keeps (I := fun robot => BoxKept outer robot g)
      (fun p published loop holds => holds.publish (fits p published)) kept at_write
    have measured : snap.state = g.readState now :=
      Except.ok.inj ((t.atWrite_state at_write).symm.trans read)
    have sane : outer.accepts snap.state.tcpPose.pos := measured ▸ kept.boxed.inside
    exact found.wrote sane wrote

theorem OnFake.directs {inputs : List (TickInput ℝ)}
    (fits : ∀ input ∈ inputs, ∀ p ∈ input.published, p.Fits outer) :
    ∀ {loop : ReactiveServoLoop ℝ} {g : FakeBackend ℝ} {commands : List (BackendCall ℝ)},
      OnFake (fun call => call.setpoint = none) g (loop.runInner inputs) commands →
      (loop.running = true → BoxKept outer loop.robot g) → g.Confined outer still here →
      (still → ∀ t ∈ loop.runInner inputs, t.follows = false) →
      ∀ call ∈ commands, call.Directs outer still here := by
  induction inputs with
  | nil =>
      intro loop g commands ran _ _ _ call member
      cases ran with
      | done theirs => exact BackendCall.directs_of_mute (theirs call member)
  | cons input rest ih =>
      intro loop g commands ran kept confined unfollowed
      rw [List.forall_mem_cons] at fits
      unfold ReactiveServoLoop.runInner at ran unfollowed
      split at ran
      · rename_i running
        rw [if_pos running] at unfollowed
        cases ran with
        | pass now theirs read flag heard onward =>
            rename_i before between later
            have foreign : ∀ call ∈ before ++ between, call.Directs outer still here :=
              fun call member => BackendCall.directs_of_mute (theirs call member)
            have reading := confined.served foreign before (List.prefix_append _ _)
            have direct := Tick.directs (t := ⟨loop, input⟩) fits.1
              ((kept running).confined reading) read reading
              (fun stands => unfollowed stands _ List.mem_cons_self)
            have all : ∀ call ∈ before ++ between ++ (Tick.mk loop input).result.calls,
                call.Directs outer still here := by
              intro call member
              rcases List.mem_append.mp member with early | own
              · exact foreign call early
              · exact direct call own
            have left := confined.served all _ List.prefix_rfl
            have after := ih fits.2 onward (fun goesOn =>
              (Tick.result_boxKept fits.1 ((kept running).confined reading) read goesOn).confined
                left) left
              (fun stands t member => unfollowed stands t (List.mem_cons_of_mem _ member))
            intro call member
            rcases List.mem_append.mp member with now | further
            · exact all call now
            · exact after call further
      · cases ran with
        | done theirs =>
            intro call member
            exact BackendCall.directs_of_mute (theirs call member)

/-- However the passes, the publications and the other threads' commands fall, the simulated
TCP and every setpoint stay in the box at all times, and over passes none of which follows
its target the TCP does not move. -/
theorem loop_keeps_fake_in_box {loop : ReactiveServoLoop ℝ} (kept : BoxKept outer loop.robot g)
    {inputs : List (TickInput ℝ)}
    (fits : ∀ input ∈ inputs, ∀ p ∈ input.published, p.Fits outer)
    {commands : List (BackendCall ℝ)}
    (ran : OnFake (fun call => call.setpoint = none) g (loop.runInner inputs) commands) :
    ∀ pre, pre <+: commands → (g.served pre).InBox outer ∧
      ((∀ t ∈ loop.runInner inputs, t.follows = false) → (g.served pre).pose.pos = g.pose.pos) := by
  intro pre part
  have confined : g.Confined outer (∀ t ∈ loop.runInner inputs, t.follows = false) g.pose.pos :=
    ⟨kept.lower, kept.upper, kept.boxed, fun _ => rfl⟩
  have directed := ran.directs fits (fun _ => kept) confined id
  have inside := confined.served directed pre part
  exact ⟨inside.boxed, inside.rests⟩

end Box

theorem Tick.follows_result {K : Type} [Scalar K] {t : Tick K} (accepting : t.input.Accepting)
    {snap : Snapshot K} {loop : ReactiveServoLoop K} (at_write : t.atWrite = some (snap, loop))
    (follows : snap.follows loop.filter = true) (space : snap.cartesian = true)
    {target pose : Pose K} (published : snap.targetPose = some target)
    (empty : snap.gripper = none) (cartesian : snap.state.controlMode.isCartesian = true)
    {sr : SafetyResult K} {filter' : SafetyFilter K}
    (passed : loop.filter.filterCartesian target snap.state = (sr, filter'))
    (ok : sr.ok = true) (found : sr.pose = some pose) :
    t.result = { loop := ((loop.withFilter filter').reportResult sr).diagnose t.input
                 calls := [.streamCartesian pose none]
                 raised := none } := by
  obtain ⟨healthy, young, recent⟩ := snap.follows_parts follows
  have section_eq : writeSection t.input snap loop.robot { loop := loop } = (.ok (),
      { loop := (loop.withFilter filter').reportResult sr
        calls := [.streamCartesian pose none] }) := by
    unfold writeSection
    simp only [healthy, young, recent, space, published]
    change liveCartesian t.input snap.state loop.robot target snap.gripper _ = _
    unfold liveCartesian ensureStreamMode
    rw [passed]
    dsimp only
    rw [update_bind, ok, found, empty, if_pos rfl, if_pos cartesian]
    dsimp only
    rw [LoopM.bind_apply]
    change (do command t.input (.streamCartesian pose none); _) _ = _
    rw [LoopM.bind_apply, command_accepted accepting]
    rfl
  unfold atWrite at at_write
  unfold result ReactiveServoLoop.tick
  cases arrived : t.before.arrive t.input with
  | mk out here =>
      rw [arrived] at at_write
      cases out with
      | error e => cases at_write
      | ok snap' =>
          cases at_write
          dsimp only
          rw [section_eq]

theorem FakeBackend.acknowledges_stream {K : Type} [Scalar K] {g : FakeBackend K}
    {input : TickInput K} (accepting : input.Accepting) (cartesian : g.mode.isCartesian = true)
    (pose : Pose K) : g.Acknowledges input.ack [.streamCartesian pose none] := by
  intro before call after split
  rcases List.append_eq_singleton_iff.mp split.symm with ⟨empty, only⟩ | ⟨_, none⟩
  · rw [empty, accepting call]
    cases only
    change none = raisedBy (g.serve (.streamCartesian pose none)).1
    rw [FakeBackend.serve_streamCartesian cartesian]
    rfl
  · cases none

/-- A pass that streams one pose and nothing else, in a Cartesian mode, and the passes after. -/
theorem OnFake.stream {K : Type} [Scalar K] {foreign : BackendCall K → Prop} {t : Tick K}
    {g : FakeBackend K} {now : K} (read : t.input.state = .ok (g.readState now))
    (flag : t.input.inFault = .ok g.fault) (accepting : t.input.Accepting)
    (cartesian : g.mode.isCartesian = true) {pose : Pose K}
    (calls : t.result.calls = [.streamCartesian pose none]) {rest : List (Tick K)}
    {later : List (BackendCall K)}
    (onward : OnFake foreign (g.served [.streamCartesian pose none]) rest later) :
    OnFake foreign g (t :: rest) (.streamCartesian pose none :: later) := by
  have ran : OnFake foreign g (t :: rest) ([] ++ [] ++ t.result.calls ++ later) := by
    apply OnFake.pass now (fun _ none => absurd none List.not_mem_nil) read flag
    · rw [calls]
      exact FakeBackend.acknowledges_stream accepting cartesian pose
    · rw [calls]
      exact onward
  rw [calls] at ran
  exact ran

noncomputable def cruisingFake : FakeBackend ℝ :=
  { tableFake with mode := .nrtCartesianMotionForce }

noncomputable def hop : Pose ℝ := ⟨⟨1 / 2, 0, 3 / 10 + 1 / 4 / 100⟩, 1⟩

noncomputable def hoppingLoop : ReactiveServoLoop ℝ :=
  { ReactiveServoLoop.init tabletopRobot with targetPose := some hop, running := true }

noncomputable def hoppingPass : TickInput ℝ :=
  .publishing (cruisingFake.readState 0)
    (.cartesianTarget [1 / 2, 0, 3 / 10 + 1 / 4 / 100, 1, 0, 0, 0] none 0)

theorem hop_contained : tabletop.contains hop.pos := by
  intro axis
  cases axis <;> norm_num [SafetyProfile.interval, axisValue, tabletop, hop]

theorem cruisingFake_light (now : ℝ) :
    exceeds (cruisingFake.readState now).wrench (none.getD tabletop.maxContactWrench) = false := by
  exact poised_light

theorem hopping_run (foreign : BackendCall ℝ → Prop) : ∃ pose,
    OnFake foreign cruisingFake (hoppingLoop.runInner [hoppingPass])
      [.streamCartesian pose none] := by
  have boxed : limitWorkspace hoppingLoop.filter.p
      { target := hop, clipped := false, reasons := [] } =
      some { target := hop, clipped := false, reasons := [] } :=
    limitWorkspace_of_contains hop_contained
  have passed := SafetyFilter.filterCartesian_of_limited (f := hoppingLoop.filter)
    (cruisingFake_light 0) boxed
  dsimp only at passed
  obtain ⟨pose, calls⟩ : ∃ pose, (Tick.mk hoppingLoop hoppingPass).result.calls =
      [.streamCartesian pose none] :=
    ⟨_, congrArg TickResult.calls (Tick.follows_result (fun _ => rfl) rfl
      (follows_of_fresh rfl rfl (sub_self 0)) rfl rfl rfl rfl passed rfl rfl)⟩
  exact ⟨pose, .stream (t := ⟨hoppingLoop, hoppingPass⟩) rfl rfl (fun _ => rfl) rfl calls
    (.done fun _ none => absurd none List.not_mem_nil)⟩

theorem loop_keeps_fake_in_box_hopping : ∃ pose,
    OnFake (fun call => call.setpoint = none) cruisingFake (hoppingLoop.runInner [hoppingPass])
      [.streamCartesian pose none] ∧
      (cruisingFake.served [.streamCartesian pose none]).InBox tabletop := by
  obtain ⟨pose, ran⟩ := hopping_run fun call => call.setpoint = none
  have kept : BoxKept tabletop hoppingLoop.robot cruisingFake :=
    tableFake_boxKept.unmoved ⟨rfl, rfl, rfl, rfl⟩
  have fits : ∀ input ∈ [hoppingPass], ∀ p ∈ input.published, p.Fits tabletop := by
    intro input member p published
    rw [List.mem_singleton.mp member] at published
    rw [List.mem_singleton.mp published]
    trivial
  exact ⟨pose, ran, (loop_keeps_fake_in_box kept fits ran _ List.prefix_rfl).1⟩

end FlexivControl
