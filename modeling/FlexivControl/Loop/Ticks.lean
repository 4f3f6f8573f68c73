/-
What one pass of the loop can stream, and what it leaves in the filter.
-/

import FlexivControl.Loop.ControlLoop
import FlexivControl.Filter.Steps

namespace FlexivControl

variable {K : Type} [Scalar K]

def streamedIn (calls : List (BackendCall K)) : Option (Setpoint K) :=
  calls.findSome? BackendCall.setpoint

theorem streamedIn_append (xs ys : List (BackendCall K)) :
    streamedIn (xs ++ ys) = (streamedIn xs).or (streamedIn ys) :=
  List.findSome?_append

/-- The setpoint a pass streamed, if it streamed one. -/
def Tick.streamed (t : Tick K) : Option (Setpoint K) := streamedIn t.result.calls

def Tick.atWrite (t : Tick K) : Option (Snapshot K × ReactiveServoLoop K) :=
  match t.before.arrive t.input with
  | (.error _, _) => none
  | (.ok snap, loop) => some (snap, loop)

/-- The state measured on this pass. -/
def Tick.measured (t : Tick K) : Option (RobotState K) := t.atWrite.map (·.1.state)

/-- The conditions under which the write section holds position. -/
def Snapshot.holds (snap : Snapshot K) (filter : SafetyFilter K) : Bool :=
  !snap.faulted && (filter.checkStateAge snap.stateAgeMs).ok &&
    (snap.stale filter.p && filter.p.stopOnStaleCommand) && !snap.heldTooLong filter.p

/-- The conditions under which it follows the published target. -/
def Snapshot.follows (snap : Snapshot K) (filter : SafetyFilter K) : Bool :=
  !snap.faulted && (filter.checkStateAge snap.stateAgeMs).ok &&
    !(snap.stale filter.p && filter.p.stopOnStaleCommand)

def Tick.holds (t : Tick K) : Bool :=
  match t.atWrite with
  | none => false
  | some (snap, loop) => snap.holds loop.filter

/-- A setpoint streamed to follow a target, not to hold. -/
def Tick.live (t : Tick K) : Option (Setpoint K) := if t.holds then none else t.streamed

theorem Snapshot.follows_parts {snap : Snapshot K} {filter : SafetyFilter K}
    (follows : snap.follows filter = true) :
    snap.faulted = false ∧ (filter.checkStateAge snap.stateAgeMs).ok = true ∧
      (snap.stale filter.p && filter.p.stopOnStaleCommand) = false := by
  simpa only [Snapshot.follows, Bool.and_eq_true, Bool.not_eq_true', and_assoc] using follows

theorem Snapshot.holds_of_follows {snap : Snapshot K} {filter : SafetyFilter K}
    (follows : snap.follows filter = true) : snap.holds filter = false := by
  obtain ⟨_, _, fresh⟩ := follows_parts follows
  unfold holds
  rw [fresh, Bool.and_false, Bool.false_and]

theorem LoopM.bind_apply {α β : Type} (x : LoopM K α) (f : α → LoopM K β) (pass : Pass K) :
    (x >>= f) pass = match x pass with
      | (.ok a, pass') => f a pass'
      | (.error e, pass') => (.error e, pass') := by
  change (ExceptT.bindCont f (x pass).1 : StateM (Pass K) (Except Exc β)) (x pass).2 = _
  cases x pass with
  | mk out pass' => cases out <;> rfl

def Silent {α : Type} (x : LoopM K α) : Prop :=
  ∀ pass, ∃ calls, (x pass).2.calls = pass.calls ++ calls ∧ streamedIn calls = none ∧
    (x pass).2.loop.robot = pass.loop.robot

theorem silent_pure {α : Type} (a : α) : Silent (pure a : LoopM K α) :=
  fun _ => ⟨[], (List.append_nil _).symm, rfl, rfl⟩

theorem silent_command {input : TickInput K} {call : BackendCall K}
    (mute : call.setpoint = none) : Silent (command input call) := by
  have quiet : streamedIn [call] = none := by
    unfold streamedIn
    rw [List.findSome?_cons, mute]
    rfl
  refine fun _ => ⟨[call], ?_, quiet, ?_⟩
  · unfold command
    dsimp only
    split <;> rfl
  · unfold command
    dsimp only
    split <;> rfl

theorem silent_update {f : ReactiveServoLoop K → ReactiveServoLoop K}
    (kept : ∀ loop, (f loop).robot = loop.robot) : Silent (update f) :=
  fun pass => ⟨[], (List.append_nil _).symm, rfl, kept pass.loop⟩

theorem Silent.bind {α β : Type} {x : LoopM K α} {f : α → LoopM K β} (first : Silent x)
    (rest : ∀ a, Silent (f a)) : Silent (x >>= f) := by
  intro pass
  obtain ⟨calls, made, mute, robot⟩ := first pass
  rw [LoopM.bind_apply]
  cases ran : x pass with
  | mk out pass' =>
      rw [ran] at made robot
      cases out with
      | error e => exact ⟨calls, made, mute, robot⟩
      | ok a =>
          obtain ⟨calls', made', mute', robot'⟩ := rest a pass'
          refine ⟨calls ++ calls', ?_, ?_, robot'.trans robot⟩
          · dsimp only at made' ⊢
            rw [made', made, List.append_assoc]
          · rw [streamedIn_append, mute, mute']
            rfl

theorem silent_protectiveStop (input : TickInput K) (status : SafetyStatus)
    (reason : StopReason) : Silent (protectiveStop input status reason) :=
  (silent_command rfl).bind fun _ => silent_update fun _ => rfl

theorem silent_ensureStreamMode (input : TickInput K) (state : RobotState K) (robot : Robot K)
    (cartesian : Bool) : Silent (ensureStreamMode input state robot cartesian) := by
  unfold ensureStreamMode
  split
  · split
    · exact silent_pure ()
    · exact silent_command rfl
  · split
    · exact silent_command rfl
    · exact silent_pure ()

theorem silent_sendGripper (input : TickInput K) (gripper : Option (GripperCommand K)) :
    Silent (sendGripper input gripper) := by
  unfold sendGripper
  split
  · exact silent_pure ()
  · exact (silent_command rfl).bind fun _ => silent_update fun _ => rfl

theorem silent_reportStreamed (sr : SafetyResult K) : Silent (reportStreamed sr) :=
  silent_update fun _ => rfl

theorem stream_between (input : TickInput K) {call : BackendCall K} {sp : Setpoint K}
    (carries : call.setpoint = some sp) {x y : LoopM K Unit} (before : Silent x) (after : Silent y)
    (pass : Pass K) (fresh : streamedIn pass.calls = none) :
    let out := (do x; command input call; y) pass
    out.2.loop.robot = pass.loop.robot ∧
      ((streamedIn out.2.calls = none ∧ ∃ e, out.1 = .error e) ∨
        streamedIn out.2.calls = some sp) := by
  obtain ⟨calls, made, mute, robot⟩ := before pass
  dsimp only
  rw [LoopM.bind_apply]
  cases ran : x pass with
  | mk out pass' =>
      rw [ran] at made robot
      dsimp only at made robot
      have quiet : streamedIn pass'.calls = none := by
        rw [made, streamedIn_append, fresh, mute]
        rfl
      cases out with
      | error e => exact ⟨robot, Or.inl ⟨quiet, e, rfl⟩⟩
      | ok _ =>
          dsimp only
          rw [LoopM.bind_apply]
          have sent : streamedIn (pass'.calls ++ [call]) = some sp := by
            rw [streamedIn_append, quiet]
            unfold streamedIn
            rw [List.findSome?_cons, carries]
            rfl
          unfold command
          dsimp only
          cases input.ack call with
          | some e => exact ⟨robot, Or.inr sent⟩
          | none =>
              obtain ⟨calls', made', _, robot'⟩ :=
                after { pass' with calls := pass'.calls ++ [call] }
              refine ⟨robot'.trans robot, Or.inr ?_⟩
              dsimp only at made' ⊢
              rw [made', streamedIn_append, sent]
              rfl

/-! ### The write section -/

/-- The ways a write section can go when it does not raise before streaming: what it
streams, and the filter it leaves. -/
inductive Wrote (snap : Snapshot K) (filter : SafetyFilter K) :
    Option (Setpoint K) → SafetyFilter K → Prop where
  | quiet (idle : snap.holds filter = false) : Wrote snap filter none filter
  | heldCartesian (holds : snap.holds filter = true) (space : snap.cartesian = true) :
      Wrote snap filter (some (.cartesian snap.state.tcpPose)) (filter.reset (some snap.state))
  | heldJoint (holds : snap.holds filter = true) (space : snap.cartesian = false) :
      Wrote snap filter (some (.joint snap.state.q)) (filter.reset (some snap.state))
  | liveCartesian {target pose : Pose K} {sr : SafetyResult K} {filter' : SafetyFilter K}
      (follows : snap.follows filter = true) (space : snap.cartesian = true)
      (published : snap.targetPose = some target)
      (passed : filter.filterCartesian target snap.state = (sr, filter'))
      (ok : sr.ok = true) (found : sr.pose = some pose) :
      Wrote snap filter (some (.cartesian pose)) filter'
  | liveJoint {target q : List K} {sr : SafetyResult K} {filter' : SafetyFilter K}
      (follows : snap.follows filter = true) (space : snap.cartesian = false)
      (published : snap.targetQ = some target)
      (passed : filter.filterJoint target snap.state = .ok (sr, filter'))
      (ok : sr.ok = true) (found : sr.q = some q) :
      Wrote snap filter (some (.joint q)) filter'

def SectionSpec (snap : Snapshot K) (filter : SafetyFilter K)
    (out : Except Exc Unit × Pass K) : Prop :=
  (streamedIn out.2.calls = none ∧ ∃ e, out.1 = .error e) ∨
    Wrote snap filter (streamedIn out.2.calls) out.2.loop.filter

theorem Silent.quiet {snap : Snapshot K} {filter : SafetyFilter K} {x : LoopM K Unit} {pass : Pass K}
    (silent : Silent x) (idle : snap.holds filter = false) (fresh : streamedIn pass.calls = none)
    (same : pass.loop.filter = filter) : SectionSpec snap filter (x pass) := by
  obtain ⟨calls, made, mute, robot⟩ := silent pass
  have none : streamedIn (x pass).2.calls = none := by
    rw [made, streamedIn_append, fresh, mute]
    rfl
  have kept : (x pass).2.loop.filter = filter := by
    rw [ReactiveServoLoop.filter, robot]
    exact same
  right
  rw [none, kept]
  exact .quiet idle

theorem update_bind {α : Type} (f : ReactiveServoLoop K → ReactiveServoLoop K)
    (rest : LoopM K α) (pass : Pass K) :
    (do update f; rest) pass = rest { pass with loop := f pass.loop } := rfl

theorem stream_last {input : TickInput K} {call : BackendCall K} {sp : Setpoint K}
    (carries : call.setpoint = some sp) {x : LoopM K Unit} (before : Silent x)
    (pass : Pass K) (fresh : streamedIn pass.calls = none) :
    let out := (do x; command input call) pass
    out.2.loop.robot = pass.loop.robot ∧
      ((streamedIn out.2.calls = none ∧ ∃ e, out.1 = .error e) ∨
        streamedIn out.2.calls = some sp) := by
  have spec := stream_between input carries before (silent_pure ()) pass fresh
  simp only [bind_pure_unit] at spec
  exact spec

theorem SectionSpec.of_stream {snap : Snapshot K} {filter filter' : SafetyFilter K}
    {sp : Setpoint K} {robot : Robot K} {out : Except Exc Unit × Pass K}
    (spec : out.2.loop.robot = robot ∧
      ((streamedIn out.2.calls = none ∧ ∃ e, out.1 = .error e) ∨
        streamedIn out.2.calls = some sp))
    (same : robot.filter = filter') (wrote : Wrote snap filter (some sp) filter') :
    SectionSpec snap filter out := by
  obtain ⟨kept, cut | sent⟩ := spec
  · exact Or.inl cut
  · right
    rw [sent, ReactiveServoLoop.filter, kept, same]
    exact wrote

theorem holdPosition_spec {input : TickInput K} {snap : Snapshot K} {filter : SafetyFilter K}
    {robot : Robot K} {pass : Pass K} (holds : snap.holds filter = true)
    (same : pass.loop.filter = filter) (fresh : streamedIn pass.calls = none) :
    SectionSpec snap filter (holdPosition input snap.state robot snap.cartesian pass) := by
  unfold holdPosition
  rw [update_bind, update_bind]
  have mode := silent_ensureStreamMode input snap.state robot snap.cartesian
  have anchored : pass.loop.filter.reset (some snap.state) = filter.reset (some snap.state) := by
    rw [same]
  cases space : snap.cartesian with
  | true =>
      rw [space] at mode
      exact .of_stream (stream_last rfl mode _ fresh) anchored (.heldCartesian holds space)
  | false =>
      rw [space] at mode
      exact .of_stream (stream_last rfl mode _ fresh) anchored (.heldJoint holds space)

theorem liveCartesian_spec {input : TickInput K} {snap : Snapshot K} {robot : Robot K}
    {pass : Pass K} {target : Pose K} (follows : snap.follows robot.filter = true)
    (space : snap.cartesian = true) (published : snap.targetPose = some target)
    (fresh : streamedIn pass.calls = none) :
    SectionSpec snap robot.filter
      (liveCartesian input snap.state robot target snap.gripper pass) := by
  unfold liveCartesian
  rcases robot.filter.filterCartesian_cases target snap.state none with
    ⟨reason, rejected⟩ | ⟨draft, _, _, passed⟩
  · rw [rejected]
    dsimp only
    rw [update_bind]
    exact (silent_protectiveStop input .stopped reason).quiet (snap.holds_of_follows follows) fresh rfl
  · dsimp only at passed
    rw [passed]
    dsimp only
    rw [update_bind]
    have mode := silent_ensureStreamMode input snap.state robot true
    have rest (sr : SafetyResult K) : Silent (do sendGripper input snap.gripper; reportStreamed sr) :=
      (silent_sendGripper input snap.gripper).bind fun _ => silent_reportStreamed sr
    exact .of_stream (stream_between input rfl mode (rest _) _ fresh) rfl
      (.liveCartesian follows space published passed rfl rfl)

theorem liveJoint_spec {input : TickInput K} {snap : Snapshot K} {robot : Robot K}
    {pass : Pass K} {target : List K} (follows : snap.follows robot.filter = true)
    (space : snap.cartesian = false) (published : snap.targetQ = some target)
    (fresh : streamedIn pass.calls = none) :
    SectionSpec snap robot.filter (liveJoint input snap.state robot target pass) := by
  unfold liveJoint
  cases filtered : robot.filter.filterJoint target snap.state with
  | error e => exact Or.inl ⟨fresh, e, rfl⟩
  | ok out =>
      obtain ⟨sr, filter'⟩ := out
      obtain ⟨limited, step, q, _, _, ok, found, _, _⟩ := SafetyFilter.filterJoint_ok filtered
      dsimp only
      rw [update_bind, ok, found]
      have mode := silent_ensureStreamMode input snap.state robot false
      exact .of_stream (stream_between input rfl mode (silent_reportStreamed sr) _ fresh) rfl
        (.liveJoint follows space published filtered ok found)

theorem writeSection_spec (input : TickInput K) (snap : Snapshot K) {robot : Robot K}
    {pass : Pass K} (same : pass.loop.filter = robot.filter)
    (fresh : streamedIn pass.calls = none) :
    SectionSpec snap robot.filter (writeSection input snap robot pass) := by
  unfold writeSection
  cases faulted : snap.faulted with
  | true =>
      have idle : snap.holds robot.filter = false := by
        simp only [Snapshot.holds, faulted]
        rfl
      exact (silent_protectiveStop input _ _).quiet idle fresh same
  | false =>
      cases young : (robot.filter.checkStateAge snap.stateAgeMs).ok with
      | false =>
          have idle : snap.holds robot.filter = false := by
            simp only [Snapshot.holds, young, Bool.and_false, Bool.false_and]
          exact (silent_protectiveStop input _ _).quiet idle fresh same
      | true =>
          cases stale : snap.stale robot.filter.p && robot.filter.p.stopOnStaleCommand with
          | true =>
              cases tooLong : snap.heldTooLong robot.filter.p with
              | true =>
                  have idle : snap.holds robot.filter = false := by
                    simp only [Snapshot.holds, tooLong, Bool.not_true, Bool.and_false]
                  exact (silent_protectiveStop input _ _).quiet idle fresh same
              | false =>
                  have holds : snap.holds robot.filter = true := by
                    simp only [Snapshot.holds, faulted, young, stale, tooLong]
                    rfl
                  exact holdPosition_spec holds same fresh
          | false =>
              have follows : snap.follows robot.filter = true := by
                simp only [Snapshot.follows, faulted, young, stale]
                rfl
              have idle : SectionSpec snap robot.filter ((pure () : LoopM K Unit) pass) :=
                (silent_pure ()).quiet (snap.holds_of_follows follows) fresh same
              cases space : snap.cartesian with
              | true =>
                  cases published : snap.targetPose with
                  | none => exact idle
                  | some target => exact liveCartesian_spec follows space published fresh
              | false =>
                  cases published : snap.targetQ with
                  | none => exact idle
                  | some target => exact liveJoint_spec follows space published fresh

def KeepsFrame {α : Type} (x : LoopM K α) : Prop :=
  ∀ pass, ∃ robot stats gripper, (x pass).2.loop =
    { pass.loop with robot := robot, stats := stats, targetGripper := gripper }

theorem keepsFrame_pure {α : Type} (a : α) : KeepsFrame (pure a : LoopM K α) :=
  fun pass => ⟨pass.loop.robot, pass.loop.stats, pass.loop.targetGripper, rfl⟩

theorem keepsFrame_command (input : TickInput K) (call : BackendCall K) :
    KeepsFrame (command input call) := by
  intro pass
  refine ⟨pass.loop.robot, pass.loop.stats, pass.loop.targetGripper, ?_⟩
  unfold command
  dsimp only
  split <;> rfl

theorem keepsFrame_update {f : ReactiveServoLoop K → ReactiveServoLoop K}
    (frame : ∀ loop, ∃ robot stats gripper, f loop =
      { loop with robot := robot, stats := stats, targetGripper := gripper }) :
    KeepsFrame (update f) := fun pass => frame pass.loop

theorem keepsFrame_withFilter (filter : SafetyFilter K) :
    KeepsFrame (update fun loop : ReactiveServoLoop K => loop.withFilter filter) :=
  keepsFrame_update fun loop => ⟨_, loop.stats, loop.targetGripper, rfl⟩

theorem keepsFrame_report (status : SafetyStatus) (reason : StopReason) :
    KeepsFrame (update fun loop : ReactiveServoLoop K => loop.report status reason) :=
  keepsFrame_update fun loop => ⟨loop.robot, _, loop.targetGripper, rfl⟩

theorem keepsFrame_reportStreamed (sr : SafetyResult K) : KeepsFrame (reportStreamed sr) :=
  keepsFrame_update fun loop => ⟨loop.robot, _, loop.targetGripper, rfl⟩

theorem KeepsFrame.bind {α β : Type} {x : LoopM K α} {f : α → LoopM K β} (first : KeepsFrame x)
    (rest : ∀ a, KeepsFrame (f a)) : KeepsFrame (x >>= f) := by
  intro pass
  obtain ⟨robot, stats, gripper, before⟩ := first pass
  rw [LoopM.bind_apply]
  cases ran : x pass with
  | mk out pass' =>
      rw [ran] at before
      dsimp only at before
      cases out with
      | error e => exact ⟨robot, stats, gripper, before⟩
      | ok a =>
          obtain ⟨robot', stats', gripper', after⟩ := rest a pass'
          refine ⟨robot', stats', gripper', ?_⟩
          rw [after, before]

theorem keepsFrame_protectiveStop (input : TickInput K) (status : SafetyStatus)
    (reason : StopReason) : KeepsFrame (protectiveStop input status reason) :=
  (keepsFrame_command input .stop).bind fun _ => keepsFrame_report status reason

theorem keepsFrame_ensureStreamMode (input : TickInput K) (state : RobotState K) (robot : Robot K)
    (cartesian : Bool) : KeepsFrame (ensureStreamMode input state robot cartesian) := by
  unfold ensureStreamMode
  split
  · split
    · exact keepsFrame_pure ()
    · exact keepsFrame_command _ _
  · split
    · exact keepsFrame_command _ _
    · exact keepsFrame_pure ()

theorem keepsFrame_sendGripper (input : TickInput K) (gripper : Option (GripperCommand K)) :
    KeepsFrame (sendGripper input gripper) := by
  unfold sendGripper
  split
  · exact keepsFrame_pure ()
  · apply (keepsFrame_command _ _).bind
    intro _
    exact keepsFrame_update fun loop => ⟨loop.robot, loop.stats, none, rfl⟩

theorem keepsFrame_holdPosition (input : TickInput K) (state : RobotState K) (robot : Robot K)
    (cartesian : Bool) : KeepsFrame (holdPosition input state robot cartesian) := by
  unfold holdPosition
  apply (keepsFrame_update fun loop => ⟨loop.robot, _, loop.targetGripper, rfl⟩).bind
  intro _
  apply (keepsFrame_update fun loop => ⟨_, loop.stats, loop.targetGripper, rfl⟩).bind
  intro _
  apply (keepsFrame_ensureStreamMode input state robot cartesian).bind
  intro _
  split
  · exact keepsFrame_command _ _
  · exact keepsFrame_command _ _

theorem keepsFrame_liveCartesian (input : TickInput K) (state : RobotState K) (robot : Robot K)
    (target : Pose K) (gripper : Option (GripperCommand K)) :
    KeepsFrame (liveCartesian input state robot target gripper) := by
  unfold liveCartesian
  cases robot.filter.filterCartesian target state with
  | mk sr filter =>
      dsimp only
      apply (keepsFrame_withFilter filter).bind
      intro _
      split
      · apply (keepsFrame_ensureStreamMode input state robot true).bind
        intro _
        apply (keepsFrame_command _ _).bind
        intro _
        exact (keepsFrame_sendGripper input gripper).bind fun _ => keepsFrame_reportStreamed sr
      · exact keepsFrame_protectiveStop _ _ _

theorem keepsFrame_liveJoint (input : TickInput K) (state : RobotState K) (robot : Robot K)
    (target : List K) : KeepsFrame (liveJoint input state robot target) := by
  unfold liveJoint
  split
  · exact fun pass => ⟨pass.loop.robot, pass.loop.stats, pass.loop.targetGripper, rfl⟩
  · apply (keepsFrame_withFilter _).bind
    intro _
    split
    · apply (keepsFrame_ensureStreamMode input state robot false).bind
      intro _
      exact (keepsFrame_command _ _).bind fun _ => keepsFrame_reportStreamed _
    · exact keepsFrame_protectiveStop _ _ _

theorem keepsFrame_writeSection (input : TickInput K) (snap : Snapshot K) (robot : Robot K) :
    KeepsFrame (writeSection input snap robot) := by
  unfold writeSection
  dsimp only
  split
  · exact keepsFrame_protectiveStop _ _ _
  · split
    · exact keepsFrame_protectiveStop _ _ _
    · split
      · split
        · exact keepsFrame_protectiveStop _ _ _
        · exact keepsFrame_holdPosition _ _ _ _
      · split
        · exact keepsFrame_liveCartesian _ _ _ _ _
        · exact keepsFrame_liveJoint _ _ _ _
        · exact keepsFrame_pure ()

/-! ### Whole passes -/

@[simp] theorem diagnose_filter (loop : ReactiveServoLoop K) (input : TickInput K) :
    (loop.diagnose input).filter = loop.filter := by
  unfold ReactiveServoLoop.diagnose
  dsimp only
  split <;> rfl

@[simp] theorem diagnose_running (loop : ReactiveServoLoop K) (input : TickInput K) :
    (loop.diagnose input).running = loop.running := by
  unfold ReactiveServoLoop.diagnose
  dsimp only
  split <;> rfl

/-- What a pass leaves for the next one: nothing streamed and the thread ended, or
one of the ways of its write section. -/
theorem Tick.result_spec (t : Tick K) :
    (t.streamed = none ∧ t.result.loop.running = false) ∨
      ∃ snap loop, t.atWrite = some (snap, loop) ∧
        Wrote snap loop.filter t.streamed t.result.loop.filter := by
  unfold streamed result atWrite ReactiveServoLoop.tick
  cases arrived : t.before.arrive t.input with
  | mk out loop =>
      cases out with
      | error e => exact Or.inl ⟨rfl, rfl⟩
      | ok snap =>
          dsimp only
          have same : (Pass.mk loop []).loop.filter = loop.robot.filter := rfl
          have spec := writeSection_spec t.input snap same rfl
          cases ran : writeSection t.input snap loop.robot { loop := loop } with
          | mk raised pass =>
              rw [ran] at spec
              cases raised with
              | error e =>
                  have stopped : streamedIn (pass.calls ++ [.stop]) = streamedIn pass.calls := by
                    rw [streamedIn_append]
                    exact Option.or_none
                  dsimp only [ReactiveServoLoop.crash]
                  rw [stopped]
                  rcases spec with ⟨none, _⟩ | wrote
                  · exact Or.inl ⟨none, rfl⟩
                  · exact Or.inr ⟨snap, loop, rfl, wrote⟩
              | ok _ =>
                  rcases spec with ⟨_, e, raised⟩ | wrote
                  · cases raised
                  · refine Or.inr ⟨snap, loop, rfl, ?_⟩
                    rw [diagnose_filter]
                    exact wrote

theorem Wrote.keeps {snap : Snapshot K} {filter filter' : SafetyFilter K}
    {streamed : Option (Setpoint K)} (wrote : Wrote snap filter streamed filter') :
    filter'.p = filter.p ∧ filter'.dt = filter.dt := by
  cases wrote with
  | quiet _ => exact ⟨rfl, rfl⟩
  | heldCartesian _ _ => exact ⟨SafetyFilter.reset_p _ _ _ _, SafetyFilter.reset_dt _ _ _ _⟩
  | heldJoint _ _ => exact ⟨SafetyFilter.reset_p _ _ _ _, SafetyFilter.reset_dt _ _ _ _⟩
  | liveCartesian _ _ _ passed ok found =>
      rcases filter.filterCartesian_cases _ snap.state none with
        ⟨reason, rejected⟩ | ⟨draft, _, _, result⟩
      · rw [rejected, Prod.mk.injEq] at passed
        rw [← passed.2]
        exact ⟨rfl, rfl⟩
      · dsimp only at result
        rw [result, Prod.mk.injEq] at passed
        rw [← passed.2]
        exact ⟨rfl, rfl⟩
  | liveJoint _ _ _ passed ok found =>
      obtain ⟨_, _, q, _, _, _, _, left, _⟩ := SafetyFilter.filterJoint_ok passed
      rw [left]
      exact ⟨rfl, rfl⟩

theorem Wrote.prevPose {snap : Snapshot K} {filter filter' : SafetyFilter K} {pose : Pose K}
    (wrote : Wrote snap filter (some (.cartesian pose)) filter') :
    filter'.prevPose = some pose := by
  cases wrote with
  | heldCartesian _ _ => rfl
  | liveCartesian _ _ _ passed ok found =>
      rcases filter.filterCartesian_cases _ snap.state none with
        ⟨reason, rejected⟩ | ⟨draft, _, _, result⟩
      · rw [rejected, Prod.mk.injEq] at passed
        rw [← passed.1] at ok
        cases ok
      · dsimp only at result
        rw [result, Prod.mk.injEq] at passed
        rw [← passed.1] at found
        rw [← passed.2]
        exact found

theorem Wrote.prevQ {snap : Snapshot K} {filter filter' : SafetyFilter K} {q : List K}
    (wrote : Wrote snap filter (some (.joint q)) filter') : filter'.prevQ = some q := by
  cases wrote with
  | heldJoint _ _ => rfl
  | liveJoint _ _ _ passed ok found =>
      obtain ⟨_, _, q', _, _, _, found', left, _⟩ := SafetyFilter.filterJoint_ok passed
      rw [found, Option.some.injEq] at found'
      rw [left, found']

/-- A live setpoint of either space comes out of the filter the section works with. -/
theorem Tick.live_spec {t : Tick K} {sp : Setpoint K} (followed : t.live = some sp) :
    ∃ snap loop, t.atWrite = some (snap, loop) ∧
      ((∃ target pose sr filter', sp = .cartesian pose ∧ snap.cartesian = true ∧
          snap.targetPose = some target ∧
          loop.filter.filterCartesian target snap.state = (sr, filter') ∧ sr.ok = true ∧
          sr.pose = some pose) ∨
        ∃ target q sr filter', sp = .joint q ∧ snap.cartesian = false ∧
          snap.targetQ = some target ∧
          loop.filter.filterJoint target snap.state = .ok (sr, filter') ∧ sr.ok = true ∧
          sr.q = some q) := by
  unfold Tick.live at followed
  split at followed
  · cases followed
  · rename_i notHeld
    rcases t.result_spec with ⟨none, _⟩ | ⟨snap, loop, at_write, wrote⟩
    · rw [none] at followed
      cases followed
    · refine ⟨snap, loop, at_write, ?_⟩
      have moving : ¬ snap.holds loop.filter = true := by
        simpa only [Tick.holds, at_write] using notHeld
      rw [followed] at wrote
      generalize t.result.loop.filter = left at wrote
      cases wrote with
      | heldCartesian holds _ => exact absurd holds moving
      | heldJoint holds _ => exact absurd holds moving
      | liveCartesian _ space published passed ok found =>
          exact Or.inl ⟨_, _, _, _, rfl, space, published, passed, ok, found⟩
      | liveJoint _ space published passed ok found =>
          exact Or.inr ⟨_, _, _, _, rfl, space, published, passed, ok, found⟩

theorem Tick.not_holds_of_live {t : Tick ℝ} {sp : Setpoint ℝ} (followed : t.live = some sp) :
    t.holds = false := by
  unfold live at followed
  cases held : t.holds with
  | false => rfl
  | true =>
      rw [held, if_pos rfl] at followed
      cases followed

def Publication.KeepsProfile : Publication K → Prop
  | .safetyProfile _ => False
  | _ => True

structure TickInput.KeepsProfile (input : TickInput K) : Prop where
  beforeFetch : ∀ p ∈ input.beforeFetch, p.KeepsProfile
  beforeAdvance : ∀ p ∈ input.beforeAdvance, p.KeepsProfile
  beforeSnapshot : ∀ p ∈ input.beforeSnapshot, p.KeepsProfile
  beforeWrite : ∀ p ∈ input.beforeWrite, p.KeepsProfile

theorem Publication.apply_robot {p : Publication K} (kept : p.KeepsProfile)
    (loop : ReactiveServoLoop K) : (p.apply loop).robot = loop.robot := by
  cases p with
  | cartesianTarget pose gripper now =>
      unfold Publication.apply ReactiveServoLoop.setCartesianTarget
      dsimp only
      split <;> rfl
  | jointTarget q now => rfl
  | enqueueChunk chunk s now =>
      unfold Publication.apply ReactiveServoLoop.enqueueChunk
      dsimp only
      split <;> rfl
  | safetyProfile profile => exact absurd kept id
  | halt => rfl

theorem absorb_robot {published : List (Publication K)}
    (kept : ∀ p ∈ published, p.KeepsProfile) (loop : ReactiveServoLoop K) :
    (loop.absorb published).robot = loop.robot := by
  induction published generalizing loop with
  | nil => rfl
  | cons p rest ih =>
      have later := ih (fun p inRest => kept p (List.mem_cons_of_mem _ inRest)) (p.apply loop)
      exact later.trans (Publication.apply_robot (kept p List.mem_cons_self) loop)

theorem fetchChunk_robot (loop : ReactiveServoLoop K) :
    loop.fetchChunk.2.robot = loop.robot := by
  unfold ReactiveServoLoop.fetchChunk
  split <;> rfl

theorem advance_robot (loop : ReactiveServoLoop K) (next : ChunkNext K) (now : K) :
    (loop.advance next now).robot = loop.robot := by
  cases next <;> rfl

theorem Tick.atWrite_robot {t : Tick K} (kept : t.input.KeepsProfile) {snap : Snapshot K}
    {loop : ReactiveServoLoop K} (at_write : t.atWrite = some (snap, loop)) :
    loop.robot = t.before.robot := by
  unfold atWrite ReactiveServoLoop.arrive at at_write
  cases read : t.input.state with
  | error e => rw [read] at at_write; cases at_write
  | ok state =>
      rw [read] at at_write
      cases fault : t.input.inFault with
      | error e => rw [fault] at at_write; cases at_write
      | ok faulted =>
          rw [fault] at at_write
          dsimp only at at_write
          rw [Option.some.injEq, Prod.mk.injEq] at at_write
          rw [← at_write.2, absorb_robot kept.beforeWrite]
          dsimp only [ReactiveServoLoop.prepare]
          rw [absorb_robot kept.beforeSnapshot, advance_robot, absorb_robot kept.beforeAdvance,
            fetchChunk_robot, absorb_robot kept.beforeFetch]

/-! ### Passes whose backend calls all succeed -/

def TickInput.Accepting (input : TickInput K) : Prop := ∀ call, input.ack call = none

theorem command_accepted {input : TickInput K} (accepting : input.Accepting)
    (call : BackendCall K) (pass : Pass K) :
    command input call pass = (.ok (), { pass with calls := pass.calls ++ [call] }) := by
  unfold command
  rw [accepting call]

theorem ensureStreamMode_accepted {input : TickInput K} (accepting : input.Accepting)
    (state : RobotState K) (robot : Robot K) (cartesian : Bool) (pass : Pass K) :
    ∃ calls, streamedIn calls = none ∧ ensureStreamMode input state robot cartesian pass =
      (.ok (), { pass with calls := pass.calls ++ calls }) := by
  have stay : (pure () : LoopM K Unit) pass = (.ok (), { pass with calls := pass.calls ++ [] }) := by
    rw [List.append_nil]
    rfl
  unfold ensureStreamMode
  split
  · split
    · exact ⟨[], rfl, stay⟩
    · exact ⟨_, rfl, command_accepted accepting _ pass⟩
  · split
    · exact ⟨_, rfl, command_accepted accepting _ pass⟩
    · exact ⟨[], rfl, stay⟩

theorem sendGripper_accepted {input : TickInput K} (accepting : input.Accepting)
    (gripper : Option (GripperCommand K)) (pass : Pass K) :
    ∃ loop calls, streamedIn calls = none ∧ loop.filter = pass.loop.filter ∧
      loop.running = pass.loop.running ∧
      sendGripper input gripper pass = (.ok (), { loop := loop, calls := pass.calls ++ calls }) := by
  cases gripper with
  | none =>
      have ran : sendGripper input none pass =
          (.ok (), { loop := pass.loop, calls := pass.calls ++ [] }) := by
        rw [List.append_nil]
        rfl
      exact ⟨_, _, rfl, rfl, rfl, ran⟩
  | some cmd =>
      have ran : sendGripper input (some cmd) pass = (.ok (),
          { loop := { pass.loop with targetGripper := none }
            calls := pass.calls ++ [.moveGripper cmd] }) := by
        unfold sendGripper
        dsimp only
        rw [LoopM.bind_apply, command_accepted accepting]
        rfl
      exact ⟨{ pass.loop with targetGripper := none }, _, rfl, rfl, rfl, ran⟩

theorem streamedIn_first {calls more : List (BackendCall K)} {call : BackendCall K}
    {sp : Setpoint K} (mute : streamedIn calls = none) (carries : call.setpoint = some sp) :
    streamedIn (calls ++ call :: more) = some sp := by
  rw [streamedIn_append, mute]
  unfold streamedIn
  rw [List.findSome?_cons, carries]
  rfl

theorem writeSection_cartesian {input : TickInput K} (accepting : input.Accepting)
    {snap : Snapshot K} {robot : Robot K} {pass : Pass K}
    (follows : snap.follows robot.filter = true) (space : snap.cartesian = true)
    {target pose : Pose K} (published : snap.targetPose = some target) {sr : SafetyResult K}
    {filter' : SafetyFilter K}
    (passed : robot.filter.filterCartesian target snap.state = (sr, filter')) (ok : sr.ok = true)
    (found : sr.pose = some pose) (fresh : streamedIn pass.calls = none) :
    ∃ pass', writeSection input snap robot pass = (.ok (), pass') ∧
      streamedIn pass'.calls = some (.cartesian pose) ∧ pass'.loop.filter = filter' ∧
      pass'.loop.running = pass.loop.running := by
  have section_eq : writeSection input snap robot pass =
      liveCartesian input snap.state robot target snap.gripper pass := by
    obtain ⟨healthy, young, recent⟩ := snap.follows_parts follows
    unfold writeSection
    simp only [healthy, young, recent, space, published]
    rfl
  obtain ⟨mode, mute, ran⟩ := ensureStreamMode_accepted accepting snap.state robot true
    { pass with loop := pass.loop.withFilter filter' }
  obtain ⟨loop, more, _, sameFilter, sameRunning, sent⟩ := sendGripper_accepted accepting
    snap.gripper { loop := pass.loop.withFilter filter'
                   calls := pass.calls ++ mode ++ [.streamCartesian pose none] }
  have moved : writeSection input snap robot pass = (.ok (),
      { loop := loop.reportResult sr
        calls := pass.calls ++ mode ++ [.streamCartesian pose none] ++ more }) := by
    rw [section_eq]
    unfold liveCartesian
    rw [passed]
    dsimp only
    rw [update_bind, ok, found]
    dsimp only
    rw [LoopM.bind_apply, ran]
    dsimp only
    rw [LoopM.bind_apply, command_accepted accepting]
    dsimp only
    rw [LoopM.bind_apply, sent]
    rfl
  have quiet : streamedIn (pass.calls ++ mode) = none := by
    rw [streamedIn_append, fresh, mute]
    rfl
  have streamed : streamedIn (pass.calls ++ mode ++ [.streamCartesian pose none] ++ more) =
      some (.cartesian pose) := by
    rw [List.append_assoc (pass.calls ++ mode)]
    exact streamedIn_first quiet rfl
  exact ⟨_, moved, streamed, sameFilter, sameRunning⟩

theorem writeSection_joint {input : TickInput K} (accepting : input.Accepting) {snap : Snapshot K}
    {robot : Robot K} {pass : Pass K} (follows : snap.follows robot.filter = true)
    (space : snap.cartesian = false) {target q : List K} (published : snap.targetQ = some target)
    {sr : SafetyResult K} {filter' : SafetyFilter K}
    (passed : robot.filter.filterJoint target snap.state = .ok (sr, filter'))
    (ok : sr.ok = true) (found : sr.q = some q) (fresh : streamedIn pass.calls = none) :
    ∃ pass', writeSection input snap robot pass = (.ok (), pass') ∧
      streamedIn pass'.calls = some (.joint q) ∧ pass'.loop.filter = filter' ∧
      pass'.loop.running = pass.loop.running := by
  have section_eq : writeSection input snap robot pass =
      liveJoint input snap.state robot target pass := by
    obtain ⟨healthy, young, recent⟩ := snap.follows_parts follows
    unfold writeSection
    simp only [healthy, young, recent, space, published]
    rfl
  obtain ⟨mode, mute, ran⟩ := ensureStreamMode_accepted accepting snap.state robot false
    { pass with loop := pass.loop.withFilter filter' }
  have moved : writeSection input snap robot pass = (.ok (),
      { loop := (pass.loop.withFilter filter').reportResult sr
        calls := pass.calls ++ mode ++ [.streamJoint q] }) := by
    rw [section_eq]
    unfold liveJoint
    rw [passed]
    dsimp only
    rw [update_bind, ok, found]
    dsimp only
    rw [LoopM.bind_apply, ran]
    dsimp only
    rw [LoopM.bind_apply, command_accepted accepting]
    rfl
  have quiet : streamedIn (pass.calls ++ mode) = none := by
    rw [streamedIn_append, fresh, mute]
    rfl
  exact ⟨_, moved, streamedIn_first quiet rfl, rfl, rfl⟩

/-- A pass that follows its target and whose calls succeed streams live, in the
snapshot's space, and the thread goes on if nothing halted it. -/
theorem Tick.live_of_section {t : Tick K} {snap : Snapshot K} {loop : ReactiveServoLoop K}
    (arrived : t.before.arrive t.input = (.ok snap, loop))
    (follows : snap.follows loop.filter = true) {sp : Setpoint K} {filter' : SafetyFilter K}
    (wrote : ∃ pass', writeSection t.input snap loop.robot { loop := loop } = (.ok (), pass') ∧
      streamedIn pass'.calls = some sp ∧ pass'.loop.filter = filter' ∧
      pass'.loop.running = loop.running) :
    t.streamed = some sp ∧ t.live = some sp ∧ t.result.loop.filter = filter' ∧
      t.result.loop.running = loop.running := by
  obtain ⟨pass', ran, streamed, filter_eq, running⟩ := wrote
  have result_eq : t.result =
      { loop := pass'.loop.diagnose t.input, calls := pass'.calls, raised := none } := by
    unfold result ReactiveServoLoop.tick
    rw [arrived]
    dsimp only
    rw [ran]
  have at_write : t.atWrite = some (snap, loop) := by
    unfold atWrite
    rw [arrived]
  have notHeld : t.holds = false := by
    unfold holds
    rw [at_write]
    exact Snapshot.holds_of_follows follows
  have sent : t.streamed = some sp := by
    unfold Tick.streamed
    rw [result_eq]
    exact streamed
  have followed : t.live = some sp := by
    unfold Tick.live
    rw [notHeld]
    exact sent
  refine ⟨sent, followed, ?_, ?_⟩
  · rw [result_eq, diagnose_filter]
    exact filter_eq
  · rw [result_eq, diagnose_running]
    exact running

/-- A pass at clock zero that measures `state` and finds one target published just before. -/
noncomputable def TickInput.publishing (state : RobotState ℝ) (target : Publication ℝ) : TickInput ℝ where
  state := .ok state
  stateClock := 0
  beforeFetch := [target]
  advanceClock := 0
  ageClock := 0

theorem publishing_keepsProfile {state : RobotState ℝ} {target : Publication ℝ}
    (kept : target.KeepsProfile) : (TickInput.publishing state target).KeepsProfile := by
  constructor
  · intro p published
    rw [List.mem_singleton.mp published]
    exact kept
  · intro p published
    cases published
  · intro p published
    cases published
  · intro p published
    cases published

theorem follows_of_fresh {snap : Snapshot ℝ} {filter : SafetyFilter ℝ}
    (profile : filter.p = tabletop) (healthy : snap.faulted = false) (now : snap.age = 0) :
    snap.follows filter = true := by
  have young : (filter.checkStateAge snap.stateAgeMs).ok = true := by
    unfold SafetyFilter.checkStateAge
    rw [profile, if_neg (fun old => Bool.false_ne_true old.1)]
  have recent : snap.stale filter.p = false := by
    unfold Snapshot.stale
    rw [now, profile, decide_eq_false_iff_not, not_lt]
    norm_num [tabletop]
  unfold Snapshot.follows
  rw [healthy, young, recent]
  rfl

/-- Such a pass moves every joint one filter step toward the published angle. -/
theorem Tick.live_uniform (before : ReactiveServoLoop ℝ) (state : RobotState ℝ) {a t : ℝ}
    (profile : before.filter.p = tabletop) (ref : before.filter.prevQ.getD state.q = uniform a)
    (low : -1 ≤ t) (high : t ≤ 1) :
    let tick : Tick ℝ := ⟨before, .publishing state (.jointTarget (uniform t) 0)⟩
    let q := uniform (a + clampStep (maxJointStep tabletop before.filter.dt) (t - a))
    tick.streamed = some (.joint q) ∧ tick.live = some (.joint q) ∧
      tick.result.loop.filter = { before.filter with prevQ := some q } ∧
      tick.result.loop.running = before.running := by
  intro tick q
  obtain ⟨sr, passed, ok, found⟩ := before.filter.filterJoint_uniform (profile ▸ rfl)
    (profile ▸ rfl) (by rw [profile]; norm_num [tabletop]) ref low high
  have step : maxJointStep before.filter.p before.filter.dt =
      maxJointStep tabletop before.filter.dt := by rw [profile]
  rw [step] at passed found
  apply Tick.live_of_section (t := tick) rfl
  · exact follows_of_fresh profile rfl (sub_self 0)
  · exact writeSection_joint (fun _ => rfl) (follows_of_fresh profile rfl (sub_self 0)) rfl rfl
      passed ok found rfl

theorem Tick.live_pose (before : ReactiveServoLoop ℝ) (state : RobotState ℝ) {start goal : Pose ℝ}
    (profile : before.filter.p = tabletop)
    (ref : before.filter.prevPose.getD state.tcpPose = start)
    (inside : tabletop.contains goal.pos)
    (light : exceeds state.wrench tabletop.maxContactWrench = false) :
    let tick : Tick ℝ := ⟨before, .publishing state (.cartesianTarget [goal.pos.x, goal.pos.y,
      goal.pos.z, goal.quat.w, goal.quat.x, goal.quat.y, goal.quat.z] none 0)⟩
    let draft := limitMotion tabletop before.filter.dt start
      { target := goal, clipped := false, reasons := [] }
    tick.streamed = some (.cartesian draft.target) ∧ tick.live = some (.cartesian draft.target) ∧
      (∃ v, tick.result.loop.filter =
        { before.filter with
          p := tabletop, prevPose := some draft.target, prevLinVel := some v }) ∧
      tick.result.loop.running = before.running := by
  intro tick draft
  have light' : exceeds state.wrench (none.getD before.filter.p.maxContactWrench) = false := by
    rw [Option.getD_none, profile]
    exact light
  have boxed : limitWorkspace before.filter.p { target := goal, clipped := false, reasons := [] } =
      some { target := goal, clipped := false, reasons := [] } :=
    limitWorkspace_of_contains (profile.symm ▸ inside)
  have passed := SafetyFilter.filterCartesian_of_limited light' boxed
  dsimp only at passed
  rw [ref, profile] at passed
  obtain ⟨streamed, followed, left, running⟩ := Tick.live_of_section (t := tick) rfl
    (follows_of_fresh profile rfl (sub_self 0))
    (writeSection_cartesian (fun _ => rfl) (follows_of_fresh profile rfl (sub_self 0)) rfl rfl
      passed rfl rfl rfl)
  exact ⟨streamed, followed, ⟨_, left⟩, running⟩

/-! ### Runs -/

/-- Each pass starts from the loop the pass before it left running. -/
theorem runInner_isChain (inputs : List (TickInput K)) :
    ∀ loop : ReactiveServoLoop K, (loop.runInner inputs).IsChain
      (fun t t' => t.result.loop.running = true ∧ t'.before = t.result.loop) := by
  induction inputs with
  | nil => exact fun loop => List.isChain_nil
  | cons input rest ih =>
      intro loop
      unfold ReactiveServoLoop.runInner
      split
      · have later := ih (loop.tick input).loop
        cases rest with
        | nil => exact List.isChain_singleton _
        | cons next rest =>
            unfold ReactiveServoLoop.runInner at later ⊢
            split
            · rename_i goesOn
              rw [if_pos goesOn] at later
              exact List.isChain_cons_cons.mpr ⟨⟨goesOn, rfl⟩, later⟩
            · exact List.isChain_singleton _
      · exact List.isChain_nil

theorem runInner_pair {loop : ReactiveServoLoop K} (input input' : TickInput K)
    (running : loop.running = true) (goesOn : (loop.tick input).loop.running = true) :
    loop.runInner [input, input'] = [⟨loop, input⟩, ⟨(loop.tick input).loop, input'⟩] := by
  unfold ReactiveServoLoop.runInner
  rw [if_pos running]
  unfold ReactiveServoLoop.runInner
  rw [if_pos goesOn]
  rfl

/-- A loop invariant that speaks of a value accumulated over the passes made so far
holds before every pass, each of which finds the thread running. -/
theorem runInner_accumulates {σ : Type} {inv : σ → ReactiveServoLoop K → Prop}
    (next : σ → Tick K → σ) (inputs : List (TickInput K)) :
    ∀ {loop : ReactiveServoLoop K} (value : σ), inv value loop →
      (∀ (t : Tick K) value, t ∈ loop.runInner inputs → t.input ∈ inputs →
        t.before.running = true → inv value t.before → inv (next value t) t.result.loop) →
      ∀ pre t post, loop.runInner inputs = pre ++ t :: post →
        t.input ∈ inputs ∧ t.before.running = true ∧ inv (pre.foldl next value) t.before := by
  induction inputs with
  | nil =>
      intro loop _ _ _ pre t post run
      exact absurd run.symm (List.append_ne_nil_of_right_ne_nil pre (List.cons_ne_nil t post))
  | cons input rest ih =>
      intro loop value holds kept pre t post run
      unfold ReactiveServoLoop.runInner at run kept
      split at run
      · rename_i running
        cases pre with
        | nil =>
            rw [List.nil_append, List.cons.injEq] at run
            rw [← run.1]
            exact ⟨List.mem_cons_self, running, holds⟩
        | cons first pre =>
            rw [List.cons_append, List.cons.injEq] at run
            rw [if_pos running] at kept
            obtain ⟨inside, goesOn, holdsThere⟩ := ih _
              (kept ⟨loop, input⟩ value List.mem_cons_self List.mem_cons_self running holds)
              (fun t value later inRest => kept t value (List.mem_cons_of_mem _ later)
                (List.mem_cons_of_mem _ inRest)) pre t post run.2
            rw [run.1] at holdsThere
            exact ⟨List.mem_cons_of_mem _ inside, goesOn, holdsThere⟩
      · exact absurd run.symm (List.append_ne_nil_of_right_ne_nil pre (List.cons_ne_nil t post))

/-- An invariant of the loop that every pass keeps holds before every pass. -/
theorem runInner_invariant {inv : ReactiveServoLoop K → Prop} {inputs : List (TickInput K)}
    {loop : ReactiveServoLoop K} (holds : inv loop)
    (kept : ∀ t : Tick K, t.input ∈ inputs → t.before.running = true → inv t.before →
      inv t.result.loop) :
    ∀ t ∈ loop.runInner inputs, t.input ∈ inputs ∧ t.before.running = true ∧ inv t.before := by
  intro t member
  obtain ⟨pre, post, run⟩ := List.append_of_mem member
  have start : (fun (_ : Unit) => inv) () loop := holds
  exact runInner_accumulates (fun _ _ => ()) inputs () start (fun t _ _ => kept t) pre t post run

end FlexivControl
