/-
What becomes of a published target.

The thread fetches the chunk it streams in one locked section, advances it outside any
lock, writes the setpoint back in a second section and reads its target in a third. A
call that falls between the first and the third meets a pass that already decided
what to write.
-/

import FlexivControl.Loop.Restart

namespace FlexivControl

variable {K : Type} [Scalar K]

/-- What the last target call published; of a chunk, with the snapshots taken since. -/
inductive Published (K : Type) [Scalar K] where
  | nothing
  | pose (pose : Pose K)
  | joints (q : List K)
  | chunk (setpoints : List (CartesianSetpoint K)) (nonempty : setpoints ≠ []) (shown : Nat)

structure Aim (K : Type) [Scalar K] where
  cartesian : Bool
  targetPose : Option (Pose K)
  targetQ : Option (List K)
  chunkIter : Option (List (CartesianSetpoint K))

def ReactiveServoLoop.aim (loop : ReactiveServoLoop K) : Aim K :=
  ⟨loop.cartesian, loop.targetPose, loop.targetQ, loop.chunkIter⟩

/-- A snapshot shows the pose, the joints with joint mode selected, or the next
setpoint of the chunk, from the first to the last, which stays. -/
def Published.ShownBy (aim : Aim K) : Published K → Prop
  | .nothing => True
  | .pose p => aim.cartesian = true ∧ aim.targetPose = some p
  | .joints q => aim.cartesian = false ∧ aim.targetQ = some q
  | .chunk setpoints _ shown => aim.cartesian = true ∧
      ∃ sp, setpoints[min shown setpoints.length - 1]? = some sp ∧ aim.targetPose = some sp.pose

def Published.taken : Published K → Published K
  | .chunk setpoints nonempty shown => .chunk setpoints nonempty (shown + 1)
  | other => other

theorem CartesianChunkInterpolator.setpoints_ne_nil (interp : CartesianChunkInterpolator K) :
    interp.setpoints ≠ [] := by
  unfold setpoints
  cases waypoints : interp.chunk.waypoints with
  | nil => exact absurd waypoints interp.chunk.nonempty
  | cons wp rest =>
      intro empty
      unfold setpointsFrom at empty
      obtain ⟨first, _⟩ := List.append_eq_nil_iff.mp empty
      have ticks : 0 < interp.segmentTicks interp.startPose.pos wp.position interp.startPose.quat
          (wp.quaternion.getD interp.startPose.quat) wp := by
        unfold segmentTicks
        dsimp only
        omega
      rw [segment, List.map_eq_nil_iff, List.range_eq_nil] at first
      omega

/-- A refused pose has already dropped the chunk, so nothing is promised after it; a
chunk that does not resolve is never staged. -/
def Publication.publishes (loop : ReactiveServoLoop K) : Publication K → Option (Published K)
  | .cartesianTarget pose _ _ =>
      match Pose.reshape7 pose with
      | .error _ => some .nothing
      | .ok pose => some (.pose pose)
  | .jointTarget q _ => some (.joints q)
  | .enqueueChunk chunk s _ =>
      match chunk.forExecution s.tcpPose with
      | .error _ => none
      | .ok c =>
          let interp : CartesianChunkInterpolator K :=
            { chunk := c, startPose := s.tcpPose, hz := loop.hz
              maxLinearSpeed := some loop.filter.p.maxLinearSpeed
              maxAngularSpeed := some loop.filter.p.maxAngularSpeed }
          some (.chunk interp.setpoints interp.setpoints_ne_nil 0)
  | .safetyProfile _ => none
  | .halt => none

/-- What the calls of a gap publish, if any of them does. -/
def ReactiveServoLoop.published (loop : ReactiveServoLoop K) :
    List (Publication K) → Option (Published K)
  | [] => none
  | p :: rest => ((p.apply loop).published rest).or (p.publishes loop)

/-! ### The target between two passes -/

def Published.HeldBy (aim : Aim K) : Published K → Prop
  | .nothing => True
  | .pose p => aim.cartesian = true ∧ aim.targetPose = some p ∧ aim.chunkIter = none
  | .joints q => aim.cartesian = false ∧ aim.targetQ = some q ∧ aim.chunkIter = none
  | .chunk setpoints _ shown => aim.cartesian = true ∧
      aim.chunkIter = (if shown ≤ setpoints.length then some (setpoints.drop shown) else none) ∧
      (0 < shown → ∃ sp, setpoints[min shown setpoints.length - 1]? = some sp ∧
        aim.targetPose = some sp.pose)

theorem Published.HeldBy.shown {aim : Aim K} {e : Published K} (held : e.taken.HeldBy aim) :
    e.taken.ShownBy aim := by
  cases e with
  | nothing => trivial
  | pose pose => exact ⟨held.1, held.2.1⟩
  | joints q => exact ⟨held.1, held.2.1⟩
  | chunk setpoints nonempty shown => exact ⟨held.1, held.2.2 (Nat.succ_pos shown)⟩

theorem Publication.apply_held {p : Publication K} {loop : ReactiveServoLoop K} {e : Published K}
    (published : p.publishes loop = some e) : e.HeldBy (p.apply loop).aim := by
  cases p with
  | cartesianTarget pose gripper now =>
      unfold publishes at published
      unfold Publication.apply ReactiveServoLoop.setCartesianTarget
      dsimp only at published ⊢
      cases shape : Pose.reshape7 pose with
      | error e =>
          rw [shape] at published
          cases published
          trivial
      | ok pose =>
          rw [shape] at published
          cases published
          exact ⟨rfl, rfl, rfl⟩
  | jointTarget q now =>
      cases published
      exact ⟨rfl, rfl, rfl⟩
  | enqueueChunk chunk s now =>
      unfold publishes at published
      unfold Publication.apply ReactiveServoLoop.enqueueChunk
      dsimp only at published ⊢
      cases resolved : chunk.forExecution s.tcpPose with
      | error e =>
          rw [resolved] at published
          cases published
      | ok c =>
          rw [resolved] at published
          cases published
          refine ⟨rfl, ?_, fun impossible => absurd impossible (lt_irrefl 0)⟩
          rw [if_pos (Nat.zero_le _), List.drop_zero]
          rfl
  | safetyProfile profile => cases published
  | halt => cases published

theorem Publication.apply_aim {p : Publication K} {loop : ReactiveServoLoop K}
    (silent : p.publishes loop = none) : (p.apply loop).aim = loop.aim := by
  cases p with
  | cartesianTarget pose gripper now =>
      unfold publishes at silent
      dsimp only at silent
      split at silent <;> cases silent
  | jointTarget q now => cases silent
  | enqueueChunk chunk s now =>
      unfold publishes at silent
      unfold Publication.apply ReactiveServoLoop.enqueueChunk
      dsimp only at silent ⊢
      cases resolved : chunk.forExecution s.tcpPose with
      | error e => rfl
      | ok c =>
          rw [resolved] at silent
          cases silent
  | safetyProfile profile => rfl
  | halt => rfl

/-- After a gap the loop's target is what the gap published, or what it was. -/
theorem absorb_aim (gap : List (Publication K)) : ∀ loop : ReactiveServoLoop K,
    (loop.published gap = none → (loop.absorb gap).aim = loop.aim) ∧
      ∀ e, loop.published gap = some e → e.HeldBy (loop.absorb gap).aim := by
  induction gap with
  | nil =>
      intro loop
      constructor
      · intro _
        rfl
      · intro e impossible
        cases impossible
  | cons p rest ih =>
      intro loop
      obtain ⟨silent, held⟩ := ih (p.apply loop)
      have next : loop.absorb (p :: rest) = (p.apply loop).absorb rest := rfl
      rw [next]
      unfold ReactiveServoLoop.published
      cases later : (p.apply loop).published rest with
      | some e' =>
          constructor
          · intro impossible
            cases impossible
          · intro e same
            rw [Option.some_or] at same
            exact held e (later.trans same)
      | none =>
          rw [Option.none_or, silent later]
          exact ⟨Publication.apply_aim, fun e => Publication.apply_held⟩

theorem absorb_held (loop : ReactiveServoLoop K) {e : Published K} (held : e.HeldBy loop.aim)
    (gap : List (Publication K)) : ((loop.published gap).getD e).HeldBy (loop.absorb gap).aim := by
  obtain ⟨silent, published⟩ := absorb_aim gap loop
  cases calls : loop.published gap with
  | none =>
      rw [silent calls]
      exact held
  | some e' => exact published e' calls

/-- With no call between fetch and advance, the chunk's next setpoint is the target. -/
theorem Published.HeldBy.advance {e : Published K} {loop later : ReactiveServoLoop K}
    (held : e.HeldBy loop.aim) (same : later.aim = loop.fetchChunk.2.aim) (now : K) :
    e.taken.HeldBy (later.advance loop.fetchChunk.1 now).aim := by
  have unchanged (none : loop.chunkIter = none) :
      loop.fetchChunk.1 = .noChunk ∧ later.aim = loop.aim := by
    rw [same]
    unfold ReactiveServoLoop.fetchChunk
    rw [none]
    exact ⟨rfl, rfl⟩
  cases e with
  | nothing => trivial
  | pose pose =>
      obtain ⟨idle, kept⟩ := unchanged held.2.2
      rw [idle]
      change (Published.pose pose).HeldBy later.aim
      rw [kept]
      exact held
  | joints q =>
      obtain ⟨idle, kept⟩ := unchanged held.2.2
      rw [idle]
      change (Published.joints q).HeldBy later.aim
      rw [kept]
      exact held
  | chunk setpoints nonempty shown =>
      obtain ⟨space, staged, target⟩ := held
      have long : 0 < setpoints.length := List.length_pos_iff.mpr nonempty
      change loop.chunkIter = _ at staged
      rcases lt_trichotomy shown setpoints.length with more | done | past
      · rw [if_pos more.le, List.drop_eq_getElem_cons more] at staged
        have fetched : loop.fetchChunk = (.setpoint setpoints[shown],
            { loop with chunkIter := some (setpoints.drop (shown + 1)) }) := by
          unfold ReactiveServoLoop.fetchChunk
          rw [staged]
        rw [fetched] at same ⊢
        refine ⟨rfl, ?_, fun _ => ⟨setpoints[shown], ?_, rfl⟩⟩
        · rw [if_pos (by omega)]
          exact congrArg Aim.chunkIter same
        · have index : min (shown + 1) setpoints.length - 1 = shown := by omega
          rw [index]
          exact List.getElem?_eq_getElem more
      · rw [if_pos done.le, done, List.drop_length] at staged
        have fetched : loop.fetchChunk = (.exhausted, loop) := by
          unfold ReactiveServoLoop.fetchChunk
          rw [staged]
        rw [fetched] at same ⊢
        obtain ⟨sp, last, shownPose⟩ := target (by omega)
        refine ⟨(congrArg Aim.cartesian same).trans space, ?_, fun _ => ⟨sp, ?_, ?_⟩⟩
        · rw [if_neg (by omega)]
          rfl
        · have index : min (shown + 1) setpoints.length - 1 = min shown setpoints.length - 1 := by
            omega
          rw [index]
          exact last
        · exact (congrArg Aim.targetPose same).trans shownPose
      · rw [if_neg (by omega)] at staged
        obtain ⟨idle, kept⟩ := unchanged staged
        rw [idle]
        change (Published.chunk setpoints nonempty (shown + 1)).HeldBy later.aim
        obtain ⟨sp, last, shownPose⟩ := target (by omega)
        rw [kept]
        refine ⟨space, ?_, fun _ => ⟨sp, ?_, shownPose⟩⟩
        · rw [if_neg (by omega)]
          exact staged
        · have index : min (shown + 1) setpoints.length - 1 = min shown setpoints.length - 1 := by
            omega
          rw [index]
          exact last

def KeepsAim {α : Type} (x : LoopM K α) : Prop :=
  ∀ pass, (x pass).2.loop.aim = pass.loop.aim

theorem keepsAim_writeSection (input : TickInput K) (snap : Snapshot K) (robot : Robot K) :
    KeepsAim (writeSection input snap robot) := by
  intro pass
  obtain ⟨_, _, _, left⟩ := keepsFrame_writeSection input snap robot pass
  rw [left]
  rfl

theorem diagnose_aim (loop : ReactiveServoLoop K) (input : TickInput K) :
    (loop.diagnose input).aim = loop.aim := by
  unfold ReactiveServoLoop.diagnose
  dsimp only
  split <;> rfl

theorem Tick.result_aim (t : Tick K) : t.result.loop.aim = (t.before.arrive t.input).2.aim := by
  unfold result ReactiveServoLoop.tick
  cases t.before.arrive t.input with
  | mk out loop =>
      cases out with
      | error e => rfl
      | ok snap =>
          dsimp only
          have kept := keepsAim_writeSection t.input snap loop.robot { loop := loop }
          cases ran : writeSection t.input snap loop.robot { loop := loop } with
          | mk raised pass =>
              rw [ran] at kept
              cases raised with
              | error e => exact kept
              | ok _ => exact (diagnose_aim _ _).trans kept

/-! ### Passes -/

def Tick.fetches (t : Tick K) (state : RobotState K) : ReactiveServoLoop K :=
  { t.before with latestState := some state }.absorb t.input.beforeFetch

def Tick.advances (t : Tick K) (state : RobotState K) : ReactiveServoLoop K :=
  ((t.fetches state).fetchChunk.2.absorb t.input.beforeAdvance).advance
    (t.fetches state).fetchChunk.1 t.input.advanceClock

theorem Tick.prepare_eq (t : Tick K) (state : RobotState K) :
    t.before.prepare t.input state = (t.advances state).absorb t.input.beforeSnapshot := rfl

/-- What is published when the pass has taken its snapshot. -/
def Tick.standing (e : Published K) (t : Tick K) (state : RobotState K) : Published K :=
  let e := (({ t.before with latestState := some state } : ReactiveServoLoop K).published
    t.input.beforeFetch).getD e
  let e := ((t.fetches state).fetchChunk.2.published t.input.beforeAdvance).getD e
  (((t.advances state).published t.input.beforeSnapshot).getD e).taken

/-- What is published when the pass has ended. -/
def Published.after (e : Published K) (t : Tick K) : Published K :=
  match t.input.state with
  | .error _ => e
  | .ok state =>
      ((t.before.prepare t.input state).published t.input.beforeWrite).getD (t.standing e state)

def Published.Settled : Published K → Prop
  | .chunk _ _ _ => False
  | _ => True

/-- The advance does not overwrite what was published since the fetch. -/
def Published.Survives (next : ChunkNext K) : Published K → Prop
  | .nothing => True
  | .chunk _ _ _ => False
  | _ => match next with
    | .setpoint _ => False
    | _ => True

/-- No chunk is the last to be published between fetch and snapshot, and no pose and no
joints between a fetch that yields a setpoint and the advance. -/
def Tick.Orderly (t : Tick K) : Prop :=
  ∀ state, t.input.state = .ok state →
    match (t.advances state).published t.input.beforeSnapshot with
    | some e => e.Settled
    | none =>
        match (t.fetches state).fetchChunk.2.published t.input.beforeAdvance with
        | some e => e.Survives (t.fetches state).fetchChunk.1
        | none => True

theorem Published.Settled.taken {e : Published K} (settled : e.Settled) : e.taken = e := by
  cases e with
  | chunk setpoints nonempty shown => exact absurd settled id
  | nothing => rfl
  | pose pose => rfl
  | joints q => rfl

theorem Published.Survives.settled {e : Published K} {next : ChunkNext K}
    (survives : e.Survives next) : e.Settled := by
  cases e with
  | chunk setpoints nonempty shown => exact absurd survives id
  | nothing => trivial
  | pose pose => trivial
  | joints q => trivial

theorem Published.Survives.advance {e : Published K} {next : ChunkNext K}
    (survives : e.Survives next) {loop : ReactiveServoLoop K} (held : e.HeldBy loop.aim)
    (now : K) : e.HeldBy (loop.advance next now).aim := by
  cases e with
  | chunk setpoints nonempty shown => exact absurd survives id
  | nothing => trivial
  | pose pose =>
      cases next with
      | noChunk => exact held
      | setpoint sp => exact absurd survives id
      | exhausted => exact ⟨held.1, held.2.1, rfl⟩
  | joints q =>
      cases next with
      | noChunk => exact held
      | setpoint sp => exact absurd survives id
      | exhausted => exact ⟨held.1, held.2.1, rfl⟩

/-- An orderly pass takes its snapshot with the published target in place. -/
theorem Tick.Orderly.prepare_held {t : Tick K} (orderly : t.Orderly) {e : Published K}
    (held : e.HeldBy t.before.aim) {state : RobotState K} (read : t.input.state = .ok state) :
    (t.standing e state).HeldBy (t.before.prepare t.input state).aim := by
  have condition := orderly state read
  have fetched : (({ t.before with latestState := some state } : ReactiveServoLoop K).published
      t.input.beforeFetch |>.getD e).HeldBy (t.fetches state).aim :=
    absorb_held { t.before with latestState := some state } held t.input.beforeFetch
  obtain ⟨silent, published⟩ := absorb_aim t.input.beforeSnapshot (t.advances state)
  rw [t.prepare_eq state]
  unfold Tick.standing
  dsimp only
  cases last : (t.advances state).published t.input.beforeSnapshot with
  | some e' =>
      rw [last] at condition
      rw [Option.getD_some, condition.taken]
      exact published e' last
  | none =>
      rw [last] at condition
      dsimp only at condition
      rw [Option.getD_none, silent last]
      obtain ⟨silent, published⟩ :=
        absorb_aim t.input.beforeAdvance (t.fetches state).fetchChunk.2
      cases between : (t.fetches state).fetchChunk.2.published t.input.beforeAdvance with
      | some e' =>
          rw [between] at condition
          rw [Option.getD_some, condition.settled.taken]
          exact condition.advance (published e' between) t.input.advanceClock
      | none =>
          rw [Option.getD_none]
          exact fetched.advance (silent between) t.input.advanceClock

theorem published_stats (gap : List (Publication K)) :
    ∀ (loop : ReactiveServoLoop K) (stats : LoopStats K),
      ({ loop with stats := stats } : ReactiveServoLoop K).published gap = loop.published gap := by
  induction gap with
  | nil => exact fun _ _ => rfl
  | cons p rest ih =>
      intro loop stats
      have same : p.apply { loop with stats := stats } = { p.apply loop with stats := stats } := by
        cases p with
        | cartesianTarget pose gripper now =>
            unfold Publication.apply ReactiveServoLoop.setCartesianTarget
            dsimp only
            split <;> rfl
        | jointTarget q now => rfl
        | enqueueChunk chunk s now =>
            unfold Publication.apply ReactiveServoLoop.enqueueChunk
            dsimp only
            split <;> rfl
        | safetyProfile profile => rfl
        | halt => rfl
      unfold ReactiveServoLoop.published
      rw [same, ih]
      rfl

theorem Tick.Orderly.keeps_held {t : Tick K} (orderly : t.Orderly) {e : Published K}
    (held : e.HeldBy t.before.aim) (goesOn : t.result.loop.running = true) :
    (e.after t).HeldBy t.result.loop.aim := by
  have same := t.result_aim
  unfold Published.after
  cases read : t.input.state with
  | error raised =>
      have ended : t.result.loop.running = false := by
        unfold result ReactiveServoLoop.tick ReactiveServoLoop.arrive
        rw [read]
        rfl
      rw [ended] at goesOn
      cases goesOn
  | ok state =>
      cases fault : t.input.inFault with
      | error raised =>
          have ended : t.result.loop.running = false := by
            unfold result ReactiveServoLoop.tick ReactiveServoLoop.arrive
            rw [read, fault]
            rfl
          rw [ended] at goesOn
          cases goesOn
      | ok faulted =>
          unfold ReactiveServoLoop.arrive at same
          rw [read, fault] at same
          rw [same]
          dsimp only
          have later (stats : LoopStats K) := absorb_held
            { t.before.prepare t.input state with stats := stats }
            (orderly.prepare_held held read) t.input.beforeWrite
          simp only [published_stats] at later
          exact later _

/-- In every run of orderly passes each snapshot shows what the last call before it
published: its pose, its joints in joint mode, or its chunk's setpoints from the first. -/
theorem published_targets_shown (loop : ReactiveServoLoop K) (inputs : List (TickInput K))
    (orderly : ∀ t ∈ loop.runInner inputs, t.Orderly) :
    ∀ pre t post, loop.runInner inputs = pre ++ t :: post →
      ∀ state, t.input.state = .ok state →
        (t.standing (pre.foldl Published.after .nothing) state).ShownBy
          (t.before.prepare t.input state).aim := by
  intro pre t post run state read
  have inside : t ∈ loop.runInner inputs := by
    rw [run]
    exact List.mem_append_right pre List.mem_cons_self
  let follows (e : Published K) (loop : ReactiveServoLoop K) : Prop :=
    loop.running = true → e.HeldBy loop.aim
  have starts : follows .nothing loop := fun _ => trivial
  obtain ⟨_, running, held⟩ := runInner_accumulates Published.after inputs .nothing starts
    (fun t e member _ running held => (orderly t member).keeps_held (held running)) pre t post run
  exact ((orderly t inside).prepare_held (held running) read).shown

noncomputable def inferredChunk : CartesianChunk ℝ where
  waypoints := [{
    position := raiseCall.target.pos
    quaternion := none
    gripper := none
    nFrames := some 10
    duration := none
    frame := "base"
    timed := Or.inl rfl
    framesPositive := by
      intro n frames
      cases frames
      decide }]
  nonempty := List.cons_ne_nil _ _
  allowanceNonneg := no_allowance
  gatePositive := no_gate

/-- A pass that finds the chunk enqueued, and `between` called between fetch and advance. -/
noncomputable def staging (between : List (Publication ℝ)) : TickInput ℝ where
  state := .ok hovering
  stateClock := 0
  beforeFetch := [.enqueueChunk inferredChunk hovering 0]
  beforeAdvance := between
  advanceClock := 0
  ageClock := 0

noncomputable def stagingTick (between : List (Publication ℝ)) : Tick ℝ :=
  ⟨(tabletopLoop.start hovering hovering 0 0).2, staging between⟩

theorem staging_run (between : List (Publication ℝ)) :
    (tabletopLoop.start hovering hovering 0 0).2.runInner [staging between] =
      [] ++ stagingTick between :: [] := rfl

theorem stagingTick_fetches (between : List (Publication ℝ)) :
    ∃ sp, ((stagingTick between).fetches hovering).fetchChunk.1 = .setpoint sp := by
  have resolved : inferredChunk.forExecution hovering.tcpPose = .ok inferredChunk := rfl
  let interp : CartesianChunkInterpolator ℝ :=
    { chunk := inferredChunk, startPose := hovering.tcpPose
      hz := (tabletopLoop.start hovering hovering 0 0).2.hz
      maxLinearSpeed := some (tabletopLoop.start hovering hovering 0 0).2.filter.p.maxLinearSpeed
      maxAngularSpeed := some (tabletopLoop.start hovering hovering 0 0).2.filter.p.maxAngularSpeed }
  have staged : ((stagingTick between).fetches hovering).chunkIter = some interp.setpoints := rfl
  unfold ReactiveServoLoop.fetchChunk
  rw [staged]
  cases all : interp.setpoints with
  | nil => exact absurd all interp.setpoints_ne_nil
  | cons sp rest => exact ⟨sp, rfl⟩

/-- A chunk enqueued before the fetch is shown from its first setpoint. -/
theorem published_targets_shown_chunk :
    ((stagingTick []).standing .nothing hovering).ShownBy
      ((stagingTick []).before.prepare (staging []) hovering).aim := by
  refine published_targets_shown _ [staging []] ?_ [] (stagingTick []) [] (staging_run [])
    hovering rfl
  intro t inside state read
  rw [staging_run, List.nil_append, List.mem_singleton] at inside
  rw [inside]
  exact trivial

/-- A joint target published while the pass advances a chunk is overwritten at once: the
snapshot is Cartesian. -/
theorem joint_target_lost :
    (tabletopLoop.start hovering hovering 0 0).2.runInner [staging [.jointTarget (uniform 1) 0]] =
        [] ++ stagingTick [.jointTarget (uniform 1) 0] :: [] ∧
      (stagingTick [.jointTarget (uniform 1) 0]).standing .nothing hovering =
        .joints (uniform 1) ∧
      ¬ ((stagingTick [.jointTarget (uniform 1) 0]).standing .nothing hovering).ShownBy
        ((stagingTick [.jointTarget (uniform 1) 0]).before.prepare
          (staging [.jointTarget (uniform 1) 0]) hovering).aim := by
  have last : (stagingTick [.jointTarget (uniform 1) 0]).standing .nothing hovering =
      .joints (uniform 1) := rfl
  refine ⟨rfl, last, ?_⟩
  rw [last]
  intro shown
  obtain ⟨sp, fetched⟩ := stagingTick_fetches [.jointTarget (uniform 1) 0]
  have space := shown.1
  have prepared : (stagingTick [.jointTarget (uniform 1) 0]).before.prepare
      (staging [.jointTarget (uniform 1) 0]) hovering =
        (stagingTick [.jointTarget (uniform 1) 0]).advances hovering := rfl
  rw [prepared, Tick.advances, fetched] at space
  cases space

end FlexivControl
