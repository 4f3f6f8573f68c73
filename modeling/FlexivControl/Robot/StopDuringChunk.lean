/-
A stop by another thread while a Cartesian chunk executes.

`stop` sets the cancel flag and then stops the backend. Each tick of the executor tests
the flag some calls before it streams, and a backend that has been stopped refuses the
setpoint.
-/

import FlexivControl.Library.Pool
import FlexivControl.Robot.ChunkStages
import FlexivControl.Robot.Modes
import FlexivControl.Robot.Untouched

namespace FlexivControl

open Pool Script

variable {K : Type} [Scalar K]

/-! ### The executor's progress -/

/-- Where the executor is: `armed` once it has found or started a Cartesian mode, `tested`
between a test that found no request and the tick's setpoint. -/
inductive ChunkProgress where
  | entering (armed : Bool)
  | looping
  | tested
  | stopping (byUser : Bool)
  | refused (e : Exc)

def ChunkProgress.seeing (progress : ChunkProgress) (mode : ControlMode) : ChunkProgress :=
  match progress with
  | .entering armed => .entering (armed || mode.isCartesian)
  | progress => progress

def ChunkProgress.halted : ChunkProgress → ChunkProgress
  | .tested => .stopping false
  | progress => progress

def ChunkProgress.streamed : Except Exc Unit → ChunkProgress
  | .ok _ => .looping
  | .error e => .refused e

def ChunkProgress.after (progress : ChunkProgress) : Call (effects K) → ChunkProgress
  | ⟨.readState, .ok state⟩ => progress.seeing state.controlMode
  | ⟨.cancelIsSet .entry, set⟩ => if set then .stopping true else progress
  | ⟨.cancelIsSet .tick, set⟩ => if set then .stopping true else .tested
  | ⟨.write (.setMode _ _), _⟩ => .entering true
  | ⟨.write (.streamCartesian _ _), answer⟩ => .streamed answer
  | ⟨.write .stop, _⟩ => progress.halted
  | _ => progress

/-- The next tick may begin. -/
def ChunkProgress.Ready (progress : ChunkProgress) : Prop :=
  progress = .entering true ∨ progress = .looping

def ChunkProgress.Allows (progress : ChunkProgress) : Op K → Prop
  | .cancelIsSet .entry => progress = .entering false
  | .cancelIsSet .tick => progress.Ready
  | .cancelIsSet _ => False
  | .cancelSet => False
  | .cancelClear => progress = .stopping true
  | .write (.setMode mode _) => mode.isCartesian = true ∧ progress = .entering false
  | .write (.streamCartesian _ _) => progress = .tested
  | .write .stop => progress = .tested ∨ progress = .stopping true
  | .write (.streamJoint _) => False
  | .write (.home _) => False
  | _ => True

/-- Everything but a setpoint is answered well, and the chunk resolves at the poses read. -/
def Obliges (chunk : CartesianChunk K) : Call (effects K) → Prop
  | ⟨.readState, answer⟩ => ∃ state, answer = .ok state ∧
      ∃ executed, chunk.forExecution state.tcpPose = .ok executed
  | ⟨.inFault, answer⟩ => ∃ faulted, answer = .ok faulted
  | ⟨.write (.streamCartesian _ _), _⟩ => True
  | ⟨.write (.streamJoint _), _⟩ => True
  | ⟨.write _, answer⟩ => answer = .ok ()
  | _ => True

def chunkProgress (chunk : CartesianChunk K) : Monitor (effects K) ChunkProgress where
  observe := ChunkProgress.after
  admits _ := Obliges chunk
  allows := ChunkProgress.Allows

def ChunkProgress.Accounts (progress : ChunkProgress) (result : ExecutionResult K) : Prop :=
  (progress.Ready ∧ result.success = true) ∨
    ∃ byUser, progress = .stopping byUser ∧ result.success = false ∧
      (byUser = true → result.stopReason = .user)

theorem ChunkProgress.Accounts.same {progress : ChunkProgress} {before after : ExecutionResult K}
    (accounts : progress.Accounts before) (same : before.SameOutcome after) :
    progress.Accounts after := by
  unfold Accounts
  rw [same.1, same.2]
  exact accounts

/-- What a blocking chunk ends with when it has this to report. -/
def returned (raiseOnStop : Bool) (result : ExecutionResult K) : Except Exc (ExecutionResult K) :=
  if raiseOnStop = true ∧ ¬ result.success = true then .error ⟨.chunkStoppedError, "chunk stopped"⟩
  else .ok result

def PartProgress {α : Type} (report : α → ExecutionResult K) :
    Except Exc α → Robot K → ChunkProgress → Prop
  | .ok a, _, progress => progress.Accounts (report a)
  | .error e, _, progress => progress = .refused e

def TickProgress {α : Type} (report : α → ExecutionResult K) :
    Except Exc (α × Bool) → Robot K → ChunkProgress → Prop
  | .ok (a, goOn), _, progress => progress.Accounts (report a) ∧ (goOn = true → progress = .looping)
  | .error e, _, progress => progress = .refused e

def ChunkProgressEnds (raiseOnStop : Bool) (out : Except Exc (ExecutionResult K))
    (_ : Robot K) (progress : ChunkProgress) : Prop :=
  (∃ result, out = returned raiseOnStop result ∧ progress.Accounts result) ∨
    ∃ e, out = .error e ∧ progress = .refused e

section Parts

variable {α β : Type} {chunk : CartesianChunk K}

def Smooth (chunk : CartesianChunk K) (x : RobotM K α) : Prop :=
  ∀ robot (progress : ChunkProgress), progress ≠ .entering false →
    wp (chunkProgress chunk) x (fun out _ progress' => (∃ a, out = .ok a) ∧ progress' = progress)
      robot progress

theorem smooth_pure (a : α) : Smooth chunk (pure a) := fun _ _ _ => ⟨⟨a, rfl⟩, rfl⟩

theorem Smooth.bind {x : RobotM K α} {f : α → RobotM K β} (first : Smooth chunk x)
    (rest : ∀ a, Smooth chunk (f a)) : Smooth chunk (x >>= f) := by
  intro robot progress armed
  rw [wp_bind]
  apply wp_mono (first robot progress armed)
  rintro out robot' progress' ⟨⟨a, ended⟩, same⟩
  subst same
  subst ended
  exact rest a robot' progress' armed

theorem smooth_get : Smooth chunk (get : RobotM K (Robot K)) := fun robot _ _ => ⟨⟨robot, rfl⟩, rfl⟩

theorem smooth_moveGripper (cmd : GripperCommand K) :
    Smooth chunk (backend (.moveGripper cmd)) := by
  intro robot progress _
  rw [wp_backend]
  refine ⟨trivial, fun answer admitted => ?_⟩
  have accepted : answer = .ok () := admitted
  rw [accepted]
  exact ⟨⟨(), rfl⟩, rfl⟩

theorem ChunkProgress.seeing_armed {progress : ChunkProgress} (armed : progress ≠ .entering false)
    (mode : ControlMode) : progress.seeing mode = progress := by
  cases progress with
  | entering found =>
      cases found with
      | true => rfl
      | false => exact absurd rfl armed
  | _ => rfl

theorem wp_getState_seeing (robot : Robot K) (progress : ChunkProgress) :
    wp (chunkProgress chunk) getState (fun out robot' progress' => ∃ state, out = .ok state ∧
      (∃ executed, chunk.forExecution state.tcpPose = .ok executed) ∧ robot' = robot ∧
        progress' = progress.seeing state.controlMode) robot progress := by
  unfold getState
  rw [wp_bind, wp_readState]
  refine ⟨trivial, ?_⟩
  rintro answer ⟨state, read, resolves⟩
  subst read
  exact ⟨trivial, fun _ _ => ⟨state, rfl, resolves, rfl, rfl⟩⟩

theorem smooth_getState : Smooth chunk (getState : RobotM K (RobotState K)) := by
  intro robot progress armed
  apply wp_mono (wp_getState_seeing robot progress)
  rintro out robot' progress' ⟨state, ended, _, _, seen⟩
  exact ⟨⟨state, ended⟩, seen.trans (progress.seeing_armed armed state.controlMode)⟩

theorem smooth_inFault : Smooth chunk (inFault : RobotM K Bool) := by
  intro robot progress _
  rw [wp_inFault]
  refine ⟨trivial, ?_⟩
  rintro answer ⟨faulted, read⟩
  subst read
  exact ⟨⟨faulted, rfl⟩, rfl⟩

theorem smooth_perfCounter : Smooth chunk (perfCounter : RobotM K K) :=
  fun _ _ _ => ⟨trivial, fun now _ => ⟨⟨now, rfl⟩, rfl⟩⟩

theorem smooth_tryFireClose (executed : CartesianChunk K) (run : ChunkRun K)
    (g : GripperCommand K) (state : RobotState K) :
    Smooth chunk (tryFireClose executed run g state) := by
  unfold tryFireClose
  dsimp only
  split
  · split
    · exact smooth_pure _
    · exact smooth_pure _
  · exact (smooth_moveGripper g).bind fun _ => smooth_pure _

theorem smooth_firePending (executed : CartesianChunk K) (run : ChunkRun K)
    (state : RobotState K) : Smooth chunk (firePending executed run state) := by
  unfold firePending
  split
  · exact smooth_pure _
  · split
    · exact smooth_tryFireClose _ _ _ _
    · exact smooth_pure _

theorem smooth_settleFirst (executed : CartesianChunk K) (run : ChunkRun K)
    (state : RobotState K) : Smooth chunk (settleFirst executed run state) := by
  unfold settleFirst
  split
  · exact smooth_pure _
  · exact smooth_tryFireClose _ _ _ _

theorem smooth_gripperPhase (executed : CartesianChunk K) (controlHz : K)
    (sp : CartesianSetpoint K) (run : ChunkRun K) (state : RobotState K) :
    Smooth chunk (gripperPhase executed controlHz sp run state) := by
  unfold gripperPhase
  split
  · exact smooth_pure _
  · unfold handleGripper
    dsimp only
    split
    · split
      · exact smooth_pure _
      · exact (smooth_settleFirst executed run state).bind fun _ => smooth_pure _
    · exact (smooth_moveGripper _).bind fun _ => smooth_pure _

theorem smooth_recordRow (t0 : K) (pose : Pose K) (state : RobotState K) (run : ChunkRun K) :
    Smooth chunk (recordRow t0 pose state run) := by
  unfold recordRow
  split
  · exact smooth_pure _
  · exact smooth_perfCounter.bind fun _ => smooth_pure _

theorem smooth_afterStream (executed : CartesianChunk K) (t0 : K) (sp : CartesianSetpoint K)
    (state : RobotState K) (pose : Pose K) (run : ChunkRun K) :
    Smooth chunk (afterStream executed t0 sp state pose run) := by
  unfold afterStream
  refine smooth_get.bind fun robot => ?_
  refine (smooth_firePending executed run state).bind fun run₁ => ?_
  refine (smooth_gripperPhase executed robot.controlHz sp run₁ state).bind fun run₂ => ?_
  exact (smooth_recordRow t0 pose state run₂).bind fun _ => smooth_pure _

theorem smooth_resolvePending (executed : CartesianChunk K) (run : ChunkRun K) :
    Smooth chunk (resolvePending executed run) := by
  unfold resolvePending
  split
  · exact smooth_pure _
  · dsimp only
    split
    · exact smooth_getState.bind fun _ => smooth_tryFireClose _ _ _ _
    · split
      · exact smooth_pure _
      · exact smooth_pure _

theorem smooth_armWrenchLimit (relaxed : Bool) (wrenchCap : Wrench K) :
    Smooth chunk (armWrenchLimit relaxed wrenchCap) := by
  unfold armWrenchLimit
  split
  · intro robot progress _
    rw [wp_backend]
    refine ⟨trivial, fun answer admitted => ?_⟩
    have accepted : answer = .ok () := admitted
    rw [accepted]
    exact ⟨⟨(), rfl⟩, rfl⟩
  · exact smooth_pure ()

theorem smooth_restoreWrenchLimit (relaxed : Bool) (run : ChunkRun K) (robot : Robot K)
    (progress : ChunkProgress) :
    wp (chunkProgress chunk) (restoreWrenchLimit relaxed run)
      (fun out _ progress' => out = .ok run ∧ progress' = progress) robot progress := by
  unfold restoreWrenchLimit
  split
  · rw [wp_bind, wp_get, afterStep_ok, wp_bind, wp_op]
    refine ⟨trivial, fun answer admitted => ?_⟩
    have accepted : answer = .ok () := admitted
    rw [accepted]
    exact ⟨rfl, rfl⟩
  · exact ⟨rfl, rfl⟩

theorem ChunkProgress.Ready.settled {progress : ChunkProgress} (ready : progress.Ready) :
    progress ≠ .entering false := by
  intro same
  rcases ready with armed | looping
  · rw [same] at armed
    cases armed
  · rw [same] at looping
    cases looping

theorem ChunkProgress.Accounts.settled {progress : ChunkProgress} {result : ExecutionResult K}
    (accounts : progress.Accounts result) : progress ≠ .entering false := by
  rcases accounts with ⟨ready, _⟩ | ⟨byUser, stopping, _⟩
  · exact ready.settled
  · rw [stopping]
    exact fun impossible => by cases impossible

theorem wp_check (report : α → ExecutionResult K) {a : α} (failed : (report a).success = false)
    (robot : Robot K) :
    wp (chunkProgress chunk) (do FlexivControl.backend .stop; pure (a, false))
      (TickProgress report) robot .tested := by
  rw [wp_bind, wp_backend]
  refine ⟨Or.inl rfl, fun answer admitted => ?_⟩
  have accepted : answer = .ok () := admitted
  rw [accepted]
  exact ⟨Or.inr ⟨false, rfl, failed, fun impossible => (by cases impossible)⟩,
    fun impossible => by cases impossible⟩

theorem wp_obeyed (report : α → ExecutionResult K) {a : α} (failed : (report a).success = false)
    (user : (report a).stopReason = .user) (robot : Robot K) :
    wp (chunkProgress chunk) (do cancelTick; pure (a, false)) (TickProgress report) robot
      (.stopping true) := by
  rw [wp_bind]
  unfold cancelTick
  rw [wp_bind, wp_op]
  refine ⟨rfl, fun _ _ => ?_⟩
  rw [afterStep_ok, wp_backend]
  refine ⟨Or.inr rfl, fun answer admitted => ?_⟩
  have accepted : answer = .ok () := admitted
  rw [accepted]
  exact ⟨Or.inr ⟨true, rfl, failed, fun _ => user⟩, fun impossible => by cases impossible⟩

theorem wp_cartesianTick_progress (executed : CartesianChunk K) (wrenchCap : Wrench K) (t0 : K)
    (sp : CartesianSetpoint K) (run : ChunkRun K) (succeeding : run.result.success = true)
    (robot : Robot K) {progress : ChunkProgress} (ready : progress.Ready) :
    wp (chunkProgress chunk) (cartesianTick executed wrenchCap t0 sp run)
      (TickProgress ChunkRun.result) robot progress := by
  unfold cartesianTick cancelIsSet
  dsimp only
  rw [wp_bind, wp_op]
  refine ⟨ready, fun set _ => ?_⟩
  rw [afterStep_ok]
  cases set with
  | true =>
      rw [if_pos rfl]
      exact wp_obeyed ChunkRun.result rfl rfl robot
  | false =>
      have armed : ChunkProgress.tested ≠ .entering false := fun impossible => by cases impossible
      change wp (chunkProgress chunk) _ _ robot ChunkProgress.tested
      rw [if_neg Bool.false_ne_true, wp_bind]
      apply wp_mono (smooth_getState robot .tested armed)
      rintro out robot progress ⟨⟨state, ended⟩, same⟩
      subst same
      subst ended
      rw [afterStep_ok, wp_bind]
      apply wp_mono (smooth_inFault robot .tested armed)
      rintro out robot progress ⟨⟨faulted, ended⟩, same⟩
      subst same
      subst ended
      rw [afterStep_ok]
      split
      · exact wp_check ChunkRun.result rfl robot
      · split
        · exact wp_check ChunkRun.result rfl robot
        · rw [wp_bind, wp_filterCartesian, afterStep_ok]
          split
          · rename_i pose _ _
            rw [wp_bind, wp_backend]
            refine ⟨rfl, fun answer _ => ?_⟩
            cases answer with
            | error e => exact rfl
            | ok _ =>
                rw [afterStep_ok, wp_bind]
                have looping : ChunkProgress.looping ≠ .entering false :=
                  fun impossible => by cases impossible
                apply wp_mono (wp_returns
                  (smooth_afterStream executed t0 sp state pose _ _ .looping looping)
                  (returns_afterStream executed t0 sp state pose _))
                rintro out robot progress ⟨⟨⟨run', ended⟩, same⟩, kept⟩
                subst same
                subst ended
                refine ⟨Or.inl ⟨Or.inr rfl, ?_⟩, fun _ => rfl⟩
                rw [(kept run' rfl).1]
                split
                · exact succeeding
                · exact succeeding
          · exact wp_check ChunkRun.result rfl _

theorem wp_cartesianTicks_progress (executed : CartesianChunk K) (wrenchCap : Wrench K) (t0 : K)
    (setpoints : List (CartesianSetpoint K)) :
    ∀ (run : ChunkRun K) (_ : run.result.success = true) (robot : Robot K)
      (progress : ChunkProgress) (_ : progress.Ready),
      wp (chunkProgress chunk) (cartesianTicks executed wrenchCap t0 setpoints run)
        (PartProgress ChunkRun.result) robot progress := by
  induction setpoints with
  | nil => exact fun _ succeeding _ _ ready => Or.inl ⟨ready, succeeding⟩
  | cons sp rest ih =>
      intro run succeeding robot progress ready
      unfold cartesianTicks
      rw [wp_bind]
      apply wp_mono (wp_cartesianTick_progress executed wrenchCap t0 sp run succeeding robot ready)
      intro out robot' progress' ended
      cases out with
      | error e => exact ended
      | ok out =>
          obtain ⟨run', goOn⟩ := out
          obtain ⟨accounts, loops⟩ := ended
          cases goOn with
          | false => exact accounts
          | true =>
              have looping : progress' = .looping := loops rfl
              subst looping
              rcases accounts with ⟨ready', succeeding'⟩ | ⟨_, impossible, _⟩
              · exact ih run' succeeding' robot' .looping ready'
              · cases impossible

theorem wp_guardedTicks_progress (executed : CartesianChunk K) (wrenchCap : Wrench K)
    (relaxed : Bool) (t0 : K) (setpoints : List (CartesianSetpoint K)) (run : ChunkRun K)
    (succeeding : run.result.success = true) (robot : Robot K) {progress : ChunkProgress}
    (ready : progress.Ready) :
    wp (chunkProgress chunk) (guardedTicks executed wrenchCap relaxed t0 setpoints run)
      (PartProgress ChunkRun.result) robot progress := by
  unfold guardedTicks
  rw [wp_bind, wp_tryCatch, wp_bind]
  apply wp_mono (wp_cartesianTicks_progress executed wrenchCap t0 setpoints run succeeding robot
    progress ready)
  intro out robot' progress' ended
  cases out with
  | error e =>
      have refused : progress' = .refused e := ended
      rw [afterStep_error, afterStep_error]
      change wp _ (do
        let _ ← restoreWrenchLimit relaxed run
        throw e) _ _ _
      rw [wp_bind]
      apply wp_mono (smooth_restoreWrenchLimit relaxed run robot' progress')
      rintro out robot'' progress'' ⟨restored, same⟩
      rw [same, restored]
      exact refused
  | ok run' =>
      have accounts : progress'.Accounts run'.result := ended
      rw [afterStep_ok, wp_bind]
      apply wp_mono (wp_returns (smooth_resolvePending executed run' robot' progress'
        accounts.settled) (returns_resolvePending executed run'))
      rintro out robot'' progress'' ⟨⟨⟨run'', resolved⟩, same⟩, kept⟩
      subst same
      subst resolved
      apply wp_mono (smooth_restoreWrenchLimit relaxed run'' robot'' progress'')
      rintro out robot''' progress''' ⟨restored, same⟩
      rw [same, restored]
      exact accounts.same (kept run'' rfl)

theorem wp_ensureCartesianStart_progress (requested : CartesianChunk K)
    (result : ExecutionResult K) (robot : Robot K) :
    wp (chunkProgress chunk) (ensureCartesianStart requested result)
      (fun out robot' progress => (∃ state result', out = .ok (state, result') ∧
        result.SameOutcome result' ∧ ∃ executed, chunk.forExecution state.tcpPose = .ok executed) ∧
          robot' = robot ∧ progress = .entering true) robot (.entering false) := by
  unfold ensureCartesianStart
  rw [wp_bind]
  apply wp_mono (wp_getState_seeing robot (.entering false))
  rintro out robot' progress ⟨start, ended, resolves, sameRobot, seen⟩
  subst ended
  subst sameRobot
  subst seen
  rw [afterStep_ok]
  split
  · rename_i cartesian
    refine ⟨⟨start, result, rfl, result.sameOutcome_refl, resolves⟩, rfl, ?_⟩
    unfold ChunkProgress.seeing
    rw [cartesian]
    rfl
  · rename_i other
    rw [Bool.not_eq_true] at other
    unfold ChunkProgress.seeing startCartesianImpedance
    rw [other, wp_bind, wp_bind, wp_get, afterStep_ok, wp_backend]
    refine ⟨⟨rfl, rfl⟩, fun answer admitted => ?_⟩
    have accepted : answer = .ok () := admitted
    rw [accepted, afterStep_ok, wp_bind]
    apply wp_mono (wp_getState_seeing robot' (.entering true))
    rintro out robot'' progress ⟨started, ended, resolves, sameRobot, seen⟩
    subst ended
    subst sameRobot
    exact ⟨⟨started, _, rfl, result.sameOutcome_note _ _, resolves⟩, rfl, seen⟩

theorem wp_returnResult_progress {progress : ChunkProgress} {result : ExecutionResult K}
    (accounts : progress.Accounts result) (raiseOnStop : Bool) (robot : Robot K) :
    wp (chunkProgress chunk) (returnResult result raiseOnStop) (ChunkProgressEnds raiseOnStop)
      robot progress := by
  unfold returnResult
  rw [wp_bind, wp_op]
  refine ⟨trivial, fun _ _ => ?_⟩
  rw [afterStep_ok]
  change wp (chunkProgress chunk) _ _ robot progress
  split
  · rename_i raises
    exact Or.inl ⟨result, (if_pos raises).symm, accounts⟩
  · rename_i returns
    exact Or.inl ⟨result, (if_neg returns).symm, accounts⟩

theorem wp_finalState_progress {f : RobotState K → RobotM K (ExecutionResult K)}
    {progress : ChunkProgress} {raiseOnStop : Bool} {robot : Robot K}
    (settled : progress ≠ .entering false)
    (rest : ∀ state robot, wp (chunkProgress chunk) (f state) (ChunkProgressEnds raiseOnStop)
      robot progress) :
    wp (chunkProgress chunk) (getState >>= f) (ChunkProgressEnds raiseOnStop) robot progress := by
  rw [wp_bind]
  apply wp_mono (smooth_getState robot progress settled)
  rintro out robot' progress' ⟨⟨state, ended⟩, same⟩
  subst same
  subst ended
  exact rest state robot'

theorem wp_abortAtEntry_progress (raiseOnStop : Bool) (robot : Robot K) :
    wp (chunkProgress chunk) (abortAtEntry raiseOnStop) (ChunkProgressEnds raiseOnStop) robot
      (.stopping true) := by
  unfold abortAtEntry
  rw [wp_bind, wp_op]
  refine ⟨rfl, fun _ _ => ?_⟩
  rw [afterStep_ok]
  apply wp_finalState_progress
  · exact fun impossible => by cases impossible
  · intro state robot'
    apply wp_returnResult_progress
    exact Or.inr ⟨true, rfl, rfl, fun _ => rfl⟩

/-- A chunk that names no other profile than the active one. -/
def CartesianChunk.NamesActive (chunk : CartesianChunk K) (robot : Robot K) : Prop :=
  chunk.safetyProfile = "" ∨ chunk.safetyProfile = robot.profile.name

theorem wp_verifyChunkProfile_progress {robot : Robot K} (named : chunk.NamesActive robot)
    (result : ExecutionResult K) (progress : ChunkProgress) :
    wp (chunkProgress chunk) (verifyChunkProfile chunk.safetyProfile result)
      (fun out robot' progress' => (∃ result', out = .ok result' ∧ result.SameOutcome result') ∧
        robot' = robot ∧ progress' = progress) robot progress := by
  unfold verifyChunkProfile
  rw [wp_bind, wp_get, afterStep_ok]
  dsimp only
  rw [if_neg]
  · exact ⟨⟨_, rfl, rfl, rfl⟩, rfl, rfl⟩
  · rintro ⟨given, other⟩
    rcases named with unnamed | active
    · exact given unnamed
    · exact other active

theorem wp_runCartesianChunk_progress {robot : Robot K} (named : chunk.NamesActive robot)
    (raiseOnStop record : Bool) :
    wp (chunkProgress chunk) (runCartesianChunk chunk raiseOnStop record)
      (ChunkProgressEnds raiseOnStop) robot (.entering false) := by
  unfold runCartesianChunk
  rw [wp_bind]
  apply wp_mono (wp_verifyChunkProfile_progress named {} _)
  rintro out robot' progress ⟨⟨result, verified, outcome⟩, sameRobot, same⟩
  subst same
  subst verified
  rw [afterStep_ok, wp_bind]
  apply wp_mono (wp_ensureCartesianStart_progress chunk result robot')
  rintro out robot'' progress ⟨⟨start, result', started, kept, executed, resolved⟩, _, same⟩
  subst same
  subst started
  have succeeding : result'.success = true := (outcome.trans kept).1
  have armed : ChunkProgress.entering true ≠ .entering false := fun impossible => by cases impossible
  rw [afterStep_ok]
  dsimp only
  rw [wp_bind, wp_resetFilter, afterStep_ok, wp_bind, wp_attempt, resolved, afterStep_ok, wp_bind,
    wp_get, afterStep_ok]
  dsimp only
  rw [wp_bind]
  apply wp_mono (smooth_armWrenchLimit _ _ _ _ armed)
  rintro out robot₁ progress ⟨⟨_, ended⟩, same⟩
  subst same
  subst ended
  rw [afterStep_ok, wp_bind]
  apply wp_mono (smooth_perfCounter robot₁ _ armed)
  rintro out robot₂ progress ⟨⟨t0, ended⟩, same⟩
  subst same
  subst ended
  rw [afterStep_ok, wp_bind]
  apply wp_mono (wp_guardedTicks_progress _ _ _ _ _ _ ?_ _ (Or.inl rfl))
  · intro out robot₃ progress ended
    cases out with
    | error e => exact Or.inr ⟨e, rfl, ended⟩
    | ok run =>
        have accounts : progress.Accounts run.result := ended
        rw [afterStep_ok]
        apply wp_finalState_progress accounts.settled
        intro final robot₄
        exact wp_returnResult_progress (accounts.same (run.sameOutcome_report start final))
          raiseOnStop robot₄
  · dsimp only
    split
    · exact succeeding
    · exact succeeding

theorem wp_executeCartesianChunk_progress {robot : Robot K} (named : chunk.NamesActive robot)
    (raiseOnStop record : Bool) :
    wp (chunkProgress chunk) (executeCartesianChunk chunk raiseOnStop record)
      (ChunkProgressEnds raiseOnStop) robot (.entering false) := by
  have entered : wp (chunkProgress chunk) (do
      if ← cancelIsSet .entry then abortAtEntry raiseOnStop
      else runCartesianChunk chunk raiseOnStop record)
      (ChunkProgressEnds raiseOnStop) robot (.entering false) := by
    unfold cancelIsSet
    rw [wp_bind, wp_op]
    refine ⟨rfl, fun set _ => ?_⟩
    rw [afterStep_ok]
    cases set with
    | true => exact wp_abortAtEntry_progress raiseOnStop robot
    | false => exact wp_runCartesianChunk_progress named raiseOnStop record
  unfold executeCartesianChunk checkLease
  rw [wp_bind, wp_bind, wp_op]
  refine ⟨trivial, fun owner _ => ?_⟩
  cases owner with
  | none => exact ⟨trivial, fun _ _ => entered⟩
  | some owner => exact entered

end Parts

/-! ### The chunk and the stop side by side -/

inductive ChunkThread where
  | executor
  | stopper
  deriving DecidableEq, Repr

/-- A step of the race between the two. -/
abbrev ChunkStopEvent (K : Type) [Scalar K] := Event (effects K) ChunkThread Empty

def Ordinary : Call (effects K) → Prop
  | ⟨.inFault, answer⟩ => ∃ faulted, answer = .ok faulted
  | ⟨.write (.streamCartesian _ _), .error e⟩ => e.kind = .runtimeError
  | _ => True

/-- The flag and the mode both threads act on. -/
def stopRace : Machine (effects K) ChunkThread Empty FakeState where
  enabled s
    | .call _ c => s.Answers c ∧ Ordinary c
    | .env _ => False
  next s
    | .call _ c => s.after c
    | .env _ => s

/-- Whether the stop of the backend has hit a tick between its test and its setpoint. -/
inductive Gap where
  | shut
  | pending (halted : Bool)
  | hit
  deriving DecidableEq, Repr

def Gap.halt : Gap → Gap
  | .pending _ => .pending true
  | gap => gap

def Gap.stream : Gap → Gap
  | .pending true => .hit
  | .hit => .hit
  | _ => .shut

def Gap.test (set : Bool) : Gap → Gap
  | .hit => .hit
  | _ => if set then .shut else .pending false

def Gap.next (gap : Gap) : ChunkStopEvent K → Gap
  | .call .executor ⟨.cancelIsSet .tick, set⟩ => gap.test set
  | .call .executor ⟨.write (.streamCartesian _ _), _⟩ => gap.stream
  | .call .stopper ⟨.write .stop, _⟩ => gap.halt
  | _ => gap

/-- The backend is stopped between a test that found no request and the setpoint of the
same tick. -/
def HaltsUnderSetpoint (events : List (ChunkStopEvent K)) : Prop :=
  events.foldl Gap.next .shut = .hit

/-- A check of the tick itself stopped the arm before the request was found. -/
def StoppedByCheck (calls : List (Call (effects K))) : Prop :=
  ⟨.write .stop, .ok ()⟩ ∈ calls ∧ ⟨.cancelClear, ()⟩ ∉ calls

/-- Every setpoint of the executor comes before the backend is stopped. -/
def StreamsBeforeHalt (events : List (ChunkStopEvent K)) : Prop :=
  ∀ pre post : List (ChunkStopEvent K), events = pre ++ .call .stopper ⟨.write .stop, .ok ()⟩ :: post →
    ∀ pose wrench answer,
      ⟨.write (.streamCartesian pose wrench), answer⟩ ∉ callsOf ChunkThread.executor post

/-- The chunk hands back a result: stopped, or complete with the stop behind its setpoints. -/
def EndsWithResult (raiseOnStop : Bool) (events : List (ChunkStopEvent K))
    (out : Except Exc (ExecutionResult K)) : Prop :=
  ∃ result, out = returned raiseOnStop result ∧
    ((result.success = false ∧
        (result.stopReason = .user ∨ StoppedByCheck (callsOf .executor events))) ∨
      (result.success = true ∧ StreamsBeforeHalt events))

inductive StopperAt where
  | idle
  | flagged
  | done
  deriving DecidableEq, Repr

def StopperAt.left : StopperAt → List (Call (effects K))
  | .idle => [⟨.cancelSet, ()⟩, ⟨.write .stop, .ok ()⟩]
  | .flagged => [⟨.write .stop, .ok ()⟩]
  | .done => []

structure RaceState where
  progress : ChunkProgress
  gap : Gap
  fake : FakeState
  stopper : StopperAt

def ChunkProgress.Running (progress : ChunkProgress) : Prop :=
  progress.Ready ∨ progress = .tested

structure RaceState.Consistent (s : RaceState) : Prop where
  cartesian : s.progress.Running → s.stopper ≠ .done → s.fake.mode.isCartesian = true
  pending : (s.progress.Running ∨ s.progress = .entering false) → s.stopper ≠ .idle →
    s.fake.pending = true
  open_ : s.progress = .tested → ∃ halted, s.gap = .pending halted ∧
    (halted = true ↔ s.stopper = .done)
  idle : s.progress = .tested → s.stopper = .done → s.fake.mode = .idle
  hit : s.gap = .hit ↔ ∃ e, s.progress = .refused e
  ordinary : ∀ e, s.progress = .refused e → e.kind = .runtimeError

def RaceState.executed (s : RaceState) (c : Call (effects K)) : RaceState where
  progress := s.progress.after c
  gap := s.gap.next (.call .executor c)
  fake := s.fake.after c
  stopper := s.stopper

def RaceState.Stopping (s : RaceState) : Prop := ∃ byUser, s.progress = .stopping byUser

theorem RaceState.consistent_stopping {s : RaceState} (stopping : s.Stopping)
    (missed : s.gap ≠ .hit) : s.Consistent := by
  obtain ⟨byUser, same⟩ := stopping
  have idle : ¬ s.progress.Running := by
    rw [same]
    rintro ((impossible | impossible) | impossible)
    all_goals cases impossible
  refine ⟨fun running => absurd running idle, ?_, ?_, ?_, ?_, ?_⟩
  · rintro (running | entering)
    · exact absurd running idle
    · rw [same] at entering
      cases entering
  · intro tested
    rw [same] at tested
    cases tested
  · intro tested
    rw [same] at tested
    cases tested
  · constructor
    · exact fun hit => absurd hit missed
    · rintro ⟨e, refused⟩
      rw [same] at refused
      cases refused
  · intro e refused
    rw [same] at refused
    cases refused

theorem RaceState.Consistent.missed {s : RaceState} (consistent : s.Consistent)
    (unrefused : ∀ e, s.progress ≠ .refused e) : s.gap ≠ .hit := by
  intro hit
  obtain ⟨e, refused⟩ := consistent.hit.mp hit
  exact unrefused e refused

section Steps

variable {s : RaceState} {c : Call (effects K)}

theorem RaceState.Consistent.seeing (consistent : s.Consistent) {state : RobotState K}
    (reported : state.controlMode = s.fake.mode) :
    ({ s with progress := s.progress.seeing state.controlMode } : RaceState).Consistent := by
  obtain ⟨progress, gap, fake, stopper⟩ := s
  cases progress with
  | entering armed =>
      cases found : armed || state.controlMode.isCartesian with
      | false =>
          have unarmed : armed = false := (Bool.or_eq_false_iff.mp found).1
          subst unarmed
          change RaceState.Consistent ⟨.entering (false || state.controlMode.isCartesian), _, _, _⟩
          rw [found]
          exact consistent
      | true =>
          change RaceState.Consistent ⟨.entering (armed || state.controlMode.isCartesian), _, _, _⟩
          rw [found]
          cases armed with
          | true => exact consistent
          | false =>
              have cartesian : fake.mode.isCartesian = true := reported ▸ found
              refine ⟨fun _ _ => cartesian, ?_, ?_, ?_, ?_, ?_⟩
              · exact fun _ started => consistent.pending (Or.inr rfl) started
              · exact fun impossible => by cases impossible
              · exact fun impossible => by cases impossible
              · exact ⟨fun hit => absurd hit (consistent.missed fun e impossible => by cases impossible),
                  fun refused => by obtain ⟨e, impossible⟩ := refused; cases impossible⟩
              · exact fun e impossible => by cases impossible
  | looping => exact consistent
  | tested => exact consistent
  | stopping byUser => exact consistent
  | refused e => exact consistent

/-- A test that finds no request was made before the stop began. -/
theorem RaceState.Consistent.tested (consistent : s.Consistent) (ready : s.progress.Ready)
    (clear : s.fake.pending = false) :
    ({ s with progress := .tested, gap := .pending false } : RaceState).Consistent := by
  have unflagged : s.stopper = .idle := by
    by_contra started
    have set := consistent.pending (Or.inl (Or.inl ready)) started
    rw [clear] at set
    cases set
  have undone : s.stopper ≠ .done := by
    rw [unflagged]
    exact fun impossible => by cases impossible
  refine ⟨?_, ?_, ?_, ?_, ?_, ?_⟩
  · exact fun _ _ => consistent.cartesian (Or.inl ready) undone
  · exact fun _ started => absurd unflagged started
  · intro _
    refine ⟨false, rfl, ?_, ?_⟩
    · exact fun impossible => by cases impossible
    · exact fun done => absurd done undone
  · exact fun _ done => absurd done undone
  · constructor
    · exact fun impossible => by cases impossible
    · rintro ⟨e, impossible⟩
      cases impossible
  · exact fun e impossible => by cases impossible

/-- The setpoint is refused exactly where the backend has been stopped since the test. -/
theorem RaceState.Consistent.streamed (consistent : s.Consistent) (tested : s.progress = .tested)
    {answer : Except Exc Unit} (answers : answer = .ok () ↔ s.fake.mode.isCartesian = true)
    (ordinary : ∀ e, answer = .error e → e.kind = .runtimeError) :
    ({ s with progress := .streamed answer, gap := s.gap.stream } : RaceState).Consistent := by
  obtain ⟨halted, opened, done⟩ := consistent.open_ tested
  cases halted with
  | true =>
      have idle := consistent.idle tested (done.mp rfl)
      cases answer with
      | ok _ =>
          have cartesian := answers.mp rfl
          rw [idle] at cartesian
          cases cartesian
      | error e =>
          have raised := ordinary e rfl
          have refusing : ∀ running : (ChunkProgress.refused e).Running, False := by
            rintro ((impossible | impossible) | impossible)
            all_goals cases impossible
          refine ⟨?_, ?_, ?_, ?_, ?_, ?_⟩
          · exact fun running => absurd running refusing
          · rintro (running | impossible)
            · exact absurd running refusing
            · cases impossible
          · exact fun impossible => by cases impossible
          · exact fun impossible => by cases impossible
          · rw [opened]
            exact ⟨fun _ => ⟨e, rfl⟩, fun _ => rfl⟩
          · intro e' same
            cases same
            exact raised
  | false =>
      have undone : s.stopper ≠ .done := fun same => by cases done.mpr same
      have cartesian := consistent.cartesian (Or.inr tested) undone
      have accepted := answers.mpr cartesian
      subst accepted
      refine ⟨fun _ _ => cartesian, ?_, ?_, ?_, ?_, ?_⟩
      · exact fun _ started => consistent.pending (Or.inl (Or.inr tested)) started
      · exact fun impossible => by cases impossible
      · exact fun impossible => by cases impossible
      · rw [opened]
        constructor
        · exact fun impossible => by cases impossible
        · rintro ⟨e, impossible⟩
          cases impossible
      · exact fun e impossible => by cases impossible

theorem Gap.test_missed {gap : Gap} (missed : gap ≠ .hit) (set : Bool) :
    gap.test set = if set then .shut else .pending false := by
  cases gap with
  | hit => exact absurd rfl missed
  | _ => rfl

theorem RaceState.Consistent.found (consistent : s.Consistent)
    (unrefused : ∀ e, s.progress ≠ .refused e) :
    ({ s with progress := .stopping true, gap := s.gap.test true } : RaceState).Consistent := by
  apply RaceState.consistent_stopping ⟨true, rfl⟩
  rw [Gap.test_missed (consistent.missed unrefused)]
  exact fun impossible => by cases impossible

theorem ChunkProgress.Ready.unrefused {progress : ChunkProgress} (ready : progress.Ready)
    (e : Exc) : progress ≠ .refused e := by
  intro refused
  rw [refused] at ready
  rcases ready with impossible | impossible
  · cases impossible
  · cases impossible

theorem RaceState.Consistent.executed (consistent : s.Consistent)
    (allowed : s.progress.Allows c.op) (answers : s.fake.Answers c) (ordinary : Ordinary c) :
    (s.executed c).Consistent := by
  obtain ⟨op, answer⟩ := c
  cases op with
  | readState =>
      obtain ⟨state, read, reported⟩ := answers
      change answer = .ok state at read
      subst read
      exact consistent.seeing reported
  | cancelIsSet site =>
      have reported : answer = s.fake.pending := answers
      cases site with
      | entry =>
          have entering : s.progress = .entering false := allowed
          cases set : answer with
          | true =>
              apply RaceState.consistent_stopping ⟨true, rfl⟩
              apply consistent.missed
              rw [entering]
              exact fun e impossible => by cases impossible
          | false => exact consistent
      | tick =>
          have ready : s.progress.Ready := allowed
          cases set : answer with
          | true => exact consistent.found ready.unrefused
          | false =>
              have clear : s.fake.pending = false := reported.symm.trans set
              have opened : s.gap.test false = .pending false :=
                Gap.test_missed (consistent.missed ready.unrefused) false
              have tested := consistent.tested ready clear
              rw [← opened] at tested
              exact tested
      | _ => exact absurd allowed id
  | cancelSet => exact absurd allowed id
  | cancelClear =>
      have stopping : s.progress = .stopping true := allowed
      have still : (s.executed ⟨.cancelClear, answer⟩).Stopping := ⟨true, stopping⟩
      apply RaceState.consistent_stopping still
      apply consistent.missed
      rw [stopping]
      exact fun e impossible => by cases impossible
  | write call =>
      cases call with
      | setMode mode params =>
          obtain ⟨cartesian, entering⟩ : mode.isCartesian = true ∧ s.progress = .entering false :=
            allowed
          refine ⟨fun _ _ => cartesian, ?_, ?_, ?_, ?_, ?_⟩
          · exact fun _ started => consistent.pending (Or.inr entering) started
          · exact fun impossible => by cases impossible
          · exact fun impossible => by cases impossible
          · constructor
            · intro hit
              apply absurd hit
              apply consistent.missed
              rw [entering]
              exact fun e impossible => by cases impossible
            · rintro ⟨e, impossible⟩
              cases impossible
          · exact fun e impossible => by cases impossible
      | streamCartesian pose wrench =>
          have tested : s.progress = .tested := allowed
          apply consistent.streamed tested answers
          intro e raised
          change answer = .error e at raised
          subst raised
          exact ordinary
      | stop =>
          have halting : s.progress = .tested ∨ s.progress = .stopping true := allowed
          have stopping : (s.executed ⟨.write .stop, answer⟩).Stopping := by
            rcases halting with tested | stopping
            · refine ⟨false, ?_⟩
              change s.progress.halted = _
              rw [tested]
              rfl
            · refine ⟨true, ?_⟩
              change s.progress.halted = _
              rw [stopping]
              rfl
          apply RaceState.consistent_stopping stopping
          apply consistent.missed
          intro e refused
          rw [refused] at halting
          rcases halting with impossible | impossible
          · cases impossible
          · cases impossible
      | streamJoint q => exact absurd allowed id
      | home qHome => exact absurd allowed id
      | _ => exact consistent
  | _ => exact consistent

theorem RaceState.Consistent.flags (consistent : s.Consistent) (idle : s.stopper = .idle) :
    ({ s with fake := { s.fake with pending := true }, stopper := .flagged } :
      RaceState).Consistent := by
  refine ⟨?_, fun _ _ => rfl, ?_, ?_, consistent.hit, consistent.ordinary⟩
  · intro running _
    apply consistent.cartesian running
    rw [idle]
    exact fun impossible => by cases impossible
  · intro tested
    obtain ⟨halted, opened, done⟩ := consistent.open_ tested
    refine ⟨halted, opened, ?_, fun impossible => by cases impossible⟩
    intro halts
    rw [idle] at done
    cases done.mp halts
  · exact fun _ impossible => by cases impossible

theorem RaceState.Consistent.halts (consistent : s.Consistent) (flagged : s.stopper = .flagged) :
    ({ s with fake := { s.fake with mode := .idle }, gap := s.gap.halt, stopper := .done } :
      RaceState).Consistent := by
  have started : s.stopper ≠ .idle := by
    rw [flagged]
    exact fun impossible => by cases impossible
  refine ⟨?_, ?_, ?_, fun _ _ => rfl, ?_, consistent.ordinary⟩
  · exact fun _ undone => absurd rfl undone
  · exact fun meaning _ => consistent.pending meaning started
  · intro tested
    obtain ⟨halted, opened, _⟩ := consistent.open_ tested
    refine ⟨true, ?_, fun _ => rfl, fun _ => rfl⟩
    change s.gap.halt = _
    rw [opened]
    rfl
  · change s.gap.halt = .hit ↔ _
    rw [← consistent.hit]
    cases s.gap with
    | pending halted =>
        constructor
        · exact fun impossible => by cases impossible
        · exact fun impossible => by cases impossible
    | _ => exact Iff.rfl

end Steps

/-! ### Whole races -/

section Races

variable {chunk : CartesianChunk K} {s : RaceState} {events : List (ChunkStopEvent K)}
  {calls : List (Call (effects K))} {progress : ChunkProgress}

structure RaceFrom (chunk : CartesianChunk K) (s : RaceState) (events : List (ChunkStopEvent K)) :
    Prop where
  consistent : s.Consistent
  allowed : (chunkProgress chunk).Allowed s.progress (callsOf .executor events)
  valid : stopRace.Valid s.fake events
  left : callsOf .stopper events = s.stopper.left

theorem RaceFrom.executor_step {c : Call (effects K)}
    (race : RaceFrom chunk s (.call .executor c :: events)) :
    RaceFrom chunk (s.executed c) events := by
  obtain ⟨consistent, allowed, valid, left⟩ := race
  rw [callsOf_own] at allowed
  exact ⟨consistent.executed allowed.1 valid.1.1 valid.1.2, allowed.2, valid.2, left⟩

theorem RaceFrom.stopper_step {c : Call (effects K)}
    (race : RaceFrom chunk s (.call .stopper c :: events)) :
    ∃ s', RaceFrom chunk s' events ∧ s'.progress = s.progress ∧
      s'.gap = s.gap.next (.call .stopper c) ∧ (c.op = .write .stop → s'.stopper = .done) := by
  obtain ⟨consistent, allowed, valid, left⟩ := race
  rw [callsOf_own] at left
  cases at_ : s.stopper with
  | idle =>
      rw [at_] at left
      obtain ⟨call, rest⟩ := List.cons.inj left
      subst call
      refine ⟨_, ⟨consistent.flags at_, allowed, valid.2, rest⟩, rfl, rfl, ?_⟩
      exact fun impossible => by cases impossible
  | flagged =>
      rw [at_] at left
      obtain ⟨call, rest⟩ := List.cons.inj left
      subst call
      exact ⟨_, ⟨consistent.halts at_, allowed, valid.2, rest⟩, rfl, rfl, fun _ => rfl⟩
  | done =>
      rw [at_] at left
      cases left

theorem RaceFrom.ends (race : RaceFrom chunk s events) :
    ∃ s' : RaceState, s'.Consistent ∧
      s'.progress = (chunkProgress chunk).run s.progress (callsOf .executor events) ∧
      s'.gap = events.foldl Gap.next s.gap := by
  induction events generalizing s with
  | nil => exact ⟨s, race.consistent, rfl, rfl⟩
  | cons e rest ih =>
      cases e with
      | env move => cases move
      | call thread c =>
          cases thread with
          | executor =>
              rw [callsOf_own]
              exact ih race.executor_step
          | stopper =>
              obtain ⟨s₁, later, progress, gap, _⟩ := race.stopper_step
              obtain ⟨s', consistent, ended, closed⟩ := ih later
              rw [progress] at ended
              rw [gap] at closed
              exact ⟨s', consistent, ended, closed⟩

def ChunkProgress.Settled (progress : ChunkProgress) : Prop :=
  (∃ byUser, progress = .stopping byUser) ∨ ∃ e, progress = .refused e

theorem ChunkProgress.Settled.after (settled : progress.Settled) {c : Call (effects K)}
    (allowed : progress.Allows c.op) : progress.after c = progress := by
  have unready : ¬ progress.Ready := by
    rcases settled with ⟨byUser, same⟩ | ⟨e, same⟩
    all_goals
      subst same
      rintro (impossible | impossible)
      all_goals cases impossible
  have entered : progress ≠ .entering false ∧ progress ≠ .tested := by
    rcases settled with ⟨byUser, same⟩ | ⟨e, same⟩
    all_goals
      subst same
      exact ⟨fun impossible => (by cases impossible), fun impossible => by cases impossible⟩
  obtain ⟨op, answer⟩ := c
  cases op with
  | readState =>
      cases answer with
      | error e => rfl
      | ok state => exact progress.seeing_armed entered.1 state.controlMode
  | cancelIsSet site =>
      cases site with
      | entry => exact absurd allowed entered.1
      | tick => exact absurd allowed unready
      | _ => exact absurd allowed id
  | write call =>
      cases call with
      | setMode mode params => exact absurd allowed.2 entered.1
      | streamCartesian pose wrench => exact absurd allowed entered.2
      | stop =>
          rcases settled with ⟨byUser, same⟩ | ⟨e, same⟩
          · subst same
            rfl
          · subst same
            rfl
      | _ => rfl
  | _ => rfl

theorem ChunkProgress.Settled.stays (settled : progress.Settled)
    (allowed : (chunkProgress chunk).Allowed progress calls) :
    (chunkProgress chunk).run progress calls = progress := by
  induction calls with
  | nil => rfl
  | cons c rest ih =>
      obtain ⟨now, later⟩ := allowed
      have same : (chunkProgress chunk).observe progress c = progress := settled.after now
      rw [same] at later
      rw [Monitor.run_cons, same]
      exact ih later

/-- Only a stop of its own makes the executor stop without having found a request. -/
theorem ChunkProgress.after_checked {c : Call (effects K)} (obliges : Obliges chunk c)
    (ended : progress.after c = .stopping false) :
    progress = .stopping false ∨ c = ⟨.write .stop, .ok ()⟩ := by
  obtain ⟨op, answer⟩ := c
  cases op with
  | readState =>
      left
      cases answer with
      | error e => exact ended
      | ok state =>
          cases progress with
          | entering armed => cases ended
          | _ => exact ended
  | cancelIsSet site =>
      left
      cases site with
      | entry =>
          cases answer with
          | true => cases ended
          | false => exact ended
      | tick =>
          cases answer with
          | true => cases ended
          | false => cases ended
      | _ => exact ended
  | write call =>
      cases call with
      | setMode mode params => cases ended
      | streamCartesian pose wrench =>
          cases answer with
          | ok _ => cases ended
          | error e => cases ended
      | stop =>
          right
          have accepted : answer = .ok () := obliges
          rw [accepted]
      | _ => exact Or.inl ended
  | _ => exact Or.inl ended

/-- What a stop without a request leaves behind. -/
theorem stopping_checked (allowed : (chunkProgress chunk).Allowed progress calls)
    (admitted : (chunkProgress chunk).Admitted progress calls)
    (ended : (chunkProgress chunk).run progress calls = .stopping false) :
    (progress = .stopping false ∨ ⟨.write .stop, .ok ()⟩ ∈ calls) ∧ ⟨.cancelClear, ()⟩ ∉ calls := by
  induction calls generalizing progress with
  | nil => exact ⟨Or.inl ended, List.not_mem_nil⟩
  | cons c rest ih =>
      obtain ⟨now, allowed⟩ := allowed
      obtain ⟨answered, admitted⟩ := admitted
      obtain ⟨halts, unclear⟩ := ih allowed admitted ended
      have kept : c ≠ ⟨.cancelClear, ()⟩ := by
        intro same
        subst same
        have stopping : progress = .stopping true := now
        subst stopping
        have stays := ChunkProgress.Settled.stays (Or.inl ⟨true, rfl⟩) allowed
        rw [Monitor.run_cons] at ended
        cases stays.symm.trans ended
      refine ⟨?_, ?_⟩
      · rcases halts with stopped | later
        · rcases ChunkProgress.after_checked answered stopped with before | call
          · exact Or.inl before
          · rw [call]
            exact Or.inr List.mem_cons_self
        · exact Or.inr (List.mem_cons_of_mem c later)
      · intro member
        rcases List.mem_cons.mp member with same | later
        · exact kept same.symm
        · exact unclear later

/-- Once the backend is stopped, only a setpoint that is refused follows. -/
theorem RaceFrom.silent (race : RaceFrom chunk s events) (done : s.stopper = .done)
    (accepted : ∀ e, (chunkProgress chunk).run s.progress (callsOf .executor events) ≠ .refused e)
    (pose : Pose K) (wrench : Option (Wrench K)) (answer : Except Exc Unit) :
    ⟨.write (.streamCartesian pose wrench), answer⟩ ∉ callsOf ChunkThread.executor events := by
  induction events generalizing s with
  | nil => exact List.not_mem_nil
  | cons e rest ih =>
      cases e with
      | env move => cases move
      | call thread c =>
          cases thread with
          | stopper =>
              have left := race.left
              rw [callsOf_own, done] at left
              cases left
          | executor =>
              rw [callsOf_own] at accepted ⊢
              have later := race.executor_step
              intro member
              rcases List.mem_cons.mp member with same | inRest
              · subst same
                have allowed := race.allowed
                rw [callsOf_own] at allowed
                have tested : s.progress = .tested := allowed.1
                have idle := race.consistent.idle tested done
                have answers : answer = .ok () ↔ s.fake.mode.isCartesian = true := race.valid.1.1
                cases answer with
                | ok _ =>
                    have cartesian := answers.mp rfl
                    rw [idle] at cartesian
                    cases cartesian
                | error e =>
                    apply accepted e
                    exact ChunkProgress.Settled.stays (Or.inr ⟨e, rfl⟩) allowed.2
              · exact ih later done accepted inRest

theorem RaceFrom.streamsBeforeHalt (race : RaceFrom chunk s events)
    (accepted : ∀ e, (chunkProgress chunk).run s.progress (callsOf .executor events) ≠ .refused e) :
    StreamsBeforeHalt events := by
  intro pre post split pose wrench answer
  induction pre generalizing s events with
  | nil =>
      rw [List.nil_append] at split
      subst split
      obtain ⟨s', later, progress, _, done⟩ := race.stopper_step
      rw [← progress] at accepted
      exact later.silent (done rfl) accepted pose wrench answer
  | cons e pre ih =>
      rw [List.cons_append] at split
      subst split
      cases e with
      | env move => cases move
      | call thread c =>
          cases thread with
          | executor =>
              rw [callsOf_own] at accepted
              exact ih race.executor_step accepted rfl
          | stopper =>
              obtain ⟨s', later, progress, _, _⟩ := race.stopper_step
              rw [← progress] at accepted
              exact ih later accepted rfl

theorem race_obliges (valid : stopRace.Valid s.fake events)
    (resolves : ∀ state, ⟨.readState, .ok state⟩ ∈ callsOf ChunkThread.executor events →
      ∃ executed, chunk.forExecution state.tcpPose = .ok executed) :
    ∀ c ∈ callsOf ChunkThread.executor events, Obliges chunk c := by
  intro c member
  obtain ⟨pre, post, split⟩ := List.append_of_mem (callsOf_member.mp member)
  have enabled : stopRace.enabled (stopRace.run s.fake pre) (.call .executor c) := by
    rw [split] at valid
    exact valid.enabled_at
  obtain ⟨answers, ordinary⟩ := enabled
  obtain ⟨op, answer⟩ := c
  cases op with
  | readState =>
      obtain ⟨state, read, _⟩ := answers
      change answer = .ok state at read
      subst read
      exact ⟨state, rfl, resolves state member⟩
  | inFault => exact ordinary
  | write call =>
      cases call with
      | streamCartesian pose wrench => trivial
      | streamJoint q => trivial
      | _ => exact answers
  | _ => trivial

end Races

theorem stop_calls {robot robot' : Robot K} {calls : List (Call (effects K))}
    (ran : Trace (stop robot) calls (.done (.ok (), robot'))) : calls = StopperAt.idle.left := by
  cases ran with
  | @cons _ _ _ calls _ halts =>
      cases halts with
      | @cons _ _ answer _ _ ended =>
          cases answer with
          | error e =>
              obtain ⟨_, same⟩ := ended.of_done
              cases same
          | ok _ =>
              obtain ⟨none, _⟩ := ended.of_done
              subst none
              rfl

theorem raceFrom_start {chunk : CartesianChunk K} {fake : FakeState} {events : List (ChunkStopEvent K)}
    (allowed : (chunkProgress chunk).Allowed (.entering false) (callsOf .executor events))
    (valid : stopRace.Valid fake events)
    (left : callsOf .stopper events = (StopperAt.idle.left : List (Call (effects K)))) :
    RaceFrom chunk ⟨.entering false, .shut, fake, .idle⟩ events := by
  refine ⟨⟨?_, ?_, ?_, ?_, ?_, ?_⟩, allowed, valid, left⟩
  · rintro ((impossible | impossible) | impossible)
    all_goals cases impossible
  · exact fun _ started => absurd rfl started
  · exact fun impossible => by cases impossible
  · exact fun impossible => by cases impossible
  · constructor
    · exact fun impossible => by cases impossible
    · rintro ⟨e, impossible⟩
      cases impossible
  · exact fun e impossible => by cases impossible

/-- The chunk ends with a result exactly if the backend is not stopped between the test and the
setpoint of one tick. -/
theorem stop_ends_chunk_iff {robot robot' robot'' : Robot K} {chunk : CartesianChunk K}
    (named : chunk.NamesActive robot) {raiseOnStop record : Bool} {fake : FakeState}
    {events : List (ChunkStopEvent K)} {out : Except Exc (ExecutionResult K)}
    (executes : Trace (executeCartesianChunk chunk raiseOnStop record robot)
      (callsOf .executor events) (.done (out, robot')))
    (stops : Trace (stop robot) (callsOf .stopper events) (.done (.ok (), robot'')))
    (valid : stopRace.Valid fake events)
    (resolves : ∀ state, ⟨.readState, .ok state⟩ ∈ callsOf ChunkThread.executor events →
      ∃ executed, chunk.forExecution state.tcpPose = .ok executed) :
    EndsWithResult raiseOnStop events out ↔ ¬ HaltsUnderSetpoint events := by
  have admitted : (chunkProgress chunk).Admitted (.entering false) (callsOf .executor events) :=
    (chunkProgress chunk).admitted_of_mem (fun _ _ obliges => obliges) _ _
      (race_obliges (s := ⟨.entering false, .shut, fake, .idle⟩) valid resolves)
  obtain ⟨allowed, ended⟩ := Program.wp_sound
    (wp_executeCartesianChunk_progress named raiseOnStop record) executes admitted
  have race := raceFrom_start allowed valid (stop_calls stops)
  obtain ⟨last, consistent, progress, gap⟩ := race.ends
  change last.gap = events.foldl Gap.next .shut at gap
  change ChunkProgressEnds raiseOnStop out robot' _ at ended
  rw [← progress] at ended
  have missed : HaltsUnderSetpoint events ↔ ∃ e, last.progress = .refused e := by
    unfold HaltsUnderSetpoint
    rw [← gap]
    exact consistent.hit
  rw [missed]
  constructor
  · rintro ⟨result, handed, _⟩ ⟨e, refused⟩
    rcases ended with ⟨_, _, accounts⟩ | ⟨e', raised, same⟩
    · rcases accounts with ⟨ready, _⟩ | ⟨byUser, stopping, _⟩
      · exact ready.unrefused e refused
      · rw [refused] at stopping
        cases stopping
    · have kind := consistent.ordinary e' same
      rw [raised] at handed
      unfold returned at handed
      split at handed
      · cases handed
        cases kind
      · cases handed
  · intro accepted
    rcases ended with ⟨result, handed, accounts⟩ | ⟨e, _, refused⟩
    · refine ⟨result, handed, ?_⟩
      rcases accounts with ⟨ready, succeeding⟩ | ⟨byUser, stopping, failed, user⟩
      · refine Or.inr ⟨succeeding, race.streamsBeforeHalt ?_⟩
        intro e refused
        exact accepted ⟨e, progress.trans refused⟩
      · refine Or.inl ⟨failed, ?_⟩
        cases byUser with
        | true => exact Or.inl (user rfl)
        | false =>
            obtain ⟨halts | halts, unclear⟩ := stopping_checked allowed admitted
              (progress.symm.trans stopping)
            · cases halts
            · exact Or.inr ⟨halts, unclear⟩
    · exact absurd ⟨e, refused⟩ accepted

section Refused

theorem guardedTicks_refused {K : Type} [Scalar K] {robot : Robot K} {chunk : CartesianChunk K}
    {cap : Wrench K} {t : K} {sp : CartesianSetpoint K} {rest : List (CartesianSetpoint K)}
    {run : ChunkRun K} {state : RobotState K} {filter : SafetyFilter K} {e : Exc}
    (light : exceeds state.wrench cap = false)
    (passed : robot.filter.filterCartesian sp.pose state (some cap) =
      ({ ok := true, pose := some sp.pose, clipped := false, clipReasons := [] }, filter)) :
    Trace (guardedTicks chunk cap false t (sp :: rest) run robot)
      [⟨.cancelIsSet .tick, false⟩, ⟨.readState, .ok state⟩, ⟨.publishState state, ()⟩,
        ⟨.inFault, .ok false⟩, ⟨.write (.streamCartesian sp.pose (chunkWrench chunk)), .error e⟩]
      (.done (.error e, { robot with filter := filter })) := by
  have filtered : Trace (filterCartesian sp.pose state (some cap) robot) []
      (.done (.ok { ok := true, pose := some sp.pose, clipped := false, clipReasons := [] },
        { robot with filter := filter })) := by
    change Trace (Program.done ((Except.ok (robot.filter.filterCartesian sp.pose state (some cap)).1 :
      Except Exc (SafetyResult K)),
        { robot with filter := (robot.filter.filterCartesian sp.pose state (some cap)).2 })) _ _
    rw [passed]
    exact .nil _
  have tick : Trace (cartesianTick chunk cap t sp run robot)
      [⟨.cancelIsSet .tick, false⟩, ⟨.readState, .ok state⟩, ⟨.publishState state, ()⟩,
        ⟨.inFault, .ok false⟩, ⟨.write (.streamCartesian sp.pose (chunkWrench chunk)), .error e⟩]
      (.done (.error e, { robot with filter := filter })) := by
    refine .cons (.cons (.cons (.cons ?_)))
    change Trace ((if exceeds state.wrench cap = true then _ else
      (filterCartesian sp.pose state (some cap) >>= _) : RobotM K (ChunkRun K × Bool)) robot) _ _
    rw [if_neg (by rw [light]; exact Bool.false_ne_true)]
    exact Script.trace_silent filtered (.cons (.nil _))
  have ticks : Trace (cartesianTicks chunk cap t (sp :: rest) run robot) _
      (.done (.error e, { robot with filter := filter })) := tick.bind _
  have body : Trace ((do
      let run ← cartesianTicks chunk cap t (sp :: rest) run
      let run ← resolvePending chunk run
      pure (Except.ok run : Except Exc (ChunkRun K)) : RobotM K _) robot) _
      (.done (.error e, { robot with filter := filter })) := ticks.bind _
  have caught : Trace ((tryCatch (do
      let run ← cartesianTicks chunk cap t (sp :: rest) run
      let run ← resolvePending chunk run
      pure (Except.ok run : Except Exc (ChunkRun K))) fun e => pure (.error e) : RobotM K _) robot)
      _ (.done (.ok (.error e), { robot with filter := filter })) := body.bind _
  exact caught.bind _

def threadCalls {K : Type} [Scalar K] (thread : ChunkThread) (calls : List (Call (effects K))) :
    List (ChunkStopEvent K) :=
  calls.map (.call thread)

noncomputable def halted : RobotState ℝ := { poised with controlMode := .idle }

def refusal : Exc := ⟨.runtimeError, "stream_cartesian in mode 'idle'"⟩

noncomputable def underSetpoint (pose : Pose ℝ) : List (ChunkStopEvent ℝ) :=
  threadCalls .executor (cartesianOpening poised ++ [⟨.cancelIsSet .tick, false⟩]) ++
    (threadCalls .stopper StopperAt.idle.left ++
      threadCalls .executor [⟨.readState, .ok halted⟩, ⟨.publishState halted, ()⟩,
        ⟨.inFault, .ok false⟩,
        ⟨.write (.streamCartesian pose (chunkWrench raiseChunk)), .error refusal⟩])

theorem underSetpoint_valid (pose : Pose ℝ) :
    stopRace.Valid ⟨.nrtCartesianMotionForce, false⟩ (underSetpoint pose) := by
  refine ⟨⟨trivial, trivial⟩, ⟨rfl, trivial⟩, ⟨⟨poised, rfl, rfl⟩, trivial⟩, ⟨trivial, trivial⟩,
    ⟨trivial, trivial⟩, ⟨rfl, trivial⟩, ⟨trivial, trivial⟩, ⟨rfl, trivial⟩,
    ⟨⟨halted, rfl, rfl⟩, trivial⟩, ⟨trivial, trivial⟩, ⟨trivial, ⟨false, rfl⟩⟩, ⟨?_, rfl⟩, trivial⟩
  constructor
  · exact fun impossible => by cases impossible
  · exact fun impossible => by cases impossible

theorem underSetpoint_raises : ∃ (pose : Pose ℝ) (robot' : Robot ℝ),
    Trace (executeCartesianChunk raiseChunk false false tabletopRobot)
      (callsOf .executor (underSetpoint pose)) (.done (.error refusal, robot')) := by
  have resolved : raiseChunk.forExecution poised.tcpPose = .ok raiseChunk := rfl
  obtain ⟨inSpec, last⟩ := interpolator_inSpec tabletopRobot_paced tabletop_positiveCaps
    raiseChunk_inSpec
  cases setpoints : (tabletopRobot.interpolator raiseChunk overTable).setpoints with
  | nil =>
      rw [setpoints] at last
      cases last
  | cons sp rest =>
      have filters : ({ tabletopRobot with filter := tabletopRobot.filter.reset (some poised) } :
          Robot ℝ).FiltersFrom tabletop (1 / tabletopRobot.controlHz) overTable :=
        ⟨(tabletopRobot.filter.reset_p _ _ _).trans tabletopRobot_paced.profile,
          (tabletopRobot.filter.reset_dt _ _ _).trans tabletopRobot_paced.step, rfl⟩
      rw [setpoints] at inSpec
      obtain ⟨inside, next, short, _⟩ := inSpec.uncons rfl
      have slower : tightenedCap tabletop.maxLinearSpeed raiseChunk.maxTcpLinearSpeed *
          (1 / tabletopRobot.controlHz) ≤ tabletop.maxLinearSpeed * (1 / tabletopRobot.controlHz) :=
        mul_le_mul_of_nonneg_right (tightenedCap_le _ _)
          (one_div_pos.mpr tabletopRobot_paced.ticking).le
      have light : exceeds halted.wrench (effectiveWrenchCap tabletop raiseChunk) = false :=
        poised_light
      obtain ⟨v, passes⟩ := filters.passes tabletop_positiveCaps rfl
        (tabletopRobot_paced.step ▸ tabletopRobot_roomy) inside next.symm (short.trans slower) light
      have opened := executeCartesianChunk_opens resolved
        (Or.inl rfl : raiseChunk.safetyProfile = "" ∨ _ = tabletopRobot.profile.name) rfl rfl
      rw [show poised.tcpPose = overTable from rfl, setpoints] at opened
      exact ⟨sp.pose, _, opened.append ((guardedTicks_refused light passes).bind _)⟩

/-- A stop whose second step falls between a tick's test and its setpoint makes the chunk raise. -/
theorem stop_raises_under_setpoint :
    ¬ ∀ (robot robot' robot'' : Robot ℝ) (chunk : CartesianChunk ℝ) (record : Bool)
        (fake : FakeState) (events : List (ChunkStopEvent ℝ)) (out : Except Exc (ExecutionResult ℝ)),
      chunk.NamesActive robot →
      Trace (executeCartesianChunk chunk false record robot) (callsOf .executor events)
        (.done (out, robot')) →
      Trace (stop robot) (callsOf .stopper events) (.done (.ok (), robot'')) →
      stopRace.Valid fake events →
      (∀ state, ⟨.readState, .ok state⟩ ∈ callsOf ChunkThread.executor events →
        ∃ executed, chunk.forExecution state.tcpPose = .ok executed) →
      EndsWithResult false events out := by
  intro claimed
  obtain ⟨pose, robot', executes⟩ := underSetpoint_raises
  have stops : Trace (stop tabletopRobot) (callsOf .stopper (underSetpoint pose))
      (.done (.ok (), tabletopRobot)) := .cons (.cons (.nil _))
  obtain ⟨result, handed, _⟩ := claimed tabletopRobot robot' tabletopRobot raiseChunk false _ _ _
    (Or.inl rfl) executes stops (underSetpoint_valid pose) fun _ _ => ⟨raiseChunk, rfl⟩
  unfold returned at handed
  rw [if_neg (fun both => by cases both.1)] at handed
  cases handed

theorem guardedTicks_cancelled {K : Type} [Scalar K] {robot : Robot K} {chunk : CartesianChunk K}
    {cap : Wrench K} {t : K} {sp : CartesianSetpoint K} {rest : List (CartesianSetpoint K)}
    {run : ChunkRun K} (idle : run.pendingClose = none) :
    Trace (guardedTicks chunk cap false t (sp :: rest) run robot)
      [⟨.cancelIsSet .tick, true⟩, ⟨.cancelClear, ()⟩, ⟨.write .stop, .ok ()⟩]
      (.done (.ok (ChunkRun.stop { run with
        tickIdx := run.tickIdx + 1, currentSegment := sp.segment } .user), robot)) := by
  let stopped : ChunkRun K :=
    ChunkRun.stop { run with tickIdx := run.tickIdx + 1, currentSegment := sp.segment } .user
  have left : stopped.pendingClose = none := idle
  have tick : Trace (cartesianTick chunk cap t sp run robot)
      [⟨.cancelIsSet .tick, true⟩, ⟨.cancelClear, ()⟩, ⟨.write .stop, .ok ()⟩]
      (.done (.ok (stopped, false), robot)) := .cons (.cons (.cons (.nil _)))
  have ticks : Trace (cartesianTicks chunk cap t (sp :: rest) run robot) _
      (.done (.ok stopped, robot)) := tick.bind _
  have resolved : Trace (resolvePending chunk stopped robot) [] (.done (.ok stopped, robot)) := by
    unfold resolvePending
    rw [left]
    exact .nil _
  have body : Trace ((do
      let run ← cartesianTicks chunk cap t (sp :: rest) run
      let run ← resolvePending chunk run
      pure (Except.ok run : Except Exc (ChunkRun K)) : RobotM K _) robot) _
      (.done (.ok (.ok stopped), robot)) :=
    Script.trace_then ticks (Script.trace_silent resolved (.nil _))
  have caught : Trace ((tryCatch (do
      let run ← cartesianTicks chunk cap t (sp :: rest) run
      let run ← resolvePending chunk run
      pure (Except.ok run : Except Exc (ChunkRun K))) fun e => pure (.error e) : RobotM K _) robot)
      _ (.done (.ok (.ok stopped), robot)) := body.bind _
  exact caught.bind _

noncomputable def beforeTest : List (ChunkStopEvent ℝ) :=
  threadCalls .executor (cartesianOpening poised) ++
    (threadCalls .stopper StopperAt.idle.left ++
      threadCalls .executor [⟨.cancelIsSet .tick, true⟩, ⟨.cancelClear, ()⟩, ⟨.write .stop, .ok ()⟩,
        ⟨.readState, .ok halted⟩, ⟨.publishState halted, ()⟩, ⟨.chunkReturns false .user, ()⟩])

theorem beforeTest_valid : stopRace.Valid ⟨.nrtCartesianMotionForce, false⟩ beforeTest :=
  ⟨⟨trivial, trivial⟩, ⟨rfl, trivial⟩, ⟨⟨poised, rfl, rfl⟩, trivial⟩, ⟨trivial, trivial⟩,
    ⟨trivial, trivial⟩, ⟨trivial, trivial⟩, ⟨rfl, trivial⟩, ⟨rfl, trivial⟩, ⟨trivial, trivial⟩,
    ⟨rfl, trivial⟩, ⟨⟨halted, rfl, rfl⟩, trivial⟩, ⟨trivial, trivial⟩, ⟨trivial, trivial⟩, trivial⟩

theorem beforeTest_stopped : ∃ (result : ExecutionResult ℝ) (robot' : Robot ℝ),
    Trace (executeCartesianChunk raiseChunk false false tabletopRobot)
      (callsOf .executor beforeTest) (.done (.ok result, robot')) ∧ result.stopReason = .user := by
  have resolved : raiseChunk.forExecution poised.tcpPose = .ok raiseChunk := rfl
  have opened := executeCartesianChunk_opens resolved
    (Or.inl rfl : raiseChunk.safetyProfile = "" ∨ _ = tabletopRobot.profile.name) rfl rfl
  have last := (interpolator_inSpec tabletopRobot_paced tabletop_positiveCaps raiseChunk_inSpec).2
  cases setpoints : (tabletopRobot.interpolator raiseChunk overTable).setpoints with
  | nil =>
      rw [setpoints] at last
      cases last
  | cons sp rest =>
      rw [show poised.tcpPose = overTable from rfl, setpoints] at opened
      let anchored : Robot ℝ :=
        { tabletopRobot with filter := tabletopRobot.filter.reset (some poised) }
      let report : ExecutionResult ℝ := (ChunkRun.stop (K := ℝ)
        { result := tabletopRobot.opening raiseChunk raiseChunk, prevPos := overTable.pos
          tickIdx := 1, currentSegment := sp.segment } .user).report poised halted
      have returned : Trace (returnResult report false anchored) [⟨.chunkReturns false .user, ()⟩]
          (.done (.ok report, anchored)) := .cons (.nil _)
      exact ⟨report, anchored, opened.append (Script.trace_then (guardedTicks_cancelled rfl)
        (Script.trace_then (getState_trace anchored halted) returned)), rfl⟩

/-- The race of the counterexample, which raises, and one that ends with a report. -/
theorem stop_ends_chunk_iff_under :
    (∃ (pose : Pose ℝ) (out : Except Exc (ExecutionResult ℝ)),
      HaltsUnderSetpoint (underSetpoint pose) ∧
        ¬ EndsWithResult false (underSetpoint pose) out) ∧
      ∃ result : ExecutionResult ℝ, ¬ HaltsUnderSetpoint beforeTest ∧
        EndsWithResult false beforeTest (.ok result) ∧ result.stopReason = .user := by
  constructor
  · obtain ⟨pose, robot', executes⟩ := underSetpoint_raises
    have stops : Trace (stop tabletopRobot) (callsOf .stopper (underSetpoint pose))
        (.done (.ok (), tabletopRobot)) := .cons (.cons (.nil _))
    have settles := stop_ends_chunk_iff (Or.inl rfl) executes stops (underSetpoint_valid pose)
      fun _ _ => ⟨raiseChunk, rfl⟩
    have hit : HaltsUnderSetpoint (underSetpoint pose) := rfl
    exact ⟨pose, _, hit, fun ends => settles.mp ends hit⟩
  · obtain ⟨result, robot', executes, user⟩ := beforeTest_stopped
    have stops : Trace (stop tabletopRobot) (callsOf .stopper beforeTest)
        (.done (.ok (), tabletopRobot)) := .cons (.cons (.nil _))
    have settles := stop_ends_chunk_iff (Or.inl rfl) executes stops beforeTest_valid
      fun _ _ => ⟨raiseChunk, rfl⟩
    have missed : ¬ HaltsUnderSetpoint beforeTest := by
      have shut : beforeTest.foldl Gap.next .shut = .shut := rfl
      intro hit
      unfold HaltsUnderSetpoint at hit
      rw [shut] at hit
      cases hit
    exact ⟨result, missed, settles.mpr missed, user⟩

end Refused

end FlexivControl
