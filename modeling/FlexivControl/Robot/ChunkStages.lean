/-
The cancel flag inside a blocking chunk.

A test that finds the flag set is followed by its clear, and the clear by a report that
names the user, unless a state read or the stop command raises in between. Nothing else
reports a stop by the user, and every setpoint has a test of its own in front of it.
-/

import FlexivControl.Robot.Rules

namespace FlexivControl

open Script

variable {K : Type} [Scalar K]

inductive ChunkStage where
  | outside
  | ticking (mayStream : Bool)
  | found
  | cleared
  | failed
  | reported (success : Bool) (reason : StopReason)
  deriving DecidableEq, Repr

/-- A state read or a stop command that raises. -/
def failedCall : Call (effects K) → Bool
  | ⟨.readState, .error _⟩ => true
  | ⟨.write .stop, .error _⟩ => true
  | _ => false

def ChunkStage.after (stage : ChunkStage) : Call (effects K) → ChunkStage
  | ⟨.cancelIsSet .entry, set⟩ => if set then .found else .ticking false
  | ⟨.cancelIsSet .tick, set⟩ => if set then .found else .ticking true
  | ⟨.cancelClear, _⟩ => .cleared
  | ⟨.write (.streamCartesian _ _), _⟩ => .ticking false
  | ⟨.write (.streamJoint _), _⟩ => .ticking false
  | ⟨.chunkReturns success reason, _⟩ => .reported success reason
  | c => if stage = .cleared ∧ failedCall c = true then .failed else stage

def ChunkStage.Reports (stage : ChunkStage) (success : Bool) (reason : StopReason) : Prop :=
  (∃ mayStream, stage = .ticking mayStream ∧ reason ≠ .user) ∨
    (stage = .cleared ∧ success = false ∧ reason = .user)

def ChunkStage.Allows (stage : ChunkStage) : Op K → Prop
  | .cancelClear => stage = .found
  | .write (.streamCartesian _ _) => stage = .ticking true
  | .write (.streamJoint _) => stage = .ticking true
  | .cancelIsSet .entry => stage = .outside
  | .cancelIsSet .tick => ∃ mayStream, stage = .ticking mayStream
  | .cancelIsSet _ => False
  | .cancelSet => False
  | .lockRelease _ => False
  | .chunkReturns success reason => stage.Reports success reason
  | _ => stage ≠ .found

def chunkStages : Monitor (effects K) ChunkStage where
  observe := ChunkStage.after
  admits _ _ := True
  allows := ChunkStage.Allows

def Op.IsChunkWork : Op K → Prop
  | .write (.setMode _ _) => True
  | op => op.IsQuiet

theorem Op.IsQuiet.chunkWork {op : Op K} (quiet : op.IsQuiet) : op.IsChunkWork := by
  cases op with
  | write call =>
      cases call with
      | setMode mode params => trivial
      | _ => exact quiet
  | _ => exact quiet

theorem Op.IsChunkWork.allowed {op : Op K} (work : op.IsChunkWork) {stage : ChunkStage}
    (settled : stage ≠ .found) : stage.Allows op := by
  cases op with
  | write call =>
      cases call with
      | streamCartesian pose wrench => exact absurd work id
      | streamJoint q => exact absurd work id
      | _ => exact settled
  | cancelClear => exact absurd work id
  | cancelIsSet site => exact absurd work id
  | cancelSet => exact absurd work id
  | lockRelease robot => exact absurd work id
  | chunkReturns success reason => exact absurd work id
  | _ => exact settled

theorem Op.IsChunkWork.after {op : Op K} (work : op.IsChunkWork) (answer : Op.Resp op)
    (stage : ChunkStage) :
    stage.after ⟨op, answer⟩ =
      if stage = .cleared ∧ failedCall ⟨op, answer⟩ = true then .failed else stage := by
  cases op with
  | write call =>
      cases call with
      | streamCartesian pose wrench => exact absurd work id
      | streamJoint q => exact absurd work id
      | _ => rfl
  | cancelClear => exact absurd work id
  | cancelIsSet site => exact absurd work id
  | lockRelease robot => exact absurd work id
  | chunkReturns success reason => exact absurd work id
  | _ => rfl

/-- Where an exception leaves a chunk that has not reported yet. -/
def ChunkStage.Raised (stage : ChunkStage) : Prop :=
  stage = .failed ∨ ∃ mayStream, stage = .ticking mayStream

def PartEnds {α : Type} (report : α → ExecutionResult K) :
    Except Exc α → Robot K → ChunkStage → Prop
  | .ok a, _, stage => stage.Reports (report a).success (report a).stopReason
  | .error _, _, stage => stage.Raised

def TickEnds {α : Type} (report : α → ExecutionResult K) :
    Except Exc (α × Bool) → Robot K → ChunkStage → Prop
  | .ok (a, goOn), _, stage =>
      stage.Reports (report a).success (report a).stopReason ∧
        (goOn = true → stage = .ticking false)
  | .error _, _, stage => stage.Raised

def ChunkEnds : Except Exc (ExecutionResult K) → Robot K → ChunkStage → Prop
  | .ok result, _, stage => stage = .reported result.success result.stopReason
  | .error _, _, stage => stage.Raised ∨ ∃ success reason, stage = .reported success reason

theorem ChunkStage.Reports.notUser {stage : ChunkStage} {success : Bool} {reason : StopReason}
    {mayStream : Bool} (reports : stage.Reports success reason)
    (ticking : stage = .ticking mayStream) : reason ≠ .user := by
  rcases reports with ⟨_, _, other⟩ | ⟨cleared, _⟩
  · exact other
  · rw [ticking] at cleared
    cases cleared

section Parts

variable {α : Type}

theorem wp_chunkWork {x : RobotM K α} (uses : Uses (S := effects K) Op.IsChunkWork x)
    (robot : Robot K) {stage : ChunkStage} (settled : stage ≠ .found) (owesNothing : stage ≠ .cleared) :
    wp chunkStages x (fun _ _ stage' => stage' = stage) robot stage := by
  have allowed : ∀ stage' (op : Op K), op.IsChunkWork → stage' = stage →
      chunkStages.allows stage' op := by
    intro stage' op work same
    subst same
    exact work.allowed settled
  have kept : ∀ stage' (op : Op K) (answer : (effects K).Resp op), op.IsChunkWork →
      stage' = stage → chunkStages.observe stage' ⟨op, answer⟩ = stage := by
    intro stage' op answer work same
    subst same
    exact (work.after answer stage').trans (if_neg fun both => owesNothing both.1)
  exact uses.wp allowed kept rfl

theorem wp_tickWork {x : RobotM K α} (uses : Uses (S := effects K) Op.IsChunkWork x)
    (robot : Robot K) (mayStream : Bool) :
    wp chunkStages x (fun _ _ stage => stage = .ticking mayStream) robot (.ticking mayStream) :=
  wp_chunkWork uses robot (fun impossible => by cases impossible)
    (fun impossible => by cases impossible)

theorem wp_tickQuiet {x : RobotM K α} (uses : Uses (S := effects K) Op.IsQuiet x)
    (robot : Robot K) (mayStream : Bool) :
    wp chunkStages x (fun _ _ stage => stage = .ticking mayStream) robot (.ticking mayStream) :=
  wp_tickWork (uses.mono fun _ => Op.IsQuiet.chunkWork) robot mayStream

theorem wp_getState_cleared (robot : Robot K) :
    wp chunkStages (getState : RobotM K (RobotState K))
      (fun out _ stage => (∃ state, out = .ok state ∧ stage = .cleared) ∨
        ∃ e, out = .error e ∧ stage = .failed) robot .cleared := by
  have settled : ChunkStage.cleared ≠ .found := fun impossible => by cases impossible
  unfold getState
  rw [wp_bind, wp_readState]
  refine ⟨settled, fun answer _ => ?_⟩
  cases answer with
  | error e => exact Or.inr ⟨e, rfl, rfl⟩
  | ok state => exact ⟨settled, fun _ _ => Or.inl ⟨state, rfl, rfl⟩⟩

theorem wp_returnResult {result : ExecutionResult K} {stage : ChunkStage}
    (reports : stage.Reports result.success result.stopReason) (raiseOnStop : Bool)
    (robot : Robot K) : wp chunkStages (returnResult result raiseOnStop) ChunkEnds robot stage := by
  unfold returnResult
  rw [wp_bind, wp_op]
  refine ⟨reports, fun _ _ => ?_⟩
  rw [afterStep_ok]
  split
  · exact Or.inr ⟨_, _, rfl⟩
  · exact rfl

theorem wp_finalState {f : RobotState K → RobotM K (ExecutionResult K)} {stage : ChunkStage}
    {robot : Robot K} {success : Bool} {reason : StopReason} (reports : stage.Reports success reason)
    (rest : ∀ state robot, wp chunkStages (f state) ChunkEnds robot stage) :
    wp chunkStages (getState >>= f) ChunkEnds robot stage := by
  rw [wp_bind]
  rcases reports with ⟨mayStream, ticking, _⟩ | ⟨cleared, _⟩
  · subst ticking
    apply wp_mono (wp_tickQuiet uses_getState robot mayStream)
    intro out robot' stage' same
    subst same
    cases out with
    | ok state => exact rest state robot'
    | error e => exact Or.inl (Or.inr ⟨mayStream, rfl⟩)
  · subst cleared
    apply wp_mono (wp_getState_cleared robot)
    rintro out robot' stage' (⟨state, same, stays⟩ | ⟨e, same, failed⟩)
    · rw [same, stays]
      exact rest state robot'
    · rw [same, failed]
      exact Or.inl (Or.inl rfl)

theorem wp_tickTest {f : Bool → RobotM K α} {post : Except Exc α → Robot K → ChunkStage → Prop}
    {robot : Robot K} {mayStream : Bool} (obeys : wp chunkStages (f true) post robot .found)
    (goes_on : wp chunkStages (f false) post robot (.ticking true)) :
    wp chunkStages (cancelIsSet .tick >>= f) post robot (.ticking mayStream) := by
  unfold cancelIsSet
  rw [wp_bind, wp_op]
  refine ⟨⟨mayStream, rfl⟩, fun set _ => ?_⟩
  rw [afterStep_ok]
  cases set with
  | true => exact obeys
  | false => exact goes_on

theorem wp_entryTest {f : Bool → RobotM K α} {post : Except Exc α → Robot K → ChunkStage → Prop}
    {robot : Robot K} (obeys : wp chunkStages (f true) post robot .found)
    (goes_on : wp chunkStages (f false) post robot (.ticking false)) :
    wp chunkStages (cancelIsSet .entry >>= f) post robot .outside := by
  unfold cancelIsSet
  rw [wp_bind, wp_op]
  refine ⟨rfl, fun set _ => ?_⟩
  rw [afterStep_ok]
  cases set with
  | true => exact obeys
  | false => exact goes_on

theorem wp_cancelTick (report : α → ExecutionResult K) {a : α} (failed : (report a).success = false)
    (user : (report a).stopReason = .user) (robot : Robot K) :
    wp chunkStages (do cancelTick; pure (a, false)) (TickEnds report) robot .found := by
  rw [wp_bind]
  unfold cancelTick
  rw [wp_bind, wp_op]
  refine ⟨rfl, fun _ _ => ?_⟩
  rw [afterStep_ok, wp_backend]
  refine ⟨fun impossible => (by cases impossible), fun answer _ => ?_⟩
  cases answer with
  | error e => exact Or.inl rfl
  | ok _ => exact ⟨Or.inr ⟨rfl, failed, user⟩, fun impossible => by cases impossible⟩

theorem wp_halt (report : α → ExecutionResult K) {a : α} (other : (report a).stopReason ≠ .user)
    (mayStream : Bool) (robot : Robot K) :
    wp chunkStages (do FlexivControl.backend .stop; pure (a, false)) (TickEnds report) robot
      (.ticking mayStream) := by
  rw [wp_bind, wp_backend]
  refine ⟨fun impossible => (by cases impossible), fun answer _ => ?_⟩
  cases answer with
  | error e => exact Or.inr ⟨mayStream, rfl⟩
  | ok _ => exact ⟨Or.inl ⟨mayStream, rfl, other⟩, fun impossible => by cases impossible⟩

theorem wp_abortAtEntry (raiseOnStop : Bool) (robot : Robot K) :
    wp chunkStages (abortAtEntry raiseOnStop) ChunkEnds robot .found := by
  unfold abortAtEntry
  rw [wp_bind, wp_op]
  refine ⟨rfl, fun _ _ => ?_⟩
  rw [afterStep_ok]
  have reports : ChunkStage.cleared.Reports false .user := Or.inr ⟨rfl, rfl, rfl⟩
  apply wp_finalState reports
  intro state robot'
  exact wp_returnResult reports raiseOnStop robot'

end Parts

def ExecutionResult.SameOutcome (before after : ExecutionResult K) : Prop :=
  after.success = before.success ∧ after.stopReason = before.stopReason

theorem ExecutionResult.sameOutcome_note (result : ExecutionResult K) (key : String)
    (value : LogValue K) : result.SameOutcome (result.note key value) := ⟨rfl, rfl⟩

theorem ExecutionResult.sameOutcome_refl (result : ExecutionResult K) :
    result.SameOutcome result := ⟨rfl, rfl⟩

theorem ExecutionResult.SameOutcome.trans {a b c : ExecutionResult K} (first : a.SameOutcome b)
    (second : b.SameOutcome c) : a.SameOutcome c :=
  ⟨second.1.trans first.1, second.2.trans first.2⟩

theorem ChunkStage.Reports.same {stage : ChunkStage} {before after : ExecutionResult K}
    (reports : stage.Reports before.success before.stopReason) (same : before.SameOutcome after) :
    stage.Reports after.success after.stopReason := by
  rw [same.1, same.2]
  exact reports

section Outcome

theorem returns_tryFireClose (chunk : CartesianChunk K) (run : ChunkRun K) (g : GripperCommand K)
    (state : RobotState K) :
    Returns (fun run' => run.result.SameOutcome run'.result) (tryFireClose chunk run g state) := by
  unfold tryFireClose
  dsimp only
  split
  · split
    · exact returns_pure run.result.sameOutcome_refl
    · exact returns_pure (run.result.sameOutcome_note _ _)
  · exact Returns.after fun _ => returns_pure run.result.sameOutcome_refl

theorem returns_firePending (chunk : CartesianChunk K) (run : ChunkRun K) (state : RobotState K) :
    Returns (fun run' => run.result.SameOutcome run'.result) (firePending chunk run state) := by
  unfold firePending
  split
  · exact returns_pure run.result.sameOutcome_refl
  · split
    · exact returns_tryFireClose chunk { run with pendingClose := none } _ state
    · exact returns_pure run.result.sameOutcome_refl

theorem returns_settleFirst (chunk : CartesianChunk K) (run : ChunkRun K) (state : RobotState K) :
    Returns (fun run' => run.result.SameOutcome run'.result) (settleFirst chunk run state) := by
  unfold settleFirst
  split
  · exact returns_pure run.result.sameOutcome_refl
  · exact returns_tryFireClose chunk { run with pendingClose := none } _ state

theorem returns_gripperPhase (chunk : CartesianChunk K) (controlHz : K) (sp : CartesianSetpoint K)
    (run : ChunkRun K) (state : RobotState K) :
    Returns (fun run' => run.result.SameOutcome run'.result)
      (gripperPhase chunk controlHz sp run state) := by
  unfold gripperPhase
  split
  · exact returns_pure run.result.sameOutcome_refl
  · unfold handleGripper
    dsimp only
    split
    · split
      · exact returns_pure run.result.sameOutcome_refl
      · exact (returns_settleFirst chunk run state).bind fun run' same => returns_pure same
    · exact Returns.after fun _ => returns_pure run.result.sameOutcome_refl

theorem returns_recordRow (t0 : K) (pose : Pose K) (state : RobotState K) (run : ChunkRun K) :
    Returns (fun run' => run.result.SameOutcome run'.result) (recordRow t0 pose state run) := by
  unfold recordRow
  split
  · exact returns_pure run.result.sameOutcome_refl
  · exact Returns.after fun _ => returns_pure run.result.sameOutcome_refl

theorem returns_afterStream (chunk : CartesianChunk K) (t0 : K) (sp : CartesianSetpoint K)
    (state : RobotState K) (pose : Pose K) (run : ChunkRun K) :
    Returns (fun run' => run.result.SameOutcome run'.result)
      (afterStream chunk t0 sp state pose run) := by
  unfold afterStream
  apply Returns.after
  intro robot
  apply (returns_firePending chunk run state).bind
  intro run₁ fired
  apply (returns_gripperPhase chunk robot.controlHz sp run₁ state).bind
  intro run₂ gripped
  apply (returns_recordRow t0 pose state run₂).bind
  intro run₃ recorded
  exact returns_pure (fired.trans (gripped.trans recorded))

theorem returns_resolvePending (chunk : CartesianChunk K) (run : ChunkRun K) :
    Returns (fun run' => run.result.SameOutcome run'.result) (resolvePending chunk run) := by
  unfold resolvePending
  split
  · exact returns_pure run.result.sameOutcome_refl
  · dsimp only
    split
    · exact Returns.after fun state =>
        returns_tryFireClose chunk { run with pendingClose := none } _ state
    · split
      · exact returns_pure run.result.sameOutcome_refl
      · exact returns_pure (run.result.sameOutcome_note _ _)

theorem returns_verifyChunkProfile (requested : String) (result : ExecutionResult K) :
    Returns result.SameOutcome (verifyChunkProfile requested result) := by
  unfold verifyChunkProfile
  apply Returns.after
  intro robot
  dsimp only
  split
  · exact returns_throw _
  · exact returns_pure ⟨rfl, rfl⟩

theorem returns_ensureJointStart (result : ExecutionResult K) :
    Returns (fun started => result.SameOutcome started.2) (ensureJointStart result) := by
  apply Returns.after
  intro start
  split
  · exact Returns.after fun _ => Returns.after fun _ => returns_pure (result.sameOutcome_note _ _)
  · exact returns_pure result.sameOutcome_refl

theorem returns_ensureCartesianStart (chunk : CartesianChunk K) (result : ExecutionResult K) :
    Returns (fun started => result.SameOutcome started.2) (ensureCartesianStart chunk result) := by
  apply Returns.after
  intro start
  split
  · exact returns_pure result.sameOutcome_refl
  · exact Returns.after fun _ => Returns.after fun _ => returns_pure (result.sameOutcome_note _ _)

theorem ChunkRun.sameOutcome_report (run : ChunkRun K) (start final : RobotState K) :
    run.result.SameOutcome (run.report start final) := by
  unfold ChunkRun.report
  dsimp only
  split
  · split
    · exact ⟨rfl, rfl⟩
    · exact ⟨rfl, rfl⟩
  · split
    · exact ⟨rfl, rfl⟩
    · exact ⟨rfl, rfl⟩

end Outcome

theorem SafetyFilter.filterCartesian_reason (f : SafetyFilter K) (target : Pose K)
    (state : RobotState K) (cap : Option (Wrench K)) :
    (f.filterCartesian target state cap).1.reason ≠ .user := by
  unfold filterCartesian
  dsimp only
  split
  · exact fun impossible => by cases impossible
  · split
    · exact fun impossible => by cases impossible
    · exact fun impossible => by cases impossible

/-! ### The joint executor -/

theorem wp_jointTick (q : List K) (result : ExecutionResult K) (other : result.stopReason ≠ .user)
    (robot : Robot K) (mayStream : Bool) :
    wp chunkStages (jointTick q result) (TickEnds fun result => result) robot
      (.ticking mayStream) := by
  have raised : (ChunkStage.ticking true).Raised := Or.inr ⟨true, rfl⟩
  unfold jointTick
  apply wp_tickTest
  · rw [if_pos rfl]
    exact wp_cancelTick (fun result => result) rfl rfl robot
  · rw [if_neg Bool.false_ne_true, wp_bind]
    apply wp_mono (wp_tickQuiet uses_getState robot true)
    intro out robot stage same
    subst same
    cases out with
    | error e => exact raised
    | ok state =>
        rw [afterStep_ok, wp_bind]
        apply wp_mono (wp_tickQuiet uses_inFault robot true)
        intro out robot stage same
        subst same
        cases out with
        | error e => exact raised
        | ok faulted =>
            rw [afterStep_ok]
            split
            · exact wp_halt _ (fun impossible => by cases impossible) true robot
            · rw [wp_bind, wp_get, afterStep_ok]
              split
              · exact wp_halt _ (fun impossible => by cases impossible) true robot
              · rw [wp_bind]
                cases passed : robot.filter.filterJoint q state with
                | error e =>
                    unfold filterJoint
                    rw [wp_bind, wp_get, afterStep_ok, wp_bind, passed, wp_attempt]
                    exact raised
                | ok out =>
                    obtain ⟨sr, filter⟩ := out
                    obtain ⟨_, _, limited, _, _, accepted, sent, _⟩ :=
                      SafetyFilter.filterJoint_ok passed
                    apply wp_filterJoint_of passed
                    rw [afterStep_ok]
                    split
                    · rw [wp_bind, wp_backend]
                      refine ⟨rfl, fun answer _ => ?_⟩
                      cases answer with
                      | error e => exact Or.inr ⟨false, rfl⟩
                      | ok _ =>
                          refine ⟨Or.inl ⟨false, rfl, ?_⟩, fun _ => rfl⟩
                          split
                          · exact other
                          · exact other
                    · rename_i refused
                      exact absurd sent (refused limited accepted)

theorem wp_jointTicks (setpoints : List (Except Exc (List K))) :
    ∀ (result : ExecutionResult K) (_ : result.stopReason ≠ .user) (robot : Robot K)
      (mayStream : Bool),
      wp chunkStages (jointTicks setpoints result) (PartEnds fun result => result) robot
        (.ticking mayStream) := by
  induction setpoints with
  | nil => exact fun _ other _ mayStream => Or.inl ⟨mayStream, rfl, other⟩
  | cons next rest ih =>
      intro result other robot mayStream
      unfold jointTicks
      rw [wp_bind, wp_attempt]
      cases next with
      | error e => exact Or.inr ⟨mayStream, rfl⟩
      | ok q =>
          rw [afterStep_ok, wp_bind]
          apply wp_mono (wp_jointTick q result other robot mayStream)
          intro out robot' stage ended
          cases out with
          | error e => exact ended
          | ok out =>
              obtain ⟨result', goOn⟩ := out
              obtain ⟨reports, ticks⟩ := ended
              cases goOn with
              | true =>
                  have other' := reports.notUser (ticks rfl)
                  have ticking : stage = .ticking false := ticks rfl
                  subst ticking
                  exact ih result' other' robot' false
              | false => exact reports

theorem work_verifyChunkProfile (requested : String) (result : ExecutionResult K) :
    Uses (S := effects K) Op.IsChunkWork (verifyChunkProfile requested result) :=
  uses_verifyChunkProfile requested result

theorem work_getState :
    Uses (S := effects K) Op.IsChunkWork (getState : RobotM K (RobotState K)) :=
  uses_getState.mono fun _ => Op.IsQuiet.chunkWork

theorem work_ensureJointStart (result : ExecutionResult K) :
    Uses (S := effects K) Op.IsChunkWork (ensureJointStart result) := by
  refine work_getState.bind fun start => ?_
  split
  · exact (uses_backend trivial).bind fun _ => work_getState.bind fun _ => uses_pure _
  · exact uses_pure _

theorem wp_runJointChunk (chunk : JointChunk K) (raiseOnStop : Bool) (robot : Robot K) :
    wp chunkStages (runJointChunk chunk raiseOnStop) ChunkEnds robot (.ticking false) := by
  have raised : (ChunkStage.ticking false).Raised := Or.inr ⟨false, rfl⟩
  unfold runJointChunk
  rw [wp_bind]
  apply wp_mono (wp_returns (wp_tickWork (work_verifyChunkProfile chunk.safetyProfile {}) robot false)
    (returns_verifyChunkProfile chunk.safetyProfile {}))
  rintro out robot stage ⟨same, verified⟩
  subst same
  cases out with
  | error e => exact Or.inl raised
  | ok result =>
      have unstopped := verified result rfl
      rw [afterStep_ok, wp_bind]
      apply wp_mono (wp_returns (wp_tickWork (work_ensureJointStart result) robot false)
        (returns_ensureJointStart result))
      rintro out robot stage ⟨same, kept⟩
      subst same
      cases out with
      | error e => exact Or.inl raised
      | ok started =>
          have outcome := unstopped.trans (kept started rfl)
          obtain ⟨start, result⟩ := started
          have other : result.stopReason ≠ .user := by
            rw [outcome.2]
            exact fun impossible => by cases impossible
          rw [afterStep_ok]
          dsimp only
          unfold perfCounter
          rw [wp_bind, wp_resetFilter, afterStep_ok, wp_bind, wp_get, afterStep_ok, wp_bind, wp_op]
          refine ⟨fun impossible => (by cases impossible), fun _ _ => ?_⟩
          rw [afterStep_ok, wp_bind]
          apply wp_mono (wp_jointTicks _ result other _ false)
          intro out robot stage ended
          cases out with
          | error e => exact Or.inl ended
          | ok result =>
              rw [afterStep_ok]
              apply wp_finalState ended
              intro final robot'
              apply wp_returnResult
              exact ended

theorem wp_checkLease {α : Type} {f : Unit → RobotM K α}
    {post : Except Exc α → Robot K → ChunkStage → Prop} {robot : Robot K}
    (rest : wp chunkStages (f ()) post robot .outside) :
    wp chunkStages (checkLease >>= f) post robot .outside := by
  have settled : ChunkStage.outside ≠ .found := fun impossible => by cases impossible
  unfold checkLease
  rw [wp_bind, wp_bind, wp_op]
  refine ⟨settled, fun owner _ => ?_⟩
  rw [afterStep_ok]
  cases owner with
  | none => exact ⟨settled, fun _ _ => rest⟩
  | some owner => exact rest

theorem wp_executeJointChunk (chunk : JointChunk K) (raiseOnStop : Bool) (robot : Robot K) :
    wp chunkStages (executeJointChunk chunk raiseOnStop) ChunkEnds robot .outside := by
  apply wp_checkLease
  apply wp_entryTest
  · rw [if_pos rfl]
    exact wp_abortAtEntry raiseOnStop robot
  · rw [if_neg Bool.false_ne_true]
    exact wp_runJointChunk chunk raiseOnStop robot

/-! ### The Cartesian executor -/

theorem work_afterStream (chunk : CartesianChunk K) (t0 : K) (sp : CartesianSetpoint K)
    (state : RobotState K) (pose : Pose K) (run : ChunkRun K) :
    Uses (S := effects K) Op.IsChunkWork (afterStream chunk t0 sp state pose run) :=
  (uses_afterStream chunk t0 sp state pose run).mono fun _ => Op.IsQuiet.chunkWork

theorem wp_cartesianTick (chunk : CartesianChunk K) (wrenchCap : Wrench K) (t0 : K)
    (sp : CartesianSetpoint K) (run : ChunkRun K) (other : run.result.stopReason ≠ .user)
    (robot : Robot K) (mayStream : Bool) :
    wp chunkStages (cartesianTick chunk wrenchCap t0 sp run) (TickEnds ChunkRun.result) robot
      (.ticking mayStream) := by
  have raised (streams : Bool) : (ChunkStage.ticking streams).Raised := Or.inr ⟨streams, rfl⟩
  unfold cartesianTick
  dsimp only
  apply wp_tickTest
  · rw [if_pos rfl]
    exact wp_cancelTick ChunkRun.result rfl rfl robot
  · rw [if_neg Bool.false_ne_true, wp_bind]
    apply wp_mono (wp_tickQuiet uses_getState robot true)
    intro out robot stage same
    subst same
    cases out with
    | error e => exact raised true
    | ok state =>
        rw [afterStep_ok, wp_bind]
        apply wp_mono (wp_tickQuiet uses_inFault robot true)
        intro out robot stage same
        subst same
        cases out with
        | error e => exact raised true
        | ok faulted =>
            rw [afterStep_ok]
            split
            · exact wp_halt _ (fun impossible => by cases impossible) true robot
            · split
              · exact wp_halt _ (fun impossible => by cases impossible) true robot
              · have refusal := robot.filter.filterCartesian_reason sp.pose state (some wrenchCap)
                rw [wp_bind, wp_filterCartesian, afterStep_ok]
                split
                · rename_i pose _ _
                  rw [wp_bind, wp_backend]
                  refine ⟨rfl, fun answer _ => ?_⟩
                  cases answer with
                  | error e => exact raised false
                  | ok _ =>
                      rw [afterStep_ok, wp_bind]
                      apply wp_mono (wp_returns
                        (wp_tickWork (work_afterStream chunk t0 sp state pose _) _ false)
                        (returns_afterStream chunk t0 sp state pose _))
                      rintro out robot stage ⟨same, kept⟩
                      subst same
                      cases out with
                      | error e => exact raised false
                      | ok run' =>
                          refine ⟨Or.inl ⟨false, rfl, ?_⟩, fun _ => rfl⟩
                          rw [(kept run' rfl).2]
                          split
                          · exact other
                          · exact other
                · exact wp_halt _ refusal true _

theorem wp_cartesianTicks (chunk : CartesianChunk K) (wrenchCap : Wrench K) (t0 : K)
    (setpoints : List (CartesianSetpoint K)) :
    ∀ (run : ChunkRun K) (_ : run.result.stopReason ≠ .user) (robot : Robot K) (mayStream : Bool),
      wp chunkStages (cartesianTicks chunk wrenchCap t0 setpoints run) (PartEnds ChunkRun.result)
        robot (.ticking mayStream) := by
  induction setpoints with
  | nil => exact fun _ other _ mayStream => Or.inl ⟨mayStream, rfl, other⟩
  | cons sp rest ih =>
      intro run other robot mayStream
      unfold cartesianTicks
      rw [wp_bind]
      apply wp_mono (wp_cartesianTick chunk wrenchCap t0 sp run other robot mayStream)
      intro out robot' stage ended
      cases out with
      | error e => exact ended
      | ok out =>
          obtain ⟨run', goOn⟩ := out
          obtain ⟨reports, ticks⟩ := ended
          cases goOn with
          | true =>
              have other' := reports.notUser (ticks rfl)
              have ticking : stage = .ticking false := ticks rfl
              subst ticking
              exact ih run' other' robot' false
          | false => exact reports

theorem wp_resolvePending (chunk : CartesianChunk K) (run : ChunkRun K) (robot : Robot K)
    {stage : ChunkStage} (reports : stage.Reports run.result.success run.result.stopReason) :
    wp chunkStages (resolvePending chunk run) (PartEnds ChunkRun.result) robot stage := by
  rcases reports with ⟨mayStream, ticking, other⟩ | ⟨cleared, failed, user⟩
  · subst ticking
    apply wp_mono (wp_returns (wp_tickQuiet (uses_resolvePending chunk run) robot mayStream)
      (returns_resolvePending chunk run))
    rintro out robot' stage ⟨same, kept⟩
    subst same
    cases out with
    | error e => exact Or.inr ⟨mayStream, rfl⟩
    | ok run' =>
        refine Or.inl ⟨mayStream, rfl, ?_⟩
        rw [(kept run' rfl).2]
        exact other
  · have reports : stage.Reports run.result.success run.result.stopReason :=
      Or.inr ⟨cleared, failed, user⟩
    unfold resolvePending
    split
    · exact reports
    · rw [if_neg (by rw [failed]; exact Bool.false_ne_true)]
      split
      · exact reports
      · exact reports

/-- The guard is restored without leaving the stage, whether or not that fails. -/
theorem wp_restoreWrenchLimit (relaxed : Bool) (run : ChunkRun K) (robot : Robot K)
    {stage : ChunkStage} (settled : stage ≠ .found) :
    wp chunkStages (restoreWrenchLimit relaxed run)
      (fun out _ stage' => stage' = stage ∧ ∃ run', out = .ok run' ∧
        run.result.SameOutcome run'.result) robot stage := by
  unfold restoreWrenchLimit
  split
  · rw [wp_bind, wp_get, afterStep_ok, wp_bind, wp_op]
    refine ⟨settled, fun answer _ => ?_⟩
    have stays : stage.after (K := K)
        ⟨.write (.setContactWrenchLimit robot.profile.maxContactWrench), answer⟩ = stage :=
      if_neg fun both => by cases both.2
    rw [afterStep_ok]
    cases answer with
    | ok _ => exact ⟨stays, run, rfl, run.result.sameOutcome_refl⟩
    | error e => exact ⟨stays, _, rfl, run.result.sameOutcome_note _ _⟩
  · exact ⟨rfl, run, rfl, run.result.sameOutcome_refl⟩

theorem ChunkStage.Raised.settled {stage : ChunkStage} (raised : stage.Raised) :
    stage ≠ .found := by
  rcases raised with failed | ⟨mayStream, ticking⟩
  · rw [failed]
    exact fun impossible => by cases impossible
  · rw [ticking]
    exact fun impossible => by cases impossible

theorem ChunkStage.Reports.settled {stage : ChunkStage} {success : Bool} {reason : StopReason}
    (reports : stage.Reports success reason) : stage ≠ .found := by
  rcases reports with ⟨mayStream, ticking, _⟩ | ⟨cleared, _⟩
  · rw [ticking]
    exact fun impossible => by cases impossible
  · rw [cleared]
    exact fun impossible => by cases impossible

theorem wp_guardedTicks (chunk : CartesianChunk K) (wrenchCap : Wrench K) (relaxed : Bool) (t0 : K)
    (setpoints : List (CartesianSetpoint K)) (run : ChunkRun K)
    (other : run.result.stopReason ≠ .user) (robot : Robot K) (mayStream : Bool) :
    wp chunkStages (guardedTicks chunk wrenchCap relaxed t0 setpoints run)
      (PartEnds ChunkRun.result) robot (.ticking mayStream) := by
  unfold guardedTicks
  rw [wp_bind, wp_tryCatch, wp_bind]
  apply wp_mono (wp_cartesianTicks chunk wrenchCap t0 setpoints run other robot mayStream)
  have failed (e : Exc) (robot : Robot K) (stage : ChunkStage) (raised : stage.Raised) :
      wp chunkStages (do
        let _ ← restoreWrenchLimit relaxed run
        throw e) (PartEnds ChunkRun.result) robot stage := by
    rw [wp_bind]
    apply wp_mono (wp_restoreWrenchLimit relaxed run robot raised.settled)
    rintro out robot' stage' ⟨same, run', returned, _⟩
    rw [same, returned]
    exact raised
  intro out robot' stage ended
  cases out with
  | error e => exact failed e robot' stage ended
  | ok run' =>
      rw [afterStep_ok, wp_bind]
      apply wp_mono (wp_resolvePending chunk run' robot' ended)
      intro out robot' stage ended
      cases out with
      | error e => exact failed e robot' stage ended
      | ok run' =>
          have reports : stage.Reports run'.result.success run'.result.stopReason := ended
          apply wp_mono (wp_restoreWrenchLimit relaxed run' robot' reports.settled)
          rintro out robot'' stage' ⟨same, run'', returned, kept⟩
          rw [same, returned]
          exact reports.same kept

theorem work_ensureCartesianStart (chunk : CartesianChunk K) (result : ExecutionResult K) :
    Uses (S := effects K) Op.IsChunkWork (ensureCartesianStart chunk result) := by
  refine work_getState.bind fun start => ?_
  split
  · exact uses_pure _
  · exact (uses_get.bind fun _ => uses_backend trivial).bind fun _ =>
      work_getState.bind fun _ => uses_pure _

theorem work_armWrenchLimit (relaxed : Bool) (wrenchCap : Wrench K) :
    Uses (S := effects K) Op.IsChunkWork (armWrenchLimit relaxed wrenchCap) := by
  unfold armWrenchLimit
  split
  · exact uses_backend trivial
  · exact uses_pure ()

theorem wp_runCartesianChunk (chunk : CartesianChunk K) (raiseOnStop record : Bool)
    (robot : Robot K) :
    wp chunkStages (runCartesianChunk chunk raiseOnStop record) ChunkEnds robot
      (.ticking false) := by
  have raised : (ChunkStage.ticking false).Raised := Or.inr ⟨false, rfl⟩
  unfold runCartesianChunk
  rw [wp_bind]
  apply wp_mono (wp_returns (wp_tickWork (work_verifyChunkProfile chunk.safetyProfile {}) robot false)
    (returns_verifyChunkProfile chunk.safetyProfile {}))
  rintro out robot stage ⟨same, verified⟩
  subst same
  cases out with
  | error e => exact Or.inl raised
  | ok result =>
      have unstopped := verified result rfl
      rw [afterStep_ok, wp_bind]
      apply wp_mono (wp_returns (wp_tickWork (work_ensureCartesianStart chunk result) robot false)
        (returns_ensureCartesianStart chunk result))
      rintro out robot stage ⟨same, kept⟩
      subst same
      cases out with
      | error e => exact Or.inl raised
      | ok started =>
          have outcome := unstopped.trans (kept started rfl)
          obtain ⟨start, result⟩ := started
          have other : result.stopReason ≠ .user := by
            rw [outcome.2]
            exact fun impossible => by cases impossible
          rw [afterStep_ok]
          dsimp only
          rw [wp_bind, wp_resetFilter, afterStep_ok, wp_bind, wp_attempt]
          cases chunk.forExecution start.tcpPose with
          | error e => exact Or.inl raised
          | ok chunk =>
              rw [afterStep_ok, wp_bind, wp_get, afterStep_ok]
              dsimp only
              rw [wp_bind]
              apply wp_mono (wp_tickWork (work_armWrenchLimit _ _) _ false)
              intro out robot stage same
              subst same
              cases out with
              | error e => exact Or.inl raised
              | ok _ =>
                  unfold perfCounter
                  rw [afterStep_ok, wp_bind, wp_op]
                  refine ⟨fun impossible => (by cases impossible), fun _ _ => ?_⟩
                  rw [afterStep_ok, wp_bind]
                  apply wp_mono (wp_guardedTicks _ _ _ _ _ _ ?_ _ false)
                  · intro out robot stage ended
                    cases out with
                    | error e => exact Or.inl ended
                    | ok run =>
                        have reports : stage.Reports run.result.success run.result.stopReason :=
                          ended
                        rw [afterStep_ok]
                        apply wp_finalState reports
                        intro final robot'
                        exact wp_returnResult (reports.same (run.sameOutcome_report start final))
                          raiseOnStop robot'
                  · dsimp only
                    split
                    · exact other
                    · exact other

theorem wp_executeCartesianChunk (chunk : CartesianChunk K) (raiseOnStop record : Bool)
    (robot : Robot K) :
    wp chunkStages (executeCartesianChunk chunk raiseOnStop record) ChunkEnds robot .outside := by
  apply wp_checkLease
  apply wp_entryTest
  · rw [if_pos rfl]
    exact wp_abortAtEntry raiseOnStop robot
  · rw [if_neg Bool.false_ne_true]
    exact wp_runCartesianChunk chunk raiseOnStop record robot

end FlexivControl
