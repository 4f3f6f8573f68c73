/-
What a chunk does with the cancel flag.

Between two tests of the flag a chunk streams at most one setpoint. Once a test finds the
flag set, the chunk consumes it, streams nothing more and reports a stop by the user.
-/

import FlexivControl.Robot.ChunkStages

namespace FlexivControl

open Script

variable {K : Type} [Scalar K]

inductive ChunkPhase where
  | idle
  | ticking (mayStream : Bool)
  | stopping
  deriving DecidableEq, Repr

def ChunkPhase.after (phase : ChunkPhase) : Call (effects K) → ChunkPhase
  | ⟨.cancelIsSet .entry, set⟩ => if set then .stopping else .ticking false
  | ⟨.cancelIsSet .tick, set⟩ => if set then .stopping else .ticking true
  | ⟨.write (.streamCartesian _ _), _⟩ => .ticking false
  | ⟨.write (.streamJoint _), _⟩ => .ticking false
  | ⟨.chunkReturns _ _, _⟩ => .idle
  | ⟨.lockRelease _, _⟩ => .idle
  | c => if phase = .stopping ∧ failedCall c = true then .idle else phase

def ChunkPhase.Allows (phase : ChunkPhase) : Op K → Prop
  | .cancelClear => phase = .stopping
  | .write (.streamCartesian _ _) => phase = .ticking true
  | .write (.streamJoint _) => phase = .ticking true
  | .cancelIsSet .tick => ∃ mayStream, phase = .ticking mayStream
  | .cancelIsSet _ => phase ≠ .stopping
  | .lockRelease _ => phase ≠ .stopping
  | .chunkReturns success reason => phase = .stopping → success = false ∧ reason = .user
  | _ => True

def chunkWatch : Monitor (effects K) ChunkPhase where
  observe := ChunkPhase.after
  admits _ _ := True
  allows := ChunkPhase.Allows

def Op.IsLevel : Op K → Prop
  | .cancelClear | .cancelIsSet .entry | .cancelIsSet .tick | .chunkReturns _ _ | .lockRelease _
  | .write (.streamCartesian _ _) | .write (.streamJoint _) => False
  | _ => True

theorem Op.IsQuiet.level {op : Op K} (quiet : op.IsQuiet) : op.IsLevel := by
  cases op with
  | write call =>
      cases call with
      | streamCartesian pose wrench => exact absurd quiet id
      | streamJoint q => exact absurd quiet id
      | _ => trivial
  | cancelClear => exact absurd quiet id
  | cancelIsSet site => exact absurd quiet id
  | lockRelease robot => exact absurd quiet id
  | chunkReturns success reason => exact absurd quiet id
  | _ => trivial

theorem Op.IsLevel.allowed {op : Op K} (level : op.IsLevel) {phase : ChunkPhase}
    (running : phase ≠ .stopping) : phase.Allows op := by
  cases op with
  | write call =>
      cases call with
      | streamCartesian pose wrench => exact absurd level id
      | streamJoint q => exact absurd level id
      | _ => trivial
  | cancelClear => exact absurd level id
  | cancelIsSet site =>
      cases site with
      | entry => exact absurd level id
      | tick => exact absurd level id
      | _ => exact running
  | lockRelease robot => exact absurd level id
  | chunkReturns success reason => exact absurd level id
  | _ => trivial

theorem Op.IsLevel.after {op : Op K} (level : op.IsLevel) (answer : Op.Resp op)
    (phase : ChunkPhase) :
    phase.after ⟨op, answer⟩ =
      if phase = .stopping ∧ failedCall ⟨op, answer⟩ = true then .idle else phase := by
  cases op with
  | write call =>
      cases call with
      | streamCartesian pose wrench => exact absurd level id
      | streamJoint q => exact absurd level id
      | _ => rfl
  | cancelIsSet site =>
      cases site with
      | entry => exact absurd level id
      | tick => exact absurd level id
      | _ => rfl
  | lockRelease robot => exact absurd level id
  | chunkReturns success reason => exact absurd level id
  | _ => rfl

theorem Op.IsLevel.keeps {op : Op K} (level : op.IsLevel) (answer : Op.Resp op)
    {phase : ChunkPhase} (running : phase ≠ .stopping) : phase.after ⟨op, answer⟩ = phase :=
  (level.after answer phase).trans (if_neg fun both => running both.1)

/-- Between chunks such a monitor rests, whatever else is done, and a chunk that keeps to its
stages brings it to rest again. -/
structure FollowsChunks {σ : Type} (m : Monitor (effects K) σ) (rests : σ → Prop) : Prop where
  level : ∀ s op, op.IsLevel → rests s → m.allows s op
  kept : ∀ s op r, op.IsLevel → rests s → rests (m.observe s ⟨op, r⟩)
  unlocks : ∀ s robot, rests s → m.allows s (.lockRelease robot)
  unlocked : ∀ s robot, rests s → rests (m.observe s ⟨.lockRelease robot, ()⟩)
  chunk : ∀ {x : RobotM K (ExecutionResult K)},
    (∀ robot, wp chunkStages x ChunkEnds robot .outside) → Keeps m (fun _ => rests) x

/-! ### The executors -/

/-- Where a chunk at this stage is, for who only follows its phase. -/
def ChunkStage.Within : ChunkStage → ChunkPhase → Prop
  | .outside, phase => phase ≠ .stopping
  | .ticking mayStream, phase => phase = .ticking mayStream
  | .found, phase => phase = .stopping
  | .cleared, phase => phase = .stopping
  | .failed, phase => phase = .idle
  | .reported _ _, phase => phase = .idle

theorem ChunkStage.Within.other {stage : ChunkStage} {phase : ChunkPhase}
    (within : stage.Within phase) (settled : stage ≠ .found) (raises : Bool) :
    (if stage = .cleared ∧ raises = true then ChunkStage.failed else stage).Within
      (if phase = .stopping ∧ raises = true then .idle else phase) := by
  cases stage with
  | found => exact absurd rfl settled
  | cleared =>
      have stopping : phase = .stopping := within
      subst stopping
      cases raises <;> exact rfl
  | outside =>
      rw [if_neg (fun both => by cases both.1), if_neg (fun both => within both.1)]
      exact within
  | _ =>
      have same := within
      rw [same, if_neg (fun both => by cases both.1), if_neg (fun both => by cases both.1)]
      exact rfl

theorem chunkStages_refines :
    (chunkStages (K := K)).Refines chunkWatch ChunkStage.Within := by
  intro stage phase op within allowed
  cases op with
  | cancelClear =>
      have found : stage = .found := allowed
      subst found
      have stopping : phase = .stopping := within
      subst stopping
      exact ⟨rfl, fun _ _ => ⟨trivial, rfl⟩⟩
  | cancelIsSet site =>
      cases site with
      | entry =>
          have outside : stage = .outside := allowed
          subst outside
          refine ⟨within, fun set _ => ⟨trivial, ?_⟩⟩
          cases set <;> exact rfl
      | tick =>
          obtain ⟨mayStream, ticking⟩ := allowed
          subst ticking
          refine ⟨⟨mayStream, within⟩, fun set _ => ⟨trivial, ?_⟩⟩
          cases set <;> exact rfl
      | _ => exact absurd allowed id
  | cancelSet => exact absurd allowed id
  | lockRelease robot => exact absurd allowed id
  | chunkReturns success reason =>
      refine ⟨?_, fun _ _ => ⟨trivial, rfl⟩⟩
      intro stopping
      rcases allowed with ⟨mayStream, ticking, _⟩ | ⟨_, failed, user⟩
      · subst ticking
        subst stopping
        cases within
      · exact ⟨failed, user⟩
  | write call =>
      cases call with
      | streamCartesian pose wrench =>
          have ticking : stage = .ticking true := allowed
          subst ticking
          exact ⟨within, fun _ _ => ⟨trivial, rfl⟩⟩
      | streamJoint q =>
          have ticking : stage = .ticking true := allowed
          subst ticking
          exact ⟨within, fun _ _ => ⟨trivial, rfl⟩⟩
      | _ => exact ⟨trivial, fun _ _ => ⟨trivial, within.other allowed _⟩⟩
  | _ => exact ⟨trivial, fun _ _ => ⟨trivial, within.other allowed _⟩⟩

theorem chunkWatch_follows :
    FollowsChunks (chunkWatch (K := K)) fun phase => phase ≠ .stopping where
  level _ _ level running := level.allowed running
  kept phase op answer level running := by
    change phase.after ⟨op, answer⟩ ≠ .stopping
    rw [level.keeps answer running]
    exact running
  unlocks _ _ running := running
  unlocked _ _ _ impossible := by cases impossible
  chunk := by
    intro x staged robot phase running
    have start : ChunkStage.outside.Within phase := running
    apply Program.wp_mono (chunkStages_refines.wp start (staged robot))
    rintro ⟨out, robot'⟩ phase' ⟨stage, within, ended⟩
    have settled (resting : phase' = .idle) : phase' ≠ .stopping := by
      rw [resting]
      exact fun impossible => by cases impossible
    have reported {success : Bool} {reason : StopReason}
        (same : stage = .reported success reason) : phase' ≠ .stopping := by
      subst same
      exact settled within
    cases out with
    | ok result => exact reported ended
    | error e =>
        rcases ended with (failed | ⟨mayStream, ticking⟩) | ⟨_, _, same⟩
        · subst failed
          exact settled within
        · subst ticking
          have same : phase' = .ticking mayStream := within
          rw [same]
          exact fun impossible => by cases impossible
        · exact reported same

section Motions

variable {σ α : Type} {m : Monitor (effects K) σ} {rests : σ → Prop}

namespace FollowsChunks

theorem uses_level (follows : FollowsChunks m rests) {x : RobotM K α}
    (uses : Uses (S := effects K) Op.IsLevel x) : Keeps m (fun _ => rests) x :=
  uses.keeps follows.level follows.kept

theorem uses_quiet (follows : FollowsChunks m rests) {x : RobotM K α}
    (uses : Uses (S := effects K) Op.IsQuiet x) : Keeps m (fun _ => rests) x :=
  follows.uses_level (uses.mono fun _ => Op.IsQuiet.level)

theorem perform (follows : FollowsChunks m rests) {op : Op K} (level : op.IsLevel) :
    Keeps m (fun _ => rests) (FlexivControl.perform op) :=
  follows.uses_level (uses_op level)

theorem attempt (follows : FollowsChunks m rests) (result : Except Exc α) :
    Keeps m (fun _ => rests) (FlexivControl.attempt result) :=
  follows.uses_level (uses_attempt result)

theorem getState (follows : FollowsChunks m rests) :
    Keeps m (fun _ => rests) (FlexivControl.getState : RobotM K (RobotState K)) :=
  follows.uses_quiet uses_getState

theorem executeJointChunk (follows : FollowsChunks m rests) (chunk : JointChunk K)
    (raiseOnStop : Bool) :
    Keeps m (fun _ => rests) (FlexivControl.executeJointChunk chunk raiseOnStop) :=
  follows.chunk (wp_executeJointChunk chunk raiseOnStop)

theorem executeCartesianChunk (follows : FollowsChunks m rests) (chunk : CartesianChunk K)
    (raiseOnStop record : Bool) :
    Keeps m (fun _ => rests) (FlexivControl.executeCartesianChunk chunk raiseOnStop record) :=
  follows.chunk (wp_executeCartesianChunk chunk raiseOnStop record)

theorem servoCartesianDelta (follows : FollowsChunks m rests) (translation rotation : Vec3 K)
    (duration : Option K) (frame : String) (gripper : Option (GripperCommand K)) :
    Keeps m (fun _ => rests)
      (FlexivControl.servoCartesianDelta translation rotation duration frame gripper) :=
  (follows.uses_quiet uses_checkLease).bind fun _ => keeps_get.bind fun _ =>
    follows.getState.bind fun _ => (follows.attempt _).bind fun _ =>
      (follows.attempt _).bind fun _ => follows.executeCartesianChunk _ _ _

theorem servoCartesianPose (follows : FollowsChunks m rests) (pose : Pose K) (duration : K)
    (gripper : Option (GripperCommand K)) :
    Keeps m (fun _ => rests) (FlexivControl.servoCartesianPose pose duration gripper) :=
  keeps_get.bind fun _ => (follows.attempt _).bind fun _ => follows.executeCartesianChunk _ _ _

theorem moveJoint (follows : FollowsChunks m rests) (qTarget : List K)
    (duration maxJointSpeed : Option K) (realtime : Bool) :
    Keeps m (fun _ => rests) (FlexivControl.moveJoint qTarget duration maxJointSpeed realtime) := by
  have starts : Keeps m (fun _ => rests) (startJointImpedance none realtime : RobotM K Unit) :=
    follows.uses_level (uses_backend trivial)
  exact (follows.uses_quiet uses_checkLease).bind fun _ => follows.getState.bind fun _ =>
    (follows.attempt _).bind fun _ => starts.bind fun _ => keeps_get.bind fun _ =>
      follows.executeJointChunk _ _

theorem commandGripper (follows : FollowsChunks m rests) (cmd : GripperCommand K) (wait : Bool)
    (timeout : K) : Keeps m (fun _ => rests) (FlexivControl.commandGripper cmd wait timeout) :=
  follows.uses_level
    (uses_commandGripper_of (fun _ steady => steady.quiet.level) trivial cmd wait timeout)

theorem home (follows : FollowsChunks m rests) (q : Option (List K))
    (maxJointSpeed duration : Option K) :
    Keeps m (fun _ => rests) (FlexivControl.home q maxJointSpeed duration) := by
  apply (follows.uses_quiet uses_checkLease).bind
  intro _
  apply keeps_get.bind
  intro robot
  apply Keeps.bind
  · apply Keeps.tryCatch
    · unfold vendorHome
      split
      · exact keeps_throw _
      · exact follows.uses_level (uses_backend trivial)
    · intro e
      split
      · exact (follows.moveJoint _ _ _ _).bind fun _ => keeps_pure _
      · exact keeps_throw e
  · intro _
    unfold homeGripper
    split
    · exact keeps_pure _
    · exact (follows.commandGripper _ _ _).bind fun _ => keeps_pure _

theorem goHomeSafe (follows : FollowsChunks m rests) (qHome : Option (List K)) (liftM : K)
    (openGripperWidth : Option K) (maxTcpSpeed maxJointSpeed : K) :
    Keeps m (fun _ => rests)
      (FlexivControl.goHomeSafe qHome liftM openGripperWidth maxTcpSpeed maxJointSpeed) := by
  have lift : Keeps m (fun _ => rests) (liftStage liftM maxTcpSpeed) := by
    apply Keeps.tryCatch
    · exact follows.getState.bind fun _ => keeps_get.bind fun _ =>
        (follows.executeCartesianChunk _ _ _).bind fun _ => keeps_pure _
    · exact fun e => keeps_pure _
  have opens (log : Log K) : Keeps m (fun _ => rests) (gripperStage openGripperWidth log) := by
    apply keeps_get.bind
    intro robot
    split
    · exact keeps_pure _
    · exact .tryCatch ((follows.commandGripper _ _ _).bind fun _ => keeps_pure _)
        fun e => keeps_pure _
  have forbidden (contactAbort : Bool) :
      Keeps m (fun _ => rests) (homeForbidden contactAbort : RobotM K Bool) := by
    unfold homeForbidden
    split
    · exact keeps_pure true
    · exact follows.perform trivial
  have reason : Keeps m (fun _ => rests) (cancelIsSet .guardReason : RobotM K Bool) :=
    follows.perform trivial
  apply (follows.uses_quiet uses_checkLease).bind
  intro _
  apply lift.bind
  intro lifted
  apply (opens lifted.1).bind
  intro log
  apply (forbidden lifted.2).bind
  intro skip
  split
  · exact reason.bind fun _ => follows.getState.bind fun _ => keeps_pure _
  · exact keeps_get.bind fun _ => (follows.moveJoint _ _ _ _).bind fun _ => keeps_pure _

end FollowsChunks

end Motions

/-! ### What a thread last learnt of the flag -/

inductive FlagTurn where
  | clear
  | found
  | consumed
  deriving DecidableEq, Repr

def FlagTurn.after (turn : FlagTurn) : Call (effects K) → FlagTurn
  | ⟨.cancelIsSet .entry, set⟩ => if set then .found else .clear
  | ⟨.cancelIsSet .tick, set⟩ => if set then .found else .clear
  | ⟨.cancelClear, _⟩ => .consumed
  | _ => turn

def FlagTurn.Allows (turn : FlagTurn) : Op K → Prop
  | .cancelClear => turn = .found
  | .chunkReturns _ reason => turn ≠ .found ∧ (reason = .user → turn = .consumed)
  | _ => turn ≠ .found

/-- A chunk that finds the flag set clears it before anything else, and only such a chunk
reports a stop by the user. -/
def flagTurns : Monitor (effects K) FlagTurn where
  observe := FlagTurn.after
  admits _ _ := True
  allows := FlagTurn.Allows

def ChunkStage.Learnt : ChunkStage → FlagTurn → Prop
  | .ticking _, turn => turn = .clear
  | .found, turn => turn = .found
  | .cleared, turn => turn = .consumed
  | _, turn => turn ≠ .found

theorem ChunkStage.Learnt.other {stage : ChunkStage} {turn : FlagTurn}
    (learnt : stage.Learnt turn) (settled : stage ≠ .found) (raises : Bool) :
    turn ≠ .found ∧
      (if stage = .cleared ∧ raises = true then ChunkStage.failed else stage).Learnt turn := by
  cases stage with
  | found => exact absurd rfl settled
  | cleared =>
      have consumed : turn = .consumed := learnt
      subst consumed
      refine ⟨fun impossible => (by cases impossible), ?_⟩
      cases raises with
      | true => exact fun impossible => by cases impossible
      | false => exact rfl
  | ticking mayStream =>
      have clear : turn = .clear := learnt
      subst clear
      refine ⟨fun impossible => (by cases impossible), ?_⟩
      rw [if_neg (fun both => by cases both.1)]
      exact rfl
  | _ =>
      have unfound : turn ≠ .found := learnt
      refine ⟨unfound, ?_⟩
      rw [if_neg (fun both => by cases both.1)]
      exact unfound

theorem chunkStages_learn :
    (chunkStages (K := K)).Refines flagTurns ChunkStage.Learnt := by
  intro stage turn op learnt allowed
  cases op with
  | cancelClear =>
      have found : stage = .found := allowed
      subst found
      exact ⟨learnt, fun _ _ => ⟨trivial, rfl⟩⟩
  | cancelIsSet site =>
      cases site with
      | entry =>
          have outside : stage = .outside := allowed
          subst outside
          refine ⟨learnt, fun set _ => ⟨trivial, ?_⟩⟩
          cases set <;> exact rfl
      | tick =>
          obtain ⟨mayStream, ticking⟩ := allowed
          subst ticking
          have clear : turn = .clear := learnt
          subst clear
          refine ⟨fun impossible => (by cases impossible), fun set _ => ⟨trivial, ?_⟩⟩
          cases set <;> exact rfl
      | _ => exact absurd allowed id
  | cancelSet => exact absurd allowed id
  | lockRelease robot => exact absurd allowed id
  | chunkReturns success reason =>
      have unfound : turn ≠ .found := (learnt.other (ChunkStage.Reports.settled allowed) false).1
      refine ⟨⟨unfound, ?_⟩, fun _ _ => ⟨trivial, unfound⟩⟩
      intro user
      rcases allowed with ⟨mayStream, ticking, other⟩ | ⟨cleared, _, _⟩
      · exact absurd user other
      · subst cleared
        exact learnt
  | write call =>
      cases call with
      | streamCartesian pose wrench =>
          have ticking : stage = .ticking true := allowed
          subst ticking
          exact ⟨(learnt.other (fun impossible => by cases impossible) false).1,
            fun _ _ => ⟨trivial, learnt⟩⟩
      | streamJoint q =>
          have ticking : stage = .ticking true := allowed
          subst ticking
          exact ⟨(learnt.other (fun impossible => by cases impossible) false).1,
            fun _ _ => ⟨trivial, learnt⟩⟩
      | _ =>
          exact ⟨(learnt.other allowed false).1, fun _ _ => ⟨trivial, (learnt.other allowed _).2⟩⟩
  | _ => exact ⟨(learnt.other allowed false).1, fun _ _ => ⟨trivial, (learnt.other allowed _).2⟩⟩

theorem flagTurns_follows : FollowsChunks (flagTurns (K := K)) fun turn => turn ≠ .found where
  level := by
    intro turn op level unfound
    cases op with
    | cancelClear => exact absurd level id
    | chunkReturns success reason => exact absurd level id
    | _ => exact unfound
  kept := by
    intro turn op answer level unfound
    cases op with
    | cancelClear => exact absurd level id
    | cancelIsSet site =>
        cases site with
        | entry => exact absurd level id
        | tick => exact absurd level id
        | _ => exact unfound
    | _ => exact unfound
  unlocks _ _ unfound := unfound
  unlocked _ _ unfound := unfound
  chunk := by
    intro x staged robot turn unfound
    have start : ChunkStage.outside.Learnt turn := unfound
    apply Program.wp_mono (chunkStages_learn.wp start (staged robot))
    rintro ⟨out, robot'⟩ turn' ⟨stage, learnt, ended⟩
    have settled : stage ≠ .found := by
      cases out with
      | ok result =>
          rw [show stage = .reported result.success result.stopReason from ended]
          exact fun impossible => by cases impossible
      | error e =>
          rcases ended with raised | ⟨_, _, same⟩
          · exact raised.settled
          · rw [same]
            exact fun impossible => by cases impossible
    exact (learnt.other settled false).1

def Op.setpoint : Op K → Option (Setpoint K)
  | .write call => call.setpoint
  | _ => none

def Op.report : Op K → Option (Bool × StopReason)
  | .chunkReturns success reason => some (success, reason)
  | _ => none

def Op.TestsForChunk : Op K → Prop
  | .cancelIsSet .entry | .cancelIsSet .tick => True
  | _ => False

def streamed (calls : List (Call (effects K))) : List (Setpoint K) :=
  calls.filterMap fun c => c.op.setpoint

/-- The calls up to the report of the chunk they are in. -/
def beforeReport (calls : List (Call (effects K))) : List (Call (effects K)) :=
  calls.takeWhile fun c => c.op.report.isNone

def firstReport (calls : List (Call (effects K))) : Option (Bool × StopReason) :=
  calls.findSome? fun c => c.op.report

section Calls

variable {phase : ChunkPhase} {calls : List (Call (effects K))} {c : Call (effects K)}

theorem streamed_mute (mute : c.op.setpoint = none) (rest : List (Call (effects K))) :
    streamed (c :: rest) = streamed rest := by
  rw [streamed, List.filterMap_cons, mute]
  rfl

theorem streamed_setpoint {sp : Setpoint K} (streams : c.op.setpoint = some sp)
    (rest : List (Call (effects K))) : streamed (c :: rest) = sp :: streamed rest := by
  rw [streamed, List.filterMap_cons, streams]
  rfl

theorem streams_iff {op : Op K} :
    op.setpoint ≠ none ↔ (∃ pose wrench, op = .write (.streamCartesian pose wrench)) ∨
      ∃ q, op = .write (.streamJoint q) := by
  constructor
  · intro streams
    cases op with
    | write call =>
        cases call with
        | streamCartesian pose wrench => exact Or.inl ⟨pose, wrench, rfl⟩
        | streamJoint q => exact Or.inr ⟨q, rfl⟩
        | _ => exact absurd rfl streams
    | _ => exact absurd rfl streams
  · rintro (⟨pose, wrench, same⟩ | ⟨q, same⟩)
    · subst same
      exact Option.some_ne_none _
    · subst same
      exact Option.some_ne_none _

theorem ChunkPhase.allows_stream (allowed : phase.Allows c.op) (streams : c.op.setpoint ≠ none) :
    phase = .ticking true ∧ phase.after c = .ticking false := by
  obtain ⟨op, answer⟩ := c
  rcases streams_iff.mp streams with ⟨pose, wrench, same⟩ | ⟨q, same⟩
  · have same : op = .write (.streamCartesian pose wrench) := same
    subst same
    exact ⟨allowed, rfl⟩
  · have same : op = .write (.streamJoint q) := same
    subst same
    exact ⟨allowed, rfl⟩

/-- What is neither a test nor a setpoint keeps the phase, or ends the chunk. -/
theorem ChunkPhase.after_other (untested : ¬ c.op.TestsForChunk) (mute : c.op.setpoint = none) :
    phase.after c = phase ∨ phase.after c = .idle := by
  have either : (if phase = .stopping ∧ failedCall c = true then ChunkPhase.idle else phase) = phase ∨
      (if phase = .stopping ∧ failedCall c = true then ChunkPhase.idle else phase) = .idle := by
    split
    · exact Or.inr rfl
    · exact Or.inl rfl
  obtain ⟨op, answer⟩ := c
  cases op with
  | write call =>
      cases call with
      | streamCartesian pose wrench => cases mute
      | streamJoint q => cases mute
      | _ => exact either
  | cancelIsSet site =>
      cases site with
      | entry => exact absurd trivial untested
      | tick => exact absurd trivial untested
      | _ => exact either
  | lockRelease robot => exact Or.inr rfl
  | chunkReturns success reason => exact Or.inr rfl
  | _ => exact either

theorem streamed_untested (allowed : chunkWatch.Allowed phase calls)
    (untested : ∀ c ∈ calls, ¬ c.op.TestsForChunk) :
    (streamed calls).length ≤ if phase = .ticking true then 1 else 0 := by
  induction calls generalizing phase with
  | nil => exact Nat.zero_le _
  | cons c rest ih =>
      rw [List.forall_mem_cons] at untested
      have later := ih allowed.2 untested.2
      change (streamed rest).length ≤ if phase.after c = .ticking true then 1 else 0 at later
      cases streams : c.op.setpoint with
      | some sp =>
          have streams' : c.op.setpoint ≠ none := by
            rw [streams]
            exact Option.some_ne_none sp
          obtain ⟨before, after⟩ := ChunkPhase.allows_stream allowed.1 streams'
          rw [after, if_neg (fun impossible => by cases impossible)] at later
          rw [before, if_pos rfl, streamed_setpoint streams, List.length_cons]
          exact Nat.succ_le_succ later
      | none =>
          rw [streamed_mute streams]
          rcases ChunkPhase.after_other untested.1 streams with same | idle
          · rw [same] at later
            exact later
          · rw [idle, if_neg (fun impossible => by cases impossible)] at later
            exact later.trans (Nat.zero_le _)

/-- What leads to a tick without a test has been in one, and has not cleared the flag. -/
theorem ChunkPhase.ticking_before {mayStream : Bool} (allowed : phase.Allows c.op)
    (untested : ¬ c.op.TestsForChunk) (ticks : phase.after c = .ticking mayStream) :
    (∃ mayStream', phase = .ticking mayStream') ∧ c.op ≠ .cancelClear := by
  by_cases streams : c.op.setpoint = none
  · have kept : phase.after c = phase ∨ phase.after c = .idle := after_other untested streams
    rcases kept with same | idle
    · rw [same] at ticks
      refine ⟨⟨mayStream, ticks⟩, ?_⟩
      intro clears
      rw [clears, ticks] at allowed
      cases allowed
    · rw [idle] at ticks
      cases ticks
  · refine ⟨⟨true, (allows_stream allowed streams).1⟩, ?_⟩
    intro clears
    rw [clears] at streams
    exact streams rfl

theorem ticking_throughout {mayStream : Bool} (allowed : chunkWatch.Allowed phase calls)
    (untested : ∀ c ∈ calls, ¬ c.op.TestsForChunk)
    (ticks : chunkWatch.run phase calls = .ticking mayStream) :
    (∀ xs ys, calls = xs ++ ys → ∃ mayStream', chunkWatch.run phase xs = .ticking mayStream') ∧
      ∀ c ∈ calls, c.op ≠ .cancelClear := by
  induction calls generalizing phase with
  | nil =>
      refine ⟨?_, fun c none => (by cases none)⟩
      intro xs ys split
      rw [(List.append_eq_nil_iff.mp split.symm).1]
      exact ⟨mayStream, ticks⟩
  | cons c rest ih =>
      rw [List.forall_mem_cons] at untested
      obtain ⟨later, unclear⟩ := ih allowed.2 untested.2 ticks
      obtain ⟨mayStream', next⟩ := later [] rest rfl
      obtain ⟨now, keeps⟩ := ChunkPhase.ticking_before allowed.1 untested.1 next
      refine ⟨?_, List.forall_mem_cons.mpr ⟨keeps, unclear⟩⟩
      intro xs ys split
      cases xs with
      | nil => exact now
      | cons x xs =>
          obtain ⟨same, behind⟩ := List.cons.inj split
          subst same
          exact later xs ys behind

theorem ChunkPhase.stopping_stays (allowed : ChunkPhase.stopping.Allows c.op)
    (unreported : c.op.report = none) (unfailed : failedCall c = false) :
    ChunkPhase.stopping.after c = .stopping := by
  have stays : (if ChunkPhase.stopping = .stopping ∧ failedCall c = true then ChunkPhase.idle
      else .stopping) = .stopping :=
    if_neg fun both => Bool.false_ne_true (unfailed.symm.trans both.2)
  obtain ⟨op, answer⟩ := c
  cases op with
  | write call =>
      cases call with
      | streamCartesian pose wrench => cases allowed
      | streamJoint q => cases allowed
      | _ => exact stays
  | cancelIsSet site =>
      cases site with
      | entry => exact absurd rfl allowed
      | tick =>
          obtain ⟨_, impossible⟩ := allowed
          cases impossible
      | _ => exact stays
  | lockRelease robot => exact absurd rfl allowed
  | chunkReturns success reason => cases unreported
  | _ => exact stays

/-- A chunk that obeys the flag streams nothing more, and reports a stop by the user. -/
theorem stopping_reports (allowed : chunkWatch.Allowed .stopping calls)
    (unfailed : ∀ c ∈ beforeReport calls, failedCall c = false) :
    streamed (beforeReport calls) = [] ∧
      (∀ report, firstReport calls = some report → report = (false, .user)) ∧
      (firstReport calls = none → chunkWatch.run .stopping calls = .stopping) := by
  induction calls with
  | nil => exact ⟨rfl, fun report none => (by cases none), fun _ => rfl⟩
  | cons c rest ih =>
      cases reports : c.op.report with
      | some report =>
          obtain ⟨op, answer⟩ := c
          have ends : beforeReport (⟨op, answer⟩ :: rest) = [] :=
            List.takeWhile_cons_of_neg (by rw [reports]; exact Bool.false_ne_true)
          have first : firstReport (⟨op, answer⟩ :: rest) = some report := by
            rw [firstReport, List.findSome?_cons, reports]
          cases op with
          | chunkReturns success reason =>
              obtain ⟨failed, user⟩ := allowed.1 rfl
              rw [ends, first]
              refine ⟨rfl, ?_, fun impossible => (by cases impossible)⟩
              intro report' same
              cases same
              cases reports
              rw [failed, user]
          | _ => cases reports
      | none =>
          have goes_on : beforeReport (c :: rest) = c :: beforeReport rest :=
            List.takeWhile_cons_of_pos (by rw [reports]; rfl)
          have first : firstReport (c :: rest) = firstReport rest := by
            rw [firstReport, List.findSome?_cons, reports]
            rfl
          rw [goes_on, List.forall_mem_cons] at unfailed
          have mute : c.op.setpoint = none := by
            by_contra streams
            cases (ChunkPhase.allows_stream allowed.1 streams).1
          have stays := ChunkPhase.stopping_stays allowed.1 reports unfailed.1
          obtain ⟨silent, reported, finished⟩ := ih (stays ▸ allowed.2) unfailed.2
          rw [goes_on, first]
          refine ⟨?_, reported, ?_⟩
          · rw [streamed_mute mute]
            exact silent
          · intro unreported
            rw [Monitor.run_cons]
            change chunkWatch.run (ChunkPhase.stopping.after c) rest = _
            rw [stays]
            exact finished unreported

theorem found_clears (allowed : flagTurns.Allowed .found (c :: calls)) :
    c = ⟨.cancelClear, ()⟩ := by
  obtain ⟨op, answer⟩ := c
  have now : FlagTurn.found.Allows op := allowed.1
  cases op with
  | cancelClear => rfl
  | chunkReturns success reason => exact absurd rfl now.1
  | _ => exact absurd rfl now

/-- A chunk whose tests have all found the flag clear does not report the user. -/
theorem clear_reports (allowed : flagTurns.Allowed .clear calls)
    (unset : ∀ site, (.cancelIsSet site : Op K).TestsForChunk →
      ⟨.cancelIsSet site, true⟩ ∉ beforeReport calls)
    {report : Bool × StopReason} (reported : firstReport calls = some report) :
    report.2 ≠ .user := by
  induction calls with
  | nil => cases reported
  | cons c rest ih =>
      obtain ⟨op, answer⟩ := c
      have now : FlagTurn.clear.Allows op := allowed.1
      have later : flagTurns.Allowed (FlagTurn.clear.after ⟨op, answer⟩) rest := allowed.2
      have further (silent : op.report = none)
          (kept : FlagTurn.clear.after ⟨op, answer⟩ = .clear) : report.2 ≠ .user := by
        have goes_on : beforeReport (⟨op, answer⟩ :: rest) = ⟨op, answer⟩ :: beforeReport rest :=
          List.takeWhile_cons_of_pos (by rw [silent]; rfl)
        rw [kept] at later
        rw [goes_on] at unset
        rw [firstReport, List.findSome?_cons, silent] at reported
        exact ih later (fun site tests found => unset site tests (List.mem_cons_of_mem _ found))
          reported
      cases op with
      | cancelClear => cases now
      | chunkReturns success reason =>
          rw [firstReport, List.findSome?_cons] at reported
          cases reported
          intro user
          cases now.2 user
      | cancelIsSet site =>
          have head : ⟨.cancelIsSet site, answer⟩ ∈
              beforeReport (⟨.cancelIsSet site, answer⟩ :: rest : List (Call (effects K))) := by
            rw [beforeReport, List.takeWhile_cons_of_pos rfl]
            exact List.mem_cons_self
          cases answer with
          | true =>
              cases site with
              | entry => exact absurd head (unset .entry trivial)
              | tick => exact absurd head (unset .tick trivial)
              | _ => exact further rfl rfl
          | false => cases site <;> exact further rfl rfl
      | _ => exact further rfl rfl

end Calls

end FlexivControl
