/-
Which handlers can raise, test and clear the cancel flag, and which can start a servo loop.
-/

import FlexivControl.Robot.Footprint
import FlexivControl.Server.Handlers

namespace FlexivControl

open Script

variable {K : Type} [Scalar K]

/-- The requests that may ask a chunk in flight to stop. -/
def Request.RequestsStop : Request K → Prop
  | .stop | .releaseLease _ => True
  | .acquireLease _ force => force = true
  | _ => False

def Request.StartsLoop : Request K → Prop
  | .startServoLoop _ _ => True
  | _ => False

/-- The requests whose handler executes chunks. -/
def Request.RunsChunk : Request K → Prop
  | .servoCartesianDelta _ _ | .servoCartesianPose _ _ | .executeCartesianChunk _ _
  | .executeJointChunk _ _ | .moveJoint _ _ | .home _ _ _ | .goHomeSafe _ _ _ => True
  | _ => False

def Request.Greets : Request K → Prop
  | .acquireLease _ _ => True
  | _ => False

def Request.Permits (request : Request K) : Op K → Prop
  | .cancelSet => request.RequestsStop
  | .cancelClear => request.RunsChunk ∨ request.Greets
  | .cancelIsSet .entry | .cancelIsSet .tick => request.RunsChunk
  | .loopInstall _ => request.StartsLoop
  | _ => True

section Parts

variable {request : Request K}

theorem Op.IsQuiet.permitted {op : Op K} (quiet : op.IsQuiet) : request.Permits op := by
  cases op with
  | cancelSet => exact absurd quiet id
  | cancelClear => exact absurd quiet id
  | cancelIsSet site => exact absurd quiet id
  | loopInstall controlHz => exact absurd quiet id
  | _ => trivial

theorem quiet_permitted {α : Type} {x : RobotM K α} (uses : Uses (S := effects K) Op.IsQuiet x) :
    Uses request.Permits x :=
  uses.mono fun _ => Op.IsQuiet.permitted

theorem motion_permitted {α : Type} {x : RobotM K α} (runs : request.RunsChunk)
    (uses : Uses (S := effects K) Op.IsMotion x) : Uses request.Permits x := by
  apply uses.mono
  intro op motion
  cases op with
  | cancelSet => exact absurd motion id
  | cancelClear => exact Or.inl runs
  | cancelIsSet site =>
      cases site with
      | entry => exact runs
      | tick => exact runs
      | _ => trivial
  | loopInstall controlHz => exact absurd motion id
  | _ => trivial

theorem releaseRobotLock_permitted :
    Uses request.Permits (releaseRobotLock : RobotM K Unit) :=
  uses_get.bind fun _ => uses_op trivial

theorem withRobotLock_permitted {α : Type} {x : RobotM K α} (uses : Uses request.Permits x) :
    Uses request.Permits (withRobotLock x) :=
  Uses.bind (uses_op trivial) fun _ => (uses_set _).bind fun _ =>
    uses.ensuring releaseRobotLock_permitted

theorem requireLease_permitted (owner : String) :
    Uses request.Permits (requireLease owner : RobotM K Unit) :=
  Uses.bind (uses_op trivial) fun checked => (uses_attempt checked).bind fun _ =>
    Uses.bind (uses_op trivial) fun beat => (uses_attempt beat).bind fun _ => uses_op trivial

theorem holdLease_permitted {α : Type} (owner : String) {x : RobotM K α}
    (uses : Uses request.Permits x) : Uses request.Permits (holdLease owner x) := by
  unfold holdLease
  split
  · exact uses
  · exact Uses.bind (uses_op trivial) fun entered => (uses_attempt entered).bind fun _ =>
      Uses.ensuring uses (uses_op trivial)

theorem motionLock_permitted {α : Type} (owner : String) {x : RobotM K α}
    (uses : Uses request.Permits x) : Uses request.Permits (motionLock owner x) := by
  apply withRobotLock_permitted
  refine Uses.bind (uses_op trivial) fun slot => ?_
  cases slot with
  | some loop => exact uses_throw _
  | none => exact holdLease_permitted owner uses

theorem replied_permitted {α β : Type} (owner : String) {x : RobotM K α} (reply : α → β)
    (uses : Uses request.Permits x) :
    Uses request.Permits (do
      let r ← motionLock owner x
      pure (reply r)) :=
  (motionLock_permitted owner uses).bind fun _ => uses_pure _

theorem takeLoop_permitted :
    Uses request.Permits (withRobotLock takeLoop : RobotM K (Option Nat)) :=
  withRobotLock_permitted (uses_op trivial)

theorem stopTaken_permitted (taken : Option Nat) :
    Uses request.Permits (stopTaken taken : RobotM K Unit) := by
  cases taken with
  | none => exact uses_pure ()
  | some loop =>
      exact Uses.bind (uses_op trivial) fun _ => withRobotLock_permitted (uses_backend trivial)

theorem stop_permitted (stops : request.RequestsStop) :
    Uses request.Permits (stop : RobotM K Unit) :=
  Uses.bind (uses_op stops) fun _ => uses_backend trivial

theorem hStop_permitted (stops : request.RequestsStop) :
    Uses request.Permits (hStop : RobotM K (Reply K)) := by
  have last : Uses request.Permits (stopRobot : RobotM K Unit) := by
    refine Uses.bind (uses_op trivial) fun answer => ?_
    cases answer with
    | none => exact uses_op stops
    | some robot =>
        exact (uses_set robot).bind fun _ =>
          (stop_permitted stops).ensuring releaseRobotLock_permitted
  refine Uses.bind (uses_op stops) fun _ => Uses.bind (uses_op trivial) fun answer => ?_
  cases answer with
  | none => exact Uses.bind (uses_op stops) fun _ => uses_pure _
  | some robot =>
      refine (uses_set robot).bind fun _ =>
        (Uses.ensuring (uses_op trivial) releaseRobotLock_permitted).bind fun taken => ?_
      exact (stopTaken_permitted taken).bind fun _ => last.bind fun _ => uses_pure _

theorem hGetState_permitted : Uses request.Permits (hGetState : RobotM K (Reply K)) := by
  have reads : Uses request.Permits (getState : RobotM K (RobotState K)) :=
    quiet_permitted uses_getState
  have live (loop : Nat) : Uses request.Permits (loopState loop : RobotM K (RobotState K)) :=
    Uses.bind (uses_op trivial) fun state => uses_attempt state
  have stamped (s : RobotState K) : Uses request.Permits (do
      let owner ← perform .leaseOwner
      pure (.state { s with activeOwner := owner }) : RobotM K (Reply K)) :=
    Uses.bind (uses_op trivial) fun _ => uses_pure _
  refine Uses.bind (uses_op trivial) fun answer => ?_
  cases answer with
  | none =>
      refine Uses.bind (Uses.bind (uses_op trivial) fun slot => ?_) stamped
      cases slot with
      | some loop => exact live loop
      | none =>
          refine Uses.bind (uses_op trivial) fun peeked => ?_
          cases peeked with
          | some s => exact uses_pure s
          | none => exact withRobotLock_permitted reads
  | some robot =>
      refine (uses_set robot).bind fun _ =>
        Uses.bind (Uses.ensuring ?_ releaseRobotLock_permitted) fun found => ?_
      · refine Uses.bind (uses_op trivial) fun slot => ?_
        cases slot with
        | some loop => exact uses_pure _
        | none => exact reads.bind fun _ => uses_pure _
      · cases found with
        | inl loop => exact (live loop).bind stamped
        | inr s => exact (uses_pure s).bind stamped

theorem installLoop_permitted (starts : request.StartsLoop) (controlHz : Option K) :
    Uses request.Permits (installLoop controlHz) := by
  refine Uses.bind (uses_op trivial) fun slot => ?_
  cases slot with
  | some loop => exact uses_pure _
  | none =>
      have reads : Uses request.Permits (readState : RobotM K (RobotState K)) :=
        quiet_permitted uses_readState
      refine Uses.bind ?_ fun _ => Uses.bind (uses_op starts) fun _ => uses_pure _
      refine reads.bind fun s => ?_
      dsimp only
      split
      · exact (uses_pure s).bind fun _ => uses_resetFilter _
      · exact (uses_get.bind fun _ => uses_backend trivial).bind fun _ => reads.bind fun _ =>
          uses_resetFilter _

theorem runningLoop_permitted : Uses request.Permits (runningLoop : RobotM K Nat) := by
  have looks : Uses request.Permits (perform .loopSlot : RobotM K (Option Nat)) := uses_op trivial
  apply (withRobotLock_permitted looks).bind
  intro slot
  cases slot with
  | none => exact uses_throw _
  | some loop =>
      refine Uses.bind (uses_op trivial) fun alive => ?_
      split
      · exact uses_pure loop
      · exact uses_throw _

theorem settleCancel_permitted {force : Bool} (stops : force = true → request.RequestsStop)
    (greets : request.Greets)
    (prev owner : String) : Uses request.Permits (settleCancel force prev owner : RobotM K Unit) := by
  unfold settleCancel
  split
  · rename_i displaces
    exact uses_op (stops displaces.1)
  · split
    · exact uses_op (Or.inr greets)
    · exact uses_pure ()

end Parts

theorem handle_permitted (request : Request K) : Uses request.Permits (handle request) := by
  cases request with
  | ping => exact uses_pure _
  | acquireLease owner force =>
      have greets : (Request.acquireLease owner force : Request K).Greets := trivial
      refine Uses.bind (uses_op trivial) fun prev => Uses.bind (uses_op trivial) fun granted => ?_
      exact (uses_attempt granted).bind fun info =>
        (settleCancel_permitted id greets prev info.1).bind fun _ => uses_pure _
  | releaseLease owner =>
      have stops : (Request.releaseLease owner : Request K).RequestsStop := trivial
      refine Uses.bind (uses_op trivial) fun released => (uses_attempt released).bind fun _ => ?_
      refine takeLoop_permitted.bind fun taken => (stopTaken_permitted taken).bind fun _ => ?_
      exact (withRobotLock_permitted (stop_permitted stops)).bind fun _ => uses_pure _
  | heartbeat owner =>
      exact Uses.bind (uses_op trivial) fun beat => (uses_attempt beat).bind fun _ => uses_pure _
  | getLease => exact Uses.bind (uses_op trivial) fun _ => uses_pure _
  | setSafetyProfile owner name =>
      refine (requireLease_permitted owner).bind fun _ => Uses.bind ?_ fun _ =>
        Uses.bind (uses_op trivial) fun _ => uses_pure _
      apply withRobotLock_permitted
      refine (uses_attempt name).bind fun name => Uses.bind (uses_op trivial) fun loaded => ?_
      exact (uses_attempt loaded).bind fun profile => (uses_modify _).bind fun _ => uses_op trivial
  | getSafetyProfile => exact Uses.bind (uses_op trivial) fun _ => uses_pure _
  | getState => exact hGetState_permitted
  | startCartesianImpedance owner params realtime =>
      refine (requireLease_permitted owner).bind fun _ => (uses_attempt params).bind fun p => ?_
      exact replied_permitted owner (fun _ => Reply.started)
        (uses_get.bind fun _ => uses_backend trivial)
  | startJointImpedance owner realtime =>
      refine (requireLease_permitted owner).bind fun _ => ?_
      exact replied_permitted owner (fun _ => Reply.started) (uses_backend trivial)
  | servoCartesianDelta owner params =>
      refine (requireLease_permitted owner).bind fun _ => ?_
      exact replied_permitted owner Reply.result ((uses_attempt params).bind fun p =>
        motion_permitted trivial (uses_servoCartesianDelta _ _ _ _ _))
  | servoCartesianPose owner params =>
      refine (requireLease_permitted owner).bind fun _ => ?_
      exact replied_permitted owner Reply.result ((uses_attempt params).bind fun p =>
        motion_permitted trivial (uses_servoCartesianPose _ _ _))
  | executeCartesianChunk owner chunk =>
      refine (requireLease_permitted owner).bind fun _ => (uses_attempt chunk).bind fun _ => ?_
      exact replied_permitted owner Reply.result
        (motion_permitted trivial (cartesian_motion (uses_executeCartesianChunk _ _ _)))
  | executeJointChunk owner chunk =>
      refine (requireLease_permitted owner).bind fun _ => (uses_attempt chunk).bind fun _ => ?_
      exact replied_permitted owner Reply.result (motion_permitted trivial (uses_executeJointChunk _ _))
  | moveJoint owner params =>
      refine (requireLease_permitted owner).bind fun _ => ?_
      exact replied_permitted owner Reply.result ((uses_attempt params).bind fun p =>
        motion_permitted trivial (uses_moveJoint _ _ _ _))
  | commandGripper owner cmd wait timeout =>
      refine (requireLease_permitted owner).bind fun _ => (uses_attempt cmd).bind fun _ => ?_
      exact replied_permitted owner Reply.finalWidth ((uses_attempt timeout).bind fun _ =>
        uses_commandGripper_of (fun _ steady => steady.quiet.permitted) trivial _ _ _)
  | home owner q params =>
      refine (requireLease_permitted owner).bind fun _ => (uses_attempt q).bind fun _ => ?_
      exact replied_permitted owner (fun _ => Reply.ok) ((uses_attempt params).bind fun p =>
        motion_permitted trivial (uses_home _ _ _))
  | goHomeSafe owner q params =>
      refine (requireLease_permitted owner).bind fun _ => (uses_attempt q).bind fun _ => ?_
      exact replied_permitted owner Reply.result ((uses_attempt params).bind fun p =>
        motion_permitted trivial (uses_goHomeSafe _ _ _ _ _))
  | zeroFtSensor owner =>
      refine (requireLease_permitted owner).bind fun _ => ?_
      exact replied_permitted owner (fun _ => Reply.ok) ((quiet_permitted uses_checkLease).bind fun _ => uses_backend trivial)
  | stop => exact hStop_permitted trivial
  | startServoLoop owner controlHz =>
      have starts : (Request.startServoLoop owner controlHz).StartsLoop := trivial
      exact (requireLease_permitted owner).bind fun _ =>
        (withRobotLock_permitted (installLoop_permitted starts controlHz)).bind fun _ => uses_pure _
  | servoStream owner target =>
      refine (requireLease_permitted owner).bind fun _ => runningLoop_permitted.bind fun loop => ?_
      exact (uses_attempt target).bind fun target => Uses.bind (uses_op trivial) fun answer =>
        (uses_attempt answer).bind fun _ => uses_pure _
  | servoStreamJoint owner q =>
      refine (requireLease_permitted owner).bind fun _ => runningLoop_permitted.bind fun loop => ?_
      exact (uses_attempt q).bind fun q => Uses.bind (uses_op trivial) fun answer =>
        (uses_attempt answer).bind fun _ => uses_pure _
  | stopServoLoop owner =>
      exact (requireLease_permitted owner).bind fun _ => takeLoop_permitted.bind fun taken =>
        (stopTaken_permitted taken).bind fun _ => uses_pure _

theorem handle_calls_permitted {request : Request K} {robot : Robot K}
    {calls : List (Call (effects K))} {q : Program (effects K) (Except Exc (Reply K) × Robot K)}
    (ran : Trace (handle request robot) calls q) : ∀ c ∈ calls, request.Permits c.op :=
  ((handle_permitted request robot).trace ran).1

end FlexivControl
